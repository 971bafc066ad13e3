import Scriptwright.Shell.Utility.Display

/-!
Programs on single bytes: showing them as numbers, comparing them, and spelling them in letters.
-/
namespace Scriptwright.Shell.Utility

structure ByteStyle where
  size : Nat
  width : Nat
  unit : List Char → String

def zeroPadded (width : Nat) (digits : String) : String :=
  String.ofList (List.replicate (width - digits.length) '0') ++ digits

def inBase (base n : Nat) : String := String.ofList (Nat.toDigits base n)

/-- The number that bytes stand for, the lowest first. -/
def unitValue : List Char → Nat
  | [] => 0
  | c :: cs => c.toNat + 256 * unitValue cs

def placesFor (base size : Nat) : Nat := (inBase base (Nat.pow 256 size - 1)).length

def numeric (base size : Nat) (padded : Bool) : ByteStyle :=
  let width := placesFor base size
  ⟨size, width, fun cs =>
    let digits := inBase base (unitValue cs)
    if padded then zeroPadded width digits else digits⟩

def signedUnits (size : Nat) : ByteStyle :=
  ⟨size, placesFor 10 size + if size = 1 then 1 else 0, fun cs =>
    let n := unitValue cs
    let half := Nat.pow 256 size / 2
    if n < half then toString n else toString (Int.ofNat n - Int.ofNat (2 * half))⟩

def charUnits : ByteStyle :=
  ⟨1, 3, fun cs =>
    match cs with
    | [c] =>
      match [('\x00', "\\0"), ('\x07', "\\a"), ('\x08', "\\b"), ('\x0c', "\\f"), ('\n', "\\n"),
          ('\r', "\\r"), ('\t', "\\t"), ('\x0b', "\\v")].lookup c with
      | some text => text
      | none => if ' ' ≤ c && c ≤ '~' then c.toString else zeroPadded 3 (inBase 8 c.toNat)
    | _ => ""⟩

def charNames : List String :=
  ["nul", "soh", "stx", "etx", "eot", "enq", "ack", "bel", "bs", "ht", "nl", "vt", "ff", "cr", "so",
    "si", "dle", "dc1", "dc2", "dc3", "dc4", "nak", "syn", "etb", "can", "em", "sub", "esc", "fs",
    "gs", "rs", "us", "sp"]

def namedUnits : ByteStyle :=
  ⟨1, 3, fun cs =>
    match cs with
    | [c] =>
      let n := c.toNat % 128
      if n = 127 then "del" else (charNames[n]?).getD (Char.ofNat n).toString
    | _ => ""⟩

def styleOf? (text : String) : Option ByteStyle :=
  let sized (make : Nat → ByteStyle) (digits : List Char) (ordinary : Nat) : Option ByteStyle :=
    match digits with
    | [] => some (make ordinary)
    | ['C'] => some (make 1)
    | ['S'] => some (make 2)
    | ['I'] => some (make 4)
    | ['L'] => some (make 8)
    | ds =>
      match (String.ofList ds).toNat? with
      | some n => if [1, 2, 4, 8].contains n then some (make n) else none
      | none => none
  match text.toList with
  | ['c'] => some charUnits
  | ['a'] => some namedUnits
  | 'x' :: ds => sized (fun n => numeric 16 n true) ds 4
  | 'o' :: ds => sized (fun n => numeric 8 n true) ds 4
  | 'u' :: ds => sized (fun n => numeric 10 n false) ds 4
  | 'd' :: ds => sized signedUnits ds 4
  | _ => none

def ByteStyle.row (s : ByteStyle) (perByte : Nat) (cs : List Char) : String :=
  String.join ((chunks s.size (cs.length + 1) cs).map fun unit =>
    padLeft (perByte * s.size) (s.unit unit))

def styles (o : Options) : List ByteStyle :=
  o.given.filterMap fun (letter, value) =>
    match letter with
    | 't' => styleOf? value
    | 'c' => some charUnits
    | 'x' => some (numeric 16 2 true)
    | 'b' => some (numeric 8 1 true)
    | 'd' => some (numeric 10 2 false)
    | 'o' => some (numeric 8 2 true)
    | 'a' => some namedUnits
    | _ => none

/-- All rows with the numbers of their first bytes; repeated rows become a star. -/
def dumpRows (address : Nat → String) (lines : List Char → List String) (every : Bool) :
    Nat → Option (List Char) → Bool → List (List Char) → List String
  | start, _, _, [] => [address start]
  | start, last, starred, cs :: rest =>
    if !every && last = some cs && !rest.isEmpty then
      (if starred then [] else ["*"]) ++
        dumpRows address lines every (start + cs.length) (some cs) true rest
    else
      let opening := address start
      let blank := String.ofList (List.replicate opening.length ' ')
      let shown := (lines cs).zipIdx.map fun (line, k) => (if k = 0 then opening else blank) ++ line
      shown ++ dumpRows address lines every (start + cs.length) (some cs) false rest

def od : Utility :=
  withOptions "od" ⟨"cxbdoav".toList, "AtjNw".toList, [("address-radix", 'A'), ("format", 't'),
      ("skip-bytes", 'j'), ("read-bytes", 'N'), ("output-duplicates", 'v'), ("width", 'w')]⟩ 1
    fun o => do
      let i ← inputs o.operands 1 (ordinary "od")
      let all := (String.join (i.found.map (·.text))).toList
      let skipped := ((o.value? 'j').bind (·.toNat?)).getD 0
      let rest := all.drop skipped
      let cs := match (o.value? 'N').bind (·.toNat?) with
        | some n => rest.take n
        | none => rest
      match (o.values 't').find? fun t => (styleOf? t).isNone with
      | some bad =>
        complain ("od: invalid character '" ++ bad ++ "' in type string " ++ quoted bad)
        return 1
      | none =>
        let styles := if (styles o).isEmpty then [numeric 8 2 true] else styles o
        let perByte := styles.foldl (fun n s => max n ((s.width + 1 + s.size - 1) / s.size)) 0
        let address (n : Nat) : String :=
          match o.value? 'A' with
          | some "n" => ""
          | some "d" => zeroPadded 7 (toString n)
          | some "x" => zeroPadded 6 (inBase 16 n)
          | _ => zeroPadded 7 (inBase 8 n)
        let width := max 1 (((o.value? 'w').bind (·.toNat?)).getD 16)
        let rows := dumpRows address (fun row => styles.map fun s => s.row perByte row) (o.has 'v')
          skipped none false (chunks width (cs.length + 1) cs)
        let rows := if o.value? 'A' = some "n" then rows.dropLast else rows
        say (unlines rows)
        ended i i.status

def firstDifference : Nat → Nat → List Char → List Char → Option (Nat × Nat)
  | _, _, [], _ | _, _, _, [] => none
  | byte, line, a :: as, b :: bs =>
    if a = b then firstDifference (byte + 1) (if a = '\n' then line + 1 else line) as bs
    else some (byte, line)

def cmp : Utility :=
  withOptions "cmp" ⟨"sbl".toList, "in".toList, [("silent", 's'), ("quiet", 's')]⟩ 2 fun o => do
    match o.operands with
    | [] => misused "cmp" "missing operand after 'cmp'" 2
    | one :: rest =>
      let other := rest.headD "-"
      let i ← inputs [one, other] 2 fun path e =>
        if o.has 's' then "" else "cmp: " ++ path ++ ": " ++ plainReason e
      match i.found with
      | [a, b] =>
        match firstDifference 1 1 a.text.toList b.text.toList with
        | some (byte, line) =>
          if !o.has 's' then
            say (one ++ " " ++ other ++ " differ: char " ++ toString byte ++ ", line " ++
              toString line ++ "\n")
          return 1
        | none =>
          if a.text.length = b.text.length then return 0
          let shorter := if a.text.length < b.text.length then a else b
          if !o.has 's' then
            if shorter.text = "" then complain ("cmp: EOF on " ++ shorter.name ++ " which is empty")
            else
              let ends := (shorter.text.toList.filter (· == '\n')).length
              let place := if shorter.text.endsWith "\n" then "line " ++ toString ends
                else "in line " ++ toString (ends + 1)
              complain ("cmp: EOF on " ++ shorter.name ++ " after byte " ++
                toString shorter.text.length ++ ", " ++ place)
          return 1
      | _ => return 2

def digits64 : List Char :=
  "ABCDEFGHIJKLMNOPQRSTUVWXYZabcdefghijklmnopqrstuvwxyz0123456789+/".toList

def digit64 (n : Nat) : Char := (digits64[n % 64]?).getD '='

def encoded64 : List Char → List Char
  | a :: b :: c :: rest =>
    let n := a.toNat * 65536 + b.toNat * 256 + c.toNat
    digit64 (n / 262144) :: digit64 (n / 4096) :: digit64 (n / 64) :: digit64 n :: encoded64 rest
  | [a, b] =>
    let n := a.toNat * 65536 + b.toNat * 256
    [digit64 (n / 262144), digit64 (n / 4096), digit64 (n / 64), '=']
  | [a] =>
    let n := a.toNat * 65536
    [digit64 (n / 262144), digit64 (n / 4096), '=', '=']
  | [] => []

/-- What letters spell, and whether all of them could be read. -/
def decoded64 : List Char → List Char × Bool
  | [] => ([], true)
  | a :: b :: c :: d :: rest =>
    match digits64.idxOf? a, digits64.idxOf? b with
    | some x, some y =>
      let first := Char.ofNat ((x * 4 + y / 16) % 256)
      match digits64.idxOf? c, digits64.idxOf? d with
      | some z, some w =>
        let (more, fine) := decoded64 rest
        (first :: Char.ofNat ((y * 16 + z / 4) % 256) :: Char.ofNat ((z * 64 + w) % 256) :: more, fine)
      | some z, none => ([first, Char.ofNat ((y * 16 + z / 4) % 256)], d = '=' && rest.isEmpty)
      | none, _ => ([first], c = '=' && d = '=' && rest.isEmpty)
    | _, _ => ([], false)
  | _ => ([], false)

def base64 : Utility :=
  withOptions "base64" ⟨"di".toList, "w".toList, [("decode", 'd'), ("wrap", 'w'),
      ("ignore-garbage", 'i')]⟩ 1 fun o => do
    let i ← inputs o.operands 1 (ordinary "base64")
    let text := String.join (i.found.map (·.text))
    if o.has 'd' then
      let (cs, fine) := decoded64 (text.toList.filter (· != '\n'))
      say (String.ofList cs)
      if !fine then
        complain "base64: invalid input"
        return 1
      ended i i.status
    else
      let width := ((o.value? 'w').bind (·.toNat?)).getD 76
      let cs := encoded64 text.toList
      say (if width = 0 then String.ofList cs
        else unlines ((chunks width (cs.length + 1) cs).map String.ofList))
      ended i i.status

end Scriptwright.Shell.Utility

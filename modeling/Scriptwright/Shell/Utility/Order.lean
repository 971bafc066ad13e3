import Scriptwright.Shell.Utility.Count

/-!
Sorting lines, and comparing lines that are sorted.
-/
namespace Scriptwright.Shell.Utility

structure KeyEnd where
  field : Nat
  char : Nat
  skipsBlanks : Bool := false

structure SortKey where
  start : KeyEnd := ⟨1, 1, false⟩
  finish : Option KeyEnd := none
  letters : List Char := []

def behindFields (separator : Option Char) : Nat → List Char → List Char
  | 0, cs => cs
  | n + 1, cs =>
    match separator with
    | some c =>
      match cs.dropWhile (· != c) with
      | [] => []
      | _ :: rest => behindFields separator n rest
    | none => behindFields separator n ((cs.dropWhile isBlank).dropWhile (!isBlank ·))

def KeyEnd.skipped (k : KeyEnd) (cs : List Char) : List Char :=
  if k.skipsBlanks then cs.dropWhile isBlank else cs

def KeyEnd.behind (separator : Option Char) (k : KeyEnd) (line : List Char) : List Char :=
  if k.char ≠ 0 then (k.skipped (behindFields separator (k.field - 1) line)).drop k.char
  else
    match separator with
    | some c => (behindFields separator (k.field - 1) line).dropWhile (· != c)
    | none => behindFields separator k.field line

def SortKey.part (separator : Option Char) (k : SortKey) (line : String) : List Char :=
  let cs := line.toList
  let tail := (k.start.skipped (behindFields separator (k.start.field - 1) cs)).drop
    (k.start.char - 1)
  match k.finish with
  | none => tail
  | some finish => tail.take (tail.length - (finish.behind separator cs).length)

def leadingNumber (cs : List Char) : Int × Nat :=
  let (negative, cs) := match cs.dropWhile isBlank with
    | '-' :: cs => (true, cs)
    | cs => (false, cs)
  let (whole, rest) := cs.span Char.isDigit
  let (part, rest) := match rest with
    | '.' :: rest => rest.span Char.isDigit
    | rest => ([], rest)
  let digits := whole ++ (part ++ List.replicate 30 '0').take 30
  let n := Int.ofNat (((String.ofList digits).toNat?).getD 0)
  let unit := match rest with
    | c :: _ => (("KMGTPEZY".toList.idxOf? c.toUpper).map (· + 1)).getD 0
    | [] => 0
  (if negative then -n else n, if n = 0 then 0 else unit)

def compareText (a b : List Char) : Ordering :=
  if a == b then .eq else if decide (a < b) then .lt else .gt

/-- The text that a key compares, in one case or without some of its characters. -/
def folding (letters : List Char) (cs : List Char) : List Char :=
  let cs := if letters.contains 'd' then cs.filter fun c => c.isAlphanum || isBlank c else cs
  let cs := if letters.contains 'i' then cs.filter fun c => ' ' ≤ c && c ≤ '~' else cs
  if letters.contains 'f' then cs.map Char.toUpper else cs

def SortKey.compare (separator : Option Char) (k : SortKey) (a b : String) : Ordering :=
  let x := k.part separator a
  let y := k.part separator b
  let order :=
    if k.letters.contains 'n' || k.letters.contains 'g' then
      Ord.compare (leadingNumber x).1 (leadingNumber y).1
    else if k.letters.contains 'h' then
      let (n, u) := leadingNumber x
      let (m, v) := leadingNumber y
      if u = v then Ord.compare n m
      else if n < 0 && 0 < m then .lt
      else if m < 0 && 0 < n then .gt
      else Ord.compare u v
    else compareText (folding k.letters x) (folding k.letters y)
  if k.letters.contains 'r' then order.swap else order

inductive KeyFault where
  | start (text : String)
  | zero (text : String)
  | stray (text : String)

def KeyFault.message : KeyFault → String
  | .start text => "invalid number at field start: invalid count at start of '" ++ text ++ "'"
  | .zero text => "field number is zero: invalid field specification '" ++ text ++ "'"
  | .stray text => "stray character in field spec: invalid field specification '" ++ text ++ "'"

def orderLetters : List Char := "bdfghinrMRV".toList

def keyEnd (text : String) (cs : List Char) (char : Nat) :
    Except KeyFault (KeyEnd × List Char × List Char) := do
  let (field, rest) := cs.span Char.isDigit
  if field.isEmpty then throw (.start (String.ofList cs))
  let field := ((String.ofList field).toNat?).getD 0
  if field = 0 then throw (.zero text)
  let (char, rest) := match rest with
    | '.' :: rest =>
      let (ds, rest) := rest.span Char.isDigit
      (((String.ofList ds).toNat?).getD char, rest)
    | rest => (char, rest)
  let (letters, rest) := rest.span orderLetters.contains
  return (⟨field, char, letters.contains 'b'⟩, letters, rest)

def SortKey.ofText (text : String) : Except KeyFault SortKey := do
  let (start, letters, rest) ← keyEnd text text.toList 1
  match rest with
  | [] => return ⟨start, none, letters⟩
  | ',' :: rest =>
    let (finish, more, rest) ← keyEnd text rest 0
    if !rest.isEmpty then throw (.stray text)
    return ⟨start, some finish, letters ++ more⟩
  | _ => throw (.stray text)

/-- How whole lines are ordered: by the keys in turn, then perhaps by all their characters. -/
structure LineOrder where
  separator : Option Char
  keys : List SortKey
  backward : Bool
  onlyKeys : Bool

def LineOrder.byKeys (o : LineOrder) (a b : String) : Ordering :=
  o.keys.foldl (fun found k => found.then (k.compare o.separator a b)) .eq

def LineOrder.compare (o : LineOrder) (a b : String) : Ordering :=
  let rest := if o.onlyKeys then .eq
    else
      let plain := compareText a.toList b.toList
      if o.backward then plain.swap else plain
  (o.byKeys a b).then rest

def merged (same : String → String → Bool) : List String → List String
  | [] => []
  | line :: rest =>
    match merged same rest with
    | next :: others => if same line next then line :: others else line :: next :: others
    | [] => [line]

/-- The first line that should not stand behind the one before it, with its number. -/
def disorder? (bad : String → String → Bool) : Nat → List String → Option (Nat × String)
  | n, a :: b :: rest => if bad a b then some (n + 1, b) else disorder? bad (n + 1) (b :: rest)
  | _, _ => none

def sortFailure (text : String) : Run Nat := do
  complain ("sort: " ++ text)
  return 2

def sortLines (o : Options) (order : LineOrder) : Run Nat := do
  let i ← inputs o.operands 2 fun path e =>
    match e with
    | .isADirectory => ordinary "sort: read failed" path e
    | e => ordinary "sort: cannot read" path e
  if i.status ≠ 0 then return 2
  if i.endless then throw .stuck
  let lines := i.found.flatMap fun x => plainLines x.text
  if o.has 'c' || o.has 'C' then
    let bad (a b : String) : Bool :=
      match order.compare a b with
      | .gt => true
      | .eq => o.has 'u'
      | .lt => false
    match disorder? bad 1 lines with
    | none => return 0
    | some (n, line) =>
      let name := o.operands.headD "-"
      if !o.has 'C' then complain ("sort: " ++ name ++ ":" ++ toString n ++ ": disorder: " ++ line)
      return 1
  else
    let sorted := lines.mergeSort fun a b => order.compare a b != .gt
    let kept := if o.has 'u' then merged (fun a b => order.byKeys a b == .eq) sorted else sorted
    match o.value? 'o' with
    | none =>
      say (unlines kept)
      return 0
    | some path =>
      match (← filesHere).write (pathOf path) (toBytes (unlines kept)) with
      | .ok files =>
        setFiles files
        return 0
      | .error e => sortFailure ("open failed: " ++ path ++ ": " ++ plainReason e)

def sort : Utility :=
  withOptions "sort" ⟨"bdfghiMnRrVcCmsuz".toList, "kotST".toList, [("reverse", 'r'),
      ("unique", 'u'), ("numeric-sort", 'n'), ("ignore-case", 'f'), ("key", 'k'),
      ("field-separator", 't'), ("output", 'o'), ("stable", 's'), ("check", 'c'),
      ("ignore-leading-blanks", 'b'), ("human-numeric-sort", 'h')]⟩ 2 fun o => do
    let general := (o.given.map Prod.fst).filter orderLetters.contains
    match (o.values 'k').mapM SortKey.ofText with
    | .error f => sortFailure f.message
    | .ok keys =>
      let inherit (k : SortKey) : SortKey :=
        if k.letters.isEmpty then
          let b := general.contains 'b'
          { k with letters := general, start := { k.start with skipsBlanks := b },
                   finish := k.finish.map fun f => { f with skipsBlanks := b } }
        else k
      let keys := (if keys.isEmpty && !general.isEmpty then [({} : SortKey)] else keys).map inherit
      match (o.value? 't').map String.toList with
      | some [] => sortFailure "empty tab"
      | some (c :: d :: rest) =>
        if c = '\\' && d = '0' && rest.isEmpty then
          sortLines o ⟨some '\x00', keys, general.contains 'r', o.has 's' || o.has 'u'⟩
        else sortFailure ("multi-character tab '" ++ String.ofList (c :: d :: rest) ++ "'")
      | separator =>
        let whole := keys.isEmpty
        sortLines o ⟨separator.bind List.head?, if whole then [({} : SortKey)] else keys,
          general.contains 'r', o.has 's' || o.has 'u'⟩

def compared (o : Options) (line : String) : List Char :=
  let n (letter : Char) : Option Nat := (o.value? letter).bind (·.toNat?)
  let fields := behindFields none ((n 'f').getD 0) line.toList
  let rest := fields.drop ((n 's').getD 0)
  let rest := match n 'w' with
    | some width => rest.take width
    | none => rest
  if o.has 'i' then rest.map Char.toLower else rest

def runsOf (o : Options) : List String → List (String × List String)
  | [] => []
  | line :: rest =>
    match runsOf o rest with
    | (first, more) :: others =>
      if compared o line == compared o first then (line, first :: more) :: others
      else (line, []) :: (first, more) :: others
    | [] => [(line, [])]

def uniq : Utility :=
  withOptions "uniq" ⟨"cdDuiz".toList, "fsw".toList, [("count", 'c'), ("repeated", 'd'),
      ("unique", 'u'), ("ignore-case", 'i')]⟩ 1 fun o => do
    match o.operands.drop 2 with
    | extra :: _ =>
      misused "uniq" ("extra operand " ++ quoted extra) 1
    | [] =>
      let i ← inputs (o.operands.take 1) 1 (ordinary "uniq")
      if i.status ≠ 0 then return 1
      let runs := runsOf o (i.found.flatMap fun x => plainLines x.text)
      let shown := runs.flatMap fun (line, more) =>
        let opening := if o.has 'c' then padLeft 7 (toString (more.length + 1)) ++ " " else ""
        if o.has 'D' then (if more.isEmpty then [] else line :: more)
        else if (o.has 'd' && more.isEmpty) || (o.has 'u' && !more.isEmpty) then []
        else [opening ++ line]
      match o.operands.drop 1 with
      | path :: _ =>
        match (← filesHere).write (pathOf path) (toBytes (unlines shown)) with
        | .ok files =>
          setFiles files
          return 0
        | .error e =>
          complain (ordinary "uniq" path e)
          return 1
      | [] =>
        say (unlines shown)
        ended i 0

def inColumns : Nat → List String → List String → List (Nat × String)
  | 0, _, _ => []
  | _ + 1, [], ys => ys.map fun y => (2, y)
  | _ + 1, xs, [] => xs.map fun x => (1, x)
  | fuel + 1, x :: xs, y :: ys =>
    match compareText x.toList y.toList with
    | .eq => (3, x) :: inColumns fuel xs ys
    | .lt => (1, x) :: inColumns fuel xs (y :: ys)
    | .gt => (2, y) :: inColumns fuel (x :: xs) ys

def comm : Utility :=
  withOptions "comm" ⟨"123z".toList, [], []⟩ 1 fun o => do
    let usage (text : String) : Run Nat := misused "comm" text 1
    match o.operands with
    | [] => usage "missing operand"
    | [one] => usage ("missing operand after " ++ quoted one)
    | _ :: _ :: extra :: _ => usage ("extra operand " ++ quoted extra)
    | [one, other] =>
      let i ← inputs [one, other] 1 (ordinary "comm")
      match i.found with
      | [a, b] =>
        let xs := plainLines a.text
        let ys := plainLines b.text
        let rows := inColumns (xs.length + ys.length + 1) xs ys
        let hidden (n : Nat) : Bool := o.has (Char.ofNat ('0'.toNat + n))
        let indent (n : Nat) : String :=
          String.ofList (List.replicate (((List.range n).filter fun k => k ≠ 0 && !hidden k).length)
            '\t')
        let after (p q : String) : Bool := compareText p.toList q.toList == .gt
        let unpaired := rows.any fun (n, _) => n ≠ 3
        let bad := [(1, xs), (2, ys)].filter fun (_, ls) => unpaired && (disorder? after 1 ls).isSome
        for (n, _) in bad do complain ("comm: file " ++ toString n ++ " is not in sorted order")
        if !bad.isEmpty then complain "comm: input is not in sorted order"
        say (unlines ((rows.filter fun (n, _) => !hidden n).map fun (n, line) => indent n ++ line))
        return if bad.isEmpty then 0 else 1
      | _ => return 1

end Scriptwright.Shell.Utility

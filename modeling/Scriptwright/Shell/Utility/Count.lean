import Scriptwright.Shell.Format
import Scriptwright.Shell.Utility.Display

/-!
Counting what is in texts, and counting from one number to another.
-/
namespace Scriptwright.Shell.Utility

structure Tally where
  lines : Nat := 0
  words : Nat := 0
  chars : Nat := 0
  longest : Nat := 0

def lineWidth (line : String) : Nat :=
  line.toList.foldl (fun n c => if c = '\t' then n + 8 - n % 8
    else if ' ' ≤ c && c ≤ '~' then n + 1 else n) 0

def Tally.ofText (text : String) : Tally where
  lines := (text.toList.filter (· == '\n')).length
  words := ((Text.splitAt isSpace text.toList).filter (!·.isEmpty)).length
  chars := text.length
  longest := ((plainLines text).map lineWidth).foldl max 0

def Tally.plus (a b : Tally) : Tally :=
  ⟨a.lines + b.lines, a.words + b.words, a.chars + b.chars, max a.longest b.longest⟩

def Tally.numbers (o : Options) (t : Tally) : List Nat :=
  if o.given.isEmpty then [t.lines, t.words, t.chars]
  else
    (if o.has 'l' then [t.lines] else []) ++ (if o.has 'w' then [t.words] else []) ++
      (if o.has 'm' then [t.chars] else []) ++ (if o.has 'c' then [t.chars] else []) ++
      (if o.has 'L' then [t.longest] else [])

def knownSize (path : String) : Run (Option (Option Nat)) := do
  if path = "-" then
    match ← channelOf 0 with
    | some (_, .file place _ _) => return some ((bytesAt (← get).files place).map (·.size))
    | _ => return some none
  else
    match (← filesHere).find (pathOf path) with
    | .ok (.file content _) => return some (some content.size)
    | .ok .directory => return some none
    | .error _ => return if (← device? path).isSome then some none else none

def tallyWidth (o : Options) (paths : List String) : Run Nat := do
  if paths.length = 1 && ((Tally.ofText "").numbers o).length = 1 then return 1
  let sizes ← paths.mapM knownSize
  match sizes with
  | none :: _ => return 1
  | _ =>
    let known := sizes.filterMap id
    let total := (known.filterMap id).foldl (· + ·) 0
    let least := if known.any (·.isNone) then 7 else 1
    return max least (toString total).length

def wc : Utility :=
  withOptions "wc" ⟨"clmwL".toList, [], [("bytes", 'c'), ("lines", 'l'), ("chars", 'm'),
      ("words", 'w'), ("max-line-length", 'L')]⟩ 1 fun o => do
    let paths := if o.operands.isEmpty then ["-"] else o.operands
    let width ← tallyWidth o paths
    let row (t : Tally) (name : String) : String :=
      Text.joinWith " " ((t.numbers o).map fun n => padLeft width (toString n)) ++
        (if name = "" then "" else " " ++ name) ++ "\n"
    let (rows, total, status) ← paths.foldlM (fun (rows, total, status) path => do
      match ← contentOf path with
      | .ok (text, endless) =>
        if endless then throw .stuck
        let t := Tally.ofText text
        return (rows ++ [row t (if o.operands.isEmpty then "" else path)], total.plus t, status)
      | .error e =>
        complain (ordinary "wc" path e)
        let more := match e with
          | .isADirectory => [row {} path]
          | _ => []
        return (rows ++ more, total, 1)) (([], {}, 0) : List String × Tally × Nat)
    say (String.join rows)
    if paths.length > 1 then say (row total "total")
    return status

structure Fixed where
  units : Int
  places : Nat

def Fixed.ofText? (text : String) : Option Fixed :=
  let (negative, cs) := match text.toList with
    | '-' :: cs => (true, cs)
    | '+' :: cs => (false, cs)
    | cs => (false, cs)
  let (whole, rest) := cs.span Char.isDigit
  let (part, rest) := match rest with
    | '.' :: rest => rest.span Char.isDigit
    | rest => ([], rest)
  let n := ((String.ofList (whole ++ part)).toNat?).getD 0
  let signed : Int := if negative then -Int.ofNat n else Int.ofNat n
  if whole.isEmpty && part.isEmpty then none
  else
    match rest with
    | [] => some ⟨signed, part.length⟩
    | 'e' :: ds | 'E' :: ds =>
      match integer? (String.ofList ds) with
      | some (.ofNat e) =>
        if e > 100 then none
        else some ⟨signed * Int.ofNat (Nat.pow 10 (e - part.length)), part.length - e⟩
      | some e => if e < -100 then none else some ⟨signed, part.length + e.natAbs⟩
      | none => none
    | _ => none

def Fixed.unitsAt (x : Fixed) (places : Nat) : Int :=
  x.units * Int.ofNat (Nat.pow 10 (places - x.places))

def Fixed.text (width : Nat) (x : Fixed) : String :=
  let sign := if x.units < 0 then "-" else ""
  let digits := toString x.units.natAbs
  let digits := String.ofList (List.replicate (x.places + 1 - digits.length) '0') ++ digits
  let cut := digits.length - x.places
  let body := String.ofList (digits.toList.take cut) ++
    if x.places = 0 then "" else "." ++ String.ofList (digits.toList.drop cut)
  sign ++ String.ofList (List.replicate (width - (sign ++ body).length) '0') ++ body

def progression (first step last : Int) : List Int :=
  let count := if step = 0 then 0 else (Int.fdiv (last - first) step + 1).toNat
  (List.range count).map fun k => first + step * Int.ofNat k

def isNegativeNumber (word : String) : Bool :=
  match word.toList with
  | '-' :: c :: _ => c.isDigit || c = '.'
  | _ => false

def seqOf (o : Options) (operands : List String) : Run Nat := do
  match operands.find? fun w => (Fixed.ofText? w).isNone with
  | some bad => misused "seq" ("invalid floating point argument: '" ++ bad ++ "'") 1
  | none =>
    let one : Fixed := ⟨1, 0⟩
    let run (first step last : Fixed) : Run Nat := do
      let places := max first.places step.places
      let scale := max places last.places
      let reduced (n : Int) : Fixed := ⟨n / Int.ofNat (Nat.pow 10 (scale - places)), places⟩
      let items := (progression (first.unitsAt scale) (step.unitsAt scale) (last.unitsAt scale)).map
        reduced
      let width := if o.has 'w' then (items.map fun x => (x.text 0).length).foldl max 0 else 0
      let shown (x : Fixed) : String :=
        match o.value? 'f' with
        | some format => (((Format.formatted format.toList 2).run { arguments := [x.text 0] }).2).output
        | none => x.text width
      if !items.isEmpty then
        say (Text.joinWith ((o.value? 's').getD "\n") (items.map shown) ++ "\n")
      return 0
    match operands, operands.filterMap Fixed.ofText? with
    | _, [last] => run one one last
    | _, [first, last] => run first one last
    | words, [first, step, last] =>
      if step.units = 0 then
        misused "seq" ("invalid Zero increment value: '" ++ (words.drop 1).headD "" ++ "'") 1
      else run first step last
    | [], _ => misused "seq" "missing operand" 1
    | words, _ => misused "seq" ("extra operand '" ++ (words.drop 3).headD "" ++ "'") 1

def seq (arguments : List String) : Run Nat :=
  let (front, numbers) := arguments.span (!isNegativeNumber ·)
  withOptions "seq" ⟨"w".toList, "sf".toList, [("equal-width", 'w'), ("separator", 's'),
      ("format", 'f')]⟩ 1 (fun o => seqOf o (o.operands ++ numbers)) front

end Scriptwright.Shell.Utility

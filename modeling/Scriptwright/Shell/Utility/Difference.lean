import Scriptwright.Shell.Utility.Count

/-!
Differences between two texts, line by line.
-/
namespace Scriptwright.Shell.Utility

/-- Lengths of the longest common sequences of a line followed by a list, against all ends of
another list; `below` has them for the list alone. -/
def commonRow (a : String) : List String → List Nat → List Nat
  | b :: bs, low :: lows =>
    let right := commonRow a bs lows
    (if a = b then lows.headD 0 + 1 else max low (right.headD 0)) :: right
  | _, _ => [0]

def commonTable (bs : List String) : List String → List (List Nat)
  | [] => [List.replicate (bs.length + 1) 0]
  | a :: as =>
    let below := commonTable bs as
    commonRow a bs (below.headD []) :: below

structure Hunk where
  first : Nat
  second : Nat
  gone : List String := []
  come : List String := []

def Hunk.isEmpty (h : Hunk) : Bool := h.gone.isEmpty && h.come.isEmpty

/-- The hunks between two lists; the last argument is the one that is being filled. -/
def hunks : Nat → List (List Nat) → Nat → List String → List String → Hunk → List Hunk
  | 0, _, _, _, _, h => [h]
  | fuel + 1, table, skipped, as, bs, h =>
    let done := if h.isEmpty then [] else [h]
    let drop := hunks fuel (table.drop 1) skipped
    match as, bs with
    | [], [] => done
    | a :: as, [] => drop as [] { h with gone := h.gone ++ [a] }
    | [], b :: bs => hunks fuel table (skipped + 1) [] bs { h with come := h.come ++ [b] }
    | a :: as, b :: bs =>
      if a = b then
        let next : Hunk :=
          ⟨h.first + h.gone.length + 1, h.second + h.come.length + 1, [], []⟩
        done ++ hunks fuel (table.drop 1) (skipped + 1) as bs next
      else
        let right := ((table.headD []).drop (skipped + 1)).headD 0
        let down := ((table.drop 1).headD []).drop skipped
        if right ≤ down.headD 0 then drop as (b :: bs) { h with gone := h.gone ++ [a] }
        else hunks fuel table (skipped + 1) (a :: as) bs { h with come := h.come ++ [b] }

def extent (start count : Nat) : String :=
  if count = 0 then toString (start - 1)
  else if count = 1 then toString start
  else toString start ++ "," ++ toString (start + count - 1)

def marked (mark : String) (lines : List String) : String :=
  String.join (lines.map fun line =>
    mark ++ " " ++ line ++ if line.endsWith "\n" then "" else "\n\\ No newline at end of file\n")

def Hunk.text (h : Hunk) : String :=
  let letter := if h.come.isEmpty then "d" else if h.gone.isEmpty then "a" else "c"
  extent h.first h.gone.length ++ letter ++ extent h.second h.come.length ++ "\n" ++
    marked "<" h.gone ++ (if letter = "c" then "---\n" else "") ++ marked ">" h.come

def comparable (o : Options) (line : String) : String :=
  let cs := line.toList
  let cs := if o.has 'i' then cs.map Char.toLower else cs
  let cs := if o.has 'w' then cs.filter (!isBlank ·) else cs
  String.ofList cs

def diff : Utility :=
  withOptions "diff" ⟨"qsiwbBarN".toList, [], [("brief", 'q'), ("report-identical-files", 's'),
      ("ignore-case", 'i'), ("ignore-all-space", 'w')]⟩ 2 fun o => do
    let usage (text : String) : Run Nat := do
      complain ("diff: " ++ text)
      complain "diff: Try 'diff --help' for more information."
      return 2
    match o.operands with
    | [] => usage "missing operand after 'diff'"
    | [one] => usage ("missing operand after " ++ quoted one)
    | _ :: _ :: extra :: _ => usage ("extra operand " ++ quoted extra)
    | [one, other] =>
      let i ← inputs [one, other] 2 (ordinary "diff")
      match i.found with
      | [a, b] =>
        let found := if a.text = b.text then []
          else
            let xs := linesOf a.text
            let ys := linesOf b.text
            let as := xs.map (comparable o)
            let bs := ys.map (comparable o)
            let table := commonTable bs as
            let all := hunks (as.length + bs.length + 2) table 0 as bs ⟨1, 1, [], []⟩
            all.map fun h =>
              { h with gone := (xs.drop (h.first - 1)).take h.gone.length
                       come := (ys.drop (h.second - 1)).take h.come.length }
        if found.isEmpty then
          if o.has 's' then say ("Files " ++ one ++ " and " ++ other ++ " are identical\n")
          return 0
        else if o.has 'q' then
          say ("Files " ++ one ++ " and " ++ other ++ " differ\n")
          return 1
        else
          say (String.join (found.map Hunk.text))
          return 1
      | _ => return 2

end Scriptwright.Shell.Utility

import Scriptwright.Text.Search

/-!
Points in time, and how records write them: in universal time, to the second or with as many
decimals as the moment has.
-/
namespace Scriptwright

/-- A point in time: seconds since the start of 1970, and nanoseconds of the next second. -/
structure Moment where
  seconds : Int
  nanoseconds : Nat := 0
deriving DecidableEq, Repr

namespace Moment

/-- Year, month and day of a day counted from the first of January 1970. The years of this
calculation start in March, so that the leap day comes last; they repeat every 400 years. -/
def date (day : Int) : Int × Nat × Nat :=
  let shifted := day + 719468
  let cycle := shifted / 146097
  let dayOfCycle := (shifted % 146097).toNat
  let yearOfCycle :=
    (dayOfCycle - dayOfCycle / 1460 + dayOfCycle / 36524 - dayOfCycle / 146096) / 365
  let dayOfYear := dayOfCycle - (365 * yearOfCycle + yearOfCycle / 4 - yearOfCycle / 100)
  let monthFromMarch := (5 * dayOfYear + 2) / 153
  let dayOfMonth := dayOfYear - (153 * monthFromMarch + 2) / 5 + 1
  let month := if monthFromMarch < 10 then monthFromMarch + 3 else monthFromMarch - 9
  let year := yearOfCycle + cycle * 400
  (if month ≤ 2 then year + 1 else year, month, dayOfMonth)

/-- At least `width` digits, filled up with zeros. -/
def padded (width n : Nat) : String :=
  let digits := toString n
  String.ofList (List.replicate (width - digits.length) '0') ++ digits

def yearText (year : Int) : String :=
  if 0 ≤ year ∧ year ≤ 9999 then padded 4 year.toNat
  else if 0 ≤ year then "+" ++ padded 4 year.toNat
  else "-" ++ padded 4 year.natAbs

def dateTime (m : Moment) : String :=
  let (year, month, day) := date (m.seconds / 86400)
  let second := (m.seconds % 86400).toNat
  yearText year ++ "-" ++ padded 2 month ++ "-" ++ padded 2 day ++ "T" ++
    padded 2 (second / 3600) ++ ":" ++ padded 2 (second / 60 % 60) ++ ":" ++ padded 2 (second % 60)

def decimals (m : Moment) : String :=
  if m.nanoseconds = 0 then ""
  else if m.nanoseconds % 1000000 = 0 then "." ++ padded 3 (m.nanoseconds / 1000000)
  else if m.nanoseconds % 1000 = 0 then "." ++ padded 6 (m.nanoseconds / 1000)
  else "." ++ padded 9 m.nanoseconds

/-- To the second, as scripts carry it. -/
def stamp (m : Moment) : String := m.dateTime ++ "Z"

/-- With its decimals, as results carry it. -/
def exact (m : Moment) : String := m.dateTime ++ m.decimals ++ "+00:00"

end Moment

end Scriptwright

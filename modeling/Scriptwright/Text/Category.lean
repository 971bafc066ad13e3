import Scriptwright.Text.CategoryTables

/-!
Character classes. Each is a membership test in one or two of the property tables.
-/
namespace Scriptwright.Text

/-- Membership in an ascending list of closed ranges; stops at the first range beyond `n`. -/
def inRanges : List (Nat × Nat) → Nat → Bool
  | [], _ => false
  | (first, last) :: rest, n => if n < first then false else decide (n ≤ last) || inRanges rest n

def isBlank (c : Char) : Bool := inRanges blankRanges c.toNat

def isAlphabetic (c : Char) : Bool := inRanges alphabeticRanges c.toNat

def isAlphanumeric (c : Char) : Bool := isAlphabetic c || inRanges numericRanges c.toNat

def isWordChar (c : Char) : Bool := isAlphabetic c || inRanges wordJoinerRanges c.toNat

def isDecimalDigit (c : Char) : Bool := inRanges digitRanges c.toNat

def isCased (c : Char) : Bool := inRanges casedRanges c.toNat

def isCaseIgnorable (c : Char) : Bool := inRanges caseIgnorableRanges c.toNat

def isGraphemeExtend (c : Char) : Bool := inRanges graphemeExtendRanges c.toNat

def isPrintable (c : Char) : Bool := inRanges printableRanges c.toNat

end Scriptwright.Text

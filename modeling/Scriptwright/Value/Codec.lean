import Scriptwright.Value.Basic

/-!
Reading the parts of records from values. An optional field may be null or absent, a field with a
default may be absent only.
-/
namespace Scriptwright

namespace Value

def asBool? : Value → Option Bool
  | .bool b => some b
  | _ => none

def asNat? : Value → Option Nat
  | .number (.int n) => if Number.isUnsigned n then some n.toNat else none
  | _ => none

def asInt? : Value → Option Int
  | .number (.int n) => if Number.isSigned n then some n else none
  | _ => none

def asFloat? : Value → Option Float
  | .number n => some n.toFloat
  | _ => none

def asEntries? : Value → Option Entries
  | .object entries => some entries
  | _ => none

def asList? {α : Type} (item : Value → Option α) : Value → Option (List α)
  | .array items => items.mapM item
  | _ => none

def asStrings? (v : Value) : Option (List String) := v.asList? asString?

def asTag? : Value → Option String := asString?

def required {α : Type} (key : String) (read : Value → Option α) (v : Value) : Option α :=
  v.field? key >>= read

def withDefault {α : Type} (key : String) (default : α) (read : Value → Option α) (v : Value) :
    Option α :=
  match v.field? key with
  | some w => read w
  | none => some default

def optional {α : Type} (key : String) (read : Value → Option α) (v : Value) :
    Option (Option α) :=
  match v.field? key with
  | none => some none
  | some .null => some none
  | some w => (read w).map some

end Value

/-- An entry that is written only when there is a value. -/
def Entries.ofOption {α : Type} (key : String) (write : α → Value) : Option α → Entries
  | some a => [(key, write a)]
  | none => []

/-- The items that are not yet in `seen`, each once, behind `seen` reversed. -/
def distinctFrom {α : Type} [BEq α] (seen : List α) : List α → List α
  | [] => seen.reverse
  | a :: rest => if seen.contains a then distinctFrom seen rest else distinctFrom (a :: seen) rest

/-- The items in order of first occurrence, without repetitions. -/
def distinct {α : Type} [BEq α] (items : List α) : List α := distinctFrom [] items

theorem distinctFrom_eq {α : Type} [BEq α] (seen items : List α) :
    distinctFrom seen items = List.eraseDupsBy.loop (· == ·) items seen := by
  induction items generalizing seen with
  | nil => rfl
  | cons a items ih =>
    have hany : (seen.any fun b => a == b) = seen.contains a := List.any_beq
    rw [distinctFrom, List.eraseDupsBy.loop, hany, ih, ih]
    cases seen.contains a <;> rfl

theorem distinct_eq_eraseDups {α : Type} [BEq α] (items : List α) :
    distinct items = items.eraseDups :=
  distinctFrom_eq [] items

@[simp] theorem mem_distinct {α : Type} [BEq α] [LawfulBEq α] {items : List α} {a : α} :
    a ∈ distinct items ↔ a ∈ items := by
  rw [distinct_eq_eraseDups, List.mem_eraseDups]

end Scriptwright

/-!
Values of a data document: what requests, templates and answers carry. Objects keep the order in
which their keys were written.
-/
namespace Scriptwright

/-- A number is whole or binary floating point; `1` and `1.0` are different values. -/
inductive Number where
  | int (value : Int)
  | float (value : Float)

namespace Number

/-- Whether 64 bits without a sign hold a whole number. -/
def isUnsigned (n : Int) : Bool := 0 ≤ n && n < 0x10000000000000000

def isSigned (n : Int) : Bool := -0x8000000000000000 ≤ n && n < 0x8000000000000000

def toFloat : Number → Float
  | .int n => if 0 ≤ n then n.toNat.toUInt64.toFloat else -(-n).toNat.toUInt64.toFloat
  | .float x => x

end Number

inductive Value where
  | null
  | bool (value : Bool)
  | number (value : Number)
  | string (value : String)
  | array (items : List Value)
  | object (entries : List (String × Value))

instance : Inhabited Value := ⟨.null⟩

/-- Keyed values in the order of first insertion. -/
abbrev Entries := List (String × Value)

namespace Entries

def get? (entries : Entries) (key : String) : Option Value := List.lookup key entries

theorem get?_nil (key : String) : Entries.get? [] key = none := rfl

theorem get?_cons (entry : String × Value) (entries : Entries) (key : String) :
    Entries.get? (entry :: entries) key =
      if key = entry.1 then some entry.2 else Entries.get? entries key := by
  obtain ⟨k, v⟩ := entry
  by_cases h : key = k
  · rw [get?, List.lookup_cons, beq_iff_eq.mpr h, if_pos h]
  · rw [get?, List.lookup_cons, beq_eq_false_iff_ne.mpr h, if_neg h, get?]

def has (entries : Entries) (key : String) : Bool := (entries.get? key).isSome

/-- Replaces the value at its key, or adds a new key behind the others. -/
def set : Entries → String → Value → Entries
  | [], key, value => [(key, value)]
  | (k, v) :: rest, key, value =>
    if k = key then (k, value) :: rest else (k, v) :: set rest key value

theorem get?_set (entries : Entries) (k : String) (v : Value) (key : String) :
    (entries.set k v).get? key = if key = k then some v else entries.get? key := by
  induction entries with
  | nil => simp [set, get?_cons]
  | cons entry rest ih =>
    by_cases h : entry.1 = k
    · by_cases hk : key = k <;> simp [set, get?_cons, h, hk]
    · by_cases hk : key = entry.1
      · simp [set, get?_cons, h, hk]
      · simp [set, get?_cons, h, hk, ih]

def setAll (entries additions : Entries) : Entries :=
  additions.foldl (fun es (k, v) => es.set k v) entries

def keys (entries : Entries) : List String := entries.map Prod.fst

theorem isSome_get?_iff (entries : Entries) (key : String) :
    (entries.get? key).isSome ↔ key ∈ entries.keys := by
  induction entries with
  | nil => simp [get?_nil, keys]
  | cons entry rest ih =>
    by_cases h : key = entry.1
    · simp [get?_cons, keys, h]
    · rw [get?_cons, if_neg h, ih]
      simp [keys, h]

theorem keys_set (entries : Entries) (k : String) (v : Value) :
    (entries.set k v).keys =
      if k ∈ entries.keys then entries.keys else entries.keys ++ [k] := by
  induction entries with
  | nil => rfl
  | cons entry rest ih =>
    by_cases h : entry.1 = k
    · simp [set, keys, h]
    · have hk : k ≠ entry.1 := fun e => h e.symm
      have hs : Entries.keys (set (entry :: rest) k v) = entry.1 :: (set rest k v).keys := by
        simp [set, keys, h]
      have hc : Entries.keys (entry :: rest) = entry.1 :: Entries.keys rest := rfl
      rw [hs, hc, ih]
      by_cases hm : k ∈ Entries.keys rest <;> simp [hm, hk]

end Entries

namespace Value

def nat (n : Nat) : Value := .number (.int n)

def float (x : Float) : Value := .number (.float x)

def strings (texts : List String) : Value := .array (texts.map .string)

def asString? : Value → Option String
  | .string s => some s
  | _ => none

def field? : Value → String → Option Value
  | .object entries, key => Entries.get? entries key
  | _, _ => none

mutual

/-- Every repeated key of every object merged: the last value at the place of the first. -/
def merged : Value → Value
  | .array items => .array (mergedItems items)
  | .object entries => .object (mergedEntries [] entries)
  | v => v

def mergedItems : List Value → List Value
  | [] => []
  | v :: vs => v.merged :: mergedItems vs

def mergedEntries (done : Entries) : List (String × Value) → Entries
  | [] => done
  | (k, v) :: rest => mergedEntries (done.set k v.merged) rest

end

end Value

end Scriptwright

import Scriptwright.Markup.Tree

/-!
Where names in a template get their values: assignments and loop variables, innermost first, and
then the values the template is rendered with.
-/
namespace Scriptwright.Markup

structure LoopState where
  keyName : Option String
  itemName : String
  key : Value
  item : Value
  index : Nat
  count : Nat

/-- Names bound by one loop, or by the template outside all loops. -/
structure Frame where
  loop : Option LoopState := none
  assigned : Entries := []

structure Scope where
  /-- Innermost first. -/
  frames : List Frame
  context : Entries

/-- A list index: digits without a leading zero. -/
def index? (key : String) : Option Nat :=
  match key.toList with
  | [] => none
  | ['0'] => some 0
  | '0' :: _ => none
  | cs => if cs.all Char.isDigit then key.toNat? else none

def follow? (v : Value) : List String → Option Value
  | [] => some v
  | key :: keys =>
    match v with
    | .object entries => (Entries.get? entries key).bind fun w => follow? w keys
    | .array items => ((index? key).bind fun n => items[n]?).bind fun w => follow? w keys
    | _ => none

namespace LoopState

def get? (l : LoopState) (name : String) (keys : List String) : Option Value :=
  match name, keys with
  | "loop", ["index"] => some (.nat (l.index + 1))
  | "loop", ["index0"] => some (.nat l.index)
  | "loop", ["first"] => some (.bool (l.index = 0))
  | "loop", ["last"] => some (.bool (l.index + 1 = l.count))
  | _, _ =>
    if l.keyName = some name ∧ keys = [] then some l.key
    else if l.itemName = name then follow? l.item keys
    else none

end LoopState

namespace Frame

def get? (f : Frame) (name : String) (keys : List String) : Option Value :=
  match (Entries.get? f.assigned name).bind fun v => follow? v keys with
  | some v => some v
  | none => f.loop.bind fun l => l.get? name keys

end Frame

namespace Scope

def ofContext (context : Entries) : Scope := ⟨[{}], context⟩

def get? (s : Scope) (name : String) (keys : List String) : Option Value :=
  match s.frames.findSome? fun f => f.get? name keys with
  | some v => some v
  | none => (Entries.get? s.context name).bind fun v => follow? v keys

def assign (s : Scope) (name : String) (v : Value) : Scope :=
  match s.frames with
  | [] => s
  | f :: fs => { s with frames := { f with assigned := f.assigned.set name v } :: fs }

def assignOutside (s : Scope) (name : String) (v : Value) : Scope :=
  match s.frames.reverse with
  | [] => s
  | f :: fs =>
    { s with frames := ({ f with assigned := f.assigned.set name v } :: fs).reverse }

def turn (s : Scope) (l : LoopState) : Scope := { s with frames := { loop := some l } :: s.frames }

def around (s : Scope) : Scope := { s with frames := s.frames.tail }

end Scope

end Scriptwright.Markup

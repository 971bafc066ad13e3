import Scriptwright.Value.Basic

/-!
The tables of a TOML text while its lines come in. Each table is opened once: by its own header, or
by the dotted keys that lead into it; a value written whole, such as a table in braces, is closed.
-/
namespace Scriptwright.Document.Toml

/-- How an open table came about, which decides what may still be added to it. -/
inductive Origin where
  | header
  /-- An outer table of a header; a header of its own may follow. -/
  | outer
  | dottedKey
deriving DecidableEq, Repr

def valueAt? : List String → Entries → Option Value
  | [], es => some (.object es)
  | [k], es => es.get? k
  | k :: ks, es =>
    match es.get? k with
    | some (.object inner) => valueAt? ks inner
    | _ => none

def withValueAt (v : Value) : List String → Entries → Entries
  | [], es => es
  | [k], es => es.set k v
  | k :: ks, es =>
    let inner := match es.get? k with
      | some (.object inner) => inner
      | _ => []
    es.set k (.object (withValueAt v ks inner))

structure Tables where
  entries : Entries := []
  /-- The open tables by their paths; the latest origin of a table counts. -/
  origins : List (List String × Origin) := []

namespace Tables

def put (t : Tables) (path : List String) (v : Value) : Tables :=
  { t with entries := withValueAt v path t.entries }

def isVacant (t : Tables) (path : List String) : Bool := (valueAt? path t.entries).isNone

def origin? (t : Tables) (path : List String) : Option Origin := t.origins.lookup path

def opened? (t : Tables) (path : List String) (origin : Origin) : Option Tables :=
  if t.isVacant path then
    some { t.put path (.object []) with origins := (path, origin) :: t.origins }
  else none

/-- Opens the tables on the way from the table `base` that are missing; those that are there pass
the test. -/
def reached? (origin : Origin) (passes : Origin → Bool) (base : List String) :
    List String → Tables → Option Tables
  | [], t => some t
  | k :: ks, t =>
    let path := base ++ [k]
    match t.origin? path with
    | some found => if passes found then reached? origin passes path ks t else none
    | none => do
      let t ← t.opened? path origin
      reached? origin passes path ks t

/-- Sets a key, dotted perhaps, in the table `base`. A dotted key leads only into tables that dotted
keys opened. -/
def assigned? (t : Tables) (base key : List String) (v : Value) : Option Tables := do
  let outer := key.dropLast
  let t ← reached? .dottedKey (· ≠ .header) base outer t
  if outer ≠ [] ∧ t.origin? (base ++ outer) ≠ some .dottedKey then none
  if t.isVacant (base ++ key) then some (t.put (base ++ key) v) else none

def headed? (t : Tables) (path : List String) : Option Tables := do
  let t ← reached? .outer (fun _ => true) [] path.dropLast t
  match t.origin? path with
  | some .outer => some { t with origins := (path, .header) :: t.origins }
  | some _ => none
  | none => t.opened? path .header

end Tables

end Scriptwright.Document.Toml

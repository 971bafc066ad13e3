/-!
What a reader expects at a place of a document. A record has named fields, may also be written as
the list of its field values where a format allows that, and passes over fields it does not know; a
free place takes any value.
-/
namespace Scriptwright

inductive Shape where
  | free
  | text
  /-- One of several names. -/
  | choice
  | truth
  /-- A whole number of 64 bits without sign. -/
  | natural
  | number
  | optional (shape : Shape)
  /-- A field with a default: the list form of a record may end before it. -/
  | defaulted (shape : Shape)
  | list (item : Shape)
  /-- Free values under keys of their own choice. -/
  | entries
  /-- Records under keys of their own choice; a key may come several times. -/
  | entriesOf (item : Shape)
  | record (fields : List (String × Shape))
  /-- A record in which an unknown field is an error. -/
  | closedRecord (fields : List (String × Shape))

def Shape.isDefaulted : Shape → Bool
  | .defaulted _ => true
  | _ => false

end Scriptwright

/-!
Finding and cutting at fixed pieces of text.
-/
namespace Scriptwright.Text

/-- Whether `needle` stands somewhere in the text. -/
def occursIn (needle : List Char) : List Char → Bool
  | [] => needle.isEmpty
  | c :: cs => needle.isPrefixOf (c :: cs) || occursIn needle cs

def mentions (text : List Char) (needle : String) : Bool := occursIn needle.toList text

def hasPart (text needle : String) : Bool := occursIn needle.toList text.toList

def beginsWith (text opening : String) : Bool := opening.toList.isPrefixOf text.toList

def finishesWith (text ending : String) : Bool := ending.toList.isSuffixOf text.toList

/-- What follows `opening`, if the text begins with it. -/
def dropOpening? (opening : List Char) : List Char → Option (List Char)
  | cs => if opening.isPrefixOf cs then some (cs.drop opening.length) else none

/-- One character put in front of the pieces between separators. -/
def splitStep (sep : Char → Bool) (c : Char) : List (List Char) → List (List Char)
  | [] => if sep c then [[], []] else [[c]]
  | piece :: pieces => if sep c then [] :: piece :: pieces else (c :: piece) :: pieces

/-- The pieces between separators, empty ones included; the empty text is one empty piece. -/
def splitAt (sep : Char → Bool) (cs : List Char) : List (List Char) := cs.foldr (splitStep sep) [[]]

/-- The text before and after the last occurrence of `c`. -/
def splitLast? (c : Char) (cs : List Char) : Option (List Char × List Char) :=
  match cs.reverse.span (· != c) with
  | (_, []) => none
  | (after, _ :: before) => some (before.reverse, after.reverse)

def joinWith (sep : String) (parts : List String) : String := String.intercalate sep parts

def byteLength (cs : List Char) : Nat := cs.foldl (fun n c => n + c.utf8Size) 0

end Scriptwright.Text

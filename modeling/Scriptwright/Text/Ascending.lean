/-!
Texts in ascending order, each once. Order is by code point, which is also the order of the bytes.
-/
namespace Scriptwright.Text

def addAscending (text : String) : List String → List String
  | [] => [text]
  | t :: ts =>
    if text < t then text :: t :: ts
    else if text = t then t :: ts
    else t :: addAscending text ts

/-- The texts in ascending order, without repetitions. -/
def ascending (texts : List String) : List String := texts.foldr addAscending []

end Scriptwright.Text

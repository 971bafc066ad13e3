import Scriptwright.Markup.Tree
import Scriptwright.Text.Words

/-!
Blanks beside dashes. A dash in a delimiter removes the blanks of the text next to it, on its side.
In a loop the body is trimmed by the dashes of the first and the last tag, and what stands for an
empty container is left as it is.
-/
namespace Scriptwright.Markup

def trimmedText (left right : Bool) (content : List Char) : List Char :=
  let cs := if left then Text.trimStart content else content
  if right then Text.trimEnd cs else cs

namespace Node

def dashBefore : Node → Bool
  | text _ => false
  | raw dashes _ _ | comment dashes | output dashes _ | assign dashes _ _ _
  | branch dashes _ _ _ | loop dashes _ _ _ _ _ _ | filtered dashes _ _ _ _
  | skip dashes | leave dashes => dashes.before

end Node

def Alternative.dashBefore : Alternative → Bool
  | finish dashes | elif dashes _ _ _ | otherwise dashes _ _ => dashes.before

def Alternative.dashAfter : Alternative → Bool
  | finish dashes => dashes.after
  | elif _ _ _ rest => rest.dashAfter
  | otherwise _ _ closing => closing.after

def Node.dashAfter : Node → Bool
  | text _ => false
  | comment dashes | output dashes _ | assign dashes _ _ _ | skip dashes | leave dashes =>
    dashes.after
  | raw _ _ closing | loop _ _ _ _ _ _ closing | filtered _ _ _ _ closing => closing.after
  | branch _ _ _ rest => rest.dashAfter

mutual

def Node.trimmed : Node → Node
  | .raw opening content closing =>
    .raw opening (trimmedText opening.after closing.before content) closing
  | .branch dashes condition yes rest =>
    .branch dashes condition (trimmedBody dashes.after rest.dashBefore yes) rest.trimmed
  | .loop opening key item container body empty closing =>
    .loop opening key item container (trimmedBody opening.after closing.before body) empty closing
  | .filtered opening filter arguments body closing =>
    .filtered opening filter arguments (trimmedBody opening.after closing.before body) closing
  | node => node

def Alternative.trimmed : Alternative → Alternative
  | .finish dashes => .finish dashes
  | .elif dashes condition yes rest =>
    .elif dashes condition (trimmedBody dashes.after rest.dashBefore yes) rest.trimmed
  | .otherwise dashes no closing =>
    .otherwise dashes (trimmedBody dashes.after closing.before no) closing

def trimmedBody (left right : Bool) : List Node → List Node
  | [] => []
  | .text content :: rest =>
    let right := match rest with
      | [] => right
      | next :: _ => next.dashBefore
    .text (trimmedText left right content) :: trimmedBody false right rest
  | node :: rest => node.trimmed :: trimmedBody node.dashAfter right rest

end

end Scriptwright.Markup

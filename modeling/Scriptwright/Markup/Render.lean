import Scriptwright.Markup.Evaluation
import Scriptwright.Markup.Reader

/-!
Rendering template bodies. Assignments reach what follows them, and a turn of a loop sees its own.
-/
namespace Scriptwright.Markup

def containerName? : Operand → Option String
  | .variable path => some path.text
  | .call function _ => some function
  | .array _ => some "an array literal"
  | _ => none

def turns (container : String) (key : Option String) (v : Value) :
    Except Failure (List (Value × Value)) :=
  match v, key with
  | .array items, none => .ok (items.map fun v => (.null, v))
  | .string s, none => .ok (s.toList.map fun c => (.null, .string c.toString))
  | .array _, some _ | .string _, some _ => .error (.keyWithoutObject container)
  | .object entries, some _ => .ok (entries.map fun (k, v) => (.string k, v))
  | .object _, none => .error (.objectWithoutKey container)
  | _, _ => .error (.notIterable container)

def loopStates (key : Option String) (item : String) (pairs : List (Value × Value)) :
    List LoopState :=
  pairs.zipIdx.map fun ((k, v), i) => ⟨key, item, k, v, i, pairs.length⟩

/-- How a body goes on behind a node: with the next node, or at the end of its loop's turn, or at
the end of its loop. -/
inductive Course where
  | onward
  | skip
  | leave

/-- What rendering has come to: the text so far, the scope of what follows, and how it goes on. -/
structure Progress where
  text : String
  scope : Scope
  course : Course := .onward

/-- One turn of a loop, unless an earlier one has left it. -/
def turnOnce (body : Scope → Except Failure Progress) (done : Progress) (state : LoopState) :
    Except Failure Progress :=
  match done.course with
  | .leave => .ok done
  | _ => do
    let p ← body (done.scope.turn state)
    return ⟨done.text ++ p.text, p.scope.around, p.course⟩

def requireLoop (scope : Scope) (word : String) (course : Course) : Except Failure Progress :=
  match scope.frames with
  | { loop := some _, .. } :: _ => .ok ⟨"", scope, course⟩
  | _ => .error (.outsideLoop word)

mutual

def renderNode (setting : Setting) (scope : Scope) : Node → Except Failure Progress
  | .text content | .raw _ content _ => .ok ⟨String.ofList content, scope, .onward⟩
  | .comment _ => .ok ⟨"", scope, .onward⟩
  | .output _ e => do
    let v ← (e.meaning setting scope).value setting.escaping
    return ⟨v.display, scope, .onward⟩
  | .assign _ everywhere name e => do
    let v ← (e.meaning setting scope).value false
    return ⟨"", if everywhere then scope.assignOutside name v else scope.assign name v, .onward⟩
  | .branch _ condition yes rest => do
    if ← (condition.meaning setting scope).truth setting.escaping then
      renderNodes setting scope yes
    else renderAlternative setting scope rest
  | .loop _ key item container body empty _ => do
    let name ← match containerName? container.operand with
      | some name => .ok name
      | none => .error (.anonymousContainer container.operand)
    let v ← (container.meaning setting scope).value false
    match ← turns name key v with
    | [] => renderNodes setting scope empty
    | pairs =>
      let p ← (loopStates key item pairs).foldlM
        (turnOnce fun scope => renderNodes setting scope body) ⟨"", scope, .onward⟩
      return { p with course := .onward }
  | .filtered _ filter arguments body _ => do
    let p ← renderNodes setting scope body
    if filter = "safe" then return p
    else
      let v ← applyFilter filter (.string p.text) (argumentValues setting p.scope arguments)
      return { p with text := v.display }
  | .skip _ => requireLoop scope "continue" .skip
  | .leave _ => requireLoop scope "break" .leave

def renderAlternative (setting : Setting) (scope : Scope) : Alternative → Except Failure Progress
  | .finish _ => .ok ⟨"", scope, .onward⟩
  | .elif _ condition yes rest => do
    if ← (condition.meaning setting scope).truth setting.escaping then
      renderNodes setting scope yes
    else renderAlternative setting scope rest
  | .otherwise _ no _ => renderNodes setting scope no

def renderNodes (setting : Setting) (scope : Scope) : List Node → Except Failure Progress
  | [] => .ok ⟨"", scope, .onward⟩
  | node :: nodes => do
    let p ← renderNode setting scope node
    match p.course with
    | .onward =>
      let q ← renderNodes setting p.scope nodes
      return { q with text := p.text ++ q.text }
    | _ => return p

end

def markupEndings : List String := [".html", ".htm", ".xml"]

def render (name : String) (body : List Node) (values : Entries) : Except Failure String :=
  let setting := ⟨name, markupEndings.any (Text.finishesWith name)⟩
  (renderNodes setting (.ofContext values) body).map (·.text)

end Scriptwright.Markup

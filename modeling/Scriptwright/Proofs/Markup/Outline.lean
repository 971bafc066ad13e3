import Scriptwright.Markup.Render

/-!
Template bodies that only show values, in a simple form. Such a body is a list of parts, and what
it renders to is a function of what the names in it are bound to: no part changes a binding, and
nothing depends on more of a value than the part shows. The built-in templates are of this kind.
-/
namespace Scriptwright.Markup

inductive Style where
  | plain
  | indented (width : Nat)
  | shellWord
  | literal
  | className
  | joined (separator : List Char)
deriving DecidableEq, Repr

inductive Part where
  | text (content : List Char)
  | shown (name : String) (style : Style)
  | banner
  | colors
  /-- Import statements for the libraries under a name. -/
  | imports (name : String)
  /-- The check for the commands under a name. -/
  | commandCheck (name : String)
  /-- A body for a value that counts as true. -/
  | whenTrue (name : String) (body : List Part)
  /-- A body for every item of a container. -/
  | each (item container : String) (body : List Part)

abbrev Lookup := String → Option Value

/-- What names are bound to in one turn of a loop. -/
def Lookup.turn (r : Lookup) (item : String) (v : Value) : Lookup :=
  fun name => if name = item then some v else r name

/-- What a scope binds names to, no steps behind them. -/
def Scope.toLookup (s : Scope) : Lookup := fun name => s.get? name []

namespace Style

def ofFilter? (filter : String) (arguments : ExprArguments) : Option Style :=
  match filter, arguments with
  | "indent_block", [("width", .mk (.int width) false [])] =>
    if Number.isUnsigned width then some (.indented width.toNat) else none
  | "shell_quote", [] => some .shellWord
  | "py_string", [] => some .literal
  | "identifier", [] => some .className
  | "join", [("sep", .mk (.text separator) false [])] =>
    some (.joined (unescapedSeparator separator.toList))
  | _, _ => none

def ofFilters? : List (String × ExprArguments) → Option Style
  | [] => some .plain
  | [(filter, arguments)] => ofFilter? filter arguments
  | _ => none

/-- The text that shows a value, unless the style is for values of another kind. -/
def show? : Style → Value → Option (List Char)
  | .plain, v => some v.display.toList
  | .indented width, .string s => some (Script.indentBlockChars width s.toList)
  | .shellWord, .string s => some (Script.shellQuoteChars s.toList)
  | .literal, .string s => some (jsonString s).toList
  | .className, .string s => some (Script.classNameChars s.toList)
  | .joined separator, .array items =>
    some (List.intercalate separator (items.map (·.display.toList)))
  | _, _ => none

end Style

def texts? (v : Value) : Option (List String) :=
  match v with
  | .null => some []
  | .array items => items.mapM Value.asString?
  | _ => none

def items? : Value → Option (List Value)
  | .array items => some items
  | .string s => some (s.toList.map fun c => .string c.toString)
  | _ => none

def Expr.name? : Expr → Option String
  | .mk (.variable (.mk _ name [])) false [] => some name
  | _ => none

def Expr.part? : Expr → Option Part
  | .mk (.variable (.mk _ name [])) false filters => (Style.ofFilters? filters).map (.shown name)
  | .mk (.call function arguments) false [] =>
    match function, arguments with
    | "signature", [] => some .banner
    | "neon_colors", [] => some .colors
    | "python_imports", [("libraries", e)] => e.name?.map .imports
    | "bash_dependencies", [("commands", e)] => e.name?.map .commandCheck
    | _, _ => none
  | _ => none

mutual

def Node.part? : Node → Option Part
  | .text content => some (.text content)
  | .output _ e => e.part?
  | .branch _ condition yes (.finish _) => do
    let name ← condition.name?
    let body ← outline? yes
    return .whenTrue name body
  | .loop _ none item container body [] _ => do
    let name ← container.name?
    let body ← outline? body
    return .each item name body
  | _ => none

/-- The parts of a body, if it is of the simple form. -/
def outline? : List Node → Option (List Part)
  | [] => some []
  | node :: nodes => do
    let part ← node.part?
    let parts ← outline? nodes
    return part :: parts

end

mutual

def Part.write (r : Lookup) : Part → Option (List Char)
  | .text content => some content
  | .shown name style => (r name).bind style.show?
  | .banner => some Signature.current.banner.toList
  | .colors => some Script.terminalColors.toList
  | .imports name => ((r name).bind texts?).map fun ls => (Script.pythonImports ls).toList
  | .commandCheck name => ((r name).bind texts?).map fun cs => (Script.dependencyCheck cs).toList
  | .whenTrue name body => if (r name).any Value.isTruthy then writeAll r body else some []
  | .each item container body => do
    let items ← (r container).bind items?
    let turns ← items.mapM fun v => writeAll (r.turn item v) body
    return turns.flatten

/-- The text of parts one behind the other, unless some value does not fit its part. -/
def writeAll (r : Lookup) : List Part → Option (List Char)
  | [] => some []
  | part :: parts => do
    let text ← part.write r
    let rest ← writeAll r parts
    return text ++ rest

end

theorem writeAll_append (r : Lookup) (ps qs : List Part) :
    writeAll r (ps ++ qs) = do
      let text ← writeAll r ps
      let rest ← writeAll r qs
      return text ++ rest := by
  induction ps with
  | nil => simp [writeAll]
  | cons p ps ih =>
    rw [List.cons_append, writeAll, writeAll, ih]
    cases p.write r <;> cases writeAll r ps <;> cases writeAll r qs <;> simp

end Scriptwright.Markup

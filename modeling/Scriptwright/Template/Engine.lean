import Scriptwright.Advice
import Scriptwright.Health
import Scriptwright.Markup.Render
import Scriptwright.Template.Bindings
import Scriptwright.Template.Catalog

/-!
Scripts from templates. An engine holds a catalog and hands the texts of its templates to a
renderer, which keeps them in compiled form. Templates can be added later, also in place of others.
-/
namespace Scriptwright

/-- What compiles templates, keeps them under their names and renders them. A template may name
others, so rendering has the whole store at hand; and it may ask for what no caller passes in, such
as a random number or the environment, which stands under `Outside`. -/
structure Renderer where
  Body : Type
  Store : Type
  Outside : Type
  empty : Store
  /-- Outside circumstances where nobody cares for them. -/
  quiet : Outside
  parse? : (name source : String) → Option Body
  /-- The body extends no other template and takes no macros from one. It may include others. -/
  StandsAlone : Body → Prop
  body? : Store → (name : String) → Option Body
  /-- Whether a source is taken, and what the store is then, which may change in any case. -/
  add : Store → (name source : String) → Except String Unit × Store
  render : Outside → Store → (name : String) → Entries → Except String String

namespace Markup

structure CompiledTemplate where
  name : String
  body : List Node

def storedBody? (store : List CompiledTemplate) (name : String) : Option (List Node) :=
  (store.find? (·.name = name)).map (·.body)

def add (store : List CompiledTemplate) (name source : String) :
    Except String Unit × List CompiledTemplate :=
  match parse? source with
  | some body => (.ok (), ⟨name, body⟩ :: store.filter (·.name ≠ name))
  | none => (.error "malformed template", store)

def renderStored (store : List CompiledTemplate) (name : String) (values : Entries) :
    Except String String :=
  match storedBody? store name with
  | none => .error ("Template '" ++ name ++ "' not found")
  | some body => (render name body values).mapError fun cause =>
    "Failed to render '" ++ name ++ "': " ++ cause.message

/-- The renderer of markup, which has nothing that reaches beyond a template and its values. -/
def renderer : Renderer where
  Body := List Node
  Store := List CompiledTemplate
  Outside := Unit
  empty := []
  quiet := ()
  parse? _ := parse?
  StandsAlone _ := True
  body? := storedBody?
  add := add
  render _ := renderStored

end Markup

structure Engine (R : Renderer := Markup.renderer) where
  catalog : Catalog
  store : R.Store

structure RenderedScript where
  code : String
  template : String
  dependencies : List String
  findings : Template.Findings

namespace Engine

variable {R : Renderer}

def compile (R : Renderer) (store : R.Store) (t : Template) :
    Except GenerationError Unit × R.Store :=
  let added := R.add store t.name t.content
  (added.1.mapError (.templateRegistration t.name), added.2)

/-- The store with the templates added one after the other, if none is refused. -/
def compileAll (R : Renderer) (store : R.Store) : List Template → Except GenerationError R.Store
  | [] => .ok store
  | t :: ts =>
    let compiled := compile R store t
    match compiled.1 with
    | .ok _ => compileAll R compiled.2 ts
    | .error cause => .error cause

/-- An engine for a catalog that covers every language and has only well-formed templates. -/
def ofCatalog (catalog : Catalog) (R : Renderer := Markup.renderer) :
    Except GenerationError (Engine R) := do
  catalog.checkCoverage
  let store ← compileAll R R.empty catalog.templates
  return ⟨catalog, store⟩

/-- Adds a template, or replaces the one of its name. A refused one stays out of the catalog. -/
def tryRegister (e : Engine R) (t : Template) : Except GenerationError Unit × Engine R :=
  let compiled := compile R e.store t
  match compiled.1 with
  | .ok _ => (.ok (), ⟨e.catalog.insert t, compiled.2⟩)
  | .error cause => (.error cause, ⟨e.catalog, compiled.2⟩)

def register (e : Engine R) (t : Template) : Except GenerationError (Engine R) :=
  (e.tryRegister t).1.map fun _ => (e.tryRegister t).2

def body? (e : Engine R) (name : String) : Option R.Body := R.body? e.store name

def select (e : Engine R) (language : Language) (primary : IntentCategory) :
    Except GenerationError Template :=
  e.catalog.select language (Category.ofIntent primary)

def renderTemplate (e : Engine R) (t : Template) (bindings : Entries)
    (outside : R.Outside := R.quiet) : Except GenerationError String :=
  (R.render outside e.store t.name bindings).mapError (.templateRender t.name)

def render (e : Engine R) (now : Moment) (language : Language) (a : Analysis)
    (overrides : Entries) (outside : R.Outside := R.quiet) :
    Except GenerationError RenderedScript := do
  let t ← e.select language a.intent.primary
  let bindings := t.bindings now language a overrides
  match t.missingVariables bindings with
  | [] =>
    let dependencies := t.dependencies bindings
    let code ← e.renderTemplate t (bindings.set "dependencies" (.strings dependencies)) outside
    return ⟨code, t.name, dependencies, t.lint code⟩
  | missing => throw (.missingVariables t.name missing)

def healthDetails (c : Catalog) : Value :=
  .object [("total", .nat c.size), ("compliant", .nat c.compliantCount),
    ("languages", .array (c.languages.map (·.toValue))), ("categories", .strings c.categories)]

def health (e : Engine R) (now : Moment) : ComponentHealth :=
  let details := some (healthDetails e.catalog)
  if e.catalog.size = 0 then
    .unhealthy now "templates" "no templates registered" details
  else
    match e.catalog.checkCoverage with
    | .ok _ => .healthy now "templates" details
    | .error cause => .unhealthy now "templates" cause.message details

end Engine

end Scriptwright

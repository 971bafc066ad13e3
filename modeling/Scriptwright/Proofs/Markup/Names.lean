import Scriptwright.Markup.Render

/-!
The names in a template body. What a body renders to, or why it fails, depends only on the values
that the names standing in it are bound to: scopes that agree on them cannot be told apart.
-/
namespace Scriptwright.Markup

mutual

def Step.names : Step → List String
  | .named path => path.names
  | .key _ | .index _ | .quoted _ => []

/-- The name a path starts with, and those in its brackets. -/
def Path.names : Path → List String
  | .mk _ name steps => name :: stepNames steps

def stepNames : List Step → List String
  | [] => []
  | step :: steps => step.names ++ stepNames steps

end

mutual

def Operand.names : Operand → List String
  | .text _ | .int _ | .float _ | .bool _ => []
  | .variable path => path.names
  | .call _ arguments => argumentNames arguments
  | .array items => exprNames items
  | .joined parts => operandNames parts
  | .arithmetic _ left right | .comparison _ left right | .connected _ left right =>
    left.names ++ right.names
  | .contained _ item container => item.names ++ container.names
  | .test _ path _ arguments => path.names ++ exprNames arguments

def Expr.names : Expr → List String
  | .mk operand _ filters => operand.names ++ filterNames filters

def operandNames : List Operand → List String
  | [] => []
  | part :: parts => part.names ++ operandNames parts

def exprNames : List Expr → List String
  | [] => []
  | e :: es => e.names ++ exprNames es

def argumentNames : List (String × Expr) → List String
  | [] => []
  | (_, e) :: rest => e.names ++ argumentNames rest

def filterNames : List (String × List (String × Expr)) → List String
  | [] => []
  | (_, arguments) :: rest => argumentNames arguments ++ filterNames rest

end

mutual

def Node.names : Node → List String
  | .text _ | .raw _ _ _ | .comment _ | .skip _ | .leave _ => []
  | .output _ e | .assign _ _ _ e => e.names
  | .branch _ condition yes rest => condition.names ++ nodeNames yes ++ rest.names
  | .loop _ _ _ container body empty _ => container.names ++ nodeNames body ++ nodeNames empty
  | .filtered _ _ arguments body _ => argumentNames arguments ++ nodeNames body

def Alternative.names : Alternative → List String
  | .finish _ => []
  | .elif _ condition yes rest => condition.names ++ nodeNames yes ++ rest.names
  | .otherwise _ no _ => nodeNames no

def nodeNames : List Node → List String
  | [] => []
  | node :: nodes => node.names ++ nodeNames nodes

end

/-- Scopes with the same assignments and loops that bind some names to the same values outside. -/
structure Scope.Agree (names : List String) (s s' : Scope) : Prop where
  frames : s.frames = s'.frames
  context : ∀ name ∈ names, Entries.get? s.context name = Entries.get? s'.context name

namespace Scope.Agree

variable {names : List String} {s s' : Scope} (h : s.Agree names s')
include h

theorem get? {name : String} (hname : name ∈ names) (keys : List String) :
    s.get? name keys = s'.get? name keys := by
  unfold Scope.get?
  rw [h.frames, h.context name hname]

theorem assign (name : String) (v : Value) : (s.assign name v).Agree names (s'.assign name v) := by
  unfold Scope.assign
  rw [← h.frames]
  cases s.frames with
  | nil => exact h
  | cons f fs => exact ⟨rfl, h.context⟩

theorem assignOutside (name : String) (v : Value) :
    (s.assignOutside name v).Agree names (s'.assignOutside name v) := by
  unfold Scope.assignOutside
  rw [← h.frames]
  cases s.frames.reverse with
  | nil => exact h
  | cons f fs => exact ⟨rfl, h.context⟩

theorem turn (l : LoopState) : (s.turn l).Agree names (s'.turn l) :=
  ⟨congrArg (_ :: ·) h.frames, h.context⟩

theorem around : s.around.Agree names s'.around := ⟨congrArg List.tail h.frames, h.context⟩

end Scope.Agree

section Evaluation

variable {names : List String} {s s' : Scope} (setting : Setting)

mutual

theorem stepKeys_congr (h : s.Agree names s') (whole : String) :
    (steps : List Step) → stepNames steps ⊆ names →
      stepKeys setting s whole steps = stepKeys setting s' whole steps
  | [], _ => rfl
  | step :: steps, hnames => by
    obtain ⟨hstep, hsteps⟩ := List.append_subset.mp hnames
    rw [stepKeys, stepKeys, stepKey_congr h whole step hstep, stepKeys_congr h whole steps hsteps]

theorem stepKey_congr (h : s.Agree names s') (whole : String) :
    (step : Step) → step.names ⊆ names →
      stepKey setting s whole step = stepKey setting s' whole step
  | .key _, _ | .index _, _ | .quoted _, _ => rfl
  | .named path, hnames => by
    rw [stepKey, stepKey, lookup_congr h path hnames]

theorem lookup_congr (h : s.Agree names s') :
    (path : Path) → path.names ⊆ names → lookup setting s path = lookup setting s' path
  | .mk text name steps, hnames => by
    obtain ⟨hname, hsteps⟩ := List.cons_subset.mp hnames
    simp only [lookup, stepKeys_congr h text steps hsteps, h.get? hname]

end

mutual

theorem Operand.meaning_congr (h : s.Agree names s') :
    (operand : Operand) → operand.names ⊆ names →
      operand.meaning setting s = operand.meaning setting s'
  | .text _, _ | .int _, _ | .float _, _ | .bool _, _ => rfl
  | .variable path, hnames => by
    rw [Operand.meaning, Operand.meaning, lookup_congr setting h path hnames]
  | .call function arguments, hnames => by
    rw [Operand.meaning, Operand.meaning, argumentValues_congr h arguments hnames]
  | .array items, hnames => by
    simp only [Operand.meaning, exprValues_congr h _ items hnames]
  | .joined parts, hnames => by
    rw [Operand.meaning, Operand.meaning, joinedTexts_congr h parts hnames]
  | .arithmetic op left right, hnames => by
    obtain ⟨hleft, hright⟩ := List.append_subset.mp hnames
    rw [Operand.meaning, Operand.meaning, Expr.meaning_congr h left hleft,
      Expr.meaning_congr h right hright]
  | .comparison op left right, hnames => by
    obtain ⟨hleft, hright⟩ := List.append_subset.mp hnames
    rw [Operand.meaning, Operand.meaning, Expr.meaning_congr h left hleft,
      Expr.meaning_congr h right hright]
  | .connected op left right, hnames => by
    obtain ⟨hleft, hright⟩ := List.append_subset.mp hnames
    rw [Operand.meaning, Operand.meaning, Expr.meaning_congr h left hleft,
      Expr.meaning_congr h right hright]
  | .contained negated item container, hnames => by
    obtain ⟨hitem, hcontainer⟩ := List.append_subset.mp hnames
    rw [Operand.meaning, Operand.meaning, Expr.meaning_congr h item hitem,
      Expr.meaning_congr h container hcontainer]
  | .test negated path question arguments, hnames => by
    obtain ⟨hpath, harguments⟩ := List.append_subset.mp hnames
    rw [Operand.meaning, Operand.meaning, lookup_congr setting h path hpath,
      exprValues_congr h false arguments harguments]

theorem Expr.meaning_congr (h : s.Agree names s') :
    (e : Expr) → e.names ⊆ names → e.meaning setting s = e.meaning setting s'
  | .mk operand negated filters, hnames => by
    obtain ⟨hoperand, hfilters⟩ := List.append_subset.mp hnames
    rw [Expr.meaning, Expr.meaning, Operand.meaning_congr h operand hoperand,
      defaultValue_congr h filters hfilters]
    congr 1
    funext v
    exact filterValue_congr h filters v hfilters

theorem joinedTexts_congr (h : s.Agree names s') :
    (parts : List Operand) → operandNames parts ⊆ names →
      joinedTexts setting s parts = joinedTexts setting s' parts
  | [], _ => rfl
  | part :: parts, hnames => by
    obtain ⟨hpart, hparts⟩ := List.append_subset.mp hnames
    have hrest := joinedTexts_congr h parts hparts
    cases part with
    | call function arguments =>
      simp only [joinedTexts, argumentValues_congr h arguments hpart, hrest]
    | «variable» path => simp only [joinedTexts, lookup_congr setting h path hpart, hrest]
    | _ => simp only [joinedTexts, hrest]

theorem exprValues_congr (h : s.Agree names s') (escaping : Bool) :
    (es : List Expr) → exprNames es ⊆ names →
      exprValues setting s escaping es = exprValues setting s' escaping es
  | [], _ => rfl
  | e :: es, hnames => by
    obtain ⟨he, hes⟩ := List.append_subset.mp hnames
    rw [exprValues, exprValues, Expr.meaning_congr h e he, exprValues_congr h escaping es hes]

theorem argumentValues_congr (h : s.Agree names s') :
    (arguments : List (String × Expr)) → argumentNames arguments ⊆ names →
      argumentValues setting s arguments = argumentValues setting s' arguments
  | [], _ => rfl
  | (_, e) :: rest, hnames => by
    obtain ⟨he, hrest⟩ := List.append_subset.mp hnames
    rw [argumentValues, argumentValues, Expr.meaning_congr h e he,
      argumentValues_congr h rest hrest]

theorem filterValue_congr (h : s.Agree names s') :
    (filters : List (String × List (String × Expr))) → (v : Value) → filterNames filters ⊆ names →
      filterValue setting s filters v = filterValue setting s' filters v
  | [], _, _ => rfl
  | (filter, arguments) :: rest, v, hnames => by
    obtain ⟨harguments, hrest⟩ := List.append_subset.mp hnames
    have hlater := fun w => filterValue_congr h rest w hrest
    simp only [filterValue, argumentValues_congr h arguments harguments, hlater]

theorem defaultValue_congr (h : s.Agree names s') :
    (filters : List (String × List (String × Expr))) → filterNames filters ⊆ names →
      defaultValue setting s filters = defaultValue setting s' filters
  | [], _ => rfl
  | (filter, arguments) :: rest, hnames => by
    have harguments := (List.append_subset.mp hnames).1
    unfold defaultValue
    split
    · rename_i arguments' rest' hfilters
      cases hfilters
      congr 1
      funext escaping
      exact defaultArgument_congr h arguments escaping harguments
    · rfl

theorem defaultArgument_congr (h : s.Agree names s') :
    (arguments : List (String × Expr)) → (escaping : Bool) → argumentNames arguments ⊆ names →
      defaultArgument setting s arguments escaping = defaultArgument setting s' arguments escaping
  | [], _, _ => rfl
  | (name, e) :: rest, escaping, hnames => by
    obtain ⟨he, hrest⟩ := List.append_subset.mp hnames
    rw [defaultArgument, defaultArgument, Expr.meaning_congr h e he,
      defaultArgument_congr h rest escaping hrest]

end

end Evaluation

end Scriptwright.Markup

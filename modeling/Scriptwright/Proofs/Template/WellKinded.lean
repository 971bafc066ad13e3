import Scriptwright.Proofs.Template.Builtin
import Scriptwright.Proofs.Text.Lines

/-!
Bindings of the declared kinds. A caller who binds the variables that a built-in template declares
to values of their kinds, or leaves them alone, gets a script, whatever else is bound. Nothing is to
be said against the structure of the script, for what makes it up stands in the template itself.
-/
namespace Scriptwright.Template

open Markup

/-- The values of a kind; a list is a list of strings. -/
def VariableKind.Admits : VariableKind → Value → Prop
  | .string, v => ∃ s, v = .string s
  | .array, v => ∃ ss, v = .strings ss
  | .boolean, v => ∃ b, v = .bool b
  | .object, v => ∃ entries, v = .object entries

/-- Whatever a caller binds declared variables to is of their kinds. -/
def WellKinded (t : Template) (overrides : Entries) : Prop :=
  ∀ v ∈ t.parameters, ∀ value, (v.name, value) ∈ overrides → v.kind.Admits value

def VariableKind.slot? : VariableKind → Option Slot
  | .string => some (.text none)
  | .array => some (.texts none)
  | .boolean | .object => none

theorem VariableKind.holds_of_admits {k : VariableKind} {slot : Slot} (h : k.slot? = some slot)
    {v : Value} (hv : k.Admits v) : slot.Holds v := by
  have hany : ∀ cs, Among none cs := fun _ _ h => by cases h
  cases k with
  | string =>
    obtain rfl := Option.some.inj h
    obtain ⟨s, rfl⟩ := hv
    exact ⟨s, rfl, hany _⟩
  | array =>
    obtain rfl := Option.some.inj h
    obtain ⟨ss, rfl⟩ := hv
    exact ⟨ss, rfl, fun _ _ => hany _⟩
  | boolean => cases h
  | object => cases h

/-- Declared variables have slots by their kinds. The engine binds the dependencies itself, and the
complexity is bound to something. -/
def declaredSlots (t : Template) : Slots := fun name =>
  if name = "dependencies" then some (.texts none)
  else if name = "complexity" then some .anything
  else (t.parameters.find? (·.name = name)).bind (·.kind.slot?)

def landmarks : Language → List String
  | .python => [Signature.mark, "def main():", "if __name__ == \"__main__\":"]
  | .bash => [Signature.mark]

def shebang : String := "#!"

def safeguard : Language → String
  | .python => "try:"
  | .bash => "set -e"

def isStructured (language : Language) (form : Form) : Bool :=
  form.begins shebang.toList &&
    (safeguard language :: landmarks language).all fun s => form.contains s.toList

variable {t : Template} {language : Language} {form : Form} {text : List Char}

theorem not_blank_of_begins (h : form.begins shebang.toList = true) (htext : form.Admits text) :
    Text.isBlankText text = false := by
  have hopening := Form.prefix_of_begins h htext
  have hmem : '#' ∈ text := hopening.subset (by decide)
  exact (Text.isBlankText_eq_false_iff text).mpr ⟨'#', hmem, by decide⟩

theorem structureWarnings_of_landmarks {code : String}
    (hshebang : Text.beginsWith code shebang = true)
    (hmarks : ∀ s ∈ landmarks language, Text.hasPart code s = true) :
    structureWarnings language code = [] := by
  cases language with
  | python =>
    have hmain := hmarks "def main():" (by decide)
    have hguard := hmarks "if __name__ == \"__main__\":" (by decide)
    simp [structureWarnings, adviseIf, hmain, hguard]
  | bash =>
    have hopening : Text.beginsWith code "#!" = true := hshebang
    simp [structureWarnings, adviseIf, hopening]

theorem lint_of_isStructured (h : isStructured t.language form = true)
    (htext : form.Admits text) : t.lint (String.ofList text) = {} := by
  unfold isStructured at h
  rw [Bool.and_eq_true, List.all_eq_true] at h
  have hshebang : Text.beginsWith (String.ofList text) shebang = true := by
    rw [Text.beginsWith_iff, String.toList_ofList]
    exact Form.prefix_of_begins h.1 htext
  have hparts : ∀ s ∈ safeguard t.language :: landmarks t.language,
      Text.hasPart (String.ofList text) s = true := by
    intro s hs
    rw [Text.hasPart_iff, String.toList_ofList]
    exact Form.infix_of_contains (h.2 s hs) htext
  have hmark : Text.hasPart (String.ofList text) Signature.mark = true := by
    apply hparts
    cases t.language <;> simp [landmarks]
  have hwarnings : structureWarnings t.language (String.ofList text) = [] :=
    structureWarnings_of_landmarks hshebang fun s hs => hparts s (List.mem_cons_of_mem _ hs)
  have hsuggestions : structureSuggestions t.language (String.ofList text) = [] := by
    have hguard := hparts _ List.mem_cons_self
    cases hlanguage : t.language <;> rw [hlanguage] at hguard <;>
      simp [structureSuggestions, adviseIf, safeguard] at hguard ⊢ <;> exact hguard
  unfold lint
  rw [String.toList_ofList, not_blank_of_begins h.1 htext]
  simp [adviseIf, hmark, hwarnings, hsuggestions]

theorem ne_empty_of_lint {code : String} (h : t.lint code = {}) : code ≠ "" := by
  rintro rfl
  have herrors := congrArg Findings.errors h
  simp [lint, Text.isBlankText] at herrors

theorem wellKinded_nil (t : Template) : t.WellKinded [] := fun _ _ _ h => by cases h

namespace Builtin

theorem declared_isStructured {t : Template} (h : t ∈ all) :
    (t.outline?.bind (formAll? t.declaredSlots)).any (isStructured t.language) := by
  refine forall_all (P := fun t =>
    (t.outline?.bind (formAll? t.declaredSlots)).any (isStructured t.language))
    ?_ ?_ ?_ ?_ ?_ ?_ ?_ h <;>
  · rw [outline?_of_source rfl (by repeat constructor)]
    decide +kernel

theorem declaredSlots_hold {t : Template} (ht : t ∈ all) {a : Analysis} (h : t.Suits a)
    (now : Moment) (language : Language) {overrides : Entries} (hkinds : t.WellKinded overrides) :
    t.declaredSlots.Hold (t.scope now language a overrides).get? := by
  intro name slot hslot
  unfold declaredSlots at hslot
  rw [get?_scope]
  split at hslot
  · rename_i hname
    obtain rfl := Option.some.inj hslot
    exact ⟨_, if_pos hname, _, rfl, fun _ _ _ h => by cases h⟩
  · rename_i hname
    rw [if_neg hname]
    split at hslot
    · rename_i hcomplexity
      obtain rfl := Option.some.inj hslot
      have hmem : (name, false) ∈ boundNames t.category := by
        simp [boundNames, commonNames, hcomplexity]
      have hhas := has_bindings now language h hmem hname overrides
      obtain ⟨v, hv⟩ := Option.isSome_iff_exists.mp hhas
      exact ⟨v, hv, trivial⟩
    · obtain ⟨v, hfind, hkind⟩ := Option.bind_eq_some_iff.mp hslot
      have hv : v ∈ t.parameters := List.mem_of_find?_eq_some hfind
      obtain rfl : v.name = name := by simpa using List.find?_some hfind
      cases hover : Entries.get? overrides.reverse v.name with
      | some value =>
        obtain ⟨front, rest, hsplit, _⟩ := List.lookup_eq_some_iff.mp hover
        have hmem : (v.name, value) ∈ overrides := by
          rw [← List.mem_reverse, hsplit]
          simp
        rw [get?_bindings, hover]
        exact ⟨value, rfl, VariableKind.holds_of_admits hkind (hkinds v hv value hmem)⟩
      | none =>
        refine ⟨ownValue language a v.name, ?_, ?_⟩ <;>
        rcases (parameters_bound ht v hv).2 with ⟨hbound, hstring⟩ | ⟨hbound, harray⟩
        · exact get?_bindings_own h hbound hname hover
        · exact get?_bindings_own h hbound hname hover
        · rw [hstring] at hkind
          obtain rfl := Option.some.inj hkind
          exact ownValue_holds language a hbound hname
        · rw [harray] at hkind
          obtain rfl := Option.some.inj hkind
          exact ownValue_holds language a hbound hname

/-- What is written with bindings of the declared kinds has the structure of a script. -/
theorem lint_of_write (ht : t ∈ all) {a : Analysis} (h : t.Suits a) {now : Moment}
    {overrides : Entries} (hkinds : t.WellKinded overrides) {parts : List Part}
    (hparts : t.outline? = some parts)
    (hwrite : writeAll (t.scope now language a overrides).get? parts = some text) :
    t.lint (String.ofList text) = {} := by
  obtain ⟨form, hform, hstructured⟩ := (Option.any_eq_true _ _).mp (declared_isStructured ht)
  rw [hparts, Option.bind_some] at hform
  obtain ⟨_, hwritten, hadmits⟩ :=
    exists_writeAll parts (declaredSlots_hold ht h now language hkinds) hform
  obtain rfl := Option.some.inj (hwrite.symm.trans hwritten)
  exact lint_of_isStructured hstructured hadmits

theorem exists_render_of_wellKinded {c : Catalog} {e : Engine} (he : Engine.ofCatalog c = .ok e)
    {t : Template} (hmem : t ∈ all) {language : Language} {a : Analysis}
    (ht : c.select language (Category.ofIntent a.intent.primary) = .ok t) {overrides : Entries}
    (hkinds : t.WellKinded overrides) (now : Moment) :
    ∃ parts text, t.outline? = some parts ∧
      writeAll (t.scope now language a overrides).get? parts = some text ∧
      e.render now language a overrides =
        .ok ⟨String.ofList text, t.name, t.dependencies (t.bindings now language a overrides),
          t.lint (String.ofList text)⟩ := by
  obtain ⟨form, hform, -⟩ := (Option.any_eq_true _ _).mp (declared_isStructured hmem)
  have hhold := declaredSlots_hold hmem (suits_of_select ht) now language hkinds
  obtain ⟨parts, text, hparts, -, hwrite, hrender⟩ := exists_render_of_mem he hmem ht hform hhold
  exact ⟨parts, text, hparts, hwrite, hrender⟩

end Builtin

/-- For every analysis there is a template, and with bindings of its declared kinds it is rendered
to a script without findings. -/
theorem render_of_wellKinded {e : Engine} (he : Engine.ofCatalog Catalog.builtin = .ok e)
    (now : Moment) (language : Language) (a : Analysis) :
    ∃ t, e.select language a.intent.primary = .ok t ∧
      ∀ overrides : Entries, t.WellKinded overrides →
        ∃ r, e.render now language a overrides = .ok r ∧ r.template = t.name ∧
          r.findings.errors = [] ∧ r.findings.warnings = [] ∧ r.findings.suggestions = [] := by
  obtain ⟨t, ht⟩ := Catalog.exists_select_of_covers (Builtin.covers language)
    (Category.ofIntent a.intent.primary)
  have hselect : e.select language a.intent.primary = .ok t := by
    rw [Engine.select, (Engine.ofCatalog_spec he).2.1, ht]
  refine ⟨t, hselect, fun overrides hkinds => ?_⟩
  have hbuiltin := Builtin.mem_of_select ht
  obtain ⟨parts, text, hparts, hwrite, hrender⟩ :=
    Builtin.exists_render_of_wellKinded he hbuiltin ht hkinds now
  have hlint := Builtin.lint_of_write hbuiltin (suits_of_select ht) hkinds hparts hwrite
  exact ⟨_, hrender, rfl, by rw [hlint], by rw [hlint], by rw [hlint]⟩

def windowAnalysis : Analysis where
  intent := ⟨.guiApplication, [], [], []⟩
  entities := []
  complexity := .simple
  confidence := 0.5
  suggestedLanguage := .python
  requirements := {}

/-- A list in place of the complexity, which is not declared. -/
def windowBindings : Entries :=
  [("complexity", .array [.null]), ("features", .strings ["menu", "\"quotes\""]),
    ("app_name", .string ""), ("timestamp", .bool true)]

theorem window_renders : ∃ e, Engine.ofCatalog Catalog.builtin = .ok e ∧
    Builtin.Python.gui.WellKinded windowBindings ∧
    ∃ r, e.render ⟨0, 0⟩ .python windowAnalysis windowBindings = .ok r ∧
      r.template = "python_gui" ∧ r.findings.errors = [] ∧ r.findings.warnings = [] ∧
      r.findings.suggestions = [] := by
  obtain ⟨e, he⟩ := Builtin.exists_engine
  obtain ⟨t, ht, hrender⟩ := render_of_wellKinded he ⟨0, 0⟩ .python windowAnalysis
  have hgui : e.select .python windowAnalysis.intent.primary = .ok Builtin.Python.gui := by
    rw [Engine.select, (Engine.ofCatalog_spec he).2.1]
    exact Builtin.select_eq (t := Builtin.Python.gui) (by simp [Builtin.all])
  obtain rfl := Except.ok.inj (hgui.symm.trans ht)
  have hkinds : Builtin.Python.gui.WellKinded windowBindings := by
    intro v hv value hmem
    simp only [windowBindings, List.mem_cons, Prod.mk.injEq, List.not_mem_nil, or_false] at hmem
    simp only [Builtin.Python.gui, List.mem_cons, List.not_mem_nil, or_false] at hv
    rcases hv with rfl | rfl | rfl | rfl | rfl <;>
      simp [Builtin.descriptionVariable, Builtin.importsVariable, Builtin.mainLogicVariable,
        Variable.needed, Variable.withDefault] at hmem
    · exact ⟨"", hmem⟩
    · exact ⟨_, hmem⟩
  exact ⟨e, he, hkinds, hrender windowBindings hkinds⟩

end Scriptwright.Template

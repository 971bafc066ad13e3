import Scriptwright.Proofs.Document.ReadBack
import Scriptwright.Template.Basic

/-!
Template definitions written as values and read again. A null default is written like any other,
and is read as no default at all; everything else comes back as it was.
-/
namespace Scriptwright.Template

open Document

variable {levels : Nat}

theorem VariableKind.ofValue?_toValue (k : VariableKind) : ofValue? k.toValue = some k :=
  ofTag?_tag k

namespace Variable

/-- The variable without a default that is null. -/
def settled (v : Variable) : Variable :=
  match v.default with
  | some .null => { v with default := none }
  | _ => v

def IsKeyed (v : Variable) : Prop := ∀ d, v.default = some d → d.IsKeyed

theorem readAs_settled {v : Variable} (h : v.IsKeyed) :
    ReadAs (levels + 4) shape v.toValue (some v.settled.toValue) := by
  obtain ⟨name, kind, required, default, description⟩ := v
  have hbehind : FieldsRead (levels + 3) [("description", .defaulted .text)]
      [("description", .string description)] [("description", .string description)] :=
    .kept (fits_text _).defaulted .nil
  have hkept (d : Value) (hkeyed : d.IsKeyed) (hnull : d ≠ .null) :
      FieldsRead (levels + 3)
        [("default", .defaulted (.optional .free)), ("description", .defaulted .text)]
        [("default", d), ("description", .string description)]
        [("default", d), ("description", .string description)] :=
    .kept ((fits_free hkeyed).optional hnull).defaulted hbehind
  cases default with
  | none =>
    exact .record (by decide) (.kept (fits_text _) (.kept (fits_choice _)
      (.kept (fits_truth _).defaulted (.omitted hbehind))))
  | some d =>
    cases d with
    | null =>
      exact .record (by decide) (.kept (fits_text _) (.kept (fits_choice _)
        (.kept (fits_truth _).defaulted (.dropped readAs_optional_null.defaulted hbehind))))
    | _ =>
      exact .record (by decide) (.kept (fits_text _) (.kept (fits_choice _)
        (.kept (fits_truth _).defaulted (hkept _ (h _ rfl) (by simp)))))

theorem ofValue?_toValue (v : Variable) : ofValue? v.toValue = some v := by
  obtain ⟨name, kind, required, default, description⟩ := v
  cases default <;>
    simp [ofValue?, toValue, Value.required, Value.withDefault, Value.field?, Entries.ofOption,
      Entries.get?_cons, Entries.get?_nil, Value.asString?, Value.asBool?,
      VariableKind.ofValue?_toValue]

theorem name_settled (v : Variable) : v.settled.name = v.name := by
  unfold settled
  split <;> rfl

theorem required_settled (v : Variable) : v.settled.required = v.required := by
  unfold settled
  split <;> rfl

theorem settled_eq_self_iff {v : Variable} : v.settled = v ↔ v.default ≠ some .null := by
  obtain ⟨name, kind, required, default, description⟩ := v
  unfold settled
  split <;> simp_all

end Variable

def settled (t : Template) : Template := { t with parameters := t.parameters.map Variable.settled }

/-- No key stands twice in a default, at any depth. -/
def IsKeyed (t : Template) : Prop := ∀ v ∈ t.parameters, v.IsKeyed

theorem readAs_settled {t : Template} (h : t.IsKeyed) :
    ReadAs (levels + 7) shape t.toValue (some t.settled.toValue) := by
  have hparameters : ReadAs (levels + 5) (.list Variable.shape)
      (.array (t.parameters.map (·.toValue)))
      (some (.array (t.parameters.map fun v => v.settled.toValue))) :=
    ReadAs.list fun v hv => Variable.readAs_settled (h v hv)
  have hsettled : t.settled.parameters.map (·.toValue) =
      t.parameters.map fun v => v.settled.toValue := List.map_map
  rw [← hsettled] at hparameters
  exact .record (by decide)
    (.kept (fits_text _) (.kept (fits_choice _) (.kept (fits_text _)
      (.kept (fits_text _).defaulted (.kept (fits_text _) (.kept hparameters.defaulted
        (.kept (fits_strings _).defaulted (.kept (fits_truth _).defaulted .nil))))))))

theorem ofValue?_toValue (t : Template) : ofValue? t.toValue = some t := by
  have hparameters := @Value.asList?_map _ _ _ t.parameters fun v _ => v.ofValue?_toValue
  have hlanguage : Language.ofValue? t.language.toValue = some t.language :=
    Language.ofTag?_tag t.language
  simp [ofValue?, toValue, Value.required, Value.withDefault, Value.field?, Entries.get?_cons,
    Value.asString?, Value.asBool?, Value.asStrings?_strings, hparameters, hlanguage]

theorem decode?_toValue {t : Template} (h : t.IsKeyed) :
    decode? shape ofValue? t.toValue = some t.settled := by
  have hread : ReadAs 16 shape t.toValue (some t.settled.toValue) := readAs_settled h
  rw [decode?_of_readAs hread, ofValue?_toValue]

theorem settled_eq_self_iff {t : Template} :
    t.settled = t ↔ ∀ v ∈ t.parameters, v.default ≠ some .null := by
  have hparameters : t.parameters.map Variable.settled = t.parameters ↔
      ∀ v ∈ t.parameters, v.settled = v := by
    rw [← List.map_inj_left, List.map_id']
  simp only [Variable.settled_eq_self_iff] at hparameters
  rw [← hparameters]
  obtain ⟨name, language, category, description, content, parameters, requirements, compliant⟩ := t
  simp [settled]

theorem missingVariables_settled (t : Template) (bindings : Entries) :
    t.settled.missingVariables bindings = t.missingVariables bindings := by
  unfold missingVariables settled
  induction t.parameters with
  | nil => rfl
  | cons v vs ih =>
    rw [List.map_cons, List.filter_cons, List.filter_cons, Variable.name_settled,
      Variable.required_settled]
    split
    · rw [List.map_cons, List.map_cons, ih, Variable.name_settled]
    · exact ih

def probe (default : Value) : Template where
  name := "probe"
  language := .bash
  category := Category.basic
  description := ""
  content := "echo hi"
  parameters := [.withDefault "x" .string default ""]
  requirements := []
  compliant := false

theorem isKeyed_probe_iff (default : Value) : (probe default).IsKeyed ↔ default.IsKeyed := by
  simp [probe, IsKeyed, Variable.IsKeyed, Variable.withDefault]

/-- A definition loses its null defaults on the way, and nothing else; so it is read back as it was
exactly if it has none. Which variables are missing does not change. -/
theorem definition_read_back_iff (t : Template) (h : t.IsKeyed) :
    decode? shape ofValue? t.toValue = some t.settled ∧
      (decode? shape ofValue? t.toValue = some t ↔ ∀ v ∈ t.parameters, v.default ≠ some .null) ∧
      ∀ bindings, t.settled.missingVariables bindings = t.missingVariables bindings := by
  have hread := decode?_toValue h
  refine ⟨hread, ?_, t.missingVariables_settled⟩
  rw [hread, Option.some.injEq]
  exact settled_eq_self_iff

/-- Null inside a list or an object is kept; it is lost only as the whole default. -/
theorem nested_nulls_read_back :
    let t := probe (.array [.null, .object [("y", .null)]])
    t.IsKeyed ∧ decode? shape ofValue? t.toValue = some t := by
  intro t
  have hkeyed : t.IsKeyed := by
    rw [isKeyed_probe_iff]
    simp [Value.IsKeyed, Value.ItemsKeyed, Value.EntriesKeyed, Entries.keys]
  refine ⟨hkeyed, (definition_read_back_iff t hkeyed).2.1.mpr ?_⟩
  simp [t, probe, Variable.withDefault]

/-- An optional variable with a null default is read back as one without a default. -/
theorem null_default_lost :
    let t := probe .null
    t.IsKeyed ∧ decode? shape ofValue? t.toValue ≠ some t := by
  intro t
  have hkeyed : t.IsKeyed := by
    rw [isKeyed_probe_iff]
    simp [Value.IsKeyed]
  refine ⟨hkeyed, ?_⟩
  rw [decode?_toValue hkeyed, Ne, Option.some.injEq, settled_eq_self_iff]
  simp [t, probe, Variable.withDefault]

end Scriptwright.Template

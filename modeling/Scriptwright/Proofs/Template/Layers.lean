import Mathlib.Data.List.Induction
import Scriptwright.Proofs.Template.Missing

/-!
The layers of bindings. A name keeps the place where the first layer put it and has the value that
the last layer gave it, and each name is bound once.
-/
namespace Scriptwright

namespace Entries

variable {entries additions : Entries} {key : String}

theorem get?_eq_none (h : key ∉ entries.keys) : entries.get? key = none := by
  rw [← isSome_get?_iff] at h
  simpa using h

theorem get?_reverse (entries : Entries) (key : String) :
    Entries.get? entries.reverse key =
      ((entries.filter (·.1 = key)).map Prod.snd).getLast? := by
  induction entries using List.reverseRecOn with
  | nil => rfl
  | append_singleton entries entry ih =>
    rw [List.reverse_concat, get?_cons, ih, List.filter_append]
    by_cases h : entry.1 = key
    · simp [h]
    · simp [h, Ne.symm h]

theorem get?_reverse_of_nodup (h : entries.keys.Nodup) (key : String) :
    Entries.get? entries.reverse key = entries.get? key := by
  induction entries with
  | nil => rfl
  | cons entry rest ih =>
    obtain ⟨hentry, hrest⟩ := List.nodup_cons.mp h
    rw [List.reverse_cons, get?_append, ih hrest, get?_cons, get?_cons, get?_nil]
    by_cases hkey : key = entry.1
    · rw [if_pos hkey, hkey, get?_eq_none hentry, if_pos rfl, Option.none_or]
    · rw [if_neg hkey, if_neg hkey, Option.or_none]

theorem nodup_keys_set (h : entries.keys.Nodup) (k : String) (v : Value) :
    (entries.set k v).keys.Nodup := by
  rw [keys_set]
  split
  · exact h
  · rename_i hk
    rw [List.nodup_append_comm]
    exact List.nodup_cons.mpr ⟨hk, h⟩

theorem nodup_keys_setAll (h : entries.keys.Nodup) (additions : Entries) :
    (entries.setAll additions).keys.Nodup := by
  induction additions generalizing entries with
  | nil => exact h
  | cons addition additions ih => exact ih (nodup_keys_set h addition.1 addition.2)

theorem setAll_append (entries xs ys : Entries) :
    entries.setAll (xs ++ ys) = (entries.setAll xs).setAll ys :=
  List.foldl_append

theorem keys_append (xs ys : Entries) : Entries.keys (xs ++ ys) = xs.keys ++ ys.keys :=
  List.map_append

theorem keys_setAll_nil (additions : Entries) :
    (Entries.setAll [] additions).keys = additions.keys.eraseDups := by
  induction additions using List.reverseRecOn with
  | nil => rfl
  | append_singleton additions addition ih =>
    obtain ⟨k, v⟩ := addition
    have hstep : Entries.setAll [] (additions ++ [(k, v)]) =
        (Entries.setAll [] additions).set k v := setAll_append _ _ _
    have hlast : Entries.keys [(k, v)] = [k] := rfl
    rw [hstep, keys_set, keys_append, hlast, List.eraseDups_append, ih]
    by_cases hk : k ∈ Entries.keys additions <;> simp [List.removeAll, List.eraseDups_cons, hk]

end Entries

namespace Template

variable (t : Template) (now : Moment) (language : Language) (a : Analysis)

/-- The last default that the template declares for a name. -/
def lastDefault? (name : String) : Option Value :=
  ((t.parameters.filter (·.name = name)).filterMap (·.default)).getLast?

theorem get?_reverse_defaults (name : String) :
    Entries.get? t.defaults.reverse name = t.lastDefault? name := by
  rw [Entries.get?_reverse, lastDefault?]
  congr 1
  unfold defaults
  induction t.parameters with
  | nil => rfl
  | cons v vs ih =>
    cases hdefault : v.default with
    | none => by_cases hname : v.name = name <;> simp [hdefault, hname, ih]
    | some value => by_cases hname : v.name = name <;> simp [hdefault, hname, ih]

theorem nodup_keys_analysisBindings : (analysisBindings now language a).keys.Nodup := by
  have hnames : Entries.keys (analysisBindings now language a) = analysisNames := rfl
  rw [hnames]
  decide

theorem nodup_keys_kindBindings (primary : IntentCategory) :
    (kindBindings primary).keys.Nodup := by
  cases primary <;> decide

/-- The value that the last of the four layers gives a name. -/
def layered? (overrides : Entries) (name : String) : Option Value :=
  (overrides.get? name).or
    (((kindBindings a.intent.primary).get? name).or
      (((analysisBindings now language a).get? name).or (t.lastDefault? name)))

variable {overrides : Entries}

theorem get?_bindings_eq_layered (h : overrides.keys.Nodup) (name : String) :
    (t.bindings now language a overrides).get? name =
      t.layered? now language a overrides name := by
  rw [get?_bindings, get?_reverse_defaults, Entries.get?_reverse_of_nodup h,
    Entries.get?_reverse_of_nodup (nodup_keys_kindBindings a.intent.primary),
    Entries.get?_reverse_of_nodup (nodup_keys_analysisBindings now language a)]
  rfl

theorem bindings_eq_setAll :
    t.bindings now language a overrides = Entries.setAll [] (t.defaults ++
      analysisBindings now language a ++ kindBindings a.intent.primary ++ overrides) := by
  unfold bindings
  simp only [List.foldl_cons, List.foldl_nil, Entries.setAll_append]

theorem keys_bindings :
    (t.bindings now language a overrides).keys = (t.givenNames a overrides).eraseDups := by
  rw [bindings_eq_setAll, Entries.keys_setAll_nil]
  simp only [Entries.keys_append]
  rfl

theorem nodup_keys_bindings : (t.bindings now language a overrides).keys.Nodup := by
  have hempty : (Entries.keys []).Nodup := List.nodup_nil
  rw [bindings_eq_setAll]
  exact Entries.nodup_keys_setAll hempty _

/-- The bindings of a template have each name once, at the place where the first layer has it and
with the value that the last layer gives it. Another value in the last layer changes the value of
its name and nothing else. -/
theorem bindings_layered (h : overrides.keys.Nodup) :
    (t.bindings now language a overrides).keys.Nodup ∧
    (∀ name, (t.bindings now language a overrides).get? name =
      t.layered? now language a overrides name) ∧
    (t.bindings now language a overrides).keys = (t.givenNames a overrides).eraseDups ∧
    ∀ before name value other after, overrides = before ++ (name, value) :: after →
      let changed := t.bindings now language a (before ++ (name, other) :: after)
      changed.keys = (t.bindings now language a overrides).keys ∧
      changed.get? name = some other ∧
      ∀ name', name' ≠ name →
        changed.get? name' = (t.bindings now language a overrides).get? name' := by
  refine ⟨t.nodup_keys_bindings now language a, t.get?_bindings_eq_layered now language a h,
    t.keys_bindings now language a, ?_⟩
  rintro before name value other after rfl
  have hkeys : Entries.keys (before ++ (name, other) :: after) =
      Entries.keys (before ++ (name, value) :: after) := by
    rw [Entries.keys_append, Entries.keys_append]
    rfl
  have hnodup : (Entries.keys (before ++ (name, other) :: after)).Nodup := hkeys ▸ h
  refine ⟨?_, ?_, fun name' hname => ?_⟩
  · rw [keys_bindings, keys_bindings, givenNames, givenNames, hkeys]
  · have hbefore : name ∉ Entries.keys before := by
      rw [Entries.keys_append] at h
      exact fun hmem => (List.nodup_append.mp h).2.2 name hmem name List.mem_cons_self rfl
    rw [get?_bindings_eq_layered _ _ _ _ hnodup, layered?, Entries.get?_append,
      Entries.get?_eq_none hbefore, Entries.get?_cons, if_pos rfl]
    rfl
  · have hothers : Entries.get? (before ++ (name, other) :: after) name' =
        Entries.get? (before ++ (name, value) :: after) name' := by
      rw [Entries.get?_append, Entries.get?_append, Entries.get?_cons, Entries.get?_cons,
        if_neg hname, if_neg hname]
    rw [get?_bindings_eq_layered _ _ _ _ hnodup, get?_bindings_eq_layered _ _ _ _ h, layered?,
      layered?, hothers]

/-- One default is declared twice, another one gives way to what windows bring along. -/
def windowTemplate : Template :=
  { Engine.greeting "window" .python Category.gui with
    parameters := [.withDefault "features" .array (.strings []) "",
      .withDefault "colour" .string (.string "red") "",
      .withDefault "colour" .string (.string "blue") ""] }

def desktopAnalysis : Analysis :=
  { Engine.plainAnalysis with intent := ⟨.guiApplication, [], [], []⟩ }

def windowOverrides : Entries := [("zoom", .nat 2), ("app_name", .string "Clock")]

theorem windowTemplate_layered :
    windowOverrides.keys.Nodup ∧
    (windowTemplate.bindings ⟨0, 0⟩ .python desktopAnalysis windowOverrides).keys =
      ["features", "colour", "timestamp", "description", "complexity", "imports", "commands",
        "main_logic", "app_name", "zoom"] ∧
    ((windowTemplate.bindings ⟨0, 0⟩ .python desktopAnalysis windowOverrides).get? "features" =
        some (.strings ["main_window", "menu_bar", "status_bar"]) ∧
      (windowTemplate.bindings ⟨0, 0⟩ .python desktopAnalysis windowOverrides).get? "colour" =
        some (.string "blue") ∧
      (windowTemplate.bindings ⟨0, 0⟩ .python desktopAnalysis windowOverrides).get? "app_name" =
        some (.string "Clock")) ∧
    (windowTemplate.bindings ⟨0, 0⟩ .python desktopAnalysis
      [("zoom", .nat 2), ("app_name", .string "Timer")]).get? "app_name" =
        some (.string "Timer") := by
  have hnodup : windowOverrides.keys.Nodup := by decide
  obtain ⟨-, hvalues, hkeys, hchanged⟩ :=
    windowTemplate.bindings_layered ⟨0, 0⟩ .python desktopAnalysis hnodup
  refine ⟨hnodup, ?_, ⟨?_, ?_, ?_⟩, ?_⟩
  · rw [hkeys]
    decide
  · rw [hvalues]
    rfl
  · rw [hvalues]
    rfl
  · rw [hvalues]
    rfl
  · exact (hchanged [("zoom", .nat 2)] "app_name" (.string "Clock") (.string "Timer") [] rfl).2.1

end Template

end Scriptwright

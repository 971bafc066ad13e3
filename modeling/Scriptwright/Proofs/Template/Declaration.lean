import Scriptwright.Proofs.Template.Header
import Scriptwright.Proofs.Template.Standard

/-!
The declaration of dependencies in scripts from built-in templates. In front of it stand only the
description, the complexity, the banner and the name of an action, so no caller's text but the last
of these can come before it, and it can be read back whatever else is bound.
-/
namespace Scriptwright.Template

open Markup

def isDeclaration : Part → Bool
  | .shown name style => name = "dependencies" && style = .joined [',', ' ']
  | _ => false

theorem eq_of_isDeclaration {part : Part} (h : isDeclaration part = true) :
    part = .shown "dependencies" (.joined [',', ' ']) := by
  unfold isDeclaration at h
  split at h
  · rw [Bool.and_eq_true, decide_eq_true_eq, decide_eq_true_eq] at h
    rw [h.1, h.2]
  · cases h

/-- The text ends with an opening in a line of its own, and no line in front declares anything. -/
def announces (text : List Char) : Bool :=
  match Text.splitLast? '\n' text with
  | some (before, last) =>
    openings.contains last &&
      (Text.lines (before ++ ['\n'])).all fun line => declaration? line = none
  | none => false

theorem exists_of_announces {text : List Char} (h : announces text = true) :
    ∃ before opening, text = before ++ '\n' :: opening ∧ opening ∈ openings ∧
      ∀ line ∈ Text.lines (before ++ ['\n']), declaration? line = none := by
  unfold announces at h
  split at h
  · rename_i before last hsplit
    rw [Bool.and_eq_true, List.contains_iff_mem, List.all_eq_true] at h
    refine ⟨before, last, Text.eq_of_splitLast? hsplit, h.1, fun line hline => ?_⟩
    exact of_decide_eq_true (h.2 line hline)
  · cases h

def headNames : List String := ["description", "complexity", "action_name"]

namespace Builtin

def headSlots (category : String) : Slots := fun name =>
  if name ∈ headNames then slots (standardOptions .bash) category name else none

/-- Up to the declaration the parts write only texts that announce it, and behind it the line
ends. -/
def declares (category : String) (parts : List Part) : Bool :=
  match parts.dropWhile (!isDeclaration ·) with
  | _ :: .text ('\n' :: _) :: _ =>
    ((formAll? (headSlots category) (parts.takeWhile (!isDeclaration ·))).bind Form.texts?).any
      (·.all announces)
  | _ => false

theorem all_declare {t : Template} (h : t ∈ all) : t.outline?.any (declares t.category) := by
  refine forall_all (P := fun t => t.outline?.any (declares t.category)) ?_ ?_ ?_ ?_ ?_ ?_ ?_ h <;>
  · rw [outline?_of_source rfl (by repeat constructor)]
    decide +kernel

theorem head_hold {t : Template} {a : Analysis} (h : t.Suits a)
    (now : Moment) (language : Language) {overrides : Entries}
    (hover : ∀ name ∈ headNames, overrides.has name = false) :
    (headSlots t.category).Hold (t.scope now language a overrides).get? := by
  intro name found hfound
  unfold headSlots at hfound
  split at hfound
  · rename_i hname
    obtain ⟨isList, hlookup, rfl⟩ := Option.map_eq_some_iff.mp hfound
    obtain ⟨front, rest, hsplit, _⟩ := List.lookup_eq_some_iff.mp hlookup
    have hmem : (name, isList) ∈ boundNames t.category := by simp [hsplit]
    have hne : name ≠ "dependencies" := by
      rintro rfl
      exact absurd hname (by decide)
    -- the requirements of the analysis have no part in these values
    let bare : Analysis := { a with requirements := {} }
    have hbare : bare.requirements.AreStandard := ⟨List.nil_subset _, List.nil_subset _⟩
    have hown : ownValue language a name = ownValue .bash bare name := by
      simp only [headNames, List.mem_cons, List.not_mem_nil, or_false] at hname
      rcases hname with rfl | rfl | rfl <;> rfl
    refine ⟨ownValue language a name, ?_, ?_⟩
    · rw [get?_scope, if_neg hne]
      exact get?_bindings_own h hmem hne (Entries.get?_reverse_eq_none (hover name hname))
    · rw [hown]
      exact ownValue_standard hbare (boundNames_subset _ hmem) hne
  · cases hfound

theorem declaredDependencies?_of_write {t : Template} (ht : t ∈ all) {parts : List Part}
    (hparts : t.outline? = some parts) {r : Lookup} (hr : (headSlots t.category).Hold r)
    {names : List String} (hnames : r "dependencies" = some (.strings names))
    (hlistable : ∀ name ∈ names, IsListable name) {text : List Char}
    (hwrite : writeAll r parts = some text) :
    declaredDependencies? (String.ofList text) = some names := by
  have hdeclares := all_declare ht
  rw [hparts, Option.any_some] at hdeclares
  unfold declares at hdeclares
  split at hdeclares
  · rename_i part c parts' hdrop
    have hpart : part = .shown "dependencies" (.joined [',', ' ']) := by
      have hhead := List.head?_dropWhile_not (!isDeclaration ·) parts
      rw [hdrop] at hhead
      exact eq_of_isDeclaration (by simpa using hhead)
    have hsplit := List.takeWhile_append_dropWhile (p := (!isDeclaration ·)) (l := parts)
    rw [hdrop, hpart] at hsplit
    obtain ⟨texts, htexts, hall⟩ := (Option.any_eq_true _ _).mp hdeclares
    obtain ⟨form, hform, htexts⟩ := Option.bind_eq_some_iff.mp htexts
    obtain ⟨front, hfront, hadmits⟩ := exists_writeAll _ hr hform
    obtain ⟨before, opening, rfl, hopening, hbefore⟩ :=
      exists_of_announces (List.all_eq_true.mp hall _ (Form.mem_texts htexts hadmits))
    have hlist : (Part.shown "dependencies" (.joined [',', ' '])).write r =
        some (listed names) := by
      rw [Part.write, hnames, Option.bind_some, Style.show?_strings]
      rfl
    rw [← hsplit, writeAll_append, hfront, writeAll, writeAll, hlist] at hwrite
    cases hrest : writeAll r parts' with
    | none => simp [hrest, Part.write] at hwrite
    | some rest =>
      simp only [hrest, Part.write, bind, pure, Option.bind_some, Option.some.injEq] at hwrite
      have htext : text = before ++ '\n' :: (opening ++ listed names ++ '\n' :: (c ++ rest)) := by
        simp [← hwrite]
      rw [htext]
      exact declaredDependencies?_eq hbefore hopening hlistable
  · cases hdeclares

theorem isListable_of_mem {name : String} (h : name.toList ∈ dependencyTexts) :
    IsListable name := by
  have hall : ∀ cs ∈ dependencyTexts,
      cs ≠ [] ∧ Text.trim cs = cs ∧ ',' ∉ cs ∧ '\n' ∉ cs := by decide
  obtain ⟨hne, htrim, hcomma, hfeed⟩ := hall _ h
  exact ⟨fun hempty => hne (String.toList_eq_nil_iff.mpr hempty), htrim, hcomma, hfeed⟩

variable {e : Engine} {now : Moment} {language : Language} {a : Analysis} {t : Template}

theorem declaredDependencies?_of_render (he : Engine.ofCatalog Catalog.builtin = .ok e)
    (ht : Catalog.builtin.select language (Category.ofIntent a.intent.primary) = .ok t)
    {overrides : Entries} (hover : ∀ name ∈ headNames, overrides.has name = false)
    {r : RenderedScript} (hr : e.render now language a overrides = .ok r) :
    r.dependencies = t.dependencies (t.bindings now language a overrides) ∧
      ((∀ name ∈ r.dependencies, IsListable name) →
        declaredDependencies? r.code = some r.dependencies) := by
  have hbuiltin := mem_of_select ht
  obtain ⟨parts, hparts⟩ := exists_outline hbuiltin
  obtain ⟨-, text, hwrite, rfl⟩ :=
    (Engine.render_eq_ok_iff he ht (isPlain hbuiltin) hparts).mp hr
  have hhead := head_hold (suits_of_select ht) now language hover
  have hnames : (t.scope now language a overrides).get? "dependencies" =
      some (.strings (t.dependencies (t.bindings now language a overrides))) := by
    rw [get?_scope, if_pos rfl]
  exact ⟨rfl, fun hlistable =>
    declaredDependencies?_of_write hbuiltin hparts hhead hnames hlistable hwrite⟩

theorem exists_render_own (he : Engine.ofCatalog Catalog.builtin = .ok e)
    (ht : Catalog.builtin.select language (Category.ofIntent a.intent.primary) = .ok t)
    (now : Moment) : ∃ r, e.render now language a [] = .ok r := by
  obtain ⟨form, hform⟩ := Option.isSome_iff_exists.mp (kinds_fit (mem_of_select ht))
  have hhold : (kinds t.category).Hold (t.scope now language a []).get? :=
    slots_hold (suits_of_select ht)
      (fun name isList hname hne _ => ownValue_holds language a hname hne)
      (fun _ _ _ _ hv => by cases hv) (fun _ _ _ h => by cases h)
  obtain ⟨_, _, _, _, _, hrender⟩ := exists_render he ht hform hhold
  exact ⟨_, hrender⟩

theorem dependencies_of_analyzed (he : Engine.ofCatalog Catalog.builtin = .ok e)
    (ht : Catalog.builtin.select language (Category.ofIntent a.intent.primary) = .ok t)
    (ha : a.requirements.AreStandard) {r : RenderedScript}
    (hr : e.render now language a [] = .ok r) :
    (∀ name ∈ r.dependencies, IsListable name) ∧
      r.dependencies = (t.requirements ++ a.requirements.libraries ++
        a.requirements.systemCommands).eraseDups := by
  have hsuits := suits_of_select ht
  have hdependencies := (declaredDependencies?_of_render he ht (fun _ _ => rfl) hr).1
  refine ⟨fun name hname => ?_, hdependencies.trans (dependencies_own hsuits now language)⟩
  rw [hdependencies] at hname
  exact isListable_of_mem (toList_mem_dependencyTexts (mem_of_select ht) hsuits ha hname)

end Builtin

/-- What a built-in template declares is read back from every script made with it, as long as the
caller leaves what stands in front of the declaration alone and no name of a dependency can be
misread. No name can be if the description of a request is all that the script is made from. -/
theorem declared_dependencies_read_back {e : Engine}
    (he : Engine.ofCatalog Catalog.builtin = .ok e) :
    (∀ (now : Moment) (language : Language) (a : Analysis) (overrides : Entries)
      (r : RenderedScript), (∀ name ∈ headNames, overrides.has name = false) →
      e.render now language a overrides = .ok r →
      (∃ t, Catalog.builtin.select language (Category.ofIntent a.intent.primary) = .ok t ∧
        r.dependencies = (t.requirements ++
          boundStrings (t.bindings now language a overrides) "imports" ++
          boundStrings (t.bindings now language a overrides) "commands").eraseDups) ∧
      ((∀ name ∈ r.dependencies, IsListable name) →
        declaredDependencies? r.code = some r.dependencies)) ∧
    ∀ (now : Moment) (language : Language) (description : String) (a : Analysis),
      Description.analyze .standard description = .ok a →
      ∃ r, e.render now language a [] = .ok r ∧
        declaredDependencies? r.code = some r.dependencies ∧
        ∃ t, Catalog.builtin.select language (Category.ofIntent a.intent.primary) = .ok t ∧
          r.dependencies = (t.requirements ++ a.requirements.libraries ++
            a.requirements.systemCommands).eraseDups := by
  refine ⟨?_, ?_⟩
  · intro now language a overrides r hover hr
    obtain ⟨t, ht⟩ := Catalog.exists_select_of_covers (Builtin.covers language)
      (Category.ofIntent a.intent.primary)
    obtain ⟨hdependencies, hread⟩ := Builtin.declaredDependencies?_of_render he ht hover hr
    exact ⟨⟨t, ht, hdependencies.trans (dependencies_eq t _)⟩, hread⟩
  · intro now language description a ha
    have hstandard : a.requirements.AreStandard := by
      unfold Description.analyze at ha
      split at ha
      · cases ha
      · obtain rfl := Except.ok.inj ha
        exact Description.areStandard_analyzeNormal _
    obtain ⟨t, ht⟩ := Catalog.exists_select_of_covers (Builtin.covers language)
      (Category.ofIntent a.intent.primary)
    obtain ⟨r, hr⟩ := Builtin.exists_render_own he ht now
    obtain ⟨hlistable, hdependencies⟩ := Builtin.dependencies_of_analyzed he ht hstandard hr
    obtain ⟨-, hread⟩ := Builtin.declaredDependencies?_of_render he ht (fun _ _ => rfl) hr
    exact ⟨r, hr, hread hlistable, t, ht, hdependencies⟩

/-- A description that names a command, with a library that its words ask for. -/
theorem listing_read_back : ∃ e, Engine.ofCatalog Catalog.builtin = .ok e ∧ ∃ a r,
    Description.analyze .standard "List files with ls" = .ok a ∧
    e.render ⟨0, 0⟩ .bash a [] = .ok r ∧ declaredDependencies? r.code = some ["os", "ls"] := by
  obtain ⟨e, he⟩ := Builtin.exists_engine
  obtain ⟨hany, hanalyzed⟩ := declared_dependencies_read_back he
  let a := Description.analyzeNormal .standard
    (Description.normalizeChars "List files with ls".toList)
  have ha : Description.analyze .standard "List files with ls" = .ok a :=
    if_neg (by decide)
  have hprimary : Category.ofIntent a.intent.primary = Category.basic := by decide +kernel
  have hnames : a.requirements.libraries ++ a.requirements.systemCommands = ["os", "ls"] := by
    decide +kernel
  obtain ⟨r, hr, -, t, ht, hdependencies⟩ := hanalyzed ⟨0, 0⟩ .bash _ a ha
  have hbasic : Catalog.builtin.select .bash Category.basic = .ok Builtin.Bash.basic :=
    Builtin.select_eq (t := Builtin.Bash.basic) (by simp [Builtin.all])
  rw [hprimary, hbasic] at ht
  obtain rfl := Except.ok.inj ht
  rw [List.append_assoc, hnames] at hdependencies
  have hboth : r.dependencies = ["os", "ls"] := hdependencies.trans (by decide)
  have hlistable : ∀ name ∈ r.dependencies, IsListable name := by
    rw [hboth]
    intro name hname
    simp only [List.mem_cons, List.not_mem_nil, or_false] at hname
    rcases hname with rfl | rfl <;> constructor <;> decide
  have hread := (hany ⟨0, 0⟩ .bash a [] r (fun _ _ => rfl) hr).2 hlistable
  exact ⟨e, he, a, r, ha, hr, hread.trans (congrArg some hboth)⟩

end Scriptwright.Template

import Scriptwright.Proofs.Markup.Outline
import Scriptwright.Proofs.Pattern.Form
import Scriptwright.Proofs.Script.Snippets

/-!
What parts write when only little is known of the values. A slot says that a name is bound at all,
or to a string or to a list of strings, and perhaps which strings can occur. If the slots fit the
parts, the parts write some text, and its form is known.
-/
namespace Scriptwright.Markup

/-- A string, or a list of strings, among the given ones if any are given; or any value. -/
inductive Slot where
  | text (among : Option (List (List Char)))
  | texts (among : Option (List (List Char)))
  | anything

/-- One of the options, if there are any given. -/
def Among (among : Option (List (List Char))) (cs : List Char) : Prop :=
  ∀ options, among = some options → cs ∈ options

def Slot.Holds : Slot → Value → Prop
  | .text among, v => ∃ s : String, v = .string s ∧ Among among s.toList
  | .texts among, v => ∃ ss : List String, v = .strings ss ∧ ∀ s ∈ ss, Among among s.toList
  | .anything, _ => True

abbrev Slots := String → Option Slot

def Slots.Hold (slots : Slots) (r : Lookup) : Prop :=
  ∀ name slot, slots name = some slot → ∃ v, r name = some v ∧ slot.Holds v

def Slots.turn (slots : Slots) (item : String) (slot : Slot) : Slots :=
  fun name => if name = item then some slot else slots name

theorem Slots.Hold.turn {slots : Slots} {r : Lookup} (h : slots.Hold r) (item : String)
    {slot : Slot} {v : Value} (hv : slot.Holds v) :
    (slots.turn item slot).Hold (r.turn item v) := by
  intro name found hfound
  unfold Slots.turn at hfound
  unfold Lookup.turn
  split at hfound
  · rename_i hname
    obtain rfl := Option.some.inj hfound
    exact ⟨v, if_pos hname, hv⟩
  · rename_i hname
    rw [if_neg hname]
    exact h name found hfound

def formOf (among : Option (List (List Char))) (f : List Char → List Char) : Form :=
  match among with
  | none => .any
  | some options => .oneOf (options.map f)

theorem admits_formOf {among : Option (List (List Char))} {cs : List Char} (h : Among among cs)
    (f : List Char → List Char) : (formOf among f).Admits (f cs) := by
  cases among with
  | none => trivial
  | some options => exact List.mem_map_of_mem (h options rfl)

theorem admits_rows_formOf {among : Option (List (List Char))} {ss : List String}
    (h : ∀ s ∈ ss, Among among s.toList) (f : List Char → List Char) (separator : List Char) :
    (Form.rows (formOf among f) separator).Admits
      (List.intercalate separator (ss.map fun s => f s.toList)) := by
  refine Form.admits_rows fun piece hpiece => ?_
  obtain ⟨s, hs, rfl⟩ := List.mem_map.mp hpiece
  exact admits_formOf (h s hs) f

namespace Style

def change? : Style → Option (List Char → List Char)
  | .plain => some id
  | .indented width => some (Script.indentBlockChars width)
  | .shellWord => some Script.shellQuoteChars
  | .literal => some fun cs => '"' :: cs.flatMap escapedChar ++ ['"']
  | .className => some Script.classNameChars
  | .joined _ => none

def form? : Style → Slot → Option Form
  | .joined separator, .texts among => some (.rows (formOf among id) separator)
  | style, .text among => style.change?.map (formOf among)
  | .plain, .anything => some .any
  | _, _ => none

theorem show?_string {style : Style} {change : List Char → List Char}
    (h : style.change? = some change) (s : String) :
    style.show? (.string s) = some (change s.toList) := by
  cases style <;> cases h <;> simp [show?, Value.display, jsonString]

theorem show?_strings (separator : List Char) (ss : List String) :
    (joined separator).show? (.strings ss) =
      some (List.intercalate separator (ss.map String.toList)) := by
  simp [show?, Value.strings, Value.display, Function.comp_def]

theorem exists_show {style : Style} {slot : Slot} {form : Form} {v : Value}
    (h : style.form? slot = some form) (hv : slot.Holds v) :
    ∃ text, style.show? v = some text ∧ form.Admits text := by
  unfold form? at h
  split at h
  · rename_i separator among
    obtain rfl := Option.some.inj h
    obtain ⟨ss, rfl, hss⟩ := hv
    exact ⟨_, show?_strings separator ss, admits_rows_formOf hss id separator⟩
  · obtain ⟨change, hchange, rfl⟩ := Option.map_eq_some_iff.mp h
    obtain ⟨s, rfl, hs⟩ := hv
    exact ⟨change s.toList, show?_string hchange s, admits_formOf hs change⟩
  · obtain rfl := Option.some.inj h
    exact ⟨v.display.toList, rfl, trivial⟩
  · cases h

end Style

theorem texts?_strings (ss : List String) : texts? (.strings ss) = some ss := by
  unfold texts? Value.strings
  induction ss with
  | nil => rfl
  | cons s ss ih =>
    simp only [List.map_cons, List.mapM_cons] at ih ⊢
    rw [ih]
    rfl

def Slot.amongTexts? : Slot → Option (Option (List (List Char)))
  | .texts among => some among
  | .text _ | .anything => none

theorem Slot.Holds.texts {slot : Slot} {among : Option (List (List Char))} {v : Value}
    (h : slot.Holds v) (hslot : slot.amongTexts? = some among) :
    ∃ ss : List String, v = .strings ss ∧ ∀ s ∈ ss, Among among s.toList := by
  cases slot with
  | text _ | anything => cases hslot
  | texts _ =>
    obtain rfl := Option.some.inj hslot
    exact h

mutual

def Part.form? (slots : Slots) : Part → Option Form
  | .text content => some (.exactly content)
  | .shown name style => (slots name).bind style.form?
  | .banner => some (.exactly Script.banner.1)
  | .colors => some (.exactly Script.colors.1)
  | .imports name => do
    let among ← (slots name).bind (·.amongTexts?)
    return .rows (formOf among Script.importChars) ['\n']
  | .commandCheck name => do
    let among ← (slots name).bind (·.amongTexts?)
    let names := Form.rows (formOf among Script.shellQuoteChars) [' ']
    return .either (.exactly []) (.seq (.exactly Script.commandCheck.1.1)
      (.seq names (.exactly Script.commandCheck.1.2)))
  | .whenTrue _ body => do
    let form ← formAll? slots body
    return .either (.exactly []) form
  | .each item container body => do
    let among ← (slots container).bind (·.amongTexts?)
    let form ← formAll? (slots.turn item (.text among)) body
    return .many form

def formAll? (slots : Slots) : List Part → Option Form
  | [] => some (.exactly [])
  | part :: parts => do
    let form ← part.form? slots
    let rest ← formAll? slots parts
    return .seq form rest

end

theorem exists_texts {slots : Slots} {r : Lookup} (h : slots.Hold r) {name : String}
    {among : Option (List (List Char))}
    (hname : (slots name).bind (·.amongTexts?) = some among) :
    ∃ ss : List String, r name = some (.strings ss) ∧ ∀ s ∈ ss, Among among s.toList := by
  obtain ⟨slot, hslot, hamong⟩ := Option.bind_eq_some_iff.mp hname
  obtain ⟨v, hv, hholds⟩ := h name slot hslot
  obtain ⟨ss, rfl, hss⟩ := hholds.texts hamong
  exact ⟨ss, hv, hss⟩

theorem exists_mapM {ss : List String} {form : Form} (write : Value → Option (List Char))
    (h : ∀ s ∈ ss, ∃ text, write (.string s) = some text ∧ form.Admits text) :
    ∃ texts, (ss.map Value.string).mapM write = some texts ∧
      ∀ text ∈ texts, form.Admits text := by
  induction ss with
  | nil => exact ⟨[], rfl, fun _ ht => absurd ht List.not_mem_nil⟩
  | cons s ss ih =>
    obtain ⟨text, htext, hform⟩ := h s List.mem_cons_self
    obtain ⟨texts, htexts, hforms⟩ := ih fun s' hs' => h s' (List.mem_cons_of_mem s hs')
    refine ⟨text :: texts, by simp [htext, htexts], fun t ht => ?_⟩
    rcases List.mem_cons.mp ht with rfl | ht
    · exact hform
    · exact hforms t ht

mutual

theorem Part.exists_write : (part : Part) → {slots : Slots} → {r : Lookup} → {form : Form} →
    slots.Hold r → part.form? slots = some form →
    ∃ text, part.write r = some text ∧ form.Admits text
  | .text content, _, _, _, _, h => by
    obtain rfl := Option.some.inj h
    exact ⟨content, rfl, Form.admits_exactly content⟩
  | .shown name style, _, r, _, hr, h => by
    obtain ⟨slot, hslot, hform⟩ := Option.bind_eq_some_iff.mp h
    obtain ⟨v, hv, hholds⟩ := hr name slot hslot
    obtain ⟨text, htext, hadmits⟩ := Style.exists_show hform hholds
    exact ⟨text, by rw [Part.write, hv, Option.bind_some, htext], hadmits⟩
  | .banner, _, _, _, _, h => by
    obtain rfl := Option.some.inj h
    exact ⟨Script.banner.1, congrArg some Script.banner.2, Form.admits_exactly _⟩
  | .colors, _, _, _, _, h => by
    obtain rfl := Option.some.inj h
    exact ⟨Script.colors.1, congrArg some Script.colors.2, Form.admits_exactly _⟩
  | .imports name, _, r, _, hr, h => by
    obtain ⟨among, hamong, h⟩ := Option.bind_eq_some_iff.mp h
    obtain rfl := Option.some.inj h
    obtain ⟨ss, hv, hss⟩ := exists_texts hr hamong
    refine ⟨_, ?_, admits_rows_formOf hss Script.importChars ['\n']⟩
    rw [Part.write, hv, Option.bind_some, texts?_strings, Option.map_some,
      Script.toList_pythonImports]
  | .commandCheck name, _, r, _, hr, h => by
    obtain ⟨among, hamong, h⟩ := Option.bind_eq_some_iff.mp h
    obtain rfl := Option.some.inj h
    obtain ⟨ss, hv, hss⟩ := exists_texts hr hamong
    refine ⟨(Script.dependencyCheck ss).toList, ?_, ?_⟩
    · rw [Part.write, hv, Option.bind_some, texts?_strings, Option.map_some]
    · by_cases hne : ss = []
      · subst hne
        exact .inl (List.mem_singleton.mpr rfl)
      · refine .inr ⟨Script.commandCheck.1.1, _, ?_, Form.admits_exactly _, _, _, rfl,
          admits_rows_formOf hss Script.shellQuoteChars [' '], Form.admits_exactly _⟩
        rw [Script.commandCheck.2 ss hne, List.append_assoc]
  | .whenTrue name body, _, r, _, hr, h => by
    obtain ⟨form, hform, h⟩ := Option.bind_eq_some_iff.mp h
    obtain rfl := Option.some.inj h
    unfold Part.write
    split
    · obtain ⟨text, htext, hadmits⟩ := exists_writeAll body hr hform
      exact ⟨text, htext, .inr hadmits⟩
    · exact ⟨[], rfl, .inl (Form.admits_exactly [])⟩
  | .each item container body, slots, r, _, hr, h => by
    obtain ⟨among, hamong, h⟩ := Option.bind_eq_some_iff.mp h
    obtain ⟨form, hform, h⟩ := Option.bind_eq_some_iff.mp h
    obtain rfl := Option.some.inj h
    obtain ⟨ss, hv, hss⟩ := exists_texts hr hamong
    have hturns : ∀ s ∈ ss, ∃ text, writeAll (r.turn item (.string s)) body = some text ∧
        form.Admits text := by
      intro s hs
      have hslot : (Slot.text among).Holds (.string s) := ⟨s, rfl, hss s hs⟩
      exact exists_writeAll body (hr.turn item hslot) hform
    obtain ⟨texts, htexts, hforms⟩ := exists_mapM (fun v => writeAll (r.turn item v) body) hturns
    refine ⟨texts.flatten, ?_, texts, hforms, rfl⟩
    rw [Part.write, hv]
    simp only [Value.strings, items?, Option.bind_some, bind, htexts]
    rfl

theorem exists_writeAll : (parts : List Part) → {slots : Slots} → {r : Lookup} → {form : Form} →
    slots.Hold r → formAll? slots parts = some form →
    ∃ text, writeAll r parts = some text ∧ form.Admits text
  | [], _, _, _, _, h => by
    obtain rfl := Option.some.inj h
    exact ⟨[], rfl, Form.admits_exactly []⟩
  | part :: parts, _, r, _, hr, h => by
    obtain ⟨form, hform, h⟩ := Option.bind_eq_some_iff.mp h
    obtain ⟨rest, hrest, h⟩ := Option.bind_eq_some_iff.mp h
    obtain rfl := Option.some.inj h
    obtain ⟨text, htext, hadmits⟩ := Part.exists_write part hr hform
    obtain ⟨text', htext', hadmits'⟩ := exists_writeAll parts hr hrest
    refine ⟨text ++ text', ?_, text, text', rfl, hadmits, hadmits'⟩
    rw [writeAll, htext, htext']
    rfl

end

end Scriptwright.Markup

import Scriptwright.Document.Json
import Scriptwright.Markup.Library

/-!
String literals read back. A reader of Python literals goes through a text one character at a time.
No character ends its literal early, because what stands for it takes the reader from inside the
literal to inside the literal; so a list display of literals is read one literal after the other.
-/
namespace Scriptwright.Script

inductive Literal where
  | inside (text : List Char)
  | escape (text : List Char)
  /-- In a code of four hexadecimal digits, so many of them still to come. -/
  | code (text : List Char) (left value : Nat)
  | closed (text : List Char)
deriving DecidableEq

def escapeLetters : List (Char × Char) :=
  [('"', '"'), ('\\', '\\'), ('b', '\x08'), ('f', '\x0c'), ('n', '\n'), ('r', '\r'), ('t', '\t')]

namespace Literal

/-- A code is done with its last digit, and not every number is a character. -/
def addDigit (text : List Char) (left value : Nat) : Option Literal :=
  if left ≠ 0 then some (.code text left value)
  else if value.isValidChar then some (.inside (text ++ [Char.ofNat value]))
  else none

/-- One more character. A literal stays on its line. -/
def step : Literal → Char → Option Literal
  | .inside text, c =>
    if c = '"' then some (.closed text)
    else if c = '\\' then some (.escape text)
    else if c = '\n' || c = '\r' then none
    else some (.inside (text ++ [c]))
  | .escape text, c =>
    if c = 'u' then some (.code text 4 0)
    else (escapeLetters.lookup c).map fun d => .inside (text ++ [d])
  | .code text left value, c => do
    let digit ← Document.hexValue? c
    addDigit text (left - 1) (16 * value + digit)
  | .closed _, _ => none

def text? : Literal → Option (List Char)
  | .closed text => some text
  | _ => none

end Literal

def literalText? (literal : String) : Option String :=
  match literal.toList with
  | '"' :: cs => (cs.foldlM Literal.step (.inside [])).bind fun l => l.text?.map String.ofList
  | _ => none

inductive Display where
  /-- Before a literal, or the closing bracket. -/
  | before (texts : List (List Char))
  | within (texts : List (List Char)) (literal : Literal)
  /-- Before a comma, or the closing bracket. -/
  | behind (texts : List (List Char))
  | closed (texts : List (List Char))

namespace Display

def step : Display → Char → Option Display
  | .before texts, c =>
    if c = '"' then some (.within texts (.inside []))
    else if c = ' ' then some (.before texts)
    else if c = ']' then some (.closed texts)
    else none
  | .within texts literal, c => (literal.step c).map fun
    | .closed text => .behind (texts ++ [text])
    | literal => .within texts literal
  | .behind texts, c =>
    if c = ',' then some (.before texts)
    else if c = ' ' then some (.behind texts)
    else if c = ']' then some (.closed texts)
    else none
  | .closed _, _ => none

def texts? : Display → Option (List (List Char))
  | .closed texts => some texts
  | _ => none

end Display

def displayedTexts? (display : String) : Option (List String) :=
  match display.toList with
  | '[' :: cs =>
    (cs.foldlM Display.step (.before [])).bind fun d => d.texts?.map (List.map String.ofList)
  | _ => none

/-- Neither a line feed nor a carriage return. -/
def IsOneLine (cs : List Char) : Prop := '\n' ∉ cs ∧ '\r' ∉ cs

instance (cs : List Char) : Decidable (IsOneLine cs) := inferInstanceAs (Decidable (_ ∧ _))

theorem IsOneLine.append {cs ds : List Char} (h : IsOneLine cs) (h' : IsOneLine ds) :
    IsOneLine (cs ++ ds) := by
  simp only [IsOneLine, List.mem_append, not_or]
  exact ⟨⟨h.1, h'.1⟩, ⟨h.2, h'.2⟩⟩

theorem IsOneLine.flatMap {α : Type} {xs : List α} {f : α → List Char}
    (h : ∀ x ∈ xs, IsOneLine (f x)) : IsOneLine (xs.flatMap f) := by
  simp only [IsOneLine, List.mem_flatMap, not_exists, not_and]
  exact ⟨fun x hx => (h x hx).1, fun x hx => (h x hx).2⟩

theorem hexValue?_hexFour : ∀ n < 0x20, (hexFour n).mapM Document.hexValue? =
    some [0, 0, n / 16, n % 16] := by decide

theorem length_hexFour : ∀ n < 0x20, (hexFour n).length = 4 := by decide

theorem isOneLine_hexFour : ∀ n < 0x20, IsOneLine (hexFour n) := by decide

theorem foldlM_code (text : List Char) (value : Nat) {digits : List Char} {values : List Nat}
    (h : digits.mapM Document.hexValue? = some values) (hne : digits ≠ []) :
    digits.foldlM Literal.step (.code text digits.length value) =
      Literal.addDigit text 0 (values.foldl (fun v d => 16 * v + d) value) := by
  induction digits generalizing values value with
  | nil => exact absurd rfl hne
  | cons c digits ih =>
    rw [List.mapM_cons] at h
    obtain ⟨digit, hdigit, h⟩ := Option.bind_eq_some_iff.mp h
    obtain ⟨others, hothers, h⟩ := Option.bind_eq_some_iff.mp h
    obtain rfl := Option.some.inj h
    have hstep : Literal.step (.code text (digits.length + 1) value) c =
        Literal.addDigit text digits.length (16 * value + digit) := by
      simp [Literal.step, hdigit]
    rw [List.length_cons, List.foldlM_cons, hstep]
    cases digits with
    | nil =>
      obtain rfl := Option.some.inj hothers
      simp
    | cons next digits =>
      simp only [Literal.addDigit, List.length_cons]
      exact ih _ hothers (List.cons_ne_nil _ _)

theorem escapedChar_cases (c : Char) :
    (∃ letter, (letter, c) ∈ escapeLetters ∧ escapedChar c = ['\\', letter]) ∨
    (c.toNat < 0x20 ∧ escapedChar c = '\\' :: 'u' :: hexFour c.toNat) ∨
    (c ≠ '"' ∧ c ≠ '\\' ∧ 0x20 ≤ c.toNat ∧ escapedChar c = [c]) := by
  by_cases hletter : c ∈ escapeLetters.map Prod.snd
  · simp only [escapeLetters, List.map_cons, List.map_nil, List.mem_cons, List.not_mem_nil,
      or_false] at hletter
    rcases hletter with rfl | rfl | rfl | rfl | rfl | rfl | rfl <;>
      exact .inl ⟨_, by decide, rfl⟩
  · simp only [escapeLetters, List.map_cons, List.map_nil, List.mem_cons, List.not_mem_nil,
      or_false, not_or] at hletter
    obtain ⟨hquote, hbackslash, hb, hf, hn, hr, ht⟩ := hletter
    simp only [escapedChar, hquote, hbackslash, hb, hf, hn, hr, ht, if_false]
    by_cases hcode : c.toNat < 0x20
    · exact .inr (.inl ⟨hcode, if_pos hcode⟩)
    · exact .inr (.inr ⟨hquote, hbackslash, Nat.le_of_not_lt hcode, if_neg hcode⟩)

theorem isOneLine_escapedChar (c : Char) : IsOneLine (escapedChar c) := by
  rcases escapedChar_cases c with ⟨letter, hletter, heq⟩ | ⟨hcode, heq⟩ | ⟨-, -, hcode, heq⟩
  · have hall : ∀ p ∈ escapeLetters, IsOneLine ['\\', p.1] := by decide
    exact heq ▸ hall _ hletter
  · have hbegin : IsOneLine ['\\', 'u'] := by decide
    exact heq ▸ hbegin.append (isOneLine_hexFour _ hcode)
  · rw [heq, IsOneLine, List.mem_singleton, List.mem_singleton]
    constructor <;>
    · rintro rfl
      revert hcode
      decide

/-- What stands for a character inside a literal adds that character. -/
theorem foldlM_escapedChar (text : List Char) (c : Char) :
    (escapedChar c).foldlM Literal.step (.inside text) = some (.inside (text ++ [c])) := by
  rcases escapedChar_cases c with ⟨letter, hletter, heq⟩ | ⟨hcode, heq⟩ | ⟨hq, hb, hcode, heq⟩
  · have hall : ∀ p ∈ escapeLetters, p.1 ≠ 'u' ∧ escapeLetters.lookup p.1 = some p.2 := by decide
    obtain ⟨hu, hlookup⟩ := hall _ hletter
    simp [heq, Literal.step, hu, hlookup]
  · have hlength := length_hexFour _ hcode
    have hdigits := foldlM_code text 0 (hexValue?_hexFour _ hcode)
      (List.ne_nil_of_length_pos (by simp [hlength]))
    rw [hlength] at hdigits
    have hvalue : 16 * (c.toNat / 16) + c.toNat % 16 = c.toNat := Nat.div_add_mod _ _
    have hchar : c.toNat.isValidChar := c.valid
    rw [heq]
    simp [Literal.step, hdigits, Literal.addDigit, hvalue, hchar]
  · have hline : c ≠ '\n' ∧ c ≠ '\r' := by
      have h := isOneLine_escapedChar c
      simpa [heq, IsOneLine, eq_comm] using h
    simp [heq, Literal.step, hq, hb, hline]

theorem foldlM_escapedChars (text cs : List Char) :
    (cs.flatMap escapedChar).foldlM Literal.step (.inside text) = some (.inside (text ++ cs)) := by
  induction cs generalizing text with
  | nil => simp
  | cons c cs ih =>
    rw [List.flatMap_cons, List.foldlM_append, foldlM_escapedChar]
    simp [ih]

theorem literalText?_jsonString (text : String) : literalText? (jsonString text) = some text := by
  simp [literalText?, jsonString, foldlM_escapedChars, Literal.step, Literal.text?]

theorem isOneLine_jsonString (text : String) : IsOneLine (jsonString text).toList := by
  have hquote : IsOneLine ['"'] := by decide
  have hbody : IsOneLine (text.toList.flatMap escapedChar) :=
    .flatMap fun c _ => isOneLine_escapedChar c
  rw [jsonString, String.toList_ofList]
  exact (hquote.append hbody).append hquote

/-- Every text has a literal, and it is all that is read of it. -/
theorem exists_literal (text : String) (given : Markup.Arguments) :
    ∃ filter literal body, Markup.filter? "py_string" = some filter ∧
      filter (.string text) given = .ok (.string literal) ∧
      literal.toList = '"' :: body ++ ['"'] ∧ IsOneLine literal.toList ∧
      literalText? literal = some text :=
  ⟨_, jsonString text, text.toList.flatMap escapedChar, rfl, rfl, String.toList_ofList,
    isOneLine_jsonString text, literalText?_jsonString text⟩

theorem foldlM_within (texts : List (List Char)) {cs text text' : List Char}
    (h : cs.foldlM Literal.step (.inside text) = some (.inside text')) :
    cs.foldlM Display.step (.within texts (.inside text)) =
      some (.within texts (.inside text')) := by
  have hclosed : ∀ (cs : List Char) (done : List Char) (l : Literal),
      cs.foldlM Literal.step (.closed done) = some l → l = .closed done := by
    intro cs done l hl
    cases cs with
    | nil => exact (Option.some.inj hl).symm
    | cons c cs => cases hl
  have hlift : ∀ (cs : List Char) (l : Literal),
      cs.foldlM Literal.step l = some (.inside text') →
      cs.foldlM Display.step (.within texts l) = some (.within texts (.inside text')) := by
    intro cs
    induction cs with
    | nil => intro l hl; rw [Option.some.inj hl]; rfl
    | cons c cs ih =>
      intro l hl
      rw [List.foldlM_cons] at hl ⊢
      obtain ⟨next, hnext, hl⟩ := Option.bind_eq_some_iff.mp hl
      cases next with
      | closed done => cases hclosed _ _ _ hl
      | _ => simpa [Display.step, hnext] using ih _ hl
  exact hlift cs _ h

def itemChars (item : String) : List Char := (jsonString item).toList ++ [',', ' ']

def displayChars (items : List String) : List Char := '[' :: (items.flatMap itemChars ++ [']'])

theorem foldlM_itemChars (texts : List (List Char)) (item : String) :
    (itemChars item).foldlM Display.step (.before texts) =
      some (.before (texts ++ [item.toList])) := by
  have hwithin := foldlM_within texts (foldlM_escapedChars [] item.toList)
  simp [itemChars, jsonString, Display.step, hwithin, Literal.step]

theorem foldlM_items (texts : List (List Char)) (items : List String) :
    (items.flatMap itemChars).foldlM Display.step (.before texts) =
      some (.before (texts ++ items.map String.toList)) := by
  induction items generalizing texts with
  | nil => simp
  | cons item items ih =>
    rw [List.flatMap_cons, List.foldlM_append, foldlM_itemChars, Option.bind_eq_bind,
      Option.bind_some, ih]
    simp

theorem displayedTexts?_displayChars (items : List String) :
    displayedTexts? (String.ofList (displayChars items)) = some items := by
  simp [displayedTexts?, displayChars, foldlM_items, Display.step, Display.texts?,
    Function.comp_def]

theorem isOneLine_displayChars (items : List String) : IsOneLine (displayChars items) := by
  have hopen : IsOneLine ['['] := by decide
  have hseparator : IsOneLine [',', ' '] := by decide
  have hclose : IsOneLine [']'] := by decide
  have hitems : IsOneLine (items.flatMap itemChars) :=
    .flatMap fun item _ => (isOneLine_jsonString item).append hseparator
  exact hopen.append (hitems.append hclose)

example : displayedTexts? "[\"a\\u0041\", \"\\\"\",]" = some ["aA", "\""] := by decide

end Scriptwright.Script

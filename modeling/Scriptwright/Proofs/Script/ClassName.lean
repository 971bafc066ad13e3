import Scriptwright.Markup.Library
import Scriptwright.Proofs.Text.Search

/-!
Names of classes. The name that is made of a text has the form of one, and it is its own name. It
may be a word that Python keeps for itself, though: a digit at the beginning is seen to, such a word
is not.
-/
namespace Scriptwright.Script

/-- A large letter and then letters and digits, all of ASCII. -/
def isClassName : List Char → Bool
  | [] => false
  | c :: rest => c.isUpper && rest.all Char.isAlphanum

/-- The words that Python keeps for itself. -/
def pythonReserved : List String :=
  ["False", "None", "True", "and", "as", "assert", "async", "await", "break", "class", "continue",
    "def", "del", "elif", "else", "except", "finally", "for", "from", "global", "if", "import",
    "in", "is", "lambda", "nonlocal", "not", "or", "pass", "raise", "return", "try", "while",
    "with", "yield"]

def nameWords (cs : List Char) : List (List Char) :=
  (Text.splitAt (fun c => !c.isAlphanum) cs).filter fun w => !w.isEmpty

def nameOf : List Char → List Char
  | [] => "Application".toList
  | c :: rest => if c.isDigit then "App".toList ++ c :: rest else c :: rest

theorem classNameChars_eq (cs : List Char) :
    classNameChars cs = nameOf ((nameWords cs).flatMap Text.capitalized) := rfl

theorem nameOf_cons (c : Char) (rest : List Char) :
    nameOf (c :: rest) = if c.isDigit then 'A' :: 'p' :: 'p' :: c :: rest else c :: rest := rfl

theorem isUpper_iff {c : Char} : c.isUpper = true ↔ 65 ≤ c.toNat ∧ c.toNat ≤ 90 := by
  unfold Char.isUpper
  simp [UInt32.le_iff_toNat_le, ← Char.toNat_val]

theorem isLower_iff {c : Char} : c.isLower = true ↔ 97 ≤ c.toNat ∧ c.toNat ≤ 122 := by
  unfold Char.isLower
  simp [UInt32.le_iff_toNat_le, ← Char.toNat_val]

theorem isAlphanum_iff {c : Char} :
    c.isAlphanum = true ↔ c.isUpper = true ∨ c.isLower = true ∨ c.isDigit = true := by
  unfold Char.isAlphanum Char.isAlpha
  simp [or_assoc]

theorem toNat_toUpper (c : Char) :
    c.toUpper.toNat = if c.isLower then c.toNat - 32 else c.toNat := by
  have hlower := @isLower_iff c
  unfold Char.toUpper
  split
  · rename_i h
    simp [UInt32.le_iff_toNat_le] at h
    rw [if_pos (hlower.mpr h), ← Char.toNat_val, UInt32.toNat_add]
    simp
    omega
  · rename_i h
    rw [if_neg]
    simpa [hlower, UInt32.le_iff_toNat_le] using h

theorem toUpper_of_isUpper {c : Char} (h : c.isUpper = true) : c.toUpper = c := by
  rw [← Char.toNat_inj, toNat_toUpper, if_neg]
  rw [isUpper_iff] at h
  rw [isLower_iff]
  omega

theorem isDigit_of_isUpper {c : Char} (h : c.isUpper = true) : c.isDigit = false := by
  rw [isUpper_iff] at h
  rw [Bool.eq_false_iff, Ne, Char.isDigit_iff_toNat]
  change ¬ (48 ≤ c.toNat ∧ c.toNat ≤ 57)
  omega

theorem toUpper_cases {c : Char} (h : c.isAlphanum = true) :
    c.toUpper.isUpper = true ∨ c.toUpper.isDigit = true := by
  have hcode := toNat_toUpper c
  rw [isUpper_iff, Char.isDigit_iff_toNat]
  rw [isAlphanum_iff, isUpper_iff, isLower_iff, Char.isDigit_iff_toNat] at h
  simp only [isLower_iff] at hcode
  split at hcode <;> omega

theorem not_isLower_toUpper (c : Char) : ¬ c.toUpper.isLower = true := by
  have hcode := toNat_toUpper c
  rw [isLower_iff]
  simp only [isLower_iff] at hcode
  split at hcode <;> omega

theorem eq_or_toNat_of_toUpper {a c : Char} (h : a.toUpper = c) :
    a = c ∨ a.toNat = c.toNat + 32 := by
  have hcode := toNat_toUpper a
  rw [← Char.toNat_inj, ← h]
  simp only [isLower_iff] at hcode
  split at hcode <;> omega

theorem nameWords_spec {cs w : List Char} (h : w ∈ nameWords cs) :
    ∃ c rest, w = c :: rest ∧ c.isAlphanum = true ∧ ∀ d ∈ rest, d.isAlphanum = true := by
  obtain ⟨hpiece, hempty⟩ := List.mem_filter.mp h
  have hall := Text.not_sep_of_mem_splitAt hpiece
  simp only [Bool.not_eq_false'] at hall
  cases w with
  | nil => simp at hempty
  | cons c rest => exact ⟨c, rest, rfl, List.forall_mem_cons.mp hall⟩

theorem isAlphanum_of_mem_capitals {cs : List Char} {d : Char}
    (h : d ∈ (nameWords cs).flatMap Text.capitalized) : d.isAlphanum = true := by
  obtain ⟨w, hw, hd⟩ := List.mem_flatMap.mp h
  obtain ⟨c, rest, rfl, hc, hrest⟩ := nameWords_spec hw
  rcases List.mem_cons.mp hd with rfl | hd
  · rw [isAlphanum_iff]
    rcases toUpper_cases hc with hupper | hdigit
    · exact .inl hupper
    · exact .inr (.inr hdigit)
  · exact hrest d hd

theorem nameWords_of_capitals {cs rest : List Char} {c : Char}
    (h : (nameWords cs).flatMap Text.capitalized = c :: rest) :
    ∃ a as more, nameWords cs = (a :: as) :: more ∧ a.isAlphanum = true ∧ a.toUpper = c ∧
      as ++ more.flatMap Text.capitalized = rest := by
  cases hwords : nameWords cs with
  | nil => simp [hwords] at h
  | cons w more =>
    have hw : w ∈ nameWords cs := hwords ▸ List.mem_cons_self
    obtain ⟨a, as, rfl, ha, -⟩ := nameWords_spec hw
    simp only [hwords, Text.capitalized, List.flatMap_cons, List.cons_append, List.cons.injEq] at h
    exact ⟨a, as, more, rfl, ha, h⟩

theorem isClassName_classNameChars (cs : List Char) : isClassName (classNameChars cs) = true := by
  have hall : ∀ d ∈ (nameWords cs).flatMap Text.capitalized, d.isAlphanum = true :=
    fun d hd => isAlphanum_of_mem_capitals hd
  rw [classNameChars_eq]
  cases hcapitals : (nameWords cs).flatMap Text.capitalized with
  | nil => decide
  | cons c rest =>
    rw [hcapitals, List.forall_mem_cons] at hall
    obtain ⟨a, as, more, -, ha, rfl, -⟩ := nameWords_of_capitals hcapitals
    have hrest : rest.all Char.isAlphanum = true := List.all_eq_true.mpr hall.2
    rw [nameOf_cons]
    rcases toUpper_cases ha with hupper | hdigit
    · rw [isDigit_of_isUpper hupper]
      simp [isClassName, hupper, hrest]
    · have happ : 'A'.isUpper = true ∧ 'p'.isAlphanum = true := by decide
      simp only [hdigit, if_true, isClassName, List.all_cons, happ, hall.1, hrest, Bool.and_self]

theorem classNameChars_of_isClassName {cs : List Char} (h : isClassName cs = true) :
    classNameChars cs = cs := by
  cases cs with
  | nil => cases h
  | cons c rest =>
    simp only [isClassName, Bool.and_eq_true, List.all_eq_true] at h
    obtain ⟨hupper, hrest⟩ := h
    have hall : ∀ d ∈ c :: rest, (!d.isAlphanum) = false := by
      simp only [Bool.not_eq_false']
      exact List.forall_mem_cons.mpr ⟨isAlphanum_iff.mpr (.inl hupper), hrest⟩
    have hwords : nameWords (c :: rest) = [c :: rest] := by
      rw [nameWords, Text.splitAt_of_not_mem hall]
      rfl
    rw [classNameChars_eq, hwords]
    simp [Text.capitalized, toUpper_of_isUpper hupper, nameOf_cons, isDigit_of_isUpper hupper]

/-- A name that goes on in small letters comes from one word, that is itself or begins small. -/
theorem nameWords_of_lower (small : Char) {cs rest : List Char} {c : Char}
    (h : classNameChars cs = c :: rest) (hc : c ≠ 'A') (hrest : rest.all Char.isLower = true)
    (hsmall : small.toNat = c.toNat + 32) :
    nameWords cs = [c :: rest] ∨ nameWords cs = [small :: rest] := by
  rw [classNameChars_eq] at h
  cases hcapitals : (nameWords cs).flatMap Text.capitalized with
  | nil =>
    rw [hcapitals] at h
    exact absurd (List.cons.inj h).1.symm hc
  | cons first others =>
    obtain ⟨a, as, more, hwords, -, hfirst, hothers⟩ := nameWords_of_capitals hcapitals
    rw [hcapitals, nameOf_cons] at h
    split at h
    · exact absurd (List.cons.inj h).1.symm hc
    · obtain ⟨rfl, rfl⟩ := List.cons.inj h
      cases more with
      | nil =>
        simp only [List.flatMap_nil, List.append_nil] at hothers
        rw [hwords, hothers]
        rcases eq_or_toNat_of_toUpper hfirst with rfl | hcode
        · exact .inl rfl
        · rw [Char.toNat_inj.mp (hcode.trans hsmall.symm)]
          exact .inr rfl
      | cons w more =>
        -- a second word would put its capital among the small letters
        have hw : w ∈ nameWords cs := by simp [hwords]
        obtain ⟨b, bs, rfl, -, -⟩ := nameWords_spec hw
        have hlower := List.all_eq_true.mp hrest b.toUpper (by simp [← hothers, Text.capitalized])
        exact absurd hlower (not_isLower_toUpper b)

/-- The words that are reserved as they are or capitalized. -/
def reservedNames : List String := ["false", "False", "none", "None", "true", "True"]

theorem className_mem_pythonReserved_iff (text : String) :
    className text ∈ pythonReserved ↔
      ∃ word ∈ reservedNames, nameWords text.toList = [word.toList] := by
  constructor
  · intro h
    have hform : ∀ word ∈ pythonReserved, isClassName word.toList = true →
        word ∈ ["False", "None", "True"] := by decide
    have hname := hform _ h (by simp [className, isClassName_classNameChars])
    have hchars : classNameChars text.toList = (className text).toList :=
      String.toList_ofList.symm
    generalize className text = name at hname hchars
    simp only [List.mem_cons, List.not_mem_nil, or_false] at hname
    rcases hname with rfl | rfl | rfl
    · rcases nameWords_of_lower 'f' hchars (by decide) (by decide) rfl with hw | hw
      · exact ⟨"False", by decide, hw⟩
      · exact ⟨"false", by decide, hw⟩
    · rcases nameWords_of_lower 'n' hchars (by decide) (by decide) rfl with hw | hw
      · exact ⟨"None", by decide, hw⟩
      · exact ⟨"none", by decide, hw⟩
    · rcases nameWords_of_lower 't' hchars (by decide) (by decide) rfl with hw | hw
      · exact ⟨"True", by decide, hw⟩
      · exact ⟨"true", by decide, hw⟩
  · rintro ⟨word, hword, hwords⟩
    have hall : ∀ word ∈ reservedNames,
        String.ofList (nameOf ([word.toList].flatMap Text.capitalized)) ∈ pythonReserved := by decide
    rw [className, classNameChars_eq, hwords]
    exact hall word hword

/-- Every string has a name of the form that class names have, and the name is its own name. It is
reserved exactly if the only word of the string is one of three. -/
theorem className_reserved_iff (text : String) (arguments : Markup.Arguments) :
    ∃ filter name, Markup.filter? "identifier" = some filter ∧
      filter (.string text) arguments = .ok (.string name) ∧ isClassName name.toList = true ∧
      filter (.string name) arguments = .ok (.string name) ∧
      (name ∈ pythonReserved ↔
        ∃ word ∈ reservedNames, nameWords text.toList = [word.toList]) := by
  have hname : isClassName (className text).toList = true := by
    rw [className, String.toList_ofList, isClassName_classNameChars]
  have hagain : className (className text) = className text := by
    rw [className, classNameChars_of_isClassName hname, String.ofList_toList]
  refine ⟨_, className text, rfl, rfl, hname, ?_, className_mem_pythonReserved_iff text⟩
  change Except.ok (Value.string (className (className text))) = _
  rw [hagain]

/-- A window that is named after nothing. -/
theorem none_is_reserved : ∃ filter, Markup.filter? "identifier" = some filter ∧
    filter (.string "none") [] = .ok (.string "None") ∧ "None" ∈ pythonReserved := by
  have hnone : className "none" = "None" := by decide
  refine ⟨_, rfl, ?_, by decide⟩
  change Except.ok (Value.string (className "none")) = _
  rw [hnone]

end Scriptwright.Script

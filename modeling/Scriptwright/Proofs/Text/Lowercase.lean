import Scriptwright.Text.Case

/-!
Lower case, character by character and of whole texts. Blanks have no case and stop the look for
neighbours of a sigma, so lower case stops at them. It is a fixed point: what a text is lowered to
is its own lower case, for no row of the table has an image that a row changes again.
-/
namespace Scriptwright.Text

theorem lowercaseFrom_eq (before done cs : List Char) :
    lowercaseFrom before done cs = done.reverse ++ lowercaseFrom before [] cs := by
  induction cs generalizing before done with
  | nil => simp [lowercaseFrom]
  | cons c cs ih =>
    rw [lowercaseFrom, lowercaseFrom, ih, @ih _ (_ ++ [])]
    simp

theorem mem_of_inRanges {ranges : List (Nat × Nat)} {n : Nat} (h : inRanges ranges n = true) :
    ∃ r ∈ ranges, n ∈ List.range' r.1 (r.2 + 1 - r.1) := by
  induction ranges with
  | nil => cases h
  | cons r rs ih =>
    unfold inRanges at h
    split at h
    · cases h
    · rename_i hfirst
      rcases (Bool.or_eq_true _ _).mp h with hlast | hlater
      · refine ⟨r, List.mem_cons_self, List.mem_range'_1.mpr ?_⟩
        have := of_decide_eq_true hlast
        omega
      · obtain ⟨r', hr', hn⟩ := ih hlater
        exact ⟨r', List.mem_cons_of_mem r hr', hn⟩

/-- A blank is its own lower case, and no neighbour of a sigma. -/
structure Caseless (c : Char) : Prop where
  cased : isCased c = false
  ignorable : isCaseIgnorable c = false
  lower : mapByRows lowercaseRows c = c

theorem caseless_of_isBlank {c : Char} (h : isBlank c = true) : Caseless c := by
  have hall : ∀ r ∈ blankRanges, ∀ n ∈ List.range' r.1 (r.2 + 1 - r.1),
      inRanges casedRanges n = false ∧ inRanges caseIgnorableRanges n = false ∧
        rowImage lowercaseRows n = none := by
      decide +kernel
  obtain ⟨r, hr, hn⟩ := mem_of_inRanges h
  obtain ⟨hcased, hignorable, hlower⟩ := hall r hr _ hn
  exact ⟨hcased, hignorable, by rw [mapByRows, hlower]⟩

variable {b : Char}

theorem casedComesNext_append_blank (h : isBlank b = true) (xs ys : List Char) :
    casedComesNext (xs ++ b :: ys) = casedComesNext xs := by
  obtain ⟨hcased, hignorable, -⟩ := caseless_of_isBlank h
  unfold casedComesNext
  induction xs with
  | nil => simp [hcased, hignorable]
  | cons x xs ih =>
    by_cases hx : isCaseIgnorable x = true
    · simpa [hx] using ih
    · simp [hx]

theorem lowercaseFrom_append_blank (h : isBlank b = true) (zs before ys : List Char) :
    lowercaseFrom (zs ++ b :: before) [] ys = lowercaseFrom zs [] ys := by
  induction ys generalizing zs with
  | nil => rfl
  | cons y ys ih =>
    have hsigma : lowerSigma (zs ++ b :: before) ys = lowerSigma zs ys := by
      rw [lowerSigma, casedComesNext_append_blank h, ← lowerSigma]
    rw [lowercaseFrom, lowercaseFrom, lowercaseFrom_eq, lowercaseFrom_eq (y :: zs), hsigma,
      ← List.cons_append, ih]

theorem lowercaseFrom_blank (h : isBlank b = true) (before xs ys : List Char) :
    lowercaseFrom before [] (xs ++ b :: ys) = lowercaseFrom before [] xs ++ b :: lowercase ys := by
  induction xs generalizing before with
  | nil =>
    have hsigma : b ≠ 'Σ' := by
      rintro rfl
      revert h
      decide
    have hdotted : b ≠ 'İ' := by
      rintro rfl
      revert h
      decide
    have hbehind := lowercaseFrom_append_blank h [] before ys
    rw [List.nil_append] at hbehind
    have hhere : lowercaseFrom before [] (b :: ys) = b :: lowercaseFrom (b :: before) [] ys := by
      rw [lowercaseFrom, lowercaseFrom_eq]
      simp [lowerOne, hsigma, hdotted, (caseless_of_isBlank h).lower]
    rw [List.nil_append, hhere, hbehind]
    rfl
  | cons x xs ih =>
    have hsigma : lowerSigma before (xs ++ b :: ys) = lowerSigma before xs := by
      rw [lowerSigma, casedComesNext_append_blank h, ← lowerSigma]
    rw [List.cons_append, lowercaseFrom, lowercaseFrom, lowercaseFrom_eq, ih, hsigma,
      lowercaseFrom_eq (x :: before) (_ ++ []) xs, List.append_assoc]

theorem lowercase_append_blank (h : isBlank b = true) (xs ys : List Char) :
    lowercase (xs ++ b :: ys) = lowercase xs ++ b :: lowercase ys :=
  lowercaseFrom_blank h [] xs ys

/-- The rows change none of the numbers from `low` to `high`, taken in steps of `step`. -/
def spares (low high step : Nat) : List (Nat × Nat × Nat × Nat) → Bool
  | [] => true
  | (first, last, step', _) :: rest =>
    Nat.blt high first ||
      (Nat.blt last low ||
        (step == 2 || low == high) && step' == 2 && (low + first) % 2 == 1) &&
        spares low high step rest

section
variable {rows : List (Nat × Nat × Nat × Nat)} {low high step n : Nat}

theorem rowImage_eq_none (h : spares low high step rows = true) (hlow : low ≤ n)
    (hhigh : n ≤ high) (hstep : (n - low) % step = 0) : rowImage rows n = none := by
  induction rows with
  | nil => rfl
  | cons row rows ih =>
    obtain ⟨first, last, step', image⟩ := row
    unfold rowImage
    split
    · rfl
    · rename_i hfirst
      have hreached : Nat.blt high first = false := by
        rw [Bool.eq_false_iff, Ne, Nat.blt_eq]
        omega
      unfold spares at h
      rw [hreached, Bool.false_or, Bool.and_eq_true] at h
      obtain ⟨hapart, hrest⟩ := h
      have hmissed : ¬ (n ≤ last ∧ (n - first) % step' = 0) := by
        rintro ⟨hlast, hsteps⟩
        have hbehind : Nat.blt last low = false := by
          rw [Bool.eq_false_iff, Ne, Nat.blt_eq]
          omega
        -- both go by twos, one through the odd numbers and one through the even ones
        simp only [hbehind, Bool.false_or, Bool.and_eq_true, Bool.or_eq_true, beq_iff_eq] at hapart
        obtain ⟨⟨heven | hsingle, rfl⟩, hodd⟩ := hapart
        · subst heven
          omega
        · omega
      rw [if_neg hmissed, ih hrest]

theorem exists_row_of_rowImage {image : Nat} (h : rowImage rows n = some image) :
    ∃ row ∈ rows, row.1 ≤ n ∧ n ≤ row.2.1 ∧ (n - row.1) % row.2.2.1 = 0 ∧
      image = row.2.2.2 + (n - row.1) := by
  induction rows with
  | nil => cases h
  | cons row rows ih =>
    obtain ⟨first, last, step', start⟩ := row
    unfold rowImage at h
    split at h
    · cases h
    · rename_i hfirst
      split at h
      · rename_i hhere
        exact ⟨_, List.mem_cons_self, Nat.not_lt.mp hfirst, hhere.1, hhere.2,
          (Option.some.inj h).symm⟩
      · obtain ⟨row, hrow, hspec⟩ := ih h
        exact ⟨row, List.mem_cons_of_mem _ hrow, hspec⟩

end

theorem images_spared : (lowercaseRows.all fun row =>
    spares row.2.2.2 (row.2.2.2 + (row.2.1 - row.1)) row.2.2.1 lowercaseRows) = true := by
  decide +kernel

/-- The dotted capital I, which lowers to two characters, is no image either. -/
theorem images_undotted : (lowercaseRows.all fun row =>
    Nat.blt (row.2.2.2 + (row.2.1 - row.1)) 0x130 || Nat.blt 0x130 row.2.2.2) = true := by
  decide +kernel

/-- Neither the table nor a rule of its own changes the character. -/
structure IsLower (c : Char) : Prop where
  unmapped : rowImage lowercaseRows c.toNat = none
  undotted : c ≠ 'İ'

theorem IsLower.ne_sigma {c : Char} (h : IsLower c) : c ≠ 'Σ' := by
  rintro rfl
  have hmapped : rowImage lowercaseRows 'Σ'.toNat ≠ none := by decide
  exact hmapped h.unmapped

theorem IsLower.lowerOne_eq {c : Char} (h : IsLower c) : lowerOne c = [c] := by
  rw [lowerOne, if_neg h.undotted, mapByRows, h.unmapped]

theorem toNat_ofNat_cases (n : Nat) : (Char.ofNat n).toNat = n ∨ (Char.ofNat n).toNat = 0 := by
  unfold Char.ofNat
  by_cases hvalid : n.isValidChar
  · rw [dif_pos hvalid]
    exact .inl rfl
  · rw [dif_neg hvalid]
    exact .inr rfl

theorem isLower_ofNat {image : Nat} (hunmapped : rowImage lowercaseRows image = none)
    (hundotted : image ≠ 0x130) : IsLower (Char.ofNat image) := by
  have hnumber := toNat_ofNat_cases image
  constructor
  · rcases hnumber with himage | hzero
    · rwa [himage]
    · rw [hzero]
      decide
  · intro heq
    have hdotted : (Char.ofNat image).toNat = 0x130 := by
      rw [heq]
      rfl
    omega

theorem isLower_mapByRows {c : Char} (h : c ≠ 'İ') : IsLower (mapByRows lowercaseRows c) := by
  unfold mapByRows
  cases himage : rowImage lowercaseRows c.toNat with
  | none => exact ⟨himage, h⟩
  | some image =>
    obtain ⟨row, hrow, hfirst, hlast, hstep, rfl⟩ := exists_row_of_rowImage himage
    have hspared := List.all_eq_true.mp images_spared row hrow
    have hundotted := List.all_eq_true.mp images_undotted row hrow
    refine isLower_ofNat (rowImage_eq_none hspared (by omega) (by omega) ?_) ?_
    · rwa [Nat.add_sub_cancel_left]
    · simp only [Nat.blt, Bool.or_eq_true, Nat.ble_eq] at hundotted
      omega

theorem isLower_lowerSigma (before after : List Char) : IsLower (lowerSigma before after) := by
  unfold lowerSigma
  split
  · exact ⟨by decide, by decide⟩
  · exact ⟨by decide, by decide⟩

theorem isLower_of_mem_lowerOne {c d : Char} (h : d ∈ lowerOne c) : IsLower d := by
  unfold lowerOne at h
  split at h
  · simp only [List.mem_cons, List.not_mem_nil, or_false] at h
    rcases h with rfl | rfl
    · exact ⟨by decide, by decide⟩
    · exact ⟨by decide, by decide⟩
  · rename_i hdotted
    rw [List.mem_singleton.mp h]
    exact isLower_mapByRows hdotted

theorem isLower_of_mem_lowercase {d : Char} {cs : List Char} (h : d ∈ lowercase cs) :
    IsLower d := by
  suffices hfrom : ∀ before, d ∈ lowercaseFrom before [] cs → IsLower d from hfrom [] h
  clear h
  induction cs with
  | nil => exact fun _ h => absurd h List.not_mem_nil
  | cons c cs ih =>
    intro before h
    rw [lowercaseFrom, lowercaseFrom_eq, List.append_nil, List.reverse_reverse,
      List.mem_append] at h
    rcases h with hhere | hlater
    · split at hhere
      · rw [List.mem_singleton.mp hhere]
        exact isLower_lowerSigma before cs
      · exact isLower_of_mem_lowerOne hhere
    · exact ih (c :: before) hlater

theorem lowercase_of_isLower {cs : List Char} (h : ∀ c ∈ cs, IsLower c) : lowercase cs = cs := by
  suffices hfrom : ∀ before, lowercaseFrom before [] cs = cs from hfrom []
  induction cs with
  | nil => exact fun _ => rfl
  | cons c cs ih =>
    intro before
    obtain ⟨hc, hcs⟩ := List.forall_mem_cons.mp h
    rw [lowercaseFrom, lowercaseFrom_eq, if_neg hc.ne_sigma, hc.lowerOne_eq, ih hcs]
    rfl

theorem isLower_iff {c : Char} : IsLower c ↔ lowercase [c] = [c] := by
  constructor
  · intro h
    exact lowercase_of_isLower (by simpa using h)
  · intro h
    exact isLower_of_mem_lowercase (h ▸ List.mem_singleton_self c)

set_option maxRecDepth 100000 in
theorem images_above_marks : (lowercaseRows.all fun row => Nat.ble 0x61 row.2.2.2) = true := by
  decide

theorem image_ne_slash {n image : Nat} (h : rowImage lowercaseRows n = some image) :
    Char.ofNat image ≠ '/' := by
  intro heq
  obtain ⟨row, hrow, -, -, -, himage⟩ := exists_row_of_rowImage h
  have hlow := Nat.ble_eq.mp (List.all_eq_true.mp images_above_marks row hrow)
  have hslash : (Char.ofNat image).toNat = 0x2F := by
    rw [heq]
    rfl
  have hnumber := toNat_ofNat_cases image
  omega

theorem slash_mem_lowerOne_iff (c : Char) : '/' ∈ lowerOne c ↔ c = '/' := by
  unfold lowerOne mapByRows
  split
  · rename_i hdotted
    rw [hdotted]
    decide
  · rw [List.mem_singleton]
    split
    · rename_i image himage
      constructor
      · exact fun h => absurd h.symm (image_ne_slash himage)
      · rintro rfl
        have hunmapped : rowImage lowercaseRows '/'.toNat = none := by decide
        rw [hunmapped] at himage
        cases himage
    · exact eq_comm

theorem slash_mem_lowercase_iff (cs : List Char) : '/' ∈ lowercase cs ↔ '/' ∈ cs := by
  suffices hfrom : ∀ before, '/' ∈ lowercaseFrom before [] cs ↔ '/' ∈ cs from hfrom []
  induction cs with
  | nil => simp [lowercaseFrom]
  | cons c cs ih =>
    intro before
    rw [lowercaseFrom, lowercaseFrom_eq, List.append_nil, List.reverse_reverse, List.mem_append,
      ih (c :: before), List.mem_cons]
    refine or_congr_left ?_
    split
    · rename_i hsigma
      have hlower : '/' ≠ lowerSigma before cs := by
        unfold lowerSigma
        split <;> decide
      rw [List.mem_singleton, hsigma]
      exact ⟨fun h => absurd h hlower, fun h => absurd h (by decide)⟩
    · rw [slash_mem_lowerOne_iff, eq_comm]

end Scriptwright.Text

import Mathlib.Data.List.Induction
import Mathlib.Data.List.Infix
import Scriptwright.Text.Words

/-!
Blanks, words and lines of texts that are put together. Words part at every blank, lines at every
line feed, and what is cut off at an end is never more than blanks.
-/
namespace Scriptwright.Text

theorem dropEndWhile_of_getLast {p : Char → Bool} {cs : List Char}
    (h : ∀ c ∈ cs.getLast?, p c = false) : dropEndWhile p cs = cs := by
  induction cs using List.reverseRecOn with
  | nil => rfl
  | append_singleton cs c _ =>
    have hc : p c = false := h c (by simp)
    simp [dropEndWhile, hc]

theorem trimEnd_of_getLast {cs : List Char} (h : ∀ c ∈ cs.getLast?, isBlank c = false) :
    trimEnd cs = cs :=
  dropEndWhile_of_getLast h

theorem trimStart_cons {c : Char} (h : isBlank c = false) (cs : List Char) :
    trimStart (c :: cs) = c :: cs := by
  simp [trimStart, h]

theorem trimStart_append_cons (xs : List Char) {c : Char} (h : isBlank c = false)
    (cs : List Char) : trimStart (xs ++ c :: cs) = trimStart xs ++ c :: cs := by
  unfold trimStart
  induction xs with
  | nil => simp [h]
  | cons x xs ih =>
    by_cases hx : isBlank x = true
    · simpa [hx] using ih
    · simp [hx]

theorem trim_append_cons (xs : List Char) {c : Char} (h : isBlank c = false) (cs : List Char)
    (hlast : ∀ d ∈ (c :: cs).getLast?, isBlank d = false) :
    trim (xs ++ c :: cs) = trimStart xs ++ c :: cs := by
  rw [trim, trimStart_append_cons xs h]
  apply trimEnd_of_getLast
  rwa [List.getLast?_append_of_ne_nil _ (List.cons_ne_nil c cs)]

theorem trim_cons_blank {c : Char} (h : isBlank c = true) (cs : List Char) :
    trim (c :: cs) = trim cs := by
  simp [trim, trimStart, h]

theorem getLast?_trim (cs : List Char) : ∀ c ∈ (trim cs).getLast?, isBlank c = false := by
  intro c hc
  unfold trim trimEnd dropEndWhile at hc
  rw [List.getLast?_reverse] at hc
  have hhead := List.head?_dropWhile_not isBlank (trimStart cs).reverse
  rw [Option.mem_def.mp hc] at hhead
  simpa using hhead

theorem isBlankText_eq_false_iff (cs : List Char) :
    isBlankText cs = false ↔ ∃ c ∈ cs, isBlank c = false := by
  simp [isBlankText]

theorem foldr_wordsStep_append (xs : List Char) (finished : List (List Char)) :
    xs.foldr wordsStep ([], finished) =
      ((xs.foldr wordsStep ([], [])).1, (xs.foldr wordsStep ([], [])).2 ++ finished) := by
  induction xs with
  | nil => rfl
  | cons x xs ih =>
    rw [List.foldr_cons, List.foldr_cons, ih]
    cases hxs : xs.foldr wordsStep ([], []) with
    | mk current done =>
      by_cases hx : isBlank x = true
      · cases current <;> simp [wordsStep, hx]
      · simp [wordsStep, hx]

theorem words_append_blank (xs : List Char) {c : Char} (h : isBlank c = true) (ys : List Char) :
    words (xs ++ c :: ys) = words xs ++ words ys := by
  have hright : wordsStep c (ys.foldr wordsStep ([], [])) = ([], words ys) := by
    unfold words
    cases ys.foldr wordsStep ([], []) with
    | mk current done => cases current <;> simp [wordsStep, h]
  unfold words at hright ⊢
  rw [List.foldr_append, List.foldr_cons, hright, foldr_wordsStep_append]
  cases xs.foldr wordsStep ([], []) with
  | mk current done => cases current <;> rfl

theorem words_of_not_blank {cs : List Char} (hne : cs ≠ []) (h : ∀ c ∈ cs, isBlank c = false) :
    words cs = [cs] := by
  have hsteps : ∀ {cs : List Char}, (∀ c ∈ cs, isBlank c = false) →
      cs.foldr wordsStep ([], []) = (cs, []) := by
    intro cs h
    induction cs with
    | nil => rfl
    | cons c cs ih =>
      obtain ⟨hc, hcs⟩ := List.forall_mem_cons.mp h
      rw [List.foldr_cons, ih hcs]
      simp [wordsStep, hc]
  unfold words
  rw [hsteps h]
  obtain ⟨c, cs, rfl⟩ := List.exists_cons_of_ne_nil hne
  rfl

/-- What holds of texts without separators, and of such a text in front of a separator and a rest
if it holds of the rest. -/
@[elab_as_elim]
theorem separator_induction {sep : Char → Bool} {motive : List Char → Prop}
    (plain : ∀ cs, (∀ c ∈ cs, sep c = false) → motive cs)
    (around : ∀ xs s ys, (∀ c ∈ xs, sep c = false) → sep s = true → motive ys →
      motive (xs ++ s :: ys)) (cs : List Char) : motive cs := by
  have hfront : ∀ front, (∀ c ∈ front, sep c = false) → motive (front ++ cs) := by
    induction cs with
    | nil =>
      intro front h
      rw [List.append_nil]
      exact plain front h
    | cons c cs ih =>
      intro front h
      by_cases hc : sep c = true
      · exact around front c cs h hc (ih [] (List.forall_mem_nil _))
      · rw [List.append_cons]
        exact ih (front ++ [c]) (List.forall_mem_append.mpr ⟨h, by simpa using hc⟩)
  exact hfront [] (List.forall_mem_nil _)

@[elab_as_elim]
theorem blank_induction {motive : List Char → Prop}
    (plain : ∀ cs, (∀ c ∈ cs, isBlank c = false) → motive cs)
    (around : ∀ xs b ys, isBlank b = true → motive xs → motive ys → motive (xs ++ b :: ys))
    (cs : List Char) : motive cs :=
  separator_induction plain (fun xs b ys hxs hb => around xs b ys hb (plain xs hxs)) cs

@[elab_as_elim]
theorem feed_induction {motive : List Char → Prop}
    (row : ∀ row, '\n' ∉ row → motive row)
    (feed : ∀ row rest, '\n' ∉ row → motive rest → motive (row ++ '\n' :: rest))
    (cs : List Char) : motive cs := by
  have hrow : ∀ {cs : List Char}, (∀ c ∈ cs, (c == '\n') = false) → '\n' ∉ cs := by
    intro cs h hmem
    have hfeed := h '\n' hmem
    cases hfeed
  refine separator_induction (fun cs h => row cs (hrow h)) (fun xs s ys hxs hs hys => ?_) cs
  obtain rfl : s = '\n' := by simpa using hs
  exact feed xs ys (hrow hxs) hys

theorem mem_words {cs word : List Char} (h : word ∈ words cs) :
    word ≠ [] ∧ ∀ c ∈ word, isBlank c = false ∧ c ∈ cs := by
  induction cs using blank_induction with
  | plain cs hplain =>
    cases cs with
    | nil => cases h
    | cons d ds =>
      rw [words_of_not_blank (List.cons_ne_nil d ds) hplain, List.mem_singleton] at h
      subst h
      exact ⟨List.cons_ne_nil d ds, fun c hc => ⟨hplain c hc, hc⟩⟩
  | around xs b ys hb ihxs ihys =>
    rw [words_append_blank xs hb, List.mem_append] at h
    rcases h with h | h
    · obtain ⟨hne, hchars⟩ := ihxs h
      exact ⟨hne, fun c hc => ⟨(hchars c hc).1, List.mem_append_left _ (hchars c hc).2⟩⟩
    · obtain ⟨hne, hchars⟩ := ihys h
      exact ⟨hne, fun c hc => ⟨(hchars c hc).1, List.mem_append_right _
        (List.mem_cons_of_mem _ (hchars c hc).2)⟩⟩

theorem exists_mem_words {cs : List Char} {c : Char} (h : c ∈ cs) (hc : isBlank c = false) :
    ∃ word ∈ words cs, c ∈ word := by
  induction cs using blank_induction with
  | plain cs hplain =>
    rw [words_of_not_blank (List.ne_nil_of_mem h) hplain]
    exact ⟨cs, List.mem_singleton_self cs, h⟩
  | around xs b ys hb ihxs ihys =>
    rw [words_append_blank xs hb]
    rcases List.mem_append.mp h with hxs | hrest
    · obtain ⟨word, hword, hmem⟩ := ihxs hxs
      exact ⟨word, List.mem_append_left _ hword, hmem⟩
    · have hne : c ≠ b := fun heq => by simp [heq, hb] at hc
      obtain ⟨word, hword, hmem⟩ := ihys ((List.mem_cons.mp hrest).resolve_left hne)
      exact ⟨word, List.mem_append_right _ hword, hmem⟩

theorem mem_of_mem_intercalate {c : Char} {sep : List Char} {texts : List (List Char)}
    (h : c ∈ List.intercalate sep texts) : c ∈ sep ∨ ∃ text ∈ texts, c ∈ text := by
  induction texts with
  | nil => cases h
  | cons text texts ih =>
    cases texts with
    | nil => exact .inr ⟨text, List.mem_cons_self, by simpa using h⟩
    | cons next texts =>
      rw [List.intercalate_cons_cons, List.mem_append, List.mem_append] at h
      rcases h with (h | h) | h
      · exact .inr ⟨text, List.mem_cons_self, h⟩
      · exact .inl h
      · exact (ih h).imp_right fun ⟨t, ht, hc⟩ => ⟨t, List.mem_cons_of_mem _ ht, hc⟩

theorem mem_intercalate {c : Char} {texts : List (List Char)} {text : List Char}
    (sep : List Char) (htext : text ∈ texts) (hc : c ∈ text) : c ∈ List.intercalate sep texts := by
  induction texts with
  | nil => cases htext
  | cons first texts ih =>
    cases texts with
    | nil => simpa [List.mem_singleton.mp htext] using hc
    | cons next texts =>
      rw [List.intercalate_cons_cons, List.mem_append, List.mem_append]
      rcases List.mem_cons.mp htext with rfl | hmem
      · exact .inl (.inl hc)
      · exact .inr (ih hmem)

theorem unwords_sublist (w : List Char) (ws : List (List Char)) :
    (unwords ws).Sublist (unwords (w :: ws)) := by
  cases ws with
  | nil => exact List.nil_sublist _
  | cons w' ws =>
    rw [unwords, unwords, List.intercalate_cons_cons]
    exact (List.suffix_append _ _).sublist

/-- Words with single spaces between them are what is left of a text when some of its blanks are
taken out and spaces stand for the others. -/
theorem unwords_words_sublist (cs : List Char) :
    (unwords (words cs)).Sublist (cs.map fun c => if isBlank c then ' ' else c) := by
  -- the word that is still growing counts as one, with a space behind it
  have hsteps : (unwords ((cs.foldr wordsStep ([], [])).1 ::
      (cs.foldr wordsStep ([], [])).2)).Sublist
        (cs.map fun c => if isBlank c then ' ' else c) := by
    induction cs with
    | nil => exact List.nil_sublist _
    | cons c cs ih =>
      rw [List.foldr_cons, List.map_cons]
      cases hcs : cs.foldr wordsStep ([], []) with
      | mk current finished =>
        rw [hcs] at ih
        by_cases hc : isBlank c = true
        · cases current with
          | nil => simpa [wordsStep, hc] using ih.trans (List.sublist_cons_self ' ' _)
          | cons d current =>
            simpa [wordsStep, hc, unwords, List.intercalate_cons_cons] using ih
        · cases finished with
          | nil => simpa [wordsStep, hc, unwords] using ih
          | cons w ws => simpa [wordsStep, hc, unwords, List.intercalate_cons_cons] using ih
  unfold words
  cases hcs : cs.foldr wordsStep ([], []) with
  | mk current finished =>
    rw [hcs] at hsteps
    cases current with
    | nil => exact (unwords_sublist [] finished).trans hsteps
    | cons d current => exact hsteps

theorem linePieces_ne_nil (xs : List Char) (c : Char) (ys : List Char) :
    linePieces (xs ++ c :: ys) ≠ [] := by
  have hstep : ∀ (d : Char) (pieces : List (List Char)), lineStep d pieces ≠ [] := by
    intro d pieces
    cases pieces with
    | nil => exact List.cons_ne_nil _ _
    | cons piece pieces => by_cases hd : d = '\n' <;> simp [lineStep, hd]
  cases xs with
  | nil => exact hstep c _
  | cons x xs => exact hstep x _

theorem linePieces_append (xs ys : List Char) :
    linePieces (xs ++ '\n' :: ys) = linePieces (xs ++ ['\n']) ++ linePieces ys := by
  induction xs with
  | nil =>
    unfold linePieces
    rw [List.nil_append, List.nil_append, List.foldr_cons, List.foldr_cons, List.foldr_nil]
    cases ys.foldr lineStep [] <;> rfl
  | cons x xs ih =>
    have hne := linePieces_ne_nil xs '\n' []
    unfold linePieces at ih hne ⊢
    rw [List.cons_append, List.cons_append, List.foldr_cons, List.foldr_cons, ih]
    cases hleft : (xs ++ ['\n']).foldr lineStep [] with
    | nil => exact absurd hleft hne
    | cons piece pieces =>
      by_cases hx : x = '\n' <;> simp [lineStep, hx]

theorem lines_append (xs ys : List Char) :
    lines (xs ++ '\n' :: ys) = lines (xs ++ ['\n']) ++ lines ys := by
  simp [lines, linePieces_append xs ys]

theorem linePieces_line {line : List Char} (h : '\n' ∉ line) :
    linePieces (line ++ ['\n']) = [line ++ ['\n']] := by
  induction line with
  | nil => rfl
  | cons c cs ih =>
    have hc : c ≠ '\n' := fun e => h (e ▸ List.mem_cons_self)
    have hcs := ih fun m => h (List.mem_cons_of_mem c m)
    unfold linePieces at hcs ⊢
    rw [List.cons_append, List.foldr_cons, hcs]
    simp [lineStep, hc]

theorem linePieces_of_not_mem {line : List Char} (h : '\n' ∉ line) (hne : line ≠ []) :
    linePieces line = [line] := by
  induction line with
  | nil => exact absurd rfl hne
  | cons c cs ih =>
    have hc : c ≠ '\n' := (List.ne_of_not_mem_cons h).symm
    cases cs with
    | nil => rfl
    | cons d ds =>
      have hrest := ih (List.not_mem_of_not_mem_cons h) (List.cons_ne_nil d ds)
      unfold linePieces at hrest ⊢
      rw [List.foldr_cons, hrest]
      simp [lineStep, hc]

/-- A row without one carriage return at its end. -/
def dropReturn (row : List Char) : List Char :=
  if row.getLast? = some '\r' then row.dropLast else row

theorem dropReturn_prefix (row : List Char) : dropReturn row <+: row := by
  unfold dropReturn
  split
  · exact List.dropLast_prefix row
  · exact List.prefix_refl row

theorem dropReturn_of_getLast {row : List Char} (h : '\r' ∉ row.getLast?) : dropReturn row = row :=
  if_neg h

theorem dropLineEnd_feed (row : List Char) : dropLineEnd (row ++ ['\n']) = dropReturn row := by
  induction row using List.reverseRecOn with
  | nil => rfl
  | append_singleton row c _ => by_cases hc : c = '\r' <;> simp [dropLineEnd, dropReturn, hc]

theorem dropLineEnd_of_not_mem {row : List Char} (h : '\n' ∉ row) : dropLineEnd row = row := by
  have hreverse : ∀ rest, row.reverse ≠ '\n' :: rest := by
    intro rest hrow
    apply h
    rw [← List.mem_reverse, hrow]
    exact List.mem_cons_self
  unfold dropLineEnd
  split
  · rename_i hrow
    exact absurd hrow (hreverse _)
  · rename_i hrow
    exact absurd hrow (hreverse _)
  · rfl

theorem lines_of_not_mem {row : List Char} (h : '\n' ∉ row) (hne : row ≠ []) :
    lines row = [row] := by
  rw [lines, linePieces_of_not_mem h hne, List.map_singleton, dropLineEnd_of_not_mem h]

theorem lines_row_append {row : List Char} (h : '\n' ∉ row) (rest : List Char) :
    lines (row ++ '\n' :: rest) = dropReturn row :: lines rest := by
  rw [lines_append, lines, linePieces_line h, List.map_singleton, dropLineEnd_feed]
  rfl

theorem lines_line_append {line : List Char} (h : '\n' ∉ line) (hr : '\r' ∉ line.getLast?)
    (rest : List Char) : lines (line ++ '\n' :: rest) = line :: lines rest := by
  rw [lines_row_append h, dropReturn_of_getLast hr]

end Scriptwright.Text

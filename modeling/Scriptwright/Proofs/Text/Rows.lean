import Scriptwright.Proofs.Text.Lines
import Scriptwright.Proofs.Text.Search

/-!
What stands between the line feeds of a text. Every line feed ends a row and begins another one, so
texts with line feeds between them have the rows of all of them. The lines that are read off a text
are its rows, but for returns in front of line feeds and for an empty row at the end.
-/
namespace Scriptwright.Text

/-- Carriage returns stay, and there is an empty row behind a final line feed. -/
def rows (cs : List Char) : List (List Char) := splitAt (· == '\n') cs

theorem rows_ne_nil (cs : List Char) : rows cs ≠ [] := splitAt_ne_nil _ cs

theorem rows_of_not_mem {cs : List Char} (h : '\n' ∉ cs) : rows cs = [cs] :=
  splitAt_of_not_mem fun c hc => by simpa using ne_of_mem_of_not_mem hc h

theorem rows_cons {c : Char} (h : c ≠ '\n') (cs : List Char) :
    rows (c :: cs) = (rows cs).modifyHead (c :: ·) := by
  have hne := rows_ne_nil cs
  unfold rows splitAt at hne ⊢
  rw [List.foldr_cons]
  cases hrows : cs.foldr (splitStep (· == '\n')) [[]] with
  | nil => exact absurd hrows hne
  | cons row more => simp [splitStep, h]

theorem rows_append_feed (xs ys : List Char) : rows (xs ++ '\n' :: ys) = rows xs ++ rows ys :=
  splitAt_append_sep rfl xs ys

theorem rows_feed (cs : List Char) : rows ('\n' :: cs) = [] :: rows cs := rows_append_feed [] cs

theorem rows_append {front : List Char} (h : '\n' ∉ front) (cs : List Char) :
    rows (front ++ cs) = (rows cs).modifyHead (front ++ ·) := by
  induction front with
  | nil => cases hrows : rows cs <;> simp [hrows]
  | cons c front ih =>
    rw [List.cons_append, rows_cons (List.ne_of_not_mem_cons h).symm,
      ih (List.not_mem_of_not_mem_cons h), List.modifyHead_modifyHead]
    rfl

theorem rows_intercalate {texts : List (List Char)} (h : texts ≠ []) :
    rows (List.intercalate ['\n'] texts) = texts.flatMap rows := by
  induction texts with
  | nil => exact absurd rfl h
  | cons text texts ih =>
    cases texts with
    | nil => simp
    | cons next texts =>
      have hrest := ih (List.cons_ne_nil next texts)
      rw [List.intercalate_cons_cons, List.append_assoc, List.singleton_append, rows_append_feed,
        hrest]
      rfl

theorem length_rows (cs : List Char) : (rows cs).length = cs.count '\n' + 1 := by
  induction cs with
  | nil => rfl
  | cons c cs ih =>
    by_cases hc : c = '\n'
    · rw [hc, rows_feed, List.length_cons, ih, List.count_cons_self]
    · rw [rows_cons hc, List.length_modifyHead, ih, List.count_cons_of_ne hc]

/-- Texts that have one row each are those without line feeds. -/
theorem length_flatMap_rows_eq_iff (texts : List (List Char)) :
    (texts.flatMap rows).length = texts.length ↔ ∀ text ∈ texts, '\n' ∉ text := by
  have hleast : ∀ texts : List (List Char), texts.length ≤ (texts.flatMap rows).length := by
    intro texts
    induction texts with
    | nil => exact Nat.le_refl 0
    | cons text texts ih =>
      rw [List.flatMap_cons, List.length_append, length_rows, List.length_cons]
      omega
  induction texts with
  | nil => simp
  | cons text texts ih =>
    have hcount : '\n' ∉ text ↔ text.count '\n' = 0 := List.count_eq_zero.symm
    have hrest := hleast texts
    rw [List.forall_mem_cons, and_congr hcount ih.symm, List.flatMap_cons, List.length_append,
      length_rows, List.length_cons]
    omega

theorem flatMap_rows_of_not_mem {texts : List (List Char)} (h : ∀ text ∈ texts, '\n' ∉ text) :
    texts.flatMap rows = texts := by
  induction texts with
  | nil => rfl
  | cons text texts ih =>
    obtain ⟨htext, hrest⟩ := List.forall_mem_cons.mp h
    rw [List.flatMap_cons, rows_of_not_mem htext, ih hrest, List.singleton_append]

/-- Put together from texts of one row each, empty ones aside, a text has just these rows. -/
theorem filter_rows_intercalate {texts : List (List Char)} (h : ∀ text ∈ texts, '\n' ∉ text) :
    (rows (List.intercalate ['\n'] texts)).filter (!·.isEmpty) = texts.filter (!·.isEmpty) := by
  by_cases hnil : texts = []
  · rw [hnil]
    rfl
  · rw [rows_intercalate hnil, flatMap_rows_of_not_mem h]

/-- Rows as lines: a carriage return in front of a line feed belongs to the end of the line, and
behind the last line feed there is a line only where there is text. -/
def lineRows : List (List Char) → List (List Char)
  | [] => []
  | [row] => if row = [] then [] else [row]
  | row :: next :: more => dropReturn row :: lineRows (next :: more)

theorem lines_eq_lineRows (cs : List Char) : lines cs = lineRows (rows cs) := by
  induction cs using feed_induction with
  | row row h =>
    rw [rows_of_not_mem h]
    by_cases hne : row = []
    · rw [hne]
      rfl
    · rw [lines_of_not_mem h hne, lineRows, if_neg hne]
  | feed row rest h ih =>
    obtain ⟨next, more, hrest⟩ := List.exists_cons_of_ne_nil (rows_ne_nil rest)
    rw [lines_row_append h, rows_append_feed, rows_of_not_mem h, ih, hrest]
    rfl

theorem exists_prefix_of_mem_lineRows {line : List Char} {pieces : List (List Char)}
    (h : line ∈ lineRows pieces) : ∃ row ∈ pieces, line <+: row := by
  induction pieces with
  | nil => cases h
  | cons row more ih =>
    cases more with
    | nil =>
      unfold lineRows at h
      split at h
      · cases h
      · exact ⟨row, List.mem_cons_self, by rw [List.mem_singleton.mp h]⟩
    | cons next more =>
      rcases List.mem_cons.mp h with rfl | h
      · exact ⟨row, List.mem_cons_self, dropReturn_prefix row⟩
      · obtain ⟨later, hlater, hfront⟩ := ih h
        exact ⟨later, List.mem_cons_of_mem row hlater, hfront⟩

theorem feed_not_mem_lines {line cs : List Char} (h : line ∈ lines cs) : '\n' ∉ line := by
  rw [lines_eq_lineRows] at h
  obtain ⟨row, hrow, hfront⟩ := exists_prefix_of_mem_lineRows h
  intro hmem
  have hfeed := not_sep_of_mem_splitAt hrow '\n' (hfront.subset hmem)
  cases hfeed

/-- Every row of the text is a comment. -/
def Commented (cs : List Char) : Prop := ∀ row ∈ rows cs, row.head? = some '#'

theorem commented_append_feed (xs ys : List Char) :
    Commented (xs ++ '\n' :: ys) ↔ Commented xs ∧ Commented ys := by
  unfold Commented
  rw [rows_append_feed, List.forall_mem_append]

theorem commented_append_iff {front : List Char} (h : '\n' ∉ front)
    (hmark : front.head? = some '#') (cs : List Char) :
    Commented (front ++ cs) ↔ ∀ row ∈ (rows cs).tail, row.head? = some '#' := by
  unfold Commented
  rw [rows_append h]
  cases hrows : rows cs with
  | nil => exact absurd hrows (rows_ne_nil cs)
  | cons row more =>
    have hfirst : (front ++ row).head? = some '#' := by
      rw [List.head?_append, hmark, Option.some_or]
    rw [List.modifyHead_cons, List.forall_mem_cons, List.tail_cons]
    exact and_iff_right hfirst

end Scriptwright.Text

import Mathlib.Data.List.DropRight
import Mathlib.Data.List.Forall2
import Scriptwright.Markup.Library
import Scriptwright.Proofs.Text.Rows

/-!
Indented blocks read back. A block has one row for each line of its text, a blank line leaves an
empty one, and what follows the spaces in the other rows is the text line by line.
-/
namespace Scriptwright.Script

/-- The lines of a text that is set as a block. The line feeds at its end are no part of it. -/
def blockLines (cs : List Char) : List (List Char) :=
  Text.lineRows (Text.rows (cs.rdropWhile (· == '\n')))

/-- What stands for a line in a block: nothing if it is blank, else the line behind spaces. -/
structure IsIndented (width : Nat) (line piece : List Char) : Prop where
  eq_nil_iff : piece = [] ↔ Text.isBlankText line = true
  eq_of_ne_nil : piece ≠ [] → piece = List.replicate width ' ' ++ line

theorem indentBlockChars_eq (width : Nat) (cs : List Char) :
    indentBlockChars width cs =
      List.intercalate ['\n'] ((blockLines cs).map (indentLine width)) := by
  have hlines : Text.lines (Text.dropEndWhile (· == '\n') cs) = blockLines cs :=
    Text.lines_eq_lineRows _
  rw [← hlines]
  rfl

theorem indentLine_of_blank {line : List Char} (h : Text.isBlankText line = true) (width : Nat) :
    indentLine width line = [] :=
  if_pos h

theorem indentLine_of_not_blank {line : List Char} (h : Text.isBlankText line = false)
    (width : Nat) : indentLine width line = List.replicate width ' ' ++ line :=
  if_neg (by simp [h])

theorem isEmpty_indentLine (width : Nat) (line : List Char) :
    (indentLine width line).isEmpty = Text.isBlankText line := by
  cases h : Text.isBlankText line with
  | true => rw [indentLine_of_blank h, List.isEmpty_nil]
  | false =>
    obtain ⟨c, hc, -⟩ := (Text.isBlankText_eq_false_iff line).mp h
    have hne : line ≠ [] := List.ne_nil_of_mem hc
    rw [indentLine_of_not_blank h]
    simp [hne]

theorem isIndented_indentLine (width : Nat) (line : List Char) :
    IsIndented width line (indentLine width line) where
  eq_nil_iff := by rw [← isEmpty_indentLine width line, List.isEmpty_iff]
  eq_of_ne_nil hne := by
    cases h : Text.isBlankText line with
    | true => exact absurd (indentLine_of_blank h width) hne
    | false => exact indentLine_of_not_blank h width

theorem feed_not_mem_indentLine {line : List Char} (h : '\n' ∉ line) (width : Nat) :
    '\n' ∉ indentLine width line := by
  cases hblank : Text.isBlankText line with
  | true =>
    rw [indentLine_of_blank hblank]
    exact List.not_mem_nil
  | false =>
    rw [indentLine_of_not_blank hblank, List.mem_append, not_or]
    refine ⟨fun hmem => ?_, h⟩
    have hspace : '\n' = ' ' := List.eq_of_mem_replicate hmem
    cases hspace

theorem feed_not_mem_blockLines {line cs : List Char} (h : line ∈ blockLines cs) : '\n' ∉ line := by
  unfold blockLines at h
  rw [← Text.lines_eq_lineRows] at h
  exact Text.feed_not_mem_lines h

/-- The rows with something in them are the lines with more than blanks, each behind the spaces. -/
theorem filter_rows_indentBlockChars (width : Nat) (cs : List Char) :
    (Text.rows (indentBlockChars width cs)).filter (!·.isEmpty) =
      ((blockLines cs).filter (!Text.isBlankText ·)).map (List.replicate width ' ' ++ ·) := by
  have hfeeds : ∀ piece ∈ (blockLines cs).map (indentLine width), '\n' ∉ piece := by
    intro piece hpiece
    obtain ⟨line, hline, rfl⟩ := List.mem_map.mp hpiece
    exact feed_not_mem_indentLine (feed_not_mem_blockLines hline) width
  have hkept : ((!·.isEmpty) ∘ indentLine width) = (!Text.isBlankText ·) := by
    funext line
    rw [Function.comp_apply, isEmpty_indentLine]
  rw [indentBlockChars_eq, Text.filter_rows_intercalate hfeeds, List.filter_map, hkept]
  apply List.map_congr_left
  intro line hline
  have hblank : Text.isBlankText line = false := by simpa using (List.mem_filter.mp hline).2
  exact indentLine_of_not_blank hblank width

theorem spaces_prefix_of_mem_rows {width : Nat} {cs row : List Char}
    (h : row ∈ Text.rows (indentBlockChars width cs)) (hne : row ≠ []) :
    List.replicate width ' ' <+: row := by
  have hkept : row ∈ (Text.rows (indentBlockChars width cs)).filter (!·.isEmpty) :=
    List.mem_filter.mpr ⟨h, by simpa using hne⟩
  rw [filter_rows_indentBlockChars] at hkept
  obtain ⟨line, -, rfl⟩ := List.mem_map.mp hkept
  exact List.prefix_append _ line

/-- Without its spaces, a block gives the lines back that are not blank. -/
theorem map_drop_rows_indentBlockChars (width : Nat) (cs : List Char) :
    ((Text.rows (indentBlockChars width cs)).filter (!·.isEmpty)).map (List.drop width) =
      (blockLines cs).filter (!Text.isBlankText ·) := by
  rw [filter_rows_indentBlockChars, List.map_map]
  have hdrop : List.drop width ∘ (List.replicate width ' ' ++ ·) = id := by
    funext line
    exact List.drop_left' List.length_replicate
  rw [hdrop, List.map_id]

theorem indentBlock_string (text : String) (width : UInt64) :
    Markup.indentBlock (.string text) [("width", .nat width.toNat)] =
      .ok (.string (indentBlock width.toNat text)) := by
  have hbound := width.toNat_lt
  have hwidth : Number.isUnsigned width.toNat = true := by
    simp only [Number.isUnsigned, Bool.and_eq_true, decide_eq_true_eq]
    omega
  unfold Markup.indentBlock Value.nat
  rw [Markup.indentWidth_int hwidth]
  rfl

/-- Every text is set as a block of any width. There is one piece for each line of the text, a row
is empty or begins with the spaces, and behind them stand the lines that are not blank, in order. -/
theorem indentBlock_keeps_lines (text : String) (width : UInt64) :
    ∃ filter block, Markup.filter? "indent_block" = some filter ∧
      filter (.string text) [("width", .nat width.toNat)] = .ok (.string block) ∧
      (∃ pieces, block.toList = List.intercalate ['\n'] pieces ∧
        List.Forall₂ (IsIndented width.toNat) (blockLines text.toList) pieces) ∧
      (∀ row ∈ Text.rows block.toList, row = [] ∨ List.replicate width.toNat ' ' <+: row) ∧
      ((Text.rows block.toList).filter (!·.isEmpty)).map (List.drop width.toNat) =
        (blockLines text.toList).filter (!Text.isBlankText ·) := by
  have hblock : (indentBlock width.toNat text).toList =
      indentBlockChars width.toNat text.toList := String.toList_ofList
  refine ⟨_, indentBlock width.toNat text, rfl, indentBlock_string text width, ?_⟩
  rw [hblock]
  refine ⟨⟨_, indentBlockChars_eq width.toNat text.toList, ?_⟩, fun row hrow => ?_,
    map_drop_rows_indentBlockChars width.toNat text.toList⟩
  · rw [List.forall₂_map_right_iff, List.forall₂_same]
    exact fun line _ => isIndented_indentLine width.toNat line
  · by_cases hne : row = []
    · exact .inl hne
    · exact .inr (spaces_prefix_of_mem_rows hrow hne)

example : blockLines "\na\r\n \r\n\tb\r\r\nc\r\n\n".toList =
    [[], ['a'], [' '], ['\t', 'b', '\r'], ['c', '\r']] := by decide

example : indentBlock 8 "a = 1\n\nprint(a)\n" = "        a = 1\n\n        print(a)" := by decide

end Scriptwright.Script

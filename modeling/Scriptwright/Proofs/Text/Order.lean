import Mathlib.Data.List.Lex
import Mathlib.Data.UInt
import Scriptwright.Text.Ascending

/-!
The order of texts. Putting texts in order neither loses nor adds one. Texts are compared by code
points, systems compare the bytes of their encoding; both put any two texts in the same order.
-/
namespace Scriptwright.Text

theorem mem_addAscending {text t : String} {ts : List String} :
    t ∈ addAscending text ts ↔ t = text ∨ t ∈ ts := by
  induction ts with
  | nil => exact List.mem_cons
  | cons u us ih =>
    rw [addAscending]
    split
    · exact List.mem_cons
    · split
      · rename_i same
        rw [same, List.mem_cons, or_self_left]
      · rw [List.mem_cons, ih, List.mem_cons, or_left_comm]

theorem mem_ascending {t : String} {texts : List String} : t ∈ ascending texts ↔ t ∈ texts := by
  induction texts with
  | nil => exact Iff.rfl
  | cons text texts ih =>
    have hstep : ascending (text :: texts) = addAscending text (ascending texts) := rfl
    rw [hstep, mem_addAscending, ih, List.mem_cons]

theorem pairwise_addAscending {text : String} {ts : List String} (h : ts.Pairwise (· < ·)) :
    (addAscending text ts).Pairwise (· < ·) := by
  induction ts with
  | nil => exact List.pairwise_singleton _ _
  | cons u us ih =>
    obtain ⟨hu, hus⟩ := List.pairwise_cons.mp h
    rw [addAscending]
    split
    · rename_i lt
      refine List.pairwise_cons.mpr ⟨fun v hv => ?_, h⟩
      rcases List.mem_cons.mp hv with rfl | hv
      · exact lt
      · exact String.lt_trans lt (hu v hv)
    · rename_i notLt
      split
      · exact h
      · rename_i different
        refine List.pairwise_cons.mpr ⟨fun v hv => ?_, ih hus⟩
        rcases mem_addAscending.mp hv with rfl | hv
        · exact Std.lt_of_le_of_ne (String.not_lt.mp notLt) (Ne.symm different)
        · exact hu v hv

theorem pairwise_ascending (texts : List String) : (ascending texts).Pairwise (· < ·) := by
  induction texts with
  | nil => exact List.Pairwise.nil
  | cons text texts ih => exact pairwise_addAscending ih

def bytes (s : String) : List UInt8 := s.toUTF8.data.toList

theorem bytes_eq (s : String) : bytes s = s.toList.flatMap String.utf8EncodeChar := by
  unfold bytes
  rw [String.toUTF8_eq_toByteArray, ← String.utf8Encode_toList, List.utf8Encode,
    List.toList_data_toByteArray]

/-- The bytes of one text come before those of the other, compared from the first one on. -/
def BytesBefore (s t : String) : Prop := List.Lex (· < ·) (bytes s) (bytes t)

/-- The encoding of a smaller character comes first, whatever follows either of them: its leading
byte is smaller, or it is as long and the first byte that differs is smaller. -/
theorem utf8EncodeChar_before {c d : Char} (h : c < d) (xs ys : List UInt8) :
    List.Lex (· < ·) (String.utf8EncodeChar c ++ xs) (String.utf8EncodeChar d ++ ys) := by
  have hcd : c.val.toNat < d.val.toNat := h
  have hd : d.val.toNat < 0x110000 := by
    rcases d.valid with hlow | ⟨-, hhigh⟩
    · exact Nat.lt_trans hlow (by decide)
    · exact hhigh
  have hsquare : ∀ n, n / 4096 = n / 64 / 64 := fun n => (Nat.div_div_eq_div_mul n 64 64).symm
  have hcube : ∀ n, n / 262144 = n / 64 / 64 / 64 := fun n => by
    rw [Nat.div_div_eq_div_mul, Nat.div_div_eq_div_mul]
  unfold String.utf8EncodeChar
  generalize c.val.toNat = m at hcd
  generalize d.val.toNat = n at hcd hd
  dsimp only
  split_ifs
  all_goals
    simp only [List.cons_append, List.nil_append, List.cons_lex_cons_iff, UInt8.lt_iff_toNat_lt,
      ← UInt8.toNat_inj, UInt8.toNat_ofNat', hsquare, hcube]
    omega

theorem lex_flatMap_utf8 {cs ds : List Char} (h : List.Lex (· < ·) cs ds) :
    List.Lex (· < ·) (cs.flatMap String.utf8EncodeChar) (ds.flatMap String.utf8EncodeChar) := by
  induction h with
  | @nil d ds =>
    rw [List.flatMap_cons]
    cases hd : String.utf8EncodeChar d with
    | nil => exact absurd hd String.utf8EncodeChar_ne_nil
    | cons b bs => exact .nil
  | @rel c cs d ds hcd => exact utf8EncodeChar_before hcd _ _
  | @cons c cs ds _ ih => exact ih.append_left _ _

theorem bytesBefore_of_lt {s t : String} (h : s < t) : BytesBefore s t := by
  unfold BytesBefore
  rw [bytes_eq, bytes_eq]
  exact lex_flatMap_utf8 h

theorem lt_iff_bytesBefore (s t : String) : s < t ↔ BytesBefore s t := by
  refine ⟨bytesBefore_of_lt, fun h => ?_⟩
  by_contra hnot
  have hirrefl : ∀ x : UInt8, ¬ x < x := fun x => UInt8.lt_irrefl x
  have hasymm : ∀ {x y : UInt8}, x < y → ¬ y < x := UInt8.lt_asymm
  by_cases heq : s = t
  · rw [heq] at h
    exact List.lex_irrefl hirrefl _ h
  · have hts : t < s := Std.lt_of_le_of_ne (String.not_lt.mp hnot) (Ne.symm heq)
    exact List.lex_asymm hasymm h (bytesBefore_of_lt hts)

/-- An order by units of 16 bits would have these two the other way round. -/
example : BytesBefore "\uffff" "😀" := (lt_iff_bytesBefore _ _).mp (by decide)

end Scriptwright.Text

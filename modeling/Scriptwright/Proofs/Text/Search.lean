import Mathlib.Data.List.Infix
import Mathlib.Data.List.TakeWhile
import Scriptwright.Text.Search

/-!
Searching as a statement about infixes and prefixes, and texts cut at separators. Every text that
is cut anywhere in between still contains what one of its parts contains.
-/
namespace Scriptwright.Text

theorem occursIn_iff (needle cs : List Char) : occursIn needle cs = true ↔ needle <:+: cs := by
  induction cs with
  | nil => simp [occursIn]
  | cons c cs ih =>
    rw [occursIn, Bool.or_eq_true, ih, List.isPrefixOf_iff_prefix, List.infix_cons_iff]

theorem mentions_iff (text : List Char) (needle : String) :
    mentions text needle = true ↔ needle.toList <:+: text :=
  occursIn_iff needle.toList text

theorem hasPart_iff (text needle : String) :
    hasPart text needle = true ↔ needle.toList <:+: text.toList :=
  occursIn_iff needle.toList text.toList

theorem beginsWith_iff (text opening : String) :
    beginsWith text opening = true ↔ opening.toList <+: text.toList :=
  List.isPrefixOf_iff_prefix

theorem infix_or_infix {c : Char} {needle xs ys : List Char} (hc : c ∉ needle)
    (h : needle <:+: xs ++ c :: ys) : needle <:+: xs ∨ needle <:+: ys := by
  have hstart : ∀ part, part ⊆ needle → part <+: c :: ys → part = [] := by
    intro part hpart hprefix
    cases part with
    | nil => rfl
    | cons d ds =>
      obtain ⟨rfl, -⟩ := List.cons_prefix_cons.mp hprefix
      exact absurd (hpart List.mem_cons_self) hc
  rcases List.infix_append_iff.mp h with hleft | hright | ⟨front, back, rfl, hfront, hback⟩
  · exact .inl hleft
  · rcases List.infix_cons_iff.mp hright with hhere | hlater
    · obtain rfl := hstart needle (List.Subset.refl _) hhere
      exact .inl List.nil_infix
    · exact .inr hlater
  · obtain rfl := hstart back (List.subset_append_right _ _) hback
    rw [List.append_nil]
    exact .inl hfront.isInfix

theorem toList_joinWith (sep : String) (parts : List String) :
    (joinWith sep parts).toList = List.intercalate sep.toList (parts.map String.toList) := by
  simp [joinWith, String.toList_intercalate]

theorem joinWith_cons_cons (sep text next : String) (texts : List String) :
    joinWith sep (text :: next :: texts) = text ++ (sep ++ joinWith sep (next :: texts)) := by
  rw [← String.toList_inj]
  simp [toList_joinWith, List.intercalate_cons_cons]

theorem splitAt_of_not_mem {sep : Char → Bool} {cs : List Char} (h : ∀ c ∈ cs, sep c = false) :
    splitAt sep cs = [cs] := by
  induction cs with
  | nil => rfl
  | cons c cs ih =>
    have hcs := ih fun d hd => h d (List.mem_cons_of_mem c hd)
    have hc := h c List.mem_cons_self
    unfold splitAt at hcs ⊢
    rw [List.foldr_cons, hcs]
    simp [splitStep, hc]

theorem splitAt_ne_nil (sep : Char → Bool) (cs : List Char) : splitAt sep cs ≠ [] := by
  cases cs with
  | nil => exact List.cons_ne_nil _ _
  | cons c cs =>
    unfold splitAt
    rw [List.foldr_cons]
    unfold splitStep
    split <;> split <;> exact List.cons_ne_nil _ _

theorem splitAt_cons (sep : Char → Bool) (c : Char) (cs : List Char) :
    splitAt sep (c :: cs) = splitStep sep c (splitAt sep cs) := rfl

theorem splitAt_append_sep {sep : Char → Bool} {s : Char} (hs : sep s = true)
    (xs ys : List Char) : splitAt sep (xs ++ s :: ys) = splitAt sep xs ++ splitAt sep ys := by
  have hstep : ∀ (c : Char) {pieces : List (List Char)} (more : List (List Char)), pieces ≠ [] →
      splitStep sep c (pieces ++ more) = splitStep sep c pieces ++ more := by
    intro c pieces more hne
    obtain ⟨piece, pieces, rfl⟩ := List.exists_cons_of_ne_nil hne
    by_cases hc : sep c = true <;> simp [splitStep, hc]
  induction xs with
  | nil =>
    obtain ⟨piece, pieces, hys⟩ := List.exists_cons_of_ne_nil (splitAt_ne_nil sep ys)
    rw [List.nil_append, splitAt_cons, hys]
    simp [splitStep, hs, splitAt]
  | cons c xs ih =>
    rw [List.cons_append, splitAt_cons, ih, hstep c _ (splitAt_ne_nil sep xs), ← splitAt_cons]

theorem splitAt_append {sep : Char → Bool} {cs : List Char} (h : ∀ c ∈ cs, sep c = false)
    {s : Char} (hs : sep s = true) (rest : List Char) :
    splitAt sep (cs ++ s :: rest) = cs :: splitAt sep rest := by
  rw [splitAt_append_sep hs, splitAt_of_not_mem h]
  rfl

theorem not_sep_of_mem_splitAt {sep : Char → Bool} {cs piece : List Char}
    (h : piece ∈ splitAt sep cs) : ∀ c ∈ piece, sep c = false := by
  induction cs generalizing piece with
  | nil => simp_all [splitAt]
  | cons c cs ih =>
    rw [splitAt_cons] at h
    cases hpieces : splitAt sep cs with
    | nil => exact absurd hpieces (splitAt_ne_nil sep cs)
    | cons first pieces =>
      rw [hpieces] at h ih
      cases hc : sep c <;> simp [splitStep, hc] at h ih
      · rcases h with rfl | h
        · simp [hc]
          apply ih.1
        · exact ih.2 _ h
      · rcases h with rfl | rfl | h
        · simp
        · exact ih.1
        · exact ih.2 _ h

theorem splitLast?_append {c : Char} {after : List Char} (h : c ∉ after) (before : List Char) :
    splitLast? c (before ++ c :: after) = some (before, after) := by
  have hafter : ∀ d ∈ after.reverse, (d != c) = true := fun d hd =>
    bne_iff_ne.mpr fun e => h (e ▸ List.mem_reverse.mp hd)
  have hreverse : (before ++ c :: after).reverse = after.reverse ++ c :: before.reverse := by simp
  unfold splitLast?
  rw [List.span_eq_takeWhile_dropWhile, hreverse, List.takeWhile_append_of_pos hafter,
    List.dropWhile_append_of_pos hafter]
  simp

theorem splitLast?_of_not_mem {c : Char} {cs : List Char} (h : c ∉ cs) : splitLast? c cs = none := by
  have hdrop : cs.reverse.dropWhile (· != c) = [] := by
    rw [List.dropWhile_eq_nil_iff]
    exact fun d hd => bne_iff_ne.mpr fun e => h (e ▸ List.mem_reverse.mp hd)
  unfold splitLast?
  rw [List.span_eq_takeWhile_dropWhile, hdrop]

theorem exists_last_of_mem {c : Char} {cs : List Char} (h : c ∈ cs) :
    ∃ before after, cs = before ++ c :: after ∧ c ∉ after := by
  obtain ⟨xs, ys, hcs, hxs⟩ := List.eq_append_cons_of_mem (List.mem_reverse.mpr h)
  refine ⟨ys.reverse, xs.reverse, ?_, by simpa using hxs⟩
  rw [← List.reverse_reverse cs, hcs]
  simp

theorem splitLast?_eq_none_iff {c : Char} {cs : List Char} : splitLast? c cs = none ↔ c ∉ cs := by
  refine ⟨fun h hc => ?_, splitLast?_of_not_mem⟩
  obtain ⟨before, after, rfl, hafter⟩ := exists_last_of_mem hc
  rw [splitLast?_append hafter] at h
  cases h

/-- A text is cut at the last place where it can be. -/
theorem splitLast?_eq_some_iff {c : Char} {cs before after : List Char} :
    splitLast? c cs = some (before, after) ↔ cs = before ++ c :: after ∧ c ∉ after := by
  constructor
  · intro h
    by_cases hc : c ∈ cs
    · obtain ⟨before', after', rfl, hafter⟩ := exists_last_of_mem hc
      rw [splitLast?_append hafter] at h
      obtain ⟨rfl, rfl⟩ := Prod.mk.inj (Option.some.inj h)
      exact ⟨rfl, hafter⟩
    · rw [splitLast?_of_not_mem hc] at h
      cases h
  · rintro ⟨rfl, hafter⟩
    exact splitLast?_append hafter before

theorem eq_of_splitLast? {c : Char} {cs before after : List Char}
    (h : splitLast? c cs = some (before, after)) : cs = before ++ c :: after :=
  (splitLast?_eq_some_iff.mp h).1

theorem foldl_byteLength (n : Nat) (cs : List Char) :
    cs.foldl (fun n c => n + c.utf8Size) n = n + byteLength cs := by
  unfold byteLength
  induction cs generalizing n with
  | nil => rfl
  | cons c cs ih =>
    rw [List.foldl_cons, List.foldl_cons, ih, ih (0 + c.utf8Size)]
    omega

theorem byteLength_append (xs ys : List Char) :
    byteLength (xs ++ ys) = byteLength xs + byteLength ys := by
  rw [byteLength, List.foldl_append, foldl_byteLength]
  rfl

theorem byteLength_cons (c : Char) (cs : List Char) :
    byteLength (c :: cs) = c.utf8Size + byteLength cs := by
  rw [byteLength, List.foldl_cons, foldl_byteLength, Nat.zero_add]

theorem byteLength_le_of_sublist {xs ys : List Char} (h : xs.Sublist ys) :
    byteLength xs ≤ byteLength ys := by
  induction h with
  | slnil => exact Nat.le_refl _
  | cons c _ ih =>
    rw [byteLength_cons]
    omega
  | cons_cons c _ ih =>
    rw [byteLength_cons, byteLength_cons]
    omega

theorem byteLength_replicate (n : Nat) (c : Char) :
    byteLength (List.replicate n c) = n * c.utf8Size := by
  induction n with
  | zero => simp [byteLength]
  | succ n ih => rw [List.replicate_succ, byteLength_cons, ih, Nat.succ_mul, Nat.add_comm]

theorem byteLength_ofList (cs : List Char) : byteLength cs = (String.ofList cs).utf8ByteSize := by
  induction cs with
  | nil => rfl
  | cons c cs ih =>
    rw [byteLength_cons, ih, String.ofList_cons, String.utf8ByteSize_append,
      String.utf8ByteSize_singleton]

theorem byteLength_toList (s : String) : byteLength s.toList = s.utf8ByteSize := by
  rw [byteLength_ofList, String.ofList_toList]

end Scriptwright.Text

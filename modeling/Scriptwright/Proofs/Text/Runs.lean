import Scriptwright.Proofs.Text.Search

/-!
Cuts of a text in two, and its maximal runs of characters of one kind.
-/
namespace Scriptwright.Text

def cuts : List Char → List (List Char × List Char)
  | [] => [([], [])]
  | c :: cs => ([], c :: cs) :: (cuts cs).map fun cut => (c :: cut.1, cut.2)

theorem mem_cuts {cs xs ys : List Char} : (xs, ys) ∈ cuts cs ↔ cs = xs ++ ys := by
  induction cs generalizing xs with
  | nil => simp [cuts, eq_comm]
  | cons c cs ih =>
    unfold cuts
    cases xs with
    | nil => simp [eq_comm]
    | cons x xs =>
      simp only [List.mem_cons, Prod.mk.injEq, List.mem_map, Prod.exists, List.cons_append,
        List.cons.injEq]
      constructor
      · rintro (⟨hnil, -⟩ | ⟨xs', ys', hmem, ⟨rfl, rfl⟩, rfl⟩)
        · cases hnil
        · exact ⟨rfl, ih.mp hmem⟩
      · rintro ⟨rfl, hcs⟩
        exact .inr ⟨xs, ys, ih.mpr hcs, ⟨rfl, rfl⟩, rfl⟩

theorem cuts_ascending (cs : List Char) :
    (cuts cs).Pairwise fun cut later => cut.1.length < later.1.length := by
  induction cs with
  | nil => exact List.pairwise_singleton _ _
  | cons c cs ih =>
    refine List.pairwise_cons.mpr ⟨fun cut hcut => ?_, List.pairwise_map.mpr ?_⟩
    · obtain ⟨cut, -, rfl⟩ := List.mem_map.mp hcut
      exact Nat.succ_pos _
    · exact ih.imp fun h => Nat.succ_lt_succ h

variable {good : List Char → List Char → Bool} {cs xs ys : List Char}

def firstCut? (good : List Char → List Char → Bool) (cs : List Char) :
    Option (List Char × List Char) :=
  (cuts cs).find? fun cut => good cut.1 cut.2

def lastCut? (good : List Char → List Char → Bool) (cs : List Char) :
    Option (List Char × List Char) :=
  (cuts cs).reverse.find? fun cut => good cut.1 cut.2

theorem firstCut?_eq_none_iff :
    firstCut? good cs = none ↔ ∀ xs ys, cs = xs ++ ys → good xs ys = false := by
  simp only [firstCut?, List.find?_eq_none, Prod.forall, mem_cuts, Bool.not_eq_true]

theorem lastCut?_eq_none_iff :
    lastCut? good cs = none ↔ ∀ xs ys, cs = xs ++ ys → good xs ys = false := by
  simp only [lastCut?, List.find?_eq_none, List.mem_reverse, Prod.forall, mem_cuts,
    Bool.not_eq_true]

theorem find?_of_pairwise {α : Type} {R : α → α → Prop} {p : α → Bool} {l : List α} {a : α}
    (horder : l.Pairwise R) (h : l.find? p = some a) :
    a ∈ l ∧ p a = true ∧ ∀ b ∈ l, p b = true → b = a ∨ R a b := by
  obtain ⟨ha, front, back, rfl, hfront⟩ := List.find?_eq_some_iff_append.mp h
  refine ⟨by simp, ha, fun b hb hgood => ?_⟩
  rcases List.mem_append.mp hb with hearlier | hlater
  · have := hfront b hearlier
    simp [hgood] at this
  · refine (List.mem_cons.mp hlater).imp_right fun hback => ?_
    exact (List.pairwise_cons.mp (List.pairwise_append.mp horder).2.1).1 b hback

theorem find?_eq_some_iff_of_pairwise {α : Type} {R : α → α → Prop} {p : α → Bool} {l : List α}
    {a : α} (horder : l.Pairwise R) (hasymm : ∀ b c, R b c → ¬ R c b) :
    l.find? p = some a ↔ a ∈ l ∧ p a = true ∧ ∀ b ∈ l, p b = true → b = a ∨ R a b := by
  refine ⟨find?_of_pairwise horder, fun ⟨hmem, hgood, hothers⟩ => ?_⟩
  obtain ⟨b, hb⟩ := Option.isSome_iff_exists.mp (List.find?_isSome.mpr ⟨a, hmem, hgood⟩)
  obtain ⟨hbmem, hbgood, hbothers⟩ := find?_of_pairwise horder hb
  rcases hothers b hbmem hbgood with rfl | hab
  · exact hb
  · rcases hbothers a hmem hgood with rfl | hba
    · exact hb
    · exact absurd hba (hasymm a b hab)

theorem firstCut?_spec (h : firstCut? good cs = some (xs, ys)) :
    cs = xs ++ ys ∧ good xs ys = true ∧
      ∀ xs' ys', cs = xs' ++ ys' → good xs' ys' = true → xs.length ≤ xs'.length := by
  obtain ⟨hmem, hgood, hothers⟩ := find?_of_pairwise (cuts_ascending cs) h
  refine ⟨mem_cuts.mp hmem, hgood, fun xs' ys' hcs hgood' => ?_⟩
  rcases hothers (xs', ys') (mem_cuts.mpr hcs) hgood' with hsame | hlater
  · rw [(Prod.mk.inj hsame).1]
  · exact Nat.le_of_lt hlater

theorem firstCut?_of_least (hcs : cs = xs ++ ys) (hgood : good xs ys = true)
    (hleast : ∀ xs' ys', cs = xs' ++ ys' → good xs' ys' = true → xs.length ≤ xs'.length) :
    firstCut? good cs = some (xs, ys) := by
  cases hcut : firstCut? good cs with
  | none =>
    rw [firstCut?_eq_none_iff.mp hcut xs ys hcs] at hgood
    cases hgood
  | some cut =>
    obtain ⟨hcs', hgood', hleast'⟩ := firstCut?_spec hcut
    have hlength := Nat.le_antisymm (hleast' xs ys hcs hgood) (hleast _ _ hcs' hgood')
    obtain ⟨hxs, hys⟩ := List.append_inj (hcs'.symm.trans hcs) hlength
    rw [← hxs, ← hys]

theorem lastCut?_spec (h : lastCut? good cs = some (xs, ys)) :
    cs = xs ++ ys ∧ good xs ys = true ∧
      ∀ xs' ys', cs = xs' ++ ys' → good xs' ys' = true → xs'.length ≤ xs.length := by
  obtain ⟨hmem, hgood, hothers⟩ :=
    find?_of_pairwise (List.pairwise_reverse.mpr (cuts_ascending cs)) h
  refine ⟨mem_cuts.mp (List.mem_reverse.mp hmem), hgood, fun xs' ys' hcs hgood' => ?_⟩
  rcases hothers (xs', ys') (List.mem_reverse.mpr (mem_cuts.mpr hcs)) hgood' with hsame | hearlier
  · rw [(Prod.mk.inj hsame).1]
  · exact Nat.le_of_lt hearlier

/-- A maximal run in a text, with the bytes in front of it. -/
structure Run where
  offset : Nat
  text : List Char
deriving DecidableEq, Repr

/-- The maximal runs in a text that stands behind `before` and `offset` bytes. A run begins at each
character inside that no other one precedes. -/
def runsFrom (inside : Char → Bool) (before : Option Char) (offset : Nat) : List Char → List Run
  | [] => []
  | c :: cs =>
    if inside c && !before.any inside then
      ⟨offset, (c :: cs).takeWhile inside⟩ :: runsFrom inside (some c) (offset + c.utf8Size) cs
    else runsFrom inside (some c) (offset + c.utf8Size) cs

def runs (inside : Char → Bool) (text : List Char) : List Run := runsFrom inside none 0 text

end Scriptwright.Text

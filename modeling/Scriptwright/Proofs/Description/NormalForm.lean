import Mathlib.Data.List.Chain
import Scriptwright.Description.Normal
import Scriptwright.Proofs.Text.Lines
import Scriptwright.Proofs.Text.Lowercase
import Scriptwright.Proofs.Text.Search

/-!
The normal form of descriptions: what it does to descriptions with a space between them, and what it
is, told without the steps that lead to it: words of kept characters in lower case, apart by single
spaces. Every description is brought into this form, and those that are in it stay as they are.
-/
namespace Scriptwright

namespace Text

/-- The third text is the first two with a space between them, which an empty text does without. -/
inductive Joined : List Char → List Char → List Char → Prop
  | spaced (xs ys : List Char) : Joined xs ys (xs ++ ' ' :: ys)
  | left (xs : List Char) : Joined xs [] xs
  | right (ys : List Char) : Joined [] ys ys

theorem unwords_append {xs ys : List (List Char)} (hxs : xs ≠ []) (hys : ys ≠ []) :
    unwords (xs ++ ys) = unwords xs ++ ' ' :: unwords ys := by
  obtain ⟨x, xs, rfl⟩ := List.exists_cons_of_ne_nil hxs
  obtain ⟨y, ys, rfl⟩ := List.exists_cons_of_ne_nil hys
  induction xs generalizing x with
  | nil => simp [unwords]
  | cons x' xs ih =>
    have hrest := ih x' (List.cons_ne_nil x' xs)
    unfold unwords at hrest ⊢
    rw [List.cons_append, List.cons_append, List.intercalate_cons_cons, ← List.cons_append,
      hrest, List.intercalate_cons_cons]
    simp

theorem unwords_eq_nil_iff {ws : List (List Char)} (h : ∀ w ∈ ws, w ≠ []) :
    unwords ws = [] ↔ ws = [] := by
  cases ws with
  | nil => exact iff_of_true rfl rfl
  | cons w ws =>
    have hw := h w List.mem_cons_self
    refine iff_of_false ?_ (List.cons_ne_nil w ws)
    cases ws with
    | nil => simpa [unwords] using hw
    | cons w' ws =>
      have hsplit := unwords_append (List.cons_ne_nil w []) (List.cons_ne_nil w' ws)
      rw [List.singleton_append] at hsplit
      simp [hsplit]

theorem joined_unwords (xs ys : List (List Char)) :
    Joined (unwords xs) (unwords ys) (unwords (xs ++ ys)) := by
  by_cases hxs : xs = []
  · rw [hxs]
    exact .right _
  · by_cases hys : ys = []
    · rw [hys, List.append_nil]
      exact .left _
    · rw [unwords_append hxs hys]
      exact .spaced _ _

theorem Joined.left_infix {xs ys whole : List Char} (h : Joined xs ys whole) : xs <:+: whole := by
  cases h with
  | spaced => exact (List.prefix_append xs _).isInfix
  | left => exact List.infix_rfl
  | right => exact List.nil_infix

theorem Joined.right_infix {xs ys whole : List Char} (h : Joined xs ys whole) : ys <:+: whole := by
  cases h with
  | spaced => exact ((List.suffix_cons ' ' ys).trans (List.suffix_append xs _)).isInfix
  | left => exact List.nil_infix
  | right => exact List.infix_rfl

end Text

namespace Description

def keptWords (cs : List Char) : List (List Char) :=
  Text.words ((Text.lowercase cs).map keepOrSpace)

theorem keptWords_append_blank {b : Char} (h : Text.isBlank b = true) (xs ys : List Char) :
    keptWords (xs ++ b :: ys) = keptWords xs ++ keptWords ys := by
  have hkept : keepOrSpace b = b := by simp [keepOrSpace, isKept, h]
  rw [keptWords, Text.lowercase_append_blank h, List.map_append, List.map_cons, hkept,
    Text.words_append_blank _ h]
  rfl

theorem keptWords_trim (cs : List Char) : keptWords (Text.trim cs) = keptWords cs := by
  have hstart : keptWords (Text.trimStart cs) = keptWords cs := by
    induction cs with
    | nil => rfl
    | cons c cs ih =>
      by_cases hc : Text.isBlank c = true
      · have hfront : keptWords (c :: cs) = keptWords cs := keptWords_append_blank hc [] cs
        have htrim : Text.trimStart (c :: cs) = Text.trimStart cs := by simp [Text.trimStart, hc]
        rw [htrim, ih, hfront]
      · rw [Text.trimStart_cons (by simpa using hc)]
  have hend : ∀ cs, keptWords (Text.trimEnd cs) = keptWords cs := by
    intro cs
    induction cs using List.reverseRecOn with
    | nil => rfl
    | append_singleton cs c ih =>
      by_cases hc : Text.isBlank c = true
      · have hback : keptWords (cs ++ [c]) = keptWords cs ++ [] := keptWords_append_blank hc cs []
        have htrim : Text.trimEnd (cs ++ [c]) = Text.trimEnd cs := by
          simp [Text.trimEnd, Text.dropEndWhile, hc]
        rw [htrim, ih, hback, List.append_nil]
      · rw [Text.trimEnd_of_getLast (by simpa using hc)]
  rw [Text.trim, hend, hstart]

theorem normalizeChars_eq (cs : List Char) : normalizeChars cs = Text.unwords (keptWords cs) := by
  rw [← keptWords_trim]
  rfl

theorem normalizeChars_joined (xs ys : List Char) :
    Text.Joined (normalizeChars xs) (normalizeChars ys) (normalizeChars (xs ++ ' ' :: ys)) := by
  have hspace : Text.isBlank ' ' = true := by decide
  rw [normalizeChars_eq, normalizeChars_eq, normalizeChars_eq, keptWords_append_blank hspace]
  exact Text.joined_unwords _ _

theorem mentions_between (front : List Char) {words : List Char} {needle : String}
    (h : Text.mentions (normalizeChars words) needle = true) (back : List Char) :
    Text.mentions (normalizeChars (front ++ ' ' :: (words ++ ' ' :: back))) needle = true := by
  rw [Text.mentions_iff] at h ⊢
  have hright := normalizeChars_joined words back
  have hleft := normalizeChars_joined front (words ++ ' ' :: back)
  exact h.trans (hright.left_infix.trans hleft.right_infix)

/-- What the words of a normal form are made of. -/
def isNormalChar (c : Char) : Bool :=
  (Text.isAlphanumeric c || c == '_' || keptPunctuation.contains c) && Text.lowercase [c] == [c]

/-- Words apart by single spaces, and no space at either end. -/
structure IsNormal (cs : List Char) : Prop where
  front : cs.head? ≠ some ' '
  back : cs.getLast? ≠ some ' '
  single : cs.IsChain fun c d => c = ' ' → d ≠ ' '
  chars : ∀ c ∈ cs, c = ' ' ∨ isNormalChar c = true

theorem all_normalChars_iff {cs : List Char} :
    (cs.all fun c => c == ' ' || isNormalChar c) = true ↔
      ∀ c ∈ cs, c = ' ' ∨ isNormalChar c = true := by
  simp

instance (cs : List Char) : Decidable (IsNormal cs) :=
  decidable_of_iff (cs.head? ≠ some ' ' ∧ cs.getLast? ≠ some ' ' ∧
      (cs.IsChain fun c d => c = ' ' → d ≠ ' ') ∧
      (cs.all fun c => c == ' ' || isNormalChar c) = true)
    ⟨fun ⟨front, back, single, chars⟩ => ⟨front, back, single, all_normalChars_iff.mp chars⟩,
      fun h => ⟨h.front, h.back, h.single, all_normalChars_iff.mpr h.chars⟩⟩

/-- Two texts with a space between them, or the one of them that is not empty. -/
def spaced (s t : String) : String :=
  if s = "" then t else if t = "" then s else s ++ " " ++ t

theorem isAlphanumeric_of_isBlank {c : Char} (h : Text.isBlank c = true) :
    Text.isAlphanumeric c = false := by
  have hall : ∀ r ∈ Text.blankRanges, ∀ n ∈ List.range' r.1 (r.2 + 1 - r.1),
      Text.inRanges Text.alphabeticRanges n = false ∧
        Text.inRanges Text.numericRanges n = false := by
    decide +kernel
  obtain ⟨r, hr, hn⟩ := Text.mem_of_inRanges h
  obtain ⟨halphabetic, hnumeric⟩ := hall r hr _ hn
  exact (Bool.or_eq_false_iff).mpr ⟨halphabetic, hnumeric⟩

variable {c : Char} {cs xs ys : List Char}

theorem isNormalChar_iff : isNormalChar c = true ↔
    isKept c = true ∧ Text.isBlank c = false ∧ Text.IsLower c := by
  have hplain : Text.isBlank c = true → c ≠ '_' ∧ c ∉ keptPunctuation := by
    intro hblank
    constructor
    · rintro rfl
      revert hblank
      decide
    · intro hmem
      have hall : (keptPunctuation.all fun d => !Text.isBlank d) = true := by decide
      have hkept := List.all_eq_true.mp hall c hmem
      rw [hblank] at hkept
      cases hkept
  rw [Text.isLower_iff, isNormalChar, isKept]
  cases hblank : Text.isBlank c with
  | true => simp [isAlphanumeric_of_isBlank hblank, hplain hblank]
  | false => simp

theorem ne_space_of_isNormalChar (h : isNormalChar c = true) : c ≠ ' ' := by
  rintro rfl
  obtain ⟨-, hblank, -⟩ := isNormalChar_iff.mp h
  revert hblank
  decide

theorem isNormal_word (h : ∀ c ∈ cs, isNormalChar c = true) : IsNormal cs where
  front hfront := ne_space_of_isNormalChar (h _ (List.mem_of_head? hfront)) rfl
  back hback := ne_space_of_isNormalChar (h _ (List.mem_of_getLast? hback)) rfl
  single := by
    refine (List.pairwise_of_forall_mem_list ?_).isChain
    intro c hc d _ hspace
    exact absurd hspace (ne_space_of_isNormalChar (h c hc))
  chars c hc := .inr (h c hc)

theorem isNormal_spaced_iff : IsNormal (xs ++ ' ' :: ys) ↔
    xs ≠ [] ∧ ys ≠ [] ∧ IsNormal xs ∧ IsNormal ys := by
  constructor
  · rintro ⟨hfront, hback, hsingle, hchars⟩
    obtain ⟨hbefore, hbehind⟩ := List.forall_mem_append.mp hchars
    obtain ⟨-, hbehind⟩ := List.forall_mem_cons.mp hbehind
    obtain ⟨hleft, hright, hbetween⟩ := List.isChain_append.mp hsingle
    have hxs : xs ≠ [] := by
      rintro rfl
      exact hfront rfl
    have hys : ys ≠ [] := by
      rintro rfl
      exact hback (by simp)
    obtain ⟨d, ds, rfl⟩ := List.exists_cons_of_ne_nil hys
    obtain ⟨hfirst, hright⟩ := List.isChain_cons_cons.mp hright
    refine ⟨hxs, hys, ⟨?_, ?_, hleft, hbefore⟩, ⟨?_, ?_, hright, hbehind⟩⟩
    · rwa [List.head?_append_of_ne_nil _ hxs] at hfront
    · intro hlast
      exact hbetween ' ' hlast ' ' rfl rfl rfl
    · intro hhead
      exact hfirst rfl (Option.some.inj hhead)
    · rwa [List.getLast?_append_of_ne_nil _ (List.cons_ne_nil ' ' _),
        List.getLast?_cons_cons] at hback
  · rintro ⟨hxs, hys, ⟨hfront, hback, hsingle, hchars⟩, ⟨hfront', hback', hsingle', hchars'⟩⟩
    obtain ⟨d, ds, rfl⟩ := List.exists_cons_of_ne_nil hys
    refine ⟨?_, ?_, ?_, ?_⟩
    · rwa [List.head?_append_of_ne_nil _ hxs]
    · rwa [List.getLast?_append_of_ne_nil _ (List.cons_ne_nil ' ' _), List.getLast?_cons_cons]
    · refine List.isChain_append.mpr ⟨hsingle, List.isChain_cons_cons.mpr ⟨?_, hsingle'⟩, ?_⟩
      · intro _ heq
        exact hfront' (congrArg some heq)
      · intro c hc e _ heq
        exact absurd (heq ▸ hc) hback
    · exact List.forall_mem_append.mpr ⟨hchars, List.forall_mem_cons.mpr ⟨.inl rfl, hchars'⟩⟩

theorem keepOrSpace_of_isNormalChar (h : isNormalChar c = true) : keepOrSpace c = c :=
  if_pos (isNormalChar_iff.mp h).1

theorem unwords_words (h : IsNormal cs) : Text.unwords (Text.words cs) = cs := by
  induction cs using Text.blank_induction with
  | plain cs hplain =>
    cases cs with
    | nil => rfl
    | cons c cs =>
      rw [Text.words_of_not_blank (List.cons_ne_nil c cs) hplain]
      simp [Text.unwords]
  | around xs b ys hb ihxs ihys =>
    have hspace : b = ' ' := by
      refine (h.chars b (by simp)).resolve_right fun hnormal => ?_
      rw [(isNormalChar_iff.mp hnormal).2.1] at hb
      cases hb
    subst hspace
    obtain ⟨hxs, hys, hleft, hright⟩ := isNormal_spaced_iff.mp h
    have hxs' := ihxs hleft
    have hys' := ihys hright
    have hwords : ∀ {zs : List Char}, zs ≠ [] → Text.unwords (Text.words zs) = zs →
        Text.words zs ≠ [] := by
      intro zs hne hzs hnil
      rw [hnil] at hzs
      exact hne hzs.symm
    rw [Text.words_append_blank xs hb, Text.unwords_append (hwords hxs hxs') (hwords hys hys'),
      hxs', hys']

theorem normalizeChars_of_isNormal (h : IsNormal cs) : normalizeChars cs = cs := by
  have hlower : Text.lowercase cs = cs := by
    apply Text.lowercase_of_isLower
    intro c hc
    rcases h.chars c hc with rfl | hnormal
    · exact Text.isLower_iff.mpr (by decide)
    · exact (isNormalChar_iff.mp hnormal).2.2
  have hkept : cs.map keepOrSpace = cs := by
    refine (List.map_congr_left fun c hc => ?_).trans (List.map_id cs)
    rcases h.chars c hc with rfl | hnormal
    · decide
    · exact keepOrSpace_of_isNormalChar hnormal
  rw [normalizeChars_eq, keptWords, hlower, hkept, unwords_words h]

theorem isNormal_unwords {words : List (List Char)}
    (h : ∀ word ∈ words, word ≠ [] ∧ ∀ c ∈ word, isNormalChar c = true) :
    IsNormal (Text.unwords words) := by
  induction words with
  | nil => exact isNormal_word (by simp [Text.unwords])
  | cons word words ih =>
    obtain ⟨⟨hne, hchars⟩, hwords⟩ := List.forall_mem_cons.mp h
    by_cases hlast : words = []
    · rw [hlast]
      simpa [Text.unwords] using isNormal_word hchars
    · have hrest : Text.unwords words ≠ [] := by
        rwa [Ne, Text.unwords_eq_nil_iff fun w hw => (hwords w hw).1]
      have hsplit := Text.unwords_append (List.cons_ne_nil word []) hlast
      rw [List.singleton_append] at hsplit
      rw [hsplit]
      refine isNormal_spaced_iff.mpr ⟨?_, hrest, ?_, ih hwords⟩
      · simpa [Text.unwords] using hne
      · simpa [Text.unwords] using isNormal_word hchars

theorem mem_keptWords {word : List Char} (h : word ∈ keptWords cs) :
    word ≠ [] ∧ ∀ c ∈ word, isNormalChar c = true := by
  obtain ⟨hne, hchars⟩ := Text.mem_words h
  refine ⟨hne, fun c hc => ?_⟩
  obtain ⟨hblank, hmem⟩ := hchars c hc
  obtain ⟨d, hd, rfl⟩ := List.mem_map.mp hmem
  unfold keepOrSpace at hblank ⊢
  split
  · rename_i hkept
    rw [if_pos hkept] at hblank
    exact isNormalChar_iff.mpr ⟨hkept, hblank, Text.isLower_of_mem_lowercase hd⟩
  · rename_i hkept
    rw [if_neg hkept] at hblank
    revert hblank
    decide

theorem isNormal_normalizeChars (cs : List Char) : IsNormal (normalizeChars cs) := by
  rw [normalizeChars_eq]
  exact isNormal_unwords fun _ => mem_keptWords

theorem normalizeChars_eq_self_iff : normalizeChars cs = cs ↔ IsNormal cs :=
  ⟨fun h => h ▸ isNormal_normalizeChars cs, normalizeChars_of_isNormal⟩

theorem normalize_eq_self_iff (s : String) : normalize s = s ↔ IsNormal s.toList := by
  rw [← normalizeChars_eq_self_iff, normalize, ← String.toList_inj, String.toList_ofList]

theorem normalize_eq (s : String) :
    normalize s = String.ofList (Text.unwords (keptWords s.toList)) := by
  rw [normalize, normalizeChars_eq]

theorem normalize_eq_empty_iff (s : String) : normalize s = "" ↔ keptWords s.toList = [] := by
  rw [← Text.unwords_eq_nil_iff fun _ h => (mem_keptWords h).1, normalize_eq, ← String.toList_inj,
    String.toList_ofList]
  rfl

theorem normalize_spaced (s t : String) :
    normalize (s ++ " " ++ t) = spaced (normalize s) (normalize t) := by
  have hwords : keptWords (s ++ " " ++ t).toList = keptWords s.toList ++ keptWords t.toList := by
    rw [← keptWords_append_blank (by decide : Text.isBlank ' ' = true)]
    simp
  rw [normalize_eq, hwords, spaced]
  by_cases hs : keptWords s.toList = []
  · rw [if_pos ((normalize_eq_empty_iff s).mpr hs), hs, List.nil_append, normalize_eq]
  · rw [if_neg (mt (normalize_eq_empty_iff s).mp hs)]
    by_cases ht : keptWords t.toList = []
    · rw [if_pos ((normalize_eq_empty_iff t).mpr ht), ht, List.append_nil, normalize_eq]
    · rw [if_neg (mt (normalize_eq_empty_iff t).mp ht), Text.unwords_append hs ht,
        normalize_eq s, normalize_eq t, ← String.toList_inj]
      simp

/-- Normal forms are the texts that normalizing leaves as they are, and the normal form of two
texts with a space between them is that of both in the same way. -/
theorem normalize_isNormal (s t : String) :
    IsNormal (normalize s).toList ∧ (normalize s = s ↔ IsNormal s.toList) ∧
      normalize (normalize s) = normalize s ∧
      normalize (s ++ " " ++ t) = spaced (normalize s) (normalize t) := by
  have hnormal : IsNormal (normalize s).toList := by
    rw [normalize, String.toList_ofList]
    exact isNormal_normalizeChars _
  exact ⟨hnormal, normalize_eq_self_iff s, (normalize_eq_self_iff _).mpr hnormal,
    normalize_spaced s t⟩

example : IsNormal "fetch ~/out/ΐ_1".toList ∧ ¬ IsNormal "fetch  it".toList ∧
    ¬ IsNormal "Fetch".toList := by decide

end Description

end Scriptwright

import Scriptwright.Proofs.Description.Monotone
import Scriptwright.Proofs.Description.Size
import Scriptwright.Proofs.Rounding.Below

/-!
More words never make a description less complex, unless they are words for simple work. Each count
behind the score grows with the text, every count but that of the simple triggers speaks for more
complexity, and the sums of floats keep the order.
-/
namespace Scriptwright

def Complexity.level : Complexity → ℕ
  | .simple => 0
  | .medium => 1
  | .complex => 2

namespace Text

theorem Joined.infix_or_infix {xs ys whole needle : List Char} (h : Joined xs ys whole)
    (hspace : ' ' ∉ needle) (hneedle : needle <:+: whole) : needle <:+: xs ∨ needle <:+: ys := by
  cases h with
  | left => exact .inl hneedle
  | right => exact .inr hneedle
  | spaced => exact Text.infix_or_infix hspace hneedle

end Text

namespace Description

structure Tally where
  simple : ℕ
  medium : ℕ
  complex : ℕ
  actions : ℕ
  objects : ℕ
  entities : ℕ
  integration : Bool
  secondary : ℕ

namespace Tally

def total (t : Tally) : ℕ :=
  t.simple + t.medium + t.complex + t.actions + t.objects + t.entities + t.secondary

def score (t : Tally) : Float :=
  let count := fun (n : ℕ) => n.toUInt64.toFloat
  let score := -count t.simple + count t.medium + 2.0 * count t.complex
  let score := score + count t.actions * 0.5
  let score := score + count t.objects * 0.3
  let score := score + count t.entities * 0.1
  let score := if t.integration then score + 1.0 else score
  score + count t.secondary * 0.5

/-- The second tally counts the same simple triggers, and of the rest not less. -/
structure Within (t u : Tally) : Prop where
  simple : u.simple = t.simple
  medium : t.medium ≤ u.medium
  complex : t.complex ≤ u.complex
  actions : t.actions ≤ u.actions
  objects : t.objects ≤ u.objects
  entities : t.entities ≤ u.entities
  integration : t.integration = true → u.integration = true
  secondary : t.secondary ≤ u.secondary

end Tally

def tally (vocabulary : Vocabulary) (text : List Char) : Tally where
  simple := vocabulary.simpleTriggers.countP (Text.mentions text)
  medium := vocabulary.mediumTriggers.countP (Text.mentions text)
  complex := vocabulary.complexTriggers.countP (Text.mentions text)
  actions := (actions text).length
  objects := (objects text).length
  entities := (entities text).length
  integration := (classify (signals text)).isIntegration
  secondary := (secondaryIntents text).length

theorem complexity_eq (vocabulary : Vocabulary) (text : List Char) :
    (analyzeNormal vocabulary text).complexity = complexityOf (tally vocabulary text).score := rfl

section
open Rounding

theorem denotes_zero : Denotes 0.0 0 := .zero .positive

theorem denotes_half : Denotes 0.5 (1 / 2) := by
  have h : Denotes 0.5 ((4503599627370496 : ℕ) * 2 ^ (-53 : ℤ)) :=
    denotes_of_unpack (by decide) rfl (by decide)
  norm_num at h
  exact h

theorem denotes_one : Denotes 1.0 1 := by
  have h : Denotes 1.0 ((4503599627370496 : ℕ) * 2 ^ (-52 : ℤ)) :=
    denotes_of_unpack (by decide) rfl (by decide)
  norm_num at h
  exact h

theorem denotes_two : Denotes 2.0 2 := by
  have h : Denotes 2.0 ((4503599627370496 : ℕ) * 2 ^ (-51 : ℤ)) :=
    denotes_of_unpack (by decide) rfl (by decide)
  norm_num at h
  exact h

theorem denotes_three : Denotes 3.0 3 := by
  have h : Denotes 3.0 ((6755399441055744 : ℕ) * 2 ^ (-51 : ℤ)) :=
    denotes_of_unpack (by decide) rfl (by decide)
  norm_num at h
  exact h

theorem denotes_tenth : Denotes 0.1 ((7205759403792794 : ℕ) * 2 ^ (-56 : ℤ)) :=
  denotes_of_unpack (by decide) rfl (by decide)

theorem denotes_three_tenths : Denotes 0.3 ((5404319552844595 : ℕ) * 2 ^ (-54 : ℤ)) :=
  denotes_of_unpack (by decide) rfl (by decide)

theorem small_zero : Small 0.0 := denotes_zero.small (by norm_num) (by norm_num)

theorem small_tenth : Small 0.1 := denotes_tenth.small (by norm_num) (by norm_num)

theorem small_three_tenths : Small 0.3 := denotes_three_tenths.small (by norm_num) (by norm_num)

theorem small_half : Small 0.5 := denotes_half.small (by norm_num) (by norm_num)

theorem small_one : Small 1.0 := denotes_one.small (by norm_num) (by norm_num)

theorem small_two : Small 2.0 := denotes_two.small (by norm_num) (by norm_num)

theorem small_three : Small 3.0 := denotes_three.small (by norm_num) (by norm_num)

theorem level_le_of_below {k : ℕ} {a b : Float} (h : Below k a b) :
    (complexityOf a).level ≤ (complexityOf b).level := by
  unfold complexityOf
  by_cases hzero : b ≤ 0.0
  · rw [if_pos hzero, if_pos (h.le_of_le small_zero hzero)]
  · by_cases hthree : b ≤ 3.0
    · rw [if_neg hzero, if_pos hthree, if_pos (h.le_of_le small_three hthree)]
      split
      · exact Nat.zero_le 1
      · exact Nat.le_refl 1
    · rw [if_neg hzero, if_neg hthree]
      split
      · exact Nat.zero_le 2
      · split
        · exact Nat.le_succ 1
        · exact Nat.le_refl 2

theorem Tally.Within.score {t u : Tally} (h : t.Within u) (hu : u.total < 2 ^ 64) :
    Below 72 t.score u.score := by
  have hsame := h.simple
  unfold Tally.total at hu
  have hsimple := (below_toFloat hsame.le (by omega)).neg (by norm_num)
  have hmedium := below_toFloat h.medium (by omega)
  have hcomplex := (below_toFloat h.complex (by omega)).mul_left small_two (by norm_num)
  have hplain := (hsimple.add hmedium (by norm_num)).weaken (Nat.le_succ 65)
  have htriggers := hplain.add hcomplex (by norm_num)
  have hactions := htriggers.add_count h.actions (by omega) small_half (by norm_num) (by norm_num)
  have hobjects := hactions.add_count h.objects (by omega) small_three_tenths (by norm_num)
    (by norm_num)
  have hentities := hobjects.add_count h.entities (by omega) small_tenth (by norm_num)
    (by norm_num)
  have hintegration := hentities.add_ite h.integration small_one (by norm_num) (by norm_num)
  exact hintegration.add_count h.secondary (by omega) small_half (by norm_num) (by norm_num)

end

section
variable {xs ys whole : List Char}

theorem countP_mentions_joined (h : Text.Joined xs ys whole) {triggers : List String}
    (hspace : ∀ trigger ∈ triggers, ' ' ∉ trigger.toList)
    (habsent : anyMention ys triggers = false) :
    triggers.countP (Text.mentions whole) = triggers.countP (Text.mentions xs) := by
  apply List.countP_congr
  intro trigger hmem
  constructor
  · intro hwhole
    rw [Text.mentions_iff] at hwhole
    rcases h.infix_or_infix (hspace trigger hmem) hwhole with hleft | hright
    · rwa [Text.mentions_iff]
    · have hplain := List.any_eq_false.mp habsent trigger hmem
      rw [Text.mentions_iff] at hplain
      exact absurd hright hplain
  · exact (contains_of_joined h).1.mentions

theorem Contains.countP_mentions {part : List Char} (h : Contains whole part)
    (triggers : List String) :
    triggers.countP (Text.mentions part) ≤ triggers.countP (Text.mentions whole) := by
  apply List.countP_mono_left
  intro trigger _
  exact h.mentions

theorem length_entities_joined (h : Text.Joined xs ys whole) :
    (entities xs).length ≤ (entities whole).length := by
  apply length_flatMap_mono
  intro label
  have htexts := congrArg List.length (texts_of_joined h (staysApart_entityPattern label))
  rw [List.length_append, List.length_map, List.length_map, List.length_map] at htexts
  rw [entitiesOf, entitiesOf, List.length_map, List.length_map]
  omega

theorem isIntegration_iff (category : IntentCategory) :
    category.isIntegration = true ↔ rank category ≤ 1 := by
  cases category <;> decide

theorem tally_joined {vocabulary : Vocabulary}
    (hspace : ∀ trigger ∈ vocabulary.simpleTriggers, ' ' ∉ trigger.toList)
    (h : Text.Joined xs ys whole) (habsent : anyMention ys vocabulary.simpleTriggers = false) :
    (tally vocabulary xs).Within (tally vocabulary whole) := by
  obtain ⟨hcontains, -⟩ := contains_of_joined h
  exact {
    simple := countP_mentions_joined h hspace habsent
    medium := hcontains.countP_mentions _
    complex := hcontains.countP_mentions _
    actions := (nodup_distinct _).length_le_of_subset hcontains.actions
    objects := (nodup_distinct _).length_le_of_subset hcontains.objects
    entities := length_entities_joined h
    integration := by
      intro hpart
      exact (isIntegration_iff _).mpr (hcontains.rank.trans ((isIntegration_iff _).mp hpart))
    secondary := by
      have hnodup : SecondaryIntent.all.Nodup := by decide
      exact (hnodup.filter _).length_le_of_subset hcontains.secondaryIntents }

end

theorem total_tally_le (text : List Char) :
    (tally .standard text).total ≤ 33 + 15 * text.length := by
  have hsimple : (tally .standard text).simple ≤ 5 := List.countP_le_length
  have hmedium : (tally .standard text).medium ≤ 7 := List.countP_le_length
  have hcomplex : (tally .standard text).complex ≤ 18 := List.countP_le_length
  have hactions : (tally .standard text).actions ≤ 6 * text.length :=
    length_distinctMatches_le actionPatterns text
  have hobjects : (tally .standard text).objects ≤ 5 * text.length :=
    length_distinctMatches_le objectPatterns text
  have hentities : (tally .standard text).entities ≤ 4 * text.length := length_entities_le text
  have hsecondary : (tally .standard text).secondary ≤ 3 := List.length_filter_le _ _
  unfold Tally.total
  omega

/-- A description within the limit is too short to make a count overflow. -/
theorem total_tally_lt {d : String} (h : d.utf8ByteSize ≤ maxBytes) :
    (tally .standard (normalizeChars d.toList)).total < 2 ^ 64 := by
  have hchars := Text.length_le_utf8ByteSize d
  have hnormal := length_normalizeChars_le d.toList
  have htotal := total_tally_le (normalizeChars d.toList)
  unfold maxBytes at h
  omega

/-- More words keep the complexity or raise it, when none of them mentions simple work. -/
theorem level_le_append {d e : String} (hsize : (d ++ " " ++ e).utf8ByteSize ≤ maxBytes)
    (hplain : anyMention (normalizeChars e.toList) Vocabulary.standard.simpleTriggers = false) :
    ∃ whole left, analyze .standard (d ++ " " ++ e) = .ok whole ∧
      analyze .standard d = .ok left ∧ left.complexity.level ≤ whole.complexity.level := by
  have hbytes : d.utf8ByteSize ≤ maxBytes := by
    rw [String.utf8ByteSize_append, String.utf8ByteSize_append] at hsize
    omega
  have hchars : (d ++ " " ++ e).toList = d.toList ++ ' ' :: e.toList := by simp
  have hjoined := normalizeChars_joined d.toList e.toList
  rw [← hchars] at hjoined
  have hspace : ∀ trigger ∈ Vocabulary.standard.simpleTriggers, ' ' ∉ trigger.toList := by decide
  have hwithin := tally_joined hspace hjoined hplain
  refine ⟨_, _, if_neg (Nat.not_lt.mpr hsize), if_neg (Nat.not_lt.mpr hbytes), ?_⟩
  rw [complexity_eq, complexity_eq]
  exact level_le_of_below (hwithin.score (total_tally_lt hsize))

theorem algorithm_keeps_level : ∃ whole left,
    analyze .standard ("print a list" ++ " " ++ "with an algorithm") = .ok whole ∧
      analyze .standard "print a list" = .ok left ∧
      left.complexity.level ≤ whole.complexity.level :=
  level_le_append (by decide) (by decide)

end Description

end Scriptwright

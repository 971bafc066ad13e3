import Scriptwright.Description.Analyzer
import Scriptwright.Proofs.Description.NormalForm
import Scriptwright.Proofs.Pattern.Joining

/-!
More words never take anything away from an analysis. All that the rules look at is still found when
a description is part of a longer one, so the primary intent only moves up in the order of the rules
and everything that is noticed or required stays.
-/
namespace Scriptwright

/-- The rules decide for a category by their order; general scripting is what is left. -/
def Description.rank (category : IntentCategory) : Nat :=
  (Description.primaryRules.map Prod.fst ++ [IntentCategory.generalScripting]).idxOf category

/-- What one analysis notices and requires, another one does too. -/
structure Analysis.Includes (whole part : Analysis) : Prop where
  primary : Description.rank whole.intent.primary ≤ Description.rank part.intent.primary
  actions : part.intent.actions ⊆ whole.intent.actions
  objects : part.intent.objects ⊆ whole.intent.objects
  secondary : part.intent.secondary ⊆ whole.intent.secondary
  libraries : part.requirements.libraries ⊆ whole.requirements.libraries
  systemCommands : part.requirements.systemCommands ⊆ whole.requirements.systemCommands
  networkAccess : part.requirements.networkAccess → whole.requirements.networkAccess
  fileSystemAccess : part.requirements.fileSystemAccess → whole.requirements.fileSystemAccess
  databaseRequired : part.requirements.databaseRequired → whole.requirements.databaseRequired
  errorHandling : part.requirements.errorHandling → whole.requirements.errorHandling

/-- The entity in a text that begins `n` bytes earlier. -/
def Entity.shift (n : Nat) (e : Entity) : Entity :=
  { e with start := e.start + n, stop := e.stop + n }

namespace Description

/-- Every phrase of `part`, and everything a pattern finds in it, is found in `whole`. -/
structure Contains (whole part : List Char) : Prop where
  phrases : part <:+: whole
  finds : ∀ pattern : Pattern, pattern.staysApart = true →
    ((pattern.findAll part).map (·.text)) ⊆ (pattern.findAll whole).map (·.text)

theorem texts_of_joined {xs ys whole : List Char} (h : Text.Joined xs ys whole) {pattern : Pattern}
    (hapart : pattern.staysApart = true) :
    (pattern.findAll whole).map (·.text) =
      (pattern.findAll xs).map (·.text) ++ (pattern.findAll ys).map (·.text) := by
  have hnil : pattern.findAll [] = [] := rfl
  cases h with
  | spaced =>
    rw [Pattern.findAll_append_space hapart, List.map_append, List.map_map]
    rfl
  | left => rw [hnil, List.map_nil, List.append_nil]
  | right => rw [hnil, List.map_nil, List.nil_append]

theorem contains_of_joined {xs ys whole : List Char} (h : Text.Joined xs ys whole) :
    Contains whole xs ∧ Contains whole ys := by
  refine ⟨⟨h.left_infix, fun pattern hapart => ?_⟩, ⟨h.right_infix, fun pattern hapart => ?_⟩⟩
  · rw [texts_of_joined h hapart]
    exact List.subset_append_left _ _
  · rw [texts_of_joined h hapart]
    exact List.subset_append_right _ _

section
variable {whole part : List Char}

theorem Contains.mentions (h : Contains whole part) {phrase : String}
    (hmentions : Text.mentions part phrase = true) : Text.mentions whole phrase = true := by
  rw [Text.mentions_iff] at hmentions ⊢
  exact hmentions.trans h.phrases

theorem Contains.anyMention (h : Contains whole part) {phrases : List String}
    (hany : anyMention part phrases = true) : anyMention whole phrases = true := by
  obtain ⟨phrase, hmem, hphrase⟩ := List.any_eq_true.mp hany
  exact List.any_eq_true.mpr ⟨phrase, hmem, h.mentions hphrase⟩

theorem Contains.occurs (h : Contains whole part) {pattern : Pattern}
    (hapart : pattern.staysApart = true) (hoccurs : pattern.occurs part = true) :
    pattern.occurs whole = true := by
  have hneeds := ((Bool.and_eq_true _ _).mp hapart).2
  rw [Pattern.occurs_eq hneeds] at hoccurs ⊢
  have hsub := h.finds pattern hapart
  cases hpart : pattern.findAll part with
  | nil => simp [hpart] at hoccurs
  | cons f fs =>
    rw [hpart] at hsub
    obtain ⟨g, hg, -⟩ := List.mem_map.mp (hsub List.mem_cons_self)
    have := List.ne_nil_of_mem hg
    simpa using this

theorem Contains.distinctMatches (h : Contains whole part) {patterns : List Pattern}
    (hapart : ∀ pattern ∈ patterns, pattern.staysApart = true) :
    distinctMatches patterns part ⊆ distinctMatches patterns whole := by
  intro word hword
  simp only [Description.distinctMatches, mem_distinct, List.mem_flatMap] at hword ⊢
  obtain ⟨pattern, hmem, hword⟩ := hword
  obtain ⟨f, hf, rfl⟩ := List.mem_map.mp hword
  obtain ⟨g, hg, htext⟩ := List.mem_map.mp
    (h.finds pattern (hapart pattern hmem) (List.mem_map_of_mem hf))
  exact ⟨pattern, hmem, List.mem_map.mpr ⟨g, hg, congrArg String.ofList htext⟩⟩

theorem Contains.actions (h : Contains whole part) : actions part ⊆ actions whole :=
  h.distinctMatches (by decide +kernel)

theorem Contains.anyAction (h : Contains whole part) {candidates : List String}
    (hany : candidates.any (Description.actions part).contains = true) :
    candidates.any (Description.actions whole).contains = true := by
  obtain ⟨action, hmem, haction⟩ := List.any_eq_true.mp hany
  refine List.any_eq_true.mpr ⟨action, hmem, ?_⟩
  rw [List.contains_iff_mem] at haction ⊢
  exact h.actions haction

theorem Contains.objects (h : Contains whole part) : objects part ⊆ objects whole :=
  h.distinctMatches (by decide +kernel)

theorem Contains.secondaryIntents (h : Contains whole part) :
    secondaryIntents part ⊆ secondaryIntents whole := by
  intro i hi
  obtain ⟨hmem, hany⟩ := List.mem_filter.mp hi
  exact List.mem_filter.mpr ⟨hmem, h.anyMention hany⟩

theorem Contains.librariesFor (h : Contains whole part) (vocabulary : Vocabulary) :
    vocabulary.librariesFor part ⊆ vocabulary.librariesFor whole := by
  refine List.map_subset _ fun hint hhint => ?_
  obtain ⟨hmem, hany⟩ := List.mem_filter.mp hhint
  exact List.mem_filter.mpr ⟨hmem, h.anyMention hany⟩

theorem filter_entities (label : EntityLabel) (text : List Char) :
    (entities text).filter (·.label = label) = entitiesOf label text := by
  have hself : ∀ l, (entitiesOf l text).filter (·.label = l) = entitiesOf l text := by
    intro l
    refine List.filter_eq_self.mpr fun e he => ?_
    obtain ⟨f, -, rfl⟩ := List.mem_map.mp he
    exact decide_eq_true rfl
  have hother : ∀ l, l ≠ label → (entitiesOf l text).filter (·.label = label) = [] := by
    intro l hl
    refine List.filter_eq_nil_iff.mpr fun e he => ?_
    obtain ⟨f, -, rfl⟩ := List.mem_map.mp he
    simpa using hl
  cases label <;> simp [entities, EntityLabel.all, hself, hother]

theorem staysApart_entityPattern (label : EntityLabel) :
    (entityPattern label).staysApart = true := by
  cases label <;> decide

/-- A space between two texts parts their entities: none is lost, added or changed, and those of the
second text lie as many bytes further on as there are before it. -/
theorem entities_append_space (s t : String) (label : EntityLabel) :
    (entities (s ++ " " ++ t).toList).filter (·.label = label) =
      (entities s.toList).filter (·.label = label) ++
        ((entities t.toList).filter (·.label = label)).map (Entity.shift (s.utf8ByteSize + 1)) := by
  have hwhole : (s ++ " " ++ t).toList = s.toList ++ ' ' :: t.toList := by
    rw [String.toList_append, String.toList_append, List.append_assoc]
    rfl
  rw [hwhole, filter_entities, filter_entities, filter_entities, ← Text.byteLength_toList]
  unfold entitiesOf
  rw [Pattern.findAll_append_space (staysApart_entityPattern label), List.map_append, List.map_map,
    List.map_map]
  rfl

theorem Contains.entityTexts (h : Contains whole part) (label : EntityLabel) :
    (entitiesOf label part).map (·.text) ⊆ (entitiesOf label whole).map (·.text) := by
  intro text htext
  obtain ⟨e, he, rfl⟩ := List.mem_map.mp htext
  obtain ⟨f, hf, rfl⟩ := List.mem_map.mp he
  obtain ⟨g, hg, hsame⟩ := List.mem_map.mp
    (h.finds _ (staysApart_entityPattern label) (List.mem_map_of_mem hf))
  exact List.mem_map.mpr ⟨_, List.mem_map_of_mem hg, congrArg String.ofList hsame⟩

theorem Contains.labelledTexts (h : Contains whole part) (label : EntityLabel) :
    ((entities part).filter (·.label = label)).map (·.text) ⊆
      ((entities whole).filter (·.label = label)).map (·.text) := by
  rw [filter_entities, filter_entities]
  exact h.entityTexts label

theorem Contains.hasLabel (h : Contains whole part) (label : EntityLabel)
    (hpart : (!((entities part).filter (·.label = label)).isEmpty) = true) :
    (!((entities whole).filter (·.label = label)).isEmpty) = true := by
  have hsub := h.labelledTexts label
  cases hwhole : (entities whole).filter (·.label = label) with
  | nil =>
    rw [hwhole, List.map_nil, List.subset_nil, List.map_eq_nil_iff] at hsub
    rw [hsub] at hpart
    cases hpart
  | cons e es => rfl

def signals (text : List Char) : Signals := ⟨text, actions text, objects text⟩

theorem Contains.rules (h : Contains whole part) :
    ∀ rule ∈ primaryRules, rule.2 (signals part) = true → rule.2 (signals whole) = true := by
  have hmentions : ∀ phrase, (signals part).mentions phrase = true →
      (signals whole).mentions phrase = true := fun _ => h.mentions
  have hpattern : ∀ {pattern : Pattern}, pattern.staysApart = true →
      (signals part).matchesPattern pattern = true →
      (signals whole).matchesPattern pattern = true := fun hapart => h.occurs hapart
  have haction : ∀ candidates, (signals part).anyAction candidates = true →
      (signals whole).anyAction candidates = true := fun _ => h.anyAction
  have hobject : ∀ object, (signals part).hasObject object = true →
      (signals whole).hasObject object = true := by
    intro object hmem
    unfold Signals.hasObject at hmem ⊢
    rw [List.contains_iff_mem] at hmem ⊢
    exact h.objects hmem
  simp only [primaryRules, List.forall_mem_cons, Bool.or_eq_true, Bool.and_eq_true]
  refine ⟨?nemo, ?phone, ?web, ?upkeep, ?gui, ?data, ?file, by simp⟩
  case nemo => exact Or.imp (Or.imp (hpattern (by decide)) (hmentions _)) (hmentions _)
  case phone => exact Or.imp (Or.imp (hmentions _) (hmentions _)) (hpattern (by decide))
  case web => exact Or.imp (Or.imp (haction _) (hobject _)) (hobject _)
  case upkeep => exact hpattern (by decide)
  case gui => exact Or.imp (hobject _) (hpattern (by decide))
  case data => exact And.imp (haction _) (hpattern (by decide))
  case file => exact haction _

end

theorem idxOf_first {α β : Type} [BEq β] [LawfulBEq β] {key : α → β} {holds : α → Bool}
    {entries : List α} {other : β} (h : (entries.map key ++ [other]).Nodup) :
    (entries.map key ++ [other]).idxOf (((entries.find? holds).map key).getD other) =
      entries.findIdx holds := by
  induction entries with
  | nil => simp
  | cons e entries ih =>
    obtain ⟨he, hentries⟩ := List.nodup_cons.mp h
    rw [List.find?_cons, List.findIdx_cons]
    cases hholds : holds e with
    | true => exact List.idxOf_cons_self
    | false =>
      have hne : key e ≠ ((entries.find? holds).map key).getD other := by
        intro heq
        refine he ?_
        rw [heq]
        cases hfind : entries.find? holds with
        | none => exact List.mem_append_right _ List.mem_cons_self
        | some found =>
          exact List.mem_append_left _ (List.mem_map_of_mem (List.mem_of_find?_eq_some hfind))
      rw [List.map_cons, List.cons_append, List.idxOf_cons_ne _ hne, ih hentries]
      rfl

theorem rank_classify (s : Signals) :
    rank (classify s) = primaryRules.findIdx fun rule => rule.2 s := by
  have hclassify : classify s =
      ((primaryRules.find? fun rule => rule.2 s).map Prod.fst).getD .generalScripting := by
    unfold classify
    cases primaryRules.find? fun rule => rule.2 s <;> rfl
  rw [hclassify, rank, idxOf_first (by decide)]

theorem Contains.rank {whole part : List Char} (h : Contains whole part) :
    rank (classify (signals whole)) ≤ Description.rank (classify (signals part)) := by
  rw [rank_classify, rank_classify]
  exact List.findIdx_le_findIdx h.rules

/-- What is noticed in part of a text, and what it requires, is kept in the whole. -/
theorem Contains.analysis {whole part : List Char} (h : Contains whole part)
    (vocabulary : Vocabulary) :
    (analyzeNormal vocabulary whole).Includes (analyzeNormal vocabulary part) where
  primary := h.rank
  actions := h.actions
  objects := h.objects
  secondary := h.secondaryIntents
  libraries := h.librariesFor vocabulary
  systemCommands := h.labelledTexts .command
  networkAccess := by
    intro hpart
    exact (Bool.or_eq_true _ _).mpr
      (((Bool.or_eq_true _ _).mp hpart).imp h.anyAction (h.hasLabel .url))
  fileSystemAccess := by
    intro hpart
    exact (Bool.or_eq_true _ _).mpr (((Bool.or_eq_true _ _).mp hpart).imp
      (fun hfiles => (Bool.or_eq_true _ _).mpr
        (((Bool.or_eq_true _ _).mp hfiles).imp h.anyAction (h.hasLabel .file)))
      (h.hasLabel .path))
  databaseRequired := by
    intro hpart
    exact (Bool.or_eq_true _ _).mpr
      (((Bool.or_eq_true _ _).mp hpart).imp h.anyAction h.anyMention)
  errorHandling := by
    intro hpart
    refine (Bool.or_eq_true _ _).mpr (((Bool.or_eq_true _ _).mp hpart).imp ?_ h.anyMention)
    rw [List.contains_iff_mem, List.contains_iff_mem]
    exact fun hmem => h.secondaryIntents hmem

/-- An analysis of two descriptions with a space between them includes those of both. -/
theorem analyze_append (vocabulary : Vocabulary) {d e : String}
    (hsize : (d ++ " " ++ e).utf8ByteSize ≤ maxBytes) :
    ∃ whole left right, analyze vocabulary (d ++ " " ++ e) = .ok whole ∧
      analyze vocabulary d = .ok left ∧ analyze vocabulary e = .ok right ∧
      whole.Includes left ∧ whole.Includes right := by
  have hbytes : d.utf8ByteSize ≤ maxBytes ∧ e.utf8ByteSize ≤ maxBytes := by
    rw [String.utf8ByteSize_append, String.utf8ByteSize_append] at hsize
    omega
  have hjoined := normalizeChars_joined d.toList e.toList
  obtain ⟨hleft, hright⟩ := contains_of_joined hjoined
  have hchars : (d ++ " " ++ e).toList = d.toList ++ ' ' :: e.toList := by simp
  refine ⟨analyzeNormal vocabulary (normalizeChars (d.toList ++ ' ' :: e.toList)), _, _, ?_, ?_, ?_,
    hleft.analysis vocabulary, hright.analysis vocabulary⟩
  · rw [analyze, if_neg (Nat.not_lt.mpr hsize), hchars]
  · rw [analyze, if_neg (Nat.not_lt.mpr hbytes.1)]
  · rw [analyze, if_neg (Nat.not_lt.mpr hbytes.2)]

theorem fetch_kept : ∃ whole left right,
    analyze .standard ("fetch" ++ " " ++ "data.csv") = .ok whole ∧
      analyze .standard "fetch" = .ok left ∧ analyze .standard "data.csv" = .ok right ∧
      whole.Includes left ∧ whole.Includes right :=
  analyze_append .standard (by decide)

end Description

end Scriptwright

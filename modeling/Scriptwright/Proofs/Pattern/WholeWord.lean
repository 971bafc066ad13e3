import Mathlib.Data.List.SplitBy
import Scriptwright.Proofs.Pattern.Scanning

/-!
A text cut into blocks, and patterns that look for whole words among them. A word that stands alone
is a maximal run of word characters, so what such a pattern finds is told by comparing runs with
words.
-/
namespace Scriptwright

namespace Text

variable {inside : Char → Bool} {kind : Bool} {block rest cs : List Char}

/-- The longest pieces of a text whose characters are all inside or all outside, in order. -/
def blocks (inside : Char → Bool) (text : List Char) : List (List Char) :=
  text.splitBy fun a b => inside a == inside b

/-- A block, all inside or all outside, that ends where `rest` begins. -/
structure EndsBlock (inside : Char → Bool) (kind : Bool) (block rest : List Char) : Prop where
  ne_nil : block ≠ []
  chars : ∀ c ∈ block, inside c = kind
  stops : ∀ c ∈ rest.head?, inside c ≠ kind

theorem endsBlock_inside_iff : EndsBlock inside true block rest ↔
    block ≠ [] ∧ (∀ c ∈ block, inside c = true) ∧ rest.head?.any inside = false := by
  have hstops : (∀ c ∈ rest.head?, inside c ≠ true) ↔ rest.head?.any inside = false := by
    cases rest <;> simp
  rw [← hstops]
  exact ⟨fun h => ⟨h.ne_nil, h.chars, h.stops⟩, fun ⟨hne, hchars, hstops⟩ => ⟨hne, hchars, hstops⟩⟩

theorem EndsBlock.blocks_append (h : EndsBlock inside kind block rest) :
    blocks inside (block ++ rest) = block :: blocks inside rest := by
  have hchain : block.IsChain fun a b => (inside a == inside b) = true := by
    refine (List.pairwise_of_forall_mem_list fun a ha b hb => ?_).isChain
    rw [h.chars a ha, h.chars b hb]
    exact beq_self_eq_true kind
  have hborder : ∀ a ∈ block.getLast?, ∀ b ∈ rest.head?, (inside a == inside b) = false := by
    intro a ha b hb
    rw [h.chars a (List.mem_of_getLast? ha)]
    exact beq_eq_false_iff_ne.mpr (h.stops b hb).symm
  rw [blocks, List.splitBy_append hborder, List.splitBy_of_isChain h.ne_nil hchain]
  rfl

theorem exists_endsBlock (inside : Char → Bool) (hne : cs ≠ []) :
    ∃ kind block rest, cs = block ++ rest ∧ EndsBlock inside kind block rest := by
  obtain ⟨c, cs, rfl⟩ := List.exists_cons_of_ne_nil hne
  refine ⟨inside c, (c :: cs).takeWhile (inside · == inside c),
    (c :: cs).dropWhile (inside · == inside c), List.takeWhile_append_dropWhile.symm, ?_, ?_, ?_⟩
  · simp
  · exact fun d hd => by simpa using List.mem_takeWhile_imp hd
  · intro d hd
    have hhead := List.head?_dropWhile_not (inside · == inside c) (c :: cs)
    rw [Option.mem_def.mp hd] at hhead
    simpa using hhead

theorem endsBlock_of_blocks {more : List (List Char)} (h : blocks inside cs = block :: more) :
    ∃ kind rest, cs = block ++ rest ∧ more = blocks inside rest ∧
      EndsBlock inside kind block rest := by
  have hne : cs ≠ [] := by
    rintro rfl
    cases h
  obtain ⟨kind, front, rest, rfl, hfront⟩ := exists_endsBlock inside hne
  obtain ⟨rfl, rfl⟩ := List.cons.inj (hfront.blocks_append.symm.trans h)
  exact ⟨kind, rest, rfl, rfl, hfront⟩

/-- The text is not empty and made of word characters. -/
structure IsWord (word : List Char) : Prop where
  ne_nil : word ≠ []
  chars : ∀ c ∈ word, isWordChar c = true

theorem isWord_of_all {words : List String}
    (h : (words.all fun w => !w.toList.isEmpty && w.toList.all isWordChar) = true)
    {word : String} (hword : word ∈ words) : IsWord word.toList := by
  obtain ⟨hne, hchars⟩ := (Bool.and_eq_true _ _).mp (List.all_eq_true.mp h word hword)
  exact ⟨by simpa using hne, List.all_eq_true.mp hchars⟩

theorem IsWord.begins {word : List Char} (h : IsWord word) (rest : List Char) :
    (word ++ rest).head?.any isWordChar = true := by
  obtain ⟨c, word, rfl⟩ := List.exists_cons_of_ne_nil h.ne_nil
  exact h.chars c List.mem_cons_self

theorem IsWord.edge_iff {word : List Char} (h : IsWord word) {before : Option Char}
    {rest : List Char} : (before.any isWordChar != (word ++ rest).head?.any isWordChar) = true ↔
      before.any isWordChar = false := by
  rw [h.begins]
  simp

end Text

namespace Place

variable {inside : Char → Bool} {kind : Bool} {p : Place} {block mid rest : List Char}

theorem runs_past_outside (hafter : p.after = mid ++ rest) (hmid : ∀ c ∈ mid, inside c = false) :
    p.runs inside = (p.past mid rest).runs inside := by
  induction mid generalizing p with
  | nil =>
    have hrest : rest = p.after := hafter.symm
    rw [hrest, past_nil]
  | cons c mid ih =>
    obtain ⟨hc, hmid⟩ := List.forall_mem_cons.mp hmid
    have hstep := @ih (p.step c (mid ++ rest)) rfl hmid
    rw [step_past] at hstep
    rw [← hstep, runs, hafter, List.cons_append, Text.runsFrom, hc]
    simp [runs, step]

theorem startsRun_of_block (hp : p.BetweenRuns inside) (hafter : p.after = block ++ rest)
    (h : Text.EndsBlock inside true block rest) : p.StartsRun inside block rest where
  after := hafter
  starts := by
    refine hp.resolve_right fun hhead => ?_
    obtain ⟨c, block, rfl⟩ := List.exists_cons_of_ne_nil h.ne_nil
    have hc := h.chars c List.mem_cons_self
    simp [hafter, hc] at hhead
  chars := h.chars
  stops := (Text.endsBlock_inside_iff.mp h).2.2

theorem betweenRuns_past (p : Place) (h : Text.EndsBlock inside kind block rest) :
    (p.past block rest).BetweenRuns inside := by
  cases kind with
  | true => exact .inr (Text.endsBlock_inside_iff.mp h).2.2
  | false =>
    left
    obtain ⟨front, last, rfl⟩ := List.eq_nil_or_concat' block |>.resolve_left h.ne_nil
    have hlast := h.chars last (by simp)
    simp [past, hlast]

theorem runs_texts (hp : p.BetweenRuns inside) :
    (p.runs inside).map (·.text) = (Text.blocks inside p.after).filter (·.any inside) := by
  induction hn : p.after.length using Nat.strong_induction_on generalizing p with
  | _ n ih =>
    by_cases hne : p.after = []
    · simp [runs, hne, Text.runsFrom, Text.blocks]
    obtain ⟨kind, block, rest, hafter, hblock⟩ := Text.exists_endsBlock inside hne
    have hlt : rest.length < n := by
      have := List.length_pos_iff.mpr hblock.ne_nil
      rw [← hn, hafter, List.length_append]
      omega
    have hlater := ih rest.length hlt (betweenRuns_past p hblock) rfl
    rw [hafter, hblock.blocks_append]
    cases kind with
    | true =>
      obtain ⟨c, hc⟩ := List.exists_mem_of_ne_nil block hblock.ne_nil
      have hinside : block.any inside = true := List.any_eq_true.mpr ⟨c, hc, hblock.chars c hc⟩
      rw [runs_of_startsRun (startsRun_of_block hp hafter hblock) hblock.ne_nil, List.map_cons,
        List.filter_cons, if_pos hinside, hlater]
      rfl
    | false =>
      have houtside : ¬ block.any inside = true := by simpa using hblock.chars
      rw [runs_past_outside hafter hblock.chars, List.filter_cons, if_neg houtside, hlater]
      rfl

end Place

namespace Pattern

variable {words : List String} {before : Option Char} {mid rest : List Char}

theorem takes_texts :
    (oneOf (words.map text)).Takes before mid rest ↔ ∃ word ∈ words, mid = word.toList := by
  simp [takes_oneOf, takes_text]

theorem takes_ending (hwords : ∀ word ∈ words, Text.IsWord word.toList) :
    (chain [text ".", oneOf (words.map text), wordEdge]).Takes before mid rest ↔
      (∃ word ∈ words, mid = '.' :: word.toList) ∧ rest.head?.any Text.isWordChar = false := by
  constructor
  · rintro ⟨_, _, rfl, hdot, _, _, rfl, hword, hedge⟩
    obtain ⟨word, hmem, rfl⟩ := takes_texts.mp hword
    obtain ⟨hne, hchars⟩ := hwords word hmem
    obtain ⟨rfl, hrest⟩ := (takes_wordEdge_behind hne hchars).mp hedge
    rw [takes_text.mp hdot]
    exact ⟨⟨word, hmem, by simp⟩, hrest⟩
  · rintro ⟨⟨word, hmem, rfl⟩, hrest⟩
    obtain ⟨hne, hchars⟩ := hwords word hmem
    refine ⟨['.'], word.toList, rfl, takes_text.mpr rfl, word.toList, [], by simp,
      takes_texts.mpr ⟨word, hmem, rfl⟩, ?_⟩
    exact (takes_wordEdge_behind hne hchars).mpr ⟨rfl, hrest⟩

theorem takes_wholeWord (hwords : ∀ word ∈ words, Text.IsWord word.toList) :
    (wholeWord words).Takes before mid rest ↔
      (before.any Text.isWordChar != (mid ++ rest).head?.any Text.isWordChar) = true ∧
        (∃ word ∈ words, mid = word.toList) ∧ rest.head?.any Text.isWordChar = false := by
  constructor
  · rintro ⟨_, _, rfl, ⟨rfl, hstart⟩, _, _, rfl, hword, hend⟩
    obtain ⟨word, hmem, rfl⟩ := takes_texts.mp hword
    obtain ⟨hne, hchars⟩ := hwords word hmem
    obtain ⟨rfl, hrest⟩ := (takes_wordEdge_behind hne hchars).mp hend
    exact ⟨by simpa using hstart, ⟨word, hmem, by simp⟩, hrest⟩
  · rintro ⟨hstart, ⟨word, hmem, rfl⟩, hrest⟩
    obtain ⟨hne, hchars⟩ := hwords word hmem
    refine ⟨[], word.toList, rfl, ⟨rfl, hstart⟩, word.toList, [], by simp,
      takes_texts.mpr ⟨word, hmem, rfl⟩, ?_⟩
    exact (takes_wordEdge_behind hne hchars).mpr ⟨rfl, hrest⟩

theorem eq_nil_of_before {p : Place} {front : List Char}
    (hfront : ∀ c ∈ front, Text.isWordChar c = true)
    (h : (p.past front rest).before.any Text.isWordChar = false) : front = [] := by
  cases hlast : front.getLast? with
  | none => exact List.getLast?_eq_none_iff.mp hlast
  | some c =>
    have hc := hfront c (List.mem_of_getLast? hlast)
    simp [Place.past, hlast, hc] at h

theorem whole_of_takes (hwords : ∀ word ∈ words, Text.IsWord word.toList) {p : Place}
    (front : List Char) {back mid behind : List Char}
    (hrun : p.StartsRun Text.isWordChar (front ++ back) rest) (hback : back ≠ [])
    (hmid : back ++ rest = mid ++ behind)
    (h : (wholeWord words).Takes (p.past front (back ++ rest)).before mid behind) :
    front = [] ∧ mid = back := by
  obtain ⟨hstart, ⟨word, hmem, rfl⟩, hbehind⟩ := (takes_wholeWord hwords).mp h
  rw [← hmid] at hstart
  have hfront : ∀ c ∈ front, Text.isWordChar c = true := fun c hc => hrun.chars c (by simp [hc])
  have hchars : ∀ c ∈ back, Text.isWordChar c = true := fun c hc => hrun.chars c (by simp [hc])
  refine ⟨eq_nil_of_before hfront ((Text.IsWord.edge_iff ⟨hback, hchars⟩).mp hstart), ?_⟩
  rw [← Text.takeWhile_run hchars hrun.stops, hmid,
    Text.takeWhile_run (hwords word hmem).chars hbehind]

def wordIn? (words : List String) (run : List Char) : Option (List Char × List Char) :=
  if words.contains (String.ofList run) then some ([], run) else none

theorem picks_wholeWord (hwords : ∀ word ∈ words, Text.IsWord word.toList) :
    (wholeWord words).Picks Text.isWordChar (wordIn? words) where
  outside := by
    intro p c cs hafter hc
    refine covered?_eq_none fun mid behind hmid htakes => ?_
    obtain ⟨-, ⟨word, hmem, rfl⟩, -⟩ := (takes_wholeWord hwords).mp htakes
    have hhead := (hwords word hmem).begins behind
    rw [← hmid, hafter] at hhead
    exact absurd (hc.symm.trans hhead) Bool.false_ne_true
  absent := by
    intro p run rest hrun hpick front c back hsplit
    refine covered?_eq_none fun mid behind hmid htakes => ?_
    subst hsplit
    obtain ⟨rfl, rfl⟩ := whole_of_takes hwords front hrun (List.cons_ne_nil c back) hmid htakes
    obtain ⟨-, ⟨word, hmem, hword⟩, -⟩ := (takes_wholeWord hwords).mp htakes
    simp [wordIn?, hword, hmem] at hpick
  present := by
    intro p run rest skipped found hrun hpick
    unfold wordIn? at hpick
    split at hpick
    · rename_i hword
      obtain ⟨rfl, rfl⟩ := Prod.mk.inj (Option.some.inj hpick)
      have hmem : String.ofList run ∈ words := List.contains_iff_mem.mp hword
      have hne : run ≠ [] := by
        have := (hwords _ hmem).ne_nil
        rwa [String.toList_ofList] at this
      have htakes : (wholeWord words).Takes p.before run rest := (takes_wholeWord hwords).mpr
        ⟨(Text.IsWord.edge_iff ⟨hne, hrun.chars⟩).mpr hrun.starts,
          ⟨_, hmem, String.toList_ofList.symm⟩, hrun.stops⟩
      refine ⟨[], by simp, hne, failsIn_nil, ?_, failsIn_nil⟩
      rw [List.append_nil, hrun.past_nil]
      refine covered?_of_unique hrun.after htakes fun xs ys hxs htakes' => ?_
      rw [← hrun.past_nil] at htakes'
      exact (whole_of_takes hwords [] hrun hne (hrun.after.symm.trans hxs) htakes').2
    · cases hpick

end Pattern

end Scriptwright

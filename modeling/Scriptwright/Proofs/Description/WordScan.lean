import Scriptwright.Description.Extraction
import Scriptwright.Proofs.Description.Size
import Scriptwright.Proofs.Pattern.WholeWord

/-!
Actions and objects, read off the words of a text. The eleven patterns are not needed to say what
they find: it is enough to cut the text into words and what stands between them.
-/
namespace Scriptwright.Description

def wordsAmong (vocabulary : List String) (blocks : List (List Char)) : List String :=
  (blocks.map String.ofList).filter vocabulary.contains

/-- The file names among the blocks of a text, from the left: a word, a dot alone, and an extension
that has not been used for the name before. -/
def fileNames : List (List Char) → List String
  | stem :: gap :: ext :: blocks =>
    if gap = ['.'] ∧ String.ofList ext ∈ objectExtensions then
      String.ofList (stem ++ gap ++ ext) :: fileNames blocks
    else fileNames (gap :: ext :: blocks)
  | _ => []

theorem fileNames_cons {block : List Char} {blocks : List (List Char)}
    (h : ∀ ext more, blocks = ['.'] :: ext :: more → String.ofList ext ∉ objectExtensions) :
    fileNames (block :: blocks) = fileNames blocks := by
  match blocks with
  | [] => rfl
  | [_] => rfl
  | gap :: ext :: more =>
    rw [fileNames, if_neg]
    rintro ⟨rfl, hext⟩
    exact h ext more rfl hext

theorem word_of_objectExtension {ext : String} (h : ext ∈ objectExtensions) :
    Text.IsWord ext.toList :=
  Text.isWord_of_all (by decide) h

theorem word_of_group {groups : List (List String)}
    (h : (groups.all fun words =>
      words.all fun w => !w.toList.isEmpty && w.toList.all Text.isWordChar) = true)
    {words : List String} (hwords : words ∈ groups) {word : String} (hword : word ∈ words) :
    Text.IsWord word.toList :=
  Text.isWord_of_all (List.all_eq_true.mp h words hwords) hword

variable {p : Place} {words : List String} {before : Option Char} {mid rest : List Char}

/-- The text is a dot, an extension that ends with its word, and `rest`. -/
structure OpensWithExtension (ext : String) (text rest : List Char) : Prop where
  mem : ext ∈ objectExtensions
  split : text = '.' :: ext.toList ++ rest
  stops : rest.head?.any Text.isWordChar = false

variable {ext : String} {text : List Char}

theorem OpensWithExtension.blocks (h : OpensWithExtension ext text rest) :
    Text.blocks Text.isWordChar text =
      ['.'] :: ext.toList :: Text.blocks Text.isWordChar rest := by
  have hword := word_of_objectExtension h.mem
  have hext : Text.EndsBlock Text.isWordChar true ext.toList rest :=
    Text.endsBlock_inside_iff.mpr ⟨hword.ne_nil, hword.chars, h.stops⟩
  have hdot : Text.EndsBlock Text.isWordChar false ['.'] (ext.toList ++ rest) := by
    refine ⟨List.cons_ne_nil _ _, List.forall_mem_singleton.mpr (by decide), fun c hc => ?_⟩
    have hhead := hword.begins rest
    rw [Option.mem_def.mp hc] at hhead
    exact ne_of_eq_of_ne hhead (by decide)
  rw [h.split, ← hext.blocks_append, ← hdot.blocks_append]
  rfl

theorem OpensWithExtension.length_lt (h : OpensWithExtension ext text rest) :
    rest.length < text.length := by
  rw [h.split, List.length_append, List.length_cons]
  omega

theorem OpensWithExtension.fileNames (h : OpensWithExtension ext text rest) (stem : List Char) :
    fileNames (stem :: Text.blocks Text.isWordChar text) =
      String.ofList (stem ++ '.' :: ext.toList) ::
        Description.fileNames (Text.blocks Text.isWordChar rest) := by
  rw [h.blocks, Description.fileNames, if_pos ⟨rfl, by rw [String.ofList_toList]; exact h.mem⟩,
    List.append_assoc]
  rfl

theorem OpensWithExtension.unique {ext' : String} {rest' : List Char}
    (h : OpensWithExtension ext text rest) (h' : OpensWithExtension ext' text rest') :
    ext = ext' := by
  have hblocks := h.blocks.symm.trans h'.blocks
  exact String.toList_inj.mp (List.cons.inj (List.cons.inj hblocks).2).1

theorem opensWithExtension_of_blocks {word : List Char} {more : List (List Char)}
    (h : Text.blocks Text.isWordChar text = ['.'] :: word :: more)
    (hword : String.ofList word ∈ objectExtensions) :
    ∃ rest, OpensWithExtension (String.ofList word) text rest := by
  obtain ⟨_, tail, rfl, htail, -⟩ := Text.endsBlock_of_blocks h
  obtain ⟨kind, rest, rfl, -, hblock⟩ := Text.endsBlock_of_blocks htail.symm
  obtain ⟨c, hc⟩ := List.exists_mem_of_ne_nil word hblock.ne_nil
  have hkind : kind = true := by
    rw [← hblock.chars c hc]
    refine (word_of_objectExtension hword).chars c ?_
    rwa [String.toList_ofList]
  subst hkind
  refine ⟨rest, hword, ?_, (Text.endsBlock_inside_iff.mp hblock).2.2⟩
  rw [String.toList_ofList]
  rfl

theorem takes_fileNamePattern : fileNamePattern.Takes before mid rest ↔
    before.any Text.isWordChar = false ∧ ∃ stem, ∃ ext ∈ objectExtensions,
      mid = stem ++ '.' :: ext.toList ∧ Text.IsWord stem ∧
        rest.head?.any Text.isWordChar = false := by
  have hmem : (CharSet.of [.word]).mem = Text.isWordChar := by
    funext c
    simp [CharSet.mem, CharSet.of, CharClass.mem]
  have hending : ∀ {before mid}, (Pattern.chain [.text ".", anyText objectExtensions,
      .wordEdge]).Takes before mid rest ↔ (∃ ext ∈ objectExtensions, mid = '.' :: ext.toList) ∧
        rest.head?.any Text.isWordChar = false :=
    Pattern.takes_ending fun _ => word_of_objectExtension
  constructor
  · rintro ⟨_, _, rfl, ⟨rfl, hstart⟩, stem, _, rfl, hstem, htail⟩
    obtain ⟨⟨ext, hext, rfl⟩, hrest⟩ := hending.mp htail
    obtain ⟨hne, hchars⟩ := Pattern.takes_someOf.mp hstem
    rw [hmem] at hchars
    have hword : Text.IsWord stem := ⟨hne, hchars⟩
    rw [List.append_assoc] at hstart
    exact ⟨hword.edge_iff.mp hstart, stem, ext, hext, rfl, hword, hrest⟩
  · rintro ⟨hbefore, stem, ext, hext, rfl, hword, hrest⟩
    have hstem : ∀ c ∈ stem, (CharSet.of [.word]).mem c = true := by
      rw [hmem]
      exact hword.chars
    refine ⟨[], stem ++ '.' :: ext.toList, rfl, ⟨rfl, ?_⟩, stem, _, rfl,
      Pattern.takes_someOf.mpr ⟨hword.ne_nil, hstem⟩, hending.mpr ⟨⟨ext, hext, rfl⟩, hrest⟩⟩
    rw [List.append_assoc]
    exact hword.edge_iff.mpr hbefore

theorem stem_of_takes {kind : Bool} {front back behind : List Char}
    (hblock : Text.EndsBlock Text.isWordChar kind (front ++ back) rest) (hback : back ≠ [])
    (hmid : back ++ rest = mid ++ behind)
    (h : fileNamePattern.Takes (p.past front (back ++ rest)).before mid behind) :
    kind = true ∧ front = [] ∧ ∃ ext, mid = back ++ '.' :: ext.toList ∧
      OpensWithExtension ext rest behind := by
  obtain ⟨hbefore, stem, ext, hext, rfl, hword, hbehind⟩ := takes_fileNamePattern.mp h
  have hkind : kind = true := by
    obtain ⟨c, back, rfl⟩ := List.exists_cons_of_ne_nil hback
    have hhead := hword.begins ('.' :: ext.toList ++ behind)
    rw [← List.append_assoc, ← hmid] at hhead
    rw [← hblock.chars c (by simp)]
    exact hhead
  subst hkind
  obtain ⟨-, hchars, hstops⟩ := Text.endsBlock_inside_iff.mp hblock
  obtain ⟨hfront, hback⟩ := List.forall_mem_append.mp hchars
  have hstem : back = stem := by
    rw [← Text.takeWhile_run hback hstops, hmid, List.append_assoc]
    exact Text.takeWhile_run hword.chars rfl
  subst hstem
  rw [List.append_assoc] at hmid
  exact ⟨rfl, Pattern.eq_nil_of_before hfront hbefore, ext, rfl, hext,
    List.append_cancel_left hmid, hbehind⟩

theorem failsIn_block {kind : Bool} {block : List Char}
    (hblock : Text.EndsBlock Text.isWordChar kind block rest)
    (h : kind = true → ∀ ext behind, ¬ OpensWithExtension ext rest behind) :
    fileNamePattern.FailsIn p block rest := by
  rintro front c back rfl
  refine Pattern.covered?_eq_none fun mid behind hmid htakes => ?_
  obtain ⟨hkind, -, ext, -, hext⟩ :=
    stem_of_takes hblock (List.cons_ne_nil c back) hmid htakes
  exact h hkind ext behind hext

theorem covered?_block {block : List Char} {ext : String} (hp : p.BetweenRuns Text.isWordChar)
    (hafter : p.after = block ++ rest) (hblock : Text.EndsBlock Text.isWordChar true block rest)
    {behind : List Char} (hext : OpensWithExtension ext rest behind) :
    fileNamePattern.covered? p = some (block ++ '.' :: ext.toList) := by
  have hsplit : p.after = block ++ '.' :: ext.toList ++ behind := by
    rw [hafter, hext.split, List.append_assoc]
  refine Pattern.covered?_of_unique hsplit (takes_fileNamePattern.mpr
    ⟨(Place.startsRun_of_block hp hafter hblock).starts, block, ext, hext.mem, rfl,
      ⟨hblock.ne_nil, hblock.chars⟩, hext.stops⟩) fun xs ys hxs htakes => ?_
  have hhere : p.past [] (block ++ rest) = p := by
    rw [← hafter, Place.past_nil]
  rw [← hhere] at htakes
  have hwhole : Text.EndsBlock Text.isWordChar true ([] ++ block) rest := hblock
  obtain ⟨-, -, ext', rfl, hext'⟩ :=
    stem_of_takes hwhole hblock.ne_nil (hafter.symm.trans hxs) htakes
  rw [hext.unique hext']

theorem finds_fileNames (hp : p.BetweenRuns Text.isWordChar) :
    ∃ fs, fileNamePattern.Finds p fs ∧ (fs.map fun f => String.ofList f.text) =
      fileNames (Text.blocks Text.isWordChar p.after) := by
  induction hn : p.after.length using Nat.strong_induction_on generalizing p with
  | _ n ih =>
    by_cases hne : p.after = []
    · refine ⟨[], .done hne, ?_⟩
      rw [hne]
      rfl
    obtain ⟨kind, block, rest, hafter, hblock⟩ := Text.exists_endsBlock Text.isWordChar hne
    have hpos := List.length_pos_iff.mpr hblock.ne_nil
    have hlength : block.length + rest.length = n := by
      rw [← hn, hafter, List.length_append]
    rw [hafter, hblock.blocks_append]
    by_cases hname : kind = true ∧ ∃ ext behind, OpensWithExtension ext rest behind
    · obtain ⟨rfl, ext, behind, hext⟩ := hname
      have hsplit : p.after = block ++ '.' :: ext.toList ++ behind := by
        rw [hafter, hext.split, List.append_assoc]
      obtain ⟨fs, hfs, htexts⟩ := ih behind.length (by have := hext.length_lt; omega)
        (p := p.past (block ++ '.' :: ext.toList) behind) (.inr hext.stops) rfl
      refine ⟨_, .jump hsplit (by simp) (covered?_block hp hafter hblock hext) hfs, ?_⟩
      rw [List.map_cons, htexts, hext.fileNames]
      rfl
    · have hnone : ∀ ext more, Text.blocks Text.isWordChar rest = ['.'] :: ext :: more →
          String.ofList ext ∉ objectExtensions := by
        intro ext more hblocks hmem
        obtain ⟨behind, hext⟩ := opensWithExtension_of_blocks hblocks hmem
        have hdot : Text.isWordChar '.' ≠ kind := hblock.stops '.' (by rw [hext.split]; rfl)
        refine hname ⟨?_, _, behind, hext⟩
        revert hdot
        cases kind <;> decide
      obtain ⟨fs, hfs, htexts⟩ := ih rest.length (by omega)
        (Place.betweenRuns_past p hblock) rfl
      refine ⟨fs, hfs.past (failsIn_block hblock ?_) hafter, ?_⟩
      · exact fun hkind ext behind hext => hname ⟨hkind, ext, behind, hext⟩
      · rw [htexts, fileNames_cons hnone]
        rfl

theorem fileNamePattern_texts (text : List Char) :
    ((fileNamePattern.findAll text).map fun f => String.ofList f.text) =
      fileNames (Text.blocks Text.isWordChar text) := by
  obtain ⟨fs, hfs, htexts⟩ := finds_fileNames (p := ⟨none, text, 0⟩) (.inl rfl)
  rw [Pattern.findAll_of_finds hfs, htexts]

theorem wholeWord_texts (hwords : ∀ word ∈ words, Text.IsWord word.toList) (text : List Char) :
    (((Pattern.wholeWord words).findAll text).map fun f => String.ofList f.text) =
      wordsAmong words (Text.blocks Text.isWordChar text) := by
  have hruns : (Text.runs Text.isWordChar text).map (·.text) =
      (Text.blocks Text.isWordChar text).filter (·.any Text.isWordChar) :=
    Place.runs_texts (p := ⟨none, text, 0⟩) (.inl rfl)
  have hpick : ∀ run : Text.Run, ((Pattern.pickedFrom (Pattern.wordIn? words) run).map fun f =>
      String.ofList f.text) = Option.guard words.contains (String.ofList run.text) := by
    intro run
    rw [Pattern.pickedFrom, Pattern.wordIn?, Option.guard]
    split <;> rfl
  have hword : ∀ block : List Char, words.contains (String.ofList block) = true →
      block.any Text.isWordChar = true := by
    intro block hblock
    obtain ⟨hne, hchars⟩ := hwords _ (List.contains_iff_mem.mp hblock)
    rw [String.toList_ofList] at hne hchars
    obtain ⟨c, hc⟩ := List.exists_mem_of_ne_nil block hne
    exact List.any_eq_true.mpr ⟨c, hc, hchars c hc⟩
  calc
    _ = (Text.runs Text.isWordChar text).filterMap fun run =>
        Option.guard words.contains (String.ofList run.text) := by
      rw [(Pattern.picks_wholeWord hwords).findAll, List.map_filterMap, funext hpick]
    _ = (((Text.runs Text.isWordChar text).map (·.text)).map String.ofList).filter
        words.contains := by
      rw [← List.filterMap_eq_filter, List.filterMap_map, List.filterMap_map]
      rfl
    _ = (((Text.blocks Text.isWordChar text).filter (·.any Text.isWordChar)).map
        String.ofList).filter words.contains := congrArg
      (fun runs => (runs.map String.ofList).filter words.contains) hruns
    _ = wordsAmong words (Text.blocks Text.isWordChar text) := by
      rw [wordsAmong, List.filter_map, List.filter_map, List.filter_filter]
      refine congrArg (List.map String.ofList) (List.filter_congr fun block _ => ?_)
      rw [Bool.eq_iff_iff, Bool.and_eq_true]
      exact and_iff_left_of_imp (hword block)

theorem flatMap_wholeWord_texts {groups : List (List String)}
    (hgroups : ∀ group ∈ groups, ∀ word ∈ group, Text.IsWord word.toList) (text : List Char) :
    ((groups.map Pattern.wholeWord).flatMap fun p => (p.findAll text).map fun f =>
      String.ofList f.text) =
        groups.flatMap (wordsAmong · (Text.blocks Text.isWordChar text)) := by
  rw [List.flatMap_map]
  exact List.flatMap_congr fun group hgroup => wholeWord_texts (hgroups group hgroup) text

/-- Actions are the words of each group in turn among the blocks of a text, objects the file names
and then the words of each group, both in order of first occurrence and without repetitions. -/
theorem actions_objects_eq_words (text : List Char) :
    actions text = (actionGroups.flatMap fun group =>
      wordsAmong group (Text.blocks Text.isWordChar text)).eraseDups ∧
    objects text = (fileNames (Text.blocks Text.isWordChar text) ++
      objectGroups.flatMap fun group =>
        wordsAmong group (Text.blocks Text.isWordChar text)).eraseDups ∧
    (actions text).Nodup ∧ (objects text).Nodup := by
  refine ⟨?_, ?_, nodup_distinct _, nodup_distinct _⟩
  · rw [actions, distinctMatches, actionPatterns, distinct_eq_eraseDups,
      flatMap_wholeWord_texts fun _ => word_of_group (by decide)]
  · rw [objects, distinctMatches, objectPatterns, distinct_eq_eraseDups, List.flatMap_cons,
      fileNamePattern_texts, flatMap_wholeWord_texts fun _ => word_of_group (by decide)]

/-- What is an extension in one name is not the stem of the next. -/
example : fileNames (Text.blocks Text.isWordChar "a.py.sh b.json".toList) = ["a.py", "b.json"] := by
  decide

end Scriptwright.Description

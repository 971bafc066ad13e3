import Scriptwright.Description.Extraction
import Scriptwright.Proofs.Pattern.WholeWord

/-!
File names in a text. In a maximal run of the characters that file names are made of, the name is
everything up to the last extension, and there is at most one.
-/
namespace Scriptwright.Description

def isFileChar (c : Char) : Bool := Text.isWordChar c || ['*', '.', '-'].contains c

/-- Behind `front`, in front of `back`, ends a file name: the last word in `front` is an extension
with a dot before it that is not the first character. -/
def endsFileName (front back : List Char) : Bool :=
  !back.head?.any Text.isWordChar &&
    fileExtensions.any fun ext =>
      ('.' :: ext.toList).isSuffixOf front && decide (ext.length + 1 < front.length)

/-- The file name in a run, with what is skipped before it: all up to the last extension. -/
def fileName? (run : List Char) : Option (List Char × List Char) :=
  (Text.lastCut? endsFileName run).map fun cut => ([], cut.1)

theorem fileChars_mem : (CharSet.of [.word, .one '*', .one '.', .one '-']).mem = isFileChar := by
  funext c
  rw [Bool.eq_iff_iff]
  simp [CharSet.mem, CharSet.of, CharClass.mem, isFileChar, @eq_comm Char c]

theorem word_of_extension {ext : String} (h : ext ∈ fileExtensions) : Text.IsWord ext.toList :=
  Text.isWord_of_all (by decide) h

theorem dot_not_mem_extension {ext : String} (h : ext ∈ fileExtensions) : '.' ∉ ext.toList := by
  intro hdot
  have hword := (word_of_extension h).chars '.' hdot
  exact absurd hword (by decide)

def fileEnding : Pattern := .chain [.text ".", anyText fileExtensions, .wordEdge]

theorem takes_fileEnding {mid rest : List Char} {before : Option Char} :
    fileEnding.Takes before mid rest ↔
      (∃ ext ∈ fileExtensions, mid = '.' :: ext.toList) ∧
        rest.head?.any Text.isWordChar = false :=
  Pattern.takes_ending fun _ => word_of_extension

theorem takes_filePattern {mid rest : List Char} {before : Option Char} :
    filePattern.Takes before mid rest ↔
      ∃ stem, ∃ ext ∈ fileExtensions, mid = stem ++ '.' :: ext.toList ∧ stem ≠ [] ∧
        (∀ c ∈ stem, isFileChar c = true) ∧ rest.head?.any Text.isWordChar = false := by
  constructor
  · rintro ⟨stem, _, rfl, hstem, hending⟩
    obtain ⟨⟨ext, hmem, rfl⟩, hrest⟩ := takes_fileEnding.mp hending
    obtain ⟨hne, hchars⟩ := Pattern.takes_someOf.mp hstem
    rw [fileChars_mem] at hchars
    exact ⟨stem, ext, hmem, rfl, hne, hchars, hrest⟩
  · rintro ⟨stem, ext, hmem, rfl, hne, hchars, hrest⟩
    rw [← fileChars_mem] at hchars
    exact ⟨stem, _, rfl, Pattern.takes_someOf.mpr ⟨hne, hchars⟩,
      takes_fileEnding.mpr ⟨⟨ext, hmem, rfl⟩, hrest⟩⟩

theorem isFileChar_of_word {c : Char} (h : Text.isWordChar c = true) : isFileChar c = true := by
  simp [isFileChar, h]

theorem isFileChar_of_takes {before : Option Char} {mid rest : List Char}
    (h : filePattern.Takes before mid rest) : ∀ c ∈ mid, isFileChar c = true := by
  obtain ⟨stem, ext, hmem, rfl, -, hstem, -⟩ := takes_filePattern.mp h
  intro c hc
  rcases List.mem_append.mp hc with hc | hc
  · exact hstem c hc
  · rcases List.mem_cons.mp hc with rfl | hc
    · decide
    · exact isFileChar_of_word ((word_of_extension hmem).chars c hc)

theorem endsFileName_iff {front back : List Char} :
    endsFileName front back = true ↔ back.head?.any Text.isWordChar = false ∧
      ∃ stem, ∃ ext ∈ fileExtensions, stem ≠ [] ∧ front = stem ++ '.' :: ext.toList := by
  unfold endsFileName
  rw [Bool.and_eq_true, Bool.not_eq_true', List.any_eq_true]
  refine and_congr_right fun _ => ⟨?_, ?_⟩
  · rintro ⟨ext, hmem, hext⟩
    obtain ⟨hsuffix, hlength⟩ := (Bool.and_eq_true _ _).mp hext
    obtain ⟨stem, rfl⟩ := List.isSuffixOf_iff_suffix.mp hsuffix
    refine ⟨stem, ext, hmem, ?_, rfl⟩
    rintro rfl
    simp [String.length_toList] at hlength
  · rintro ⟨stem, ext, hmem, hne, rfl⟩
    refine ⟨ext, hmem, (Bool.and_eq_true _ _).mpr ⟨?_, ?_⟩⟩
    · exact List.isSuffixOf_iff_suffix.mpr (List.suffix_append _ _)
    · have := List.length_pos_iff.mpr hne
      simp [String.length_toList]
      omega

variable {p : Place} {run rest : List Char}

theorem endsFileName_of_takes {before : Option Char} (front : List Char)
    {back mid behind : List Char} (h : filePattern.Takes before mid behind)
    (hback : back ++ rest = mid ++ behind) (hrest : rest.head?.any isFileChar = false) :
    ∃ tail, back = mid ++ tail ∧ endsFileName (front ++ mid) tail = true := by
  obtain ⟨tail, htail, rfl⟩ := Text.prefix_of_run hback hrest (isFileChar_of_takes h)
  obtain ⟨stem, ext, hmem, rfl, hne, -, hbehind⟩ := takes_filePattern.mp h
  refine ⟨tail, htail, endsFileName_iff.mpr ⟨?_, front ++ stem, ext, hmem, ?_, ?_⟩⟩
  · cases tail with
    | nil => rfl
    | cons c tail => exact hbehind
  · exact List.append_ne_nil_of_right_ne_nil front hne
  · rw [List.append_assoc]

/-- Where two extensions could follow a dot, one of them would run into the other. -/
theorem covered?_fileEnding {ext : String} (hmem : ext ∈ fileExtensions) {behind : List Char}
    (hafter : p.after = '.' :: ext.toList ++ behind)
    (hbehind : behind.head?.any Text.isWordChar = false) :
    fileEnding.covered? p = some ('.' :: ext.toList) := by
  refine Pattern.covered?_of_unique hafter (takes_fileEnding.mpr ⟨⟨ext, hmem, rfl⟩, hbehind⟩)
    fun xs ys hxs htakes => ?_
  obtain ⟨⟨other, hother, rfl⟩, hys⟩ := takes_fileEnding.mp htakes
  have hwords : ext.toList ++ behind = other.toList ++ ys :=
    (List.cons.inj (hafter.symm.trans hxs)).2
  have htake := Text.takeWhile_run (word_of_extension hmem).chars hbehind
  rw [hwords, Text.takeWhile_run (word_of_extension hother).chars hys] at htake
  rw [htake]

theorem extension_before_dot {ext : String} (hmem : ext ∈ fileExtensions)
    {xs behind : List Char} (hne : xs ≠ [])
    (h : '.' :: ext.toList ++ rest = xs ++ '.' :: behind) : ext.toList.length < xs.length := by
  have hdot := dot_not_mem_extension hmem
  obtain ⟨x, xs, rfl⟩ := List.exists_cons_of_ne_nil hne
  obtain ⟨-, htails⟩ := List.cons.inj h
  rcases List.append_eq_append_iff.mp htails with ⟨more, hmore, -⟩ | ⟨more, hext, hmore⟩
  · rw [hmore, List.length_cons, List.length_append]
    omega
  · cases more with
    | nil =>
      rw [hext, List.length_cons, List.append_nil]
      omega
    | cons c more =>
      obtain ⟨rfl, -⟩ := List.cons.inj hmore
      exact absurd (by rw [hext]; simp) hdot

theorem head_append_not_word {back : List Char} (hback : back.head?.any Text.isWordChar = false)
    (hrest : rest.head?.any isFileChar = false) :
    (back ++ rest).head?.any Text.isWordChar = false := by
  cases back with
  | cons c back => exact hback
  | nil =>
    cases rest with
    | nil => rfl
    | cons c rest =>
      have hc : isFileChar c = false := hrest
      refine Bool.eq_false_iff.mpr fun hword => ?_
      rw [isFileChar_of_word hword] at hc
      cases hc

/-- The pattern takes everything up to the last extension in the run. -/
theorem covered?_filePattern {front back : List Char}
    (hrun : p.StartsRun isFileChar (front ++ back) rest) (hends : endsFileName front back = true)
    (hlast : ∀ xs ys, front ++ back = xs ++ ys → endsFileName xs ys = true →
      xs.length ≤ front.length) : filePattern.covered? p = some front := by
  obtain ⟨hback, stem, ext, hmem, hne, rfl⟩ := endsFileName_iff.mp hends
  have hafter : p.after = stem ++ ('.' :: ext.toList ++ (back ++ rest)) := by
    rw [hrun.after]
    simp
  have hstem : ∀ c ∈ stem, isFileChar c = true := fun c hc => hrun.chars c (by simp [hc])
  have hending := covered?_fileEnding (p := p.past stem _) hmem rfl
    (head_append_not_word hback hrun.stops)
  refine Pattern.covered?_longest hafter hne (by rwa [fileChars_mem]) hending
    fun zs ws hzs hzsne hzschars => Pattern.covered?_eq_none fun mid behind hws htakes => ?_
  obtain ⟨⟨other, hother, rfl⟩, hedge⟩ := takes_fileEnding.mp htakes
  obtain rfl : ws = '.' :: other.toList ++ behind := hws
  -- a longer stem would make a file name that ends later
  have hlonger : filePattern.Takes p.before (stem ++ zs ++ '.' :: other.toList) behind := by
    rw [fileChars_mem] at hzschars
    exact takes_filePattern.mpr ⟨stem ++ zs, other, hother, rfl,
      List.append_ne_nil_of_left_ne_nil hne zs, List.forall_mem_append.mpr ⟨hstem, hzschars⟩, hedge⟩
  have hwhole : stem ++ '.' :: ext.toList ++ back ++ rest =
      stem ++ zs ++ '.' :: other.toList ++ behind := by
    simpa using hzs
  obtain ⟨tail, htail, hends'⟩ := endsFileName_of_takes [] hlonger hwhole hrun.stops
  have hle := hlast _ tail htail hends'
  have hlt := extension_before_dot hmem hzsne hzs
  simp only [List.length_append, List.length_cons] at hle
  omega

theorem picks_file : filePattern.Picks isFileChar fileName? where
  outside := Pattern.covered?_outside (by decide) isFileChar_of_takes
  absent := by
    intro p run rest hrun hpick front c back hsplit
    have hnone := Text.lastCut?_eq_none_iff.mp (Option.map_eq_none_iff.mp hpick)
    refine Pattern.covered?_eq_none fun mid behind hmid htakes => ?_
    obtain ⟨tail, htail, hends⟩ := endsFileName_of_takes front htakes hmid hrun.stops
    rw [hnone _ tail (by rw [hsplit, htail, List.append_assoc])] at hends
    cases hends
  present := by
    intro p run rest skipped found hrun hpick
    obtain ⟨⟨front, back⟩, hcut, heq⟩ := Option.map_eq_some_iff.mp hpick
    obtain ⟨rfl, rfl⟩ := Prod.mk.inj heq
    obtain ⟨rfl, hends, hlast⟩ := Text.lastCut?_spec hcut
    obtain ⟨-, stem, ext, -, -, hfront⟩ := endsFileName_iff.mp hends
    refine ⟨back, rfl, by simp [hfront], Pattern.failsIn_nil, ?_, ?_⟩
    · rw [hrun.past_nil]
      exact covered?_filePattern hrun hends hlast
    · intro xs c ys hsplit
      refine Pattern.covered?_eq_none fun mid behind hmid htakes => ?_
      obtain ⟨tail, htail, hends'⟩ :=
        endsFileName_of_takes (front ++ xs) htakes hmid hrun.stops
      have hle := hlast _ tail (by rw [hsplit, htail]; simp) hends'
      have := List.length_pos_iff.mpr (htakes.ne_nil (by decide))
      rw [List.length_append, List.length_append] at hle
      omega

example : fileName? "a.txt.json-old.jsx".toList = some ([], "a.txt.json".toList) := by decide

end Scriptwright.Description

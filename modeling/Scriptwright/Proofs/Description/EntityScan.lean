import Scriptwright.Proofs.Description.FileName

/-!
The entities of a text, read off its runs. What the four patterns find is described run by run,
without patterns: which part of a run of file name characters is a file name, which words are
commands, and where in a run without blanks an address or a path begins.
-/
namespace Scriptwright.Description

/-- The text opens in one of these ways and goes on for `n` characters or more. -/
def opensWith (openings : List String) (n : Nat) (text : List Char) : Bool :=
  openings.any fun opening =>
    opening.toList.isPrefixOf text && decide (opening.length + n ≤ text.length)

/-- The address in a run, with what is skipped before it: it begins at the first scheme with
something behind it. -/
def address? (run : List Char) : Option (List Char × List Char) :=
  Text.firstCut? (fun _ back => opensWith ["http://", "https://"] 1 back) run

def command? (run : List Char) : Option (List Char × List Char) :=
  if commandNames.contains (String.ofList run) then some ([], run) else none

/-- The path in a run, with what is skipped before it: it begins at the first slash, or one
character earlier if that is a tilde or a dot. -/
def path? (run : List Char) : Option (List Char × List Char) :=
  let front := run.takeWhile (· != '/')
  let skipped := if front.getLast?.any ['~', '.'].contains then front.dropLast else front
  if run.contains '/' then some (skipped, run.drop skipped.length) else none

/-- The kind of characters that runs are made of in which entities with this label are found. -/
def isRunChar : EntityLabel → Char → Bool
  | .file => isFileChar
  | .url | .path => (!Text.isBlank ·)
  | .command => Text.isWordChar

def pick? : EntityLabel → List Char → Option (List Char × List Char)
  | .file => fileName?
  | .url => address?
  | .command => command?
  | .path => path?

def entityIn? (label : EntityLabel) (run : Text.Run) : Option Entity :=
  (pick? label run.text).map fun (skipped, found) =>
    let start := run.offset + Text.byteLength skipped
    ⟨String.ofList found, label, start, start + Text.byteLength found, label.confidence⟩

def scan (text : List Char) : List Entity :=
  EntityLabel.all.flatMap fun label =>
    (Text.runs (isRunChar label) text).filterMap (entityIn? label)

theorem notBlank_mem : notBlank.mem = (!Text.isBlank ·) := by
  funext c
  simp [notBlank, CharSet.mem, CharSet.not, CharClass.mem]

theorem picks_command : commandPattern.Picks Text.isWordChar command? :=
  Pattern.picks_wholeWord fun _ => Text.isWord_of_all (by decide)

theorem opensWith_iff {openings : List String} {n : Nat} {text : List Char} :
    opensWith openings n text = true ↔
      ∃ opening ∈ openings, ∃ tail, text = opening.toList ++ tail ∧ n ≤ tail.length := by
  unfold opensWith
  rw [List.any_eq_true]
  refine exists_congr fun opening => and_congr_right fun _ => ?_
  rw [Bool.and_eq_true, List.isPrefixOf_iff_prefix, decide_eq_true_iff]
  constructor
  · rintro ⟨⟨tail, rfl⟩, hlength⟩
    refine ⟨tail, rfl, ?_⟩
    rw [List.length_append, String.length_toList] at hlength
    omega
  · rintro ⟨tail, rfl, hlength⟩
    refine ⟨List.prefix_append _ _, ?_⟩
    rw [List.length_append, String.length_toList]
    omega

theorem picks_opening {pattern : Pattern} {openings : List String} {n : Nat}
    (hneeds : pattern.needsChar = true) (hends : pattern.endsWithRun notBlank = true)
    (hopenings : (openings.all fun opening => opening.toList.all notBlank.mem) = true)
    (htakes : ∀ {before mid rest}, pattern.Takes before mid rest ↔ ∃ opening ∈ openings, ∃ tail,
      mid = opening.toList ++ tail ∧ n ≤ tail.length ∧ ∀ c ∈ tail, notBlank.mem c = true) :
    pattern.Picks (!Text.isBlank ·) (Text.firstCut? fun _ back => opensWith openings n back) := by
  have hchars : ∀ {before mid behind}, pattern.Takes before mid behind →
      ∀ c ∈ mid, notBlank.mem c = true := by
    intro before mid behind h c hc
    obtain ⟨opening, hmem, tail, rfl, -, htail⟩ := htakes.mp h
    have hopening := List.all_eq_true.mp (List.all_eq_true.mp hopenings opening hmem)
    exact (List.mem_append.mp hc).elim (hopening c) (htail c)
  rw [← notBlank_mem]
  refine Pattern.picks_of_opens hneeds hends hchars fun {before back rest} hback hrest => ?_
  rw [opensWith_iff]
  constructor
  · rintro ⟨mid, behind, hmid, h⟩
    obtain ⟨more, rfl, -⟩ := Text.prefix_of_run hmid hrest (hchars h)
    obtain ⟨opening, hmem, tail, rfl, hlength, -⟩ := htakes.mp h
    refine ⟨opening, hmem, tail ++ more, List.append_assoc .., ?_⟩
    rw [List.length_append]
    omega
  · rintro ⟨opening, hmem, tail, rfl, hlength⟩
    exact ⟨opening.toList ++ tail, rest, rfl, htakes.mpr ⟨opening, hmem, tail, rfl, hlength,
      fun c hc => hback c (List.mem_append_right _ hc)⟩⟩

theorem takes_urlPattern {before : Option Char} {mid rest : List Char} :
    urlPattern.Takes before mid rest ↔ ∃ scheme ∈ ["http://", "https://"], ∃ tail,
      mid = scheme.toList ++ tail ∧ 1 ≤ tail.length ∧ ∀ c ∈ tail, notBlank.mem c = true := by
  have hplain : "http://".toList = "http".toList ++ ([] ++ "://".toList) := by decide
  have hsecure : "https://".toList = "http".toList ++ ("s".toList ++ "://".toList) := by
    decide
  have hlength : ∀ tail : List Char, 1 ≤ tail.length ↔ tail ≠ [] := fun _ => List.length_pos_iff
  constructor
  · rintro ⟨_, _, rfl, hhead, _, _, rfl, hs, _, tail, rfl, hmark, htail⟩
    rw [Pattern.takes_text.mp hhead, Pattern.takes_text.mp hmark]
    obtain ⟨hne, hchars⟩ := Pattern.takes_someOf.mp htail
    rcases hs with hs | rfl
    · refine ⟨"https://", by simp, tail, ?_, (hlength tail).mpr hne, hchars⟩
      rw [Pattern.takes_text.mp hs, hsecure]
      simp only [List.append_assoc]
    · refine ⟨"http://", by simp, tail, ?_, (hlength tail).mpr hne, hchars⟩
      rw [hplain]
      simp only [List.append_assoc]
  · rintro ⟨scheme, hmem, tail, rfl, hne, hchars⟩
    have htail : ∀ {before rest}, (Pattern.someOf notBlank).Takes before tail rest :=
      Pattern.takes_someOf.mpr ⟨(hlength tail).mp hne, hchars⟩
    simp only [List.mem_cons, List.not_mem_nil, or_false] at hmem
    rcases hmem with rfl | rfl
    · refine ⟨_, _, ?_, Pattern.takes_text.mpr rfl, [], _, rfl, .inr rfl, _, tail, rfl,
        Pattern.takes_text.mpr rfl, htail⟩
      rw [hplain]
      simp only [List.append_assoc]
    · refine ⟨_, _, ?_, Pattern.takes_text.mpr rfl, _, _, rfl, .inl (Pattern.takes_text.mpr rfl), _,
        tail, rfl, Pattern.takes_text.mpr rfl, htail⟩
      rw [hsecure]
      simp only [List.append_assoc]

theorem picks_url : urlPattern.Picks (!Text.isBlank ·) address? :=
  picks_opening (by decide) (by decide) (by decide) takes_urlPattern

theorem takes_pathPattern {before : Option Char} {mid rest : List Char} :
    pathPattern.Takes before mid rest ↔ ∃ opening ∈ ["/", "~/", "./"], ∃ tail,
      mid = opening.toList ++ tail ∧ 0 ≤ tail.length ∧ ∀ c ∈ tail, notBlank.mem c = true := by
  have single : ∀ opening : String,
      (Pattern.chain [.text opening, .run notBlank]).Takes before mid rest ↔
        ∃ tail, mid = opening.toList ++ tail ∧ ∀ c ∈ tail, notBlank.mem c = true := by
    intro opening
    constructor
    · rintro ⟨_, tail, rfl, hopening, htail⟩
      exact ⟨tail, by rw [Pattern.takes_text.mp hopening], htail⟩
    · rintro ⟨tail, rfl, htail⟩
      exact ⟨_, tail, rfl, Pattern.takes_text.mpr rfl, htail⟩
  simp only [pathPattern, Pattern.takes_oneOf, List.mem_cons, List.not_mem_nil, or_false,
    exists_eq_or_imp, exists_eq_left, single, Nat.zero_le, true_and]

theorem opensPath_iff {text : List Char} :
    opensWith ["/", "~/", "./"] 0 text = true ↔
      (∃ more, text = '/' :: more) ∨ ∃ c ∈ ['~', '.'], ∃ more, text = c :: '/' :: more := by
  have hslash : "/".toList = ['/'] := by decide
  have htilde : "~/".toList = ['~', '/'] := by decide
  have hdot : "./".toList = ['.', '/'] := by decide
  simp [opensWith_iff, hslash, htilde, hdot]

theorem opensPath_before_slash {front ys xs rest : List Char} (hfront : '/' ∉ front)
    (hsplit : front ++ '/' :: ys = xs ++ rest)
    (h : opensWith ["/", "~/", "./"] 0 rest = true) :
    front.length ≤ xs.length ∨ ∃ c ∈ ['~', '.'], front = xs ++ [c] := by
  rcases List.append_eq_append_iff.mp hsplit with ⟨more, rfl, -⟩ | ⟨more, rfl, rfl⟩
  · exact .inl (by simp)
  · cases more with
    | nil => exact .inl (by simp)
    | cons c more =>
      have hc : c ≠ '/' := fun e => hfront (by simp [e])
      rcases opensPath_iff.mp h with ⟨_, heq⟩ | ⟨d, hd, _, heq⟩
      · exact absurd (List.cons.inj heq).1 hc
      · obtain ⟨rfl, hmore⟩ := List.cons.inj heq
        cases more with
        | nil => exact .inr ⟨c, hd, rfl⟩
        | cons e more =>
          have he : e ≠ '/' := fun e' => hfront (by simp [e'])
          exact absurd (List.cons.inj hmore).1 he

theorem path?_eq (run : List Char) :
    path? run = Text.firstCut? (fun _ back => opensWith ["/", "~/", "./"] 0 back) run := by
  unfold path?
  by_cases hmem : '/' ∈ run
  · obtain ⟨front, ys, rfl, hfront⟩ := List.eq_append_cons_of_mem hmem
    have hplain : ∀ c ∈ front, (c != '/') = true := by
      intro c hc
      simpa using ne_of_mem_of_not_mem hc hfront
    rw [Text.takeWhile_run hplain rfl, if_pos (List.contains_iff_mem.mpr hmem)]
    symm
    cases hlast : front.getLast?.any ['~', '.'].contains with
    | true =>
      cases hc : front.getLast? with
      | none => simp [hc] at hlast
      | some c =>
        obtain ⟨init, rfl⟩ := List.getLast?_eq_some_iff.mp hc
        have hkind : c ∈ ['~', '.'] := by simpa using hlast
        have hdrop : (init ++ [c] ++ '/' :: ys).drop init.length = c :: '/' :: ys := by simp
        simp only [if_true, List.dropLast_concat, hdrop]
        refine Text.firstCut?_of_least (by simp) (opensPath_iff.mpr (.inr ⟨c, hkind, ys, rfl⟩))
          fun xs rest hsplit hopens => ?_
        rcases opensPath_before_slash hfront hsplit hopens with hle | ⟨d, -, heq⟩
        · rw [List.length_append] at hle
          omega
        · rw [(List.append_inj' heq rfl).1]
    | false =>
      simp only [Bool.false_eq_true, if_false, List.drop_left]
      refine Text.firstCut?_of_least rfl (opensPath_iff.mpr (.inl ⟨ys, rfl⟩))
        fun xs rest hsplit hopens => ?_
      rcases opensPath_before_slash hfront hsplit hopens with hle | ⟨c, hc, rfl⟩
      · exact hle
      · simp [hc] at hlast
  · rw [if_neg fun h => hmem (List.contains_iff_mem.mp h)]
    symm
    refine Text.firstCut?_eq_none_iff.mpr fun xs rest hsplit => ?_
    rw [← Bool.not_eq_true, opensPath_iff]
    rintro (⟨more, rfl⟩ | ⟨c, -, more, rfl⟩)
    · exact hmem (by simp [hsplit])
    · exact hmem (by simp [hsplit])

theorem picks_path : pathPattern.Picks (!Text.isBlank ·) path? := by
  have h : path? = Text.firstCut? fun _ back => opensWith ["/", "~/", "./"] 0 back :=
    funext path?_eq
  rw [h]
  exact picks_opening (by decide) (by decide) (by decide) takes_pathPattern

theorem picks (label : EntityLabel) :
    (entityPattern label).Picks (isRunChar label) (pick? label) := by
  cases label with
  | file => exact picks_file
  | url => exact picks_url
  | command => exact picks_command
  | path => exact picks_path

theorem entitiesOf_eq (label : EntityLabel) (text : List Char) :
    entitiesOf label text =
      (Text.runs (isRunChar label) text).filterMap (entityIn? label) := by
  rw [entitiesOf, (picks label).findAll, List.map_filterMap]
  refine List.filterMap_congr fun run _ => ?_
  rw [Pattern.pickedFrom, Option.map_map]
  rfl

theorem slice_of_mem {label : EntityLabel} {text : List Char} {e : Entity}
    (h : e ∈ entitiesOf label text) : e.text.toList ≠ [] ∧ ∃ front rest,
      text = front ++ e.text.toList ++ rest ∧ e.start = Text.byteLength front ∧
        e.stop = e.start + Text.byteLength e.text.toList := by
  have hneeds : (entityPattern label).needsChar = true := by
    cases label <;> decide
  obtain ⟨f, hf, rfl⟩ := List.mem_map.mp h
  obtain ⟨hne, front, rest, hsplit, hstart, hstop⟩ :=
    (Pattern.finds_findAll hneeds text).slice hf
  rw [String.toList_ofList]
  exact ⟨hne, front, rest, hsplit, by simpa using hstart, hstop⟩

/-- The entities of a text are what is read off its runs, and each is a slice of the text. -/
theorem entities_eq_scan (text : List Char) :
    entities text = scan text ∧ ∀ e ∈ entities text, ∃ front rest,
      text = front ++ e.text.toList ++ rest ∧ e.start = Text.byteLength front ∧
        e.stop = Text.byteLength (front ++ e.text.toList) ∧ e.start < e.stop ∧
          e.stop ≤ Text.byteLength text := by
  constructor
  · rw [entities, scan]
    simp only [entitiesOf_eq]
  · intro e he
    obtain ⟨label, -, he⟩ := List.mem_flatMap.mp he
    obtain ⟨hne, front, rest, hsplit, hstart, hstop⟩ := slice_of_mem he
    have hpos : 0 < Text.byteLength e.text.toList := by
      obtain ⟨c, cs, hcs⟩ := List.exists_cons_of_ne_nil hne
      have := c.utf8Size_pos
      rw [hcs, Text.byteLength_cons]
      omega
    refine ⟨front, rest, hsplit, hstart, ?_, by omega, ?_⟩
    · rw [hstop, hstart, Text.byteLength_append]
    · rw [hstop, hstart, hsplit, Text.byteLength_append, Text.byteLength_append]
      omega

end Scriptwright.Description

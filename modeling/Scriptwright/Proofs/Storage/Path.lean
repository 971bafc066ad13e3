import Scriptwright.Proofs.Text.Search
import Scriptwright.Storage.Path

/-!
Paths made of a directory and a name. Whatever the directory is written like, the name is the last
piece of the path, and it decides about the extension. Where a path leads is told by its steps, the
pieces that are neither empty nor a single dot.
-/
namespace Scriptwright.Path

theorem pieces_of_not_mem {name : String} (h : '/' ∉ name.toList) : pieces name = [name] := by
  have hname : ∀ c ∈ name.toList, (c == '/') = false := fun c hc =>
    beq_eq_false_iff_ne.mpr fun e => h (e ▸ hc)
  rw [pieces, Text.splitAt_of_not_mem hname]
  simp

theorem pieces_append_slash (front rest : String) :
    pieces (front ++ "/" ++ rest) = pieces front ++ pieces rest := by
  have hslash : (front ++ "/" ++ rest).toList = front.toList ++ '/' :: rest.toList := by
    simp [String.toList_append]
  rw [pieces, hslash, Text.splitAt_append_sep (by decide), List.map_append]
  rfl

theorem pieces_joinWith {names : List String} (hne : names ≠ [])
    (h : ∀ name ∈ names, '/' ∉ name.toList) : pieces (Text.joinWith "/" names) = names := by
  induction names with
  | nil => exact absurd rfl hne
  | cons name names ih =>
    obtain ⟨hname, hnames⟩ := List.forall_mem_cons.mp h
    cases names with
    | nil => exact pieces_of_not_mem hname
    | cons next names =>
      rw [Text.joinWith_cons_cons, ← String.append_assoc, pieces_append_slash,
        pieces_of_not_mem hname, ih (List.cons_ne_nil _ _) hnames]
      rfl

theorem pieces_empty : pieces "" = [""] := by decide

theorem slash_not_mem_of_mem_pieces {path piece : String} (h : piece ∈ pieces path) :
    '/' ∉ piece.toList := by
  obtain ⟨cs, hcs, rfl⟩ := List.mem_map.mp h
  rw [String.toList_ofList]
  exact fun hmem => absurd (Text.not_sep_of_mem_splitAt hcs _ hmem) (by decide)

/-- A name that a step of a path can have. -/
structure IsName (name : String) : Prop where
  ne_empty : name ≠ ""
  ne_here : name ≠ "."
  ne_outer : name ≠ ".."
  slash_not_mem : '/' ∉ name.toList

theorem splitStep?_of_pieces {path name : String} {front : List String} (h : IsName name)
    (hpieces : pieces path = front ++ [name]) : splitStep? path = some (front, name) := by
  have hidle : ((front ++ [name]).reverse.dropWhile fun p => p = "" || p = ".") =
      name :: front.reverse := by
    simp [h.ne_empty, h.ne_here]
  unfold splitStep? dropIdle
  rw [hpieces, hidle]
  simp

theorem fileName?_of_pieces {path name : String} {front : List String} (h : IsName name)
    (hpieces : pieces path = front ++ [name]) : fileName? path = some name := by
  unfold fileName?
  rw [splitStep?_of_pieces h hpieces]
  split
  · rename_i heq
    simp [h.ne_outer] at heq
  · rename_i heq
    cases heq
  · rename_i heq
    rw [(Prod.mk.inj (Option.some.inj heq)).2]

theorem isAbsolute_iff {path : String} : isAbsolute path = true ↔ ['/'] <+: path.toList := by
  rw [isAbsolute, Text.beginsWith_iff]
  rfl

theorem isAbsolute_iff_pieces {path : String} (h : path ≠ "") :
    isAbsolute path = true ↔ (pieces path).head? = some "" := by
  obtain ⟨c, cs, hpath⟩ := List.exists_cons_of_ne_nil (String.toList_eq_nil_iff.not.mpr h)
  obtain ⟨piece, more, hcs⟩ := List.exists_cons_of_ne_nil (Text.splitAt_ne_nil (· == '/') cs)
  rw [isAbsolute_iff, pieces, hpath, Text.splitAt_cons, hcs]
  by_cases hc : c = '/'
  · simp [Text.splitStep, hc]
  · simp [Text.splitStep, hc, Ne.symm hc]

theorem isAbsolute_of_not_mem {name : String} (h : '/' ∉ name.toList) : isAbsolute name = false := by
  rw [← Bool.not_eq_true, isAbsolute_iff]
  rintro ⟨rest, hrest⟩
  exact h (hrest ▸ List.mem_cons_self)

theorem isAbsolute_append {base : String} (h : base ≠ "") (rest : String) :
    isAbsolute (base ++ rest) = isAbsolute base := by
  obtain ⟨c, cs, hbase⟩ := List.exists_cons_of_ne_nil (String.toList_eq_nil_iff.not.mpr h)
  rw [Bool.eq_iff_iff, isAbsolute_iff, isAbsolute_iff, String.toList_append, hbase]
  simp [List.cons_prefix_cons]

variable {base name : String}

/-- A relative path comes behind one slash, which the directory may bring along. -/
theorem join_eq_of_relative (hbase : base ≠ "") (hname : isAbsolute name = false) :
    ∃ outer, join base name = outer ++ "/" ++ name ∧ (base = outer ∨ base = outer ++ "/") := by
  have hempty : base.isEmpty = false := by simpa using hbase
  unfold join
  rw [hname, hempty]
  by_cases hslash : Text.finishesWith base "/" = true
  · obtain ⟨front, hfront⟩ := List.isSuffixOf_iff_suffix.mp hslash
    have heq : base = String.ofList front ++ "/" := by
      rw [← String.toList_inj, String.toList_append, String.toList_ofList, hfront]
    exact ⟨String.ofList front, by rw [if_pos hslash, ← heq]; rfl, .inr heq⟩
  · exact ⟨base, by simp [hslash], .inl rfl⟩

theorem join_eq (hbase : base ≠ "") (hname : '/' ∉ name.toList) :
    ∃ outer, join base name = outer ++ "/" ++ name ∧ (base = outer ∨ base = outer ++ "/") :=
  join_eq_of_relative hbase (isAbsolute_of_not_mem hname)

theorem join_empty (name : String) : join "" name = name := by
  unfold join
  split
  · rfl
  · simp_all

theorem join_of_absolute (h : isAbsolute name = true) (base : String) : join base name = name := by
  rw [join, h, Bool.true_or, if_pos rfl]

theorem isAbsolute_join (base : String) (hname : isAbsolute name = false) :
    isAbsolute (join base name) = isAbsolute base := by
  by_cases hbase : base = ""
  · rw [hbase, join_empty, hname]
    rfl
  · obtain ⟨outer, hjoin, rfl | rfl⟩ := join_eq_of_relative hbase hname
    · rw [hjoin, String.append_assoc, isAbsolute_append hbase]
    · rw [hjoin, isAbsolute_append hbase]

theorem fileName?_join (hbase : base ≠ "") (h : IsName name) :
    fileName? (join base name) = some name := by
  obtain ⟨outer, hjoin, -⟩ := join_eq hbase h.slash_not_mem
  have hpieces : pieces (join base name) = pieces outer ++ [name] := by
    rw [hjoin, pieces_append_slash, pieces_of_not_mem h.slash_not_mem]
  exact fileName?_of_pieces h hpieces

theorem fileName?_of_isName (h : IsName name) : fileName? name = some name :=
  @fileName?_of_pieces name name [] h (pieces_of_not_mem h.slash_not_mem)

theorem parent?_of_isName (h : IsName name) : parent? name = some "" := by
  have hsplit := @splitStep?_of_pieces name name [] h (pieces_of_not_mem h.slash_not_mem)
  have hidle : dropIdle [] = [] := rfl
  have hhere : startsHere name = false := by
    have hdot : ¬ Text.beginsWith name "./" = true := by
      rw [Text.beginsWith_iff]
      exact fun hfront => h.slash_not_mem (hfront.subset (by decide))
    simp [startsHere, h.ne_here, hdot]
  unfold parent?
  rw [hsplit]
  dsimp only
  rw [hidle]
  simp [isAbsolute_of_not_mem h.slash_not_mem, hhere]

theorem extension?_join (hbase : base ≠ "") (h : IsName name) :
    extension? (join base name) = extension? name := by
  unfold extension?
  rw [fileName?_join hbase h, fileName?_of_isName h]

theorem extension?_eq_some_iff {extension : String} (h : IsName name) :
    extension? name = some extension ↔
      ∃ stem, stem ≠ [] ∧ name.toList = stem ++ '.' :: extension.toList ∧
        '.' ∉ extension.toList := by
  unfold extension?
  rw [fileName?_of_isName h, Option.bind_some]
  constructor
  · intro hext
    split at hext
    · cases hext
    · cases hext
    · rename_i stem ext hstem hsplit
      obtain rfl := Option.some.inj hext
      refine ⟨stem, fun e => ?_, ?_⟩
      · exact hstem e
      · simpa using Text.splitLast?_eq_some_iff.mp hsplit
  · rintro ⟨stem, hstem, hname, hdot⟩
    rw [Text.splitLast?_eq_some_iff.mpr ⟨hname, hdot⟩]
    cases stem with
    | nil => exact absurd rfl hstem
    | cons c cs => simp

/-- The pieces that lead somewhere else: all but the empty ones and single dots. -/
def steps (path : String) : List String := (pieces path).filter fun p => p ≠ "" && p ≠ "."

theorem steps_append_slash (front rest : String) :
    steps (front ++ "/" ++ rest) = steps front ++ steps rest := by
  rw [steps, pieces_append_slash, List.filter_append]
  rfl

theorem steps_of_isName (h : IsName name) : steps name = [name] := by
  rw [steps, pieces_of_not_mem h.slash_not_mem]
  simp [h.ne_empty, h.ne_here]

theorem steps_empty : steps "" = [] := by decide

theorem steps_join (base : String) (hname : isAbsolute name = false) :
    steps (join base name) = steps base ++ steps name := by
  by_cases hbase : base = ""
  · rw [hbase, join_empty, steps_empty, List.nil_append]
  · obtain ⟨outer, hjoin, rfl | rfl⟩ := join_eq_of_relative hbase hname
    · rw [hjoin, steps_append_slash]
    · have hslash : outer ++ "/" = outer ++ "/" ++ "" := by simp
      rw [hjoin, steps_append_slash, hslash, steps_append_slash, steps_empty, List.append_nil]

/-- The path leads to the entry of that name directly inside the directory. -/
structure IsEntryOf (directory path entry : String) : Prop where
  steps_eq : steps path = steps directory ++ [entry]
  isAbsolute_eq : isAbsolute path = isAbsolute directory

theorem isEntryOf_join_iff (base : String) {path entry : String} (h : isAbsolute path = false) :
    IsEntryOf base (join base path) entry ↔ steps path = [entry] := by
  constructor
  · intro hentry
    have hsteps := hentry.steps_eq
    rw [steps_join base h] at hsteps
    exact List.append_cancel_left hsteps
  · intro hsteps
    exact ⟨by rw [steps_join base h, hsteps], isAbsolute_join base h⟩

def outerSteps (path : String) : List String :=
  match Text.splitLast? '/' path.toList with
  | some (front, _) => steps (String.ofList front)
  | none => []

theorem outerSteps_of_not_mem {path : String} (h : '/' ∉ path.toList) : outerSteps path = [] := by
  rw [outerSteps, Text.splitLast?_of_not_mem h]

theorem exists_last_slash {path : String} (h : '/' ∈ path.toList) :
    ∃ front last, path = front ++ "/" ++ last ∧ '/' ∉ last.toList ∧
      outerSteps path = steps front := by
  obtain ⟨before, after, hpath, hafter⟩ := Text.exists_last_of_mem h
  refine ⟨String.ofList before, String.ofList after, ?_, by simpa using hafter, ?_⟩
  · rw [← String.toList_inj]
    simp [String.toList_append, hpath]
  · rw [outerSteps, hpath, Text.splitLast?_append hafter]

variable {ending : String}

theorem isName_of_length (hslash : '/' ∉ name.toList) (hlong : 2 < name.length) : IsName name := by
  have hother : ∀ short : String, short.length ≤ 2 → name ≠ short := by
    rintro short hshort rfl
    omega
  exact ⟨hother "" (by decide), hother "." (by decide), hother ".." (by decide), hslash⟩

theorem isName_append_iff (path : String) (hending : '/' ∉ ending.toList)
    (hlong : 2 < ending.length) : IsName (path ++ ending) ↔ '/' ∉ path.toList := by
  constructor
  · intro h hslash
    exact h.slash_not_mem (by simp [String.toList_append, hslash])
  · intro h
    have hslash : '/' ∉ (path ++ ending).toList := by simp [String.toList_append, h, hending]
    exact isName_of_length hslash (by rw [String.length_append]; omega)

theorem exists_steps_append (path : String) (hending : '/' ∉ ending.toList)
    (hlong : 2 < ending.length) :
    ∃ last, steps (path ++ ending) = outerSteps path ++ [last ++ ending] := by
  by_cases hslash : '/' ∈ path.toList
  · obtain ⟨front, last, rfl, hlast, houter⟩ := exists_last_slash hslash
    have hname := (isName_append_iff last hending hlong).mpr hlast
    refine ⟨last, ?_⟩
    rw [houter, String.append_assoc, steps_append_slash, steps_of_isName hname]
  · have hname := (isName_append_iff path hending hlong).mpr hslash
    exact ⟨path, by rw [steps_of_isName hname, outerSteps_of_not_mem hslash, List.nil_append]⟩

/-- A path behind a directory stays directly inside if it is a single step; an absolute one does if
it names the directory itself. -/
theorem exists_isEntryOf_join_iff (directory path : String) (hending : '/' ∉ ending.toList)
    (hlong : 2 < ending.length) :
    (∃ front, IsEntryOf directory (join directory (path ++ ending)) (front ++ ending)) ↔
      if isAbsolute path then isAbsolute directory = true ∧ outerSteps path = steps directory
      else outerSteps path = [] := by
  obtain ⟨last, hsteps⟩ := exists_steps_append path hending hlong
  have habsolute : isAbsolute (path ++ ending) = isAbsolute path := by
    by_cases hpath : path = ""
    · rw [hpath, String.empty_append, isAbsolute_of_not_mem hending]
      rfl
    · exact isAbsolute_append hpath ending
  cases hkind : isAbsolute path with
  | true =>
    rw [join_of_absolute (habsolute.trans hkind), if_pos rfl]
    constructor
    · rintro ⟨front, hentry, hdirectory⟩
      rw [hsteps] at hentry
      rw [← hdirectory, habsolute, hkind]
      exact ⟨rfl, (List.append_inj' hentry rfl).1⟩
    · rintro ⟨hdirectory, houter⟩
      exact ⟨last, by rw [hsteps, houter], by rw [habsolute, hkind, hdirectory]⟩
  | false =>
    have hrelative : isAbsolute (path ++ ending) = false := habsolute.trans hkind
    rw [if_neg Bool.false_ne_true]
    constructor
    · rintro ⟨front, hentry, -⟩
      rw [steps_join directory hrelative, hsteps, ← List.append_assoc] at hentry
      have hfront := (List.append_inj' hentry rfl).1
      simpa using hfront
    · intro houter
      refine ⟨last, ?_, isAbsolute_join directory hrelative⟩
      rw [steps_join directory hrelative, hsteps, houter, List.nil_append]

theorem filter_dropIdle (names : List String) :
    (dropIdle names).filter (fun p => p ≠ "" && p ≠ ".") =
      names.filter fun p => p ≠ "" && p ≠ "." := by
  have hdrop : ∀ names : List String,
      (names.dropWhile fun p => p = "" || p = ".").filter (fun p => p ≠ "" && p ≠ ".") =
        names.filter fun p => p ≠ "" && p ≠ "." := by
    intro names
    induction names with
    | nil => rfl
    | cons name names ih =>
      by_cases hidle : name = "" ∨ name = "."
      · rcases hidle with rfl | rfl <;> simpa using ih
      · rw [List.dropWhile_cons_of_neg (by simpa using hidle)]
  rw [dropIdle, List.filter_reverse, hdrop, List.filter_reverse, List.reverse_reverse]

theorem prefix_dropIdle (names : List String) : dropIdle names <+: names := by
  rw [dropIdle, ← List.reverse_suffix, List.reverse_reverse]
  exact List.dropWhile_suffix _

theorem isStep_of_dropIdle {names before : List String} {last : String}
    (h : dropIdle names = before ++ [last]) : last ≠ "" ∧ last ≠ "." := by
  have hlast : (names.reverse.dropWhile fun p => p = "" || p = ".") = last :: before.reverse := by
    rw [dropIdle, List.reverse_eq_iff] at h
    simpa using h
  have hhead := List.head?_dropWhile_not (fun p : String => p = "" || p = ".") names.reverse
  rw [hlast] at hhead
  simpa using hhead

theorem dropIdle_of_splitStep? {path last : String} {before : List String}
    (h : splitStep? path = some (before, last)) : dropIdle (pieces path) = before ++ [last] := by
  unfold splitStep? at h
  split at h
  · cases h
  · rename_i final front hpieces
    obtain ⟨rfl, rfl⟩ := Prod.mk.inj (Option.some.inj h)
    rw [List.reverse_eq_iff] at hpieces
    simpa using hpieces

theorem steps_of_splitStep? {path last : String} {before : List String}
    (h : splitStep? path = some (before, last)) :
    steps path = (before.filter fun p => p ≠ "" && p ≠ ".") ++ [last] := by
  have hpieces := dropIdle_of_splitStep? h
  obtain ⟨hempty, hhere⟩ := isStep_of_dropIdle hpieces
  rw [steps, ← filter_dropIdle, hpieces, List.filter_append]
  simp [hempty, hhere]

theorem steps_of_splitStep?_eq_none {path : String} (h : splitStep? path = none) :
    steps path = [] := by
  unfold splitStep? at h
  split at h
  · rename_i hpieces
    rw [List.reverse_eq_nil_iff] at hpieces
    rw [steps, ← filter_dropIdle, hpieces]
    rfl
  · cases h

def directory (path : String) : String := (parent? path).getD "."

theorem steps_directory {path last : String} {before : List String}
    (h : splitStep? path = some (before, last)) :
    steps (directory path) = (before.filter fun p => p ≠ "" && p ≠ ".") ∧
      isAbsolute (directory path) = isAbsolute path := by
  have hpieces := dropIdle_of_splitStep? h
  have hfront : dropIdle before <+: pieces path :=
    (prefix_dropIdle before).trans ((List.prefix_append before [last]).trans
      (hpieces ▸ prefix_dropIdle (pieces path)))
  rw [← filter_dropIdle before]
  unfold directory parent?
  rw [h]
  dsimp only
  split
  · rename_i hidle
    rw [hidle]
    split
    · rename_i habsolute
      rw [habsolute]
      decide
    · rename_i habsolute
      rw [Bool.not_eq_true] at habsolute
      rw [habsolute]
      split <;> decide
  · rename_i hkept
    have hne : dropIdle before ≠ [] := fun h => hkept h
    have hback := pieces_joinWith hne fun name hname =>
      slash_not_mem_of_mem_pieces (hfront.subset hname)
    have hhead : (dropIdle before).head? = (pieces path).head? := by
      obtain ⟨more, hmore⟩ := hfront
      rw [← hmore, List.head?_append_of_ne_nil _ hne]
    have hpath : path ≠ "" := fun heq => by simp [heq, splitStep?, dropIdle, pieces_empty] at h
    have hjoined : Text.joinWith "/" (dropIdle before) ≠ "" := by
      intro heq
      rw [heq, pieces_empty] at hback
      exact (@isStep_of_dropIdle _ [] _ hback.symm).1 rfl
    rw [Option.getD_some]
    refine ⟨by rw [steps, hback], ?_⟩
    rw [Bool.eq_iff_iff, isAbsolute_iff_pieces hjoined, isAbsolute_iff_pieces hpath, hback, hhead]

theorem isEntryOf_directory_iff {path name : String} (h : IsName name) :
    IsEntryOf (directory path) path name ↔ fileName? path = some name := by
  have hname : ∀ last before, splitStep? path = some (before, last) →
      (fileName? path = some name ↔ last = name) := by
    intro last before hsplit
    unfold fileName?
    rw [hsplit]
    split
    · rename_i houter
      cases houter
      simpa using h.ne_outer.symm
    · rename_i hnone
      cases hnone
    · rename_i hsome
      cases hsome
      simp
  cases hsplit : splitStep? path with
  | none =>
    have hsteps := steps_of_splitStep?_eq_none hsplit
    constructor
    · intro hentry
      simpa [hsteps] using hentry.steps_eq
    · intro hfile
      simp [fileName?, hsplit] at hfile
  | some parts =>
    obtain ⟨before, last⟩ := parts
    obtain ⟨hsteps, habsolute⟩ := steps_directory hsplit
    rw [hname last before hsplit]
    constructor
    · intro hentry
      have hlast := hentry.steps_eq
      rw [steps_of_splitStep? hsplit, hsteps] at hlast
      simpa using hlast
    · rintro rfl
      exact ⟨by rw [steps_of_splitStep? hsplit, hsteps], habsolute.symm⟩

end Scriptwright.Path

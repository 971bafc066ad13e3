import Scriptwright.Proofs.Storage.Path
import Scriptwright.Proofs.Text.Order
import Scriptwright.Storage.FileTree

/-!
What stands directly inside a directory. The path made of a directory and a name leads to the entry
of that name, as long as the system takes the path, and the listing has the names of the files.
-/
namespace Scriptwright.FileTree

open Scriptwright.Path (IsName)

variable {t : FileTree} {directory name path : String} {loc next : Location}

theorem bind_eq_ok {ε α β : Type} {x : Except ε α} {f : α → Except ε β} {b : β} :
    x >>= f = .ok b ↔ ∃ a, x = .ok a ∧ f a = .ok b := by
  cases x <;> simp [bind, Except.bind]

theorem step_eq_ok_iff {piece : String} (h : IsName piece) :
    t.step loc piece = .ok next ↔ t.get? loc = some .directory ∧
      piece.utf8ByteSize ≤ maxNameBytes ∧ next = Location.inside loc piece := by
  unfold step
  cases t.get? loc with
  | none => simp
  | some node =>
    cases node with
    | file content executable => simp
    | directory =>
      simp only [h.ne_empty, h.ne_here, h.ne_outer, or_self, if_false]
      split
      · rename_i hlong
        simp [Nat.not_le.mpr hlong]
      · rename_i hshort
        simp [Nat.not_lt.mp hshort, eq_comm]

theorem step_empty_eq_ok_iff :
    t.step loc "" = .ok next ↔ t.get? loc = some .directory ∧ next = loc := by
  unfold step
  cases t.get? loc with
  | none => simp
  | some node =>
    cases node with
    | file content executable => simp
    | directory => simp [@eq_comm _ loc]

/-- The system takes the path: it is short enough and has no NUL in it. -/
def Accepts (path : String) : Prop := '\x00' ∉ path.toList ∧ path.utf8ByteSize ≤ maxPathBytes

def origin (t : FileTree) (path : String) : Location :=
  if Path.isAbsolute path then Location.root else t.here

theorem start_eq_ok_iff :
    t.start path = .ok loc ↔ Accepts path ∧ path ≠ "" ∧ loc = t.origin path := by
  have hstart : t.start path =
      if '\x00' ∈ path.toList then .error .invalidName
      else if maxPathBytes < path.utf8ByteSize then .error .nameTooLong
      else if path = "" then .error .notFound
      else .ok (t.origin path) := by
    simp only [start, origin, List.contains_iff_mem]
  rw [hstart, Accepts, ← Nat.not_lt]
  split_ifs with hnul hlong hempty
  · simp [hnul]
  · simp [hlong]
  · simp [hempty]
  · simp [hnul, hlong, hempty, @eq_comm _ loc]

theorem locate_eq_ok_iff :
    t.locate path = .ok loc ↔ Accepts path ∧ path ≠ "" ∧
      (Path.pieces path).foldlM t.step (t.origin path) = .ok loc := by
  unfold locate
  rw [bind_eq_ok]
  constructor
  · rintro ⟨first, hstart, hsteps⟩
    obtain ⟨haccepts, hempty, rfl⟩ := start_eq_ok_iff.mp hstart
    exact ⟨haccepts, hempty, hsteps⟩
  · rintro ⟨haccepts, hempty, hsteps⟩
    exact ⟨t.origin path, start_eq_ok_iff.mpr ⟨haccepts, hempty, rfl⟩, hsteps⟩

theorem find_eq_ok_iff {node : FileNode} :
    t.find path = .ok node ↔ ∃ loc, t.locate path = .ok loc ∧ t.get? loc = some node := by
  unfold find
  rw [bind_eq_ok]
  apply exists_congr
  intro loc
  cases t.get? loc <;> simp [pure, Except.pure, throw, throwThe, MonadExceptOf.throw]

theorem readText_eq_ok_iff {text : String} :
    t.readText path = .ok text ↔ ∃ loc content executable, t.locate path = .ok loc ∧
      t.get? loc = some (.file content executable) ∧ String.fromUTF8? content = some text := by
  unfold readText
  rw [bind_eq_ok]
  constructor
  · rintro ⟨node, hfind, htext⟩
    obtain ⟨loc, hlocate, hnode⟩ := find_eq_ok_iff.mp hfind
    cases node with
    | directory => cases htext
    | file content executable =>
      refine ⟨loc, content, executable, hlocate, hnode, ?_⟩
      dsimp only at htext
      split at htext
      · rename_i decoded hdecode
        rw [hdecode, Except.ok.inj htext]
      · cases htext
  · rintro ⟨loc, content, executable, hlocate, hnode, hdecode⟩
    refine ⟨_, find_eq_ok_iff.mpr ⟨loc, hlocate, hnode⟩, ?_⟩
    dsimp only
    rw [hdecode]
    rfl

/-- The directory is at this place. -/
structure LeadsTo (t : FileTree) (directory : String) (loc : Location) : Prop where
  locate : t.locate directory = .ok loc
  directory : t.get? loc = some .directory

theorem LeadsTo.unique {loc' : Location} (h : t.LeadsTo directory loc)
    (h' : t.LeadsTo directory loc') : loc = loc' :=
  Except.ok.inj (h.locate.symm.trans h'.locate)

theorem isDirectory_iff : t.isDirectory directory = true ↔ ∃ loc, t.LeadsTo directory loc := by
  have hfind : t.isDirectory directory = true ↔ t.find directory = .ok .directory := by
    unfold isDirectory
    cases t.find directory with
    | error cause => simp
    | ok node => cases node <;> simp [FileNode.isDirectory]
  rw [hfind, find_eq_ok_iff]
  exact exists_congr fun loc => ⟨fun ⟨hlocate, hdir⟩ => ⟨hlocate, hdir⟩,
    fun ⟨hlocate, hdir⟩ => ⟨hlocate, hdir⟩⟩

theorem get?_set_of_ne {place : Location} (h : loc ≠ place) (node : FileNode) :
    (t.set place node).get? loc = t.get? loc := by
  by_cases hroot : loc = Location.root
  · rw [hroot]
    rfl
  · rw [get?_set t place node hroot, if_neg h]

theorem directory_of_step {piece : String} (h : t.step loc piece = .ok next) :
    t.get? loc = some .directory := by
  unfold step at h
  cases hnode : t.get? loc with
  | none =>
    rw [hnode] at h
    cases h
  | some node =>
    cases node with
    | file content executable =>
      rw [hnode] at h
      cases h
    | directory => rfl

theorem step_mono {t' : FileTree} {piece : String}
    (hkept : ∀ l, t.get? l = some .directory → t'.get? l = some .directory)
    (h : t.step loc piece = .ok next) : t'.step loc piece = .ok next := by
  have hdir := directory_of_step h
  unfold step at h ⊢
  rw [hkept loc hdir]
  rwa [hdir] at h

theorem foldlM_step_mono {t' : FileTree} {pieces : List String}
    (hkept : ∀ l, t.get? l = some .directory → t'.get? l = some .directory)
    (h : pieces.foldlM t.step loc = .ok next) : pieces.foldlM t'.step loc = .ok next := by
  induction pieces generalizing loc with
  | nil => exact h
  | cons piece pieces ih =>
    rw [List.foldlM_cons, bind_eq_ok] at h ⊢
    obtain ⟨inner, hfirst, hrest⟩ := h
    exact ⟨inner, step_mono hkept hfirst, ih hrest⟩

theorem LeadsTo.mono {t' : FileTree} (h : t.LeadsTo directory loc) (hhere : t'.here = t.here)
    (hkept : ∀ l, t.get? l = some .directory → t'.get? l = some .directory) :
    t'.LeadsTo directory loc := by
  obtain ⟨haccepts, hempty, hsteps⟩ := locate_eq_ok_iff.mp h.locate
  have horigin : t'.origin directory = t.origin directory := by rw [origin, origin, hhere]
  refine ⟨locate_eq_ok_iff.mpr ⟨haccepts, hempty, ?_⟩, hkept loc h.directory⟩
  rw [horigin]
  exact foldlM_step_mono hkept hsteps

theorem LeadsTo.set {place : Location} (h : t.LeadsTo directory loc)
    (hplace : t.get? place ≠ some .directory) (node : FileNode) :
    (t.set place node).LeadsTo directory loc := by
  refine h.mono rfl fun l hl => ?_
  have hne : l ≠ place := fun heq => hplace (heq ▸ hl)
  rw [get?_set_of_ne hne, hl]

theorem LeadsTo.foldlM_step {outer : String} (h : t.LeadsTo directory loc)
    (houter : directory = outer ∨ directory = outer ++ "/") :
    (Path.pieces outer).foldlM t.step (t.origin directory) = .ok loc := by
  obtain ⟨-, -, hsteps⟩ := locate_eq_ok_iff.mp h.locate
  rcases houter with rfl | heq
  · exact hsteps
  · have hpieces : Path.pieces directory = Path.pieces outer ++ [""] := by
      have hempty := Path.pieces_append_slash outer ""
      rwa [String.append_empty, ← heq] at hempty
    rw [hpieces, List.foldlM_append, bind_eq_ok] at hsteps
    obtain ⟨last, houter, hlast⟩ := hsteps
    rw [List.foldlM_cons, bind_eq_ok] at hlast
    obtain ⟨stayed, hstep, hend⟩ := hlast
    obtain ⟨-, rfl⟩ := step_empty_eq_ok_iff.mp hstep
    obtain rfl := Except.ok.inj hend
    exact houter

theorem LeadsTo.locate_join (h : t.LeadsTo directory loc) (hname : IsName name) :
    t.locate (Path.join directory name) = .ok next ↔ Accepts (Path.join directory name) ∧
      name.utf8ByteSize ≤ maxNameBytes ∧ next = Location.inside loc name := by
  obtain ⟨-, hempty, -⟩ := locate_eq_ok_iff.mp h.locate
  obtain ⟨outer, hjoin, houter⟩ := @Path.join_eq directory name hempty hname.slash_not_mem
  have hpieces : Path.pieces (Path.join directory name) = Path.pieces outer ++ [name] := by
    rw [hjoin, Path.pieces_append_slash, Path.pieces_of_not_mem hname.slash_not_mem]
  have horigin : t.origin (Path.join directory name) = t.origin directory := by
    unfold origin
    rw [Path.isAbsolute_join directory (Path.isAbsolute_of_not_mem hname.slash_not_mem)]
  have hjoined : Path.join directory name ≠ "" := by
    intro hnil
    have hfile := Path.fileName?_join hempty hname
    rw [hnil] at hfile
    cases hfile
  have hsteps : (Path.pieces (Path.join directory name)).foldlM t.step
      (t.origin (Path.join directory name)) = t.step loc name := by
    rw [hpieces, horigin, List.foldlM_append, h.foldlM_step houter]
    exact bind_pure (t.step loc name)
  rw [locate_eq_ok_iff, hsteps, step_eq_ok_iff hname]
  exact ⟨fun ⟨haccepts, _, _, hshort, heq⟩ => ⟨haccepts, hshort, heq⟩,
    fun ⟨haccepts, hshort, heq⟩ => ⟨haccepts, hjoined, h.directory, hshort, heq⟩⟩

theorem trimmedPath_of_isName (h : IsName name) : trimmedPath name = (name, false) := by
  have hfinish : Text.finishesWith name "/" = false := by
    rw [← Bool.not_eq_true]
    intro hfinish
    have hsuffix : ['/'] <:+ name.toList := List.isSuffixOf_iff_suffix.mp hfinish
    exact h.slash_not_mem (hsuffix.subset (by decide))
  have hkept : (name.toList.reverse.dropWhile (· == '/')).reverse = name.toList := by
    have hlast : ∀ c ∈ name.toList.reverse, ¬ (c == '/') = true := fun c hc => by
      simpa using ne_of_mem_of_not_mem (List.mem_reverse.mp hc) h.slash_not_mem
    rw [List.dropWhile_eq_self_iff.mpr fun hlength => hlast _ (List.getElem_mem hlength),
      List.reverse_reverse]
  unfold trimmedPath
  rw [hkept]
  split
  · rename_i hempty
    exact absurd (String.toList_eq_nil_iff.mp hempty) h.ne_empty
  · rw [String.ofList_toList, hfinish]

/-- A name that the system takes without any directory in front. -/
structure IsLocal (name : String) : Prop extends IsName name where
  accepts : Accepts name
  short : name.utf8ByteSize ≤ maxNameBytes

theorem IsLocal.locate (h : IsLocal name) (hhere : t.get? t.here = some .directory) :
    t.locate name = .ok (Location.inside t.here name) := by
  have hstep : t.step t.here name = .ok (Location.inside t.here name) :=
    (step_eq_ok_iff h.toIsName).mpr ⟨hhere, h.short, rfl⟩
  have horigin : t.origin name = t.here := by
    simp [origin, Path.isAbsolute_of_not_mem h.slash_not_mem]
  refine locate_eq_ok_iff.mpr ⟨h.accepts, h.ne_empty, ?_⟩
  rw [Path.pieces_of_not_mem h.slash_not_mem, horigin, List.foldlM_cons, hstep]
  rfl

theorem IsLocal.locateNew (h : IsLocal name) (hhere : t.get? t.here = some .directory) :
    t.locateNew name = .ok (Location.inside t.here name) := by
  unfold FileTree.locateNew
  rw [trimmedPath_of_isName h.toIsName, start_eq_ok_iff.mpr ⟨h.accepts, h.ne_empty, rfl⟩]
  exact h.locate hhere

theorem IsLocal.contains_eq (h : IsLocal name) (hhere : t.get? t.here = some .directory) :
    t.contains name = (t.get? (Location.inside t.here name)).isSome := by
  unfold contains
  cases hnode : t.get? (Location.inside t.here name) with
  | some node =>
    rw [find_eq_ok_iff.mpr ⟨_, h.locate hhere, hnode⟩]
    rfl
  | none =>
    cases hfind : t.find name with
    | error cause => rfl
    | ok node =>
      obtain ⟨loc, hlocate, hget⟩ := find_eq_ok_iff.mp hfind
      obtain rfl := Except.ok.inj ((h.locate hhere).symm.trans hlocate)
      cases hnode.symm.trans hget

theorem fromUTF8?_eq_some_iff {content : ByteArray} {text : String} :
    String.fromUTF8? content = some text ↔ content = text.toUTF8 := by
  unfold String.fromUTF8?
  constructor
  · intro h
    split at h
    · rw [← Option.some.inj h]
      rfl
    · cases h
  · rintro rfl
    rw [String.toUTF8_eq_toByteArray, dif_pos text.isValidUTF8]
    rfl

/-- A file of this name with this content is directly inside the directory. -/
structure Holds (t : FileTree) (directory name : String) (content : ByteArray) : Prop where
  isName : IsName name
  exists_file : ∃ loc executable, t.LeadsTo directory loc ∧
    t.get? (Location.inside loc name) = some (.file content executable)

theorem Holds.congr {t' : FileTree} {content : ByteArray} (h : t.Holds directory name content)
    (hdir : t.LeadsTo directory loc) (hdir' : t'.LeadsTo directory loc)
    (hget : t'.get? (Location.inside loc name) = t.get? (Location.inside loc name)) :
    t'.Holds directory name content := by
  obtain ⟨hname, loc', executable, hloc', hfile⟩ := h
  obtain rfl := hdir.unique hloc'
  exact ⟨hname, loc, executable, hdir', hget.trans hfile⟩

/-- The system takes the name and the path to it. -/
structure Reachable (directory name : String) : Prop where
  short : name.utf8ByteSize ≤ maxNameBytes
  accepts : Accepts (Path.join directory name)

theorem readText_join_eq_ok_iff {text : String} (h : t.LeadsTo directory loc)
    (hname : IsName name) :
    t.readText (Path.join directory name) = .ok text ↔
      Reachable directory name ∧ t.Holds directory name text.toUTF8 := by
  rw [readText_eq_ok_iff]
  simp only [fromUTF8?_eq_some_iff]
  constructor
  · rintro ⟨next, content, executable, hlocate, hfile, rfl⟩
    obtain ⟨haccepts, hshort, rfl⟩ := (h.locate_join hname).mp hlocate
    exact ⟨⟨hshort, haccepts⟩, hname, loc, executable, h, hfile⟩
  · rintro ⟨hreach, -, loc', executable, h', hfile⟩
    obtain rfl := h.unique h'
    exact ⟨_, _, executable, (h.locate_join hname).mpr ⟨hreach.accepts, hreach.short, rfl⟩,
      hfile, rfl⟩

theorem splitLast?_inside (h : '/' ∉ name.toList) (hloc : loc ≠ Location.root) :
    Text.splitLast? '/' (Location.inside loc name).toList = some (loc.toList, name.toList) := by
  have hinside : (Location.inside loc name).toList = loc.toList ++ '/' :: name.toList := by
    rw [Location.inside, if_neg hloc]
    simp [String.toList_append]
  rw [hinside]
  exact Text.splitLast?_append h loc.toList

theorem outer_inside (h : '/' ∉ name.toList) : Location.outer (Location.inside loc name) = loc := by
  unfold Location.outer
  by_cases hloc : loc = Location.root
  · rw [hloc, Location.inside, if_pos rfl, Text.splitLast?_of_not_mem h]
  · rw [splitLast?_inside h hloc]
    exact String.ofList_toList

theorem name_inside (h : '/' ∉ name.toList) : Location.name (Location.inside loc name) = name := by
  unfold Location.name
  by_cases hloc : loc = Location.root
  · rw [hloc, Location.inside, if_pos rfl, Text.splitLast?_of_not_mem h]
  · rw [splitLast?_inside h hloc]
    exact String.ofList_toList

theorem slash_not_mem_name : '/' ∉ (Location.name loc).toList := by
  unfold Location.name
  split
  · rename_i steps last hsplit
    rw [String.toList_ofList]
    exact (Text.splitLast?_eq_some_iff.mp hsplit).2
  · rename_i hsplit
    exact Text.splitLast?_eq_none_iff.mp hsplit

theorem mem_fileNames_iff (h : t.locate path = .ok loc) :
    name ∈ t.fileNames path ↔ ∃ l content executable,
      (l, FileNode.file content executable) ∈ t.nodes ∧ Location.outer l = loc ∧
        Location.name l = name := by
  unfold fileNames
  rw [h]
  dsimp only
  rw [Text.mem_ascending, List.mem_filterMap]
  constructor
  · rintro ⟨⟨l, node⟩, hnode, hlisted⟩
    cases node with
    | directory => cases hlisted
    | file content executable =>
      simp only [Option.ite_none_right_eq_some, Option.some.injEq] at hlisted
      exact ⟨l, content, executable, hnode, hlisted⟩
  · rintro ⟨l, content, executable, hnode, houter, hlast⟩
    exact ⟨_, hnode, by simp only [houter, hlast, if_true]⟩

theorem slash_not_mem_of_mem_fileNames (h : t.locate path = .ok loc)
    (hmem : name ∈ t.fileNames path) : '/' ∉ name.toList := by
  obtain ⟨l, -, -, -, -, rfl⟩ := (mem_fileNames_iff h).mp hmem
  exact slash_not_mem_name

theorem mem_nodes_of_get? {node : FileNode} (hloc : loc ≠ Location.root)
    (h : t.get? loc = some node) : (loc, node) ∈ t.nodes := by
  rw [get?, if_neg hloc, List.lookup_eq_some_iff] at h
  obtain ⟨front, back, heq, -⟩ := h
  rw [heq]
  exact List.mem_append_right front List.mem_cons_self

theorem inside_ne_root (h : name ≠ "") : Location.inside loc name ≠ Location.root := by
  unfold Location.inside
  split
  · exact h
  · intro hroot
    have hlength := congrArg (fun s : String => s.toList.length) hroot
    simp [Location.root, String.toList_append] at hlength

theorem Holds.mem_fileNames {content : ByteArray} (h : t.Holds directory name content) :
    name ∈ t.fileNames directory := by
  obtain ⟨hname, loc, executable, hdir, hfile⟩ := h
  exact (mem_fileNames_iff hdir.locate).mpr ⟨Location.inside loc name, content, executable,
    mem_nodes_of_get? (inside_ne_root hname.ne_empty) hfile,
    outer_inside hname.slash_not_mem, name_inside hname.slash_not_mem⟩

theorem pairwise_fileNames : (t.fileNames path).Pairwise (· < ·) := by
  unfold fileNames
  cases t.locate path with
  | error cause => exact List.Pairwise.nil
  | ok loc => exact Text.pairwise_ascending _

end Scriptwright.FileTree

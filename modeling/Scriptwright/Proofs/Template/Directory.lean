import Mathlib.Data.Set.Card
import Scriptwright.Proofs.Storage.Listing
import Scriptwright.Proofs.Template.History
import Scriptwright.Template.Definition

/-!
Directories of template definitions. A file counts by its name and its content alone, so whatever
else stands in the directory, broken definitions included, leaves the catalog as it is.
-/
namespace Scriptwright

open Scriptwright.FileTree (Holds LeadsTo Reachable)
open Scriptwright.Path (IsName)

namespace DefinitionFormat

def extensions : DefinitionFormat → List String
  | .json => ["json"]
  | .yaml => ["yaml", "yml"]

def IsFor (format : DefinitionFormat) (file : String) : Prop :=
  ∃ stem extension, stem ≠ [] ∧ file.toList = stem ++ '.' :: extension ∧
    String.ofList (extension.map Char.toLower) ∈ format.extensions

theorem ofPath?_eq_some_iff {format : DefinitionFormat} {path : String} :
    ofPath? path = some format ↔
      ∃ extension, Path.extension? path = some extension ∧
        Text.asciiLowercase extension ∈ format.extensions := by
  unfold ofPath?
  cases Path.extension? path with
  | none => simp
  | some extension =>
    simp only [Option.map_some, Option.some.injEq, exists_eq_left']
    split
    case h_4 hjson hyaml hyml =>
      have hnone : Text.asciiLowercase extension ∉ format.extensions := by
        cases format with
        | json => simpa [extensions] using fun e => hjson (by rw [e])
        | yaml => simpa [extensions] using ⟨fun e => hyaml (by rw [e]), fun e => hyml (by rw [e])⟩
      simp [hnone]
    all_goals
      rename_i hsome
      rw [Option.some.inj hsome]
      cases format <;> decide

theorem dot_not_mem_of_extension {format : DefinitionFormat} {extension : List Char}
    (h : String.ofList (extension.map Char.toLower) ∈ format.extensions) : '.' ∉ extension := by
  intro hdot
  have hlower : '.' ∈ (String.ofList (extension.map Char.toLower)).toList := by
    rw [String.toList_ofList]
    exact List.mem_map.mpr ⟨'.', hdot, rfl⟩
  have hnone : ∀ e ∈ format.extensions, '.' ∉ e.toList := by cases format <;> decide
  exact hnone _ h hlower

theorem ofPath?_eq_some_iff_isFor {format : DefinitionFormat} {file : String} (h : IsName file) :
    ofPath? file = some format ↔ format.IsFor file := by
  have hlower : ∀ e : String, Text.asciiLowercase e = String.ofList (e.toList.map Char.toLower) := by
    intro e
    rw [Text.asciiLowercase, ← String.toList_inj, String.toList_map, String.toList_ofList]
  rw [ofPath?_eq_some_iff]
  constructor
  · rintro ⟨extension, hextension, hmem⟩
    obtain ⟨stem, hstem, hfile, -⟩ := (Path.extension?_eq_some_iff h).mp hextension
    exact ⟨stem, extension.toList, hstem, hfile, hlower extension ▸ hmem⟩
  · rintro ⟨stem, extension, hstem, hfile, hmem⟩
    refine ⟨String.ofList extension, (Path.extension?_eq_some_iff h).mpr ⟨stem, hstem, ?_⟩, ?_⟩
    · rw [String.toList_ofList]
      exact ⟨hfile, dot_not_mem_of_extension hmem⟩
    · rwa [hlower, String.toList_ofList]

/-- Neither the empty name nor the dots that stand for a directory have an extension. -/
theorem isName_of_ofPath? {file : String} (hslash : '/' ∉ file.toList)
    (h : (ofPath? file).isSome = true) : IsName file := by
  refine ⟨?_, ?_, ?_, hslash⟩
  all_goals
    rintro rfl
    revert h
    decide

end DefinitionFormat

namespace Template

variable {files : FileTree} {directory file : String} {loc : Location} {t u : Template}

/-- The file directly inside the directory is the definition of this template. -/
structure Defines (files : FileTree) (directory file : String) (t : Template) : Prop where
  reachable : Reachable directory file
  exists_text : ∃ format : DefinitionFormat, format.IsFor file ∧ ∃ text : String,
    Holds files directory file text.toUTF8 ∧ (format.read? shape text).bind ofValue? = some t

theorem Defines.isName (h : Defines files directory file t) : IsName file := by
  obtain ⟨-, format, -, text, hholds, -⟩ := h
  exact hholds.isName

theorem ofFile_eq_ok_iff {path : String} :
    ofFile files path = .ok t ↔ ∃ text format, files.readText path = .ok text ∧
      DefinitionFormat.ofPath? path = some format ∧
        (format.read? shape text).bind ofValue? = some t := by
  unfold ofFile
  cases files.readText path with
  | error cause => simp
  | ok text =>
    cases DefinitionFormat.ofPath? path with
    | none => simp
    | some format =>
      have hbind : (format.read? shape text >>= ofValue?) =
          (format.read? shape text).bind ofValue? := rfl
      simp only [hbind]
      cases hread : (format.read? shape text).bind ofValue? <;> simp [hread]

theorem ofFile_join_eq_ok_iff (h : LeadsTo files directory loc) (hname : IsName file) :
    ofFile files (Path.join directory file) = .ok t ↔ Defines files directory file t := by
  have hdirectory : directory ≠ "" := (FileTree.locate_eq_ok_iff.mp h.locate).2.1
  have hformat : DefinitionFormat.ofPath? (Path.join directory file) =
      DefinitionFormat.ofPath? file := by
    unfold DefinitionFormat.ofPath?
    rw [Path.extension?_join hdirectory hname]
  rw [ofFile_eq_ok_iff]
  simp only [FileTree.readText_join_eq_ok_iff h hname, hformat,
    DefinitionFormat.ofPath?_eq_some_iff_isFor hname]
  constructor
  · rintro ⟨text, format, ⟨hreach, hholds⟩, hfor, hread⟩
    exact ⟨hreach, format, hfor, text, hholds, hread⟩
  · rintro ⟨hreach, format, hfor, text, hholds, hread⟩
    exact ⟨text, format, ⟨hreach, hholds⟩, hfor, hread⟩

theorem Defines.leadsTo (h : Defines files directory file t) :
    ∃ loc, LeadsTo files directory loc := by
  obtain ⟨-, format, -, text, hholds, -⟩ := h
  obtain ⟨loc, executable, hdir, -⟩ := hholds.exists_file
  exact ⟨loc, hdir⟩

theorem Defines.unique (h : Defines files directory file t) (h' : Defines files directory file u) :
    t = u := by
  obtain ⟨loc, hdir⟩ := h.leadsTo
  have ht := (ofFile_join_eq_ok_iff hdir h.isName).mpr h
  have hu := (ofFile_join_eq_ok_iff hdir h.isName).mpr h'
  exact Except.ok.inj (ht.symm.trans hu)

theorem defines_set {place : Location} (h : LeadsTo files directory loc)
    (hplace : files.get? place ≠ some .directory) (node : FileNode)
    (hother : Location.inside loc file ≠ place) :
    Defines (files.set place node) directory file t ↔ Defines files directory file t := by
  have hset := h.set hplace node
  have hget : (files.set place node).get? (Location.inside loc file) =
      files.get? (Location.inside loc file) := FileTree.get?_set_of_ne hother node
  constructor
  · rintro ⟨hreach, format, hfor, text, hholds, hread⟩
    exact ⟨hreach, format, hfor, text, hholds.congr hset h hget.symm, hread⟩
  · rintro ⟨hreach, format, hfor, text, hholds, hread⟩
    exact ⟨hreach, format, hfor, text, hholds.congr h hset hget, hread⟩

end Template

namespace Catalog

open Template (Defines)

variable {c : Catalog} {files files' : FileTree} {directory file name : String} {loc : Location}
  {t : Template}

def defining (files : FileTree) (directory : String) : List (String × Template) :=
  ((files.fileNames directory).filter fun n => (DefinitionFormat.ofPath? n).isSome).filterMap
    fun file => (Template.ofFile files (Path.join directory file)).toOption.map (file, ·)

theorem definitions_eq : definitions files directory = (defining files directory).map (·.2) := by
  unfold definitions defining
  rw [List.map_filterMap]
  apply List.filterMap_congr
  intro file _
  cases Template.ofFile files (Path.join directory file) <;> rfl

theorem mem_defining (h : LeadsTo files directory loc) :
    (file, t) ∈ defining files directory ↔ Defines files directory file t := by
  have hpair : ∀ name : String,
      ((Template.ofFile files (Path.join directory name)).toOption.map (name, ·)) = some (file, t) ↔
        name = file ∧ Template.ofFile files (Path.join directory name) = .ok t := by
    intro name
    cases Template.ofFile files (Path.join directory name) <;> simp [Except.toOption]
  unfold defining
  rw [List.mem_filterMap]
  simp only [List.mem_filter, hpair]
  constructor
  · rintro ⟨name, ⟨hlisted, hformat⟩, rfl, hfile⟩
    have hname := DefinitionFormat.isName_of_ofPath?
      (FileTree.slash_not_mem_of_mem_fileNames h.locate hlisted) hformat
    exact (Template.ofFile_join_eq_ok_iff h hname).mp hfile
  · intro hdefines
    have hname := hdefines.isName
    refine ⟨file, ⟨?_, ?_⟩, rfl, (Template.ofFile_join_eq_ok_iff h hname).mpr hdefines⟩
    · obtain ⟨-, format, -, text, hholds, -⟩ := hdefines
      exact hholds.mem_fileNames
    · obtain ⟨-, format, hfor, -⟩ := hdefines
      rw [(DefinitionFormat.ofPath?_eq_some_iff_isFor hname).mpr hfor]
      rfl

theorem pairwise_defining : (defining files directory).Pairwise fun a b => a.1 < b.1 := by
  refine (FileTree.pairwise_fileNames.filter _).filterMap _ ?_
  intro file file' hlt a ha b hb
  obtain ⟨t, -, rfl⟩ := Option.map_eq_some_iff.mp ha
  obtain ⟨u, -, rfl⟩ := Option.map_eq_some_iff.mp hb
  exact hlt

theorem loadDirectory_eq (h : LeadsTo files directory loc) :
    c.loadDirectory files directory =
      (c.insertAll (definitions files directory), (definitions files directory).length) := by
  unfold loadDirectory
  rw [if_pos (FileTree.isDirectory_iff.mpr ⟨loc, h⟩)]

theorem loadDirectory_of_not_leadsTo (h : ∀ loc, ¬ LeadsTo files directory loc) :
    c.loadDirectory files directory = (c, 0) := by
  have hno : ¬ files.isDirectory directory = true := fun hdir =>
    (FileTree.isDirectory_iff.mp hdir).elim h
  unfold loadDirectory
  rw [if_neg hno]

theorem not_defines_of_not_leadsTo (h : ∀ loc, ¬ LeadsTo files directory loc) :
    ¬ Defines files directory file t := fun hdefines => hdefines.leadsTo.elim h

theorem mem_definitions (h : LeadsTo files directory loc) :
    t ∈ definitions files directory ↔ ∃ file, Defines files directory file t := by
  rw [definitions_eq, List.mem_map, Prod.exists]
  simp only [mem_defining h]
  constructor
  · rintro ⟨file, u, hdefines, rfl⟩
    exact ⟨file, hdefines⟩
  · rintro ⟨file, hdefines⟩
    exact ⟨file, t, hdefines, rfl⟩

/-- The template that the last file for its name defines, in the order of the bytes of file
names. -/
def DefinesLast (files : FileTree) (directory name : String) (t : Template) : Prop :=
  ∃ file, Defines files directory file t ∧ t.name = name ∧
    ∀ file' u, Defines files directory file' u → u.name = name →
      file' = file ∨ Text.BytesBefore file' file

theorem getLast?_definitions (h : LeadsTo files directory loc) :
    ((definitions files directory).filter (·.name = name)).getLast? = some t ↔
      DefinesLast files directory name t := by
  have hlast : ((definitions files directory).filter (·.name = name)).getLast? =
      ((defining files directory).reverse.find? (·.2.name = name)).map (·.2) := by
    rw [definitions_eq, List.filter_map, List.getLast?_map, List.getLast?_eq_head?_reverse,
      ← List.filter_reverse, List.head?_filter]
    rfl
  have hfound : ∀ file, (defining files directory).reverse.find? (·.2.name = name) = some (file, t) ↔
      Defines files directory file t ∧ t.name = name ∧
        ∀ file' u, Defines files directory file' u → u.name = name →
          file' = file ∨ Text.BytesBefore file' file := by
    intro file
    rw [Text.find?_eq_some_iff_of_pairwise (List.pairwise_reverse.mpr pairwise_defining)
      fun a b hab hba => String.lt_irrefl a.1 (String.lt_trans hba hab)]
    simp only [List.mem_reverse, mem_defining h, decide_eq_true_eq, Prod.forall, Prod.mk.injEq,
      Text.lt_iff_bytesBefore]
    refine and_congr_right fun hdefines => and_congr_right fun _ => ?_
    constructor
    · intro hothers file' u hu hname
      exact (hothers file' u hu hname).imp_left And.left
    · intro hothers file' u hu hname
      rcases hothers file' u hu hname with rfl | hbefore
      · exact .inl ⟨rfl, hu.unique hdefines⟩
      · exact .inr hbefore
  rw [hlast, Option.map_eq_some_iff]
  constructor
  · rintro ⟨⟨file, u⟩, hfind, rfl⟩
    exact ⟨file, (hfound file).mp hfind⟩
  · rintro ⟨file, hdefines⟩
    exact ⟨(file, t), (hfound file).mpr hdefines, rfl⟩

theorem encard_defining (h : LeadsTo files directory loc) :
    {file | ∃ t, Defines files directory file t}.encard = (definitions files directory).length := by
  have hset : {file | ∃ t, Defines files directory file t} =
      ((defining files directory).map (·.1)).toFinset := by
    ext file
    simp [mem_defining h]
  have hnodup : ((defining files directory).map (·.1)).Nodup := by
    refine List.Pairwise.map _ ?_ pairwise_defining
    intro a b hlt heq
    exact String.lt_irrefl a.1 (by rwa [← heq] at hlt)
  rw [hset, Set.encard_coe_eq_coe_finsetCard, List.toFinset_card_of_nodup hnodup, definitions_eq,
    List.length_map, List.length_map]

variable (c files directory)

theorem encard_loadDirectory :
    {file | ∃ t, Defines files directory file t}.encard = (c.loadDirectory files directory).2 := by
  by_cases h : ∃ loc, LeadsTo files directory loc
  · obtain ⟨loc, hdir⟩ := h
    rw [loadDirectory_eq hdir]
    exact encard_defining hdir
  · have hempty : {file | ∃ t, Defines files directory file t} = ∅ := by
      ext file
      simpa using fun t => not_defines_of_not_leadsTo (not_exists.mp h)
    rw [hempty, Set.encard_empty, loadDirectory_of_not_leadsTo (not_exists.mp h)]
    rfl

theorem get?_loadDirectory_eq_some_iff :
    (c.loadDirectory files directory).1.get? name = some t ↔
      DefinesLast files directory name t ∨
        (∀ file u, Defines files directory file u → u.name ≠ name) ∧ c.get? name = some t := by
  by_cases h : ∃ loc, LeadsTo files directory loc
  · obtain ⟨loc, hdir⟩ := h
    have hnone : ((definitions files directory).filter (·.name = name)).getLast? = none ↔
        ∀ file u, Defines files directory file u → u.name ≠ name := by
      rw [List.getLast?_eq_none_iff, List.filter_eq_nil_iff]
      simp only [mem_definitions hdir, decide_eq_true_eq, forall_exists_index]
      exact forall_comm
    rw [loadDirectory_eq hdir, get?_insertAll, latest?, Option.or_eq_some_iff,
      getLast?_definitions hdir, hnone]
  · rw [loadDirectory_of_not_leadsTo (not_exists.mp h)]
    have hno : ∀ file u, ¬ Defines files directory file u := fun file u =>
      not_defines_of_not_leadsTo (not_exists.mp h)
    have hlast : ¬ DefinesLast files directory name t := by
      rintro ⟨file, hdefines, -⟩
      exact hno file t hdefines
    simp [hlast, hno]

theorem loadDirectory_congr
    (h : ∀ file t, Defines files' directory file t ↔ Defines files directory file t) :
    c.loadDirectory files' directory = c.loadDirectory files directory := by
  apply Prod.ext
  · apply ext_get?
    intro name
    apply Option.ext
    intro t
    rw [get?_loadDirectory_eq_some_iff, get?_loadDirectory_eq_some_iff]
    simp only [DefinesLast, h]
  · have hcount := encard_loadDirectory c files' directory
    simp only [h, encard_loadDirectory c files directory] at hcount
    exact_mod_cast hcount.symm

/-- Loading a directory counts its definitions and leaves under every name the last of them, or
what was there before if there is none. A path to no directory loads nothing. Nothing else matters:
a change that takes no definition away and adds none has no effect on the result. -/
theorem loadDirectory_adds_definitions :
    {file | ∃ t, Defines files directory file t}.encard = (c.loadDirectory files directory).2 ∧
    (∀ name t, (c.loadDirectory files directory).1.get? name = some t ↔
      DefinesLast files directory name t ∨
        (∀ file u, Defines files directory file u → u.name ≠ name) ∧ c.get? name = some t) ∧
    ((∀ loc, ¬ LeadsTo files directory loc) → c.loadDirectory files directory = (c, 0)) ∧
    (∀ files', (∀ file t, Defines files' directory file t ↔ Defines files directory file t) →
      c.loadDirectory files' directory = c.loadDirectory files directory) ∧
    ∀ loc place node, LeadsTo files directory loc → files.get? place ≠ some .directory →
      (∀ file t, Defines files directory file t → Location.inside loc file ≠ place) →
      (∀ file t, Defines (files.set place node) directory file t →
        Location.inside loc file ≠ place) →
      c.loadDirectory (files.set place node) directory = c.loadDirectory files directory := by
  refine ⟨encard_loadDirectory c files directory,
    fun name t => get?_loadDirectory_eq_some_iff c files directory, loadDirectory_of_not_leadsTo,
    fun files' => loadDirectory_congr c files directory,
    fun loc place node hdir hplace hbefore hafter => ?_⟩
  apply loadDirectory_congr
  intro file t
  constructor
  · intro hdefines
    exact (Template.defines_set hdir hplace node (hafter file t hdefines)).mp hdefines
  · intro hdefines
    exact (Template.defines_set hdir hplace node (hbefore file t hdefines)).mpr hdefines

def earlierText : String :=
  "\x7b\"name\":\"greet\",\"language\":\"bash\",\"category\":\"web\",\"content\":\"echo\"\x7d"

def laterText : String :=
  "\x7b\"name\":\"greet\",\"language\":\"bash\",\"category\":\"web\",\"content\":\"echo hi\"\x7d"

/-- A broken definition, two of the same name, and one in a directory further down. -/
def shelf : FileTree where
  nodes := [("templates", .directory),
    ("templates/1.json", .file "\x7b".toUTF8 false),
    ("templates/10.JSON", .file earlierText.toUTF8 false),
    ("templates/2.json", .file laterText.toUTF8 false),
    ("templates/old", .directory),
    ("templates/old/3.json", .file earlierText.toUTF8 false)]
  here := Location.root

theorem shelf_leadsTo : LeadsTo shelf "templates" "templates" := ⟨by rfl, by rfl⟩

theorem shelf_defines :
    Defines shelf "templates" "2.json" (Engine.greeting "greet" .bash Category.web) := by
  have hname : IsName "2.json" := ⟨by decide, by decide, by decide, by decide⟩
  have hread : (DefinitionFormat.json.read? Template.shape laterText).bind Template.ofValue? =
      some (Engine.greeting "greet" .bash Category.web) := by
    have htree : Document.JsonTree.read? laterText.toList =
        some (.object [(some "name", .text (some "greet")),
          (some "language", .text (some "bash")), (some "category", .text (some "web")),
          (some "content", .text (some "echo hi"))]) := by cbv
    unfold DefinitionFormat.read? Document.json?
    rw [htree]
    rfl
  exact ⟨⟨by decide, by decide, by decide⟩, .json, ⟨['2'], "json".toList, by decide, by decide,
    by decide⟩, laterText, ⟨hname, _, false, shelf_leadsTo, by rfl⟩, hread⟩

/-- The last file gives the template, and the files of directories further down do not matter. -/
theorem shelf_loads_later :
    (empty.loadDirectory shelf "templates").1.get? "greet" =
      some (Engine.greeting "greet" .bash Category.web) ∧
    empty.loadDirectory shelf "shelves" = (empty, 0) ∧
    empty.loadDirectory (shelf.set "templates/old/3.json" .directory) "templates" =
      empty.loadDirectory shelf "templates" := by
  obtain ⟨-, hget, -, -, hset⟩ := loadDirectory_adds_definitions empty shelf "templates"
  obtain ⟨-, -, hmissing, -⟩ := loadDirectory_adds_definitions empty shelf "shelves"
  have hlisted : shelf.fileNames "templates" = ["1.json", "10.JSON", "2.json"] := by decide
  have hbelow : ∀ {file : String}, IsName file →
      Location.inside "templates" file ≠ "templates/old/3.json" := by
    intro file hname heq
    have hlast := congrArg Location.name heq
    rw [FileTree.name_inside hname.slash_not_mem] at hlast
    rw [hlast] at heq
    revert heq
    decide
  have hfile : shelf.get? "templates/old/3.json" ≠ some .directory := by
    have hnode : shelf.get? "templates/old/3.json" = some (.file earlierText.toUTF8 false) := by rfl
    simp [hnode]
  refine ⟨(hget _ _).mpr (.inl ⟨"2.json", shelf_defines, by rfl, fun file u hdefines _ => ?_⟩),
    hmissing fun loc h => ?_,
    hset _ _ .directory shelf_leadsTo hfile (fun _ _ h => hbelow h.isName) fun _ _ h =>
      hbelow h.isName⟩
  · obtain ⟨-, format, -, text, hholds, -⟩ := hdefines
    have hmem := hholds.mem_fileNames
    rw [hlisted, List.mem_cons, List.mem_cons, List.mem_singleton] at hmem
    rcases hmem with rfl | rfl | rfl
    · exact .inr ((Text.lt_iff_bytesBefore _ _).mp (by decide))
    · exact .inr ((Text.lt_iff_bytesBefore _ _).mp (by decide))
    · exact .inl rfl
  · have hno : shelf.isDirectory "shelves" = false := by decide
    rw [FileTree.isDirectory_iff.mpr ⟨loc, h⟩] at hno
    cases hno

end Catalog

end Scriptwright

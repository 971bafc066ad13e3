import Scriptwright.CommandLine.Run
import Scriptwright.Proofs.Companion.ScriptName
import Scriptwright.Proofs.Generation.Success
import Scriptwright.Proofs.Storage.Listing
import Scriptwright.Proofs.Text.Lines
import Scriptwright.Proofs.Text.Lowercase

/-!
Which files a command leaves behind. A run ends well exactly if its result is a success and all files
of the result are written: the script under the name that the command line gives, its companions
next to it under names of their own.
-/
namespace Scriptwright.CommandLine

open Description Template
open Scriptwright.FileTree (IsLocal)
open Scriptwright.Path (IsName IsEntryOf outerSteps steps isAbsolute)

namespace SavedFile

def writeAll (saved : List SavedFile) (files : FileTree) : Except RunError FileTree :=
  saved.foldlM (fun files f => f.write files) files

theorem companionPath_eq (path : String) (f : CompanionFile) :
    companionPath path f = Path.join (Path.directory path) (Companion.place f) := rfl

end SavedFile

theorem Console.save_iff {c : Console} {saved : List SavedFile} {files : FileTree} :
    (c.save saved).2 = none ∧ (c.save saved).1.files = files ↔
      SavedFile.writeAll saved c.files = .ok files := by
  induction saved generalizing c with
  | nil => simp [save, SavedFile.writeAll, pure, Except.pure]
  | cons f saved ih =>
    unfold save
    rw [SavedFile.writeAll, List.foldlM_cons]
    cases hwrite : f.write c.files with
    | error e => simp [bind, Except.bind]
    | ok next => exact ih

theorem Console.files_bullets (c : Console) (title : String) (items : List String) :
    (c.bullets title items).files = c.files := by
  have hnotes : ∀ (lines : List String) (c : Console), (lines.foldl note c).files = c.files := by
    intro lines
    induction lines with
    | nil => exact fun c => rfl
    | cons line lines ih => exact fun c => ih (c.note line)
  unfold bullets
  split
  · rfl
  · exact hnotes _ _

theorem Console.files_printResult (c : Console) (r : GenerationResult) (output : Option String)
    (json : Bool) : (c.printResult r output json).files = c.files := by
  unfold printResult
  split
  · rfl
  · split <;> rfl

theorem Console.report_iff {c : Console} {r : GenerationResult} {path : String} {json : Bool}
    {files : FileTree} (hsuccess : r.success = true) :
    (c.report r (some path) json).2 = none ∧ (c.report r (some path) json).1.files = files ↔
      SavedFile.writeAll (SavedFile.all path r) c.files = .ok files := by
  unfold report
  simp only [hsuccess, if_true]
  rw [← c.files_printResult r (some path) json, ← save_iff]
  cases (c.printResult r (some path) json).save (SavedFile.all path r) with
  | mk saved cause =>
    cases cause with
    | some e => simp
    | none => cases json <;> simp [findings, files_bullets]

theorem Outcome.ofProgress_iff {success : Bool} {p : Progress} {files : FileTree} :
    (Outcome.ofProgress success p).exit = 0 ∧ (Outcome.ofProgress success p).files = files ↔
      success = true ∧ p.2 = none ∧ p.1.files = files := by
  obtain ⟨c, cause⟩ := p
  cases cause <;> cases success <;> simp [ofProgress]

namespace Command

def result? (now : Moment) (g : Generator) : Command → Option GenerationResult
  | generate request _ _ => some (({ generator := g } : Session).generate now request).1
  | kdeTransform command _ _ =>
    some (({ generator := g } : Session).generateKdeConnect now
      ("Transform the command: " ++ command) command).1
  | nemoAction description name _ =>
    some (({ generator := g } : Session).generateNemoAction now description name).1
  | batch .. | health => none

/-- A command ends well exactly if its result is a success and all files of the result are written,
the script first. -/
theorem run_iff {command : Command} (now : Moment) {g : Generator} {c : Console} {path : String}
    {files : FileTree} (hpath : command.scriptPath? g.config = some path) :
    (command.run now g c).exit = 0 ∧ (command.run now g c).files = files ↔
      ∃ r, command.result? now g = some r ∧ r.success = true ∧
        SavedFile.writeAll (SavedFile.all path r) c.files = .ok files := by
  have reported : ∀ {c' : Console} {r : GenerationResult} {json : Bool},
      command.result? now g = some r → c'.files = c.files →
      ((Outcome.ofProgress r.success (c'.report r (some path) json)).exit = 0 ∧
        (Outcome.ofProgress r.success (c'.report r (some path) json)).files = files ↔
      ∃ r, command.result? now g = some r ∧ r.success = true ∧
        SavedFile.writeAll (SavedFile.all path r) c.files = .ok files) := by
    intro c' r json hresult hfiles
    simp only [hresult, Option.some.injEq, exists_eq_left', Outcome.ofProgress_iff, ← hfiles]
    exact and_congr_right fun hsuccess => Console.report_iff hsuccess
  unfold run
  rw [hpath]
  cases command with
  | generate request output json => exact reported rfl rfl
  | kdeTransform command name output =>
    have hnoted : ∀ (success : Bool) (text : String),
        (if success then c.note text else c).files = c.files := by
      intro success text
      cases success <;> rfl
    exact reported rfl (hnoted _ _)
  | nemoAction description name directory => exact reported rfl rfl
  | batch file json => cases hpath
  | health => cases hpath

end Command

theorem slash_mem_joinWith_iff (words : List (List Char)) :
    '/' ∈ (Text.joinWith "_" (words.map String.ofList)).toList ↔ ∃ word ∈ words, '/' ∈ word := by
  have hlist : (Text.joinWith "_" (words.map String.ofList)).toList =
      List.intercalate ['_'] words := by
    rw [Text.toList_joinWith, List.map_map]
    congr 1
    exact List.map_id'' (fun _ => String.toList_ofList) words
  rw [hlist]
  constructor
  · intro h
    exact (Text.mem_of_mem_intercalate h).resolve_left (by decide)
  · rintro ⟨word, hword, hslash⟩
    exact Text.mem_intercalate ['_'] hword hslash

theorem slash_mem_slug_iff (name : String) : '/' ∈ (slug name).toList ↔ '/' ∈ name.toList := by
  have hwords : (∃ word ∈ (Text.words name.toList).map Text.lowercase, '/' ∈ word) ↔
      '/' ∈ name.toList := by
    simp only [List.mem_map, exists_exists_and_eq_and, Text.slash_mem_lowercase_iff]
    constructor
    · rintro ⟨word, hword, hslash⟩
      exact ((Text.mem_words hword).2 _ hslash).2
    · exact fun h => Text.exists_mem_words h (by decide)
  rw [← hwords]
  unfold slug
  split
  · rename_i hnone
    rw [hnone]
    decide
  · exact slash_mem_joinWith_iff _

/-- The script of an action stands directly inside the directory, under one name that ends in the
extension, unless slashes in the name of the action make further steps. This is where a run that ends
well writes it. -/
theorem action_script_inside_iff (now : Moment) (g : Generator) (c : Console)
    (description name directory : String) :
    let command := Command.nemoAction description name directory
    let outer := g.config.resolveOutput directory
    ∃ path, command.scriptPath? g.config = some path ∧
      path = Path.join outer (slug name ++ ".sh") ∧
      (IsName (slug name ++ ".sh") ↔ '/' ∉ name.toList) ∧
      ((∃ front, IsEntryOf outer path (front ++ ".sh")) ↔
        if isAbsolute (slug name) then
          isAbsolute outer = true ∧ outerSteps (slug name) = steps outer
        else outerSteps (slug name) = []) ∧
      ∀ files, (command.run now g c).exit = 0 ∧ (command.run now g c).files = files ↔
        ∃ r, command.result? now g = some r ∧ r.success = true ∧
          SavedFile.writeAll (SavedFile.all path r) c.files = .ok files := by
  intro command outer
  have hending : '/' ∉ (".sh").toList := by decide
  have hpath : command.scriptPath? g.config = some (Path.join outer (slug name ++ ".sh")) := rfl
  refine ⟨_, hpath, rfl, ?_, Path.exists_isEntryOf_join_iff outer _ hending (by decide),
    fun files => Command.run_iff now hpath⟩
  rw [Path.isName_append_iff _ hending (by decide), slash_mem_slug_iff]

/-- A slash in the name of the action makes a directory. -/
theorem action_with_slash_outside :
    let command := Command.nemoAction "Resize images" "Photos/Resize" "nemo_action"
    command.scriptPath? {} = some "nemo_action/photos/resize.sh" ∧
      ¬ ∃ entry, IsEntryOf "nemo_action" "nemo_action/photos/resize.sh" entry := by
  refine ⟨by decide, ?_⟩
  rintro ⟨entry, hentry⟩
  have hsteps : steps "nemo_action/photos/resize.sh" = ["nemo_action", "photos", "resize.sh"] := by
    decide
  have hdirectory : steps "nemo_action" = ["nemo_action"] := by decide
  have heq := hentry.steps_eq
  rw [hsteps, hdirectory] at heq
  simp at heq

theorem SavedFile.exists_write {f : SavedFile} {t : FileTree} (h : IsLocal f.path)
    (hhere : t.get? t.here = some .directory)
    (hnew : t.get? (Location.inside t.here f.path) = none) :
    ∃ t', f.write t = .ok t' ∧ t'.here = t.here ∧ ∀ l, l ≠ Location.root →
      t'.get? l = if l = Location.inside t.here f.path then
        some (.file f.content.toUTF8 f.executable) else t.get? l := by
  let place := Location.inside t.here f.path
  let first := t.set place (.file f.content.toUTF8 false)
  have hroot : place ≠ Location.root := fun heq => by
    have hnode : t.get? place = none := hnew
    rw [heq] at hnode
    cases hnode
  have hne : t.here ≠ place := fun heq => by
    rw [heq] at hhere
    cases hhere.symm.trans hnew
  have hwrite : t.writeText f.path f.content = .ok first := by
    unfold FileTree.writeText FileTree.write
    rw [FileTree.bind_eq_ok]
    refine ⟨place, h.locateNew hhere, ?_⟩
    dsimp only
    rw [FileTree.trimmedPath_of_isName h.toIsName, hnew]
    rfl
  have hfirst : first.get? first.here = some .directory := by
    show first.get? t.here = _
    rw [FileTree.get?_set_of_ne hne, hhere]
  have hmark : first.markExecutable f.path =
      .ok (first.set place (.file f.content.toUTF8 true)) := by
    have hnode : first.get? place = some (.file f.content.toUTF8 false) := by
      rw [FileTree.get?_set t place _ hroot, if_pos rfl]
    unfold FileTree.markExecutable
    rw [FileTree.bind_eq_ok]
    refine ⟨place, h.locate hfirst, ?_⟩
    rw [hnode]
    rfl
  have hsteps : f.write t = if f.executable then
      .ok (first.set place (.file f.content.toUTF8 true)) else .ok first := by
    unfold write
    rw [Path.parent?_of_isName h.toIsName]
    show ((t.writeText f.path f.content).mapError (RunError.unwritten f.path) >>= _) = _
    rw [hwrite]
    show (if f.executable then
      (first.markExecutable f.path).mapError (RunError.unwritten f.path) else pure first) = _
    rw [hmark]
    rfl
  rw [hsteps]
  cases f.executable with
  | true =>
    refine ⟨_, rfl, rfl, fun l hl => ?_⟩
    rw [FileTree.get?_set _ _ _ hl, FileTree.get?_set _ _ _ hl]
    split <;> rfl
  | false => exact ⟨_, rfl, rfl, fun l hl => FileTree.get?_set _ _ _ hl⟩

theorem SavedFile.exists_writeAll {saved : List SavedFile} {t : FileTree}
    (hlocal : ∀ f ∈ saved, IsLocal f.path) (hdistinct : (saved.map (·.path)).Nodup)
    (hhere : t.get? t.here = some .directory)
    (hnew : ∀ f ∈ saved, t.get? (Location.inside t.here f.path) = none) :
    ∃ t', writeAll saved t = .ok t' ∧ t'.here = t.here ∧ ∀ l, l ≠ Location.root →
      (∀ f ∈ saved, l ≠ Location.inside t.here f.path) → t'.get? l = t.get? l := by
  induction saved generalizing t with
  | nil => exact ⟨t, rfl, rfl, fun _ _ _ => rfl⟩
  | cons f saved ih =>
    obtain ⟨hf, hlocal⟩ := List.forall_mem_cons.mp hlocal
    obtain ⟨hfree, hnew⟩ := List.forall_mem_cons.mp hnew
    obtain ⟨hfresh, hdistinct⟩ := List.nodup_cons.mp hdistinct
    obtain ⟨next, hwrite, hkept, hnodes⟩ := exists_write hf hhere hfree
    have hapart : ∀ g ∈ saved, Location.inside t.here g.path ≠ Location.inside t.here f.path := by
      intro g hg heq
      have hname := congrArg Location.name heq
      rw [FileTree.name_inside (hlocal g hg).slash_not_mem,
        FileTree.name_inside hf.slash_not_mem] at hname
      exact hfresh (List.mem_map.mpr ⟨g, hg, hname⟩)
    have hstill : next.get? next.here = some .directory := by
      rw [hkept]
      by_cases hroot : t.here = Location.root
      · rw [hroot]
        rfl
      · have hne : t.here ≠ Location.inside t.here f.path := fun heq => by
          rw [← heq] at hfree
          cases hhere.symm.trans hfree
        rw [hnodes t.here hroot, if_neg hne, hhere]
    have hothers : ∀ g ∈ saved, next.get? (Location.inside next.here g.path) = none := by
      intro g hg
      have hroot : Location.inside t.here g.path ≠ Location.root :=
        FileTree.inside_ne_root (hlocal g hg).ne_empty
      rw [hkept, hnodes _ hroot, if_neg (hapart g hg), hnew g hg]
    obtain ⟨last, hrest, hlast, hsame⟩ := ih hlocal hdistinct hstill hothers
    refine ⟨last, ?_, hlast.trans hkept, fun l hl hother => ?_⟩
    · rw [writeAll, List.foldlM_cons, hwrite]
      exact hrest
    · obtain ⟨hne, hother⟩ := List.forall_mem_cons.mp hother
      rw [hsame l hl (by rwa [hkept]), hnodes l hl, if_neg hne]

def greeting : GenerationRequest where
  description := "Print hello world"
  language := some (.only .bash)
  includeTests := true

def blank : Console := { files := ⟨[], Location.root⟩ }

theorem greeting_primary : (analyzeNormal .standard
    (normalizeChars greeting.description.toList)).intent.primary = .generalScripting := by
  decide +kernel

theorem greeting_result {e : Engine} (he : Engine.ofCatalog Catalog.builtin = .ok e) :
    let r := ((Session.ofEngine e).generate ⟨0, 0⟩ greeting).1
    r.success = true ∧ r.language = .bash ∧
      ∃ a : Artifact, r.companions = [Companion.tests a] ∧ a.filename = "general_scripting.sh" ∧
        a.language = .bash := by
  intro r
  have hblank : Text.isBlankText greeting.description.toList = false := by decide
  obtain ⟨d, t, hdraft, -, hanalysis, -, hcode, -, -, hscan⟩ :=
    Session.exists_draft (s := .ofEngine e) he rfl ⟨0, 0⟩ rfl hblank (by decide)
  have hlanguage : d.language = .bash := by
    obtain ⟨-, -, -, hlanguage, -⟩ := Generator.draft_eq_ok_iff.mp hdraft
    rw [hlanguage]
    rfl
  have hvalid := (Session.validate_of_passed (s := .ofEngine e) (fun _ _ => rfl) hscan).1
  have hr : r = d.result ⟨0, 0⟩ greeting _ := Session.generate_of_draft hdraft
  have hname : d.artifact.filename = "general_scripting.sh" := by
    show d.analysis.intent.primary.tag ++ "." ++ d.language.extension = _
    rw [hanalysis, greeting_primary, hlanguage]
    decide
  rw [hr]
  refine ⟨?_, hlanguage, d.artifact, rfl, hname, hlanguage⟩
  simp [Draft.result, hvalid, hcode]

theorem isLocal_greeting_script : IsLocal "general_scripting.sh" :=
  ⟨⟨by decide, by decide, by decide, by decide⟩, ⟨by decide, by decide⟩, by decide⟩

theorem greeting_saved {e : Engine} (he : Engine.ofCatalog Catalog.builtin = .ok e)
    {output : String} (h : IsLocal output) (hother : output ≠ "test_general_scripting.sh") :
    let outcome := (Command.generate greeting (some output) false).run ⟨0, 0⟩
      (Session.ofEngine e).generator blank
    outcome.exit = 0 ∧ outcome.files.here = Location.root ∧
      ∀ name, name ≠ Location.root → name ≠ output → name ≠ "test_general_scripting.sh" →
        outcome.files.get? name = none := by
  intro outcome
  let r := ((Session.ofEngine e).generate ⟨0, 0⟩ greeting).1
  obtain ⟨hsuccess, -, a, hcompanions, hname, -⟩ := greeting_result he
  have hpaths : (SavedFile.all output r).map (·.path) = [output, "test_general_scripting.sh"] := by
    have hplace : SavedFile.companionPath output (Companion.tests a) =
        "test_general_scripting.sh" := by
      rw [SavedFile.companionPath_eq, Companion.place_of_filename rfl, Path.directory,
        Path.parent?_of_isName h.toIsName, Option.getD_some, Path.join_empty]
      show "test_" ++ a.filename = _
      rw [hname]
      decide
    simp only [SavedFile.all, r, hcompanions, List.map_cons, List.map_nil, hplace]
  have hpath : ∀ f ∈ SavedFile.all output r,
      f.path = output ∨ f.path = "test_general_scripting.sh" := by
    intro f hf
    have hmem : f.path ∈ (SavedFile.all output r).map (·.path) := List.mem_map_of_mem hf
    rw [hpaths] at hmem
    simpa using hmem
  have hlocal : ∀ f ∈ SavedFile.all output r, IsLocal f.path := by
    have htests : IsLocal "test_general_scripting.sh" :=
      ⟨⟨by decide, by decide, by decide, by decide⟩, ⟨by decide, by decide⟩, by decide⟩
    intro f hf
    rcases hpath f hf with heq | heq <;> rw [heq]
    · exact h
    · exact htests
  have hinside : ∀ name, Location.inside blank.files.here name = name := fun name => if_pos rfl
  have hempty : ∀ name, name ≠ Location.root → blank.files.get? name = none :=
    fun name hroot => if_neg hroot
  have hdistinct : ((SavedFile.all output r).map (·.path)).Nodup := by
    rw [hpaths]
    simpa using hother
  obtain ⟨files, hwritten, hhere, hkept⟩ := SavedFile.exists_writeAll hlocal hdistinct
    (t := blank.files) rfl fun f hf => by rw [hinside, hempty _ (hlocal f hf).ne_empty]
  have hend : outcome.exit = 0 ∧ outcome.files = files :=
    (Command.run_iff ⟨0, 0⟩ rfl).mpr ⟨r, rfl, hsuccess, hwritten⟩
  refine ⟨hend.1, hend.2 ▸ hhere, fun name hroot houtput htests => ?_⟩
  rw [hend.2, hkept name hroot, hempty name hroot]
  intro f hf heq
  rw [hinside] at heq
  exact (hpath f hf).elim (fun h => houtput (heq.trans h)) fun h => htests (heq.trans h)

/-- After a run that ends well, the companions that were asked for are there, and the test skeleton
and the editor task name the script by its kind and language. A file of that name has been written
next to them exactly if the script was saved under it, or came along with an action. -/
theorem companions_find_script_iff (now : Moment) (g : Generator) (c : Console)
    (request : GenerationRequest) (output : String) (json : Bool)
    (h : ((Command.generate request (some output) json).run now g c).exit = 0) :
    let outcome := (Command.generate request (some output) json).run now g c
    let path := g.config.resolveOutput output
    let r := (({ generator := g } : Session).generate now request).1
    let intent := (analyzeNormal g.vocabulary (normalizeChars request.description.toList)).intent
    let script := intent.primary.tag ++ "." ++ r.language.extension
    SavedFile.writeAll (SavedFile.all path r) c.files = .ok outcome.files ∧
      (request.includeTests = true → ∃ f ∈ r.companions, f.kind = "tests") ∧
      (request.isEnabled .vscode = true → ∃ f ∈ r.companions, f.kind = "vscode") ∧
      (∀ f ∈ r.companions, f.kind = "tests" ∨ f.kind = "vscode" →
        Companion.scriptNamed? r.language f = some script) ∧
      ((∃ s ∈ SavedFile.all path r, IsEntryOf (Path.directory path) s.path script) ↔
        Path.fileName? path = some script ∨ request.isEnabled .nemo = true) := by
  intro outcome path r intent script
  obtain ⟨r', hresult, hsuccess, hwritten⟩ := (Command.run_iff now rfl).mp ⟨h, rfl⟩
  obtain rfl : r = r' := Option.some.inj hresult
  obtain ⟨d, hdraft⟩ := Session.success_of_generate hsuccess
  obtain ⟨-, -, hanalysis, -, -⟩ := Generator.draft_eq_ok_iff.mp hdraft
  have hr := Session.generate_of_draft hdraft
  have hcompanions : r.companions = Companion.build request d.artifact := congrArg _ hr
  have hlanguage : r.language = d.artifact.language := congrArg _ hr
  have hscript : script = d.artifact.filename := by
    have hintent : intent = d.analysis.intent := (congrArg Analysis.intent hanalysis).symm
    simp only [script, hintent, hlanguage]
    rfl
  have hbeside : (∃ s ∈ SavedFile.all path r, IsEntryOf (Path.directory path) s.path script) ↔
      IsEntryOf (Path.directory path) path script ∨ ∃ f ∈ r.companions,
        IsEntryOf (Path.directory path) (Path.join (Path.directory path) (Companion.place f))
          script := by
    simp [SavedFile.all, SavedFile.companionPath_eq]
  rw [hbeside, hcompanions, hlanguage, hscript]
  exact ⟨hwritten, fun htests => ⟨_, Companion.tests_mem_build _ htests, rfl⟩,
    fun hvscode => ⟨_, Companion.vscode_mem_build _ hvscode, rfl⟩,
    fun f hf hkind => Companion.scriptNamed?_of_mem_build hf hkind,
    or_congr (Path.isEntryOf_directory_iff (Companion.isName_filename _))
      (Companion.exists_isEntryOf_place_iff request _ _)⟩

/-- Saved under the fixed name, the greeting is there for its tests. -/
theorem greeting_found : ∃ e, Engine.ofCatalog Catalog.builtin = .ok e ∧
    let g := (Session.ofEngine e).generator
    let r := (({ generator := g } : Session).generate ⟨0, 0⟩ greeting).1
    ((Command.generate greeting (some "general_scripting.sh") false).run ⟨0, 0⟩ g blank).exit = 0 ∧
      (∃ f ∈ r.companions, Companion.scriptNamed? r.language f = some "general_scripting.sh") ∧
      ∃ s ∈ SavedFile.all "general_scripting.sh" r,
        IsEntryOf (Path.directory "general_scripting.sh") s.path "general_scripting.sh" := by
  obtain ⟨e, he⟩ := Builtin.exists_engine
  obtain ⟨hexit, -⟩ := greeting_saved he isLocal_greeting_script (by decide)
  obtain ⟨-, hlanguage, -⟩ := greeting_result he
  have hscript : (analyzeNormal (Session.ofEngine e).generator.vocabulary
      (normalizeChars greeting.description.toList)).intent.primary.tag ++ "." ++
        (({ generator := (Session.ofEngine e).generator } : Session).generate ⟨0, 0⟩
          greeting).1.language.extension = "general_scripting.sh" := by
    have hprimary : (analyzeNormal (Session.ofEngine e).generator.vocabulary
        (normalizeChars greeting.description.toList)).intent.primary = .generalScripting :=
      greeting_primary
    have hbash : (({ generator := (Session.ofEngine e).generator } : Session).generate ⟨0, 0⟩
        greeting).1.language = .bash := hlanguage
    rw [hprimary, hbash]
    decide
  obtain ⟨-, htests, -, hnamed, hfound⟩ := companions_find_script_iff ⟨0, 0⟩
    (Session.ofEngine e).generator blank greeting "general_scripting.sh" false hexit
  rw [hscript] at hnamed hfound
  obtain ⟨f, hf, hkind⟩ := htests rfl
  have hfile := Path.fileName?_of_isName isLocal_greeting_script.toIsName
  exact ⟨e, he, hexit, ⟨f, hf, hnamed f hf (.inl hkind)⟩, hfound.mpr (.inl hfile)⟩

/-- Saved under another name, it is not. -/
theorem renamed_greeting_not_found : ∃ e, Engine.ofCatalog Catalog.builtin = .ok e ∧
    let g := (Session.ofEngine e).generator
    let outcome := (Command.generate greeting (some "hello.sh") false).run ⟨0, 0⟩ g blank
    let r := ((Session.ofEngine e).generate ⟨0, 0⟩ greeting).1
    outcome.exit = 0 ∧
      (∃ f ∈ r.companions, f.kind = "tests" ∧
        Companion.scriptNamed? r.language f = some "general_scripting.sh") ∧
      outcome.files.contains "general_scripting.sh" = false := by
  obtain ⟨e, he⟩ := Builtin.exists_engine
  have hhello : IsLocal "hello.sh" :=
    ⟨⟨by decide, by decide, by decide, by decide⟩, ⟨by decide, by decide⟩, by decide⟩
  obtain ⟨hexit, hhere, hnone⟩ := greeting_saved he hhello (by decide)
  obtain ⟨-, hlanguage, a, hcompanions, hname, hbash⟩ := greeting_result he
  refine ⟨e, he, hexit, ⟨Companion.tests a, ?_, rfl, ?_⟩, ?_⟩
  · rw [hcompanions]
    exact List.mem_singleton_self _
  · rw [hlanguage, ← hbash, Companion.scriptNamed?_tests, hname]
  · rw [isLocal_greeting_script.contains_eq (by rw [hhere]; rfl), hhere, Location.inside,
      if_pos rfl, hnone _ (by decide) (by decide) (by decide)]
    rfl

end Scriptwright.CommandLine

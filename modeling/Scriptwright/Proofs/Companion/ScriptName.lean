import Scriptwright.Companion
import Scriptwright.Proofs.Storage.Path

/-!
What companions say about their script, and where they go. A test skeleton and a task for the editor
name the script that they are about; a reader finds the name behind a fixed opening, up to the next
quote. It is the same name that every companion has its own name from.
-/
namespace Scriptwright.Companion

def quotedAfter? (opening : List Char) : List Char → Option (List Char)
  | [] => none
  | c :: cs =>
    match Text.dropOpening? opening (c :: cs) with
    | some rest => some (rest.takeWhile (· != '"'))
    | none => quotedAfter? opening cs

/-- Where the mark first stands in the text, the opening goes on behind it, and the name and a quote
follow. -/
def Introduces (mark : Char) (opening : List Char) (name text : String) : Prop :=
  ∃ front rest, mark ∉ front ∧
    text.toList = front ++ (mark :: opening ++ name.toList ++ '"' :: rest)

section

variable {mark : Char} {opening : List Char} {name text : String}

theorem Introduces.quotedAfter? (h : Introduces mark opening name text)
    (hname : '"' ∉ name.toList) :
    quotedAfter? (mark :: opening) text.toList = some name.toList := by
  obtain ⟨front, rest, hfront, htext⟩ := h
  rw [htext]
  clear htext
  induction front with
  | nil =>
    have hdrop : Text.dropOpening? (mark :: opening)
        (mark :: opening ++ name.toList ++ '"' :: rest) = some (name.toList ++ '"' :: rest) := by
      simp [Text.dropOpening?]
    have htake : (name.toList ++ '"' :: rest).takeWhile (· != '"') = name.toList := by
      rw [List.takeWhile_append_of_pos fun c hc => by
        simpa using ne_of_mem_of_not_mem hc hname]
      simp
    rw [List.nil_append, List.cons_append, List.cons_append, Companion.quotedAfter?]
    rw [List.cons_append, List.cons_append] at hdrop
    rw [hdrop]
    exact congrArg some htake
  | cons c front ih =>
    obtain ⟨hc, hfront⟩ := List.ne_and_not_mem_of_not_mem_cons hfront
    have hdrop : Text.dropOpening? (mark :: opening)
        (c :: (front ++ (mark :: opening ++ name.toList ++ '"' :: rest))) = none := by
      simp [Text.dropOpening?, hc]
    rw [List.cons_append, Companion.quotedAfter?, hdrop]
    exact ih hfront

theorem Introduces.append (h : Introduces mark opening name text) (more : String) :
    Introduces mark opening name (text ++ more) := by
  obtain ⟨front, rest, hfront, htext⟩ := h
  exact ⟨front, rest ++ more.toList, hfront, by simp [String.toList_append, htext]⟩

theorem Introduces.prepend {before : String} (hbefore : mark ∉ before.toList)
    (h : Introduces mark opening name text) : Introduces mark opening name (before ++ text) := by
  obtain ⟨front, rest, hfront, htext⟩ := h
  exact ⟨before.toList ++ front, rest, by simp [hbefore, hfront],
    by simp [String.toList_append, htext]⟩

theorem Introduces.joinWith {sep : String} (hsep : mark ∉ sep.toList)
    (h : Introduces mark opening name text) (before : List String)
    (hbefore : ∀ t ∈ before, mark ∉ t.toList) (after : List String) :
    Introduces mark opening name (Text.joinWith sep (before ++ text :: after)) := by
  induction before with
  | nil =>
    cases after with
    | nil => exact h
    | cons next after =>
      rw [List.nil_append, Text.joinWith_cons_cons]
      exact h.append _
  | cons first before ih =>
    obtain ⟨hfirst, hbefore⟩ := List.forall_mem_cons.mp hbefore
    have hrest := ih hbefore
    obtain ⟨next, more, hmore⟩ := List.exists_cons_of_ne_nil
      (List.append_ne_nil_of_right_ne_nil before (List.cons_ne_nil text after))
    rw [List.cons_append, hmore, Text.joinWith_cons_cons]
    rw [hmore] at hrest
    exact (hrest.prepend hsep).prepend hfirst

theorem Introduces.bracketed {outer closing : String} (houter : mark ∉ outer.toList)
    (hmark : mark ∉ [' ', ',', '\n']) (h : Introduces mark opening name text)
    (before : List String) (hbefore : ∀ t ∈ before, mark ∉ t.toList) (after : List String)
    (level : Nat) :
    Introduces mark opening name
      (Value.bracketed outer closing level (before ++ text :: after)) := by
  have hlines : Value.bracketed outer closing level (before ++ text :: after) =
      outer ++ "\n" ++ Text.joinWith ",\n"
        (before.map (Value.indentation (level + 1) ++ ·) ++
          (Value.indentation (level + 1) ++ text) ::
            after.map (Value.indentation (level + 1) ++ ·)) ++
        "\n" ++ Value.indentation level ++ closing := by
    rw [← List.map_cons, ← List.map_append]
    cases before <;> rfl
  obtain ⟨hspace, hcomma, hfeed⟩ : mark ≠ ' ' ∧ mark ≠ ',' ∧ mark ≠ '\n' := by simpa using hmark
  have hindentation : mark ∉ (Value.indentation (level + 1)).toList := by
    simp [Value.indentation, hspace]
  rw [hlines]
  refine (((Introduces.prepend ?_ (Introduces.joinWith ?_ (h.prepend hindentation) _ ?_ _)).append
    _).append _).append _
  · simp [String.toList_append, houter, hfeed]
  · simp [hcomma, hfeed]
  · intro line hline
    obtain ⟨t, ht, rfl⟩ := List.mem_map.mp hline
    simp [String.toList_append, hindentation, hbefore t ht]

theorem introduces_jsonString (hmark : escapedChar mark = [mark])
    (hopening : opening.flatMap escapedChar = opening)
    (hname : name.toList.flatMap escapedChar = name.toList) (hquote : mark ≠ '"') :
    Introduces mark opening name (jsonString (String.ofList (mark :: opening) ++ name)) := by
  refine ⟨['"'], [], by simpa using hquote, ?_⟩
  simp [jsonString, hmark, hopening, hname, String.toList_append]

end

def isPlain (c : Char) : Bool :=
  !(['"', '$', '(', '/'].contains c) && escapedChar c == [c]

theorem stem_plain (a : Artifact) : a.stem.toList.all isPlain = true := by
  unfold Artifact.stem
  cases a.analysis.intent.primary <;> decide

theorem extension_plain (l : Language) : ("." ++ l.extension).toList.all isPlain = true := by
  cases l <;> decide

theorem filename_chars (a : Artifact) : ∀ c ∈ a.filename.toList,
    c ∉ ['"', '$', '(', '/'] ∧ escapedChar c = [c] := by
  have hall : a.filename.toList.all isPlain = true := by
    rw [Artifact.filename, String.append_assoc, String.toList_append, List.all_append, stem_plain,
      extension_plain, Bool.and_self]
  intro c hc
  simpa [isPlain] using List.all_eq_true.mp hall c hc

theorem escaped_filename (a : Artifact) :
    a.filename.toList.flatMap escapedChar = a.filename.toList := by
  rw [List.flatMap_congr fun c hc => (filename_chars a c hc).2]
  exact List.flatMap_singleton' _

theorem not_mem_filename (a : Artifact) {c : Char} (hc : c ∈ ['"', '$', '(', '/']) :
    c ∉ a.filename.toList :=
  fun hmem => (filename_chars a c hmem).1 hc

def opening? (l : Language) (kind : String) : Option String :=
  if kind = "vscode" then some "$\x7bworkspaceFolder\x7d/"
  else if kind = "tests" then
    match l with
    | .python => some "(__file__).with_name(\""
    | .bash => some "$(dirname \"$0\")/"
  else none

/-- The script that a companion of a script in the language `l` is about. -/
def scriptNamed? (l : Language) (f : CompanionFile) : Option String := do
  let opening ← opening? l f.kind
  let name ← quotedAfter? opening.toList f.content.toList
  return String.ofList name

theorem not_mem_jsonString {c : Char} {text : String} (hc : c ≠ '"')
    (h : ∀ d ∈ text.toList, c ∉ escapedChar d) : c ∉ (jsonString text).toList := by
  simpa [jsonString, hc] using h

theorem dollar_not_mem_label (a : Artifact) :
    '$' ∉ (jsonString "label" ++ ": " ++ jsonString ("Run " ++ a.filename)).toList := by
  have hkey : '$' ∉ (jsonString "label" ++ ": ").toList := by decide
  have hrun : ("Run ".toList.all fun c => !(escapedChar c).contains '$') = true := by decide
  have htext : ∀ c ∈ ("Run " ++ a.filename).toList, '$' ∉ escapedChar c := by
    intro c hc
    rw [String.toList_append, List.mem_append] at hc
    rcases hc with hc | hc
    · simpa using List.all_eq_true.mp hrun c hc
    · obtain ⟨hmarks, heq⟩ := filename_chars a c hc
      rw [heq, List.mem_singleton]
      rintro rfl
      exact hmarks (by decide)
  rw [String.toList_append, List.mem_append]
  exact not_or_intro hkey (not_mem_jsonString (by decide) htext)

theorem vscode_introduces (a : Artifact) :
    Introduces '$' "\x7bworkspaceFolder\x7d/".toList a.filename (vscode a).content := by
  have hcommand : '$' ∉ (jsonString "command" ++ ": " ++ jsonString a.interpreter).toList := by
    unfold Artifact.interpreter
    cases a.language <;> decide
  have hbefore : ∀ t ∈ [jsonString "label" ++ ": " ++ jsonString ("Run " ++ a.filename),
      jsonString "type" ++ ": " ++ jsonString "shell",
      jsonString "command" ++ ": " ++ jsonString a.interpreter], '$' ∉ t.toList := by
    simp only [List.forall_mem_cons, dollar_not_mem_label, hcommand]
    decide
  have hversion : ∀ t ∈ [jsonString "version" ++ ": " ++ jsonString "2.0.0"], '$' ∉ t.toList := by
    decide
  have hargument : Introduces '$' "\x7bworkspaceFolder\x7d/".toList a.filename
      (jsonString ("$\x7bworkspaceFolder\x7d/" ++ a.filename)) :=
    introduces_jsonString rfl (by decide) (escaped_filename a) (by decide)
  have hargs : Introduces '$' "\x7bworkspaceFolder\x7d/".toList a.filename
      (jsonString "args" ++ ": " ++ Value.bracketed "[" "]" 3
        ([] ++ jsonString ("$\x7bworkspaceFolder\x7d/" ++ a.filename) :: [])) :=
    .prepend (by decide) (hargument.bracketed (by decide) (by decide) [] (by simp) _ _)
  simp only [vscode, Value.pretty, Value.prettyAt, Value.prettyEntries, Value.prettyItems,
    Value.strings, List.map]
  -- the arguments in the task, the task in the list of tasks, the list behind the version
  exact .bracketed (by decide) (by decide) (.prepend (by decide)
    (.bracketed (by decide) (by decide)
      (hargs.bracketed (by decide) (by decide) [_, _, _] hbefore _ _) [] (by simp) _ _))
      [_] hversion _ _

theorem pythonTests_introduces {script : String} (h : '(' ∉ script.toList) :
    Introduces '(' "__file__).with_name(\"".toList script (pythonTests script) := by
  have hline : Introduces '(' "__file__).with_name(\"".toList script
      ("SCRIPT = Path(__file__).with_name(\"" ++ script ++ "\")") :=
    ⟨"SCRIPT = Path".toList, [')'], by decide, by simp [String.toList_append]⟩
  have htitle : '(' ∉ ("\"\"\"Tests for " ++ script ++ ".\"\"\"").toList := by
    simp [String.toList_append, h]
  exact hline.joinWith (by decide)
    [_, "", "import py_compile", "from pathlib import Path", ""]
    (List.forall_mem_cons.mpr ⟨htitle, by decide⟩) _

theorem bashTests_introduces {script : String} (h : '$' ∉ script.toList) :
    Introduces '$' "(dirname \"$0\")/".toList script (bashTests script) := by
  have hline : Introduces '$' "(dirname \"$0\")/".toList script
      ("SCRIPT=\"$(dirname \"$0\")/" ++ script ++ "\"") :=
    ⟨"SCRIPT=\"".toList, [], by decide, by simp [String.toList_append]⟩
  have htitle : '$' ∉ ("# Tests for " ++ script).toList := by
    simp [String.toList_append, h]
  exact hline.joinWith (by decide) ["#!/usr/bin/env bash", _, "set -e", ""]
    (List.forall_mem_cons.mpr ⟨by decide, List.forall_mem_cons.mpr ⟨htitle, by decide⟩⟩) _

theorem scriptNamed?_of_introduces {l : Language} {f : CompanionFile} {mark : Char}
    {opening : List Char} {name : String}
    (hopening : opening? l f.kind = some (String.ofList (mark :: opening)))
    (h : Introduces mark opening name f.content) (hname : '"' ∉ name.toList) :
    scriptNamed? l f = some name := by
  rw [scriptNamed?, hopening]
  simp [h.quotedAfter? hname]

theorem scriptNamed?_tests (a : Artifact) : scriptNamed? a.language (tests a) = some a.filename := by
  have hquote := not_mem_filename a (c := '"') (by decide)
  cases hlanguage : a.language with
  | python =>
    have hcontent : (tests a).content = pythonTests a.filename := by rw [tests, hlanguage]
    refine scriptNamed?_of_introduces rfl ?_ hquote
    rw [hcontent]
    exact pythonTests_introduces (not_mem_filename a (by decide))
  | bash =>
    have hcontent : (tests a).content = bashTests a.filename := by rw [tests, hlanguage]
    refine scriptNamed?_of_introduces rfl ?_ hquote
    rw [hcontent]
    exact bashTests_introduces (not_mem_filename a (by decide))

theorem scriptNamed?_vscode (l : Language) (a : Artifact) :
    scriptNamed? l (vscode a) = some a.filename :=
  scriptNamed?_of_introduces rfl (vscode_introduces a) (not_mem_filename a (by decide))

theorem mem_build_iff {request : GenerationRequest} {a : Artifact} {f : CompanionFile} :
    f ∈ build request a ↔
      (∃ i ∈ request.integrations, i.enabled = true ∧ f ∈ ofIntegration request a i) ∨
      (request.includeTests = true ∧ f = tests a) ∨
      (request.includeDocumentation = true ∧ f = documentation request a) := by
  unfold build
  simp only [List.mem_append, List.mem_flatMap, List.mem_filter, and_assoc, or_assoc]
  cases request.includeTests <;> cases request.includeDocumentation <;> simp

theorem isEnabled_iff {request : GenerationRequest} {kind : IntegrationKind} :
    request.isEnabled kind = true ↔
      ∃ i ∈ request.integrations, i.enabled = true ∧ i.kind = kind := by
  simp [GenerationRequest.isEnabled, and_comm]

inductive Accompanies (request : GenerationRequest) (a : Artifact) : CompanionFile → Prop
  | nemo {f : CompanionFile} (i : Integration) (henabled : request.isEnabled .nemo = true)
      (hf : f ∈ nemo request i a) : Accompanies request a f
  | kdeConnect (i : Integration) : Accompanies request a (kdeConnect i a)
  | vscode : Accompanies request a (vscode a)
  | installer : Accompanies request a (installer a)
  | tests : Accompanies request a (tests a)
  | documentation : Accompanies request a (documentation request a)

theorem accompanies_of_mem_build {request : GenerationRequest} {a : Artifact} {f : CompanionFile}
    (h : f ∈ build request a) : Accompanies request a f := by
  rcases mem_build_iff.mp h with ⟨i, hi, henabled, hf⟩ | ⟨-, rfl⟩ | ⟨-, rfl⟩
  · unfold ofIntegration at hf
    cases hkind : i.kind with
    | nemo =>
      rw [hkind] at hf
      exact .nemo i (isEnabled_iff.mpr ⟨i, hi, henabled, hkind⟩) hf
    | kdeConnect =>
      rw [hkind] at hf
      exact List.mem_singleton.mp hf ▸ .kdeConnect i
    | vscode =>
      rw [hkind] at hf
      exact List.mem_singleton.mp hf ▸ .vscode
    | system =>
      rw [hkind] at hf
      exact List.mem_singleton.mp hf ▸ .installer
  · exact .tests
  · exact .documentation

def place (f : CompanionFile) : String :=
  if Text.beginsWith f.path "~" then f.filename else f.path

/-- Names of companions that are not the script itself. -/
def otherNames (a : Artifact) : List String :=
  [a.stem ++ ".nemo_action", a.stem ++ "_kdeconnect.json", "install_" ++ a.stem ++ ".sh",
    "test_" ++ a.filename, a.stem ++ ".md"]

theorem slash_not_mem_stem (a : Artifact) : '/' ∉ a.stem.toList := by
  intro hmem
  have hplain := List.all_eq_true.mp (stem_plain a) _ hmem
  revert hplain
  decide

theorem extension_length (l : Language) : ("." ++ l.extension).length = 3 := by
  cases l <;> decide

theorem filename_length (a : Artifact) : a.filename.length = a.stem.length + 3 := by
  rw [Artifact.filename, String.append_assoc, String.length_append, extension_length]

/-- A name that only shares the stem with the script and adds more to it. -/
theorem affixed_spec (a : Artifact) (front back : String) (hfront : '/' ∉ front.toList)
    (hback : '/' ∉ back.toList) (hlong : 3 < front.length + back.length) :
    '/' ∉ (front ++ a.stem ++ back).toList ∧ 2 < (front ++ a.stem ++ back).length ∧
      front ++ a.stem ++ back ≠ a.filename := by
  have hlength := filename_length a
  have hadded : (front ++ a.stem ++ back).length = front.length + back.length + a.stem.length := by
    rw [String.length_append, String.length_append, Nat.add_right_comm]
  refine ⟨by simp [String.toList_append, hfront, hback, slash_not_mem_stem], by omega, ?_⟩
  intro heq
  rw [heq] at hadded
  omega

theorem document_spec (a : Artifact) :
    '/' ∉ (a.stem ++ ".md").toList ∧ 2 < (a.stem ++ ".md").length ∧
      a.stem ++ ".md" ≠ a.filename := by
  have hlength : (".md" : String).length = 3 := by decide
  have hother : ".md" ≠ "." ++ a.language.extension := by
    cases a.language <;> decide
  refine ⟨by simp [String.toList_append, slash_not_mem_stem], ?_, ?_⟩
  · rw [String.length_append, hlength]
    omega
  · rw [Artifact.filename, String.append_assoc]
    exact fun heq => hother (String.append_right_inj a.stem |>.mp heq)

theorem otherNames_spec (a : Artifact) : ∀ name ∈ otherNames a,
    '/' ∉ name.toList ∧ 2 < name.length ∧ name ≠ a.filename := by
  have hextension : '/' ∉ ("." ++ a.language.extension).toList := by
    cases a.language <;> decide
  have htest : 3 < ("test_" : String).length + ("." ++ a.language.extension).length := by
    rw [extension_length]
    decide
  have action := affixed_spec a "" ".nemo_action" nofun (by decide) (by decide)
  have device := affixed_spec a "" "_kdeconnect.json" nofun (by decide) (by decide)
  have installer := affixed_spec a "install_" ".sh" (by decide) (by decide) (by decide)
  have tests := affixed_spec a "test_" _ (by decide) hextension htest
  rw [String.empty_append] at action device
  have hfilename : a.stem ++ ("." ++ a.language.extension) = a.filename :=
    String.append_assoc.symm
  rw [String.append_assoc, hfilename] at tests
  simp only [otherNames, List.forall_mem_cons]
  exact ⟨action, device, installer, tests, document_spec a, nofun⟩

theorem place_of_home {f : CompanionFile} (directory : String)
    (h : f.path = "~" ++ directory ++ "/" ++ f.filename) : place f = f.filename := by
  have hhome : Text.beginsWith f.path "~" = true := by
    rw [h, Text.beginsWith_iff]
    simp [String.toList_append]
  rw [place, if_pos hhome]

theorem place_of_filename {f : CompanionFile} (h : f.path = f.filename) : place f = f.filename := by
  rw [place, h, ite_self]

theorem place_vscode (a : Artifact) : place (vscode a) = ".vscode/tasks.json" := by
  have hhere : Text.beginsWith ".vscode/tasks.json" "~" = false := by decide
  show (if Text.beginsWith ".vscode/tasks.json" "~" then _ else _) = _
  rw [hhere]
  rfl

theorem place_of_mem_build {request : GenerationRequest} {a : Artifact} {f : CompanionFile}
    (h : f ∈ build request a) :
    place f ∈ otherNames a ∨ place f = ".vscode/tasks.json" ∨
      (place f = a.filename ∧ request.isEnabled .nemo = true) := by
  cases accompanies_of_mem_build h with
  | nemo i henabled hf =>
    simp only [nemo, List.mem_cons, List.not_mem_nil, or_false] at hf
    rcases hf with rfl | rfl <;> rw [place_of_home "/.local/share/nemo/actions" rfl]
    · simp [otherNames]
    · exact .inr (.inr ⟨rfl, henabled⟩)
  | kdeConnect i =>
    rw [place_of_home "/.config/kdeconnect" rfl]
    simp [otherNames, kdeConnect]
  | vscode => exact .inr (.inl (place_vscode a))
  | installer =>
    rw [place_of_filename rfl]
    simp [otherNames, installer]
  | tests =>
    rw [place_of_filename rfl]
    simp [otherNames, tests]
  | documentation =>
    rw [place_of_filename rfl]
    simp [otherNames, documentation]

theorem exists_place_of_isEnabled {request : GenerationRequest} (a : Artifact)
    (h : request.isEnabled .nemo = true) : ∃ f ∈ build request a, place f = a.filename := by
  obtain ⟨i, hi, henabled, hkind⟩ := isEnabled_iff.mp h
  have hfiles : ofIntegration request a i = nemo request i a := by
    rw [ofIntegration, hkind]
  have hscript : ∃ f ∈ nemo request i a, place f = a.filename :=
    ⟨_, List.mem_cons_of_mem _ List.mem_cons_self, place_of_home "/.local/share/nemo/actions" rfl⟩
  obtain ⟨f, hf, hplace⟩ := hscript
  exact ⟨f, mem_build_iff.mpr (.inl ⟨i, hi, henabled, hfiles ▸ hf⟩), hplace⟩

theorem isName_filename (a : Artifact) : Path.IsName a.filename := by
  have hlength := filename_length a
  refine Path.isName_of_length (not_mem_filename a (by decide)) ?_
  omega

/-- The directory of the script has an entry of the fixed name from a companion exactly if there is
an action for the file manager. -/
theorem exists_isEntryOf_place_iff (request : GenerationRequest) (a : Artifact)
    (directory : String) :
    (∃ f ∈ build request a, Path.IsEntryOf directory (Path.join directory (place f)) a.filename) ↔
      request.isEnabled .nemo = true := by
  have hfilename := isName_filename a
  constructor
  · rintro ⟨f, hf, hentry⟩
    rcases place_of_mem_build hf with hother | htask | ⟨-, henabled⟩
    · obtain ⟨hslash, hlong, hne⟩ := otherNames_spec a _ hother
      have hname := Path.isName_of_length hslash hlong
      rw [Path.isEntryOf_join_iff directory (Path.isAbsolute_of_not_mem hslash),
        Path.steps_of_isName hname] at hentry
      exact absurd (List.singleton_inj.mp hentry) hne
    · rw [htask, Path.isEntryOf_join_iff directory (by decide)] at hentry
      have hsteps : Path.steps ".vscode/tasks.json" = [".vscode", "tasks.json"] := by decide
      rw [hsteps] at hentry
      simp at hentry
    · exact henabled
  · intro henabled
    obtain ⟨f, hf, hplace⟩ := exists_place_of_isEnabled a henabled
    refine ⟨f, hf, ?_⟩
    have hrelative := Path.isAbsolute_of_not_mem hfilename.slash_not_mem
    rw [hplace, Path.isEntryOf_join_iff directory hrelative, Path.steps_of_isName hfilename]

theorem tests_mem_build {request : GenerationRequest} (a : Artifact)
    (h : request.includeTests = true) : tests a ∈ build request a :=
  mem_build_iff.mpr (.inr (.inl ⟨h, rfl⟩))

theorem vscode_mem_build {request : GenerationRequest} (a : Artifact)
    (h : request.isEnabled .vscode = true) : vscode a ∈ build request a := by
  obtain ⟨i, hi, henabled, hkind⟩ := isEnabled_iff.mp h
  have hfiles : ofIntegration request a i = [vscode a] := by
    rw [ofIntegration, hkind]
  exact mem_build_iff.mpr (.inl ⟨i, hi, henabled, hfiles ▸ List.mem_cons_self⟩)

theorem scriptNamed?_of_mem_build {request : GenerationRequest} {a : Artifact} {f : CompanionFile}
    (h : f ∈ build request a) (hkind : f.kind = "tests" ∨ f.kind = "vscode") :
    scriptNamed? a.language f = some a.filename := by
  have other : ∀ kind : IntegrationKind, f.kind = kind.tag → kind = .vscode := by
    intro kind heq
    rw [heq] at hkind
    revert hkind
    cases kind <;> decide
  cases accompanies_of_mem_build h with
  | nemo i henabled hf =>
    simp only [nemo, List.mem_cons, List.not_mem_nil, or_false] at hf
    rcases hf with rfl | rfl <;> cases other .nemo rfl
  | kdeConnect i => cases other .kdeConnect rfl
  | vscode => exact scriptNamed?_vscode _ a
  | installer => cases other .system rfl
  | tests => exact scriptNamed?_tests a
  | documentation =>
    have hdocumentation : (documentation request a).kind = "documentation" := rfl
    rw [hdocumentation] at hkind
    exact absurd hkind (by decide)

end Scriptwright.Companion

import Scriptwright.Shell.Utility.Names

/-!
Programs that make, move and remove files.
-/
namespace Scriptwright.Shell.Utility

/-- The files without a place and all that is below it. -/
def withoutPlace (files : FileTree) (place : Location) : FileTree :=
  { files with nodes := files.nodes.filter fun (l, _) => !Location.isWithin place l }

/-- Goes through operands; a problem with one of them does not keep the others from their turn. -/
def eachOperand (operands : List String) (one : String → Run (Option String)) : Run Nat :=
  operands.foldlM (fun status operand => do
    match ← one operand with
    | some text =>
      complain text
      return 1
    | none => return status) 0

def keep (text : StorageError → String) : Except StorageError FileTree → Run (Option String)
  | .ok files => do
    setFiles files
    return none
  | .error e => return some (text e)

def mkdir : Utility :=
  withOptions "mkdir" ⟨"pv".toList, "m".toList, [("parents", 'p'), ("mode", 'm'),
      ("verbose", 'v')]⟩ 1 fun o => do
    if o.operands.isEmpty then misused "mkdir" "missing operand" 1
    else
      eachOperand o.operands fun path => do
        let files ← filesHere
        let failure (e : StorageError) : String :=
          "mkdir: cannot create directory " ++ quoted path ++ ": " ++ plainReason e
        if o.has 'p' then
          if path = "" then return some (failure .notFound)
          match files.makeDirectories (pathOf path) with
          | .ok files => keep failure (.ok files)
          | .error e =>
            let blocking := (Path.pieces (pathOf path)).foldl (fun (walked, bad) piece =>
              let here := if walked = "" && !path.startsWith "/" then piece else walked ++ "/" ++ piece
              match bad, files.find here with
              | none, .ok (.file _ _) => (here, some here)
              | bad, _ => (here, bad)) ("", none)
            let name := blocking.2.getD path
            let reason := if name = pathOf path then plainReason e else
              match e with
              | .exists => plainReason .notADirectory
              | e => plainReason e
            return some ("mkdir: cannot create directory " ++ quoted name ++ ": " ++ reason)
        else
          match files.makeDirectory (pathOf path) with
          | .ok files =>
            if o.has 'v' then say ("mkdir: created directory " ++ quoted path ++ "\n")
            keep failure (.ok files)
          | .error e => return some (failure e)

def rmdir : Utility :=
  withOptions "rmdir" ⟨"pv".toList, [], [("parents", 'p'), ("verbose", 'v')]⟩ 1 fun o => do
    if o.operands.isEmpty then misused "rmdir" "missing operand" 1
    else
      eachOperand o.operands fun path => do
        let files ← filesHere
        let failed (text : String) : Option String :=
          some ("rmdir: failed to remove " ++ quoted path ++ ": " ++ text)
        match files.find (pathOf path), files.locate (pathOf path) with
        | .error e, _ | _, .error e => return failed (plainReason e)
        | .ok (.file _ _), _ => return failed "Not a directory"
        | .ok .directory, .ok place =>
          if lastStep path = "." then return failed "Invalid argument"
          else if !(namesIn files path).isEmpty then return failed "Directory not empty"
          else
            if o.has 'v' then say ("rmdir: removing directory, " ++ quoted path ++ "\n")
            setFiles (withoutPlace files place)
            return none

def rm : Utility :=
  withOptions "rm" ⟨"fiIrRdv".toList, [], [("force", 'f'), ("recursive", 'r'), ("dir", 'd'),
      ("verbose", 'v')]⟩ 1 fun o => do
    let force := o.last? ['f', 'i'] = some 'f'
    if o.operands.isEmpty then
      if force then return 0 else misused "rm" "missing operand" 1
    else
      eachOperand o.operands fun path => do
        let files ← filesHere
        let deep := o.has 'r' || o.has 'R'
        let failed (text : String) : Option String :=
          some ("rm: cannot remove " ++ quoted path ++ ": " ++ text)
        match files.find (pathOf path), files.locate (pathOf path) with
        | .error .notFound, _ | .error .notADirectory, _ | _, .error .notADirectory =>
          if force then return none
          match files.find (pathOf path) with
          | .error e => return failed (plainReason e)
          | .ok _ => return none
        | .error e, _ | _, .error e => return failed (plainReason e)
        | .ok (.file _ _), .ok place =>
          if o.has 'v' then say ("removed " ++ quoted path ++ "\n")
          setFiles (withoutPlace files place)
          return none
        | .ok .directory, .ok place =>
          if deep && place = Location.root then
            return some ("rm: it is dangerous to operate recursively on '/'\n" ++
              "rm: use --no-preserve-root to override this failsafe")
          else if deep && [".", ".."].contains (lastStep path) then
            return some ("rm: refusing to remove '.' or '..' directory: skipping " ++ quoted path)
          else if deep || (o.has 'd' && (namesIn files path).isEmpty) then
            setFiles (withoutPlace files place)
            return none
          else if o.has 'd' then return failed "Directory not empty"
          else return failed "Is a directory"

def touch : Utility :=
  withOptions "touch" ⟨"acmfh".toList, "drt".toList, [("no-create", 'c'), ("date", 'd'),
      ("reference", 'r')]⟩ 1 fun o => do
    if o.operands.isEmpty then misused "touch" "missing file operand" 1
    else
      eachOperand o.operands fun path => do
        let files ← filesHere
        match files.find (pathOf path) with
        | .ok _ => return none
        | .error .notFound =>
          if o.has 'c' then return none
          keep (fun e => "touch: cannot touch " ++ quoted path ++ ": " ++ plainReason e)
            (do
              if path = "" then throw .notFound
              files.write (pathOf path) .empty)
        | .error e => return some ("touch: cannot touch " ++ quoted path ++ ": " ++ plainReason e)

def rebased (files : FileTree) (source target : Location) : List (Location × FileNode) :=
  files.nodes.filterMap fun (l, node) =>
    if Location.isWithin source l then
      some (target ++ String.ofList (l.toList.drop source.length), node)
    else none

def transfer (name : String) (moves deep : Bool) (source target : String) : Run (Option String) := do
  let files ← filesHere
  match files.find (pathOf source), files.locate (pathOf source) with
  | .error e, _ | _, .error e =>
    return some (name ++ ": cannot stat " ++ quoted source ++ ": " ++ plainReason e)
  | .ok node, .ok place =>
    let failed (text : String) : Option String :=
      some (name ++ ": " ++ text)
    let pair := quoted source ++ " and " ++ quoted target ++ " are the same file"
    if node.isDirectory && !deep then
      return failed ("-r not specified; omitting directory " ++ quoted source)
    let blocked (e : StorageError) : Option String :=
      if moves then
        failed ("cannot move " ++ quoted source ++ " to " ++ quoted target ++ ": " ++ plainReason e)
      else if node.isDirectory then
        failed ("cannot create directory " ++ quoted target ++ ": " ++ plainReason e)
      else failed ("cannot create regular file " ++ quoted target ++ ": " ++ plainReason e)
    match files.locateNew (pathOf target) with
    | .error e => return blocked e
    | .ok goal =>
      if goal = place then return failed pair
      if node.isDirectory && Location.isWithin place goal then
        if moves then
          return failed ("cannot move " ++ quoted source ++ " to a subdirectory of itself, " ++
            quoted target)
        return failed ("cannot copy a directory, " ++ quoted source ++ ", into itself, " ++
          quoted target)
      match files.get? goal, node with
      | some (.file _ _), .directory =>
        return failed ("cannot overwrite non-directory " ++ quoted target ++ " with directory " ++
          quoted source)
      | some .directory, .file _ _ =>
        return failed ("cannot overwrite directory " ++ quoted target ++ " with non-directory")
      | old, _ =>
        if target.endsWith "/" && !node.isDirectory then
          return blocked .notADirectory
        match files.get? (Location.outer goal) with
        | none => return blocked .notFound
        | some (.file _ _) => return blocked .notADirectory
        | some .directory =>
          let new := (rebased files place goal).map fun (l, n) =>
            match old, n with
            | some (.file _ executable), .file content _ =>
              if moves then (l, n) else (l, .file content executable)
            | _, n => (l, n)
          let base := if moves then withoutPlace files place else files
          setFiles (new.foldl (fun t (l, n) => t.set l n) base)
          return none

def carry (name : String) (moves : Bool) (o : Options) : Run Nat := do
  let files ← filesHere
  let deep := moves || ['r', 'R', 'a'].any o.has
  let shown (source target : String) : Run Unit := do
    if o.has 'v' then
      say ((if moves then "renamed " else "") ++ quoted source ++ " -> " ++ quoted target ++ "\n")
  let one (source target : String) : Run (Option String) := do
    if o.has 'n' && (← filesHere).contains (pathOf target) then return none
    let problem ← transfer name moves deep source target
    if problem.isNone then shown source target
    return problem
  match o.value? 't', o.operands with
  | _, [] => misused name "missing file operand" 1
  | some directory, sources =>
    eachOperand sources fun s => one s (below directory (lastStep s))
  | none, [only] => misused name ("missing destination file operand after " ++ quoted only) 1
  | none, [source, target] =>
    eachOperand [source] fun s =>
      one s (if files.isDirectory (pathOf target) && !o.has 'T' then below target (lastStep s)
        else target)
  | none, operands =>
    let target := (operands.getLast?).getD ""
    match files.find (pathOf target) with
    | .ok .directory => eachOperand operands.dropLast fun s => one s (below target (lastStep s))
    | .ok (.file _ _) =>
      complain (name ++ ": target " ++ quoted target ++ ": Not a directory")
      return 1
    | .error e =>
      complain (name ++ ": target " ++ quoted target ++ ": " ++ plainReason e)
      return 1

def cp : Utility :=
  withOptions "cp" ⟨"abdfHiLlnPpRrsTuvx".toList, "t".toList, [("recursive", 'r'), ("archive", 'a'),
      ("force", 'f'), ("verbose", 'v'), ("no-clobber", 'n'), ("target-directory", 't')]⟩ 1
    (carry "cp" false)

def mv : Utility :=
  withOptions "mv" ⟨"bfinTuv".toList, "t".toList, [("force", 'f'), ("verbose", 'v'),
      ("no-clobber", 'n'), ("target-directory", 't')]⟩ 1 (carry "mv" true)

/-- What a mode makes of the right to run a file, or nothing if it is no mode. -/
def modeChange? (mode : String) : Option (Bool → Bool) :=
  let cs := mode.toList
  if cs.isEmpty then none
  else if cs.all fun c => '0' ≤ c && c ≤ '7' then
    if 5 < cs.length && cs.take (cs.length - 4) ≠ List.replicate (cs.length - 4) '0' then none
    else
      let bits := cs.reverse.take 3
      some fun _ => bits.any fun d => d.toNat % 2 = 1
  else
    (Text.splitAt (· == ',') cs).foldl (fun (done : Option (Bool → Bool)) clause =>
      let (who, rest) := clause.span "ugoa".toList.contains
      match done, rest with
      | some f, sign :: letters =>
        if "+-=".toList.contains sign && letters.all "rwxXstugo+-=".toList.contains then
          let has := letters.contains 'x'
          let all := who.isEmpty || who.contains 'a'
          some fun old =>
            let old := f old
            match sign with
            | '+' => old || has
            | '-' => if has && all then false else old
            | _ => if all then has else old || has
        else none
      | _, _ => none) (some id)

def chmod (arguments : List String) : Run Nat := do
  let isMode (w : String) : Bool :=
    match w.toList with
    | '-' :: c :: _ => "rwxXst".toList.contains c
    | _ => false
  let (front, rest) := arguments.span fun w => w.startsWith "-" && w ≠ "--" && !isMode w
  let rest := match rest with
    | "--" :: rest => rest
    | rest => rest
  match optionsOf ⟨"cfvR".toList, [], [("recursive", 'R'), ("verbose", 'v')]⟩ (front.length + 1)
    front with
  | .error f => misused "chmod" f.message 1
  | .ok o =>
    match rest with
    | [] => misused "chmod" "missing operand" 1
    | [mode] => misused "chmod" ("missing operand after " ++ quoted mode) 1
    | mode :: paths =>
      match modeChange? mode with
      | none => misused "chmod" ("invalid mode: " ++ quoted mode) 1
      | some f =>
        eachOperand paths fun path => do
          let files ← filesHere
          match files.find (pathOf path), files.locate (pathOf path) with
          | .error e, _ | _, .error e =>
            return some ("chmod: cannot access " ++ quoted path ++ ": " ++ plainReason e)
          | .ok _, .ok place =>
            let nodes := files.nodes.map fun (l, node) =>
              match node with
              | .file content executable =>
                if l = place || (o.has 'R' && Location.isWithin place l) then
                  (l, .file content (f executable))
                else (l, node)
              | .directory => (l, node)
            setFiles { files with nodes }
            return none

/-- A name that no file has yet, made from a template. -/
def freshName (files : FileTree) (template : List Char) : Nat → Nat → String
  | 0, k => String.ofList template ++ toString k
  | fuel + 1, k =>
    let marks := (template.reverse.takeWhile (· == 'X')).length
    let digits := (toString k).toList
    let name := String.ofList (template.take (template.length - marks) ++
      List.replicate (marks - digits.length) 'a' ++ digits)
    if files.contains (pathOf name) then freshName files template fuel (k + 1) else name

def mktemp : Utility :=
  withOptions "mktemp" ⟨"dqut".toList, "p".toList, [("directory", 'd'), ("dry-run", 'u'),
      ("quiet", 'q')]⟩ 1 fun o => do
    let files ← filesHere
    let given := o.operands.headD "tmp.XXXXXXXXXX"
    let directory := (o.value? 'p').getD (((← process).value? "TMPDIR").getD "/tmp")
    let template := if o.operands.isEmpty || o.has 't' || o.has 'p' then below directory given
      else given
    if (template.toList.reverse.takeWhile (· == 'X')).length < 3 then
      complain ("mktemp: too few X's in template " ++ quoted given)
      return 1
    let name := freshName files template.toList 1000 0
    if o.has 'u' then
      say (name ++ "\n")
      return 0
    match if o.has 'd' then files.makeDirectory (pathOf name) else files.write (pathOf name) .empty with
    | .ok files =>
      setFiles files
      say (name ++ "\n")
      return 0
    | .error e =>
      let kind := if o.has 'd' then "directory" else "file"
      if !o.has 'q' then
        complain ("mktemp: failed to create " ++ kind ++ " via template " ++ quoted template ++ ": " ++
          plainReason e)
      return 1

end Scriptwright.Shell.Utility

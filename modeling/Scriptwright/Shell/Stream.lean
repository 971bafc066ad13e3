import Scriptwright.Shell.Process

/-!
Reading and writing through the numbered streams of a process.
-/
namespace Scriptwright.Shell

def addChannel (c : Channel) : Run Nat := do
  let m ← get
  set { m with channels := (m.nextChannel, c) :: m.channels, nextChannel := m.nextChannel + 1 }
  return m.nextChannel

def channelOf (stream : Nat) : Run (Option (Nat × Channel)) := do
  let m ← get
  return do
    let number ← m.process.streams.lookup stream
    let channel ← m.channels.lookup number
    return (number, channel)

def replaceIn (number : Nat) (c : Channel) : List (Nat × Channel) → List (Nat × Channel)
  | [] => []
  | (n, old) :: rest => if n = number then (n, c) :: rest else (n, old) :: replaceIn number c rest

def setChannel (number : Nat) (c : Channel) : Run Unit :=
  modify fun m => { m with channels := replaceIn number c m.channels }

def closeChannel (number : Nat) : Run String := do
  let m ← get
  set { m with channels := m.channels.filter (·.1 ≠ number) }
  match m.channels.lookup number with
  | some (.collecting written) => return written
  | _ => return ""

def setStream (stream number : Nat) : Run Unit :=
  change fun p => { p with streams := (stream, number) :: p.streams.filter (·.1 ≠ stream) }

def closeStream (stream : Nat) : Run Unit :=
  change fun p => { p with streams := p.streams.filter (·.1 ≠ stream) }

def bytesAt (files : FileTree) (place : Location) : Option ByteArray :=
  match files.get? place with
  | some (.file content _) => some content
  | _ => none

def overwritten (old new : ByteArray) (position : Nat) : ByteArray :=
  let gap : ByteArray := ⟨Array.replicate (position - old.size) 0⟩
  old.extract 0 position ++ gap ++ new ++ old.extract (position + new.size) old.size

/-- Writes to a stream; what is written to a closed one is lost. -/
def put (stream : Nat) (text : String) : Run Unit := do
  match ← channelOf stream with
  | some (number, .collecting written) => setChannel number (.collecting (written ++ text))
  | some (number, .file place position appends) =>
    let m ← get
    match m.files.get? place with
    | some (.file old executable) =>
      let new := toBytes text
      let position := if appends then old.size else position
      set { m with files := m.files.set place (.file (overwritten old new position) executable) }
      setChannel number (.file place (position + new.size) appends)
    | _ => return
  | _ => return

def say (text : String) : Run Unit := put outputStream text

def complain (text : String) : Run Unit := put errorStream (text ++ "\n")

/-- All that is left to be read, and whether even more would come. -/
def takeAll (stream : Nat) : Run (String × Bool) := do
  match ← channelOf stream with
  | some (number, .waiting unread endless) =>
    setChannel number (.waiting [] endless)
    return (String.ofList unread, endless)
  | some (_, .zeros) => return (String.ofList (List.replicate 65536 '\x00'), true)
  | some (number, .file place position appends) =>
    match bytesAt (← get).files place with
    | some bytes =>
      setChannel number (.file place bytes.size appends)
      return (ofBytes (bytes.extract position bytes.size), false)
    | none => return ("", false)
  | _ => return ("", false)

def putBack (stream : Nat) (rest : String) : Run Unit := do
  match ← channelOf stream with
  | some (number, .waiting unread endless) =>
    setChannel number (.waiting (rest.toList ++ unread) endless)
  | some (number, .file place position appends) =>
    setChannel number (.file place (position - rest.length) appends)
  | _ => return

/-- A line with its end, or what is left without one. -/
def takeLine (stream : Nat) : Run (Option String) := do
  match ← channelOf stream with
  | some (number, .waiting unread endless) =>
    match unread.span (· != '\n') with
    | ([], []) => if endless then throw .stuck else return none
    | (line, []) =>
      setChannel number (.waiting [] endless)
      return some (String.ofList line)
    | (line, _ :: rest) =>
      setChannel number (.waiting rest endless)
      return some (String.ofList line ++ "\n")
  | _ =>
    match ← takeAll stream with
    | ("", _) => return none
    | (text, _) =>
      let (line, rest) := text.toList.span (· != '\n')
      putBack stream (String.ofList (rest.drop 1))
      return some (String.ofList line ++ if rest.isEmpty then "" else "\n")

/-- The system's words without its number for the error. -/
def plainReason (e : StorageError) : String :=
  match Text.splitLast? '(' e.message.toList with
  | some (words, _) => String.ofList (words.reverse.dropWhile (· == ' ')).reverse
  | none => e.message

def pathOf (name : String) : String := toText name

def filesHere : Run FileTree := do
  let m ← get
  return { m.files with here := m.process.here }

def setFiles (files : FileTree) : Run Unit :=
  modify fun m => { m with files := { files with here := m.files.here } }

def device? (name : String) : Run (Option Nat) := do
  let known : Option Nat := match name with
    | "/dev/stdin" | "/dev/fd/0" => some 0
    | "/dev/stdout" | "/dev/fd/1" => some 1
    | "/dev/stderr" | "/dev/fd/2" => some 2
    | _ => none
  match name, known with
  | "/dev/null", _ => return some (← addChannel .nothing)
  | "/dev/zero", _ => return some (← addChannel .zeros)
  | _, some stream => return (← process).streams.lookup stream
  | _, none => return none

def openFile (name : String) (mode : FileMode) : Run (Except StorageError Nat) := do
  match ← device? name with
  | some number => return .ok number
  | none =>
    let files ← filesHere
    let path := pathOf name
    match mode with
    | .input =>
      match files.find path, files.locate path with
      | .ok _, .ok place => return .ok (← addChannel (.file place 0 false))
      | .error e, _ | _, .error e => return .error e
    | .output | .append | .both =>
      let keep := match mode, files.find path with
        | .append, .ok (.file content _) | .both, .ok (.file content _) => content
        | _, _ => .empty
      match files.write path keep, files.locate path with
      | .ok files, .ok place =>
        setFiles files
        let appends := match mode with
          | .append => true
          | _ => false
        return .ok (← addChannel (.file place 0 appends))
      | .error e, _ | _, .error e => return .error e

def elapse (milliseconds : Nat) : Run Unit := do
  change fun p => { p with clock := p.clock + milliseconds }
  let p ← process
  let holds := p.streams.any fun (_, number) => number < 3
  if holds then modify fun m => { m with heldUntil := max m.heldUntil p.clock }

def warn (text : String) : Run Unit := do
  let p ← process
  let speaker := match p.speaker with
    | some s => s ++ ": "
    | none => ""
  complain (p.name ++ ": " ++ toString p.line ++ ": " ++ speaker ++ text)

def fail {α : Type} (text : String) : Run α := do
  warn text
  setStatus 2
  throw .fault

end Scriptwright.Shell

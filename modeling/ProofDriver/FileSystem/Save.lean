import ProofDriver.FileSystem.Basic
import ProofDriver.Json.Printer
import ProofDriver.Text.Line
/-!
# Saving documents

A document is written to a file of its own beside the destination and moved over it at the end, so
that the destination holds the old document or the new one, whatever stops the work in between. The
work is a sequence of steps on the file system, and each of them can fail.
-/

namespace ProofDriver

inductive SaveStep where
  | serialize
  | makeParents
  | createTemporary
  | write
  | sync
  | readMode
  | setMode
  | replace
  deriving Repr, DecidableEq

/-- One document on its way to one path. The destination is found by name: double dots take back the
name before them. -/
structure SaveJob where
  path : Path
  content : Bytes
  umask : Nat
  deriving Repr

/-- How far a save has come. Between its creation and the end the temporary file is the save's own.
`abandoned` still has to remove it. -/
inductive SavePhase where
  | begun
  | parentsMade
  | created (temporary : Path)
  | written (temporary : Path)
  | synced (temporary : Path)
  | modeKnown (temporary : Path) (mode : Nat)
  | modeSet (temporary : Path)
  | finished
  | abandoned (temporary : Path) (why : Failure)
  | failed (why : Failure)
  deriving Repr

namespace SavePhase

def next? : SavePhase → Option SaveStep
  | begun => some .makeParents
  | parentsMade => some .createTemporary
  | created _ => some .write
  | written _ => some .sync
  | synced _ => some .readMode
  | modeKnown .. => some .setMode
  | modeSet _ => some .replace
  | finished | abandoned .. | failed _ => none

def isOver : SavePhase → Bool
  | finished | failed _ => true
  | _ => false

def temporary? : SavePhase → Option Path
  | created t | written t | synced t | modeKnown t _ | modeSet t | abandoned t _ => some t
  | _ => none

end SavePhase

def Failure.saysMissing : Failure → Bool
  | fault f => FileSystem.isMissing f
  | driver _ => false

namespace SaveJob

def report (verb : String) (job : SaveJob) : Failure → Failure
  | .fault f =>
    if f.isSystemError then
      .driver (Category.io.error ("cannot " ++ verb ++ " " ++ job.path.render ++ ": " ++ f.message))
    else .fault f
  | e => e

def notPrepared (job : SaveJob) (why : Failure) : SavePhase :=
  .failed (job.report "prepare" why)

def notWritten (job : SaveJob) (temporary : Path) (why : Failure) : SavePhase :=
  .abandoned temporary (job.report "write" why)

def temporaryPath (job : SaveJob) (token : String) (fs : FileSystem) : Path :=
  (fs.absolute job.path.parent).child
    ("." ++ job.path.name ++ "." ++ token ++ ".tmp")

def createFile (fs : FileSystem) (p : Path) : Except Fault FileSystem :=
  if FileSystem.holdsNul p then .error .nulInPath
  else
    match fs.locate p with
    | .error e => .error (FileSystem.refused p e)
    | .ok l =>
      if fs.canChange l then .ok (fs.put l (.file 0o600 []))
      else .error (FileSystem.refused p .denied)

def taken (fs : FileSystem) (p : Path) : Bool :=
  match fs.locate p with
  | .ok l => (fs.get? l).isSome
  | .error _ => false

def fill (fs : FileSystem) (p : Path) (data : Bytes) : FileSystem :=
  match fs.get? p.parts with
  | some (.file mode _) => fs.put p.parts (.file mode data)
  | _ => fs

def newMode (job : SaveJob) : Nat :=
  0o666 - (0o666 &&& job.umask)

/-- The permission bits for the destination: those it has, or those of a new file where the system
says that nothing stands there. That is an answer and no failure, whether it is true or not; only
about a path with a null character the system is not asked. -/
def modeAfter (job : SaveJob) (trouble : Option Failure) (fs : FileSystem) : Outcome Nat :=
  match trouble with
  | some why =>
    if why.saysMissing && !FileSystem.holdsNul job.path then .ok job.newMode else .error why
  | none =>
    match fs.stat job.path with
    | .ok node => .ok node.mode
    | .error f => if FileSystem.isMissing f then .ok job.newMode else .error (.fault f)

/-- One step. `trouble` is what happens to the step instead of its success; `token` is the name to
try for the temporary file, which stays uncreated where the name is taken. -/
def step (job : SaveJob) (token : String) (trouble : Option Failure) (phase : SavePhase)
    (fs : FileSystem) : SavePhase × FileSystem :=
  match phase with
  | .begun =>
    match trouble with
    | some why => (job.notPrepared why, fs)
    | none =>
      match fs.makeDirectories job.umask job.path.parent with
      | (.ok (), fs) => (.parentsMade, fs)
      | (.error f, fs) => (job.notPrepared (.fault f), fs)
  | .parentsMade =>
    match trouble with
    | some why => (job.notPrepared why, fs)
    | none =>
      let temporary := job.temporaryPath token fs
      if taken fs temporary then (.parentsMade, fs)
      else
        match createFile fs temporary with
        | .ok fs => (.created temporary, fs)
        | .error f => (job.notPrepared (.fault f), fs)
  | .created t =>
    match trouble with
    | some why => (job.notWritten t why, fs)
    | none => (.written t, fill fs t job.content)
  | .written t =>
    match trouble with
    | some why => (job.notWritten t why, fs)
    | none => (.synced t, fs)
  | .synced t =>
    match job.modeAfter trouble fs with
    | .ok mode => (.modeKnown t mode, fs)
    | .error why => (job.notWritten t why, fs)
  | .modeKnown t mode =>
    match trouble with
    | some why => (job.notWritten t why, fs)
    | none =>
      match fs.setMode t mode with
      | .ok fs => (.modeSet t, fs)
      | .error f => (job.notWritten t (.fault f), fs)
  | .modeSet t =>
    match trouble with
    | some why => (job.notWritten t why, fs)
    | none =>
      match fs.replace t job.path with
      | .ok fs => (.finished, fs)
      | .error f => (job.notWritten t (.fault f), fs)
  | .abandoned t why => (.failed why, fs.erase t.parts)
  | .finished => (.finished, fs)
  | .failed why => (.failed why, fs)

def tokenOf (n : Nat) : String :=
  String.ofList ((List.range 8).map fun i => Nat.digitChar (n / Nat.pow 10 i % 10))

/-- A token that no file beside the destination has. One of the first, as many as there are files
and one more, is free. -/
def freeToken (job : SaveJob) (fs : FileSystem) : String :=
  match (List.range (fs.entries.length + 1)).find? fun n =>
      !taken fs (job.temporaryPath (tokenOf n) fs) with
  | some n => tokenOf n
  | none => tokenOf 0

def advance (job : SaveJob) (trouble : SaveStep → Option Failure)
    (reached : SavePhase × FileSystem) : SavePhase × FileSystem :=
  job.step (job.freeToken reached.2) (reached.1.next?.bind trouble) reached.1 reached.2

def run (job : SaveJob) (trouble : SaveStep → Option Failure) (fs : FileSystem) :
    SavePhase × FileSystem :=
  (List.range 8).foldl (fun reached _ => job.advance trouble reached) (.begun, fs)

end SaveJob

/-- A file system with what surrounds it: the umask, and which steps of a save fail for reasons of
their own. -/
structure Disk where
  files : FileSystem
  umask : Nat := 0o022
  trouble : SaveStep → Option Failure := fun _ => none

namespace Disk

/-- What a save came to. One that stands before its end has found no name for its temporary file. -/
def outcome (job : SaveJob) : SavePhase → Outcome Unit
  | .finished => .ok ()
  | .abandoned _ why | .failed why => .error why
  | _ =>
    .error (job.report "prepare"
      (.fault (.raised .system "[Errno 17] No usable temporary file name found")))

/-- Saves a document at a path. A value that has no text is refused before anything is touched. -/
def save (disk : Disk) (path : Path) (v : Value) : Outcome Unit × Disk :=
  match disk.trouble .serialize with
  | some why => (.error why, disk)
  | none =>
    match Json.write v with
    | .error why => (.error (.fault why.fault), disk)
    | .ok text =>
      let job : SaveJob := ⟨path, Text.utf8Bytes (text.push '\n'), disk.umask⟩
      let (phase, files) := job.run disk.trouble disk.files
      (outcome job phase, { disk with files })

def readText (fs : FileSystem) (path : Path) : Except Fault (List Char) :=
  match fs.read path with
  | .error f => .error f
  | .ok data =>
    match Text.decodeUtf8 data with
    | .error e => .error (.undecodable e)
    | .ok text => .ok (Text.unifyLineBreaks text.toList)

def load (fs : FileSystem) (path : Path) : Outcome Value :=
  match readText fs path with
  | .error f =>
    if f.isSystemError then
      .error (.driver ⟨.io, "read", "cannot read " ++ path.render ++ ": " ++ f.message⟩)
    else .error (.fault f)
  | .ok text =>
    match Json.read text with
    | .ok v => .ok v
    | .error refusal => .error (.fault refusal.fault)

end Disk

end ProofDriver

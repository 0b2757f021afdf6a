import ProofDriver.Failure
import ProofDriver.FileSystem.Path
/-!
# File systems

Directories and files by where they lie, and the operations of one user on them. The permission
bits of the owner decide what this user may do. There are no links.
-/

namespace ProofDriver

/-- The names that lead from the root to a place. -/
abbrev Location := List String

/-- What can be done with a file or a directory: taking its content or its list of names, changing
it, and going through it to what it holds. -/
inductive Access where
  | read
  | write
  | search
  deriving Repr, DecidableEq

def Access.bit : Access → Nat
  | read => 8
  | write => 7
  | search => 6

inductive Node where
  | directory (mode : Nat)
  | file (mode : Nat) (data : Bytes)
  deriving Repr, DecidableEq

namespace Node

def isDirectory : Node → Bool
  | directory _ => true
  | file .. => false

def mode : Node → Nat
  | directory m => m
  | file m _ => m

def allows (access : Access) (node : Node) : Bool :=
  node.mode.testBit access.bit

def withMode (m : Nat) : Node → Node
  | directory _ => directory m
  | file _ data => file m data

end Node

/-- Every directory has an entry, the root too, and `cwd` is where relative paths start. -/
structure FileSystem where
  cwd : Location := []
  entries : List (Location × Node) := [([], .directory 0o755)]
  /-- Places that belong to others. Their permission bits cannot be changed. -/
  foreign : List Location := []
  /-- No directory is named by double dots. -/
  cwd_plain : ".." ∉ cwd := by first | exact List.not_mem_nil | decide
  deriving Repr

namespace FileSystem

def get? (fs : FileSystem) (l : Location) : Option Node :=
  fs.entries.lookup l

def putEntry (l : Location) (node : Node) : List (Location × Node) → List (Location × Node)
  | [] => [(l, node)]
  | (place, old) :: rest =>
    if place = l then (l, node) :: rest else (place, old) :: putEntry l node rest

def put (fs : FileSystem) (l : Location) (node : Node) : FileSystem :=
  { fs with entries := putEntry l node fs.entries }

def erase (fs : FileSystem) (l : Location) : FileSystem :=
  { fs with entries := fs.entries.filter fun e => e.1 ≠ l }

/-- The longest name, in bytes. -/
def nameLimit : Nat := 255

def pathLimit : Nat := 4095

def barrier? (fs : FileSystem) (l : Location) : Option Errno :=
  match fs.get? l with
  | none => some .noEntry
  | some (.file ..) => some .notDirectory
  | some node => if node.allows .search then none else some .denied

/-- Follows names from a place. There has to be a way through all but the last; the last may lead to
nothing. -/
def walk (fs : FileSystem) (l : Location) : List String → Except Errno Location
  | [] => .ok l
  | name :: rest =>
    match fs.barrier? l with
    | some e => .error e
    | none =>
      if name = ".." then fs.walk l.dropLast rest
      else if nameLimit < name.utf8ByteSize then .error .nameTooLong
      else fs.walk (l ++ [name]) rest

def start (fs : FileSystem) (p : Path) : Location :=
  match p.root with
  | .relative => fs.cwd
  | _ => []

/-- Where a path leads. Also the directory that a single dot stands for is gone through. -/
def locate (fs : FileSystem) (p : Path) : Except Errno Location :=
  if pathLimit < p.render.utf8ByteSize then .error .nameTooLong
  else
    match p.root, p.parts with
    | .relative, [] =>
      match fs.barrier? fs.cwd with
      | some e => .error e
      | none => .ok fs.cwd
    | _, parts => fs.walk (fs.start p) parts

def canChange (fs : FileSystem) (l : Location) : Bool :=
  match fs.get? l.dropLast with
  | some node => node.allows .write && node.allows .search
  | none => false

def refused (p : Path) (e : Errno) : Fault :=
  .system ⟨e, p.render, none⟩

def holdsNul (p : Path) : Bool :=
  p.parts.any fun name => name.toList.contains '\x00'

def stat (fs : FileSystem) (p : Path) : Except Fault Node :=
  if holdsNul p then .error .nulInPath
  else
    match fs.locate p with
    | .error e => .error (refused p e)
    | .ok l =>
      match fs.get? l with
      | none => .error (refused p .noEntry)
      | some node => .ok node

def read (fs : FileSystem) (p : Path) : Except Fault Bytes :=
  match fs.stat p with
  | .error f => .error f
  | .ok node =>
    if node.allows .read then
      match node with
      | .directory _ => .error (refused p .isDirectory)
      | .file _ data => .ok data
    else .error (refused p .denied)

def ask (fs : FileSystem) (p : Path) (question : Node → Bool) : Except Fault Bool :=
  match fs.stat p with
  | .ok node => .ok (question node)
  | .error .nulInPath => .ok false
  | .error (.system e) =>
    if e.errno = .noEntry ∨ e.errno = .notDirectory then .ok false else .error (.system e)
  | .error f => .error f

def isDirectory (fs : FileSystem) (p : Path) : Except Fault Bool :=
  fs.ask p Node.isDirectory

def isFile (fs : FileSystem) (p : Path) : Except Fault Bool :=
  fs.ask p fun node => !node.isDirectory

def makeDirectory (umask : Nat) (fs : FileSystem) (p : Path) : Except Fault FileSystem :=
  if holdsNul p then .error .nulInPath
  else
    match fs.locate p with
    | .error e => .error (refused p e)
    | .ok l =>
      match fs.get? l with
      | some _ => .error (refused p .alreadyExists)
      | none =>
        if fs.canChange l then .ok (fs.put l (.directory (0o777 - (0o777 &&& umask))))
        else .error (refused p .denied)

def unlessDirectory (fs : FileSystem) (p : Path) (f : Fault) : Except Fault Unit :=
  if f.isSystemError then
    match fs.isDirectory p with
    | .ok true => .ok ()
    | .ok false => .error f
    | .error f => .error f
  else .error f

def isMissing : Fault → Bool
  | .system e => e.errno == .noEntry
  | _ => false

/-- Makes the directory after `made`, with `rest` names still to come in reverse, the nearest first.
The directories that were made stay if a later one is refused. -/
def makeDirectoriesFrom (umask : Nat) (p : Path) :
    (names : List String) → FileSystem → Except Fault Unit × FileSystem
  | names, fs =>
    let here : Path := { p with parts := names.reverse }
    match makeDirectory umask fs here with
    | .ok fs => (.ok (), fs)
    | .error f =>
      if isMissing f then
        match names with
        | [] => (.error f, fs)
        | _ :: above =>
          match makeDirectoriesFrom umask p above fs with
          | (.error f, fs) => (.error f, fs)
          | (.ok (), fs) =>
            match makeDirectory umask fs here with
            | .ok fs => (.ok (), fs)
            | .error f =>
              (if isMissing f then .error f else fs.unlessDirectory here f, fs)
      else (fs.unlessDirectory here f, fs)

def makeDirectories (umask : Nat) (fs : FileSystem) (p : Path) : Except Fault Unit × FileSystem :=
  makeDirectoriesFrom umask p p.parts.reverse fs

/-- The permission bits that stay when the content changes: a file that lends the rights of its
owner, or those of a group that may run it, lends them no longer. -/
def bitsKept (mode : Nat) : Nat :=
  let mode := if mode.testBit 11 then mode - 0o4000 else mode
  if mode.testBit 10 && mode.testBit 3 then mode - 0o2000 else mode

def write (umask : Nat) (fs : FileSystem) (p : Path) (data : Bytes) : Except Fault FileSystem :=
  if holdsNul p then .error .nulInPath
  else
    match fs.locate p with
    | .error e => .error (refused p e)
    | .ok l =>
      match fs.get? l with
      | some (.directory _) => .error (refused p .isDirectory)
      | some (.file mode old) =>
        if (Node.file mode old).allows .write then .ok (fs.put l (.file (bitsKept mode) data))
        else .error (refused p .denied)
      | none =>
        if fs.canChange l then .ok (fs.put l (.file (0o666 - (0o666 &&& umask)) data))
        else .error (refused p .denied)

/-- The place that a path names if double dots are taken back name by name. -/
def lexical (fs : FileSystem) (p : Path) : Location :=
  p.parts.foldl (fun l name => if name = ".." then l.dropLast else l ++ [name]) (fs.start p)

/-- The absolute path without double dots. Two slashes at the beginning stay. -/
def absolute (fs : FileSystem) (p : Path) : Path :=
  ⟨if p.root = .doubleRoot then .doubleRoot else .root, fs.lexical p⟩

def setMode (fs : FileSystem) (p : Path) (mode : Nat) : Except Fault FileSystem :=
  if holdsNul p then .error .nulInPath
  else
    match fs.locate p with
    | .error e => .error (refused p e)
    | .ok l =>
      match fs.get? l with
      | none => .error (refused p .noEntry)
      | some node =>
        if l ∈ fs.foreign then .error (refused p .notPermitted)
        else .ok (fs.put l (node.withMode mode))

def replace (fs : FileSystem) (source target : Path) : Except Fault FileSystem :=
  let refused (e : Errno) : Fault := .system ⟨e, source.render, some target.render⟩
  match fs.locate source, fs.locate target with
  | .error e, _ => .error (refused e)
  | _, .error e => .error (refused e)
  | .ok old, .ok new =>
    match fs.get? old with
    | none => .error (refused .noEntry)
    | some node =>
      if target.parts = [] ∨ target.name = ".." then .error (refused .busy)
      else if old = new then .ok fs
      else if fs.canChange old ∧ fs.canChange new then
        match fs.get? new with
        | some (.directory _) => .error (refused .isDirectory)
        | _ => .ok ((fs.erase old).put new node)
      else .error (refused .denied)

end FileSystem

end ProofDriver

import ProofDriver.Cli.Command
/-!
# The program

The command line on a real machine. The files that a call may touch are read before it and those
that it changed are written after it. No prover binary is started from here, so that each counts as
missing, and nothing is measured.
-/

namespace ProofDriver

def variableNames : List String := [
  "FIBPROOF_PROVER", "FIBPROOF_PROVER_PATH", "FIBPROOF_ELF", "FIBPROOF_DEV", "FIBPROOF_FIXTURE_DIR",
  "FIBPROOF_TIMEOUT", "FIBPROOF_PLONK_MIN_RAM_GB", "FIBPROOF_LOG", "SP1_DEV", "FRI_QUERIES"]

def readEnvironment : IO Environment :=
  variableNames.filterMapM fun name => do
    return (← IO.getEnv name).map fun value => (name, value)

def vacantHost : Host Unit where
  scratch := "."
  start _ state := (.missing, state)

def locationText (l : Location) : String :=
  Path.render ⟨.root, l⟩

def readNode (l : Location) : IO (Option Node) := do
  try
    return some (.file 0o644 (← IO.FS.readBinFile (locationText l)).toList)
  catch
    | .inappropriateType .. => return some (.directory 0o755)
    | _ => return none

def readPlace (fs : FileSystem) (l : Location) : IO FileSystem :=
  (List.range l.length).foldlM
    (fun fs i => do
      let above := l.take (i + 1)
      return (← readNode above).elim fs (fs.put above))
    fs

def readFiles (paths : List Path) : IO FileSystem := do
  let cwd := (Path.ofString (← IO.currentDir).toString).parts.filter (· ≠ "..")
  let bare : FileSystem := { cwd, cwd_plain := by simp [cwd] }
  paths.foldlM (fun fs p => readPlace fs (fs.lexical p)) (← readPlace bare cwd)

def writeNode (l : Location) : Node → IO Unit
  | .directory _ => IO.FS.createDirAll (locationText l)
  | .file _ data => do
    let temporary := locationText l ++ ".new.tmp"
    IO.FS.writeBinFile temporary ⟨data.toArray⟩
    IO.FS.rename temporary (locationText l)

def writeChanges (before after : FileSystem) : IO Unit :=
  after.entries.forM fun (l, node) => do
    if before.get? l ≠ some node then writeNode l node

def Cli.Result.notice (r : Cli.Result) : Option String :=
  match r.fault, r.threshold with
  | some f, _ => some f.message
  | none, none => if r.exitCode = 0 then none else some "unknown or incomplete arguments"
  | none, some _ => none

def Cli.Program.main (args : List String) : IO UInt32 := do
  let env ← readEnvironment
  let program := (Cli.Program.ofName? ((← IO.appPath).fileName.getD "")).getD .group
  let files ← readFiles (program.paths env args)
  let start : World (ExternalState Unit) := { client := { host := () }, disk := { files } }
  let (result, w) := (Cli.run vacantHost env program args).run start
  writeChanges files w.disk.files
  for record in Journal.passing (result.threshold.getD 0) w.journal do
    IO.eprintln (record.level.name ++ " " ++ record.message)
  if let some notice := result.notice then IO.eprintln notice
  IO.print result.stdout
  return UInt32.ofNat result.exitCode

end ProofDriver

def main (args : List String) : IO UInt32 :=
  ProofDriver.Cli.Program.main args

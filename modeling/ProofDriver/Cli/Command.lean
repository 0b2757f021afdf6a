import ProofDriver.Cli.Options
import ProofDriver.Delivery
import ProofDriver.Prover.Select
/-!
# Commands

The command line: executing, proving in a mode, and verifying a fixture, each as a program of its
own or, all but the single modes, as a command of one program. The exit status is that of the
error's category, and a written fixture's path is all that goes to standard output.
-/

namespace ProofDriver.Cli

inductive Command where
  | execute
  /-- Proves in this mode, or in the one that an option names. -/
  | prove (mode : Option ProofMode)
  | verify
  deriving Repr, DecidableEq

/-- The programs that can be called. -/
inductive Program where
  | group
  | execute
  | single (mode : ProofMode)
  deriving Repr, DecidableEq

def Program.name : Program → String
  | group => "fibonacci"
  | execute => "fibonacci-execute"
  | single mode => "fibonacci-" ++ mode.name

def Program.all : List Program :=
  group :: execute :: ProofMode.all.map single

def Program.ofName? (s : String) : Option Program :=
  Program.all.find? (·.name == s)

def commonSpecs : List Spec := [
  ⟨.prover, "--prover", none, true⟩,
  ⟨.proverPath, "--prover-path", none, true⟩,
  ⟨.elf, "--elf", none, true⟩,
  ⟨.dev, "--dev", none, false⟩,
  ⟨.noDev, "--no-dev", none, false⟩,
  ⟨.verbose, "--verbose", some 'v', false⟩,
  ⟨.quiet, "--quiet", some 'q', false⟩,
  ⟨.help, "--help", none, false⟩]

def nSpec : Spec := ⟨.n, "--n", none, true⟩

def outputSpec : Spec := ⟨.output, "--output", some 'o', true⟩

def modeSpec : Spec := ⟨.mode, "--mode", none, true⟩

def Command.specs : Command → List Spec
  | execute => nSpec :: commonSpecs
  | prove (some _) => nSpec :: outputSpec :: commonSpecs
  | prove none => modeSpec :: nSpec :: outputSpec :: commonSpecs
  | verify => commonSpecs

structure Invocation where
  command : Command
  n : Int := 20
  mode : String := ProofMode.core.name
  output : Option Path := none
  fixture : Path := ⟨.relative, []⟩
  overrides : Settings.Overrides := {}
  /-- The count of requests for more records, or less than zero for fewer. -/
  verbosity : Int := 0
  deriving Repr

/-- Why no command is run. -/
inductive Refusal where
  | usage
  | help
  | fault (f : Fault)
  deriving Repr, DecidableEq

def Command.ofName? : String → Option Command
  | "prove" => some (prove none)
  | "execute" => some execute
  | "verify" => some verify
  | _ => none

/-- The command that the arguments of the group call, and its own arguments. Of the options before a
command the group knows only the one for help, which was given if `help`. -/
def groupCommand (help : Bool) : List String → Except Refusal (Command × List String)
  | [] => .error (if help then .help else .usage)
  | arg :: rest =>
    if arg = "--help" then groupCommand true rest
    else if arg ≠ "--" ∧ isOption arg then .error .usage
    else if help then .error .help
    else
      match if arg = "--" then rest else arg :: rest with
      | [] => .error .usage
      | name :: rest =>
        match Command.ofName? name with
        | some c => .ok (c, rest)
        | none => .error .usage

def Program.command : Program → List String → Except Refusal (Command × List String)
  | group, args => groupCommand false args
  | execute, args => .ok (.execute, args)
  | single mode, args => .ok (.prove (some mode), args)

/-- Something stands at the path that a text names, and it cannot be read. The empty text names
nothing, and a text with a slash at its end names directories only. -/
def isUnreadable (files : FileSystem) (s : String) : Bool :=
  match files.stat (Path.ofString s) with
  | .ok node =>
    !node.allows .read && !s.isEmpty && (node.isDirectory || !(s.endsWith "/" || s.endsWith "/."))
  | .error _ => false

/-- A path has to be one that the system can be asked about. What stands there already has to be
readable, also if it is to be replaced. -/
def readPath (files : FileSystem) (s : String) : Except Refusal Path :=
  if s.toList.contains '\x00' then .error (.fault .nulInPath)
  else if isUnreadable files s then .error .usage
  else .ok (Path.ofString s)

def take (files : FileSystem) (inv : Invocation) (topic : Topic) (value : String) :
    Except Refusal Invocation :=
  let o := inv.overrides
  match topic with
  | .n =>
    match Numeral.readInt value with
    | .ok n => .ok { inv with n }
    | .error _ => .error .usage
  | .mode => .ok { inv with mode := value }
  | .output => do
    let path ← readPath files value
    .ok { inv with output := some path }
  | .prover =>
    if (Backend.ofName? value).isSome then
      .ok { inv with overrides := { o with backend := some value } }
    else .error .usage
  | .proverPath => do
    let path ← readPath files value
    .ok { inv with overrides := { o with proverPath := some path } }
  | .elf => do
    let path ← readPath files value
    .ok { inv with overrides := { o with elfPath := some path } }
  | .dev => .ok { inv with overrides := { o with dev := some true } }
  | .noDev => .ok { inv with overrides := { o with dev := some false } }
  | .verbose | .quiet | .help => .ok inv

def topics (given : List Given) : List Topic :=
  given.foldl (fun ts g => if ts.contains g.topic then ts else ts ++ [g.topic]) []

def takeAll (files : FileSystem) (given : List Given) (inv : Invocation) :
    List Topic → Except Refusal Invocation
  | [] => .ok inv
  | topic :: rest => do
    let inv ← take files inv topic ((last? given topic).getD "")
    takeAll files given inv rest

/-- Of the two switches for development settings the last one given counts. -/
def lastDev? (given : List Given) : Option Bool :=
  (given.reverse.find? fun g => g.topic == .dev || g.topic == .noDev).map (·.topic == .dev)

def verbosity (given : List Given) : Int :=
  if given.any (·.topic == .quiet) then -1 else (given.filter (·.topic == .verbose)).length

def Command.invocation (c : Command) (files : FileSystem) (args : List String) :
    Except Refusal Invocation := do
  match readArguments c.specs [] [] args with
  | none => .error .usage
  | some (given, others) =>
    if given.any (·.topic == .help) then .error .help
    let inv ← takeAll files given { command := c } (topics given)
    let inv := { inv with
      verbosity := verbosity given
      overrides := { inv.overrides with dev := lastDev? given } }
    match c, others with
    | verify, fixture :: rest => do
      let path ← readPath files fixture
      if rest ≠ [] then .error .usage
      .ok { inv with fixture := path }
    | verify, [] => .error .usage
    | _, [] => .ok inv
    | _, _ :: _ => .error .usage

def Program.invocation (p : Program) (files : FileSystem) (args : List String) :
    Except Refusal Invocation := do
  let (c, args) ← p.command args
  c.invocation files args

def Invocation.paths (inv : Invocation) (s : Settings) : List Path :=
  s.elfPath ::
    match inv.command with
    | .execute => []
    | .verify => [inv.fixture]
    | .prove mode =>
      match inv.output with
      | some path => [path]
      | none => (mode.elim ProofMode.all fun mode => [mode]).map s.fixturePath

/-- The files that a call may read or write, whatever stands there; none where it fails before
that. -/
def Program.paths (p : Program) (env : Environment) (args : List String) : List Path :=
  match p.invocation {} args, Settings.ofEnvironment env with
  | .ok inv, .ok s =>
    match s.replace inv.overrides with
    | .ok s => inv.paths s
    | .error _ => []
  | _, _ => []

def levelRanks : List (String × Nat) := [
  ("CRITICAL", 50), ("FATAL", 50), ("ERROR", 40), ("WARN", 30), ("WARNING", 30), ("INFO", 20),
  ("DEBUG", 10), ("NOTSET", 0)]

def verbosityRank (verbosity : Int) : Nat :=
  if verbosity < 0 then Level.warning.rank
  else if verbosity = 0 then Level.info.rank
  else Level.debug.rank

/-- The capital letter as far as level names go: those of ASCII, and the two letters outside it
whose capitals are ASCII. -/
def capital (c : Char) : Char :=
  if c = 'ı' then 'I' else if c = 'ſ' then 'S' else c.toUpper

/-- The rank that a level name asks for; a name that is none asks for information. -/
def namedRank (name : String) : Nat :=
  let name := String.ofList ((Text.trim name.toList).map capital)
  (levelRanks.lookup name).getD Level.info.rank

/-- The lowest rank that is shown. A level named in the environment goes before the options. -/
def threshold (override : Option String) (verbosity : Int) : Nat :=
  match override with
  | none => verbosityRank verbosity
  | some name => if name.isEmpty then verbosityRank verbosity else namedRank name

/-- How a call of the program ends. A fault that is no error of the driver's is handed on. -/
structure Result where
  exitCode : Nat
  stdout : String := ""
  fault : Option Fault := none
  /-- The lowest rank of the records to show, once that is settled. -/
  threshold : Option Nat := none
  deriving Repr

section

variable {τ : Type}

/-- What the command does, and what it prints. -/
def perform (host : Host τ) (env : Environment) (inv : Invocation) :
    Act (World (ExternalState τ)) String := do
  let settings ← Act.ofDriver (Settings.ofEnvironment env)
  let settings ← Act.ofDriver (settings.replace inv.overrides)
  let prover ← Prover.ofSettings settings
  let client := prover.client host env
  match inv.command with
  | .execute =>
    let _ ← Delivery.preview client (.int inv.n)
    pure ""
  | .prove mode =>
    let mode := match mode with
      | some mode => mode.name
      | none => inv.mode
    let (_, path) ← Delivery.deliver client settings .journal (.int inv.n) (.text mode) inv.output
    pure (path.render ++ "\n")
  | .verify =>
    let _ ← Delivery.recheck client inv.fixture.render
    pure ""

def concluded (work : Act (World (ExternalState τ)) String) :
    StateM (World (ExternalState τ)) Result :=
  fun w =>
    match work.run w with
    | (.ok stdout, w) => ({ exitCode := 0, stdout }, w)
    | (.error (.driver e), w) =>
      let failed : Act (World (ExternalState τ)) Unit :=
        World.log .error .commandLine (e.stage ++ " failed: " ++ e.message)
      ({ exitCode := e.exitCode }, (failed.run w).2)
    | (.error (.fault f), w) =>
      ({ exitCode := 1, fault := if f.isInterrupt then none else some f }, w)

def run (host : Host τ) (env : Environment) (p : Program) (args : List String) :
    StateM (World (ExternalState τ)) Result := do
  match p.invocation (← get).disk.files args with
  | .error .usage => pure { exitCode := 2 }
  | .error .help => pure { exitCode := 0 }
  | .error (.fault f) => pure { exitCode := 1, fault := some f }
  | .ok inv =>
    modify fun w => { w with client := { w.client with key := none } }
    let result ← concluded (perform host env inv)
    pure { result with threshold := some (threshold (env.get? "FIBPROOF_LOG") inv.verbosity) }

end

end ProofDriver.Cli

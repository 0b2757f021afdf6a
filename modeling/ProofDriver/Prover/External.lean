import ProofDriver.Prover.Client
import ProofDriver.Prover.Host
import ProofDriver.Prover.Output
/-!
# External provers

A client that runs a prover binary, one command to a call. The key of the program is asked for once
and kept. Every way in which a command can fail has its category; a process that ran out of time or
memory is told apart from one that failed.
-/

namespace ProofDriver

structure Prover.External where
  proverPath : Path
  elfPath : Path
  dev : Bool := false
  timeout : Option Number := none
  deriving Repr, DecidableEq

/-- What an external prover keeps between calls: the key once it has one. The host's state and the
commands that were given go with it. -/
structure ExternalState (τ : Type) where
  key : Option VerifyingKey := none
  host : τ
  commands : List Command := []

namespace Prover.External

variable {τ : Type}

/-- The environment of a command: relaxed settings are switched on, or their variables removed. -/
def childEnvironment (p : Prover.External) (env : Environment) : Environment :=
  if p.dev then (env.set "SP1_DEV" "1").set "FRI_QUERIES" "1"
  else (env.remove "SP1_DEV").remove "FRI_QUERIES"

def command (p : Prover.External) (env : Environment) (sub : Subcommand) (arguments : List String)
    (stdin proof : Option Bytes) : Command where
  subcommand := sub
  arguments := p.proverPath.render :: sub.name :: arguments ++ ["--elf", p.elfPath.render]
  checked := sub != .verify
  timeout := p.timeout
  environment := p.childEnvironment env
  stdin
  proof

def timeoutText : Option Number → String
  | none => "None"
  | some t => t.render

def exhausted (sub : Subcommand) (text : String) : DriverError :=
  ⟨.exhausted, sub.failure.stage, "prover " ++ sub.name ++ text⟩

/-- The time limit can be named in a message. -/
def namesLimit (p : Prover.External) : Bool :=
  p.timeout.all fun t => (Value.ofNumber t).isShowable

def classify (p : Prover.External) (c : Command) : ProcessEnd → Outcome Exit
  | .missing =>
    .error (.driver (c.subcommand.failure.error
      ("prover binary not found at " ++ p.proverPath.render)))
  | .refused why _ => .error (.fault (.system why))
  | .lost why => .error (.fault why)
  | .timedOut =>
    if p.namesLimit then
      .error (.driver (exhausted c.subcommand
        (" exceeded the " ++ timeoutText p.timeout ++ "s budget")))
    else .error (.fault .integerTooLong)
  | .exited e =>
    if e.status ∈ killedStatuses then
      .error (.driver (exhausted c.subcommand
        (" was killed (status " ++ toString e.status ++ "), likely out of memory")))
    else if c.checked ∧ e.status ≠ 0 then
      .error (.driver (c.subcommand.failure.error
        ("prover " ++ c.subcommand.name ++ " exited with status " ++ toString e.status ++ ": " ++
          Output.excerpt e.stderr)))
    else .ok e

def start (host : Host τ) (c : Command) : Act (Desk (ExternalState τ)) ProcessEnd :=
  modifyGet fun d =>
    let (r, state) := host.start c d.client.host
    (r, { d with client := { d.client with host := state, commands := d.client.commands ++ [c] } })

def run (p : Prover.External) (host : Host τ) (c : Command) :
    Act (Desk (ExternalState τ)) Exit := do
  Desk.log .debug .external ("running " ++ " ".intercalate c.arguments)
  Act.ofOutcome (p.classify c (← start host c))

def resultOf (sub : Subcommand) (e : Exit) : Except DriverError Value :=
  match Output.result e.stdout with
  | .ok v => .ok v
  | .error f => .error (sub.failure.error
      ("prover " ++ sub.name ++ " returned no usable result: " ++ f.message))

def reading {α : Type} (kinds : List FaultKind) (category : Category) (what : String)
    (r : Except Fault α) : Outcome α :=
  match r with
  | .ok a => .ok a
  | .error f =>
    if f.kind ∈ kinds then
      .error (.driver (category.error
        ("prover returned a malformed " ++ what ++ ": " ++ f.message)))
    else .error (.fault f)

def valueKinds : List FaultKind := [.value, .json, .unicode]

def written (category : Category) (what path : String) (e : Exit) : Except DriverError Bytes :=
  match e.out with
  | some data => .ok data
  | none => .error (category.error
      ("prover wrote no " ++ what ++ ": " ++ (OsError.message ⟨.noEntry, path, none⟩)))

def setup (p : Prover.External) (host : Host τ) (env : Environment) :
    Act (Desk (ExternalState τ)) VerifyingKey := do
  match (← get).client.key with
  | some key => pure key
  | none =>
    let exit ← p.run host (p.command env .vkey [] none none)
    let v ← Act.ofDriver (resultOf .vkey exit)
    let key ← Act.ofOutcome (reading (.key :: valueKinds) .proving "vkey" (Output.vkey v))
    modify fun d => { d with client := { d.client with key := some key } }
    pure key

def execute (p : Prover.External) (host : Host τ) (env : Environment) (input : GuestInput) :
    Act (Desk (ExternalState τ)) Execution := do
  let arguments := ["--stdin", host.scratch ++ "/stdin.bin"]
  let exit ← p.run host (p.command env .execute arguments (some input.buffer) none)
  let v ← Act.ofDriver (resultOf .execute exit)
  Act.ofOutcome
    (reading (.key :: .type :: valueKinds) .execution "execution report" (Output.report v))

def prove (p : Prover.External) (host : Host τ) (env : Environment) (input : GuestInput)
    (mode : ProofMode) : Act (Desk (ExternalState τ)) Receipt := do
  if mode = .plonk then
    Act.fail (.driver (Category.proving.error
      "plonk proofs are produced by wrapping, not proving"))
  let vkey ← p.setup host env
  let path := host.scratch ++ "/proof.bin"
  let arguments := ["--stdin", host.scratch ++ "/stdin.bin", "--mode", mode.name, "--out", path]
  let exit ← p.run host (p.command env .prove arguments (some input.buffer) none)
  let v ← Act.ofDriver (resultOf .prove exit)
  let data ← Act.ofDriver (written .proving "proof" path exit)
  let (publicValues, key) ←
    Act.ofOutcome (reading (.key :: valueKinds) .proving "result" (Output.proved v vkey))
  if key ≠ vkey then
    Act.fail (.driver (Category.proving.error
      ("prover proved against " ++ key.bytes32 ++ ", expected " ++ vkey.bytes32)))
  pure ⟨⟨mode, data⟩, publicValues, vkey⟩

def wrap (p : Prover.External) (host : Host τ) (env : Environment) (run : Receipt) :
    Act (Desk (ExternalState τ)) Receipt := do
  if run.proof.mode ≠ .compressed then
    Act.fail (.driver (Category.wrapping.error
      ("only compressed proofs can be wrapped, got " ++ run.proof.mode.name)))
  let path := host.scratch ++ "/plonk.bin"
  let arguments := ["--proof", host.scratch ++ "/compressed.bin", "--public-values",
    Hex.digits run.publicValues, "--out", path]
  let exit ← p.run host (p.command env .wrap arguments none (some run.proof.data))
  let data ← Act.ofDriver (written .wrapping "plonk proof" path exit)
  pure ⟨⟨.plonk, data⟩, run.publicValues, run.vkey⟩

def verify (p : Prover.External) (host : Host τ) (env : Environment) (proof : Proof)
    (publicValues : Bytes) (vkey : VerifyingKey) : Act (Desk (ExternalState τ)) Bool := do
  let arguments := ["--proof", host.scratch ++ "/proof.bin", "--public-values",
    Hex.digits publicValues, "--vkey", vkey.bytes32, "--mode", proof.mode.name]
  let exit ← p.run host (p.command env .verify arguments none (some proof.data))
  if exit.status ≠ 0 then
    Desk.log .debug .external ("verifier rejected proof: " ++ Output.excerpt exit.stderr)
  pure (exit.status == 0)

def client (p : Prover.External) (host : Host τ) (env : Environment) :
    Client (ExternalState τ) where
  sound := !p.dev
  setup := p.setup host env
  execute := p.execute host env
  prove := p.prove host env
  wrap := p.wrap host env
  verify := p.verify host env

end Prover.External

end ProofDriver

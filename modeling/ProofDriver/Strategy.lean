import ProofDriver.Prover.Client
import ProofDriver.Metering.Metered
import ProofDriver.Settings
/-!
# Strategies

How a proof of each mode comes about. Core and compressed proofs take one call of the prover; a
plonk proof is a compressed one that is wrapped, on a machine with memory enough. No call is made
twice.
-/

namespace ProofDriver

namespace Strategy

variable {σ α : Type}

def longRunCycles : Int := 100000000

def warnIfLong (cycles : Int) : Act (World σ) Unit :=
  if longRunCycles < cycles then
    World.log .warning .strategy ("high cycle count (" ++ toString cycles ++
      "), proving will take a long time and a lot of memory")
  else pure ()

def noteLines : List CodeString → Act (World σ) Unit
  | [] => pure ()
  | line :: rest => do
    World.log .debug .strategy ("  " ++ line.toString)
    noteLines rest

def noteTable (title : String) (table : CountTable) : Act (World σ) Unit := do
  if table.isEmpty then pure ()
  else
    World.log .debug .strategy ("execution report (" ++ title ++ "):")
    noteLines (← Act.ofFault table.lines)

def noteExecution (r : Execution) : Act (World σ) Unit := do
  World.log .info .strategy ("execution report (totals): total_cycles=" ++ toString r.cycles)
  noteTable "opcode counts" r.opcodeCounts
  noteTable "syscall counts" r.syscallCounts
  warnIfLong r.cycles

def proveMetered (client : Client σ) (sink : Sink) (input : GuestInput) (mode : ProofMode) :
    Act (World σ) Receipt := do
  let run ← World.metered sink ("prove " ++ mode.name) (World.ask (client.prove input mode))
  World.log .info .strategy ("generated " ++ mode.name ++ " proof (" ++
    toString run.proof.data.length ++ " bytes)")
  pure run

def gigabyte : Nat := 1000000000

def gigabytes : Number → Except Fault Binary64
  | .int n =>
    match Binary64.ofRatio (n < 0) n.natAbs gigabyte with
    | .infinite _ => .error .quotientTooLarge
    | x => .ok x
  | .real x =>
    match x.toRatio? with
    | some (n, d) => .ok (.ofRatio x.isNegative n.natAbs (d * gigabyte))
    | none => .ok x

def gigabyteText (n : Number) : Except Fault String :=
  match n.toDouble? with
  | some x => .ok (x.fixed 0)
  | none => .error .integerTooLarge

/-- Total memory in gigabytes, or a warning that it cannot be read. -/
def memory? : Act (World σ) (Option Binary64) := do
  match (← get).machine.totalMemory with
  | .ok total => return some (← Act.ofFault (gigabytes total))
  | .error f =>
    if World.isSamplingFault f then
      World.log .warning .strategy
        ("cannot read total memory, skipping plonk memory check: " ++ f.message)
      pure none
    else Act.fail (.fault f)

/-- Refuses to wrap on a machine whose memory is at or below the minimum. Clients that prove nothing
need no memory. -/
def requireMemory (client : Client σ) (settings : Settings) : Act (World σ) Unit := do
  if !client.sound then pure ()
  else
    match ← memory? with
    | none => pure ()
    | some total =>
      if (Number.real total).le settings.plonkMinRam then
        let available ← Act.ofFault (gigabyteText (.real total))
        let required ← Act.ofFault (gigabyteText settings.plonkMinRam)
        Act.fail (.driver (Category.exhausted.error (
          "not enough memory to generate plonk proof: " ++ available ++
            "GB available, more than " ++ required ++ "GB required")))
      else pure ()

/-- Errors of the driver that a wrap fails with become errors of wrapping, where they are none and
do not tell of exhaustion. -/
def wrappingFailure : Failure → Failure
  | .driver e =>
    if e.category = .wrapping ∨ e.category = .exhausted then .driver e
    else .driver (Category.wrapping.error ("plonk wrapping failed: " ++ e.message))
  | e => e

def proveWrapped (client : Client σ) (settings : Settings) (sink : Sink) (input : GuestInput) :
    Act (World σ) Receipt := do
  requireMemory client settings
  let compressed ← proveMetered client sink input .compressed
  let result ← Act.attempt (World.metered sink "wrap plonk" (World.ask (client.wrap compressed)))
  let run ← Act.ofOutcome (result.mapError wrappingFailure)
  World.log .info .strategy ("wrapped into plonk proof (" ++
    toString run.proof.data.length ++ " bytes)")
  pure run

def run (mode : ProofMode) (client : Client σ) (settings : Settings) (sink : Sink)
    (input : GuestInput) : Act (World σ) Receipt :=
  match mode with
  | .core => proveMetered client sink input .core
  | .compressed => proveMetered client sink input .compressed
  | .plonk => proveWrapped client settings sink input

end Strategy

end ProofDriver

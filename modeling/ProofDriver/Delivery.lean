import ProofDriver.Fixture
import ProofDriver.Strategy
/-!
# Delivery

From a requested index to a fixture on disk: running the guest for a preview, proving it and
delivering the proof as a fixture, and checking a delivered fixture again. A fixture is written only
after its proof was verified.
-/

namespace ProofDriver

namespace Delivery

variable {σ : Type}

def preview (client : Client σ) (n : Value) : Act (World σ) (Execution × PublicValues) := do
  let input ← Act.ofOutcome (GuestInput.ofValue n)
  let report ← World.ask (client.execute input)
  let values ← Act.ofDriver (PublicValues.decode report.publicValues)
  World.log .info .delivery "program executed successfully"
  World.log .info .delivery ("n: " ++ toString values.n)
  World.log .info .delivery ("a: " ++ toString values.a)
  World.log .info .delivery ("b: " ++ toString values.b)
  Strategy.noteExecution report
  pure (report, values)

def store (fixture : Fixture) (path : Path) : Act (World σ) Unit := do
  World.save path fixture.toValue
  World.log .info .fixture ("wrote " ++ fixture.mode.name ++ " fixture to " ++ path.render)

def rejected (run : Receipt) (mode : ProofMode) : Failure :=
  .driver (Category.verification.error (mode.name ++ " proof " ++
    String.ofList (run.proof.digest.toList.take 16) ++ " does not verify against " ++
    run.vkey.bytes32 ++ ", fixture not written"))

/-- Proves the guest for an index in a mode, has the proof verified and writes the fixture to
`output`, or where the settings keep the fixtures of the mode. -/
def deliver (client : Client σ) (settings : Settings) (sink : Sink) (n mode : Value)
    (output : Option Path) : Act (World σ) (Fixture × Path) := do
  let mode ← Act.ofDriver (ProofMode.ofValue mode)
  let input ← Act.ofOutcome (GuestInput.ofValue n)
  World.log .info .delivery
    ("proving n=" ++ toString input.index ++ " in " ++ mode.name ++ " mode")
  let run ← Strategy.run mode client settings sink input
  if !(← World.ask (client.verify run.proof run.publicValues run.vkey)) then
    Act.fail (rejected run mode)
  World.log .info .delivery "successfully verified proof"
  let dev := !client.sound
  if dev then
    World.log .warning .delivery
      "proof was produced under development settings, fixture is marked dev"
  let fixture ← Act.ofDriver (Fixture.ofProof run.publicValues run.proof run.vkey dev)
  let path := output.getD (settings.fixturePath mode)
  store fixture path
  pure (fixture, path)

def mismatch {α : Type} (text : String) : Act (World σ) α :=
  Act.fail (.driver (Category.verification.error text))

/-- Checks the proof in a fixture file again. `shown` is the path as the caller gave it. -/
def recheck (client : Client σ) (shown : String) : Act (World σ) Fixture := do
  let fixture ← Act.ofOutcome (Fixture.read (← get).disk.files shown)
  let publicValues ← Act.ofFault (fixture.publicValuesData.mapError .hex)
  let values ← Act.ofDriver (PublicValues.decode publicValues)
  if !fixture.agrees values then
    mismatch (shown ++ ": n/a/b fields do not match the encoded public values")
  let vkey ← World.ask client.setup
  if (← Act.ofFault fixture.key) ≠ vkey then
    mismatch (shown ++ ": fixture vkey " ++ fixture.vkey.toString ++ " is not the program vkey " ++
      vkey.bytes32)
  let proof : Proof := ⟨fixture.mode, ← Act.ofFault (fixture.proofData.mapError .hex)⟩
  if !(← World.ask (client.verify proof publicValues vkey)) then
    mismatch (shown ++ ": " ++ fixture.mode.name ++ " proof does not verify")
  if fixture.dev then
    World.log .warning .delivery (shown ++ " was produced under development settings")
  World.log .info .delivery ("fixture " ++ shown ++ " verified")
  pure fixture

end Delivery

end ProofDriver

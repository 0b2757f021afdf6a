import ProofDriver.Cbor
import ProofDriver.Curve.Bn254
import ProofDriver.Hash.Tagged
import ProofDriver.Prover.Client
import ProofDriver.PublicValues
/-!
# The mock prover

Runs the guest's recurrence itself and hands out proofs that only commit to the mode, the key and
the public values. They prove nothing, but the verifier takes no other. A wrapped proof names a
multiple of the generator of the curve; `curve` says where the multiples lie.
-/

namespace ProofDriver

structure Prover.Mock where
  vkey : VerifyingKey
  deriving Repr, DecidableEq

namespace Prover.Mock

def programKey (program : Bytes) : VerifyingKey :=
  ⟨Hash.tagged Hash.Domain.key.tag [program], by simp⟩

def ofProgram (program : Bytes) : Prover.Mock :=
  ⟨programKey program⟩

def builtinProgram : Bytes :=
  "fibonacci-program".toUTF8.toList

def execute (input : GuestInput) : Except DriverError Execution :=
  match GuestInput.parse input.buffer with
  | .error e => .error (Category.execution.error ("guest rejected its input: " ++ e.message))
  | .ok n =>
    let (a, b) := Guest.fibonacci n.toNat
    let count (name : String) (value : Nat) : Value × Value := (.text name, .int value)
    .ok {
      publicValues := PublicValues.encode ⟨n, a, b⟩
      cycles := Guest.cycles n.toNat
      opcodeCounts := [count "ADD" (2 * n.toNat + 8), count "BNE" (n.toNat + 1), count "ECALL" 4,
        count "SW" 16, count "LW" 12]
      syscallCounts := [count "HINT_LEN" 1, count "HINT_READ" 1, count "COMMIT" 1, count "HALT" 1] }

/-- The modes that are proved and not wrapped. -/
inductive EnvelopeMode where
  | core
  | compressed
  deriving Repr, DecidableEq

namespace EnvelopeMode

def mode : EnvelopeMode → ProofMode
  | core => .core
  | compressed => .compressed

def domain : EnvelopeMode → Hash.Domain
  | core => .coreProof
  | compressed => .compressedProof

def shards (m : EnvelopeMode) (n : UInt32) : Nat :=
  match m with
  | core => (Guest.shards (Guest.cycles n.toNat)).toNat
  | compressed => 1

end EnvelopeMode

def field (width n : Nat) : Except Fault Bytes :=
  match Bytes.bigEndian? width n with
  | some bytes => .ok bytes
  | none => .error .integerTooWide

def commitment (m : EnvelopeMode) (vkey : VerifyingKey) (publicValues : Bytes) (shard : Nat) :
    Except Fault Bytes := do
  let index ← field 4 shard
  .ok (Hash.tagged m.domain.tag [vkey.digest, publicValues, index])

def envelopeItem (m : EnvelopeMode) (vkey : VerifyingKey) (commitments : List Bytes) : Cbor :=
  .map [
    (.uint 0, .text m.mode.name),
    (.uint 1, .bytes vkey.digest),
    (.uint 2, .array (commitments.map .bytes))]

def envelope (m : EnvelopeMode) (publicValues : Bytes) (vkey : VerifyingKey) : Outcome Bytes := do
  let values ← DriverError.lift (PublicValues.decode publicValues)
  let commitments ← Fault.lift
    ((List.range (m.shards values.n)).mapM (commitment m vkey publicValues))
  .ok (envelopeItem m vkey commitments).encode

/-- The multiple of the generator that a wrapped proof commits to: a nonzero scalar below its
order. -/
def scalar (publicValues : Bytes) (vkey : VerifyingKey) : Nat :=
  let digest := Hash.tagged Hash.Domain.plonkProof.tag [vkey.digest, publicValues]
  let s := Bytes.ofBigEndian digest % Bn254.groupOrder
  if s = 0 then 1 else s

/-- The wrapped proof: a selector for the key, the point, and the digest of the public values. -/
def plonk (curve : Bn254.Multiples) (publicValues : Bytes) (vkey : VerifyingKey) :
    Outcome Bytes := do
  let _ ← DriverError.lift (PublicValues.decode publicValues)
  let point := curve (scalar publicValues vkey)
  let x ← Fault.lift (field 32 point.1)
  let y ← Fault.lift (field 32 point.2)
  .ok ((Sha256.digest vkey.digest).take 4 ++ x ++ y ++ Sha256.digest publicValues)

def plonkLength : Nat := 100

def hasCurvePoint (data : Bytes) : Bool :=
  data.length == plonkLength &&
    Bn254.satisfiesEquation (Bytes.ofBigEndian ((data.drop 4).take 32))
      (Bytes.ofBigEndian ((data.drop 36).take 32))

def expected (curve : Bn254.Multiples) (mode : ProofMode) (publicValues : Bytes)
    (vkey : VerifyingKey) : Outcome Bytes :=
  match mode with
  | .core => envelope .core publicValues vkey
  | .compressed => envelope .compressed publicValues vkey
  | .plonk => plonk curve publicValues vkey

/-- Ill-formed public values have no proof. Any other failure passes. -/
def check (curve : Bn254.Multiples) (proof : Proof) (publicValues : Bytes) (vkey : VerifyingKey) :
    Outcome Bool :=
  if proof.mode = .plonk ∧ !hasCurvePoint proof.data then .ok false
  else
    match expected curve proof.mode publicValues vkey with
    | .ok data => .ok (proof.data == data)
    | .error (.driver e) => if e.category = .encoding then .ok false else .error (.driver e)
    | .error e => .error e

def verify (proof : Proof) (publicValues : Bytes) (vkey : VerifyingKey) : Bool :=
  match check Bn254.multiples proof publicValues vkey with
  | .ok accepted => accepted
  | .error _ => false

def envelopeMode : ProofMode → Except DriverError EnvelopeMode
  | .core => .ok .core
  | .compressed => .ok .compressed
  | .plonk => .error (Category.proving.error "plonk proofs are produced by wrapping, not proving")

def prove (p : Prover.Mock) (input : GuestInput) (mode : ProofMode) : Outcome Receipt := do
  let m ← DriverError.lift (envelopeMode mode)
  match execute input with
  | .error e =>
    .error (.driver (Category.proving.error ("execution failed while proving: " ++ e.message)))
  | .ok report =>
    let data ← envelope m report.publicValues p.vkey
    .ok ⟨⟨mode, data⟩, report.publicValues, p.vkey⟩

def wrap (curve : Bn254.Multiples) (run : Receipt) : Outcome Receipt := do
  if run.proof.mode ≠ .compressed then
    .error (.driver (Category.wrapping.error
      ("only compressed proofs can be wrapped, got " ++ run.proof.mode.name)))
  if !(← check curve run.proof run.publicValues run.vkey) then
    .error (.driver (Category.wrapping.error
      "refusing to wrap a compressed proof that does not verify"))
  let data ← plonk curve run.publicValues run.vkey
  .ok ⟨⟨.plonk, data⟩, run.publicValues, run.vkey⟩

def clientOn {σ : Type} (curve : Bn254.Multiples) (p : Prover.Mock) : Client σ where
  sound := false
  setup := pure p.vkey
  execute input := Act.ofDriver (execute input)
  prove input mode := Act.ofOutcome (p.prove input mode)
  wrap run := Act.ofOutcome (wrap curve run)
  verify proof publicValues vkey := Act.ofOutcome (check curve proof publicValues vkey)

def client {σ : Type} (p : Prover.Mock) : Client σ :=
  p.clientOn Bn254.multiples

end Prover.Mock

end ProofDriver

import ProofDriver.Guest
import ProofDriver.Journal
import ProofDriver.Proof
/-!
# Prover clients

What the driver asks of a prover. A client answers or fails as it likes, on a state of its own and
with access to the journal, but not to files. `sound` says whether its proofs prove anything.
-/

namespace ProofDriver

structure Client (σ : Type) where
  sound : Bool
  setup : Act (Desk σ) VerifyingKey
  execute : GuestInput → Act (Desk σ) Execution
  prove : GuestInput → ProofMode → Act (Desk σ) Receipt
  wrap : Receipt → Act (Desk σ) Receipt
  verify : Proof → Bytes → VerifyingKey → Act (Desk σ) Bool

inductive Call where
  | setup
  | execute (input : GuestInput)
  | prove (input : GuestInput) (mode : ProofMode)
  | wrap (run : Receipt)
  | verify (proof : Proof) (publicValues : Bytes) (vkey : VerifyingKey)
  deriving Repr, DecidableEq

namespace Client

variable {σ α : Type}

def noting (call : Call) (work : Act (Desk σ) α) : Act (Desk (σ × List Call)) α :=
  fun d =>
    let (r, inner) := work.run ⟨d.client.1, d.journal⟩
    (r, ⟨(inner.client, d.client.2 ++ [call]), inner.journal⟩)

def recorded (c : Client σ) : Client (σ × List Call) where
  sound := c.sound
  setup := noting .setup c.setup
  execute input := noting (.execute input) (c.execute input)
  prove input mode := noting (.prove input mode) (c.prove input mode)
  wrap run := noting (.wrap run) (c.wrap run)
  verify proof publicValues vkey :=
    noting (.verify proof publicValues vkey) (c.verify proof publicValues vkey)

end Client

end ProofDriver

import ProofDriver.Prover.External
import ProofDriver.Prover.Mock
import ProofDriver.Metering.Metered
/-!
# Choosing a prover

The prover that the settings ask for. The mock is keyed to the compiled program if there is one.
-/

namespace ProofDriver

inductive Prover where
  | mock (p : Prover.Mock)
  | external (p : Prover.External)
  deriving Repr, DecidableEq

namespace Prover

variable {σ τ : Type}

def mockOfElf (path : Path) : Act (World σ) Prover.Mock := do
  let files := (← get).disk.files
  if ← Act.ofFault (files.isFile path) then
    pure (Prover.Mock.ofProgram (← Act.ofFault (files.read path)))
  else
    World.log .debug .mock
      ("no program at " ++ path.render ++ ", using the built-in program id")
    pure (Prover.Mock.ofProgram Prover.Mock.builtinProgram)

def ofSettings (s : Settings) : Act (World σ) Prover :=
  match s.backend with
  | .mock => return .mock (← mockOfElf s.elfPath)
  | .host => pure (.external ⟨s.proverPath, s.elfPath, s.dev, s.timeout⟩)

def client (p : Prover) (host : Host τ) (env : Environment) : Client (ExternalState τ) :=
  match p with
  | mock p => p.client
  | external p => p.client host env

end Prover

end ProofDriver

import ProofDriver.FileSystem.Save
import ProofDriver.Journal
import ProofDriver.Metering.Usage
/-!
# The world around the driver

Everything that a run reads and changes: the client's state, the journal, the files, the machine and
the usage reports handed out so far.
-/

namespace ProofDriver

/-- The answers of the machine: a sample for each time one is taken, and the size of its memory. A
machine that has no more samples gives empty ones. -/
structure Machine where
  samples : List (Except Fault Sample) := []
  totalMemory : Except Fault Number := .ok (.int 256000000000)

/-- Everything that a run of the driver reads and changes. -/
structure World (σ : Type) extends Desk σ where
  disk : Disk
  machine : Machine := {}
  reports : List Usage := []

namespace World

variable {σ α : Type}

def log (level : Level) (source : Source) (message : String) : Act (World σ) Unit :=
  modify fun w => { w with journal := w.journal ++ [⟨level, source, message⟩] }

def ask (work : Act (Desk σ) α) : Act (World σ) α :=
  fun w =>
    let (r, desk) := work.run w.toDesk
    (r, { w with toDesk := desk })

def save (path : Path) (v : Value) : Act (World σ) Unit :=
  fun w =>
    let (r, disk) := w.disk.save path v
    (r, { w with disk })

end World

end ProofDriver

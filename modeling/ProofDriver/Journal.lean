import ProofDriver.Failure
/-!
# Work and its journal

Work changes a state and may end in a failure, which leaves the state where it was reached. What
there is to say about the work goes into a journal, each record with its level and the part of the
driver that wrote it.
-/

namespace ProofDriver

inductive Level where
  | debug
  | info
  | warning
  | error
  deriving Repr, DecidableEq

def Level.rank : Level → Nat
  | debug => 10
  | info => 20
  | warning => 30
  | error => 40

def Level.name : Level → String
  | debug => "DEBUG"
  | info => "INFO"
  | warning => "WARNING"
  | error => "ERROR"

inductive Source where
  | commandLine
  | delivery
  | strategy
  | metering
  | fixture
  | external
  | mock
  deriving Repr, DecidableEq

def Source.name : Source → String
  | commandLine => "fibproof.cli"
  | delivery => "fibproof.pipeline"
  | strategy => "fibproof.modes"
  | metering => "fibproof.resources"
  | fixture => "fibproof.fixture"
  | external => "fibproof.prover"
  | mock => "fibproof.mock"

structure Record where
  level : Level
  source : Source
  message : String
  deriving Repr, DecidableEq

abbrev Journal := List Record

def Journal.passing (threshold : Nat) (journal : Journal) : Journal :=
  journal.filter fun r => threshold ≤ r.level.rank

abbrev Act (s α : Type) := ExceptT Failure (StateM s) α

namespace Act

variable {s α : Type}

def ofOutcome (r : Outcome α) : Act s α :=
  fun state => (r, state)

def fail (e : Failure) : Act s α :=
  ofOutcome (.error e)

def ofDriver (r : Except DriverError α) : Act s α :=
  ofOutcome (DriverError.lift r)

def ofFault (r : Except Fault α) : Act s α :=
  ofOutcome (Fault.lift r)

def attempt (work : Act s α) : Act s (Outcome α) :=
  fun state =>
    let (r, state) := work.run state
    (.ok r, state)

end Act

/-- The state of a client and the journal it writes to. -/
structure Desk (σ : Type) where
  client : σ
  journal : Journal := []

def Desk.log {σ : Type} (level : Level) (source : Source) (message : String) : Act (Desk σ) Unit :=
  modify fun d => { d with journal := d.journal ++ [⟨level, source, message⟩] }

end ProofDriver

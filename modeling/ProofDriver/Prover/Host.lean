import ProofDriver.Settings
/-!
# Prover processes

The commands that the driver gives to a prover binary, and how a process can end. Files that are
only there for one command are part of the command: what it reads from them and whether it wrote
one.
-/

namespace ProofDriver

inductive Subcommand where
  | vkey
  | execute
  | prove
  | wrap
  | verify
  deriving Repr, DecidableEq

namespace Subcommand

def name : Subcommand → String
  | vkey => "vkey"
  | execute => "execute"
  | prove => "prove"
  | wrap => "wrap"
  | verify => "verify"

def failure : Subcommand → Category
  | vkey => .proving
  | execute => .execution
  | prove => .proving
  | wrap => .wrapping
  | verify => .verification

end Subcommand

/-- A command line with the contents of the files it names. -/
structure Command where
  subcommand : Subcommand
  arguments : List String
  /-- A status other than zero counts as a failure. -/
  checked : Bool
  timeout : Option Number
  environment : Environment
  stdin : Option Bytes := none
  proof : Option Bytes := none
  deriving Repr, DecidableEq

/-- How a process that ran to its end left off; `out` is the file that it was to write. What it
printed was read as text. -/
structure Exit where
  status : Int := 0
  stdout : String := ""
  stderr : Option String := some ""
  out : Option Bytes := none
  deriving Repr, DecidableEq

/-- A process is not there to be started, or the system refuses to start it. One that was started is
lost where the driver cannot wait for it, as with a time limit that is infinite, not a number or
beyond what the system counts, and where what it printed is no text. -/
inductive ProcessEnd where
  | missing
  | refused (why : OsError) (there : why.errno ≠ .noEntry)
  | lost (why : Fault)
  | timedOut
  | exited (e : Exit)
  deriving Repr, DecidableEq

/-- What starts processes, with whatever state decides how they end. `scratch` is the private
directory of a command. -/
structure Host (τ : Type) where
  scratch : String
  start : Command → τ → ProcessEnd × τ

/-- The statuses of a process that was killed for its use of memory. -/
def killedStatuses : List Int := [-9, 137]

end ProofDriver

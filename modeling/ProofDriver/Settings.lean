import ProofDriver.Failure
import ProofDriver.FileSystem.Path
import ProofDriver.Proof
/-!
# Settings

The driver's settings: defaults, then the variables of an environment, then overrides, each field on
its own.
-/

namespace ProofDriver

/-- Names and values of variables, each name at most once. -/
abbrev Environment := List (String × String)

namespace Environment

def get? (env : Environment) (name : String) : Option String :=
  env.lookup name

def remove (env : Environment) (name : String) : Environment :=
  env.filter fun e => e.1 ≠ name

def set (env : Environment) (name value : String) : Environment :=
  env.remove name ++ [(name, value)]

end Environment

/-- Where proofs come from: a prover binary on this host, or the mock. -/
inductive Backend where
  | host
  | mock
  deriving Repr, DecidableEq

namespace Backend

def all : List Backend := [host, mock]

def name : Backend → String
  | host => "local"
  | mock => "mock"

def ofName? (s : String) : Option Backend :=
  all.find? (·.name == s)

end Backend

structure Settings where
  backend : Backend := .host
  proverPath : Path := Path.ofString "prover/sp1-prover"
  elfPath : Path := Path.ofString "program/elf/riscv32im-succinct-zkvm-elf"
  dev : Bool := false
  fixtureDirectory : Path := Path.ofString "fixtures"
  timeout : Option Number := none
  plonkMinRam : Number := .int 120
  deriving Repr, DecidableEq

namespace Settings

def refuse {α : Type} (text : String) : Except DriverError α :=
  .error ⟨.invalidInput, "config", text⟩

def onWords : List String := ["1", "true", "yes", "on"]

def offWords : List String := ["", "0", "false", "no", "off"]

def readSwitch (name value : String) : Except DriverError Bool :=
  let word := Text.lower (Text.strip value)
  if word ∈ onWords then .ok true
  else if word ∈ offWords then .ok false
  else refuse (name ++ " must be a boolean flag, got " ++ Text.quote value)

def readPositive (name value : String) : Except DriverError Binary64 :=
  match Numeral.readDouble value with
  | none => refuse (name ++ " must be a number, got " ++ Text.quote value)
  | some x =>
    if x.le .zero then refuse (name ++ " must be positive, got " ++ Text.quote value) else .ok x

def backendOf (name : String) : Except DriverError Backend :=
  match Backend.ofName? name with
  | some backend => .ok backend
  | none => refuse ("prover must be one of " ++ ", ".intercalate (Backend.all.map Backend.name) ++
      ", got " ++ Text.quote name)

def readVariable {α : Type} (env : Environment) (name : String)
    (read : String → String → Except DriverError α) : Except DriverError (Option α) :=
  match env.get? name with
  | none => .ok none
  | some value => (read name value).map some

def pathVariable (env : Environment) (name : String) (otherwise : Path) : Path :=
  match env.get? name with
  | none => otherwise
  | some value => Path.ofString value

def backendVariable (env : Environment) : Except DriverError Backend :=
  match env.get? "FIBPROOF_PROVER" with
  | none => .ok .host
  | some value => backendOf (Text.lower (Text.strip value))

/-- The settings of an environment. Of the two variables for development settings the driver's own
counts. -/
def ofEnvironment (env : Environment) : Except DriverError Settings := do
  let defaults : Settings := {}
  let timeout ← readVariable env "FIBPROOF_TIMEOUT" readPositive
  let ram ← readVariable env "FIBPROOF_PLONK_MIN_RAM_GB" readPositive
  let sdkDev ← readVariable env "SP1_DEV" readSwitch
  let ownDev ← readVariable env "FIBPROOF_DEV" readSwitch
  let backend ← backendVariable env
  .ok {
    backend
    proverPath := pathVariable env "FIBPROOF_PROVER_PATH" defaults.proverPath
    elfPath := pathVariable env "FIBPROOF_ELF" defaults.elfPath
    dev := (ownDev.or sdkDev).getD defaults.dev
    fixtureDirectory := pathVariable env "FIBPROOF_FIXTURE_DIR" defaults.fixtureDirectory
    timeout := timeout.map .real
    plonkMinRam := (ram.map .real).getD defaults.plonkMinRam }

structure Overrides where
  backend : Option String := none
  proverPath : Option Path := none
  elfPath : Option Path := none
  dev : Option Bool := none
  fixtureDirectory : Option Path := none
  timeout : Option Number := none
  plonkMinRam : Option Number := none
  deriving Repr, DecidableEq

def replace (s : Settings) (o : Overrides) : Except DriverError Settings := do
  let backend ← match o.backend with
    | none => .ok s.backend
    | some name => backendOf name
  .ok {
    backend
    proverPath := o.proverPath.getD s.proverPath
    elfPath := o.elfPath.getD s.elfPath
    dev := o.dev.getD s.dev
    fixtureDirectory := o.fixtureDirectory.getD s.fixtureDirectory
    timeout := o.timeout.or s.timeout
    plonkMinRam := o.plonkMinRam.getD s.plonkMinRam }

def fixturePath (s : Settings) (mode : ProofMode) : Path :=
  s.fixtureDirectory.child (mode.name ++ "-fixture.json")

end Settings

end ProofDriver

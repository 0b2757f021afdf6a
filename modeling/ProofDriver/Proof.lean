import ProofDriver.CountTable
import ProofDriver.Failure
import ProofDriver.Hash.Sha256
/-!
# Proofs

Proof modes, proofs, verifying keys and what executing and proving the guest program yield.
-/

namespace ProofDriver

inductive ProofMode where
  | core
  | compressed
  | plonk
  deriving Repr, DecidableEq

namespace ProofMode

def all : List ProofMode := [core, compressed, plonk]

def name : ProofMode → String
  | core => "core"
  | compressed => "compressed"
  | plonk => "plonk"

def ofName? (s : String) : Option ProofMode :=
  all.find? (·.name == s)

/-- A mode may be written in either case and between blanks. -/
def ofText (s : CodeString) : Except DriverError ProofMode :=
  match ofName? (Text.lower (Text.strip s.toString)) with
  | some mode => .ok mode
  | none => .error (Category.unknownMode.error
      ("unknown proof mode " ++ Text.quote s ++ ", expected one of " ++
        ", ".intercalate (all.map name)))

def ofValue : Value → Except DriverError ProofMode
  | .text s => ofText s
  | v => .error (Category.unknownMode.error ("proof mode must be a string, got " ++ v.typeName))

@[simp] theorem ofName?_name (mode : ProofMode) : ofName? mode.name = some mode := by
  cases mode <;> decide

end ProofMode

structure Proof where
  mode : ProofMode
  data : Bytes
  deriving Repr, DecidableEq

def Proof.digest (p : Proof) : String :=
  Hex.digits (Sha256.digest p.data)

structure VerifyingKey where
  digest : Bytes
  length_digest : digest.length = 32
  deriving Repr, DecidableEq

namespace VerifyingKey

def ofBytes (digest : Bytes) : Except Fault VerifyingKey :=
  if h : digest.length = 32 then .ok ⟨digest, h⟩ else .error (.keyLength digest.length)

def ofHex (v : Value) : Except Fault VerifyingKey :=
  match Hex.decodeValue v with
  | .ok digest => ofBytes digest
  | .error f => .error (.hex f)

def bytes32 (k : VerifyingKey) : String :=
  Hex.encode k.digest

end VerifyingKey

/-- A proof together with the public values and the key it was made for. -/
structure Receipt where
  proof : Proof
  publicValues : Bytes
  vkey : VerifyingKey
  deriving Repr, DecidableEq

structure Execution where
  publicValues : Bytes
  cycles : Int
  opcodeCounts : CountTable := []
  syscallCounts : CountTable := []
  deriving Repr

end ProofDriver

import ProofDriver.FileSystem.Save
import ProofDriver.Proof
import ProofDriver.PublicValues
/-!
# Fixtures

The document that contract tests read: a proof, its public values and key as hexadecimal texts, and
the decoded public values beside them for human readers.
-/

namespace ProofDriver

/-- The version of the format is one, in any of the three ways to write one. -/
inductive FixtureVersion where
  | integer
  | truth
  | real
  deriving Repr, DecidableEq

namespace FixtureVersion

def toValue : FixtureVersion → Value
  | integer => .int 1
  | truth => .bool true
  | real => .real (.finite false Binary64.leastNormal (-52))

def ofValue? (v : Value) : Option FixtureVersion :=
  match v, v.number? with
  | .int _, some (.int 1) => some integer
  | .bool _, some (.int 1) => some truth
  | .real x, _ => if Number.compare? (.int 1) (.real x) = some .eq then some real else none
  | _, _ => none

end FixtureVersion

structure Fixture where
  mode : ProofMode
  n : Int
  a : Int
  b : Int
  vkey : CodeString
  publicValues : CodeString
  proof : CodeString
  dev : Bool := false
  version : FixtureVersion := .integer
  deriving Repr, DecidableEq

namespace Fixture

def key (f : Fixture) : Except Fault VerifyingKey :=
  VerifyingKey.ofHex (.text f.vkey)

def publicValuesData (f : Fixture) : Except HexFault Bytes :=
  Hex.decode f.publicValues

def proofData (f : Fixture) : Except HexFault Bytes :=
  Hex.decode f.proof

def agrees (f : Fixture) (v : PublicValues) : Bool :=
  f.n == v.n.toNat && f.a == v.a.toNat && f.b == v.b.toNat

def toFields (f : Fixture) : Fields := [
  ("version", f.version.toValue),
  ("mode", .text f.mode.name),
  ("dev", .bool f.dev),
  ("n", .int f.n),
  ("a", .int f.a),
  ("b", .int f.b),
  ("vkey", .text f.vkey),
  ("publicValues", .text f.publicValues),
  ("proof", .text f.proof)]

def toValue (f : Fixture) : Value :=
  .object f.toFields

/-- The fixture of a verified proof. The public values are decoded for their shape and for the
readable fields. -/
def ofEncoded (abi : Abi) (publicValues : Bytes) (proof : Proof) (vkey : VerifyingKey)
    (dev : Bool) : Except DriverError Fixture := do
  let values ← PublicValues.decodeBy abi publicValues
  .ok {
    mode := proof.mode
    n := values.n.toNat
    a := values.a.toNat
    b := values.b.toNat
    vkey := vkey.bytes32
    publicValues := Hex.encode publicValues
    proof := Hex.encode proof.data
    dev }

def ofProof (publicValues : Bytes) (proof : Proof) (vkey : VerifyingKey) (dev : Bool) :
    Except DriverError Fixture :=
  ofEncoded .padded publicValues proof vkey dev

def ofGiven (abi : Abi) (given : PublicValues.Given) (proof : Proof) (vkey : VerifyingKey)
    (dev : Bool) : Outcome Fixture := do
  DriverError.lift (ofEncoded abi (← given.data abi) proof vkey dev)

def requiredFields : List String :=
  ["version", "mode", "vkey", "publicValues", "proof", "n", "a", "b"]

def refuse {α : Type} (text : String) : Outcome α :=
  .error (.driver (Category.encoding.error text))

def field (fields : Fields) (name : String) : Value :=
  (fields.get? name).getD .null

/-- A field that holds bytes as a hexadecimal text, with the text as it stands. -/
def hexField (fields : Fields) (name : String) : Outcome (CodeString × Bytes) :=
  match field fields name with
  | .text s =>
    match Hex.decode s with
    | .ok data => .ok (s, data)
    | .error f => refuse ("fixture field " ++ Text.quote name ++ " is not hex: " ++ f.message)
  | v => refuse ("fixture field " ++ Text.quote name ++ " is not hex: " ++
      (HexFault.notText v.typeName).message)

def intField (fields : Fields) (name : String) : Outcome Int :=
  match field fields name with
  | .int n => .ok n
  | v => .error (Category.encoding.about v fun shown =>
      "fixture field " ++ Text.quote name ++ " must be an integer, got " ++ shown)

def devField (fields : Fields) : Outcome Bool :=
  match fields.get? "dev" with
  | none => .ok false
  | some (.bool dev) => .ok dev
  | some v =>
    .error (Category.encoding.about v ("fixture field 'dev' must be a boolean, got " ++ ·))

def versionField (fields : Fields) : Outcome FixtureVersion :=
  let v := field fields "version"
  match FixtureVersion.ofValue? v with
  | some version => .ok version
  | none => .error (Category.encoding.about v fun shown =>
      "unsupported fixture version " ++ shown ++ ", expected 1")

def ofFields (fields : Fields) : Outcome Fixture := do
  let missing := requiredFields.filter fun (name : String) => (fields.get? name).isNone
  if missing ≠ [] then refuse ("fixture is missing fields: " ++ ", ".intercalate missing)
  let version ← versionField fields
  let (vkey, key) ← hexField fields "vkey"
  let (publicValues, _) ← hexField fields "publicValues"
  let (proof, _) ← hexField fields "proof"
  if key.length ≠ 32 then refuse "fixture field 'vkey' must be a bytes32 digest"
  let mode ← DriverError.lift (ProofMode.ofValue (field fields "mode"))
  let n ← intField fields "n"
  let a ← intField fields "a"
  let b ← intField fields "b"
  let dev ← devField fields
  .ok { mode, n, a, b, vkey, publicValues, proof, dev, version }

def ofValue : Value → Outcome Fixture
  | .object fields => ofFields fields
  | v => refuse ("fixture must be a JSON object, got " ++ v.typeName)

def read (fs : FileSystem) (shown : String) : Outcome Fixture :=
  match Disk.load fs (Path.ofString shown) with
  | .ok v => ofValue v
  | .error (.fault (.json e)) =>
    .error (.driver ⟨.encoding, "read", shown ++ " is not valid JSON: " ++ e.message⟩)
  | .error e => .error e

end Fixture

end ProofDriver

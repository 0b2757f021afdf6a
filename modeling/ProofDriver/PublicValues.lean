import ProofDriver.Failure
/-!
# Public values

The index and the two results that the guest commits to, encoded for a contract as three words of 32
bytes, most significant byte first. Only the encoding itself is taken back.
-/

namespace ProofDriver

/-- A codec of three unsigned numbers of 32 bits. It says in a text what it refuses. -/
structure Abi where
  encode : UInt32 × UInt32 × UInt32 → Except String Bytes
  decode : Bytes → Except String (UInt32 × UInt32 × UInt32)

structure PublicValues where
  n : UInt32
  a : UInt32
  b : UInt32
  deriving Repr, DecidableEq

namespace PublicValues

def word (x : UInt32) : Bytes :=
  Bytes.bigEndian 32 x.toNat

def encode (v : PublicValues) : Bytes :=
  word v.n ++ word v.a ++ word v.b

def encodedLength : Nat := 96

def fieldOfValue (name : String) (v : Value) : Outcome UInt32 :=
  let refusal := Category.encoding.about v fun shown =>
    "public value " ++ name ++ "=" ++ shown ++ " does not fit in uint32"
  match v with
  | .int n => if 0 ≤ n ∧ n < UInt32.size then .ok (UInt32.ofNat n.toNat) else .error refusal
  | _ => .error refusal

def ofValues (n a b : Value) : Outcome PublicValues := do
  let n ← fieldOfValue "n" n
  let a ← fieldOfValue "a" a
  let b ← fieldOfValue "b" b
  .ok ⟨n, a, b⟩

def decodeWord (bytes : Bytes) : Except String UInt32 :=
  let padding := bytes.take 28
  if padding.all (· == 0) then .ok (UInt32.ofNat (Bytes.ofBigEndian (bytes.drop 28)))
  else .error ("Padding bytes were not empty: " ++ Text.quoteBytes padding)

end PublicValues

/-- What `eth_abi` documents for three `uint32`: the numbers one after the other, each in a word of
its own, and a strict decoder, which refuses a word with anything but zeros before its number. -/
def Abi.padded : Abi where
  encode := fun (x, y, z) =>
    .ok (PublicValues.word x ++ PublicValues.word y ++ PublicValues.word z)
  decode data := do
    let x ← PublicValues.decodeWord (data.take 32)
    let y ← PublicValues.decodeWord ((data.drop 32).take 32)
    let z ← PublicValues.decodeWord (data.drop 64)
    .ok (x, y, z)

namespace PublicValues

def encodeBy (abi : Abi) (v : PublicValues) : Except DriverError Bytes :=
  match abi.encode (v.n, v.a, v.b) with
  | .ok data => .ok data
  | .error text => .error (Category.encoding.error ("cannot ABI encode public values: " ++ text))

def encodeValues (abi : Abi) (n a b : Value) : Outcome Bytes := do
  DriverError.lift (encodeBy abi (← ofValues n a b))

def decodeBy (abi : Abi) (data : Bytes) : Except DriverError PublicValues :=
  if data.length = encodedLength then
    match abi.decode data with
    | .ok (n, a, b) => .ok ⟨n, a, b⟩
    | .error text => .error (Category.encoding.error
        ("public values are not (uint32,uint32,uint32): " ++ text))
  else .error (Category.encoding.error
    ("public values must be 96 bytes, got " ++ toString data.length))

def decode (data : Bytes) : Except DriverError PublicValues :=
  decodeBy .padded data

/-- Public values as a caller has them: their encoding, or the three values. -/
inductive Given where
  | encoded (data : Bytes)
  | record (n a b : Value)

def Given.data (abi : Abi) : Given → Outcome Bytes
  | encoded data => .ok data
  | record n a b => encodeValues abi n a b

end PublicValues

end ProofDriver

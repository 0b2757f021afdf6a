import ProofDriver.Failure
/-!
# The guest program

The program that is proved reads an index from four bytes and steps the Fibonacci recurrence that
often in words of 32 bits. Its result is reached by doubling, so that every index is cheap.
-/

namespace ProofDriver

/-- The buffer that the guest reads. -/
structure GuestInput where
  buffer : Bytes
  deriving Repr, DecidableEq

namespace GuestInput

def index (input : GuestInput) : Nat :=
  Bytes.ofLittleEndian input.buffer

def ofIndex (n : UInt32) : GuestInput :=
  ⟨Bytes.littleEndian 4 n.toNat⟩

def ofValue : Value → Outcome GuestInput
  | .int n =>
    if 0 ≤ n ∧ n < UInt32.size then .ok (ofIndex (UInt32.ofNat n.toNat))
    else .error (Category.invalidInput.about (.int n) ("n must fit in u32, got " ++ ·))
  | v => .error (.driver (Category.invalidInput.error
      ("n must be an unsigned integer, got " ++ v.typeName)))

def parse (buffer : Bytes) : Except DriverError UInt32 :=
  if buffer.length = 4 then .ok (UInt32.ofNat (Bytes.ofLittleEndian buffer))
  else .error (Category.invalidInput.error
    ("guest input must be 4 bytes, got " ++ toString buffer.length))

end GuestInput

namespace Guest

def step (pair : UInt32 × UInt32) : UInt32 × UInt32 :=
  (pair.2, pair.1 + pair.2)

def recurrence : Nat → UInt32 × UInt32
  | 0 => (0, 1)
  | n + 1 => step (recurrence n)

def double (pair : UInt32 × UInt32) : UInt32 × UInt32 :=
  (pair.1 * (2 * pair.2 - pair.1), pair.1 * pair.1 + pair.2 * pair.2)

/-- The pair at an index: that at half of it doubled, and stepped once more for an odd one. -/
def fibonacci (n : Nat) : UInt32 × UInt32 :=
  if n = 0 then (0, 1)
  else
    let pair := double (fibonacci (n / 2))
    if n % 2 = 1 then step pair else pair
termination_by n
decreasing_by omega

def fibonacciInt (n : Int) : UInt32 × UInt32 :=
  fibonacci n.natAbs

def cycles (n : Int) : Int :=
  1024 + 8 * n

def shardCapacity : Int := 4194304

/-- How many shards the cycles fill, the last perhaps in part, and at least one. -/
def shards (cycles : Int) : Int :=
  max 1 (-(Int.fdiv (-cycles) shardCapacity))

end Guest

end ProofDriver

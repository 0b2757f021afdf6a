/-!
# Double precision numbers

A double is a sign, a significand and a power of two, an infinity or not a number. Arithmetic is
exact on fractions and is rounded once at the end, to the nearest double and to the even significand
when two are equally near.
-/

namespace ProofDriver

/-- `finite s m e` is `m * 2 ^ e`, negated if `s`. Zero has two signs. -/
inductive Binary64 where
  | finite (negative : Bool) (significand : Nat) (exponent : Int)
  | infinite (negative : Bool)
  | nan
  deriving Repr, DecidableEq

namespace Binary64

def minExponent : Int := -1074

def maxExponent : Int := 971

def leastNormal : Nat := 4503599627370496

def zero : Binary64 := .finite false 0 minExponent

instance : Inhabited Binary64 := ⟨zero⟩

def scaled (n : Nat) (e : Int) : Nat × Nat :=
  (n * Nat.pow 2 e.toNat, Nat.pow 2 (-e).toNat)

def roundDiv (num den : Nat) : Nat :=
  let q := num / den
  let r := num % den
  if 2 * r < den then q
  else if den < 2 * r then q + 1
  else q + q % 2

/-- The exponent at which `num / den` has a significand of 53 bits, but at least the smallest. -/
def roundingExponent (num den : Nat) : Int :=
  let guess : Int := (num.log2 : Int) - den.log2 - 52
  let (n, d) := scaled num (-guess)
  max minExponent (if n < leastNormal * (den * d) then guess - 1 else guess)

def ofRatio (negative : Bool) (num den : Nat) : Binary64 :=
  if num = 0 then .finite negative 0 minExponent
  else
    let e := roundingExponent num den
    let (n, d) := scaled num (-e)
    let m := roundDiv n (den * d)
    let (m, e) := if m = 2 * leastNormal then (leastNormal, e + 1) else (m, e)
    if maxExponent < e then .infinite negative else .finite negative m e

def ofInt (n : Int) : Binary64 :=
  ofRatio (n < 0) n.natAbs 1

def toRatio? : Binary64 → Option (Int × Nat)
  | .finite s m e =>
    let (n, d) := scaled m e
    some (if s then -(n : Int) else n, d)
  | _ => none

def isNegative : Binary64 → Bool
  | .finite s _ _ => s
  | .infinite s => s
  | .nan => false

def neg : Binary64 → Binary64
  | .finite s m e => .finite (!s) m e
  | .infinite s => .infinite (!s)
  | .nan => .nan

/-- A sum of two finite doubles is exact before it is rounded. A sum that is zero is negative only
if both terms are. -/
def add : Binary64 → Binary64 → Binary64
  | .nan, _ => .nan
  | _, .nan => .nan
  | .infinite s, .infinite t => if s = t then .infinite s else .nan
  | .infinite s, _ => .infinite s
  | _, .infinite t => .infinite t
  | .finite s m e, .finite t n f =>
    let low := min e f
    let a : Int := (m * Nat.pow 2 (e - low).toNat : Nat)
    let b : Int := (n * Nat.pow 2 (f - low).toNat : Nat)
    let sum := (if s then -a else a) + (if t then -b else b)
    if sum = 0 then .finite (s && t) 0 minExponent
    else
      let (num, den) := scaled sum.natAbs low
      ofRatio (sum < 0) num den

def sub (x y : Binary64) : Binary64 :=
  x.add y.neg

def compareRatio (num : Int) (den : Nat) : Binary64 → Option Ordering
  | .nan => none
  | .infinite s => some (if s then .gt else .lt)
  | .finite s m e =>
    let (n, d) := scaled m e
    let n : Int := if s then -(n : Int) else n
    some (compare (num * d) (n * den))

def compare? (x y : Binary64) : Option Ordering :=
  match x with
  | .nan => none
  | .infinite s =>
    match y with
    | .nan => none
    | .infinite t => some (compare t s)
    | .finite .. => some (if s then .lt else .gt)
  | .finite s m e =>
    let (n, d) := scaled m e
    compareRatio (if s then -(n : Int) else n) d y

def lt (x y : Binary64) : Bool := x.compare? y == some .lt

def le (x y : Binary64) : Bool := x.compare? y == some .lt || x.compare? y == some .eq

def truncate? (x : Binary64) : Option Int :=
  x.toRatio?.map fun (n, d) => n.tdiv d

end Binary64

end ProofDriver

/-!
# The curve BN254

The points of y² = x³ + 3 over the field of 254 bits, in affine coordinates, with the chord and
tangent law. A pair of coordinates off the curve names no point, so every point that is not infinity
lies on it.
-/

namespace ProofDriver.Bn254

def fieldOrder : Nat :=
  21888242871839275222246405745257275088696311157297823662689037894645226208583

def groupOrder : Nat :=
  21888242871839275222246405745257275088548364400416034343698204186575808495617

def satisfiesEquation (x y : Nat) : Bool :=
  y * y % fieldOrder == (x * x % fieldOrder * x + 3) % fieldOrder

def OnCurve (x y : Nat) : Prop :=
  x < fieldOrder ∧ y < fieldOrder ∧ satisfiesEquation x y = true

instance (x y : Nat) : Decidable (OnCurve x y) :=
  inferInstanceAs (Decidable (_ ∧ _ ∧ _))

/-- The bits of a number below 2 to the 256th, from the highest down, as a loop that doubles and
adds. -/
def doubleAndAdd {α : Type} (zero : α) (double add : α → α) (n : Nat) : α :=
  (List.range 256).foldr (fun i acc => if n.testBit i then add (double acc) else double acc) zero

def power (x n : Nat) : Nat :=
  doubleAndAdd 1 (fun a => a * a % fieldOrder) (fun a => a * x % fieldOrder) n

def inverse (x : Nat) : Nat :=
  power (x % fieldOrder) (fieldOrder - 2)

def minus (x y : Nat) : Nat :=
  (x + (fieldOrder - y % fieldOrder)) % fieldOrder

inductive Point where
  | infinity
  | affine (x y : Nat) (onCurve : OnCurve x y)

namespace Point

def ofCoordinates (x y : Nat) : Point :=
  if h : OnCurve x y then .affine x y h else .infinity

/-- The third point of the line with this slope through two points with these coordinates,
reflected. -/
def alongLine (slope x₁ y₁ x₂ : Nat) : Point :=
  let x := minus (minus (slope * slope) x₁) x₂
  ofCoordinates x (minus (slope * minus x₁ x) y₁)

def double : Point → Point
  | infinity => infinity
  | affine x y _ =>
    if y = 0 then infinity
    else alongLine (3 * (x * x % fieldOrder) * inverse (2 * y) % fieldOrder) x y x

def add : Point → Point → Point
  | infinity, q => q
  | p, infinity => p
  | affine x₁ y₁ h₁, affine x₂ y₂ _ =>
    if x₁ = x₂ then
      if y₁ = y₂ then double (affine x₁ y₁ h₁) else infinity
    else alongLine (minus y₂ y₁ * inverse (minus x₂ x₁) % fieldOrder) x₁ y₁ x₂

def generator : Point :=
  affine 1 2 (by decide)

def multiply (p : Point) (n : Nat) : Point :=
  doubleAndAdd infinity double (add · p) n

end Point

abbrev Multiples := Nat → Nat × Nat

/-- The multiples of the generator that `py_ecc` documents for the optimized curve, by the chord and
tangent law. No nonzero scalar below the order leads to infinity, for which the generator stands. -/
def multiples : Multiples := fun s =>
  match Point.generator.multiply s with
  | .affine x y _ => (x, y)
  | .infinity => (1, 2)

end ProofDriver.Bn254

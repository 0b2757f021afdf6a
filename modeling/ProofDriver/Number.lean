import ProofDriver.Number.Shortest
/-!
# Numbers

An integer of any size or a double. The two kinds compare by their exact values.
-/

namespace ProofDriver

inductive Number where
  | int (n : Int)
  | real (x : Binary64)
  deriving Repr, DecidableEq

namespace Number

def neg : Number → Number
  | int n => int (-n)
  | real x => real x.neg

def compare? : Number → Number → Option Ordering
  | int m, int n => some (compare m n)
  | int m, real y => Binary64.compareRatio m 1 y
  | real x, int n => (Binary64.compareRatio n 1 x).map Ordering.swap
  | real x, real y => x.compare? y

def lt (a b : Number) : Bool :=
  a.compare? b == some .lt

def le (a b : Number) : Bool :=
  a.compare? b == some .lt || a.compare? b == some .eq

def isNan : Number → Bool
  | real .nan => true
  | _ => false

/-- The nearest double; an integer beyond the largest double has none. -/
def toDouble? : Number → Option Binary64
  | real x => some x
  | int n =>
    match Binary64.ofInt n with
    | .infinite _ => none
    | x => some x

def render : Number → String
  | int n => toString n
  | real x => x.render

end Number

end ProofDriver

import ProofDriver.Number.Binary64
/-!
# Shortest decimals

The text of a double has the fewest significant digits that read back as the same double and, of the
decimals with that many digits, the nearest to it. It is written in positions from 0.0001 up to, but
not including, 10 to the 16th, and with an exponent of at least two digits outside that range.
-/

namespace ProofDriver

namespace Binary64

/-- `digits * 10 ^ exponent`. -/
structure Decimal where
  digits : Nat
  exponent : Int
  deriving Repr, DecidableEq

def Decimal.toDouble (d : Decimal) : Binary64 :=
  ofRatio false (d.digits * Nat.pow 10 d.exponent.toNat) (Nat.pow 10 (-d.exponent).toNat)

/-- The greatest `k` with `10 ^ k ≤ num / den`, found by counting from a first estimate that is
never too large. -/
def decimalExponent (num den : Nat) : Int :=
  let estimate : Int := ((num.log2 : Int) - den.log2 - 1) * 30103 / 100000 - 1
  let reached (k : Int) : Bool := den * Nat.pow 10 k.toNat ≤ num * Nat.pow 10 (-k).toNat
  (List.range 4).foldl (fun k _ => if reached (k + 1) then k + 1 else k) estimate

/-- The two neighbours of `num / den` among the multiples of `10 ^ k`, the nearer first; of two
equally near ones the even first. -/
def neighbours (num den : Nat) (k : Int) : List Decimal :=
  let n := num * Nat.pow 10 (-k).toNat
  let d := den * Nat.pow 10 k.toNat
  let low := n / d
  let r := n % d
  if 2 * r < d ∨ (2 * r = d ∧ low % 2 = 0) then [⟨low, k⟩, ⟨low + 1, k⟩]
  else [⟨low + 1, k⟩, ⟨low, k⟩]

/-- The shortest decimal that reads back as `m * 2 ^ e`, for `m` not zero. -/
def shortest (m : Nat) (e : Int) : Decimal :=
  let (num, den) := scaled m e
  let top := decimalExponent num den
  let attempts := (List.range 17).flatMap fun i => neighbours num den (top - (i : Nat))
  match attempts.find? fun d => decide (d.toDouble = ofRatio false num den) with
  | some d => d
  | none => ⟨m, e⟩

def digitTexts (n : Nat) : List Char :=
  Nat.toDigits 10 n

/-- The digits without the zeros at their end, and the position of the point counted from the first
digit. -/
def Decimal.normal (d : Decimal) : List Char × Int :=
  let cs := digitTexts d.digits
  ((cs.reverse.dropWhile (· == '0')).reverse, cs.length + d.exponent)

def positional (cs : List Char) (point : Int) : List Char :=
  if point ≤ 0 then '0' :: '.' :: List.replicate (-point).toNat '0' ++ cs
  else if cs.length ≤ point.toNat then
    cs ++ List.replicate (point.toNat - cs.length) '0' ++ ['.', '0']
  else cs.take point.toNat ++ '.' :: cs.drop point.toNat

def scientific (cs : List Char) (exponent : Int) : List Char :=
  let mantissa := match cs with
    | [] => []
    | [c] => [c]
    | c :: rest => c :: '.' :: rest
  let size := digitTexts exponent.natAbs
  let size := if size.length < 2 then '0' :: size else size
  mantissa ++ 'e' :: (if exponent < 0 then '-' else '+') :: size

def render : Binary64 → String
  | .nan => "nan"
  | .infinite s => if s then "-inf" else "inf"
  | .finite s m e =>
    let sign := if s then ['-'] else []
    if m = 0 then String.ofList (sign ++ ['0', '.', '0'])
    else
      let (cs, point) := (shortest m e).normal
      let body :=
        if -4 < point ∧ point ≤ 16 then positional cs point else scientific cs (point - 1)
      String.ofList (sign ++ body)

end Binary64

end ProofDriver

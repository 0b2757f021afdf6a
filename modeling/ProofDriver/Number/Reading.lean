import ProofDriver.Number.Binary64
import ProofDriver.Text.Blank
import ProofDriver.Text.Digit
/-!
# Numbers in texts

Integers and doubles as people type them: blanks around the number, a sign, digits of any script and
single underscores between digits. Doubles also have the spellings of infinity and not-a-number.
-/

namespace ProofDriver

namespace Numeral

/-- Integers of more digits than this are neither read nor written. -/
def digitLimit : Nat := 4300

def isShort (n : Int) : Bool :=
  (Nat.toDigits 10 n.natAbs).length ≤ digitLimit

theorem isShort_iff {n : Int} :
    isShort n = true ↔ (Nat.toDigits 10 n.natAbs).length ≤ digitLimit :=
  decide_eq_true_iff

/-- What numbers may be surrounded by: blanks, the information separators excepted. -/
def isSpace (c : Char) : Bool :=
  Text.isBlank c && !(0x1c ≤ c.toNat && c.toNat ≤ 0x1f)

def trimSpace (cs : List Char) : List Char :=
  ((cs.dropWhile isSpace).reverse.dropWhile isSpace).reverse

def isDigit (c : Char) : Bool :=
  (Text.digitValue? c).isSome

def takeSign : List Char → Bool × List Char
  | '-' :: rest => (true, rest)
  | '+' :: rest => (false, rest)
  | cs => (false, cs)

def takeDigits (cs : List Char) : List Nat × List Char :=
  ((cs.takeWhile isDigit).filterMap Text.digitValue?, cs.dropWhile isDigit)

/-- Takes the underscores out, each of which has to have a digit on either side. -/
def dropUnderscores (cs : List Char) : Option (List Char) :=
  go false [] cs
where
  go (afterDigit : Bool) (done : List Char) : List Char → Option (List Char)
    | [] => some done.reverse
    | '_' :: d :: rest => if afterDigit && isDigit d then go true (d :: done) rest else none
    | c :: rest => if c = '_' then none else go (isDigit c) (c :: done) rest

inductive IntFault where
  | malformed
  | tooManyDigits (count : Nat)
  deriving Repr, DecidableEq

/-- The integer that a text writes. The count of its digits is looked at before what follows them.
-/
def readInt (s : String) : Except IntFault Int :=
  let (negative, body) := takeSign (trimSpace s.toList)
  let run := body.takeWhile fun c => isDigit c || c == '_'
  match dropUnderscores run with
  | none => .error .malformed
  | some digits =>
    if digitLimit < digits.length then .error (.tooManyDigits digits.length)
    else if digits.isEmpty || run.length != body.length then .error .malformed
    else
      let n := Text.ofDigits (digits.filterMap Text.digitValue?)
      .ok (if negative then -(n : Int) else n)

/-- The double nearest to `digits * 10 ^ exponent`. Exponents that no double comes near are not
raised. -/
def ofDecimal (negative : Bool) (digits : Nat) (exponent : Int) : Binary64 :=
  let size : Int := (digits.log2 : Int) / 4 + exponent
  if digits = 0 then .finite negative 0 Binary64.minExponent
  else if 400 < size then .infinite negative
  else if (digits.log2 : Int) + 1 + exponent < -400 then .finite negative 0 Binary64.minExponent
  else .ofRatio negative (digits * Nat.pow 10 exponent.toNat) (Nat.pow 10 (-exponent).toNat)

def takeExponent (cs : List Char) : Int × List Char :=
  match cs with
  | c :: rest =>
    if c = 'e' ∨ c = 'E' then
      let (negative, body) := takeSign rest
      match takeDigits body with
      | ([], _) => (0, cs)
      | (ds, rest) =>
        let n := Text.ofDigits ds
        (if negative then -(n : Int) else n, rest)
    else (0, cs)
  | [] => (0, [])

def takeFraction : List Char → List Nat × List Char
  | '.' :: rest => takeDigits rest
  | cs => ([], cs)

def readDecimal (negative : Bool) (cs : List Char) : Option Binary64 :=
  let (whole, rest) := takeDigits cs
  let (fraction, rest) := takeFraction rest
  let (exponent, rest) := takeExponent rest
  if (whole.isEmpty && fraction.isEmpty) || !rest.isEmpty then none
  else some (ofDecimal negative (Text.ofDigits (whole ++ fraction)) (exponent - fraction.length))

def readDouble (s : String) : Option Binary64 := do
  let (negative, body) := takeSign (← dropUnderscores (trimSpace s.toList))
  let word := String.ofList (body.map Char.toLower)
  if word = "inf" ∨ word = "infinity" then some (.infinite negative)
  else if word = "nan" then some .nan
  else readDecimal negative body

end Numeral

end ProofDriver

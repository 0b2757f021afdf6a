import ProofDriver.Number.Shortest
/-!
# Fixed places

A number with a fixed count of decimal places, rounded from its exact value; a half goes to the even
digit. The sign of a negative number stays when all its digits are zero.
-/

namespace ProofDriver

namespace Binary64

def fixedDigits (num den places : Nat) : List Char :=
  let cs := digitTexts (roundDiv (num * Nat.pow 10 places) den)
  let cs := List.replicate (places + 1 - cs.length) '0' ++ cs
  let whole := cs.take (cs.length - places)
  if places = 0 then whole else whole ++ '.' :: cs.drop (cs.length - places)

def fixed (places : Nat) (x : Binary64) (plus : Bool := false) : String :=
  let sign := if x.isNegative then ['-'] else if plus then ['+'] else []
  match x with
  | .nan => String.ofList (sign ++ ['n', 'a', 'n'])
  | .infinite _ => String.ofList (sign ++ ['i', 'n', 'f'])
  | .finite _ m e =>
    let (num, den) := scaled m e
    String.ofList (sign ++ fixedDigits num den places)

end Binary64

end ProofDriver

import ProofDriver.Bytes
import ProofDriver.Value
import ProofDriver.Text.Blank
import ProofDriver.Text.LowerCase
/-!
# Hexadecimal texts

Bytes are written in lower case behind `0x`. Reading takes either case, the mark or none, and blanks
between the digit pairs, and tells the position of what it does not take, counted after the mark.
-/

namespace ProofDriver

inductive HexFault where
  | notText (typeName : String)
  | badCharacter (position : Nat)
  deriving Repr, DecidableEq

namespace HexFault

def message : HexFault → String
  | notText typeName => "expected a hex string, got " ++ typeName
  | badCharacter position =>
    "non-hexadecimal number found in fromhex() arg at position " ++ toString position

end HexFault

namespace Hex

def digit (n : Nat) : Char :=
  Nat.digitChar (n % 16)

def pair (b : UInt8) : List Char :=
  [digit (b.toNat / 16), digit b.toNat]

def digits (data : Bytes) : String :=
  String.ofList (data.flatMap pair)

def encode (data : Bytes) : String :=
  String.ofList ('0' :: 'x' :: data.flatMap pair)

def digitValue? (c : Char) : Option Nat :=
  if '0' ≤ c ∧ c ≤ '9' then some (c.toNat - '0'.toNat)
  else if 'a' ≤ c ∧ c ≤ 'f' then some (c.toNat - 'a'.toNat + 10)
  else if 'A' ≤ c ∧ c ≤ 'F' then some (c.toNat - 'A'.toNat + 10)
  else none

def decodePairs (position : Nat) (done : Bytes) : List Char → Except HexFault Bytes
  | [] => .ok done.reverse
  | [c] =>
    if Text.isAsciiBlank c then .ok done.reverse
    else if (digitValue? c).isNone then .error (.badCharacter position)
    else .error (.badCharacter (position + 1))
  | c :: d :: rest =>
    if Text.isAsciiBlank c then decodePairs (position + 1) done (d :: rest)
    else
      match digitValue? c, digitValue? d with
      | none, _ => .error (.badCharacter position)
      | some _, none => .error (.badCharacter (position + 1))
      | some high, some low =>
        decodePairs (position + 2) (UInt8.ofNat (16 * high + low) :: done) rest

/-- A text that leaves ASCII is refused at the first character that does. -/
def decodeDigits (cs : List Char) : Except HexFault Bytes :=
  match cs.findIdx? (0x80 ≤ ·.toNat) with
  | some position => .error (.badCharacter position)
  | none => decodePairs 0 [] cs

def dropMark : List Char → List Char
  | '0' :: 'x' :: rest => rest
  | cs => cs

def decode (s : CodeString) : Except HexFault Bytes :=
  decodeDigits (dropMark (Text.lowerList (Text.trim s.toString.toList)))

def decodeValue : Value → Except HexFault Bytes
  | .text s => decode s
  | v => .error (.notText v.typeName)

end Hex

end ProofDriver

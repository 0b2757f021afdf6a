import ProofDriver.Text.CodeString
import ProofDriver.Text.Printable
/-!
# Quoted texts

How a text or a byte string is shown inside a message: between single quotes, or between double ones
when it holds a single quote and no double one, with everything unprintable escaped, also a lone
surrogate.
-/

namespace ProofDriver.Text

def hexDigits (width n : Nat) : List Char :=
  ((List.range width).map fun i => Nat.digitChar (n / Nat.pow 16 i % 16)).reverse

def quoteMark (holds : Char → Bool) : Char :=
  if holds '\'' && !holds '"' then '"' else '\''

def escapeChar (mark c : Char) : List Char :=
  if c = mark ∨ c = '\\' then ['\\', c]
  else if c = '\n' then ['\\', 'n']
  else if c = '\r' then ['\\', 'r']
  else if c = '\t' then ['\\', 't']
  else if isPrintable c then [c]
  else if c.toNat < 0x100 then '\\' :: 'x' :: hexDigits 2 c.toNat
  else if c.toNat < 0x10000 then '\\' :: 'u' :: hexDigits 4 c.toNat
  else '\\' :: 'U' :: hexDigits 8 c.toNat

def escapePoint (mark : Char) : CodePoint → List Char
  | .char c => escapeChar mark c
  | p => '\\' :: 'u' :: hexDigits 4 p.toNat

def quote (s : CodeString) : String :=
  let mark := quoteMark fun c => s.points.contains (.char c)
  String.ofList (mark :: s.points.flatMap (escapePoint mark) ++ [mark])

def escapeByte (mark : Char) (b : UInt8) : List Char :=
  let c := Char.ofNat b.toNat
  if c = mark ∨ c = '\\' then ['\\', c]
  else if c = '\n' then ['\\', 'n']
  else if c = '\r' then ['\\', 'r']
  else if c = '\t' then ['\\', 't']
  else if 0x20 ≤ b ∧ b < 0x7f then [c]
  else '\\' :: 'x' :: hexDigits 2 b.toNat

def quoteBytes (bytes : List UInt8) : String :=
  let mark := quoteMark fun c => bytes.contains (UInt8.ofNat c.toNat)
  String.ofList ('b' :: mark :: bytes.flatMap (escapeByte mark) ++ [mark])

end ProofDriver.Text

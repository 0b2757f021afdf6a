/-!
# UTF-8

Texts as bytes and back. Reading stops at the first sequence of bytes that encodes no character and
says where it starts, how many bytes it spans and what is wrong with it.
-/

namespace ProofDriver.Text

def utf8Bytes (s : String) : List UInt8 :=
  s.toUTF8.toList

inductive Utf8Fault where
  | invalidStart
  | invalidContinuation
  | unexpectedEnd
  deriving Repr, DecidableEq

/-- The bytes from `position` on, `length` of them, encode no character; `byte` is the first. -/
structure Utf8Error where
  position : Nat
  length : Nat
  byte : UInt8
  fault : Utf8Fault
  deriving Repr, DecidableEq

namespace Utf8

/-- How many continuation bytes follow a first byte above the ASCII range, and the range that the
first of them has to lie in. Overlong forms, surrogates and numbers beyond U+10FFFF are shut out
by that range. -/
def lead? (b : UInt8) : Option (Nat × UInt8 × UInt8) :=
  if b < 0xc2 then none
  else if b < 0xe0 then some (1, 0x80, 0xbf)
  else if b < 0xf0 then
    some (2, if b = 0xe0 then 0xa0 else 0x80, if b = 0xed then 0x9f else 0xbf)
  else if b < 0xf5 then
    some (3, if b = 0xf0 then 0x90 else 0x80, if b = 0xf4 then 0x8f else 0xbf)
  else none

def leadBits (b : UInt8) : Nat :=
  if b < 0xe0 then b.toNat % 0x20 else if b < 0xf0 then b.toNat % 0x10 else b.toNat % 8

/-- Reading state: nothing pending, or `missing` bytes to come after `seen` bytes of a character. -/
inductive Pending where
  | none
  | some (start : UInt8) (seen missing : Nat) (low high : UInt8) (bits : Nat)

def decodeFrom (position : Nat) (pending : Pending) (done : List Char) :
    List UInt8 → Except Utf8Error (List Char)
  | [] =>
    match pending with
    | .none => .ok done.reverse
    | .some start seen _ _ _ _ => .error ⟨position - seen, seen, start, .unexpectedEnd⟩
  | b :: rest =>
    match pending with
    | .none =>
      if b < 0x80 then decodeFrom (position + 1) .none (Char.ofNat b.toNat :: done) rest
      else
        match lead? b with
        | none => .error ⟨position, 1, b, .invalidStart⟩
        | some (missing, low, high) =>
          decodeFrom (position + 1) (.some b 1 missing low high (leadBits b)) done rest
    | .some start seen missing low high bits =>
      if low ≤ b && b ≤ high then
        let bits := 64 * bits + b.toNat % 64
        if missing ≤ 1 then decodeFrom (position + 1) .none (Char.ofNat bits :: done) rest
        else
          decodeFrom (position + 1) (.some start (seen + 1) (missing - 1) 0x80 0xbf bits) done rest
      else .error ⟨position - seen, seen, start, .invalidContinuation⟩

end Utf8

def decodeUtf8 (bytes : List UInt8) : Except Utf8Error String :=
  (Utf8.decodeFrom 0 .none [] bytes).map String.ofList

def Utf8Fault.message : Utf8Fault → String
  | .invalidStart => "invalid start byte"
  | .invalidContinuation => "invalid continuation byte"
  | .unexpectedEnd => "unexpected end of data"

def Utf8Error.message (e : Utf8Error) : String :=
  let place :=
    if e.length = 1 then
      "byte 0x" ++ String.ofList
        [Nat.digitChar (e.byte.toNat / 16), Nat.digitChar (e.byte.toNat % 16)] ++
        " in position " ++ toString e.position
    else
      "bytes in position " ++ toString e.position ++ "-" ++ toString (e.position + e.length - 1)
  "'utf-8' codec can't decode " ++ place ++ ": " ++ e.fault.message

end ProofDriver.Text

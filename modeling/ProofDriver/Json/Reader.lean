import ProofDriver.Value
import ProofDriver.Number.Reading
/-!
# Reading JSON

The reader follows the grammar of JSON and also takes `NaN`, `Infinity` and `-Infinity`. Of two
fields of one name the last value stands, in the place of the first. What it refuses it refuses at a
position, counted in characters, with a line and a column.
-/

namespace ProofDriver

namespace Json

/-- What stands at a position where the grammar has something else. -/
inductive SyntaxFault where
  | expectingValue
  | expectingName
  | expectingColon
  | expectingComma
  | extraData
  | unterminatedString
  | controlCharacter
  | badEscape
  | badUnicodeEscape
  | byteOrderMark
  deriving Repr, DecidableEq

structure SyntaxError where
  fault : SyntaxFault
  line : Nat
  column : Nat
  position : Nat
  deriving Repr, DecidableEq

/-- Why a text is not read: it is no JSON, or one of its integers is too long. -/
inductive Refusal where
  | malformed (e : SyntaxError)
  | tooManyDigits (count : Nat)
  deriving Repr, DecidableEq

def SyntaxFault.message : SyntaxFault → String
  | .expectingValue => "Expecting value"
  | .expectingName => "Expecting property name enclosed in double quotes"
  | .expectingColon => "Expecting ':' delimiter"
  | .expectingComma => "Expecting ',' delimiter"
  | .extraData => "Extra data"
  | .unterminatedString => "Unterminated string starting at"
  | .controlCharacter => "Invalid control character at"
  | .badEscape => "Invalid \\escape"
  | .badUnicodeEscape => "Invalid \\uXXXX escape"
  | .byteOrderMark => "Unexpected UTF-8 BOM (decode using utf-8-sig)"

def SyntaxError.message (e : SyntaxError) : String :=
  e.fault.message ++ ": line " ++ toString e.line ++ " column " ++ toString e.column ++
    " (char " ++ toString e.position ++ ")"

/-- A reader that stops tells what is left of the text where it stops. -/
inductive Stop where
  | fault (what : SyntaxFault) (left : List Char)
  | tooManyDigits (count : Nat)

abbrev Step (α : Type) := Except Stop (α × List Char)

def isSpace (c : Char) : Bool :=
  c == ' ' || c == '\t' || c == '\n' || c == '\r'

def skipSpace (cs : List Char) : List Char :=
  cs.dropWhile isSpace

def hexValue? (c : Char) : Option Nat :=
  if '0' ≤ c ∧ c ≤ '9' then some (c.toNat - '0'.toNat)
  else if 'a' ≤ c ∧ c ≤ 'f' then some (c.toNat - 'a'.toNat + 10)
  else if 'A' ≤ c ∧ c ≤ 'F' then some (c.toNat - 'A'.toNat + 10)
  else none

def codeUnit? (a b c d : Char) : Option Nat := do
  let a ← hexValue? a
  let b ← hexValue? b
  let c ← hexValue? c
  let d ← hexValue? d
  some (0x1000 * a + 0x100 * b + 0x10 * c + d)

def simpleEscape? : Char → Option Char
  | '"' => some '"'
  | '\\' => some '\\'
  | '/' => some '/'
  | 'b' => some '\x08'
  | 'f' => some '\x0c'
  | 'n' => some '\n'
  | 'r' => some '\r'
  | 't' => some '\t'
  | _ => none

/-- Joins each high surrogate with the low one after it. A surrogate without its partner stays. -/
def joinSurrogates : List Nat → List CodePoint :=
  go []
where
  go (done : List CodePoint) : List Nat → List CodePoint
    | [] => done.reverse
    | high :: low :: rest =>
      if 0xd800 ≤ high ∧ high < 0xdc00 ∧ 0xdc00 ≤ low ∧ low < 0xe000 then
        go (.ofNat (0x10000 + 0x400 * (high - 0xd800) + (low - 0xdc00)) :: done) rest
      else go (.ofNat high :: done) (low :: rest)
    | n :: rest => go (.ofNat n :: done) rest

def stringFrom (opening : List Char) (done : List Nat) : List Char → Step CodeString
  | [] => .error (.fault .unterminatedString opening)
  | '"' :: rest => .ok (⟨joinSurrogates done.reverse⟩, rest)
  | '\\' :: [] => .error (.fault .unterminatedString opening)
  | '\\' :: 'u' :: a :: b :: c :: d :: e :: rest =>
    match codeUnit? a b c d with
    | some n => stringFrom opening (n :: done) (e :: rest)
    | none => .error (.fault .badUnicodeEscape ('u' :: a :: b :: c :: d :: e :: rest))
  | '\\' :: c :: rest =>
    if c = 'u' then .error (.fault .badUnicodeEscape (c :: rest))
    else
      match simpleEscape? c with
      | some e => stringFrom opening (e.toNat :: done) rest
      | none => .error (.fault .badEscape ('\\' :: c :: rest))
  | c :: rest =>
    if c.toNat < 0x20 then .error (.fault .controlCharacter (c :: rest))
    else stringFrom opening (c.toNat :: done) rest

def isDigit (c : Char) : Bool :=
  '0' ≤ c && c ≤ '9'

def wholePart? : List Char → Option (List Char × List Char)
  | '0' :: rest => some (['0'], rest)
  | cs => if (cs.takeWhile isDigit).isEmpty then none
    else some (cs.takeWhile isDigit, cs.dropWhile isDigit)

def fractionPart? : List Char → Option (List Char × List Char)
  | '.' :: rest => if (rest.takeWhile isDigit).isEmpty then none
    else some (rest.takeWhile isDigit, rest.dropWhile isDigit)
  | _ => none

def exponentPart? : List Char → Option (Int × List Char)
  | c :: rest =>
    if c = 'e' ∨ c = 'E' then
      let (negative, body) := Numeral.takeSign rest
      let digits := body.takeWhile isDigit
      if digits.isEmpty then none
      else
        let n := Text.ofDigits (digits.filterMap Text.asciiDigit?)
        some (if negative then -(n : Int) else n, body.dropWhile isDigit)
    else none
  | [] => none

def natOf (digits : List Char) : Nat :=
  Text.ofDigits (digits.filterMap Text.asciiDigit?)

def number (start : List Char) : Step Value :=
  let (negative, body) := match start with
    | '-' :: rest => (true, rest)
    | cs => (false, cs)
  match wholePart? body with
  | none => .error (.fault .expectingValue start)
  | some (whole, rest) =>
    match fractionPart? rest with
    | some (fraction, rest) =>
      let (exponent, rest) := (exponentPart? rest).getD (0, rest)
      let x := Numeral.ofDecimal negative (natOf (whole ++ fraction)) (exponent - fraction.length)
      .ok (.real x, rest)
    | none =>
      match exponentPart? rest with
      | some (exponent, rest) =>
        .ok (.real (Numeral.ofDecimal negative (natOf whole) exponent), rest)
      | none =>
        if Numeral.digitLimit < whole.length then .error (.tooManyDigits whole.length)
        else
          let n : Int := natOf whole
          .ok (.int (if negative then -n else n), rest)

def after? (word : String) (cs : List Char) : Option (List Char) :=
  if word.toList.isPrefixOf cs then some (cs.drop word.length) else none

def wordValues : List (String × Value) := [
  ("null", .null), ("true", .bool true), ("false", .bool false), ("NaN", .real .nan),
  ("Infinity", .real (.infinite false)), ("-Infinity", .real (.infinite true))]

def word? (cs : List Char) : Option (Value × List Char) :=
  wordValues.findSome? fun (word, v) => (after? word cs).map (v, ·)

mutual

/-- One value at the beginning of the text. The number bounds the calls; twice the length of the
text is never used up. -/
def value : Nat → List Char → Step Value
  | 0, cs => .error (.fault .expectingValue cs)
  | _ + 1, [] => .error (.fault .expectingValue [])
  | n + 1, c :: rest =>
    if c = '"' then (stringFrom (c :: rest) [] rest).map fun (s, rest) => (.text s, rest)
    else if c = '{' then
      match skipSpace rest with
      | '}' :: rest => .ok (.object [], rest)
      | cs => members n [] cs
    else if c = '[' then
      match skipSpace rest with
      | ']' :: rest => .ok (.list [], rest)
      | cs => elements n [] cs
    else
      match word? (c :: rest) with
      | some found => .ok found
      | none => number (c :: rest)

def elements : Nat → List Value → List Char → Step Value
  | 0, _, cs => .error (.fault .expectingValue cs)
  | n + 1, done, cs =>
    match value n cs with
    | .error stop => .error stop
    | .ok (v, rest) =>
      match skipSpace rest with
      | ']' :: rest => .ok (.list (v :: done).reverse, rest)
      | ',' :: rest => elements n (v :: done) (skipSpace rest)
      | rest => .error (.fault .expectingComma rest)

def members : Nat → Fields → List Char → Step Value
  | 0, _, cs => .error (.fault .expectingValue cs)
  | n + 1, done, cs =>
    match cs with
    | '"' :: body =>
      match stringFrom cs [] body with
      | .error stop => .error stop
      | .ok (name, rest) =>
        match skipSpace rest with
        | ':' :: rest =>
          match value n (skipSpace rest) with
          | .error stop => .error stop
          | .ok (v, rest) =>
            match skipSpace rest with
            | '}' :: rest => .ok (.object (done.put name v), rest)
            | ',' :: rest => members n (done.put name v) (skipSpace rest)
            | rest => .error (.fault .expectingComma rest)
        | rest => .error (.fault .expectingColon rest)
    | _ => .error (.fault .expectingName cs)

end

def locate (text left : List Char) (fault : SyntaxFault) : SyntaxError :=
  let position := text.length - left.length
  let before := text.take position
  { fault, position
    line := before.count '\n' + 1
    column := (before.reverse.takeWhile (· != '\n')).length + 1 }

def read (text : List Char) : Except Refusal Value :=
  if text.head? = some '\ufeff' then .error (.malformed (locate text text .byteOrderMark))
  else
    match value (2 * text.length + 2) (skipSpace text) with
    | .error (.fault what left) => .error (.malformed (locate text left what))
    | .error (.tooManyDigits n) => .error (.tooManyDigits n)
    | .ok (v, rest) =>
      match skipSpace rest with
      | [] => .ok v
      | left => .error (.malformed (locate text left .extraData))

end Json

end ProofDriver

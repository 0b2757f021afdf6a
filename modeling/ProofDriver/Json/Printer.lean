import ProofDriver.Number.Reading
import ProofDriver.Value
/-!
# Writing JSON

Documents are written with two blanks of indentation to a level, fields in the order of their names
and ASCII characters only, so that equal values have one text. Byte strings and integers of too many
digits have none.
-/

namespace ProofDriver

namespace Json

def hexEscape (n : Nat) : List Char :=
  '\\' :: 'u' :: Text.hexDigits 4 n

def escapeChar (c : Char) : List Char :=
  if c = '"' then ['\\', '"']
  else if c = '\\' then ['\\', '\\']
  else if c = '\n' then ['\\', 'n']
  else if c = '\r' then ['\\', 'r']
  else if c = '\t' then ['\\', 't']
  else if c = '\x08' then ['\\', 'b']
  else if c = '\x0c' then ['\\', 'f']
  else if 0x20 ≤ c.toNat ∧ c.toNat < 0x7f then [c]
  else if c.toNat < 0x10000 then hexEscape c.toNat
  else
    hexEscape (0xd800 + (c.toNat - 0x10000) / 0x400) ++
      hexEscape (0xdc00 + (c.toNat - 0x10000) % 0x400)

def escapePoint : CodePoint → List Char
  | .char c => escapeChar c
  | p => hexEscape p.toNat

def renderString (s : CodeString) : List Char :=
  '"' :: s.points.flatMap escapePoint ++ ['"']

def renderReal (x : Binary64) : List Char :=
  match x with
  | .nan => "NaN".toList
  | .infinite s => if s then "-Infinity".toList else "Infinity".toList
  | .finite .. => x.render.toList

def newLine (depth : Nat) : List Char :=
  '\n' :: List.replicate (2 * depth) ' '

def bracket (depth : Nat) (left right : Char) (items : List (List Char)) : List Char :=
  match items with
  | [] => [left, right]
  | first :: rest =>
    left :: (newLine (depth + 1) ++ first ++
      rest.flatMap (fun item => ',' :: newLine (depth + 1) ++ item) ++ newLine depth ++ [right])

def byName {α : Type} (a b : CodeString × α) : Bool :=
  a.1 ≤ b.1

mutual

/-- The text of a value at a depth of indentation. A byte string has no text of its own. -/
def render (depth : Nat) : Value → List Char
  | .null => "null".toList
  | .bool b => if b then "true".toList else "false".toList
  | .int n => (toString n).toList
  | .real x => renderReal x
  | .text s => renderString s
  | .bytes _ => []
  | .list items => bracket depth '[' ']' (renderItems (depth + 1) items)
  | .object fields =>
    bracket depth '{' '}' (((renderFields (depth + 1) fields).mergeSort byName).map fun (name, v) =>
      renderString name ++ ':' :: ' ' :: v)

def renderItems (depth : Nat) : List Value → List (List Char)
  | [] => []
  | v :: rest => render depth v :: renderItems depth rest

def renderFields (depth : Nat) : List (CodeString × Value) → List (CodeString × List Char)
  | [] => []
  | (name, v) :: rest => (name, render depth v) :: renderFields depth rest

end

/-- Why a value has no text: no text stands for values of its type, or an integer is too long. -/
inductive Unwritable where
  | noText (typeName : String)
  | tooManyDigits
  deriving Repr, DecidableEq

mutual

/-- What keeps a value from having a text. Of several obstacles the first in the order of the text
counts. -/
def obstacle? : Value → Option Unwritable
  | .int n => if Numeral.isShort n then none else some .tooManyDigits
  | .bytes data => some (.noText (Value.bytes data).typeName)
  | .list items => itemObstacle? items
  | .object fields =>
    let obstacles := fieldObstacles fields
    if obstacles.all fun o => o.2.isNone then none
    else (obstacles.mergeSort byName).findSome? Prod.snd
  | _ => none

def itemObstacle? : List Value → Option Unwritable
  | [] => none
  | v :: rest => (obstacle? v).or (itemObstacle? rest)

def fieldObstacles : List (CodeString × Value) → List (CodeString × Option Unwritable)
  | [] => []
  | (name, v) :: rest => (name, obstacle? v) :: fieldObstacles rest

end

def write (v : Value) : Except Unwritable String :=
  match obstacle? v with
  | some why => .error why
  | none => .ok (String.ofList (render 0 v))

end Json

end ProofDriver

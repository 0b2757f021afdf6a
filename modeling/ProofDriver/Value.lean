import ProofDriver.Number
import ProofDriver.Number.Reading
import ProofDriver.Text.Quoted
/-!
# Values

The values that documents and callers hand over: JSON values, with integers and doubles told apart
and lone surrogates in texts kept, and byte strings, which no document holds.
-/

namespace ProofDriver

/-- The fields of an object keep the order in which their names first came up. -/
inductive Value where
  | null
  | bool (b : Bool)
  | int (n : Int)
  | real (x : Binary64)
  | text (s : CodeString)
  | bytes (data : List UInt8)
  | list (items : List Value)
  | object (fields : List (CodeString × Value))
  deriving Repr, Inhabited

abbrev Fields := List (CodeString × Value)

def Fields.put (name : CodeString) (v : Value) : Fields → Fields
  | [] => [(name, v)]
  | (key, old) :: rest => if key = name then (name, v) :: rest else (key, old) :: put name v rest

def Fields.get? (fields : Fields) (name : CodeString) : Option Value :=
  fields.lookup name

namespace Value

def typeName : Value → String
  | null => "NoneType"
  | bool _ => "bool"
  | int _ => "int"
  | real _ => "float"
  | text _ => "str"
  | bytes _ => "bytes"
  | list _ => "list"
  | object _ => "dict"

mutual

/-- A value as messages show it, its texts quoted. That a value can be nested too deep to be shown is
left out. -/
def quoted : Value → String
  | null => "None"
  | bool b => if b then "True" else "False"
  | int n => toString n
  | real x => x.render
  | text s => Text.quote s
  | bytes data => Text.quoteBytes data
  | list items => "[" ++ ", ".intercalate (quotedItems items) ++ "]"
  | object fields => "\x7b" ++ ", ".intercalate (quotedFields fields) ++ "\x7d"

def quotedItems : List Value → List String
  | [] => []
  | v :: rest => v.quoted :: quotedItems rest

def quotedFields : List (CodeString × Value) → List String
  | [] => []
  | (name, v) :: rest => (Text.quote name ++ ": " ++ v.quoted) :: quotedFields rest

end

mutual

/-- Messages can show the value: none of its integers has too many digits. -/
def isShowable : Value → Bool
  | int n => Numeral.isShort n
  | list items => itemsShowable items
  | object fields => fieldsShowable fields
  | _ => true

def itemsShowable : List Value → Bool
  | [] => true
  | v :: rest => v.isShowable && itemsShowable rest

def fieldsShowable : List (CodeString × Value) → Bool
  | [] => true
  | (_, v) :: rest => v.isShowable && fieldsShowable rest

end

/-- The number that a value is; the truth values are one and zero. -/
def number? : Value → Option Number
  | bool b => some (.int (if b then 1 else 0))
  | int n => some (.int n)
  | real x => some (.real x)
  | _ => none

def ofNumber : Number → Value
  | .int n => int n
  | .real x => real x

/-- A value as it is shown by itself: a text without its quotation marks, with a stand-in for each
lone surrogate. -/
def shown : Value → String
  | text s => s.toString
  | v => v.quoted

end Value

end ProofDriver

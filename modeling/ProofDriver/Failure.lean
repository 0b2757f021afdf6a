import ProofDriver.FileSystem.Errno
import ProofDriver.Hex
import ProofDriver.Json.Printer
import ProofDriver.Json.Reader
import ProofDriver.Text.Utf8
/-!
# Failures

What can go wrong. The driver reports errors in categories, each with the stage of the work it
belongs to and the exit status of the command line. Everything else is a fault: of a text, of a
value of the wrong type, of the operating system, or one that a client or a sink brings in from
outside.
-/

namespace ProofDriver

inductive Category where
  | general
  | invalidInput
  | unknownMode
  | execution
  | proving
  | wrapping
  | encoding
  | verification
  | io
  | exhausted
  deriving Repr, DecidableEq

def Category.stage : Category → String
  | general => "driver"
  | invalidInput => "input"
  | unknownMode => "mode"
  | execution => "execute"
  | proving => "prove"
  | wrapping => "wrap"
  | encoding => "encode"
  | verification => "verify"
  | io => "write"
  | exhausted => "prove"

def Category.exitCode : Category → Nat
  | general => 1
  | invalidInput => 2
  | unknownMode => 2
  | execution => 3
  | proving => 4
  | wrapping => 5
  | encoding => 6
  | verification => 7
  | io => 8
  | exhausted => 9

def Category.isValueError : Category → Bool
  | invalidInput | unknownMode | encoding => true
  | _ => false

structure DriverError where
  category : Category
  stage : String
  text : String
  deriving Repr, DecidableEq

def DriverError.message (e : DriverError) : String :=
  "[" ++ e.stage ++ "] " ++ e.text

def DriverError.exitCode (e : DriverError) : Nat :=
  e.category.exitCode

def Category.error (c : Category) (text : String) : DriverError :=
  ⟨c, c.stage, text⟩

/-- What a fault is a fault of. -/
inductive FaultKind where
  | value
  | json
  | unicode
  | type
  | overflow
  | key
  | system
  | sampling
  | interrupt
  | other (name : String)
  deriving Repr, DecidableEq

inductive Fault where
  | hex (f : HexFault)
  | keyLength (length : Nat)
  | json (e : Json.SyntaxError)
  | tooManyDigits (count : Nat)
  | integerTooLong
  | undecodable (e : Text.Utf8Error)
  | noResultLine
  | nulInPath
  | malformedInteger (quoted : String)
  | notInteger (typeName : String)
  | nanToInteger
  | infinityToInteger
  | notIterable (typeName : String)
  | entryNotSequence (index : Nat)
  | entryLength (index length : Nat)
  | unhashable (typeName : String)
  | missingField (name : String)
  | noNegation (typeName : String)
  | noOrder (left right : String)
  | unserializable (typeName : String)
  | unknownSetting (name : String)
  | integerTooLarge
  | integerTooWide
  | quotientTooLarge
  | system (e : OsError)
  | raised (kind : FaultKind) (text : String)
  deriving Repr, DecidableEq

namespace Fault

def kind : Fault → FaultKind
  | hex _ | keyLength _ | tooManyDigits _ | integerTooLong | noResultLine | nulInPath
  | malformedInteger _ | nanToInteger | entryLength .. => .value
  | json _ => .json
  | undecodable _ => .unicode
  | notInteger _ | notIterable _ | entryNotSequence _ | unhashable _ | noNegation _ | noOrder ..
  | unserializable _ | unknownSetting _ => .type
  | infinityToInteger | integerTooLarge | integerTooWide | quotientTooLarge => .overflow
  | missingField _ => .key
  | system _ => .system
  | raised k _ => k

def isValueError (f : Fault) : Bool :=
  match f.kind with
  | .value | .json | .unicode => true
  | _ => false

def isSystemError (f : Fault) : Bool :=
  f.kind == .system

/-- An interrupt ends the program; every other fault can be logged and passed over. -/
def isInterrupt (f : Fault) : Bool :=
  f.kind == .interrupt

def message : Fault → String
  | hex f => f.message
  | keyLength n => "verifying key digest must be 32 bytes, got " ++ toString n
  | json e => e.message
  | tooManyDigits n =>
    "Exceeds the limit (4300 digits) for integer string conversion: value has " ++ toString n ++
      " digits; use sys.set_int_max_str_digits() to increase the limit"
  | integerTooLong =>
    "Exceeds the limit (4300 digits) for integer string conversion; use " ++
      "sys.set_int_max_str_digits() to increase the limit"
  | undecodable e => e.message
  | noResultLine => "prover printed no JSON result"
  | nulInPath => "embedded null byte"
  | malformedInteger quoted => "invalid literal for int() with base 10: " ++ quoted
  | notInteger typeName =>
    "int() argument must be a string, a bytes-like object or a real number, not " ++
      Text.quote typeName
  | nanToInteger => "cannot convert float NaN to integer"
  | infinityToInteger => "cannot convert float infinity to integer"
  | notIterable typeName => Text.quote typeName ++ " object is not iterable"
  | entryNotSequence index =>
    "cannot convert dictionary update sequence element #" ++ toString index ++ " to a sequence"
  | entryLength index length =>
    "dictionary update sequence element #" ++ toString index ++ " has length " ++ toString length ++
      "; 2 is required"
  | unhashable typeName => "unhashable type: " ++ Text.quote typeName
  | missingField name => Text.quote name
  | noNegation typeName => "bad operand type for unary -: " ++ Text.quote typeName
  | noOrder left right =>
    "'<' not supported between instances of " ++ Text.quote left ++ " and " ++ Text.quote right
  | unserializable typeName => "Object of type " ++ typeName ++ " is not JSON serializable"
  | unknownSetting name =>
    "Settings.__init__() got an unexpected keyword argument " ++ Text.quote name
  | integerTooLarge => "int too large to convert to float"
  | integerTooWide => "int too big to convert"
  | quotientTooLarge => "integer division result too large for a float"
  | system e => e.message
  | raised .key text => Text.quote text
  | raised _ text => text

end Fault

inductive Failure where
  | driver (e : DriverError)
  | fault (f : Fault)
  deriving Repr, DecidableEq

def Failure.message : Failure → String
  | driver e => e.message
  | fault f => f.message

def Failure.isValueError : Failure → Bool
  | driver e => e.category.isValueError
  | fault f => f.isValueError

def Failure.isOrdinary : Failure → Bool
  | driver _ => true
  | fault f => !f.isInterrupt

/-- An error of a category whose text shows a value, or the fault that it cannot be shown. -/
def Category.about (c : Category) (v : Value) (text : String → String) : Failure :=
  if v.isShowable then .driver (c.error (text v.quoted)) else .fault .integerTooLong

abbrev Outcome (α : Type) := Except Failure α

def DriverError.lift {α : Type} (r : Except DriverError α) : Outcome α :=
  r.mapError .driver

def Fault.lift {α : Type} (r : Except Fault α) : Outcome α :=
  r.mapError .fault

def Json.Refusal.fault : Json.Refusal → Fault
  | .malformed e => .json e
  | .tooManyDigits n => .tooManyDigits n

def Json.Unwritable.fault : Json.Unwritable → Fault
  | .noText typeName => .unserializable typeName
  | .tooManyDigits => .integerTooLong

end ProofDriver

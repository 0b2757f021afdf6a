import ProofDriver.Failure
import ProofDriver.Proof
import ProofDriver.Text.Line
/-!
# Prover output

What a prover process prints: progress, then one line of JSON with its result. The result is the
last line that begins with a brace; its fields are taken only in the form they have to have.
-/

namespace ProofDriver.Output

def resultLine? (stdout : String) : Option (List Char) :=
  ((Text.splitLines stdout.toList).reverse.map Text.trim).find? (·.head? == some '{')

def result (stdout : String) : Except Fault Value :=
  match resultLine? stdout with
  | none => .error .noResultLine
  | some line => (Json.read line).mapError Json.Refusal.fault

/-- The last `count` items, where zero means all and a negative count leaves that many out at the
beginning. -/
def takeLast {α : Type} (count : Int) (items : List α) : List α :=
  if 0 < count then items.drop (items.length - count.toNat)
  else items.drop (-count).toNat

def excerpt (text : Option String) (count : Int := 5) : String :=
  let lines := (Text.splitLines (Text.trim (text.getD "").toList)).map String.ofList
  " | ".intercalate (takeLast count lines)

def field? (v : Value) (name : String) : Option Value :=
  match v with
  | .object fields => Fields.get? fields name
  | _ => none

def field (v : Value) (name : String) : Except Fault Value :=
  match field? v name with
  | some x => .ok x
  | none => .error (.missingField name)

def integer : Value → Except Fault Int
  | .bool b => .ok (if b then 1 else 0)
  | .int n => .ok n
  | .real x =>
    match x.truncate? with
    | some n => .ok n
    | none => .error (if x = .nan then .nanToInteger else .infinityToInteger)
  | .text s =>
    match Numeral.readInt s.toString with
    | .ok n => .ok n
    | .error (.tooManyDigits count) => .error (.tooManyDigits count)
    | .error .malformed =>
      .error (.malformedInteger (String.ofList ((Text.quote s).toList.take 200)))
  | v => .error (.notInteger v.typeName)

def bytes (v : Value) : Except Fault Bytes :=
  (Hex.decodeValue v).mapError .hex

def table (v : Value) (name : String) : Except Fault CountTable :=
  match field? v name with
  | none => .ok []
  | some counts => CountTable.ofValue counts

def report (v : Value) : Except Fault Execution := do
  let publicValues ← bytes (← field v "publicValues")
  let cycles ← integer (← field v "cycles")
  let opcodeCounts ← table v "opcodeCounts"
  let syscallCounts ← table v "syscallCounts"
  .ok { publicValues, cycles, opcodeCounts, syscallCounts }

def vkey (v : Value) : Except Fault VerifyingKey := do
  VerifyingKey.ofHex (← field v "vkey")

def proved (v : Value) (expected : VerifyingKey) : Except Fault (Bytes × VerifyingKey) := do
  let publicValues ← bytes (← field v "publicValues")
  let key ← VerifyingKey.ofHex ((field? v "vkey").getD (.text expected.bytes32))
  .ok (publicValues, key)

end ProofDriver.Output

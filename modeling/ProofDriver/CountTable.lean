import ProofDriver.Failure
import ProofDriver.Sorting.Adaptive
/-!
# Count tables

The counts of an execution report by name, and the lines that show them: the largest count first
and, among equal counts, in the order of the names, with the counts flush right.
-/

namespace ProofDriver

/-- Names and counts as a prover reports them. Neither has to be what it is called, and the names
differ. -/
abbrev CountTable := List (Value × Value)

namespace CountTable

/-- Two names are one if they are the same text or the same number. -/
def sameName (a b : Value) : Bool :=
  match a, b with
  | .text s, .text t => s == t
  | .null, .null => true
  | a, b =>
    match a.number?, b.number? with
    | some m, some n => m.compare? n == some .eq || (m.isNan && n.isNan)
    | _, _ => false

def put (name count : Value) : CountTable → CountTable
  | [] => [(name, count)]
  | (key, old) :: rest =>
    if sameName key name then (key, count) :: rest else (key, old) :: put name count rest

def parts? : Value → Option (List Value)
  | .list items => some items
  | .text s => some (s.points.map fun p => .text ⟨[p]⟩)
  | .object fields => some (fields.map fun f => .text f.1)
  | _ => none

def putEntry (index : Nat) (table : CountTable) (entry : Value) : Except Fault CountTable :=
  match parts? entry with
  | none => .error (.entryNotSequence index)
  | some [name, count] =>
    match name with
    | .list _ | .object _ => .error (.unhashable name.typeName)
    | _ => .ok (table.put name count)
  | some items => .error (.entryLength index items.length)

def ofEntries (index : Nat) (table : CountTable) : List Value → Except Fault CountTable
  | [] => .ok table
  | entry :: rest =>
    match putEntry index table entry with
    | .error f => .error f
    | .ok table => ofEntries (index + 1) table rest

def ofValue : Value → Except Fault CountTable
  | .object fields => .ok (fields.map fun (name, count) => (.text name, count))
  | .list items => ofEntries 0 [] items
  | .text s => if s.isEmpty then .ok [] else .error (.entryLength 0 1)
  | v => .error (.notIterable v.typeName)

/-- A row before it is placed: its count negated, so that the largest comes first. -/
structure Row where
  weight : Number
  name : Value
  count : Value

def row (entry : Value × Value) : Except Fault Row :=
  match entry.2.number? with
  | some n => .ok ⟨n.neg, entry.1, entry.2⟩
  | none => .error (.noNegation entry.2.typeName)

def rows : CountTable → Except Fault (List Row)
  | [] => .ok []
  | entry :: rest => do
    let first ← row entry
    let others ← rows rest
    .ok (first :: others)

/-- The name of a row in which all can be ordered: a text, beside a count that is a number. -/
def Row.orderly? (r : Row) : Option CodeString :=
  match r.name with
  | .text s => if r.weight.isNan then none else some s
  | _ => none

def Row.before (a b : Row) : Bool :=
  if a.weight.lt b.weight then true
  else if b.weight.lt a.weight then false
  else
    match a.name, b.name with
    | .text s, .text t => s ≤ t
    | _, _ => true

def Row.precedes (a b : Row) : Except Fault Bool :=
  if a.weight.compare? b.weight == some .eq then
    if sameName a.name b.name then .ok false
    else
      match a.name, b.name with
      | .text s, .text t => .ok (s < t)
      | m, n =>
        match m.number?, n.number? with
        | some x, some y => .ok (x.lt y)
        | _, _ => .error (.noOrder m.typeName n.typeName)
  else .ok (a.weight.lt b.weight)

/-- The rows in order. Names of different types and counts that are not numbers have no place in an
order of all rows; where such a row stands hangs on the comparisons that are made. -/
def sortRows (rs : List Row) : Except Fault (List Row) :=
  if rs.all fun r => r.orderly?.isSome then .ok (rs.mergeSort Row.before)
  else Sorting.sort Row.precedes rs

/-- A count as it stands in a line; a truth value is written as a number. -/
def countText : Value → String
  | .bool b => if b then "1" else "0"
  | v => v.shown

def width (table : CountTable) : Nat :=
  table.foldl (fun w entry => max w entry.2.shown.length) 0

def alignRight (width : Nat) (s : String) : String :=
  String.ofList (List.replicate (width - s.length) ' ') ++ s

def nameText : Value → CodeString
  | .text s => s
  | v => v.quoted

def line (width : Nat) (r : Row) : CodeString :=
  .ofString (alignRight width (countText r.count) ++ " ") ++ nameText r.name

/-- The lines of a table. All counts are written for their width before they are ordered, which a
count that is no number cannot be, and the names are written at the end. -/
def lines (table : CountTable) : Except Fault (List CodeString) :=
  if table.all (·.2.isShowable) then do
    let rs ← sortRows (← rows table)
    if table.all (·.1.isShowable) then .ok (rs.map (line table.width))
    else .error .integerTooLong
  else .error .integerTooLong

end CountTable

end ProofDriver

import ProofDriver.Sorting.Merge
/-!
# Sorting by runs

A stable merge sort for comparisons that can fail: the runs that a list already has are found, short
ones are made longer by insertion, and neighbours are merged in an order that keeps the merges
balanced. Where the comparisons come from an order, the outcome is the sorted list; where they
contradict one another, it hangs on which of them are made, and these are fixed.
-/

namespace ProofDriver.Sorting

variable {α ε : Type}

/-- The least length of a run: a list is halved until fewer than 64 elements remain, rounding up at
the end. -/
def leastRun (n : Nat) : Nat :=
  if n < 64 then n
  else
    let halvings := n.log2 - 5
    (n + (1 <<< halvings) - 1) >>> halvings

/-- How deep the border of two neighbouring runs lies in a list of `total` elements: the number of
binary digits in which the middles of the runs, as parts of the whole, first differ. -/
def depth (total start left right : Nat) : Nat :=
  let first := 2 * start + left
  let second := first + left + right
  match (List.range (total + 1)).find? fun k =>
      (first <<< k) / total != (second <<< k) / total with
  | some k => k + 1
  | none => total + 1

/-- A run in its place in the list, with the depth of its border to the next run. -/
structure Run (α : Type) where
  start : Nat
  items : List α
  depth : Nat := 0

variable (precedes : α → α → Except ε Bool)

/-- The longest beginning whose neighbours all go up, or all strictly go down. `run` is what was
found so far, the last first. -/
def climb (falling : Bool) (run : List α) (last : α) : List α → Except ε (List α × List α)
  | [] => .ok (run, [])
  | x :: rest =>
    match precedes x last with
    | .error e => .error e
    | .ok down =>
      if down == falling then climb falling (x :: run) x rest else .ok (run, x :: rest)

def naturalRun : List α → Except ε (List α × List α)
  | first :: second :: rest => do
    let falling ← precedes second first
    let (run, rest) ← climb precedes falling [second, first] second rest
    .ok (if falling then run else run.reverse, rest)
  | xs => .ok (xs, [])

def insertInto (run : List α) (x : α) : Except ε (List α) := do
  let i ← bisect (fun other => (precedes x other).map (!·)) true run 0 run.length
  .ok (run.take i ++ x :: run.drop i)

def nextRun (least : Nat) (xs : List α) : Except ε (List α × List α) := do
  let (run, rest) ← naturalRun precedes xs
  let missing := least - run.length
  let run ← (rest.take missing).foldlM (insertInto precedes) run
  .ok (run, rest.drop missing)

/-- The runs that wait to be merged, the last first. -/
structure Pending (α : Type) where
  runs : List (Run α) := []
  patience : Nat := longRun

def settle (depth patience : Nat) : List (Run α) → Except ε (Pending α)
  | last :: previous :: earlier =>
    if depth < previous.depth then do
      let (items, patience) ← merge precedes patience previous.items last.items
      settle depth patience (⟨previous.start, items, depth⟩ :: earlier)
    else .ok ⟨{ last with depth } :: previous :: earlier, patience⟩
  | [last] => .ok ⟨[{ last with depth }], patience⟩
  | [] => .ok ⟨[], patience⟩
termination_by runs => runs.length

def Pending.push (total : Nat) (pending : Pending α) (items : List α) : Except ε (Pending α) :=
  match pending.runs with
  | [] => .ok { pending with runs := [⟨0, items, 0⟩] }
  | last :: _ => do
    let border := depth total last.start last.items.length items.length
    let settled ← settle precedes border pending.patience pending.runs
    .ok { settled with runs := ⟨last.start + last.items.length, items, 0⟩ :: settled.runs }

/-- Finds the runs one after another. Each takes an element at least, so that as many steps as there
are elements are enough. -/
def gather (total : Nat) : (steps : Nat) → Pending α → List α → Except ε (Pending α)
  | 0, pending, _ => .ok pending
  | _ + 1, pending, [] => .ok pending
  | steps + 1, pending, xs => do
    let (items, rest) ← nextRun precedes (leastRun total) xs
    gather total steps (← pending.push precedes total items) rest

def mergeAll (patience : Nat) : List (Run α) → Except ε (List α)
  | last :: middle :: first :: earlier =>
    if first.items.length < last.items.length then do
      let (items, patience) ← merge precedes patience first.items middle.items
      mergeAll patience (last :: { first with items } :: earlier)
    else do
      let (items, patience) ← merge precedes patience middle.items last.items
      mergeAll patience ({ middle with items } :: first :: earlier)
  | [last, first] => do
    let (items, _) ← merge precedes patience first.items last.items
    .ok items
  | [run] => .ok run.items
  | [] => .ok []
termination_by runs => runs.length

def sort (xs : List α) : Except ε (List α) := do
  let pending ← gather precedes xs.length xs.length {} xs
  mergeAll precedes pending.patience pending.runs

end ProofDriver.Sorting

import ProofDriver.Sorting.Search
/-!
# Merging runs

Two neighbouring runs become one. The shorter one decides the end at which the work begins: from the
front the lesser of the two next elements goes first, from the back the greater. While one run wins
many times in a row, the number of its elements that go next is searched for instead.
-/

namespace ProofDriver.Sorting

variable {α ε : Type}

/-- A merge on its way. What remains of each run stands in the order in which it will be placed:
from the back the last element comes first. -/
structure Merging (α : Type) where
  fromFront : Bool
  /-- The elements that have found their place, the latest first. -/
  placed : List α := []
  left : List α
  right : List α
  /-- How many wins in a row make a search worth while. -/
  patience : Nat

/-- Single elements are compared, with the wins in a row of either run, or searches are made;
`again` tells later searches from the first. -/
inductive Pace where
  | single (leftWins rightWins : Nat)
  | search (again : Bool)

def longRun : Nat := 7

namespace Merging

def moveLeft (m : Merging α) (k : Nat) : Merging α :=
  { m with placed := (m.left.take k).reverse ++ m.placed, left := m.left.drop k }

def moveRight (m : Merging α) (k : Nat) : Merging α :=
  { m with placed := (m.right.take k).reverse ++ m.placed, right := m.right.drop k }

def leading (m : Merging α) : List α :=
  if m.fromFront then m.right else m.left

def waiting (m : Merging α) : List α :=
  if m.fromFront then m.left else m.right

/-- Nothing is left to compare once the leading run is used up. The last element of the other one is
known to go last. -/
def isOver (m : Merging α) : Bool :=
  match m.leading, m.waiting with
  | _ :: _, _ :: _ :: _ => false
  | _, _ => true

def toList (m : Merging α) : List α :=
  let inOrder := m.placed.reverse ++ m.leading ++ m.waiting
  if m.fromFront then inOrder else inOrder.reverse

variable (precedes : α → α → Except ε Bool)

def searchLeft (m : Merging α) : Except ε (Nat × Merging α) :=
  match m.right with
  | [] => .ok (0, m)
  | b :: _ => do
    let k ← gallop (fun a => (precedes b a).map (· != m.fromFront)) m.fromFront m.left
    let m := m.moveLeft k
    .ok (k, if m.isOver then m else m.moveRight 1)

def searchRight (m : Merging α) : Except ε (Nat × Merging α) :=
  match m.left with
  | [] => .ok (0, m)
  | a :: _ => do
    let k ← gallop (fun b => (precedes b a).map (· == m.fromFront)) m.fromFront m.right
    let m := m.moveRight k
    .ok (k, if m.isOver then m else m.moveLeft 1)

def singleStep (leftWins rightWins : Nat) (m : Merging α) : Except ε (Pace × Merging α) :=
  match m.left, m.right with
  | a :: _, b :: _ => do
    let (wins, pace, m) :=
      if (← precedes b a) == m.fromFront then
        (rightWins + 1, Pace.single 0 (rightWins + 1), m.moveRight 1)
      else (leftWins + 1, Pace.single (leftWins + 1) 0, m.moveLeft 1)
    .ok (if m.patience ≤ wins then .search false else pace, m)
  | _, _ => .ok (.single leftWins rightWins, m)

/-- Searches in one run and in the other. Searches that go on make the next ones come sooner, and
such that end make them come later. -/
def searchStep (again : Bool) (m : Merging α) : Except ε (Pace × Merging α) := do
  let patience := if again && 1 < m.patience then m.patience - 1 else m.patience
  let (leftWins, m) ← searchLeft precedes { m with patience }
  if m.isOver then .ok (.search true, m)
  else
    let (rightWins, m) ← searchRight precedes m
    if m.isOver || longRun ≤ leftWins || longRun ≤ rightWins then .ok (.search true, m)
    else .ok (.single 0 0, { m with patience := m.patience + 1 })

def run : (steps : Nat) → Pace → Merging α → Except ε (Merging α)
  | 0, _, m => .ok m
  | steps + 1, pace, m =>
    if m.isOver then .ok m
    else do
      let (pace, m) ← match pace with
        | .single leftWins rightWins => singleStep precedes leftWins rightWins m
        | .search again => searchStep precedes again m
      run steps pace m

end Merging

variable (precedes : α → α → Except ε Bool)

/-- Merges two runs, with the patience that is left for the next merge. What stands right already,
at the beginning of the left run and at the end of the right one, is left alone. -/
def merge (patience : Nat) (left right : List α) : Except ε (List α × Nat) :=
  match right with
  | [] => .ok (left, patience)
  | b :: _ => do
    let k ← gallop (fun a => (precedes b a).map (!·)) true left
    let before := left.take k
    let left := left.drop k
    match left.getLast? with
    | none => .ok (before ++ right, patience)
    | some a =>
      let j ← gallop (fun b => (precedes b a).map (!·)) false right.reverse
      let after := right.drop (right.length - j)
      let right := right.take (right.length - j)
      let start : Merging α :=
        if left.length ≤ right.length then
          Merging.moveRight { fromFront := true, left, right, patience } 1
        else
          Merging.moveLeft
            { fromFront := false, left := left.reverse, right := right.reverse, patience } 1
      if right.isEmpty then .ok (before ++ left ++ after, patience)
      else
        let m ← start.run precedes (left.length + right.length) (.single 0 0)
        .ok (before ++ m.toList ++ after, m.patience)

end ProofDriver.Sorting

/-!
# Searching in runs

How many elements at the beginning of a run pass a test that the elements after them fail. Which
elements are tested is fixed, so that there is an answer also where the tests do not fit together,
and a test that cannot be made ends the search.
-/

namespace ProofDriver.Sorting

variable {α ε : Type} (test : α → Except ε Bool)

/-- The answer between `low` and `high` by bisection. Of two elements in the middle the later one is
tested, or the earlier one. -/
def bisect (later : Bool) (xs : List α) (low high : Nat) : Except ε Nat :=
  if _h : low < high then
    let middle := low + (high - low - if later then 0 else 1) / 2
    match xs[middle]? with
    | none => .ok low
    | some x =>
      match test x with
      | .error e => .error e
      | .ok true => bisect later xs (middle + 1) high
      | .ok false => bisect later xs low middle
  else .ok low
termination_by high - low
decreasing_by all_goals grind

def bounds (xs : List α) (passed next : Nat) : Except ε (Nat × Nat) :=
  if _h : next < xs.length then
    match xs[next]? with
    | none => .ok (passed + 1, next)
    | some x =>
      match test x with
      | .error e => .error e
      | .ok true => bounds xs next (2 * next + 1)
      | .ok false => .ok (passed + 1, next)
  else .ok (passed + 1, xs.length)
termination_by xs.length - next

def gallop (later : Bool) (xs : List α) : Except ε Nat :=
  match xs with
  | [] => .ok 0
  | x :: _ => do
    if ← test x then
      let (low, high) ← bounds test xs 0 1
      bisect test later xs low high
    else .ok 0

end ProofDriver.Sorting

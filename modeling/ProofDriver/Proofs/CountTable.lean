import ProofDriver.CountTable
import ProofDriver.Proofs.Number
import ProofDriver.Proofs.Sorting
/-!
# Tables that can be shown

Showing a count table negates every count and compares rows, and it names nothing else of what a
prover reported. So a table that can be written out has its lines unless one of two things is in the
way: a count that is no number, which always is, or two equal counts under names that have no order,
which may be.
-/

namespace ProofDriver

open Except (Meets)

namespace CountTable

variable {table : CountTable}

def Counted (table : CountTable) : Prop :=
  ∀ entry ∈ table, entry.2.number?.isSome = true

instance (table : CountTable) : Decidable table.Counted :=
  List.decidableBAll _ table

def Named (table : CountTable) : Prop :=
  ∀ entry ∈ table, ∃ name, entry.1 = .text name

instance (v : Value) : Decidable (∃ name, v = .text name) :=
  match v with
  | .text name => isTrue ⟨name, rfl⟩
  | .null | .bool _ | .int _ | .real _ | .bytes _ | .list _ | .object _ => isFalse nofun

instance (table : CountTable) : Decidable table.Named :=
  List.decidableBAll _ table

def Showable (table : CountTable) : Prop :=
  ∀ entry ∈ table, entry.1.isShowable = true ∧ entry.2.isShowable = true

instance (table : CountTable) : Decidable table.Showable :=
  List.decidableBAll _ table

structure Orderless (a b : Value) : Prop where
  different : sameName a b = false
  texts : ∀ s t, a = .text s → b ≠ .text t
  numbers : a.number? = none ∨ b.number? = none

/-- What can be in the way of showing a table, as the fault that it is. -/
inductive Obstacle (table : CountTable) : Fault → Prop
  | count {name count} : (name, count) ∈ table → count.number? = none →
      Obstacle table (.noNegation count.typeName)
  | names {name name' count count' m n} : (name, count) ∈ table → (name', count') ∈ table →
      count.number? = some m → count'.number? = some n → m.compare? n = some .eq →
      Orderless name name' → Obstacle table (.noOrder name.typeName name'.typeName)
  | hidden : ¬ table.Showable → Obstacle table .integerTooLong

theorem Obstacle.kind {f : Fault} (showable : table.Showable) (obstacle : table.Obstacle f) :
    f.kind = .type := by
  cases obstacle with
  | count => rfl
  | names => rfl
  | hidden absurd => exact (absurd showable).elim

theorem not_obstacle (showable : table.Showable) (counted : table.Counted) (named : table.Named)
    (f : Fault) : ¬ table.Obstacle f := by
  intro obstacle
  cases obstacle with
  | hidden absurd => exact absurd showable
  | count mem uncounted =>
    have number := counted _ mem
    rw [uncounted] at number
    cases number
  | names mem mem' _ _ _ orderless =>
    obtain ⟨s, first⟩ := named _ mem
    obtain ⟨t, second⟩ := named _ mem'
    exact orderless.texts s t first second

/-! ## Rows -/

structure Row.Of (table : CountTable) (r : Row) : Prop where
  mem : (r.name, r.count) ∈ table
  weight : ∃ n, r.count.number? = some n ∧ r.weight = n.neg

theorem meets_rows (table : CountTable) :
    (rows table).Meets
      (fun f => ∃ entry ∈ table, entry.2.number? = none ∧ f = .noNegation entry.2.typeName)
      (fun rs => table.Counted ∧ ∀ r ∈ rs, Row.Of table r) := by
  induction table with
  | nil => exact ⟨fun entry mem => (by cases mem), fun r mem => (by cases mem)⟩
  | cons entry rest ih =>
    obtain ⟨name, count⟩ := entry
    unfold rows row
    cases number : count.number? with
    | none => exact ⟨_, List.mem_cons_self, number, rfl⟩
    | some n =>
      cases made : rows rest with
      | error f =>
        obtain ⟨entry, mem, uncounted, rfl⟩ := ih.error made
        exact ⟨entry, List.mem_cons_of_mem _ mem, uncounted, rfl⟩
      | ok rs =>
        obtain ⟨counted, others⟩ := ih.ok made
        refine ⟨List.forall_mem_cons.mpr ⟨by simp [number], counted⟩,
          List.forall_mem_cons.mpr ⟨⟨List.mem_cons_self, n, number, rfl⟩, fun r mem => ?_⟩⟩
        obtain ⟨mem', weight⟩ := others r mem
        exact ⟨List.mem_cons_of_mem _ mem', weight⟩

theorem meets_precedes {a b : Row} (first : Row.Of table a) (second : Row.Of table b) :
    (a.precedes b).Meets table.Obstacle fun _ => True := by
  unfold Row.precedes
  split
  · rename_i equal
    split
    · trivial
    · rename_i different
      split
      · trivial
      · rename_i texts
        split
        · trivial
        · rename_i numbers
          -- The weights are the counts negated, so they are equal just as the counts are.
          obtain ⟨m, hm, weight⟩ := first.weight
          obtain ⟨n, hn, weight'⟩ := second.weight
          rw [weight, weight', Number.compare?_neg, beq_iff_eq] at equal
          have same : m.compare? n = some .eq := by
            rw [Number.compare?_swap n m, equal]
            rfl
          refine .names first.mem second.mem hm hn same ⟨by simpa using different, ?_, ?_⟩
          · exact fun s t first second => texts s t first second
          · cases left : a.name.number? with
            | none => exact .inl rfl
            | some x =>
              cases right : b.name.number? with
              | none => exact .inr rfl
              | some y => exact absurd right (numbers x y left)
  · trivial

/-! ## Lines -/

theorem meets_lines (table : CountTable) :
    table.lines.Meets table.Obstacle fun _ => table.Counted := by
  unfold lines
  split
  case isFalse hidden =>
    refine .hidden fun showable => hidden (List.all_eq_true.mpr fun entry mem => ?_)
    exact (showable entry mem).2
  case isTrue =>
    have made : table.rows.Meets table.Obstacle fun rs =>
        table.Counted ∧ ∀ r ∈ rs, Row.Of table r := by
      refine (meets_rows table).imp_error ?_
      rintro f ⟨⟨name, count⟩, mem, uncounted, rfl⟩
      exact .count mem uncounted
    refine made.bind fun rs ⟨counted, rows⟩ => ?_
    have sorted : (sortRows rs).Meets table.Obstacle fun _ => True := by
      unfold sortRows
      split
      · trivial
      · exact (Sorting.meets_sort (fun a b => meets_precedes) rows).imp fun _ _ => trivial
    refine sorted.bind fun _ _ => ?_
    split
    case isTrue => exact counted
    case isFalse hidden =>
      refine .hidden fun showable => hidden (List.all_eq_true.mpr fun entry mem => ?_)
      exact (showable entry mem).1

end CountTable

end ProofDriver

import ProofDriver.Proofs.Delivery.Errors
import ProofDriver.Proofs.Delivery.Preview
import ProofDriver.Proofs.Prover.Launch
import ProofDriver.Proofs.Prover.Reports
/-!
# Noting the report of an external prover

The tables of a report are taken as the prover printed them, so counts need not be numbers and names
need not be texts. A report that is as it should be is always noted; over any other one a preview
can fail that has its public values already. Integers of too many digits are no obstacle here, since
no result line with one is read, but an index of so many cannot be named when it is refused.
-/

namespace ProofDriver

namespace Execution

/-- The names and counts of a report can be shown wherever a message is made. -/
def Shallow (r : Execution) : Prop :=
  ∀ entry ∈ r.opcodeCounts ++ r.syscallCounts,
    entry.1.depth ≤ Value.roomToShow ∧ entry.2.depth ≤ Value.roomToShow

instance (r : Execution) : Decidable r.Shallow :=
  List.decidableBAll _ _

end Execution

namespace Delivery

open Prover.External (printing)
open World (Asked)

variable {τ : Type}

/-- Of the index and of the public values a preview says in categories that it refuses them, if it can
name the index. -/
theorem Previewed.failed {client : Client τ} {n : Value} {w w' : World τ} {e : Failure}
    (previewed : Previewed client n w (.error e) w') (nameable : GuestInput.Nameable n) :
    e.Within [.invalidInput, .encoding] ∨
      ∃ input answer, GuestInput.ofValue n = .ok input ∧
        Asked (client.execute input) w answer w' ∧
        (answer = .error e ∨ ∃ report f, answer = .ok report ∧ report.Obstacle f ∧
          e = .fault f) := by
  cases previewed with
  | refused invalid =>
    exact .inl ((GuestInput.within_of_ofValue nameable invalid).mono (by decide))
  | unexecuted valid asked => exact .inr ⟨_, _, valid, asked, .inl rfl⟩
  | undecodable valid asked refused =>
    have category := PublicValues.category_of_decode _ refused
    exact .inl ⟨_, rfl, by simp [category]⟩
  | noted valid asked decoded met =>
    obtain ⟨f, rfl, obstacle⟩ := met
    exact .inr ⟨_, _, valid, asked, .inr ⟨_, f, rfl, obstacle, rfl⟩⟩

/-- A report that an execution returned, its names being texts, is noted if all its counts are
numbers, and only then; any other one is noted or fails over an obstacle in its tables, of the kind
of a wrong type. So a preview raises nothing but a refusal of the index or of the public values and
what the execution raised, unless it comes to a report with names that are no texts or counts that
are no numbers; or unless the index cannot be named, over which it fails before anything is called. -/
theorem preview_raises (p : Prover.External) (host : Host τ) (env : Environment) :
    (∀ (input : GuestInput) (d d' : Desk (ExternalState τ)) (report : Execution),
      (p.execute host env input).run d = (.ok report, d') →
        ∀ w : World (ExternalState τ),
          (report.Named →
            ((∃ w', (Strategy.noteExecution report).run w = (.ok (), w')) ↔ report.Counted)) ∧
          (report.Shallow → (Strategy.noteExecution report).Ends w fun r _ =>
            ∀ e, r = .error e → ∃ f, report.Obstacle f ∧ f.kind = .type ∧ e = .fault f)) ∧
    ∀ (n : Value) (w : World (ExternalState τ)),
      (GuestInput.Nameable n →
        (preview (p.client host env) n).Ends w fun r w' => ∀ e, r = .error e →
          e.Within [.invalidInput, .encoding] ∨
            ∃ input answer, GuestInput.ofValue n = .ok input ∧
              Asked (p.execute host env input) w answer w' ∧
              (answer = .error e ∨ ∃ report, answer = .ok report ∧
                (report.Named → ¬ report.Counted) ∧
                (report.Shallow → ∃ f, report.Obstacle f ∧ f.kind = .type ∧ e = .fault f))) ∧
      (¬ GuestInput.Nameable n →
        (preview (p.client host env) n).run w = (.error (.fault .integerTooLong), w)) := by
  refine ⟨fun input d d' report returned w => ?_, fun n w => ⟨fun nameable => ?_, ?_⟩⟩
  · have showable : report.Showable := Prover.External.showable_of_execute returned
    refine ⟨fun named => Strategy.run_noteExecution_iff showable named w, fun _ => ?_⟩
    refine (Strategy.noteExecution_ends report w).imp fun r w' met e failed => ?_
    obtain ⟨f, fault, obstacle⟩ := met.error failed
    exact ⟨f, obstacle, obstacle.kind showable, fault⟩
  · refine (preview_ends (p.client host env) n w).imp fun r w' previewed e failed => ?_
    subst failed
    refine (previewed.failed nameable).imp_right fun ⟨input, answer, valid, asked, why⟩ =>
      ⟨input, answer, valid, asked, why.imp_right ?_⟩
    rintro ⟨report, f, rfl, obstacle, fault⟩
    have showable : report.Showable := by
      obtain ⟨-, before, after, executed⟩ := asked
      exact Prover.External.showable_of_execute executed
    exact ⟨report, rfl, fun named counted => Execution.not_obstacle showable counted named f obstacle,
      fun _ => ⟨f, obstacle, obstacle.kind showable, fault⟩⟩
  · intro unnameable
    unfold preview
    rw [GuestInput.ofValue_of_not_nameable unnameable]
    rfl

def uneven : String :=
  "\x7b\"publicValues\": \"\", \"cycles\": 3, \"opcodeCounts\": " ++
    "\x7b\"ADD\": NaN, \"MUL\": true, \"SUB\": 0.0\x7d\x7d"

/-- The report that a process prints with such counts is noted. -/
theorem exists_noted_report :
    ∃ report d', (unheard.execute (printing uneven) [] (.ofIndex 7)).run unasked.toDesk =
        (.ok report, d') ∧
      report.Named ∧ (∃ entry ∈ report.opcodeCounts, entry.2.typeName = "float") ∧
      ∃ w', (Strategy.noteExecution report).run unasked = (.ok (), w') := by
  have printed : (((unheard.execute (printing uneven) [] (.ofIndex 7)).run
      unasked.toDesk).1.toOption.any fun report => decide (report.Named ∧ report.Counted ∧
        ∃ entry ∈ report.opcodeCounts, entry.2.typeName = "float")) = true := by
    decide +kernel
  obtain ⟨report, returned, shape⟩ := Except.exists_of_any printed
  obtain ⟨named, counted, float⟩ := of_decide_eq_true shape
  have executed := Prod.mk.eta.symm.trans (congrArg (·, _) returned)
  have raises := (preview_raises unheard (printing uneven) []).1 _ _ _ _ executed unasked
  exact ⟨report, _, executed, named, float, (raises.1 named).mpr counted⟩

/-- An execution can return a report that cannot be noted: a text has no negation. -/
theorem exists_unnoted_report :
    let stdout :=
      "\x7b\"publicValues\": \"\", \"cycles\": 3, \"opcodeCounts\": \x7b\"ADD\": \"x\"\x7d\x7d"
    let executed := ((unheard.execute (printing stdout) [] (.ofIndex 7)).run unasked.toDesk).1
    ∃ report, executed = .ok report ∧
      ((Strategy.noteExecution report).run unasked).1 = .error (.fault (.noNegation "str")) := by
  intro stdout executed
  have returned : executed.isOk = true := by decide +kernel
  have noted : failureOf ((Act.ofOutcome executed >>= Strategy.noteExecution).run unasked).1 =
      some (.fault (.noNegation "str")) := by decide +kernel
  cases ran : executed with
  | error e =>
    rw [ran] at returned
    cases returned
  | ok report =>
    rw [ran] at noted
    exact ⟨report, rfl, failureOf_eq_some.mp noted⟩

end Delivery

end ProofDriver

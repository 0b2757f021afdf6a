import ProofDriver.Delivery
import ProofDriver.Proofs.CountTable
import ProofDriver.Proofs.World
/-!
# Previews

How a preview ends. Its index or its public values can be refused and its execution can fail; then
all that is left is to note the report in the journal. That comes to its end unless an obstacle is
in the way of showing one of the tables, and with tables of texts and numbers there is none, if they
can be written out.
-/

namespace ProofDriver

open Except (Meets)

namespace CountTable

variable {table : CountTable}

def Tidy (table : CountTable) : Prop :=
  ∀ entry ∈ table, ∃ name count, entry = (.text name, .int count) ∧ Numeral.isShort count = true

theorem Tidy.showable (tidy : table.Tidy) : table.Showable := by
  intro entry mem
  obtain ⟨name, count, rfl, short⟩ := tidy entry mem
  exact ⟨rfl, short⟩

theorem Tidy.counted (tidy : table.Tidy) : table.Counted := by
  intro entry mem
  obtain ⟨name, count, rfl, -⟩ := tidy entry mem
  rfl

theorem Tidy.named (tidy : table.Tidy) : table.Named := by
  intro entry mem
  obtain ⟨name, count, rfl, -⟩ := tidy entry mem
  exact ⟨name, rfl⟩

end CountTable

namespace Execution

def Counted (r : Execution) : Prop :=
  r.opcodeCounts.Counted ∧ r.syscallCounts.Counted

def Named (r : Execution) : Prop :=
  r.opcodeCounts.Named ∧ r.syscallCounts.Named

instance (r : Execution) : Decidable r.Counted :=
  inferInstanceAs (Decidable (_ ∧ _))

instance (r : Execution) : Decidable r.Named :=
  inferInstanceAs (Decidable (_ ∧ _))

def Obstacle (r : Execution) (f : Fault) : Prop :=
  r.opcodeCounts.Obstacle f ∨ r.syscallCounts.Obstacle f

def Showable (r : Execution) : Prop :=
  r.opcodeCounts.Showable ∧ r.syscallCounts.Showable

theorem not_obstacle {r : Execution} (showable : r.Showable) (counted : r.Counted)
    (named : r.Named) (f : Fault) : ¬ r.Obstacle f := by
  rintro (opcodes | syscalls)
  · exact CountTable.not_obstacle showable.1 counted.1 named.1 f opcodes
  · exact CountTable.not_obstacle showable.2 counted.2 named.2 f syscalls

theorem Obstacle.kind {r : Execution} {f : Fault} (obstacle : r.Obstacle f)
    (showable : r.Showable) : f.kind = .type :=
  obstacle.elim (CountTable.Obstacle.kind showable.1) (CountTable.Obstacle.kind showable.2)

end Execution

namespace Act.Closed

variable {σ : Type} {P : (α : Type) → Act (World σ) α → Prop}

theorem noteLines (h : Closed P) (lines : List CodeString) : P _ (Strategy.noteLines lines) := by
  induction lines with
  | nil => exact h.ofOutcome _
  | cons line rest ih => exact h.log_bind ih

theorem noteTable (h : Closed P) (title : String) (table : CountTable) :
    P _ (Strategy.noteTable title table) :=
  h.ite (h.ofOutcome _) (h.log_bind (h.bind (h.ofOutcome _) h.noteLines))

theorem noteExecution (h : Closed P) (report : Execution) :
    P _ (Strategy.noteExecution report) := by
  refine h.log_bind (h.bind (h.noteTable _ _) fun _ => h.bind (h.noteTable _ _) fun _ => ?_)
  exact h.ite (h.log (by decide)) (h.ofOutcome _)

theorem preview (h : Closed P) {client : Client σ}
    (execute : ∀ input, P _ (World.ask (client.execute input))) (n : Value) :
    P _ (Delivery.preview client n) := by
  refine h.bind (h.ofOutcome _) fun input => h.bind (execute input) fun report =>
    h.bind (h.ofOutcome _) fun values => ?_
  refine h.log_bind (h.log_bind (h.log_bind (h.log_bind ?_)))
  exact h.bind (h.noteExecution report) fun _ => h.ofOutcome _

end Act.Closed

namespace Strategy

variable {σ : Type}

/-! ## Notes in the journal -/

theorem run_noteLines (lines : List CodeString) (w : World σ) :
    ∃ w', (noteLines lines).run w = (.ok (), w') := by
  induction lines generalizing w with
  | nil => exact ⟨w, rfl⟩
  | cons line rest ih =>
    obtain ⟨w', noted⟩ := ih _
    exact ⟨w', (Act.run_bind_of_ok (World.run_log ..) _).trans noted⟩

theorem run_warnIfLong (cycles : Int) (w : World σ) :
    ∃ w', (warnIfLong cycles).run w = (.ok (), w') := by
  unfold warnIfLong
  split
  · exact ⟨_, rfl⟩
  · exact ⟨_, rfl⟩

theorem noteTable_ends (title : String) (table : CountTable) (w : World σ) :
    (noteTable title table).Ends w fun r _ =>
      r.Meets (fun e => ∃ f, e = .fault f ∧ table.Obstacle f) fun _ => table.Counted := by
  unfold noteTable
  split
  · rename_i empty
    rw [List.isEmpty_iff.mp empty]
    exact fun entry mem => by cases mem
  · refine .log fun w₁ _ => ?_
    cases made : table.lines with
    | error f =>
      refine .bind_error (e := .fault f) (t := w₁) rfl ?_
      exact ⟨f, rfl, (CountTable.meets_lines table).error made⟩
    | ok lines =>
      obtain ⟨w₂, noted⟩ := run_noteLines lines w₁
      refine .bind_ok (a := lines) (t := w₁) rfl (.of_run noted ?_)
      exact (CountTable.meets_lines table).ok made

theorem noteExecution_ends (report : Execution) (w : World σ) :
    (noteExecution report).Ends w fun r _ =>
      r.Meets (fun e => ∃ f, e = .fault f ∧ report.Obstacle f) fun _ => report.Counted := by
  refine .log fun w₁ _ => ?_
  apply Act.Ends.bind
  case error =>
    intro e w₂ run
    obtain ⟨f, rfl, obstacle⟩ := (noteTable_ends _ _ _).run_eq run
    exact ⟨f, rfl, .inl obstacle⟩
  case ok =>
    intro _ w₂ run
    have opcodes : report.opcodeCounts.Counted := (noteTable_ends _ _ _).run_eq run
    apply Act.Ends.bind
    case error =>
      intro e w₃ run
      obtain ⟨f, rfl, obstacle⟩ := (noteTable_ends _ _ _).run_eq run
      exact ⟨f, rfl, .inr obstacle⟩
    case ok =>
      intro _ w₃ run
      have syscalls : report.syscallCounts.Counted := (noteTable_ends _ _ _).run_eq run
      obtain ⟨w₄, warned⟩ := run_warnIfLong report.cycles w₃
      exact .of_run warned ⟨opcodes, syscalls⟩

/-- A report that can be shown, its names being texts, is noted if all its counts are numbers, and
only then. -/
theorem run_noteExecution_iff {report : Execution} (showable : report.Showable)
    (named : report.Named) (w : World σ) :
    (∃ w', (noteExecution report).run w = (.ok (), w')) ↔ report.Counted := by
  have ends := noteExecution_ends report w
  constructor
  · rintro ⟨w', noted⟩
    exact ends.run_eq noted
  · intro counted
    rcases noted : (noteExecution report).run w with ⟨r, w'⟩
    replace ends := ends.run_eq noted
    cases r with
    | ok _ => exact ⟨w', rfl⟩
    | error e =>
      obtain ⟨f, -, obstacle⟩ := ends
      exact absurd obstacle (Execution.not_obstacle showable counted named f)

end Strategy

namespace Delivery

open World (Asked Observed)

variable {σ : Type} {client : Client σ} {n : Value} {w w' : World σ}

/-! ## Courses of a preview -/

inductive Previewed (client : Client σ) (n : Value) (w : World σ) :
    Outcome (Execution × PublicValues) → World σ → Prop
  | refused {e} : GuestInput.ofValue n = .error e → Previewed client n w (.error e) w
  | unexecuted {input e w'} : GuestInput.ofValue n = .ok input →
      Asked (client.execute input) w (.error e) w' → Previewed client n w (.error e) w'
  | undecodable {input report e w'} : GuestInput.ofValue n = .ok input →
      Asked (client.execute input) w (.ok report) w' →
      PublicValues.decode report.publicValues = .error e →
      Previewed client n w (.error (.driver e)) w'
  | noted {input report values r w'} : GuestInput.ofValue n = .ok input →
      Asked (client.execute input) w (.ok report) w' →
      PublicValues.decode report.publicValues = .ok values →
      r.Meets (fun e => ∃ f, e = .fault f ∧ report.Obstacle f)
        (fun result => result = (report, values)) →
      Previewed client n w r w'

theorem preview_ends (client : Client σ) (n : Value) (w : World σ) :
    (preview client n).Ends w (Previewed client n w) := by
  unfold preview
  cases valid : GuestInput.ofValue n with
  | error e => exact .bind_error (e := e) (t := w) rfl (.refused valid)
  | ok input =>
    refine .bind_ok (a := input) (t := w) rfl ?_
    apply Act.Ends.bind
    case error =>
      intro e w₁ run
      exact .unexecuted valid (World.asked_of_run run)
    case ok =>
      intro report w₁ run
      have asked := World.asked_of_run run
      cases decoded : PublicValues.decode report.publicValues with
      | error e =>
        exact .bind_error (e := .driver e) (t := w₁) rfl
          (.undecodable valid asked decoded)
      | ok values =>
        refine .bind_ok (a := values) (t := w₁) rfl ?_
        refine .log fun _ o₁ => .log fun _ o₂ => .log fun _ o₃ => .log fun w₂ o₄ => ?_
        have before : w₁.Observed w₂ := ((o₁.trans o₂).trans o₃).trans o₄
        have observed := Act.closed_observes.noteExecution report w₂
        apply Act.Ends.bind
        case error =>
          intro e w₃ run
          have asked' := asked.observed (before.trans (observed.run_eq run))
          exact .noted valid asked' decoded ((Strategy.noteExecution_ends report w₂).run_eq run)
        case ok =>
          intro _ w₃ run
          have asked' := asked.observed (before.trans (observed.run_eq run))
          exact .noted valid asked' decoded (by rfl)

theorem preview_ok {report : Execution} {values : PublicValues}
    (h : (preview client n).run w = (.ok (report, values), w')) :
    ∃ input, GuestInput.ofValue n = .ok input ∧ Asked (client.execute input) w (.ok report) w' ∧
      PublicValues.decode report.publicValues = .ok values := by
  cases (preview_ends client n w).run_eq h with
  | noted valid asked decoded met =>
    cases met
    exact ⟨_, valid, asked, decoded⟩

theorem preview_ends_of_answer {input : GuestInput} {report : Execution} {values : PublicValues}
    (valid : GuestInput.ofValue n = .ok input)
    (asked : (World.ask (client.execute input)).run w = (.ok report, w'))
    (decoded : PublicValues.decode report.publicValues = .ok values)
    (opcodes : report.opcodeCounts.Tidy) (syscalls : report.syscallCounts.Tidy) :
    (preview client n).Ends w fun r _ => r = .ok (report, values) := by
  unfold preview
  rw [valid]
  refine .bind_ok (a := input) (t := w) rfl (.bind_ok asked ?_)
  refine .bind_ok (a := values) (t := w') (by rw [Act.run_ofDriver, decoded]; rfl) ?_
  refine .log fun w₁ _ => .log fun w₂ _ => .log fun w₃ _ => .log fun w₄ _ => ?_
  obtain ⟨w₅, noted⟩ := (Strategy.run_noteExecution_iff ⟨opcodes.showable, syscalls.showable⟩
    ⟨opcodes.named, syscalls.named⟩ w₄).mpr ⟨opcodes.counted, syscalls.counted⟩
  exact .bind_ok noted rfl

end Delivery

end ProofDriver

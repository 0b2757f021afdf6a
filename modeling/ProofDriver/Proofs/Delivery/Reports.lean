import ProofDriver.Proofs.Delivery.Calm
import ProofDriver.Proofs.Prover.Records
/-!
# Reports on calls

Each call that proves or wraps is due a report if both samples around it came out. Metering a call
of a client whose work does not go by the journal changes nothing about the call, and what the sink
receives is the report that is due.
-/

namespace ProofDriver

variable {σ α β : Type}

/-! ## The reports that are due -/

/-- The stage that a call is metered as and whether the call came to something. Only the calls that
prove and wrap are metered. -/
def Event.metered? : Event → Option (String × Bool)
  | prove _ mode r => some ("prove " ++ mode.name, r.isOk)
  | wrap _ r => some ("wrap plonk", r.isOk)
  | _ => none

def Usage.ofSamples? (stage : String) (ok : Bool) :
    Except Fault Sample → Except Fault Sample → Option Usage
  | .ok before, .ok after => some (between stage before after ok)
  | _, _ => none

/-- The reports that metered calls are due. Each call takes the next two samples, and a machine
without samples gives empty ones. -/
def Usage.due : List (Except Fault Sample) → List (String × Bool) → List Usage
  | _, [] => []
  | samples, (stage, ok) :: calls =>
    (ofSamples? stage ok (samples.headD (.ok {})) (samples.tail.headD (.ok {}))).toList ++
      due (samples.drop 2) calls

theorem Usage.due_append (samples : List (Except Fault Sample)) (calls more : List (String × Bool)) :
    due samples (calls ++ more) =
      due samples calls ++ due (samples.drop (2 * calls.length)) more := by
  induction calls generalizing samples with
  | nil => rfl
  | cons call calls ih =>
    have skip : (samples.drop 2).drop (2 * calls.length) =
        samples.drop (2 * (call :: calls).length) := by
      rw [List.drop_drop, List.length_cons, Nat.mul_add, Nat.add_comm]
    rw [List.cons_append, due, due, ih, skip, List.append_assoc]

def Record.usage? : Record → Option String
  | ⟨.info, .metering, line⟩ => some line
  | _ => none

def Record.Foreign (record : Record) : Prop :=
  record.source ≠ .metering

theorem Record.Foreign.usage? {record : Record} (h : record.Foreign) :
    record.usage? = none := by
  obtain ⟨level, source, message⟩ := record
  cases source with
  | metering => exact absurd rfl h
  | _ => cases level <;> rfl

def Journal.usage (journal : Journal) : List String :=
  journal.filterMap Record.usage?

theorem Journal.usage_append (journal records : Journal) :
    usage (journal ++ records) = journal.usage ++ usage records :=
  List.filterMap_append

theorem Journal.usage_eq_nil {records : Journal} (h : ∀ r ∈ records, r.Foreign) :
    records.usage = [] :=
  List.filterMap_eq_nil_iff.mpr fun r mem => (h r mem).usage?

/-- The sink received these reports between two worlds. The journal receives a report as its line,
and a report that has no line is dropped. -/
def Sink.Received (sink : Sink) (w w' : World σ) (reports : List Usage) : Prop :=
  match sink with
  | .receiver _ => w'.reports = w.reports ++ reports
  | .journal => w'.journal.usage = w.journal.usage ++ reports.filterMap fun r => r.line.toOption

namespace Sink.Received

variable {sink : Sink} {w₁ w₂ w₃ : World σ}

theorem nil (reports : w₂.reports = w₁.reports) (usage : w₂.journal.usage = w₁.journal.usage) :
    sink.Received w₁ w₂ [] := by
  cases sink with
  | journal => exact usage.trans (List.append_nil _).symm
  | receiver => exact reports.trans (List.append_nil _).symm

theorem append {first second : List Usage} (h₁ : sink.Received w₁ w₂ first)
    (h₂ : sink.Received w₂ w₃ second) : sink.Received w₁ w₃ (first ++ second) := by
  cases sink with
  | journal =>
    simp only [Received] at h₁ h₂ ⊢
    rw [h₂, h₁, List.filterMap_append, List.append_assoc]
  | receiver =>
    simp only [Received] at h₁ h₂ ⊢
    rw [h₂, h₁, List.append_assoc]

theorem untraced {w w' : World (σ × List Event)} {reports : List Usage}
    (h : sink.Received w w' reports) : sink.Received w.untraced w'.untraced reports := by
  cases sink with
  | journal => exact h
  | receiver => exact h

end Sink.Received

/-! ## What metering does -/

theorem Unobtrusive.sampled {sink : Sink} {m m' : Machine} (calm : Unobtrusive sink m)
    (next : m'.samples = m.samples.tail) : Unobtrusive sink m' := by
  refine ⟨fun f mem => calm.samples f ?_, calm.sink⟩
  rw [next] at mem
  exact List.mem_of_mem_tail mem

namespace World

/-- From `w` to `w'` nothing changed but the samples that are left and the journal, which has no
new usage reports. -/
structure Aside (w w' : World σ) : Prop extends w.Observed w' where
  reports : w'.reports = w.reports
  usage : w'.journal.usage = w.journal.usage
  memory : w'.machine.totalMemory = w.machine.totalMemory

theorem run_nextSample (w : World σ) :
    (nextSample : Act (World σ) _).run w = (.ok (w.machine.samples.headD (.ok {})),
      { w with machine := { w.machine with samples := w.machine.samples.tail } }) := by
  obtain ⟨desk, disk, ⟨samples, totalMemory⟩, reports⟩ := w
  cases samples <;> rfl

theorem takeSample_ends (stage : String) {w : World σ} (calm : w.machine.Samples) :
    (takeSample stage : Act (World σ) _).Ends w fun r w' =>
      r = .ok (w.machine.samples.headD (.ok {})).toOption ∧ w.Aside w' ∧
        w'.machine.samples = w.machine.samples.tail := by
  refine .bind_ok (run_nextSample w) ?_
  cases next : w.machine.samples.headD (.ok {}) with
  | ok s => exact ⟨rfl, ⟨⟨rfl, rfl⟩, rfl, rfl, rfl⟩, rfl⟩
  | error f =>
    have sampling : isSamplingFault f = true := by
      cases left : w.machine.samples with
      | nil =>
        rw [left] at next
        cases next
      | cons first rest =>
        rw [left] at next
        refine calm f ?_
        rw [left]
        exact List.mem_cons.mpr (.inl next.symm)
    dsimp only
    rw [if_pos sampling]
    refine .bind_ok (run_log ..) ⟨rfl, ⟨⟨rfl, rfl⟩, rfl, ?_, rfl⟩, rfl⟩
    exact (Journal.usage_append _ _).trans (List.append_nil _)

theorem offer_ends (sink : Sink) (r : Usage) (w : World σ) :
    (offer sink r : Act (World σ) Unit).Ends w fun _ w' =>
      w'.machine = w.machine ∧ sink.Received w w' [r] := by
  cases sink with
  | journal =>
    unfold offer noteUsage Sink.Received
    cases line : r.line with
    | ok text =>
      refine .bind_ok (a := text) (t := w) rfl ⟨rfl, ?_⟩
      simp only [List.filterMap_cons, line]
      exact Journal.usage_append _ _
    | error f =>
      refine ⟨rfl, ?_⟩
      simp only [List.filterMap_cons, line]
      exact (List.append_nil _).symm
  | receiver respond =>
    refine .bind_ok (Act.run_get w) (.bind_ok (Act.run_modify _ w) ?_)
    cases respond w.reports r with
    | none => exact ⟨rfl, rfl⟩
    | some e => exact ⟨rfl, rfl⟩

theorem handOver_ends {sink : Sink} (r : Usage) {w : World σ} (calm : Unobtrusive sink w.machine) :
    (handOver sink r : Act (World σ) Unit).Ends w fun answer w' =>
      answer = .ok () ∧ w.Observed w' ∧ w'.machine = w.machine ∧ sink.Received w w' [r] := by
  have offered := offer_ends sink r w
  rcases ran : (offer sink r).run w with ⟨answer, w₁⟩
  obtain ⟨machine, received⟩ := offered.run_eq ran
  have attempted : (offer sink r).attempt.run w = (.ok answer, w₁) := by
    rw [Act.run_attempt, ran]
  obtain ⟨⟨_, same, ordinary⟩, observed, -⟩ := (silent_attempt_offer r w calm).run_eq attempted
  cases same
  refine .bind_ok attempted ?_
  cases answer with
  | ok _ => exact ⟨rfl, observed, machine, received⟩
  | error e =>
    dsimp only
    rw [if_pos (ordinary e rfl)]
    refine ⟨rfl, observed.trans ⟨rfl, rfl⟩, machine, ?_⟩
    rw [← List.append_nil [r]]
    refine received.append (.nil rfl ?_)
    exact (Journal.usage_append _ _).trans (List.append_nil _)

/-! ## The calls of a traced client -/

variable {sink : Sink} {w w₁ w₂ w₃ w' : World (σ × List Event)}

/-- From `w` to `w'` the client received the calls of `events`, the metered ones each between two
samples, and the sink received the reports that these calls are due. -/
structure Tallied (sink : Sink) (events : List Event) (w w' : World (σ × List Event)) : Prop where
  trace : w'.trace = w.trace ++ events
  samples : w'.machine.samples =
    w.machine.samples.drop (2 * (events.filterMap Event.metered?).length)
  received : sink.Received w w' (Usage.due w.machine.samples (events.filterMap Event.metered?))

theorem Tallied.append {first second : List Event} (h₁ : Tallied sink first w₁ w₂)
    (h₂ : Tallied sink second w₂ w₃) : Tallied sink (first ++ second) w₁ w₃ where
  trace := by rw [h₂.trace, h₁.trace, List.append_assoc]
  samples := by
    rw [h₂.samples, h₁.samples, List.drop_drop, List.filterMap_append, List.length_append,
      Nat.mul_add]
  received := by
    rw [List.filterMap_append, Usage.due_append, ← h₁.samples]
    exact h₁.received.append h₂.received

theorem Tallied.aside (trace : w'.trace = w.trace) (samples : w'.machine.samples = w.machine.samples)
    (reports : w'.reports = w.reports) (usage : w'.journal.usage = w.journal.usage) :
    Tallied sink [] w w' :=
  ⟨trace.trans (List.append_nil _).symm, samples, .nil reports usage⟩

/-- What asking a traced client for `work` does. It depends on the state of the client in `w`
alone. -/
structure Answered (event : Outcome α → Event) (work : Act (Desk σ) α)
    (w : World (σ × List Event)) (r : Outcome α) (w' : World (σ × List Event)) : Prop where
  outcome : r = (work.run ⟨w.client.1, []⟩).1
  client : w'.client = ((work.run ⟨w.client.1, []⟩).2.client, w.trace ++ [event r])
  disk : w'.disk = w.disk
  machine : w'.machine = w.machine
  reports : w'.reports = w.reports
  usage : w'.journal.usage = w.journal.usage

theorem ask_ends_answered (event : Outcome α → Event) {work : Act (Desk σ) α}
    (writes : work.WritesOnly Record.Foreign) (w : World (σ × List Event)) :
    (ask (Client.tracing event work)).Ends w (Answered event work w) := by
  obtain ⟨records, run, foreign⟩ := writes.run_eq ⟨w.client.1, w.journal⟩
  have asked := run_ask (Client.tracing event work) w
  rw [Client.run_tracing, run] at asked
  refine .of_run asked ⟨rfl, rfl, rfl, rfl, rfl, ?_⟩
  rw [Journal.usage_append, Journal.usage_eq_nil foreign, List.append_nil]

/-- The client was asked for `work` between `w` and `w'`, and the sink received the report that is
due for the call if the call is metered. -/
structure Consulted (sink : Sink) (event : Outcome α → Event) (work : Act (Desk σ) α)
    (w : World (σ × List Event)) (r : Outcome α) (w' : World (σ × List Event)) : Prop where
  outcome : r = (work.run ⟨w.client.1, []⟩).1
  client : w'.client = ((work.run ⟨w.client.1, []⟩).2.client, w.trace ++ [event r])
  disk : w'.disk = w.disk
  memory : w'.machine.totalMemory = w.machine.totalMemory
  calm : Unobtrusive sink w'.machine
  tallied : Tallied sink [event r] w w'

theorem ask_ends_consulted {event : Outcome α → Event} {work : Act (Desk σ) α}
    (unmetered : ∀ r, (event r).metered? = none) (writes : work.WritesOnly Record.Foreign)
    (calm : Unobtrusive sink w.machine) :
    (ask (Client.tracing event work)).Ends w (Consulted sink event work w) := by
  refine (ask_ends_answered event writes w).imp fun r w' h => ?_
  have none : [event r].filterMap Event.metered? = [] :=
    List.filterMap_cons_none (unmetered r)
  refine ⟨h.outcome, h.client, h.disk, by rw [h.machine], by rwa [h.machine], ?_, ?_, ?_⟩
  · exact congrArg Prod.snd h.client
  · rw [none, h.machine]
    rfl
  · rw [none]
    exact .nil h.reports h.usage

theorem metered_ends_consulted {event : Outcome α → Event} {work : Act (Desk σ) α} {stage : String}
    (metered? : ∀ r, (event r).metered? = some (stage, r.isOk))
    (writes : work.WritesOnly Record.Foreign) (calm : Unobtrusive sink w.machine) :
    (metered sink stage (ask (Client.tracing event work))).Ends w
      (Consulted sink event work w) := by
  rcases first : (takeSample stage).run w with ⟨_, w₁⟩
  obtain ⟨rfl, aside₁, samples₁⟩ := (takeSample_ends stage calm.samples).run_eq first
  refine .bind_ok first ?_
  rcases asked : (ask (Client.tracing event work)).run w₁ with ⟨r, w₂⟩
  have answered := (ask_ends_answered event writes w₁).run_eq asked
  refine .bind_ok (a := r) (t := w₂) (by rw [Act.run_attempt, asked]) ?_
  have calm₂ : Unobtrusive sink w₂.machine := by
    rw [answered.machine]
    exact calm.sampled samples₁
  rcases second : (takeSample stage).run w₂ with ⟨_, w₃⟩
  obtain ⟨rfl, aside₃, samples₃⟩ := (takeSample_ends stage calm₂.samples).run_eq second
  refine .bind_ok second ?_
  have calm₃ : Unobtrusive sink w₃.machine := calm₂.sampled samples₃
  rw [answered.machine, samples₁] at samples₃ ⊢
  -- All that is left is the report, if there is one.
  have consulted (w₄ : World (σ × List Event)) (observed : w₃.Observed w₄)
      (machine : w₄.machine = w₃.machine)
      (received : sink.Received w₃ w₄ (Usage.ofSamples? stage r.isOk
        (w.machine.samples.headD (.ok {})) (w.machine.samples.tail.headD (.ok {}))).toList) :
      Consulted sink event work w r w₄ := by
    have one : [event r].filterMap Event.metered? = [(stage, r.isOk)] :=
      List.filterMap_cons_some (metered? r)
    have client : w₄.client = w₂.client := observed.client.trans aside₃.client
    have before : sink.Received w w₃ [] :=
      .nil (aside₃.reports.trans (answered.reports.trans aside₁.reports))
        (aside₃.usage.trans (answered.usage.trans aside₁.usage))
    rw [answered.client, trace, aside₁.client] at client
    refine ⟨?_, client, ?_, ?_, by rwa [machine], congrArg Prod.snd client, ?_, ?_⟩
    · rw [answered.outcome, aside₁.client]
    · rw [observed.disk, aside₃.disk, answered.disk, aside₁.disk]
    · rw [machine, aside₃.memory, answered.machine, aside₁.memory]
    · rw [machine, samples₃, one, ← List.drop_one, List.drop_tail]
      rfl
    · rw [one, Usage.due, Usage.due, List.append_nil]
      exact before.append received
  cases before : w.machine.samples.headD (.ok {}) with
  | error f =>
    rw [before] at consulted
    exact consulted w₃ (.refl w₃) rfl (.nil rfl rfl)
  | ok s =>
    cases after : w.machine.samples.tail.headD (.ok {}) with
    | error f =>
      rw [before, after] at consulted
      exact consulted w₃ (.refl w₃) rfl (.nil rfl rfl)
    | ok s' =>
      rw [before, after] at consulted
      rcases reported : (handOver sink (Usage.between stage s s' r.isOk)).run w₃ with ⟨_, w₄⟩
      obtain ⟨rfl, observed, machine, received⟩ := (handOver_ends _ calm₃).run_eq reported
      exact .bind_ok reported (consulted w₄ observed machine received)

end World

end ProofDriver

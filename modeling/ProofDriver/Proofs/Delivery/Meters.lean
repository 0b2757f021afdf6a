import ProofDriver.Proofs.Delivery.Export
import ProofDriver.Proofs.Delivery.Mock
import ProofDriver.Proofs.Delivery.Reports
/-!
# Deliveries under different meters

Metering only observes. Two deliveries that differ in their samples and in who receives the reports
come to the same, ask the client for the same and leave the same files behind; and each sink
receives the reports that are due for the calls.

The two deliveries are followed side by side. `Act.Parallel` says that two pieces of work, begun on
matching worlds, end alike on matching worlds again, with the same calls in between, and that both
sinks received what these calls are due.
-/

namespace ProofDriver

open World (Tallied)

variable {σ α β : Type} {sink₁ sink₂ : Sink}

/-- The worlds differ in their journals, reports and samples only, and in neither of them the meters
come between a call and its outcome. -/
structure World.Matched (sink₁ sink₂ : Sink) (w₁ w₂ : World σ) : Prop where
  client : w₁.client = w₂.client
  disk : w₁.disk = w₂.disk
  memory : w₁.machine.totalMemory = w₂.machine.totalMemory
  calm₁ : Unobtrusive sink₁ w₁.machine
  calm₂ : Unobtrusive sink₂ w₂.machine

open World (Matched)

namespace Act

/-- Begun on matching worlds, `x` under the first meters and `y` under the second end alike on
matching worlds, with the same calls in between. -/
def Parallel (sink₁ sink₂ : Sink) (x y : Act (World (σ × List Event)) α) : Prop :=
  ∀ w₁ w₂, Matched sink₁ sink₂ w₁ w₂ → ∃ r w₁' w₂' events,
    x.run w₁ = (r, w₁') ∧ y.run w₂ = (r, w₂') ∧ Matched sink₁ sink₂ w₁' w₂' ∧
    Tallied sink₁ events w₁ w₁' ∧ Tallied sink₂ events w₂ w₂'

namespace Parallel

theorem bind {x y : Act (World (σ × List Event)) α} {f g : α → Act (World (σ × List Event)) β}
    (h : Parallel sink₁ sink₂ x y) (hf : ∀ a, Parallel sink₁ sink₂ (f a) (g a)) :
    Parallel sink₁ sink₂ (x >>= f) (y >>= g) := by
  intro w₁ w₂ matched
  obtain ⟨r, u₁, u₂, first, runx, runy, matched', tally₁, tally₂⟩ := h w₁ w₂ matched
  cases r with
  | error e =>
    exact ⟨.error e, u₁, u₂, first, run_bind_of_error runx f, run_bind_of_error runy g, matched',
      tally₁, tally₂⟩
  | ok a =>
    obtain ⟨r, v₁, v₂, second, runf, rung, matched'', tally₁', tally₂'⟩ := hf a u₁ u₂ matched'
    exact ⟨r, v₁, v₂, first ++ second, (run_bind_of_ok runx f).trans runf,
      (run_bind_of_ok runy g).trans rung, matched'', tally₁.append tally₁', tally₂.append tally₂'⟩

theorem ofOutcome (r : Outcome α) :
    Parallel sink₁ sink₂ (Act.ofOutcome r : Act (World (σ × List Event)) α) (Act.ofOutcome r) :=
  fun w₁ w₂ matched =>
    ⟨r, w₁, w₂, [], rfl, rfl, matched, .aside rfl rfl rfl rfl, .aside rfl rfl rfl rfl⟩

theorem pure (a : α) :
    Parallel sink₁ sink₂ (Pure.pure a : Act (World (σ × List Event)) α) (Pure.pure a) :=
  ofOutcome (.ok a)

theorem fail_bind (e : Failure) (f g : α → Act (World (σ × List Event)) β) :
    Parallel sink₁ sink₂ (Act.fail e >>= f) (Act.fail e >>= g) :=
  ofOutcome (.error e)

theorem ite {c : Prop} [Decidable c] {x₁ x₂ y₁ y₂ : Act (World (σ × List Event)) α}
    (h₁ : Parallel sink₁ sink₂ x₁ y₁) (h₂ : Parallel sink₁ sink₂ x₂ y₂) :
    Parallel sink₁ sink₂ (if c then x₁ else x₂) (if c then y₁ else y₂) := by
  split
  · exact h₁
  · exact h₂

theorem attempt {x y : Act (World (σ × List Event)) α} (h : Parallel sink₁ sink₂ x y) :
    Parallel sink₁ sink₂ x.attempt y.attempt := by
  intro w₁ w₂ matched
  obtain ⟨r, u₁, u₂, events, runx, runy, rest⟩ := h w₁ w₂ matched
  refine ⟨.ok r, u₁, u₂, events, ?_, ?_, rest⟩
  · rw [run_attempt, runx]
  · rw [run_attempt, runy]

theorem get_bind {f g : World (σ × List Event) → Act (World (σ × List Event)) β}
    (h : ∀ w₁ w₂, Matched sink₁ sink₂ w₁ w₂ → Parallel sink₁ sink₂ (f w₁) (g w₂)) :
    Parallel sink₁ sink₂ (get >>= f) (get >>= g) := by
  intro w₁ w₂ matched
  rw [run_bind_of_ok (run_get w₁), run_bind_of_ok (run_get w₂)]
  exact h w₁ w₂ matched w₁ w₂ matched

theorem log {level : Level} {source : Source} {message : String}
    (foreign : source ≠ .metering) :
    Parallel sink₁ sink₂ (World.log level source message : Act (World (σ × List Event)) Unit)
      (World.log level source message) := by
  have silent (journal : Journal) :
      Journal.usage (journal ++ [⟨level, source, message⟩]) = journal.usage := by
    have none : Record.usage? ⟨level, source, message⟩ = none := Record.Foreign.usage? foreign
    rw [Journal.usage_append, Journal.usage, Journal.usage, List.filterMap_cons_none none]
    exact List.append_nil _
  intro w₁ w₂ matched
  exact ⟨.ok (), _, _, [], World.run_log .., World.run_log ..,
    ⟨matched.client, matched.disk, matched.memory, matched.calm₁, matched.calm₂⟩,
    .aside rfl rfl rfl (silent _), .aside rfl rfl rfl (silent _)⟩

theorem log_bind {level : Level} {source : Source} {message : String}
    {f g : Unit → Act (World (σ × List Event)) β} (rest : Parallel sink₁ sink₂ (f ()) (g ()))
    (foreign : source ≠ .metering := by decide) :
    Parallel sink₁ sink₂ (World.log level source message >>= f)
      (World.log level source message >>= g) :=
  (log foreign).bind fun _ => rest

theorem save (path : Path) (v : Value) :
    Parallel sink₁ sink₂ (World.save path v : Act (World (σ × List Event)) Unit)
      (World.save path v) := by
  intro w₁ w₂ matched
  have saved := World.run_save path v w₁
  rw [matched.disk] at saved
  exact ⟨_, _, _, [], saved, World.run_save path v w₂,
    ⟨matched.client, rfl, matched.memory, matched.calm₁, matched.calm₂⟩,
    .aside rfl rfl rfl rfl, .aside rfl rfl rfl rfl⟩

theorem of_consulted {event : Outcome α → Event} {work : Act (Desk σ) α}
    {x y : Act (World (σ × List Event)) α}
    (hx : ∀ w, Unobtrusive sink₁ w.machine → x.Ends w (World.Consulted sink₁ event work w))
    (hy : ∀ w, Unobtrusive sink₂ w.machine → y.Ends w (World.Consulted sink₂ event work w)) :
    Parallel sink₁ sink₂ x y := by
  intro w₁ w₂ matched
  rcases runx : x.run w₁ with ⟨r₁, u₁⟩
  rcases runy : y.run w₂ with ⟨r₂, u₂⟩
  have first := (hx w₁ matched.calm₁).run_eq runx
  have second := (hy w₂ matched.calm₂).run_eq runy
  have same : r₁ = r₂ := by rw [first.outcome, second.outcome, matched.client]
  subst same
  refine ⟨r₁, u₁, u₂, [event r₁], rfl, rfl, ⟨?_, ?_, ?_, first.calm, second.calm⟩, first.tallied,
    second.tallied⟩
  · rw [first.client, second.client, World.trace, World.trace, matched.client]
  · rw [first.disk, second.disk, matched.disk]
  · rw [first.memory, second.memory, matched.memory]

theorem ask {event : Outcome α → Event} {work : Act (Desk σ) α}
    (unmetered : ∀ r, (event r).metered? = none) (writes : work.WritesOnly Record.Foreign) :
    Parallel sink₁ sink₂ (World.ask (Client.tracing event work))
      (World.ask (Client.tracing event work)) :=
  of_consulted (fun _ calm => World.ask_ends_consulted unmetered writes calm)
    fun _ calm => World.ask_ends_consulted unmetered writes calm

theorem metered {event : Outcome α → Event} {work : Act (Desk σ) α} {stage : String}
    (metered? : ∀ r, (event r).metered? = some (stage, r.isOk))
    (writes : work.WritesOnly Record.Foreign) :
    Parallel sink₁ sink₂ (World.metered sink₁ stage (World.ask (Client.tracing event work)))
      (World.metered sink₂ stage (World.ask (Client.tracing event work))) :=
  of_consulted (fun _ calm => World.metered_ends_consulted metered? writes calm)
    fun _ calm => World.metered_ends_consulted metered? writes calm

end Parallel

end Act

open Act (Parallel)

namespace Strategy

variable {client : Client σ}

theorem parallel_proveMetered (writes : client.WritesOnly Record.Foreign) (input : GuestInput)
    (mode : ProofMode) :
    Parallel sink₁ sink₂ (proveMetered client.traced sink₁ input mode)
      (proveMetered client.traced sink₂ input mode) :=
  (Parallel.metered (fun _ => rfl) (writes.prove input mode)).bind fun _ =>
    .log_bind (.pure _)

theorem parallel_memory? :
    Parallel sink₁ sink₂ (memory? : Act (World (σ × List Event)) _) memory? := by
  refine .get_bind fun w₁ w₂ matched => ?_
  rw [matched.memory]
  cases w₂.machine.totalMemory with
  | ok total => exact (Parallel.ofOutcome _).bind fun _ => .pure _
  | error f =>
    exact .ite (.log_bind (.pure _)) (.ofOutcome _)

theorem parallel_requireMemory (client : Client (σ × List Event)) (settings : Settings) :
    Parallel sink₁ sink₂ (requireMemory client settings) (requireMemory client settings) := by
  refine .ite (.pure _) (parallel_memory?.bind fun memory => ?_)
  cases memory with
  | none => exact .pure _
  | some total =>
    exact .ite ((Parallel.ofOutcome _).bind fun _ => (Parallel.ofOutcome _).bind fun _ =>
      .ofOutcome _) (.pure _)

theorem parallel_run (writes : client.WritesOnly Record.Foreign) (mode : ProofMode)
    (settings : Settings) (input : GuestInput) :
    Parallel sink₁ sink₂ (run mode client.traced settings sink₁ input)
      (run mode client.traced settings sink₂ input) := by
  cases mode with
  | core => exact parallel_proveMetered writes input .core
  | compressed => exact parallel_proveMetered writes input .compressed
  | plonk =>
    refine (parallel_requireMemory client.traced settings).bind fun _ =>
      (parallel_proveMetered writes input .compressed).bind fun compressed =>
      (Parallel.metered (fun _ => rfl) (writes.wrap compressed)).attempt.bind fun result =>
      (Parallel.ofOutcome _).bind fun run => .log_bind (.pure _)

end Strategy

namespace Delivery

variable {client : Client σ}

theorem parallel_deliver (writes : client.WritesOnly Record.Foreign) (settings : Settings)
    (n mode : Value) (output : Option Path) :
    Parallel sink₁ sink₂ (deliver client.traced settings sink₁ n mode output)
      (deliver client.traced settings sink₂ n mode output) := by
  refine (Parallel.ofOutcome _).bind fun m => (Parallel.ofOutcome _).bind fun input =>
    .log_bind ((Strategy.parallel_run writes m settings input).bind fun run =>
    (Parallel.ask (fun _ => rfl) (writes.verify run.proof run.publicValues run.vkey)).bind
    fun answer => ?_)
  have finish (dev : Bool) : Parallel sink₁ sink₂ (do
      let fixture ← Act.ofDriver (Fixture.ofProof run.publicValues run.proof run.vkey dev)
      let path := output.getD (settings.fixturePath m)
      store fixture path
      pure (fixture, path) : Act (World (σ × List Event)) _) (do
      let fixture ← Act.ofDriver (Fixture.ofProof run.publicValues run.proof run.vkey dev)
      let path := output.getD (settings.fixturePath m)
      store fixture path
      pure (fixture, path)) :=
    (Parallel.ofOutcome _).bind fun fixture =>
      ((Parallel.save _ _).bind fun _ => .log (by decide)).bind fun _ => .pure _
  cases answer with
  | false => exact .fail_bind _ _ _
  | true =>
    simp only [Bool.not_true, Bool.false_eq_true, if_false]
    exact .log_bind (.ite (.log_bind (finish _)) (finish _))

/-- Deliveries on worlds that only the meters tell apart come to the same by the same calls and
leave the same files. Each sink received, in the order of the calls, the reports that are due for
them. The client may have any state, but what it does must not depend on the journal, to which the
meters write as well. -/
theorem deliver_same_under_meters (writes : client.WritesOnly Record.Foreign) (settings : Settings)
    (n mode : Value) (output : Option Path) {w₁ w₂ : World σ}
    (matched : Matched sink₁ sink₂ w₁ w₂) :
    let (r₁, after₁) := (deliver client.traced settings sink₁ n mode output).run w₁.traced
    let (r₂, after₂) := (deliver client.traced settings sink₂ n mode output).run w₂.traced
    (deliver client settings sink₁ n mode output).run w₁ = (r₁, after₁.untraced) ∧
      (deliver client settings sink₂ n mode output).run w₂ = (r₂, after₂.untraced) ∧
      r₁ = r₂ ∧ after₁.trace = after₂.trace ∧ after₁.disk = after₂.disk ∧
      sink₁.Received w₁ after₁.untraced
        (Usage.due w₁.machine.samples (after₁.trace.filterMap Event.metered?)) ∧
      sink₂.Received w₂ after₂.untraced
        (Usage.due w₂.machine.samples (after₂.trace.filterMap Event.metered?)) := by
  have traced : Matched sink₁ sink₂ w₁.traced w₂.traced :=
    ⟨congrArg (·, []) matched.client, matched.disk, matched.memory, matched.calm₁, matched.calm₂⟩
  obtain ⟨r, after₁, after₂, events, run₁, run₂, same, tally₁, tally₂⟩ :=
    parallel_deliver writes settings n mode output _ _ traced
  have mirrored₁ := mirrors_deliver client settings sink₁ n mode output w₁.traced
  have mirrored₂ := mirrors_deliver client settings sink₂ n mode output w₂.traced
  rw [run₁] at mirrored₁ ⊢
  rw [run₂] at mirrored₂ ⊢
  have calls₁ : after₁.trace = events := tally₁.trace
  have calls₂ : after₂.trace = events := tally₂.trace
  refine ⟨mirrored₁, mirrored₂, rfl, calls₁.trans calls₂.symm, same.disk, ?_, ?_⟩
  · rw [calls₁]
    exact tally₁.received.untraced
  · rw [calls₂]
    exact tally₂.received.untraced

def unreadable : World Unit :=
  { spare with machine := { samples := [.error (.raised .sampling "no such process"),
      .ok { memory := 7 }, .ok {}, .ok { memory := 40000000 }] } }

def refusing : Sink :=
  .receiver fun _ r => some (.fault (.raised (.other "RuntimeError") r.stage))

/-- On either machine the plonk fixture is returned, after three calls of the client. -/
theorem exists_same_under_meters :
    ∃ (p : Prover.Mock) (fixture : Fixture) (path : Path) (compressed run : Receipt)
      (after₁ after₂ : World Unit),
      let input : GuestInput := .ofIndex 7
      let calls : List Event := [.prove input .compressed (.ok compressed),
        .wrap compressed (.ok run), .verify run.proof run.publicValues run.vkey (.ok true)]
      (p.client : Client Unit).WritesOnly Record.Foreign ∧
      Matched .journal refusing spare unreadable ∧
      (deliver p.client {} .journal (.int 7) (.text "plonk") none).run spare =
        (.ok (fixture, path), after₁) ∧
      (deliver p.client {} refusing (.int 7) (.text "plonk") none).run unreadable =
        (.ok (fixture, path), after₂) ∧
      fixture.Attests run.proof run.publicValues run.vkey ∧
      after₁.disk = after₂.disk ∧
      Sink.journal.Received spare after₁ (Usage.due [] (calls.filterMap Event.metered?)) ∧
      refusing.Received unreadable after₂
        (Usage.due unreadable.machine.samples (calls.filterMap Event.metered?)) := by
  obtain ⟨p⟩ : Nonempty Prover.Mock := ⟨⟨Prover.Mock.programKey []⟩⟩
  have writes : (p.client : Client Unit).WritesOnly Record.Foreign :=
    (p.writesOnly_clientOn _).imp fun _ absurd => absurd.elim
  have matched : Matched .journal refusing spare unreadable := by
    refine ⟨rfl, rfl, rfl, unobtrusive_spare, ?_, ?_⟩
    · intro f mem
      have only : f = .raised .sampling "no such process" := by simpa [unreadable] using mem
      rw [only]
      rfl
    · intro offered r e refused
      cases refused
      rfl
  have known : ProofMode.ofValue (.text "plonk") = .ok .plonk := by rfl
  have writable : spare.disk.Writable (Settings.fixturePath {} .plonk) :=
    ⟨.null, by decide +kernel⟩
  have delivered : ((deliver p.client {} .journal (.int 7) (.text "plonk") none).run spare).1 = _ :=
    deliver_mock Bn254.lawful_multiples p 7 known unobtrusive_spare writable
  have same := deliver_same_under_meters writes {} (.int 7) (.text "plonk") none matched
  have course := deliver_ends p.client.traced {} .journal (.int 7) (.text "plonk") none spare.traced
  rcases run₁ : (deliver p.client.traced {} .journal (.int 7) (.text "plonk") none).run
    spare.traced with ⟨r₁, after₁⟩
  rcases run₂ : (deliver p.client.traced {} refusing (.int 7) (.text "plonk") none).run
    unreadable.traced with ⟨r₂, after₂⟩
  rw [run₁, run₂] at same
  obtain ⟨plain₁, plain₂, rfl, calls, disk, received₁, received₂⟩ := same
  rw [plain₁] at delivered
  obtain rfl : r₁ = _ := delivered
  obtain ⟨m, input, run, known', valid, ⟨made, proved, trace⟩, attests, -⟩ :=
    (course.run_eq run₁).exported.verified
  cases known.symm.trans known'
  cases (GuestInput.ofValue_toNat 7).symm.trans valid
  rw [← calls] at received₂
  rw [trace] at received₁ received₂
  cases proved with
  | single core => exact absurd rfl core
  | wrapped => exact ⟨p, _, _, _, run, _, _, writes, matched, plain₁, plain₂, attests, disk,
      received₁, received₂⟩

end Delivery

end ProofDriver

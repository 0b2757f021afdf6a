import ProofDriver.Strategy
import ProofDriver.Proofs.Prover.Trace
/-!
# Courses of a strategy

Every way in which a strategy can end, told by the calls that the client received. Core and
compressed proofs take one call; a plonk proof takes two, and the second call gets the run that the
first one came to. No other call is made, and the disk is never touched.
-/

namespace ProofDriver

namespace Act

variable {σ : Type} {P : (α : Type) → Act (World σ) α → Prop}

theorem Closed.memory? (h : Closed P) : P _ Strategy.memory? := by
  refine h.look (fun w => ?_) fun _ _ => rfl
  cases w.machine.totalMemory with
  | ok total => exact h.bind (h.ofOutcome _) fun _ => h.ofOutcome _
  | error f => exact h.ite (h.log_bind (h.ofOutcome _)) (h.ofOutcome _)

theorem Closed.requireMemory (h : Closed P) (client : Client σ) (settings : Settings) :
    P _ (Strategy.requireMemory client settings) := by
  refine h.ite (h.ofOutcome _) (h.bind h.memory? fun memory => ?_)
  cases memory with
  | none => exact h.ofOutcome _
  | some total =>
    refine h.ite (h.bind (h.ofOutcome _) fun _ => h.bind (h.ofOutcome _) fun _ => ?_)
      (h.ofOutcome _)
    exact h.ofOutcome _

variable {client : Client σ}

theorem ClosedMetered.proveMetered (h : ClosedMetered P) (sink : Sink) {input : GuestInput}
    {mode : ProofMode} (asked : P _ (World.ask (client.prove input mode))) :
    P _ (Strategy.proveMetered client sink input mode) :=
  h.bind (h.metered sink _ asked) fun _ => h.log_bind (h.ofOutcome _)

theorem ClosedMetered.strategy (h : ClosedMetered P)
    (prove : ∀ input mode, P _ (World.ask (client.prove input mode)))
    (wrap : ∀ run, P _ (World.ask (client.wrap run))) (mode : ProofMode) (settings : Settings)
    (sink : Sink) (input : GuestInput) : P _ (Strategy.run mode client settings sink input) := by
  cases mode with
  | core => exact h.proveMetered sink (prove input .core)
  | compressed => exact h.proveMetered sink (prove input .compressed)
  | plonk =>
    exact h.bind (h.requireMemory client settings) fun _ =>
      h.bind (h.proveMetered sink (prove input .compressed)) fun compressed =>
      h.bind (h.attempt (h.metered sink _ (wrap compressed))) fun result =>
      h.bind (h.ofOutcome _) fun run => h.log_bind (h.ofOutcome _)

end Act

namespace Strategy

variable {σ : Type}

open Act (Mirrors)
open World (Asked)

theorem observes_requireMemory (client : Client σ) (settings : Settings) :
    (requireMemory client settings).Observes :=
  Act.closed_observes.requireMemory client settings

/-- How a strategy ends, by the calls that it made. `answer` is what the last call came to; the
strategy succeeds only with what that call succeeded with. -/
inductive Course (client : Client σ) (input : GuestInput) (w : World σ) :
    ProofMode → Outcome Receipt → World σ → Prop
  | unstarted {mode e w'} : w.Observed w' → Course client input w mode (.error e) w'
  | single {mode answer r w'} : mode ≠ .plonk → Asked (client.prove input mode) w answer w' →
      (∀ run, r = .ok run → answer = .ok run) → Course client input w mode r w'
  | unwrapped {answer e w'} : Asked (client.prove input .compressed) w answer w' →
      Course client input w .plonk (.error e) w'
  | wrapped {compressed answer r w₁ w'} :
      Asked (client.prove input .compressed) w (.ok compressed) w₁ →
      Asked (client.wrap compressed) w₁ answer w' →
      (∀ run, r = .ok run → answer = .ok run) → Course client input w .plonk r w'

theorem proveMetered_ends (client : Client σ) (sink : Sink) (input : GuestInput)
    (mode : ProofMode) (w : World σ) :
    (proveMetered client sink input mode).Ends w fun r w' =>
      (w.Observed w' ∧ ∃ e, r = .error e) ∨
        ∃ answer, Asked (client.prove input mode) w answer w' ∧
          ∀ run, r = .ok run → answer = .ok run := by
  have metered := World.metered_ask_ends sink ("prove " ++ mode.name) (client.prove input mode) w
  apply Act.Ends.bind
  case error =>
    intro e w₁ run
    exact metered.run_eq run
  case ok =>
    intro run w₁ called
    obtain ⟨-, e, absurd⟩ | ⟨answer, asked, follows⟩ := metered.run_eq called
    · cases absurd
    · refine .bind_ok (World.run_log ..) ?_
      exact .inr ⟨answer, asked.observed ⟨rfl, rfl⟩, follows⟩

theorem proveWrapped_ends (client : Client σ) (settings : Settings) (sink : Sink)
    (input : GuestInput) (w : World σ) :
    (proveWrapped client settings sink input).Ends w (Course client input w .plonk) := by
  unfold proveWrapped
  apply Act.Ends.bind
  case error =>
    intro e w₁ run
    exact .unstarted ((observes_requireMemory client settings w).run_eq run)
  case ok =>
    intro _ w₁ run
    have guarded : w.Observed w₁ := (observes_requireMemory client settings w).run_eq run
    have proved := proveMetered_ends client sink input .compressed w₁
    apply Act.Ends.bind
    case error =>
      intro e w₂ run
      obtain ⟨observed, -⟩ | ⟨answer, asked, -⟩ := proved.run_eq run
      · exact .unstarted (guarded.trans observed)
      · exact .unwrapped (asked.of_observed guarded)
    case ok =>
      intro compressed w₂ run
      obtain ⟨-, e, absurd⟩ | ⟨answer, asked, follows⟩ := proved.run_eq run
      · cases absurd
      have first : Asked (client.prove input .compressed) w (.ok compressed) w₂ := by
        rw [← follows compressed rfl]
        exact asked.of_observed guarded
      rcases wrapping : (World.metered sink "wrap plonk"
        (World.ask (client.wrap compressed))).run w₂ with ⟨r, w₃⟩
      refine .bind_ok (a := r) (t := w₃) (by rw [Act.run_attempt, wrapping]) ?_
      obtain ⟨observed, e, failed⟩ | ⟨answer, second, follows⟩ :=
        (World.metered_ask_ends sink "wrap plonk" (client.wrap compressed) w₂).run_eq wrapping
      · subst failed
        exact .unwrapped (first.observed observed)
      · cases r with
        | error e =>
          have failed : (Act.ofOutcome ((Except.error e : Outcome Receipt).mapError
              wrappingFailure)).run w₃ = (.error (wrappingFailure e), w₃) := rfl
          refine .bind_error failed ?_
          exact .wrapped first second (fun _ h => by cases h)
        | ok wrapped =>
          refine .bind_ok (a := wrapped) (t := w₃) rfl ?_
          refine .bind_ok (World.run_log ..) ?_
          exact .wrapped first (second.observed ⟨rfl, rfl⟩) follows

theorem run_ends (mode : ProofMode) (client : Client σ) (settings : Settings) (sink : Sink)
    (input : GuestInput) (w : World σ) :
    (run mode client settings sink input).Ends w (Course client input w mode) := by
  have single {mode : ProofMode} (h : mode ≠ .plonk) :
      (proveMetered client sink input mode).Ends w (Course client input w mode) := by
    refine (proveMetered_ends client sink input mode w).imp fun r w' course => ?_
    obtain ⟨observed, e, rfl⟩ | ⟨answer, asked, follows⟩ := course
    · exact .unstarted observed
    · exact .single h asked follows
  cases mode with
  | core => exact single (by decide)
  | compressed => exact single (by decide)
  | plonk => exact proveWrapped_ends client settings sink input w

namespace Course

variable {client : Client σ} {input : GuestInput} {mode : ProofMode} {w w' : World σ}
  {r : Outcome Receipt}

theorem of_observed {w₁ : World σ} (before : w.Observed w₁)
    (course : Course client input w₁ mode r w') : Course client input w mode r w' := by
  cases course with
  | unstarted observed => exact .unstarted (before.trans observed)
  | single h asked follows => exact .single h (asked.of_observed before) follows
  | unwrapped asked => exact .unwrapped (asked.of_observed before)
  | wrapped first second follows => exact .wrapped (first.of_observed before) second follows

theorem disk (course : Course client input w mode r w') : w'.disk = w.disk := by
  cases course with
  | unstarted observed => exact observed.disk
  | single _ asked _ => exact asked.1
  | unwrapped asked => exact asked.1
  | wrapped first second _ => exact second.1.trans first.1

end Course

/-! ## Tracing -/

/-- The events of a strategy that came to `run`: the last of them is the call that returned it. -/
inductive Proved (input : GuestInput) : ProofMode → Receipt → List Event → Prop
  | single {mode run} : mode ≠ .plonk → Proved input mode run [.prove input mode (.ok run)]
  | wrapped {compressed run} : Proved input .plonk run
      [.prove input .compressed (.ok compressed), .wrap compressed (.ok run)]

theorem Course.trace_of_ok {client : Client σ} {input : GuestInput} {mode : ProofMode}
    {w w' : World (σ × List Event)} {run : Receipt}
    (course : Course client.traced input w mode (.ok run) w') :
    ∃ events, Proved input mode run events ∧ w'.trace = w.trace ++ events := by
  cases course with
  | single h asked follows =>
    rw [follows run rfl] at asked
    exact ⟨_, .single h, asked.trace⟩
  | wrapped first second follows =>
    rw [follows run rfl] at second
    have trace := second.trace
    rw [first.trace, List.append_assoc, List.singleton_append] at trace
    exact ⟨_, .wrapped, trace⟩

theorem Course.trace_no_verify {client : Client σ} {input : GuestInput} {mode : ProofMode}
    {w w' : World (σ × List Event)} {r : Outcome Receipt}
    (course : Course client.traced input w mode r w') :
    ∃ events, w'.trace = w.trace ++ events ∧ ∀ e ∈ events, e.isVerify = false := by
  cases course with
  | unstarted observed => exact ⟨[], by simp [observed.trace], by simp⟩
  | single _ asked _ => exact ⟨_, asked.trace, by simp [Event.isVerify]⟩
  | unwrapped asked => exact ⟨_, asked.trace, by simp [Event.isVerify]⟩
  | wrapped first second _ =>
    have trace := second.trace
    rw [first.trace, List.append_assoc] at trace
    exact ⟨_, trace, by simp [Event.isVerify]⟩

theorem mirrors_proveMetered (client : Client σ) (sink : Sink) (input : GuestInput)
    (mode : ProofMode) :
    (proveMetered client.traced sink input mode).Mirrors
      (proveMetered client sink input mode) :=
  (World.mirrors_metered sink _ (Mirrors.ask _ _)).bind fun _ => Mirrors.log.bind fun _ =>
    .pure _

theorem mirrors_memory? : (memory? : Act (World (σ × List Event)) _).Mirrors memory? := by
  refine Mirrors.get_bind fun w => ?_
  have same : w.untraced.machine = w.machine := rfl
  rw [same]
  cases w.machine.totalMemory with
  | ok total => exact (Mirrors.ofFault _).bind fun _ => .pure _
  | error f =>
    dsimp only
    split
    · exact Mirrors.log.bind fun _ => .pure _
    · exact .fail _

theorem mirrors_requireMemory (client : Client σ) (settings : Settings) :
    (requireMemory client.traced settings).Mirrors (requireMemory client settings) := by
  unfold requireMemory
  rw [client.sound_traced]
  split
  · exact .pure _
  · refine mirrors_memory?.bind fun memory => ?_
    cases memory with
    | none => exact .pure _
    | some total =>
      dsimp only
      split
      · exact (Mirrors.ofFault _).bind fun _ => (Mirrors.ofFault _).bind fun _ => .fail _
      · exact .pure _

theorem mirrors_run (mode : ProofMode) (client : Client σ) (settings : Settings) (sink : Sink)
    (input : GuestInput) :
    (run mode client.traced settings sink input).Mirrors
      (run mode client settings sink input) := by
  cases mode with
  | core => exact mirrors_proveMetered client sink input .core
  | compressed => exact mirrors_proveMetered client sink input .compressed
  | plonk =>
    refine (mirrors_requireMemory client settings).bind fun _ =>
      (mirrors_proveMetered client sink input .compressed).bind fun compressed =>
      (World.mirrors_metered sink _ (Mirrors.ask _ _)).attempt.bind fun result =>
      (Mirrors.ofOutcome _).bind fun run => Mirrors.log.bind fun _ => .pure _

end Strategy

end ProofDriver

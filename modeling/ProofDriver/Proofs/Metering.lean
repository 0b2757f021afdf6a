import ProofDriver.Proofs.World
/-!
# Metering that stays out of the way

A meter can come between a call and its outcome in two ways: a sample fails with a fault that is no
fault of sampling, or the receiver of a report interrupts. Where neither happens, metered work ends
as the work does.
-/

namespace ProofDriver

/-- Refusals of a report are ordinary failures. -/
def Sink.Ordinary : Sink → Prop
  | .journal => True
  | .receiver respond => ∀ offered report e, respond offered report = some e → e.isOrdinary = true

/-- The samples that are left can only fail as samples do. -/
def Machine.Samples (m : Machine) : Prop :=
  ∀ f, .error f ∈ m.samples → World.isSamplingFault f = true

/-- Neither the samples nor the sink come between a call and its outcome. -/
structure Unobtrusive (sink : Sink) (m : Machine) : Prop where
  samples : m.Samples
  sink : sink.Ordinary

theorem Usage.ordinary_of_line {r : Usage} :
    ∀ f, r.line = .error f → f.isInterrupt = false := by
  have size (n : Int) : ∀ f, megabytes n = .error f → f.isInterrupt = false := by
    intro f failed
    unfold megabytes at failed
    split at failed
    · cases failed
      rfl
    · cases failed
  refine Except.bind_errors (size _) fun before _ => Except.bind_errors (size _) fun after _ =>
    Except.bind_errors (size _) fun delta _ => ?_
  exact fun f h => by cases h

namespace Act

variable {σ α β : Type} {sink : Sink}

/-- The work only observes and comes to a value with `P`, and the meters stay unobtrusive. -/
def Silent (sink : Sink) (x : Act (World σ) α) (P : α → Prop) : Prop :=
  ∀ w, Unobtrusive sink w.machine → x.Ends w fun r w' =>
    (∃ a, r = .ok a ∧ P a) ∧ w.Observed w' ∧ Unobtrusive sink w'.machine

namespace Silent

variable {x : Act (World σ) α} {f : α → Act (World σ) β} {P : α → Prop}

theorem before {w : World σ} {Q : Outcome β → World σ → Prop} (hx : x.Silent sink P)
    (calm : Unobtrusive sink w.machine)
    (rest : ∀ a w', P a → w.Observed w' → Unobtrusive sink w'.machine → (f a).Ends w' Q) :
    (x >>= f).Ends w Q := by
  apply Act.Ends.bind
  case ok =>
    intro a w' run
    obtain ⟨⟨a', same, property⟩, observed, calm'⟩ := (hx w calm).run_eq run
    cases same
    exact rest a w' property observed calm'
  case error =>
    intro e w' run
    obtain ⟨⟨a, absurd, -⟩, -⟩ := (hx w calm).run_eq run
    cases absurd

theorem bind {Q : β → Prop} (hx : x.Silent sink P) (hf : ∀ a, P a → (f a).Silent sink Q) :
    (x >>= f).Silent sink Q := by
  intro w calm
  refine hx.before calm fun a w₁ property observed calm₁ => ?_
  refine (hf a property w₁ calm₁).imp fun r w₂ silent => ?_
  exact ⟨silent.1, observed.trans silent.2.1, silent.2.2⟩

theorem pure {a : α} {P : α → Prop} (h : P a) :
    (Pure.pure a : Act (World σ) α).Silent sink P :=
  fun w calm => ⟨⟨a, rfl, h⟩, .refl w, calm⟩

theorem log {level : Level} {source : Source} {message : String} :
    (World.log level source message : Act (World σ) Unit).Silent sink fun _ => True :=
  fun _ calm => ⟨⟨(), rfl, trivial⟩, ⟨rfl, rfl⟩, calm⟩

end Silent

end Act

namespace World

variable {σ α : Type} {sink : Sink}

open Act (Silent)

theorem silent_nextSample :
    (nextSample : Act (World σ) _).Silent sink fun sample =>
      ∀ f, sample = .error f → isSamplingFault f = true := by
  intro w calm
  unfold nextSample Act.Ends
  rw [Act.run_modifyGet]
  cases left : w.machine.samples with
  | nil => exact ⟨⟨_, rfl, fun f h => by cases h⟩, .refl w, calm⟩
  | cons first rest =>
    have within : ∀ f, .error f ∈ first :: rest → isSamplingFault f = true := by
      intro f mem
      apply calm.samples f
      rwa [left]
    refine ⟨⟨_, rfl, ?_⟩, ⟨rfl, rfl⟩, ⟨?_, calm.sink⟩⟩
    · rintro f rfl
      exact within f List.mem_cons_self
    · intro f mem
      exact within f (List.mem_cons_of_mem first mem)

theorem silent_takeSample (stage : String) :
    (takeSample stage : Act (World σ) _).Silent sink fun _ => True := by
  refine silent_nextSample.bind fun sample sampling => ?_
  cases sample with
  | ok s => exact .pure trivial
  | error f =>
    dsimp only
    rw [if_pos (sampling f rfl)]
    exact Silent.log.bind fun _ _ => .pure trivial

theorem silent_attempt_offer (r : Usage) :
    (offer sink r : Act (World σ) Unit).attempt.Silent sink fun answer =>
      ∀ e, answer = .error e → e.isOrdinary = true := by
  intro w calm
  have observed := (Act.Observes.attempt (observes_offer sink r)) w
  suffices h : (∀ e, ((offer sink r).run w).1 = .error e → e.isOrdinary = true) ∧
      ((offer sink r).run w).2.machine = w.machine from
    ⟨⟨_, rfl, h.1⟩, observed, by rw [Act.run_attempt, h.2]; exact calm⟩
  cases sink with
  | journal =>
    unfold offer noteUsage
    cases line : r.line with
    | ok text => exact ⟨fun e h => (by cases h), rfl⟩
    | error f =>
      refine ⟨fun e h => ?_, rfl⟩
      cases h
      simp [Failure.isOrdinary, Usage.ordinary_of_line f line]
  | receiver respond =>
    unfold offer
    rw [Act.run_bind_of_ok (Act.run_get w), Act.run_bind_of_ok (Act.run_modify _ w)]
    cases answer : respond w.reports r with
    | none => exact ⟨fun e h => (by cases h), rfl⟩
    | some e =>
      refine ⟨fun e' h => ?_, rfl⟩
      cases h
      exact calm.sink _ _ _ answer

theorem silent_handOver (r : Usage) :
    (handOver sink r : Act (World σ) Unit).Silent sink fun _ => True := by
  refine (silent_attempt_offer r).bind fun answer ordinary => ?_
  cases answer with
  | ok _ => exact .pure trivial
  | error e =>
    dsimp only
    rw [if_pos (ordinary e rfl)]
    exact .log

theorem metered_ask_ends_of_unobtrusive (stage : String) (work : Act (Desk σ) α) {w : World σ}
    (calm : Unobtrusive sink w.machine) :
    (metered sink stage (ask work)).Ends w fun r w' =>
      Asked work w r w' ∧ Unobtrusive sink w'.machine := by
  refine (silent_takeSample stage).before calm fun before w₁ _ first calm₁ => ?_
  rcases asked : (ask work).run w₁ with ⟨r, w₂⟩
  refine .bind_ok (a := r) (t := w₂) (by rw [Act.run_attempt, asked]) ?_
  have answered : Asked work w r w₂ := (asked_of_run asked).of_observed first
  have calm₂ : Unobtrusive sink w₂.machine := by
    cases asked
    exact calm₁
  refine (silent_takeSample stage).before calm₂ fun after w₃ _ again calm₃ => ?_
  match before, after with
  | none, _ => exact ⟨answered.observed again, calm₃⟩
  | some _, none => exact ⟨answered.observed again, calm₃⟩
  | some _, some _ =>
    refine (silent_handOver _).before calm₃ fun _ w₄ _ reported calm₄ => ?_
    exact ⟨answered.observed (again.trans reported), calm₄⟩

end World

end ProofDriver

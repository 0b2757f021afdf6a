import ProofDriver.Metering.Metered
import ProofDriver.Proofs.Act
/-!
# What work does to the world

Most of what the driver does besides calling its client and saving a document only observes: it
writes records, takes samples and hands out reports. Metered work is the work itself between two
observations, unless one of them fails.

What holds of work because it holds of its parts is a `Closed` property: to go through the meters and
the strategies it is enough to look at the parts.
-/

namespace ProofDriver

namespace World

variable {σ α β : Type}

@[simp] theorem run_log (level : Level) (source : Source) (message : String) (w : World σ) :
    (log level source message).run w =
      (.ok (), { w with journal := w.journal ++ [⟨level, source, message⟩] }) := rfl

@[simp] theorem run_ask (work : Act (Desk σ) α) (w : World σ) :
    (ask work).run w =
      ((work.run w.toDesk).1, { w with toDesk := (work.run w.toDesk).2 }) := rfl

@[simp] theorem run_save (path : Path) (v : Value) (w : World σ) :
    (save path v).run w =
      ((w.disk.save path v).1, { w with disk := (w.disk.save path v).2 }) := rfl

theorem run_of_ask {work : Act (Desk σ) α} {w w' : World σ} {r : Outcome α}
    (run : (ask work).run w = (r, w')) : work.run w.toDesk = (r, w'.toDesk) := by
  cases run
  rfl

/-- From `w` to `w'` there were only observations: the client and the disk are as they were. -/
structure Observed (w w' : World σ) : Prop where
  client : w'.client = w.client
  disk : w'.disk = w.disk

namespace Observed

@[refl] theorem refl (w : World σ) : w.Observed w := ⟨rfl, rfl⟩

theorem trans {w₁ w₂ w₃ : World σ} (h₁ : w₁.Observed w₂) (h₂ : w₂.Observed w₃) :
    w₁.Observed w₃ :=
  ⟨h₂.client.trans h₁.client, h₂.disk.trans h₁.disk⟩

end Observed

/-- The client did `work` between `w` and `w'`, on its state in `w`, and nothing else happened to
the client or the disk. -/
def Asked (work : Act (Desk σ) α) (w : World σ) (r : Outcome α) (w' : World σ) : Prop :=
  w'.disk = w.disk ∧
    ∃ before after, work.run ⟨w.client, before⟩ = (r, ⟨w'.client, after⟩)

theorem asked_of_run {work : Act (Desk σ) α} {w w' : World σ} {r : Outcome α}
    (run : (ask work).run w = (r, w')) : Asked work w r w' := by
  cases run
  exact ⟨rfl, w.journal, (work.run w.toDesk).2.journal, rfl⟩

namespace Asked

variable {work : Act (Desk σ) α} {w₁ w₂ w₃ : World σ} {r : Outcome α}

theorem of_observed (h₁ : w₁.Observed w₂) (h₂ : Asked work w₂ r w₃) : Asked work w₁ r w₃ := by
  obtain ⟨disk, before, after, run⟩ := h₂
  rw [h₁.client] at run
  exact ⟨disk.trans h₁.disk, before, after, run⟩

theorem observed (h₁ : Asked work w₁ r w₂) (h₂ : w₂.Observed w₃) : Asked work w₁ r w₃ := by
  obtain ⟨disk, before, after, run⟩ := h₁
  rw [← h₂.client] at run
  exact ⟨h₂.disk.trans disk, before, after, run⟩

theorem eq_of_ofOutcome {x : Outcome α} (h : Asked (Act.ofOutcome x) w₁ r w₂) : r = x := by
  obtain ⟨-, before, after, run⟩ := h
  exact (congrArg Prod.fst run).symm

end Asked

end World

namespace Act

variable {σ α β : Type}

/-- Work that only observes, however it ends. -/
def Observes (x : Act (World σ) α) : Prop :=
  ∀ w, x.Ends w fun _ w' => w.Observed w'

namespace Observes

theorem bind {x : Act (World σ) α} {f : α → Act (World σ) β} (hx : x.Observes)
    (hf : ∀ a, (f a).Observes) : (x >>= f).Observes :=
  Ends.bind_trans World.Observed.trans hx hf

theorem ofOutcome (r : Outcome α) : (Act.ofOutcome r : Act (World σ) α).Observes :=
  fun w => World.Observed.refl w

theorem pure (a : α) : (Pure.pure a : Act (World σ) α).Observes :=
  ofOutcome (.ok a)

theorem ofFault (r : Except Fault α) : (Act.ofFault r : Act (World σ) α).Observes :=
  ofOutcome (Fault.lift r)

theorem get : (MonadState.get : Act (World σ) (World σ)).Observes :=
  fun w => World.Observed.refl w

theorem log {level : Level} {source : Source} {message : String} :
    (World.log level source message : Act (World σ) Unit).Observes :=
  fun _ => ⟨rfl, rfl⟩

theorem attempt {x : Act (World σ) α} (h : x.Observes) : x.attempt.Observes :=
  fun w => h w

end Observes

theorem Ends.log {level : Level} {source : Source} {message : String}
    {f : Unit → Act (World σ) β} {w : World σ} {Q : Outcome β → World σ → Prop}
    (rest : ∀ w₁, w.Observed w₁ → (f ()).Ends w₁ Q) :
    (World.log level source message >>= f).Ends w Q :=
  .bind_ok (World.run_log level source message w) (rest _ ⟨rfl, rfl⟩)

/-- A property that work has if its parts have it, where the parts do nothing but write records
other than errors and fixtures and look at what is not on the disk. -/
structure Closed {σ : Type} (P : (α : Type) → Act (World σ) α → Prop) : Prop where
  bind : ∀ {α β : Type} {x : Act (World σ) α} {f : α → Act (World σ) β},
    P α x → (∀ a, P β (f a)) → P β (x >>= f)
  ofOutcome : ∀ {α : Type} (r : Outcome α), P α (Act.ofOutcome r)
  log : ∀ {level : Level} {source : Source} {message : String},
    level ≠ .error ∧ source ≠ .fixture → P Unit (World.log level source message)
  look : ∀ {β : Type} {f : World σ → Act (World σ) β}, (∀ w, P β (f w)) →
    (∀ (w : World σ) (disk : Disk), f { w with disk } = f w) → P β (get >>= f)

/-- The parts may also be what meters do. -/
structure ClosedMetered {σ : Type} (P : (α : Type) → Act (World σ) α → Prop) : Prop
    extends Closed P where
  attempt : ∀ {α : Type} {x : Act (World σ) α}, P α x → P _ x.attempt
  sample : P _ World.nextSample
  report : ∀ r : Usage, P PUnit (modify fun w => { w with reports := w.reports ++ [r] })

namespace Closed

variable {σ α β : Type} {P : (α : Type) → Act (World σ) α → Prop}

theorem ite (_ : Closed P) {c : Prop} [Decidable c] {x y : Act (World σ) α} (hx : P α x)
    (hy : P α y) : P α (if c then x else y) := by
  split
  · exact hx
  · exact hy

theorem fail_bind (h : Closed P) (e : Failure) (f : α → Act (World σ) β) :
    P β (Act.fail e >>= f) :=
  h.ofOutcome (.error e)

theorem log_bind (h : Closed P) {level : Level} {source : Source} {message : String}
    {f : Unit → Act (World σ) β} (rest : P β (f ()))
    (routine : level ≠ .error ∧ source ≠ .fixture := by decide) :
    P β (World.log level source message >>= f) :=
  h.bind (h.log routine) fun _ => rest

end Closed

namespace ClosedMetered

variable {σ α : Type} {P : (α : Type) → Act (World σ) α → Prop}

theorem takeSample (h : ClosedMetered P) (stage : String) : P _ (World.takeSample stage) := by
  refine h.bind h.sample fun sample => ?_
  cases sample with
  | ok s => exact h.ofOutcome _
  | error f => exact h.ite (h.log_bind (h.ofOutcome _)) (h.ofOutcome _)

theorem offer (h : ClosedMetered P) (sink : Sink) (r : Usage) : P _ (World.offer sink r) := by
  cases sink with
  | journal => exact h.bind (h.ofOutcome _) fun _ => h.log (by decide)
  | receiver respond =>
    refine h.look (fun w => h.bind (h.report r) fun _ => ?_) fun _ _ => rfl
    cases respond w.reports r with
    | none => exact h.ofOutcome _
    | some e => exact h.ofOutcome _

theorem handOver (h : ClosedMetered P) (sink : Sink) (r : Usage) :
    P _ (World.handOver sink r) := by
  refine h.bind (h.attempt (h.offer sink r)) fun answer => ?_
  cases answer with
  | ok _ => exact h.ofOutcome _
  | error e => exact h.ite (h.log (by decide)) (h.ofOutcome _)

theorem metered (h : ClosedMetered P) (sink : Sink) (stage : String) {work : Act (World σ) α}
    (hwork : P α work) : P α (World.metered sink stage work) := by
  refine h.bind (h.takeSample stage) fun before => h.bind (h.attempt hwork) fun result =>
    h.bind (h.takeSample stage) fun after => ?_
  match before, after with
  | none, _ => exact h.ofOutcome result
  | some _, none => exact h.ofOutcome result
  | some _, some _ => exact h.bind (h.handOver sink _) fun _ => h.ofOutcome result

end ClosedMetered

theorem closed_observes {σ : Type} :
    ClosedMetered fun α (x : Act (World σ) α) => x.Observes where
  bind := .bind
  ofOutcome := .ofOutcome
  log _ := .log
  look each _ := Observes.get.bind each
  attempt := .attempt
  sample w := by
    unfold World.nextSample Act.Ends
    rw [Act.run_modifyGet]
    cases w.machine.samples with
    | nil => exact ⟨rfl, rfl⟩
    | cons s rest => exact ⟨rfl, rfl⟩
  report _ _ := ⟨rfl, rfl⟩

end Act

namespace World

variable {σ α : Type}

open Act (Observes)

theorem observes_takeSample (stage : String) : (takeSample stage : Act (World σ) _).Observes :=
  Act.closed_observes.takeSample stage

theorem observes_offer (sink : Sink) (r : Usage) : (offer sink r : Act (World σ) Unit).Observes :=
  Act.closed_observes.offer sink r

theorem observes_handOver (sink : Sink) (r : Usage) :
    (handOver sink r : Act (World σ) Unit).Observes :=
  Act.closed_observes.handOver sink r

/-- How metered work can end: without the work having begun, with the outcome of the work, or with a
failure of the metering after the work. -/
inductive Metering (work : Act (World σ) α) (w : World σ) : Outcome α → World σ → Prop
  | skipped {e w'} : w.Observed w' → Metering work w (.error e) w'
  | passed {w₁ w₂ w' r} : w.Observed w₁ → work.run w₁ = (r, w₂) → w₂.Observed w' →
      Metering work w r w'
  | lost {w₁ w₂ w' r e} : w.Observed w₁ → work.run w₁ = (r, w₂) → w₂.Observed w' →
      Metering work w (.error e) w'

theorem metered_ends (sink : Sink) (stage : String) (work : Act (World σ) α) (w : World σ) :
    (metered sink stage work).Ends w (Metering work w) := by
  unfold metered
  apply Act.Ends.bind
  case error =>
    intro e w₁ run
    exact .skipped ((observes_takeSample stage w).run_eq run)
  case ok =>
    intro before w₁ run
    have sampled : w.Observed w₁ := (observes_takeSample stage w).run_eq run
    rcases worked : work.run w₁ with ⟨r, w₂⟩
    refine .bind_ok (a := r) (t := w₂) (by rw [Act.run_attempt, worked]) ?_
    apply Act.Ends.bind
    case error =>
      intro e w₃ run
      exact .lost sampled worked ((observes_takeSample stage w₂).run_eq run)
    case ok =>
      intro after w₃ run
      have again : w₂.Observed w₃ := (observes_takeSample stage w₂).run_eq run
      have silent : (Act.ofOutcome r).Ends w₃ (Metering work w) :=
        .passed sampled worked again
      match before, after with
      | none, _ => exact silent
      | some _, none => exact silent
      | some before, some after =>
        have reported (w₄ : World σ) {answer : Outcome Unit}
            (run : (handOver sink (Usage.between stage before after r.isOk)).run w₃ =
              (answer, w₄)) : w₂.Observed w₄ :=
          again.trans ((observes_handOver sink _ w₃).run_eq run)
        apply Act.Ends.bind
        · intro _ w₄ run
          exact .passed sampled worked (reported w₄ run)
        · intro e w₄ run
          exact .lost sampled worked (reported w₄ run)

/-- A metered call of the client is the call between observations, if it comes to one. Metering
can make a failure of a success, but never a success of a failure. -/
theorem metered_ask_ends (sink : Sink) (stage : String) (work : Act (Desk σ) α) (w : World σ) :
    (metered sink stage (ask work)).Ends w fun r w' =>
      (w.Observed w' ∧ ∃ e, r = .error e) ∨
        ∃ answer, Asked work w answer w' ∧ ∀ a, r = .ok a → answer = .ok a := by
  refine (metered_ends sink stage (ask work) w).imp fun r w' course => ?_
  cases course with
  | skipped observed => exact .inl ⟨observed, _, rfl⟩
  | passed first run last =>
    exact .inr ⟨r, ((asked_of_run run).of_observed first).observed last, fun _ h => h⟩
  | lost first run last =>
    exact .inr ⟨_, ((asked_of_run run).of_observed first).observed last, by simp⟩

end World

end ProofDriver

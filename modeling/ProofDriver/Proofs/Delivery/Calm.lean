import ProofDriver.Proofs.Delivery.Course
import ProofDriver.Proofs.Metering
/-!
# Deliveries under unobtrusive meters

Where the meters stay out of the way, the outcome of a delivery is decided by the answers of the
client alone, and by the disk when it comes to the save.
-/

namespace ProofDriver

open World (Asked Observed)

namespace Act

variable {σ α β γ : Type} {part : World σ → γ}

def Fixes (part : World σ → γ) (x : Act (World σ) α) : Prop :=
  ∀ w, x.Ends w fun _ w' => part w' = part w

namespace Fixes

theorem bind {x : Act (World σ) α} {f : α → Act (World σ) β} (hx : x.Fixes part)
    (hf : ∀ a, (f a).Fixes part) : (x >>= f).Fixes part :=
  Ends.bind_trans (fun h₁ h₂ => h₂.trans h₁) hx hf

theorem ofOutcome (r : Outcome α) : (Act.ofOutcome r : Act (World σ) α).Fixes part :=
  fun _ => rfl

theorem get : (MonadState.get : Act (World σ) (World σ)).Fixes part :=
  fun _ => rfl

end Fixes

theorem closed_fixes
    (silent : ∀ (w : World σ) (journal : Journal), part { w with journal } = part w) :
    Closed fun α (x : Act (World σ) α) => x.Fixes part where
  bind := .bind
  ofOutcome := .ofOutcome
  log _ w := silent w _
  look each _ := Fixes.get.bind each

end Act

namespace Strategy

variable {σ : Type}

open Act (Fixes)

/-- How a strategy ends by the answers of the client. Only a sound client can be refused before its
first call. -/
inductive CalmCourse (client : Client σ) (input : GuestInput) (w : World σ) :
    ProofMode → Outcome Receipt → World σ → Prop
  | refused {e w'} : client.sound = true → w.Observed w' →
      CalmCourse client input w .plonk (.error e) w'
  | single {mode r w'} : mode ≠ .plonk → Asked (client.prove input mode) w r w' →
      CalmCourse client input w mode r w'
  | unwrapped {e w'} : Asked (client.prove input .compressed) w (.error e) w' →
      CalmCourse client input w .plonk (.error e) w'
  | wrapped {compressed answer w₁ w'} :
      Asked (client.prove input .compressed) w (.ok compressed) w₁ →
      Asked (client.wrap compressed) w₁ answer w' →
      CalmCourse client input w .plonk (answer.mapError wrappingFailure) w'

theorem CalmCourse.of_observed {client : Client σ} {input : GuestInput} {mode : ProofMode}
    {r : Outcome Receipt} {w w₁ w' : World σ} (before : w.Observed w₁)
    (course : CalmCourse client input w₁ mode r w') : CalmCourse client input w mode r w' := by
  cases course with
  | refused sound observed => exact .refused sound (before.trans observed)
  | single h asked => exact .single h (asked.of_observed before)
  | unwrapped asked => exact .unwrapped (asked.of_observed before)
  | wrapped first second => exact .wrapped (first.of_observed before) second

theorem CalmCourse.disk {client : Client σ} {input : GuestInput} {mode : ProofMode}
    {r : Outcome Receipt} {w w' : World σ} (course : CalmCourse client input w mode r w') :
    w'.disk = w.disk := by
  cases course with
  | refused _ observed => exact observed.disk
  | single _ asked => exact asked.1
  | unwrapped asked => exact asked.1
  | wrapped first second => exact second.1.trans first.1

theorem requireMemory_fixes_machine (client : Client σ) (settings : Settings) :
    (requireMemory client settings).Fixes World.machine :=
  (Act.closed_fixes fun _ _ => rfl).requireMemory client settings

theorem sound_of_requireMemory_error {client : Client σ} {settings : Settings} {w w' : World σ}
    {e : Failure} (refused : (requireMemory client settings).run w = (.error e, w')) :
    client.sound = true := by
  cases sound : client.sound with
  | true => rfl
  | false =>
    unfold requireMemory at refused
    rw [sound] at refused
    cases refused

variable {sink : Sink}

theorem proveMetered_ends_of_unobtrusive (client : Client σ) (input : GuestInput)
    (mode : ProofMode) {w : World σ} (calm : Unobtrusive sink w.machine) :
    (proveMetered client sink input mode).Ends w fun r w' =>
      Asked (client.prove input mode) w r w' ∧ Unobtrusive sink w'.machine := by
  have metered := World.metered_ask_ends_of_unobtrusive ("prove " ++ mode.name)
    (client.prove input mode) calm
  apply Act.Ends.bind
  case error =>
    intro e w₁ run
    exact metered.run_eq run
  case ok =>
    intro run w₁ called
    obtain ⟨asked, calm₁⟩ := metered.run_eq called
    exact .bind_ok (World.run_log ..) ⟨asked.observed ⟨rfl, rfl⟩, calm₁⟩

theorem proveWrapped_ends_of_unobtrusive (client : Client σ) (settings : Settings)
    (input : GuestInput) {w : World σ} (calm : Unobtrusive sink w.machine) :
    (proveWrapped client settings sink input).Ends w (CalmCourse client input w .plonk) := by
  unfold proveWrapped
  apply Act.Ends.bind
  case error =>
    intro e w₁ run
    exact .refused (sound_of_requireMemory_error run)
      ((observes_requireMemory client settings w).run_eq run)
  case ok =>
    intro _ w₁ run
    have guarded : w.Observed w₁ := (observes_requireMemory client settings w).run_eq run
    have machine : w₁.machine = w.machine :=
      (requireMemory_fixes_machine client settings w).run_eq run
    have calm₁ : Unobtrusive sink w₁.machine := by rwa [machine]
    have proved := proveMetered_ends_of_unobtrusive client input .compressed calm₁
    apply Act.Ends.bind
    case error =>
      intro e w₂ run
      exact .unwrapped ((proved.run_eq run).1.of_observed guarded)
    case ok =>
      intro compressed w₂ run
      obtain ⟨first, calm₂⟩ := proved.run_eq run
      rcases wrapping : (World.metered sink "wrap plonk"
        (World.ask (client.wrap compressed))).run w₂ with ⟨answer, w₃⟩
      refine .bind_ok (a := answer) (t := w₃) (by rw [Act.run_attempt, wrapping]) ?_
      obtain ⟨second, -⟩ := (World.metered_ask_ends_of_unobtrusive "wrap plonk"
        (client.wrap compressed) calm₂).run_eq wrapping
      have course {w₄ : World σ} (seen : w₃.Observed w₄) :
          CalmCourse client input w .plonk (answer.mapError wrappingFailure) w₄ :=
        .wrapped (first.of_observed guarded) (second.observed seen)
      cases answer with
      | error e => exact course (.refl w₃)
      | ok wrapped =>
        refine .bind_ok (a := wrapped) (t := w₃) rfl (.log fun w₄ logged => ?_)
        exact course logged

theorem run_ends_of_unobtrusive (mode : ProofMode) (client : Client σ) (settings : Settings)
    (input : GuestInput) {w : World σ} (calm : Unobtrusive sink w.machine) :
    (run mode client settings sink input).Ends w (CalmCourse client input w mode) := by
  have single {mode : ProofMode} (h : mode ≠ .plonk) :
      (proveMetered client sink input mode).Ends w (CalmCourse client input w mode) :=
    (proveMetered_ends_of_unobtrusive client input mode calm).imp fun _ _ asked =>
      .single h asked.1
  cases mode with
  | core => exact single (by decide)
  | compressed => exact single (by decide)
  | plonk => exact proveWrapped_ends_of_unobtrusive client settings input calm

end Strategy

namespace Delivery

variable {σ : Type} {sink : Sink}

/-- How a delivery ends by the answers of the client and the disk. -/
inductive CalmCourse (client : Client σ) (settings : Settings) (m : ProofMode)
    (output : Option Path) (input : GuestInput) (w : World σ) :
    Outcome (Fixture × Path) → World σ → Prop
  | unproved {e w'} : Strategy.CalmCourse client input w m (.error e) w' →
      CalmCourse client settings m output input w (.error e) w'
  | proved {run w₁ r w'} : Strategy.CalmCourse client input w m (.ok run) w₁ →
      Concluded client settings m output run w₁ r w' →
      CalmCourse client settings m output input w r w'

theorem deliver_ends_of_unobtrusive (client : Client σ) (settings : Settings) (output : Option Path)
    {n mode : Value} {m : ProofMode} {input : GuestInput} {w : World σ}
    (known : ProofMode.ofValue mode = .ok m) (valid : GuestInput.ofValue n = .ok input)
    (calm : Unobtrusive sink w.machine) :
    (deliver client settings sink n mode output).Ends w
      (CalmCourse client settings m output input w) := by
  refine deliver_ends_of_valid known valid fun w₀ logged machine => ?_
  have calm₀ : Unobtrusive sink w₀.machine := by rwa [machine]
  have proving := (Strategy.run_ends_of_unobtrusive m client settings input calm₀).imp
    fun _ _ course => course.of_observed logged
  apply Act.Ends.bind
  case error =>
    intro e w₁ run
    exact .unproved (proving.run_eq run)
  case ok =>
    intro run w₁ proved
    exact (conclude_ends client settings m output run w₁).imp fun _ _ concluded =>
      .proved (proving.run_eq proved) concluded

def spare : World Unit where
  client := ()
  journal := []
  disk := { files := {} }

theorem unobtrusive_spare : Unobtrusive .journal spare.machine :=
  ⟨fun _ mem => (by cases mem), trivial⟩

end Delivery

end ProofDriver

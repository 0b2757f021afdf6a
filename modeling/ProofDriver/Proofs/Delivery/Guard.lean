import ProofDriver.Proofs.Delivery.Discipline
import ProofDriver.Proofs.Settings
/-!
# Settings and the memory guard

The settings of an environment are numbers above zero, and the guard holds a sound client back
unless there is more memory than the minimum. Both comparisons ask whether a number is at or below
its bound, and a NaN is neither below nor above: a variable that spells one passes as a setting, and
a minimum that is one lets every machine pass.
-/

namespace ProofDriver

namespace Strategy

theorem isNan_of_gigabytes {total : Number} {gb : Binary64} (h : gigabytes total = .ok gb) :
    (Number.real gb).isNan = total.isNan := by
  have number {negative : Bool} {num den : Nat} :
      (Number.real (.ofRatio negative num den)).isNan = false := by
    rw [Bool.eq_false_iff, ne_eq, Number.isNan_iff, Number.real.injEq]
    exact Binary64.ofRatio_ne_nan negative num den
  unfold gigabytes at h
  cases total with
  | int n =>
    dsimp only at h
    split at h
    · cases h
    · cases h
      exact number
  | real x =>
    cases x with
    | finite s m e =>
      cases h
      exact number
    | infinite s =>
      cases h
      rfl
    | nan =>
      cases h
      rfl

end Strategy

namespace Delivery

variable {σ : Type} {client : Client σ} {settings : Settings} {w : World σ} {total : Number}

def Ample (settings : Settings) (total : Number) : Prop :=
  ∃ gb, Strategy.gigabytes total = .ok gb ∧ (Number.real gb).le settings.plonkMinRam = false

theorem requireMemory_of_ample (readable : w.machine.totalMemory = .ok total)
    (ample : Ample settings total) :
    (Strategy.requireMemory client settings).run w = (.ok (), w) := by
  obtain ⟨gb, gb_eq, above⟩ := ample
  unfold Strategy.requireMemory
  split
  · rfl
  · rw [Act.run_bind_of_ok (by rw [run_memory?_of_readable readable, gb_eq]; rfl)]
    dsimp only
    rw [if_neg (Bool.eq_false_iff.mp above)]
    rfl

theorem requireMemory_of_not_ample (sound : client.sound = true)
    (readable : w.machine.totalMemory = .ok total) (short : ¬ Ample settings total) :
    ∃ e, (Strategy.requireMemory client settings).run w = (.error e, w) := by
  cases gb_eq : Strategy.gigabytes total with
  | error f =>
    refine ⟨.fault f, ?_⟩
    unfold Strategy.requireMemory
    rw [sound]
    simp only [Bool.not_true, Bool.false_eq_true, if_false]
    exact Act.run_bind_of_error (by rw [run_memory?_of_readable readable, gb_eq]; rfl) _
  | ok gb =>
    have le : (Number.real gb).le settings.plonkMinRam = true := by
      by_contra above
      exact short ⟨gb, gb_eq, Bool.eq_false_iff.mpr above⟩
    have shortage : ShortOfMemory client settings w.machine :=
      ⟨sound, total, gb, readable, gb_eq, le⟩
    obtain ⟨available, refused⟩ := requireMemory_of_short shortage
    exact ⟨_, refused⟩

theorem deliver_ends_of_not_ample (sink : Sink) (output : Option Path) {n mode : Value}
    {input : GuestInput} (known : ProofMode.ofValue mode = .ok .plonk)
    (valid : GuestInput.ofValue n = .ok input) (sound : client.sound = true)
    (readable : w.machine.totalMemory = .ok total) (short : ¬ Ample settings total) :
    (deliver client settings sink n mode output).Ends w fun r w' =>
      w.Observed w' ∧ ∃ e, r = .error e := by
  refine deliver_ends_of_valid known valid fun w₀ logged machine => ?_
  have readable₀ : w₀.machine.totalMemory = .ok total := by rwa [machine]
  obtain ⟨e, refused⟩ := requireMemory_of_not_ample sound readable₀ short
  have stopped : (Strategy.run .plonk client settings sink input).run w₀ = (.error e, w₀) :=
    Act.run_bind_of_error refused _
  exact .bind_error stopped ⟨logged, e, rfl⟩

end Delivery

namespace Settings

variable {env : Environment} {s : Settings}

/-- There is more memory than the minimum, unless one of the two is a NaN. -/
def Suffices (env : Environment) (s : Settings) (total : Number) : Prop :=
  ∃ gb, Strategy.gigabytes total = .ok gb ∧
    (s.plonkMinRam.lt (.real gb) = true ∨ total.isNan = true ∨
      env.SpellsNan "FIBPROOF_PLONK_MIN_RAM_GB")

theorem ample_iff_suffices (worth : Worth env "FIBPROOF_PLONK_MIN_RAM_GB" s.plonkMinRam)
    {total : Number} : Delivery.Ample s total ↔ Suffices env s total := by
  refine exists_congr fun gb => and_congr_right fun gb_eq => ?_
  rw [Number.le_eq_false_iff, Strategy.isNan_of_gigabytes gb_eq, worth.isNan_iff]

/-- What can be relied on in the settings of an environment. -/
structure Usable (env : Environment) (s : Settings) : Prop where
  named : s.backend.name = ((env.get? "FIBPROOF_PROVER").map fun value =>
    Text.lower (Text.strip value)).getD "local"
  known : s.backend.name = "local" ∨ s.backend.name = "mock"
  timeout : ∀ t, s.timeout = some t → Worth env "FIBPROOF_TIMEOUT" t
  minimum : Worth env "FIBPROOF_PLONK_MIN_RAM_GB" s.plonkMinRam
  guard : ∀ {σ : Type} (client : Client σ) (w : World σ) (total : Number), client.sound = true →
    w.machine.totalMemory = .ok total →
      (((Strategy.requireMemory client s).run w).1 = .ok () ↔ Suffices env s total)
  /-- A client that is asked anything for a wrapped proof was let through. -/
  wrapped : ∀ {σ : Type} (client : Client σ) (sink : Sink) (n mode : Value) (output : Option Path)
    (w : World σ) (total : Number), client.sound = true → w.machine.totalMemory = .ok total →
      ProofMode.ofValue mode = .ok .plonk →
      ((Delivery.deliver client.traced s sink n mode output).run w.traced).2.trace ≠ [] →
        Suffices env s total

/-- An environment comes to settings that can be relied on or is refused as a configuration. -/
theorem ofEnvironment_usable (env : Environment) :
    match ofEnvironment env with
    | .ok s => Usable env s
    | .error e => e.category = .invalidInput ∧ e.stage = "config" := by
  cases built : ofEnvironment env with
  | error e =>
    have misconfigured := misconfigured_of_ofEnvironment e built
    exact ⟨misconfigured.category, misconfigured.stage⟩
  | ok s =>
    obtain ⟨_, _, _, _, -, -, -, -, backend, -, -⟩ := ofEnvironment_eq_ok built
    have minimum := worth_plonkMinRam built
    refine ⟨name_of_backendVariable backend, ?_, fun t => worth_timeout built, minimum, ?_, ?_⟩
    · cases s.backend with
      | host => exact .inl rfl
      | mock => exact .inr rfl
    · intro σ client w total sound readable
      rw [← ample_iff_suffices minimum]
      constructor
      · intro passed
        by_contra short
        obtain ⟨e, refused⟩ := Delivery.requireMemory_of_not_ample sound readable short
        rw [refused] at passed
        cases passed
      · intro ample
        rw [Delivery.requireMemory_of_ample readable ample]
    · intro σ client sink n mode output w total sound readable known asked
      rw [← ample_iff_suffices minimum]
      by_contra short
      cases valid : GuestInput.ofValue n with
      | error e =>
        have course := Delivery.deliver_ends client.traced s sink n mode output w.traced
        exact asked (course.of_invalidInput known valid).1
      | ok input =>
        have held : (Delivery.deliver client.traced s sink n mode output).Ends w.traced
            fun r w' => w.traced.Observed w' ∧ ∃ e, r = .error e :=
          Delivery.deliver_ends_of_not_ample sink output known valid sound readable short
        obtain ⟨observed, -⟩ := held
        exact asked observed.trace

/-- A variable that is no number at all sets the minimum, and a machine with a single gigabyte
passes. -/
theorem exists_unusable_minimum :
    ∃ s, ofEnvironment [("FIBPROOF_PLONK_MIN_RAM_GB", "nan")] = .ok s ∧
      s.plonkMinRam = .real .nan ∧ ¬ s.plonkMinRam.Positive ∧
      ((Strategy.requireMemory Delivery.untried s).run
        { Delivery.spare with machine.totalMemory := .ok (.int 1000000000) }).1 = .ok () := by
  refine ⟨{ plonkMinRam := .real .nan }, ?_, rfl, by decide, ?_⟩
  · decide +kernel
  · rw [Delivery.requireMemory_of_ample rfl ⟨.finite false 4503599627370496 (-52), ?_, rfl⟩]
    decide +kernel

end Settings

end ProofDriver

import ProofDriver.Proofs.Number
import ProofDriver.Proofs.Outcome
import ProofDriver.Settings
/-!
# Settings from an environment

A variable that cannot be read is an invalid input of the configuration. A number that was read is
above zero, or it is the NaN that its text spells: such a text is no number at or below zero, which
is all that is asked of it.
-/

namespace ProofDriver

def Environment.SpellsNan (env : Environment) (name : String) : Prop :=
  ∃ value ∈ env.get? name, Numeral.SpellsNan value

theorem Backend.ofName?_eq_some {name : String} {b : Backend} :
    ofName? name = some b ↔ b.name = name := by
  constructor
  · intro found
    exact beq_iff_eq.mp (List.find?_some (p := fun b : Backend => b.name == name) found)
  · rintro rfl
    cases b <;> decide

namespace Settings

variable {α : Type} {env : Environment} {name value : String}

/-! ## Errors -/

structure Misconfigured (e : DriverError) : Prop where
  category : e.category = .invalidInput
  stage : e.stage = "config"

theorem misconfigured_of_refuse {text : String} :
    ∀ e, (refuse text : Except DriverError α) = .error e → Misconfigured e := by
  rintro _ ⟨⟩
  exact ⟨rfl, rfl⟩

theorem misconfigured_of_readPositive :
    ∀ e, readPositive name value = .error e → Misconfigured e := by
  intro e failed
  unfold readPositive at failed
  split at failed
  · exact misconfigured_of_refuse e failed
  · split at failed
    · exact misconfigured_of_refuse e failed
    · cases failed

theorem misconfigured_of_readSwitch :
    ∀ e, readSwitch name value = .error e → Misconfigured e := by
  intro e failed
  unfold readSwitch at failed
  dsimp only at failed
  split at failed
  · cases failed
  · split at failed
    · cases failed
    · exact misconfigured_of_refuse e failed

theorem misconfigured_of_backendOf : ∀ e, backendOf name = .error e → Misconfigured e := by
  intro e failed
  unfold backendOf at failed
  split at failed
  · cases failed
  · exact misconfigured_of_refuse e failed

theorem misconfigured_of_backendVariable :
    ∀ e, backendVariable env = .error e → Misconfigured e := by
  intro e failed
  unfold backendVariable at failed
  split at failed
  · cases failed
  · exact misconfigured_of_backendOf e failed

theorem misconfigured_of_readVariable {read : String → String → Except DriverError α}
    (reader : ∀ value e, read name value = .error e → Misconfigured e) :
    ∀ e, readVariable env name read = .error e → Misconfigured e := by
  intro e failed
  unfold readVariable at failed
  split at failed
  · cases failed
  · rename_i value _
    cases result : read name value with
    | ok a =>
      rw [result] at failed
      cases failed
    | error e' =>
      rw [result] at failed
      cases failed
      exact reader value e result

theorem misconfigured_of_ofEnvironment :
    ∀ e, ofEnvironment env = .error e → Misconfigured e := by
  have number {name : String} (e : DriverError)
      (failed : readVariable env name readPositive = .error e) : Misconfigured e :=
    misconfigured_of_readVariable (fun _ => misconfigured_of_readPositive) e failed
  have switch {name : String} (e : DriverError)
      (failed : readVariable env name readSwitch = .error e) : Misconfigured e :=
    misconfigured_of_readVariable (fun _ => misconfigured_of_readSwitch) e failed
  unfold ofEnvironment
  refine Except.bind_errors number fun timeout _ => ?_
  refine Except.bind_errors number fun ram _ => ?_
  refine Except.bind_errors switch fun sdkDev _ => ?_
  refine Except.bind_errors switch fun ownDev _ => ?_
  exact Except.bind_errors misconfigured_of_backendVariable fun _ _ _ => nofun

/-! ## Numbers -/

/-- What a variable is worth as a number: it is above zero, but for a variable that spells a NaN. -/
structure Worth (env : Environment) (name : String) (n : Number) : Prop where
  positive : ¬ env.SpellsNan name → n.Positive
  nan : env.SpellsNan name → n = .real .nan

theorem Worth.isNan_iff {n : Number} (worth : Worth env name n) :
    n.isNan = true ↔ env.SpellsNan name := by
  constructor
  · intro isNan
    by_cases spelled : env.SpellsNan name
    · exact spelled
    · have positive := worth.positive spelled
      rw [Number.isNan_iff.mp isNan] at positive
      exact absurd positive (by decide)
  · intro spelled
    rw [worth.nan spelled]
    rfl

theorem worth_of_readPositive {x : Binary64} (here : env.get? name = some value)
    (read : readPositive name value = .ok x) : Worth env name (.real x) := by
  unfold readPositive at read
  split at read
  · cases read
  · rename_i y value_eq
    split at read
    · cases read
    · rename_i above
      cases read
      have spelled : env.SpellsNan name ↔ x = .nan := by
        unfold Environment.SpellsNan
        rw [here]
        simp [← Numeral.readDouble_eq_nan_iff, value_eq]
      constructor
      · intro number
        exact Number.positive_of_not_le (Bool.eq_false_iff.mpr above) (mt spelled.mpr number)
      · intro nan
        rw [spelled.mp nan]

theorem worth_of_readVariable {r : Option Binary64}
    (read : readVariable env name readPositive = .ok r) :
    match r with
    | some x => Worth env name (.real x)
    | none => ¬ env.SpellsNan name := by
  unfold readVariable at read
  split at read
  · rename_i absent
    cases read
    rintro ⟨value, here, -⟩
    rw [absent] at here
    cases here
  · rename_i value here
    cases result : readPositive name value with
    | ok x =>
      rw [result] at read
      cases read
      exact worth_of_readPositive here result
    | error e =>
      rw [result] at read
      cases read

/-! ## Settings -/

theorem backendOf_eq_ok {backend : Backend} :
    backendOf name = .ok backend ↔ backend.name = name := by
  rw [← Backend.ofName?_eq_some, backendOf]
  cases Backend.ofName? name with
  | none => exact ⟨nofun, nofun⟩
  | some b => rw [Except.ok.injEq, Option.some.injEq]

theorem name_of_backendVariable {backend : Backend} (h : backendVariable env = .ok backend) :
    backend.name = ((env.get? "FIBPROOF_PROVER").map fun value =>
      Text.lower (Text.strip value)).getD "local" := by
  unfold backendVariable at h
  split at h
  · rename_i absent
    cases h
    rw [absent]
    rfl
  · rename_i value here
    rw [backendOf_eq_ok.mp h, here]
    rfl

theorem ofEnvironment_eq_ok {s : Settings} (h : ofEnvironment env = .ok s) :
    ∃ timeout ram sdkDev ownDev,
      readVariable env "FIBPROOF_TIMEOUT" readPositive = .ok timeout ∧
      readVariable env "FIBPROOF_PLONK_MIN_RAM_GB" readPositive = .ok ram ∧
      readVariable env "SP1_DEV" readSwitch = .ok sdkDev ∧
      readVariable env "FIBPROOF_DEV" readSwitch = .ok ownDev ∧
      backendVariable env = .ok s.backend ∧
      s.timeout = timeout.map .real ∧ s.plonkMinRam = (ram.map .real).getD (.int 120) := by
  unfold ofEnvironment at h
  obtain ⟨timeout, timeout_eq, h⟩ := Except.bind_eq_ok.mp h
  obtain ⟨ram, ram_eq, h⟩ := Except.bind_eq_ok.mp h
  obtain ⟨sdkDev, sdkDev_eq, h⟩ := Except.bind_eq_ok.mp h
  obtain ⟨ownDev, ownDev_eq, h⟩ := Except.bind_eq_ok.mp h
  obtain ⟨backend, backend_eq, h⟩ := Except.bind_eq_ok.mp h
  cases h
  exact ⟨timeout, ram, sdkDev, ownDev, timeout_eq, ram_eq, sdkDev_eq, ownDev_eq, backend_eq, rfl,
    rfl⟩

theorem worth_timeout {s : Settings} (h : ofEnvironment env = .ok s) {t : Number}
    (set : s.timeout = some t) : Worth env "FIBPROOF_TIMEOUT" t := by
  obtain ⟨timeout, _, _, _, read, -, -, -, -, timeout_eq, -⟩ := ofEnvironment_eq_ok h
  have worth := worth_of_readVariable read
  rw [timeout_eq] at set
  cases timeout with
  | none => cases set
  | some x =>
    cases set
    exact worth

theorem worth_plonkMinRam {s : Settings} (h : ofEnvironment env = .ok s) :
    Worth env "FIBPROOF_PLONK_MIN_RAM_GB" s.plonkMinRam := by
  obtain ⟨_, ram, _, _, -, read, -, -, -, -, ram_eq⟩ := ofEnvironment_eq_ok h
  have worth := worth_of_readVariable read
  rw [ram_eq]
  cases ram with
  | none => exact ⟨fun _ => by decide, fun spelled => absurd spelled worth⟩
  | some x => exact worth

end Settings

end ProofDriver

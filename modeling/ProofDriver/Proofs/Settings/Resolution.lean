import ProofDriver.Proofs.Settings
/-!
# Settings field by field

Overrides go before variables and variables before defaults, each field on its own. A chain of
overrides comes to a single one, which gives every field the last value that the chain gives it; so
an override that says nothing about a field changes nothing there, and one that switches it off does.
-/

namespace ProofDriver

theorem Backend.exists_name_iff (name : String) :
    (∃ b : Backend, b.name = name) ↔ (ofName? name).isSome := by
  simp only [Option.isSome_iff_exists, ofName?_eq_some]

namespace Settings

/-! ## Variables -/

/-- What is read from the environment. -/
inductive Variable where
  | backend
  | proverPath
  | elfPath
  | dev
  | sdkDev
  | fixtureDirectory
  | timeout
  | plonkMinRam
  deriving Repr, DecidableEq

namespace Variable

def name : Variable → String
  | backend => "FIBPROOF_PROVER"
  | proverPath => "FIBPROOF_PROVER_PATH"
  | elfPath => "FIBPROOF_ELF"
  | dev => "FIBPROOF_DEV"
  | sdkDev => "SP1_DEV"
  | fixtureDirectory => "FIBPROOF_FIXTURE_DIR"
  | timeout => "FIBPROOF_TIMEOUT"
  | plonkMinRam => "FIBPROOF_PLONK_MIN_RAM_GB"

def all : List Variable :=
  [backend, proverPath, elfPath, dev, sdkDev, fixtureDirectory, timeout, plonkMinRam]

theorem mem_all (v : Variable) : v ∈ all := by
  cases v <;> decide

def Accepts (v : Variable) (value : String) : Prop :=
  match v with
  | backend => ∃ known : Backend, known.name = Text.lower (Text.strip value)
  | dev | sdkDev => ∃ on, readSwitch v.name value = .ok on
  | timeout | plonkMinRam => ∃ x, readPositive v.name value = .ok x
  | proverPath | elfPath | fixtureDirectory => True

theorem exists_ok_iff {ε α : Type} {r : Except ε α} : (∃ a, r = .ok a) ↔ r.toOption.isSome := by
  cases r with
  | ok a => exact ⟨fun _ => rfl, fun _ => ⟨a, rfl⟩⟩
  | error e => exact ⟨nofun, nofun⟩

instance (v : Variable) (value : String) : Decidable (v.Accepts value) :=
  match v with
  | backend => decidable_of_iff _ (Backend.exists_name_iff _).symm
  | dev | sdkDev | timeout | plonkMinRam => decidable_of_iff _ exists_ok_iff.symm
  | proverPath | elfPath | fixtureDirectory => .isTrue trivial

def said {α : Type} (v : Variable) (env : Environment) (read : String → Option α) : Option α :=
  (env.get? v.name).bind read

end Variable

def WellFormed (env : Environment) : Prop :=
  ∀ v : Variable, ∀ value ∈ env.get? v.name, v.Accepts value

instance (env : Environment) : Decidable (WellFormed env) :=
  decidable_of_iff (∀ v ∈ Variable.all, ∀ value ∈ env.get? v.name, v.Accepts value)
    ⟨fun h v => h v (Variable.mem_all v), fun h v _ => h v⟩

variable {α : Type} {env : Environment} {name : String} {s : Settings} {o : Overrides}
  {overrides : List Overrides}

theorem exists_backendOf_error (unknown : ∀ b : Backend, b.name ≠ name) :
    ∃ e, backendOf name = .error e ∧ Misconfigured e := by
  cases result : backendOf name with
  | error e => exact ⟨e, rfl, misconfigured_of_backendOf e result⟩
  | ok b => exact absurd (backendOf_eq_ok.mp result) (unknown b)

theorem readVariable_of_readable (read : String → String → Except DriverError α)
    (readable : ∀ value ∈ env.get? name, ∃ a, read name value = .ok a) :
    readVariable env name read =
      .ok ((env.get? name).bind fun value => (read name value).toOption) := by
  unfold readVariable
  cases here : env.get? name with
  | none => rfl
  | some value =>
    obtain ⟨a, result⟩ := readable value here
    simp only [result, Option.bind_some]
    rfl

theorem readable_of_readVariable {read : String → String → Except DriverError α} {r : Option α}
    (h : readVariable env name read = .ok r) :
    ∀ value ∈ env.get? name, ∃ a, read name value = .ok a := by
  intro value here
  rw [Option.mem_def] at here
  simp only [readVariable, here] at h
  cases result : read name value with
  | ok a => exact ⟨a, rfl⟩
  | error e =>
    rw [result] at h
    cases h

theorem backendVariable_of_known
    (known : ∀ value ∈ env.get? "FIBPROOF_PROVER", Variable.backend.Accepts value) :
    backendVariable env = .ok (((env.get? "FIBPROOF_PROVER").bind fun value =>
      Backend.ofName? (Text.lower (Text.strip value))).getD .host) := by
  unfold backendVariable
  cases here : env.get? "FIBPROOF_PROVER" with
  | none => rfl
  | some value =>
    obtain ⟨b, spelled⟩ := known value here
    simp only [Option.bind_some, backendOf_eq_ok.mpr spelled, Backend.ofName?_eq_some.mpr spelled,
      Option.getD_some]

theorem known_of_backendVariable {b : Backend} (h : backendVariable env = .ok b) :
    ∀ value ∈ env.get? "FIBPROOF_PROVER", Variable.backend.Accepts value := by
  intro value here
  rw [Option.mem_def] at here
  have spelled := name_of_backendVariable h
  rw [here] at spelled
  exact ⟨b, spelled⟩

/-! ## One field after the other -/

def lastGiven (field : Overrides → Option α) (overrides : List Overrides) : Option α :=
  (overrides.filterMap field).getLast?

/-- Every field by itself: its last override, else what its variable says, else its default. The
driver's own variable for development settings goes before the other one. -/
def layered (env : Environment) (overrides : List Overrides) : Settings where
  backend := ((lastGiven (·.backend) overrides).bind Backend.ofName?).getD
    ((Variable.backend.said env fun value => Backend.ofName? (Text.lower (Text.strip value))).getD
      .host)
  proverPath := (lastGiven (·.proverPath) overrides).getD
    ((Variable.proverPath.said env fun value => some (Path.ofString value)).getD
      (Path.ofString "prover/sp1-prover"))
  elfPath := (lastGiven (·.elfPath) overrides).getD
    ((Variable.elfPath.said env fun value => some (Path.ofString value)).getD
      (Path.ofString "program/elf/riscv32im-succinct-zkvm-elf"))
  dev := (lastGiven (·.dev) overrides).getD
    ((Variable.dev.said env fun value => (readSwitch "FIBPROOF_DEV" value).toOption).getD
      ((Variable.sdkDev.said env fun value => (readSwitch "SP1_DEV" value).toOption).getD false))
  fixtureDirectory := (lastGiven (·.fixtureDirectory) overrides).getD
    ((Variable.fixtureDirectory.said env fun value => some (Path.ofString value)).getD
      (Path.ofString "fixtures"))
  timeout := (lastGiven (·.timeout) overrides).or
    ((Variable.timeout.said env fun value =>
      (readPositive "FIBPROOF_TIMEOUT" value).toOption).map .real)
  plonkMinRam := (lastGiven (·.plonkMinRam) overrides).getD
    (((Variable.plonkMinRam.said env fun value =>
      (readPositive "FIBPROOF_PLONK_MIN_RAM_GB" value).toOption).map .real).getD (.int 120))

theorem pathVariable_eq (env : Environment) (name : String) (otherwise : Path) :
    pathVariable env name otherwise =
      ((env.get? name).bind fun value => some (Path.ofString value)).getD otherwise := by
  unfold pathVariable
  cases env.get? name <;> rfl

theorem ofEnvironment_of_wellFormed (wellFormed : WellFormed env) :
    ofEnvironment env = .ok (layered env []) := by
  have timeout := readVariable_of_readable readPositive (wellFormed .timeout)
  have ram := readVariable_of_readable readPositive (wellFormed .plonkMinRam)
  have sdkDev := readVariable_of_readable readSwitch (wellFormed .sdkDev)
  have ownDev := readVariable_of_readable readSwitch (wellFormed .dev)
  have backend := backendVariable_of_known (wellFormed .backend)
  simp only [Variable.name] at timeout ram sdkDev ownDev
  simp only [ofEnvironment, timeout, ram, sdkDev, ownDev, backend, Except.ok_bind,
    pathVariable_eq, Option.getD_or]
  rfl

theorem wellFormed_of_ofEnvironment (h : ofEnvironment env = .ok s) : WellFormed env := by
  obtain ⟨timeout, ram, sdkDev, ownDev, timeout_eq, ram_eq, sdkDev_eq, ownDev_eq, backend_eq, -⟩ :=
    ofEnvironment_eq_ok h
  intro v
  cases v with
  | backend => exact known_of_backendVariable backend_eq
  | dev => exact readable_of_readVariable ownDev_eq
  | sdkDev => exact readable_of_readVariable sdkDev_eq
  | timeout => exact readable_of_readVariable timeout_eq
  | plonkMinRam => exact readable_of_readVariable ram_eq
  | proverPath | elfPath | fixtureDirectory => exact fun _ _ => trivial

theorem ofEnvironment_congr {env' : Environment}
    (same : ∀ v : Variable, env'.get? v.name = env.get? v.name) :
    ofEnvironment env' = ofEnvironment env := by
  have backend := same .backend
  have proverPath := same .proverPath
  have elfPath := same .elfPath
  have dev := same .dev
  have sdkDev := same .sdkDev
  have fixtureDirectory := same .fixtureDirectory
  have timeout := same .timeout
  have plonkMinRam := same .plonkMinRam
  simp only [Variable.name] at *
  simp only [ofEnvironment, readVariable, backendVariable, pathVariable, *]

/-! ## Overrides -/

def Overrides.Known (o : Overrides) : Prop :=
  ∀ name ∈ o.backend, ∃ b : Backend, b.name = name

def Overrides.merged (overrides : List Overrides) : Overrides where
  backend := lastGiven (·.backend) overrides
  proverPath := lastGiven (·.proverPath) overrides
  elfPath := lastGiven (·.elfPath) overrides
  dev := lastGiven (·.dev) overrides
  fixtureDirectory := lastGiven (·.fixtureDirectory) overrides
  timeout := lastGiven (·.timeout) overrides
  plonkMinRam := lastGiven (·.plonkMinRam) overrides

def overridden (s : Settings) (o : Overrides) : Settings where
  backend := (o.backend.bind Backend.ofName?).getD s.backend
  proverPath := o.proverPath.getD s.proverPath
  elfPath := o.elfPath.getD s.elfPath
  dev := o.dev.getD s.dev
  fixtureDirectory := o.fixtureDirectory.getD s.fixtureDirectory
  timeout := o.timeout.or s.timeout
  plonkMinRam := o.plonkMinRam.getD s.plonkMinRam

theorem lastGiven_cons (field : Overrides → Option α) (o : Overrides) (rest : List Overrides) :
    lastGiven field (o :: rest) = (lastGiven field rest).or (field o) := by
  unfold lastGiven
  cases given : field o with
  | none => rw [List.filterMap_cons_none given, Option.or_none]
  | some a =>
    rw [List.filterMap_cons_some given, List.getLast?_cons]
    cases (rest.filterMap field).getLast? <;> rfl

theorem exists_mem_of_lastGiven {field : Overrides → Option α} {a : α}
    (last : lastGiven field overrides = some a) : ∃ o ∈ overrides, field o = some a :=
  List.mem_filterMap.mp (List.mem_of_getLast? last)

theorem Overrides.known_merged (known : ∀ o ∈ overrides, o.Known) :
    (merged overrides).Known := by
  intro name last
  obtain ⟨o, mem, given⟩ := exists_mem_of_lastGiven last
  exact known o mem name given

theorem replace_of_known (known : o.Known) : s.replace o = .ok (s.overridden o) := by
  unfold replace
  cases given : o.backend with
  | none => simp only [overridden, given, Except.ok_bind, Option.bind_none, Option.getD_none]
  | some name =>
    obtain ⟨b, named⟩ := known name given
    simp only [overridden, given, backendOf_eq_ok.mpr named, Backend.ofName?_eq_some.mpr named,
      Except.ok_bind, Option.bind_some, Option.getD_some]

theorem replace_of_unknown (unknown : ¬ o.Known) :
    ∃ e, s.replace o = .error e ∧ Misconfigured e := by
  obtain ⟨name, unknown⟩ := Classical.not_forall.mp unknown
  obtain ⟨given, unknown⟩ := Classical.not_imp.mp unknown
  obtain ⟨e, refused, misconfigured⟩ := exists_backendOf_error (not_exists.mp unknown)
  rw [Option.mem_def] at given
  refine ⟨e, ?_, misconfigured⟩
  rw [replace, given]
  simp only [refused]
  rfl

theorem backend_overridden (backend : Backend) (first : Option String) {last : Option String}
    (known : ∀ name ∈ last, ∃ b : Backend, b.name = name) :
    (last.bind Backend.ofName?).getD ((first.bind Backend.ofName?).getD backend) =
      ((last.or first).bind Backend.ofName?).getD backend := by
  cases last with
  | none => rfl
  | some name =>
    obtain ⟨b, named⟩ := known name rfl
    rw [Option.some_or, Option.bind_some, Backend.ofName?_eq_some.mpr named]
    rfl

theorem overridden_merged_cons (rest : List Overrides) (known : ∀ o ∈ rest, o.Known) :
    (s.overridden o).overridden (.merged rest) = s.overridden (.merged (o :: rest)) := by
  have backend := backend_overridden s.backend o.backend (Overrides.known_merged known)
  simp only [overridden, Overrides.merged, lastGiven_cons, Option.getD_or, Option.or_assoc] at *
  rw [backend]

theorem foldlM_replace (known : ∀ o ∈ overrides, o.Known) :
    overrides.foldlM replace s = .ok (s.overridden (.merged overrides)) := by
  induction overrides generalizing s with
  | nil => rfl
  | cons o rest ih =>
    rw [List.forall_mem_cons] at known
    rw [List.foldlM_cons, replace_of_known known.1, Except.ok_bind, ih known.2,
      overridden_merged_cons rest known.2]

/-! ## Refused overrides -/

instance (o : Overrides) : Decidable o.Known :=
  decidable_of_iff (∀ name ∈ o.backend, (Backend.ofName? name).isSome)
    (forall₂_congr fun name _ => (Backend.exists_name_iff name).symm)

def keeping (s : Settings) (o : Overrides) : Settings :=
  match s.replace o with
  | .ok s' => s'
  | .error _ => s

theorem keeping_of_known (known : o.Known) : s.keeping o = s.overridden o := by
  rw [keeping, replace_of_known known]

theorem keeping_of_unknown (unknown : ¬ o.Known) : s.keeping o = s := by
  obtain ⟨e, refused, -⟩ := replace_of_unknown (s := s) unknown
  rw [keeping, refused]

/-- Where every refusal is passed over, the overrides that are not refused apply as if there were no
others. -/
theorem foldlM_replace_filter_known (s : Settings) (overrides : List Overrides) :
    (overrides.filter (·.Known)).foldlM replace s = .ok (overrides.foldl keeping s) := by
  induction overrides generalizing s with
  | nil => rfl
  | cons o rest ih =>
    rw [List.foldl_cons]
    by_cases known : o.Known
    · rw [List.filter_cons_of_pos (by simp [known]), List.foldlM_cons,
        replace_of_known known, Except.ok_bind, ih, keeping_of_known known]
    · rw [List.filter_cons_of_neg (by simp [known]), ih, keeping_of_unknown known]

/-! ## Resolution -/

def resolve (env : Environment) (overrides : List Overrides) : Except DriverError Settings := do
  overrides.foldlM replace (← ofEnvironment env)

/-- Variables that can be read and overrides that name backends that there are come to settings, each
field by itself: (1) the last override of a field goes before its variable and that before the
default; (2) no other variables count; (3) of the overrides nothing but the last values count. (4) A
variable that cannot be read is refused as a configuration, and (5) so is an override that names no
backend. (6) A refused override leaves the settings before it for those that follow. -/
theorem resolved_field_by_field (env : Environment) (overrides : List Overrides) :
    (WellFormed env → (∀ o ∈ overrides, o.Known) →
      resolve env overrides = .ok (layered env overrides)) ∧
    (∀ env' : Environment, (∀ v : Variable, env'.get? v.name = env.get? v.name) →
      resolve env' overrides = resolve env overrides) ∧
    (∀ overrides' : List Overrides, (∀ o ∈ overrides, o.Known) → (∀ o ∈ overrides', o.Known) →
      Overrides.merged overrides' = .merged overrides →
        resolve env overrides' = resolve env overrides) ∧
    (¬ WellFormed env → ∃ e, ofEnvironment env = .error e ∧ Misconfigured e) ∧
    (∀ (s : Settings) (o : Overrides), ¬ o.Known →
      ∃ e, s.replace o = .error e ∧ Misconfigured e) ∧
    ∀ s : Settings,
      (overrides.filter (·.Known)).foldlM replace s = .ok (overrides.foldl keeping s) := by
  refine ⟨fun wellFormed known => ?_, fun env' same => ?_, fun overrides' known known' same => ?_,
    fun malformed => ?_, fun s o => replace_of_unknown, fun s =>
      foldlM_replace_filter_known s overrides⟩
  · rw [resolve, ofEnvironment_of_wellFormed wellFormed, Except.ok_bind, foldlM_replace known]
    rfl
  · rw [resolve, ofEnvironment_congr same, resolve]
  · unfold resolve
    congr 1
    funext s
    rw [foldlM_replace known', foldlM_replace known, same]
  · cases built : ofEnvironment env with
    | error e => exact ⟨e, rfl, misconfigured_of_ofEnvironment e built⟩
    | ok s => exact absurd (wellFormed_of_ofEnvironment built) malformed

def relaxedMock : Environment := [
  ("SP1_DEV", "1"), ("FIBPROOF_DEV", " On "), ("FIBPROOF_PROVER", " Mock "),
  ("FIBPROOF_TIMEOUT", "600"), ("HOME", "/home")]

/-- Overrides that go back to the prover of this host, say nothing, and switch the relaxed settings
off. -/
def strictLocal : List Overrides :=
  [{ backend := some "local" }, {}, { dev := some false }]

/-- An override that says nothing leaves the relaxed settings on, and one that says no switches them
off; the time limit is still the variable's. A word that is no switch is refused although the other
variable goes before it. -/
theorem exists_resolved :
    resolve relaxedMock strictLocal =
      .ok { timeout := some (.real (.finite false 5277655813324800 (-43))) } ∧
    resolve (relaxedMock.set "HOME" "/root") strictLocal = resolve relaxedMock strictLocal ∧
    resolve relaxedMock [{ dev := some true }, { dev := some false, backend := some "local" }] =
      resolve relaxedMock strictLocal ∧
    (∃ e, ofEnvironment [("FIBPROOF_DEV", "1"), ("SP1_DEV", "maybe")] = .error e ∧
      Misconfigured e) ∧
    (∃ e, ({} : Settings).replace { backend := some "remote" } = .error e ∧ Misconfigured e) := by
  have resolved := resolved_field_by_field relaxedMock strictLocal
  refine ⟨?_, resolved.2.1 _ ?_, resolved.2.2.1 _ ?_ ?_ ?_,
    (resolved_field_by_field _ []).2.2.2.1 ?_, resolved.2.2.2.2.1 _ _ ?_⟩
  · rw [resolved.1 (by decide +kernel) (by decide +kernel), Except.ok.injEq]
    decide +kernel
  · intro v
    cases v <;> decide +kernel
  · decide +kernel
  · decide +kernel
  · decide +kernel
  · decide +kernel
  · decide +kernel

end Settings

end ProofDriver

import ProofDriver.Proofs.Fixture
/-!
# Which documents are fixtures

The documents that are accepted are told apart by their fields alone (`Fixture.Acceptable`), and
what is accepted keeps them (`Fixture.Kept`), so that nothing is lost between a document and its
fixture.
-/

namespace ProofDriver

/-- The same value; of doubles, the same number. -/
inductive Value.Matches : Value → Value → Prop
  | same (v : Value) : Matches v v
  | real (x y : Binary64) (equal : x.compare? y = some .eq) : Matches (.real x) (.real y)

theorem Binary64.compare?_one {x : Binary64} (one : compareRatio 1 1 x = some .eq) :
    (finite false leastNormal (-52)).compare? x = some .eq := by
  cases x with
  | finite s m e =>
    have unit : scaled leastNormal (-52) = (4503599627370496, 4503599627370496) := by decide
    simp only [compareRatio, Int.one_mul, Int.natCast_one, Int.mul_one, Option.some.injEq,
      Std.compare_eq_iff_eq] at one
    simp only [compare?, compareRatio, unit, Option.some.injEq, Std.compare_eq_iff_eq]
    rw [one]
    simp [Int.mul_comm]
  | infinite s => cases s <;> cases one
  | nan => cases one

theorem FixtureVersion.ofValue?_tooLong : ofValue? Value.tooLong = none := by
  rw [Option.eq_none_iff_forall_ne_some]
  intro version written
  obtain ⟨x, number, one⟩ := exists_ofValue?_iff.mp ⟨version, written⟩
  cases number
  rw [Number.compare?, Option.some.injEq, Std.compare_eq_iff_eq] at one
  refine Numeral.not_word_of_long Numeral.isShort_leastLong ?_
  rw [← one]
  decide

theorem FixtureVersion.matches_of_ofValue? {v : Value} {version : FixtureVersion}
    (h : ofValue? v = some version) : version.toValue.Matches v := by
  cases v with
  | bool b =>
    cases b with
    | true =>
      cases h
      exact .same _
    | false => cases h
  | int n =>
    by_cases one : n = 1
    · subst one
      cases h
      exact .same _
    · simp [ofValue?, Value.number?, one] at h
  | real x =>
    simp only [ofValue?] at h
    split at h
    · rename_i one
      cases h
      exact .real _ _ (Binary64.compare?_one one)
    · cases h
  | null | text _ | bytes _ | list _ | object _ => cases h

namespace Fixture

variable {f : Fixture} {fields : Fields}

/-- What the documents of fixtures have, field by field. -/
structure Acceptable (fields : Fields) : Prop extends InOrder fields where
  mode : ∃ mode, ProofMode.ofValue (field fields "mode") = .ok mode
  n : ∃ n, field fields "n" = .int n
  a : ∃ a, field fields "a" = .int a
  b : ∃ b, field fields "b" = .int b
  dev : fields.get? "dev" = none ∨ ∃ dev, fields.get? "dev" = some (.bool dev)

/-- What a fixture keeps of the fields that it was read from. -/
structure Kept (fields : Fields) (f : Fixture) : Prop where
  version : ∃ v v', f.toFields.get? "version" = some v ∧ fields.get? "version" = some v' ∧
    v.Matches v'
  same : ∀ name ∈ ["vkey", "publicValues", "proof", "n", "a", "b"],
    f.toFields.get? (name : String) = fields.get? (name : String)
  mode : ∃ mode, ProofMode.ofValue (field fields "mode") = .ok mode ∧
    f.toFields.get? "mode" = some (.text mode.name)
  dev : f.toFields.get? "dev" = some ((fields.get? "dev").getD (.bool false))

theorem acceptable_of_described (h : Described fields f) : Acceptable fields where
  required := h.required
  version := FixtureVersion.exists_ofValue?_iff.mp ⟨_, h.version⟩
  vkey := by
    rw [h.vkey]
    exact h.decodes.key
  publicValues := by
    rw [h.publicValues]
    exact h.decodes.publicValues
  proof := by
    rw [h.proof]
    exact h.decodes.proof
  mode := ⟨_, h.mode⟩
  n := ⟨_, h.n⟩
  a := ⟨_, h.a⟩
  b := ⟨_, h.b⟩
  dev := by
    have dev := h.dev
    cases found : fields.get? "dev" with
    | none => exact .inl rfl
    | some v =>
      rw [found] at dev
      exact .inr ⟨f.dev, congrArg some dev⟩

theorem exists_described (h : Acceptable fields) : ∃ f, Described fields f := by
  obtain ⟨version, hversion⟩ := h.exists_version
  obtain ⟨vkey, key, hvkey, length⟩ := h.exists_vkey
  obtain ⟨publicValues, values, hpublicValues⟩ := exists_hexField h.publicValues
  obtain ⟨proof, data, hproof⟩ := exists_hexField h.proof
  rw [hexField_eq_ok] at hvkey hpublicValues hproof
  obtain ⟨mode, hmode⟩ := h.mode
  obtain ⟨n, hn⟩ := h.n
  obtain ⟨a, ha⟩ := h.a
  obtain ⟨b, hb⟩ := h.b
  obtain ⟨dev, hdev⟩ : ∃ dev, (fields.get? "dev").getD (.bool false) = .bool dev := by
    rcases h.dev with absent | ⟨dev, found⟩
    · exact ⟨false, by rw [absent]; rfl⟩
    · exact ⟨dev, by rw [found]; rfl⟩
  exact ⟨⟨mode, n, a, b, vkey, publicValues, proof, dev, version⟩, {
    required := h.required
    version := versionField_eq_ok.mp hversion
    vkey := hvkey.1
    publicValues := hpublicValues.1
    proof := hproof.1
    decodes := ⟨⟨key, hvkey.2, length⟩, ⟨values, hpublicValues.2⟩, ⟨data, hproof.2⟩⟩
    mode := hmode
    n := hn
    a := ha
    b := hb
    dev := hdev }⟩

theorem get?_of_required
    (required : ∀ name ∈ requiredFields, (fields.get? (name : String)).isSome)
    {name : String} (mem : name ∈ requiredFields) :
    fields.get? name = some (field fields name) := by
  obtain ⟨v, found⟩ := Option.isSome_iff_exists.mp (required name mem)
  rw [field, found]
  rfl

theorem kept_of_described (h : Described fields f) : Kept fields f where
  version := ⟨f.version.toValue, field fields "version", get?_toFields (by simp [toFields]),
    get?_of_required h.required (by decide), FixtureVersion.matches_of_ofValue? h.version⟩
  same := by
    have kept {name : String} {v : Value} (there : ((name : CodeString), v) ∈ f.toFields)
        (mem : name ∈ requiredFields) (same : field fields name = v) :
        f.toFields.get? name = fields.get? name := by
      rw [get?_toFields there, get?_of_required h.required mem, same]
    intro name mem
    simp only [List.mem_cons, List.not_mem_nil, or_false] at mem
    rcases mem with rfl | rfl | rfl | rfl | rfl | rfl
    · exact kept (by simp [toFields]) (by decide) h.vkey
    · exact kept (by simp [toFields]) (by decide) h.publicValues
    · exact kept (by simp [toFields]) (by decide) h.proof
    · exact kept (by simp [toFields]) (by decide) h.n
    · exact kept (by simp [toFields]) (by decide) h.a
    · exact kept (by simp [toFields]) (by decide) h.b
  mode := ⟨f.mode, h.mode, get?_toFields (by simp [toFields])⟩
  dev := by
    rw [h.dev]
    exact get?_toFields (by simp [toFields])

theorem ofFields_ok_iff : (∃ f, ofFields fields = .ok f) ↔ Acceptable fields := by
  simp only [ofFields_eq_ok]
  exact ⟨fun ⟨_, h⟩ => acceptable_of_described h, exists_described⟩

/-- A document is accepted exactly if it is an object with the fields of a fixture. Any other that can
be shown is refused as ill-formed, or for its mode where the mode is the first that is wrong. What is
accepted keeps the fields of its document, is read from its own document again, and all its texts
decode. -/
theorem ofValue_accepts_exactly_fixtures (d : Value) :
    ((∃ f, ofValue d = .ok f) ↔ ∃ fields, d = .object fields ∧ Acceptable fields) ∧
    (d.Legible → ∀ e, ofValue d = .error e →
      e.Within [.encoding, .unknownMode] ∧
      (e.Within [.unknownMode] ↔ ∃ fields, d = .object fields ∧ InOrder fields ∧
        ∀ mode, ProofMode.ofValue (field fields "mode") ≠ .ok mode)) ∧
    (∀ f, ofValue d = .ok f →
      (∃ fields, d = .object fields ∧ Kept fields f) ∧ ofValue f.toValue = .ok f ∧
        (∃ vkey, f.key = .ok vkey) ∧ (∃ data, f.publicValuesData = .ok data) ∧
        ∃ data, f.proofData = .ok data) := by
  refine ⟨?_, fun legible e refused => ⟨?_, ?_, ?_⟩, fun f accepted => ?_⟩
  · cases d with
    | object fields => simpa [ofValue] using ofFields_ok_iff
    | _ => simp [ofValue, refuse]
  · obtain ⟨err, driver, malformed⟩ := isMalformed_ofValue legible.showable e refused
    exact ⟨err, driver, by simpa [IsMalformed] using malformed⟩
  · intro unknown
    have other : ¬ e.Within [.encoding] := unknown.ne (by decide)
    cases d with
    | object fields =>
      obtain ⟨before, err, -, mode⟩ :=
        (refused_ofFields legible.showable e refused).resolve_left other
      exact ⟨fields, rfl, before, by simp [mode]⟩
    | _ => exact absurd (within_refuse _ e refused) other
  · rintro ⟨fields, rfl, before, unknown⟩
    cases mode : ProofMode.ofValue (field fields "mode") with
    | ok known => exact absurd mode (unknown known)
    | error err =>
      cases (ofFields_of_refused before mode).symm.trans refused
      exact ⟨err, rfl, List.mem_singleton.mpr (unknownMode_ofValue err mode)⟩
  · have decodes := decodes_of_ofValue accepted
    refine ⟨?_, ofFields_toFields decodes, decodes.exists_key, decodes.publicValues, decodes.proof⟩
    cases d with
    | object fields => exact ⟨fields, rfl, kept_of_described (ofFields_eq_ok.mp accepted)⟩
    | _ => cases accepted

/-- A document with its mode in another case, its version as a truth value, a field that no fixture
has and none that says whether it is for development. -/
def unusual : Fields := [
  ("mode", .text " Core"),
  ("version", .bool true),
  ("vkey", .text (Hex.encode (List.replicate 32 0))),
  ("publicValues", .text ""),
  ("proof", .text "0xAB cd"),
  ("n", .int 7),
  ("a", .int (-1)),
  ("b", .int 0),
  ("note", .null)]

theorem exists_accepted_document :
    (Value.object unusual).Legible ∧
    ∃ f, ofValue (.object unusual) = .ok f ∧ ofValue f.toValue = .ok f ∧
      f.toFields.get? "a" = some (.int (-1)) ∧ f.toFields.get? "dev" = some (.bool false) := by
  have accepted : (ofValue (.object unusual)).isOk = true := by decide +kernel
  refine ⟨by decide +kernel, ?_⟩
  cases read : ofValue (.object unusual) with
  | error e =>
    rw [read] at accepted
    cases accepted
  | ok f =>
    obtain ⟨⟨fields, document, kept⟩, again, -⟩ :=
      (ofValue_accepts_exactly_fixtures (.object unusual)).2.2 f read
    cases document
    have absent : Fields.get? unusual "dev" = none := by decide
    have a : Fields.get? unusual "a" = some (.int (-1)) := by rfl
    exact ⟨f, rfl, again, (kept.same "a" (by decide)).trans a, by rw [kept.dev, absent]; rfl⟩

def overlong : Fields :=
  ("version", Value.tooLong) :: unusual.filter fun field => field.1 != "version"

/-- An object is refused with a fault that is no error of the driver, since its version cannot be
shown. -/
theorem exists_version_not_shown :
    ofValue (.object overlong) = .error (.fault .integerTooLong) ∧
      ¬ ∀ e, ofValue (.object overlong) = .error e → e.Within [.encoding, .unknownMode] := by
  have refused : ofValue (.object overlong) = .error (.fault .integerTooLong) := by
    have complete : (requiredFields.filter fun (name : String) =>
        (Fields.get? overlong name).isNone) = [] := by rfl
    have version : versionField overlong = .error (.fault .integerTooLong) := by
      have given : field overlong "version" = Value.tooLong := rfl
      unfold versionField
      dsimp only
      rw [given, FixtureVersion.ofValue?_tooLong]
      rw [Category.about_of_hidden _ _ Value.isShowable_tooLong]
    rw [ofValue, ofFields, complete, version]
    rfl
  refine ⟨refused, fun categorized => ?_⟩
  obtain ⟨_, driver, -⟩ := categorized _ refused
  cases driver

end Fixture

end ProofDriver

import ProofDriver.Fixture
import ProofDriver.Proofs.Hex
import ProofDriver.Proofs.Json.Unordered
import ProofDriver.Proofs.Outcome
import ProofDriver.Proofs.PublicValues
import ProofDriver.Proofs.Value
/-!
# Fixtures and their documents

What a document says about a fixture depends on its fields by name and not on their order. So the
document of a fixture, read back with its fields sorted, describes the same fixture. A document that
is accepted has texts that decode; one that is refused is refused as an encoding or for its mode, if
what it holds can be shown.
-/

namespace ProofDriver

theorem CodeString.ofString_inj {s t : String} : ofString s = ofString t ↔ s = t :=
  ⟨ofString_injective, congrArg ofString⟩

theorem FixtureVersion.ofValue?_toValue (version : FixtureVersion) :
    ofValue? version.toValue = some version := by
  cases version <;> decide

def Value.IsOne (v : Value) : Prop :=
  ∃ x, v.number? = some x ∧ Number.compare? (.int 1) x = some .eq

theorem FixtureVersion.exists_ofValue?_iff {v : Value} :
    (∃ version, ofValue? v = some version) ↔ v.IsOne := by
  unfold Value.IsOne
  cases v with
  | bool b => cases b <;> simp [ofValue?, Value.number?, Number.compare?]
  | int n =>
    by_cases one : n = 1
    · subst one
      simp [ofValue?, Value.number?, Number.compare?]
    · simp [ofValue?, Value.number?, Number.compare?, one, Ne.symm one]
  | real x => simp [ofValue?, Value.number?]
  | null | text _ | bytes _ | list _ | object _ => simp [ofValue?, Value.number?]

theorem ProofMode.ofValue_name (mode : ProofMode) : ofValue (.text mode.name) = .ok mode := by
  have same : Text.lower (Text.strip mode.name) = mode.name := by cases mode <;> decide
  rw [ofValue, ofText, CodeString.toString_ofString, same, ofName?_name]

namespace Fixture

variable {f : Fixture} {fields fields' : Fields}

theorem ofFields_congr (h : ∀ name, fields.get? name = fields'.get? name) :
    ofFields fields = ofFields fields' := by
  simp only [ofFields, versionField, hexField, intField, devField, field, h]

theorem ofFields_cons {name : CodeString} (v : Value)
    (other : ∀ known ∈ "dev" :: requiredFields, ((known : String) : CodeString) ≠ name) :
    ofFields ((name, v) :: fields) = ofFields fields := by
  have same : ∀ known ∈ "dev" :: requiredFields,
      Fields.get? ((name, v) :: fields) (known : String) = fields.get? (known : String) := by
    intro known mem
    have apart : (((known : String) : CodeString) == name) = false :=
      beq_eq_false_iff_ne.mpr (other known mem)
    simp only [Fields.get?, List.lookup_cons, apart]
  have missing : (requiredFields.filter fun (known : String) =>
      (Fields.get? ((name, v) :: fields) known).isNone) =
        requiredFields.filter fun (known : String) => (fields.get? known).isNone :=
    List.filter_congr fun known mem => by rw [same known (List.mem_cons_of_mem _ mem)]
  simp only [List.forall_mem_cons, requiredFields] at same
  obtain ⟨dev, version, mode, vkey, publicValues, proof, n, a, b, -⟩ := same
  simp only [ofFields, versionField, hexField, intField, devField, field, missing, dev, version,
    mode, vkey, publicValues, proof, n, a, b]

theorem toFields_distinct (f : Fixture) : (f.toFields.map Prod.fst).Nodup := by
  simp only [toFields, List.map_cons, List.map_nil, List.nodup_cons, List.mem_cons,
    CodeString.ofString_inj]
  decide

theorem key_eq_ok {vkey : VerifyingKey} :
    f.key = .ok vkey ↔ Hex.decode f.vkey = .ok vkey.digest := by
  constructor
  · intro h
    unfold key VerifyingKey.ofHex Hex.decodeValue at h
    split at h
    · rename_i decoded
      unfold VerifyingKey.ofBytes at h
      split at h
      · cases h
        exact decoded
      · cases h
    · cases h
  · intro h
    simp only [key, VerifyingKey.ofHex, Hex.decodeValue, h, VerifyingKey.ofBytes,
      vkey.length_digest]
    rfl

/-! ## Single fields -/

theorem versionField_eq_ok {version : FixtureVersion} :
    versionField fields = .ok version ↔
      FixtureVersion.ofValue? (field fields "version") = some version := by
  unfold versionField
  dsimp only
  cases FixtureVersion.ofValue? (field fields "version") <;> simp

theorem hexField_eq_ok {name : String} {s : CodeString} {data : Bytes} :
    hexField fields name = .ok (s, data) ↔
      field fields name = .text s ∧ Hex.decode s = .ok data := by
  constructor
  · intro h
    unfold hexField at h
    split at h
    · rename_i text
      split at h
      · rename_i decoded
        cases h
        exact ⟨text, decoded⟩
      · cases h
    · cases h
  · rintro ⟨text, decoded⟩
    rw [hexField, text]
    simp only [decoded]

theorem decodeValue_eq_ok {name : String} {data : Bytes} :
    Hex.decodeValue (field fields name) = .ok data ↔ ∃ s, hexField fields name = .ok (s, data) := by
  simp only [hexField_eq_ok]
  unfold Hex.decodeValue
  cases field fields name <;> simp

theorem exists_hexField {name : String}
    (decodes : ∃ data, Hex.decodeValue (field fields name) = .ok data) :
    ∃ s data, hexField fields name = .ok (s, data) := by
  obtain ⟨data, decoded⟩ := decodes
  obtain ⟨s, read⟩ := decodeValue_eq_ok.mp decoded
  exact ⟨s, data, read⟩

theorem intField_eq_ok {name : String} {n : Int} :
    intField fields name = .ok n ↔ field fields name = .int n := by
  unfold intField
  cases field fields name <;> simp

theorem devField_eq_ok {dev : Bool} :
    devField fields = .ok dev ↔
      (fields.get? "dev").getD (.bool false) = .bool dev := by
  unfold devField
  cases fields.get? "dev" with
  | none => simp
  | some v => cases v <;> simp

structure Decodes (f : Fixture) : Prop where
  key : ∃ data, Hex.decode f.vkey = .ok data ∧ data.length = 32
  publicValues : ∃ data, f.publicValuesData = .ok data
  proof : ∃ data, f.proofData = .ok data

/-- What the fields say about the fixture that they describe. -/
structure Described (fields : Fields) (f : Fixture) : Prop where
  required : ∀ name ∈ requiredFields, (fields.get? (name : String)).isSome
  version : FixtureVersion.ofValue? (field fields "version") = some f.version
  vkey : field fields "vkey" = .text f.vkey
  publicValues : field fields "publicValues" = .text f.publicValues
  proof : field fields "proof" = .text f.proof
  decodes : f.Decodes
  mode : ProofMode.ofValue (field fields "mode") = .ok f.mode
  n : field fields "n" = .int f.n
  a : field fields "a" = .int f.a
  b : field fields "b" = .int f.b
  dev : (fields.get? "dev").getD (.bool false) = .bool f.dev

theorem missing_eq_nil_iff :
    (requiredFields.filter fun (name : String) => (fields.get? name).isNone) = [] ↔
      ∀ name ∈ requiredFields, (fields.get? (name : String)).isSome := by
  simp [List.filter_eq_nil_iff, Option.isSome_iff_ne_none]

theorem ofFields_eq_ok : ofFields fields = .ok f ↔ Described fields f := by
  constructor
  · intro h
    unfold ofFields at h
    dsimp only at h
    split at h
    · cases h
    rename_i none_missing
    have required := missing_eq_nil_iff.mp (Decidable.not_not.mp none_missing)
    simp only [Except.bind_eq_ok] at h
    obtain ⟨version, hversion, ⟨vkey, key⟩, hvkey, ⟨publicValues, values⟩, hvalues,
      ⟨proof, data⟩, hproof, h⟩ := h
    split at h
    · cases h
    rename_i length
    simp only [Except.bind_eq_ok, Except.ok.injEq] at h
    obtain ⟨mode, hmode, n, hn, a, ha, b, hb, dev, hdev, rfl⟩ := h
    rw [hexField_eq_ok] at hvkey hvalues hproof
    rw [intField_eq_ok] at hn ha hb
    exact {
      required
      version := versionField_eq_ok.mp hversion
      vkey := hvkey.1
      publicValues := hvalues.1
      proof := hproof.1
      decodes := ⟨⟨key, hvkey.2, Decidable.not_not.mp length⟩, ⟨values, hvalues.2⟩,
        ⟨data, hproof.2⟩⟩
      mode := DriverError.ok_of_lift hmode
      n := hn
      a := ha
      b := hb
      dev := devField_eq_ok.mp hdev }
  · intro h
    obtain ⟨key, hkey, length⟩ := h.decodes.key
    obtain ⟨values, hvalues⟩ := h.decodes.publicValues
    obtain ⟨data, hproof⟩ := h.decodes.proof
    have none_missing := missing_eq_nil_iff.mpr h.required
    unfold ofFields
    rw [if_neg (by simp [none_missing])]
    simp only [Except.ok_bind, versionField_eq_ok.mpr h.version,
      hexField_eq_ok.mpr ⟨h.vkey, hkey⟩, hexField_eq_ok.mpr ⟨h.publicValues, hvalues⟩,
      hexField_eq_ok.mpr ⟨h.proof, hproof⟩, length, h.mode, DriverError.lift_ok,
      intField_eq_ok.mpr h.n, intField_eq_ok.mpr h.a, intField_eq_ok.mpr h.b,
      devField_eq_ok.mpr h.dev]
    rw [if_neg (by decide)]

/-! ## The document of a fixture -/

theorem forall_mem_toFields {P : CodeString × Value → Prop}
    (version : P ("version", f.version.toValue)) (mode : P ("mode", .text f.mode.name))
    (dev : P ("dev", .bool f.dev)) (n : P ("n", .int f.n)) (a : P ("a", .int f.a))
    (b : P ("b", .int f.b)) (vkey : P ("vkey", .text f.vkey))
    (publicValues : P ("publicValues", .text f.publicValues)) (proof : P ("proof", .text f.proof)) :
    ∀ x ∈ f.toFields, P x := by
  intro x hx
  simp only [toFields, List.mem_cons, List.not_mem_nil, or_false] at hx
  rcases hx with rfl | rfl | rfl | rfl | rfl | rfl | rfl | rfl | rfl <;> assumption

theorem get?_toFields {name : CodeString} {v : Value} (h : (name, v) ∈ f.toFields) :
    f.toFields.get? name = some v :=
  (Fields.get?_eq_some_iff f.toFields_distinct).mpr h

theorem field_toFields {name : String} {v : Value} (h : ((name : CodeString), v) ∈ f.toFields) :
    field f.toFields name = v := by
  rw [field, get?_toFields h]
  rfl

theorem described_toFields (decodes : f.Decodes) : Described f.toFields f where
  required := by
    intro name hname
    simp only [requiredFields, List.mem_cons, List.not_mem_nil, or_false] at hname
    rw [Fields.isSome_get?_iff]
    rcases hname with rfl | rfl | rfl | rfl | rfl | rfl | rfl | rfl <;> simp [toFields]
  version := by
    rw [field_toFields (v := f.version.toValue) (by simp [toFields])]
    exact f.version.ofValue?_toValue
  vkey := field_toFields (by simp [toFields])
  publicValues := field_toFields (by simp [toFields])
  proof := field_toFields (by simp [toFields])
  decodes := decodes
  mode := by
    rw [field_toFields (v := .text f.mode.name) (by simp [toFields])]
    exact f.mode.ofValue_name
  n := field_toFields (by simp [toFields])
  a := field_toFields (by simp [toFields])
  b := field_toFields (by simp [toFields])
  dev := by
    rw [get?_toFields (v := .bool f.dev) (by simp [toFields])]
    rfl

theorem ofFields_toFields (decodes : f.Decodes) : ofFields f.toFields = .ok f :=
  ofFields_eq_ok.mpr (described_toFields decodes)

theorem exists_sorted_toValue (f : Fixture) :
    ∃ fields, f.toValue.sorted = .object fields ∧ fields.Perm f.toFields := by
  have same : ∀ x ∈ f.toFields, (x.1, x.2.sorted) = x :=
    forall_mem_toFields (by cases f.version <;> rfl) rfl rfl rfl rfl rfl rfl rfl rfl
  have simple : ∀ x ∈ f.toFields.mergeSort Value.byName, (x.1, x.2.sorted) = x :=
    fun x hx => same x (List.mem_mergeSort.mp hx)
  refine ⟨f.toFields.mergeSort Value.byName, ?_, List.mergeSort_perm ..⟩
  rw [toValue, Value.sorted_object, List.map_congr_left simple, List.map_id']

theorem ofValue_sorted_toValue (decodes : f.Decodes) : ofValue f.toValue.sorted = .ok f := by
  obtain ⟨fields, sorted, perm⟩ := f.exists_sorted_toValue
  rw [sorted, ofValue, ofFields_congr (Fields.get?_perm perm f.toFields_distinct)]
  exact ofFields_toFields decodes

/-- The texts of a fixture hold no lone surrogates, so its document is of the kind that is kept, but
for a version that is a double. -/
theorem simple_toValue (decodes : f.Decodes) (integer : f.version ≠ .real) : f.toValue.Simple := by
  have plain {s : CodeString} (decodes : ∃ data, Hex.decode s = .ok data) : s.Plain := by
    obtain ⟨data, decoded⟩ := decodes
    exact ⟨_, (Hex.ofString_toString_of_decode decoded).symm⟩
  obtain ⟨key, decoded, -⟩ := decodes.key
  have version : f.version.toValue.Simple := by
    cases written : f.version with
    | integer => exact .int 1
    | truth => exact .bool true
    | real => exact absurd written integer
  have names : ∀ x ∈ f.toFields, x.1.Plain :=
    forall_mem_toFields ⟨_, rfl⟩ ⟨_, rfl⟩ ⟨_, rfl⟩ ⟨_, rfl⟩ ⟨_, rfl⟩ ⟨_, rfl⟩ ⟨_, rfl⟩ ⟨_, rfl⟩
      ⟨_, rfl⟩
  have values : ∀ x ∈ f.toFields, x.2.Simple :=
    forall_mem_toFields version (.text ⟨_, rfl⟩) (.bool _) (.int _) (.int _) (.int _)
      (.text (plain ⟨key, decoded⟩)) (.text (plain decodes.publicValues))
      (.text (plain decodes.proof))
  exact .object names values f.toFields_distinct

/-! ## Fixtures of proofs -/

structure Attests (f : Fixture) (proof : Proof) (publicValues : Bytes) (vkey : VerifyingKey) :
    Prop where
  proofData : f.proofData = .ok proof.data
  publicValuesData : f.publicValuesData = .ok publicValues
  key : f.key = .ok vkey
  mode : f.mode = proof.mode
  values : ∃ v, PublicValues.decode publicValues = .ok v ∧
    f.n = v.n.toNat ∧ f.a = v.a.toNat ∧ f.b = v.b.toNat

section OfProof

variable {publicValues : Bytes} {proof : Proof} {vkey : VerifyingKey} {dev : Bool}

theorem ofProof_eq_ok :
    ofProof publicValues proof vkey dev = .ok f ↔
      ∃ v, PublicValues.decode publicValues = .ok v ∧ f = {
        mode := proof.mode
        n := v.n.toNat
        a := v.a.toNat
        b := v.b.toNat
        vkey := vkey.bytes32
        publicValues := Hex.encode publicValues
        proof := Hex.encode proof.data
        dev } := by
  rw [ofProof, ofEncoded, Except.bind_eq_ok]
  exact exists_congr fun v => and_congr_right fun _ =>
    ⟨fun h => (Except.ok.inj h).symm, fun h => by rw [h]⟩

theorem attests_ofProof (made : ofProof publicValues proof vkey dev = .ok f) :
    f.Attests proof publicValues vkey := by
  obtain ⟨v, decoded, rfl⟩ := ofProof_eq_ok.mp made
  exact ⟨Hex.decode_encode _, Hex.decode_encode _, key_eq_ok.mpr (Hex.decode_encode _), rfl, v,
    decoded, rfl, rfl, rfl⟩

theorem dev_ofProof (made : ofProof publicValues proof vkey dev = .ok f) : f.dev = dev := by
  obtain ⟨v, -, rfl⟩ := ofProof_eq_ok.mp made
  rfl

theorem decodes_ofProof (made : ofProof publicValues proof vkey dev = .ok f) : f.Decodes := by
  obtain ⟨v, -, rfl⟩ := ofProof_eq_ok.mp made
  exact ⟨⟨_, Hex.decode_encode _, vkey.length_digest⟩, ⟨_, Hex.decode_encode _⟩,
    ⟨_, Hex.decode_encode _⟩⟩

theorem short_word (x : UInt32) :
    (Nat.toDigits 10 (x.toNat : Int).natAbs).length ≤ Numeral.digitLimit := by
  have ten : (Nat.toDigits 10 x.toNat).length ≤ 10 :=
    (Nat.length_toDigits_le_iff (by decide) (by decide)).mpr
      (Nat.lt_trans x.toNat_lt (by decide))
  exact Nat.le_trans ten (by decide)

theorem plain_ofProof (made : ofProof publicValues proof vkey dev = .ok f) :
    f.toValue.Plain := by
  have decodes := decodes_ofProof made
  obtain ⟨v, -, rfl⟩ := ofProof_eq_ok.mp made
  have short (x : UInt32) : Json.obstacle? (.int x.toNat) = none :=
    Json.obstacle?_int_eq_none.mpr (short_word x)
  exact Json.plain_of_simple (simple_toValue decodes (by simp)) (Json.obstacle?_object_eq_none.mpr
    (forall_mem_toFields rfl rfl rfl (short _) (short _) (short _) rfl rfl rfl))

theorem exists_write_ofProof (made : ofProof publicValues proof vkey dev = .ok f) :
    ∃ text, Json.write f.toValue = .ok text :=
  ⟨_, Json.write_of_plain (plain_ofProof made)⟩

end OfProof

/-! ## What an accepted document says -/

theorem agrees_iff {f : Fixture} {values : PublicValues} :
    f.agrees values = true ↔
      f.n = values.n.toNat ∧ f.a = values.a.toNat ∧ f.b = values.b.toNat := by
  simp [agrees, and_assoc]

theorem Decodes.exists_key {f : Fixture} (decodes : f.Decodes) : ∃ vkey, f.key = .ok vkey := by
  obtain ⟨data, decoded, length⟩ := decodes.key
  exact ⟨⟨data, length⟩, key_eq_ok.mpr decoded⟩

theorem decodes_of_ofValue {v : Value} {f : Fixture} (h : ofValue v = .ok f) : f.Decodes := by
  unfold ofValue at h
  split at h
  · exact (ofFields_eq_ok.mp h).decodes
  · cases h

/-! ## Refusals -/

theorem within_refuse {α : Type} (text : String) :
    ∀ e, (refuse text : Outcome α) = .error e → e.Within [.encoding] :=
  Failure.within_of_error (Category.encoding.within_error text)

theorem category_of_ofEncoded {abi : Abi} {data : Bytes} {proof : Proof} {vkey : VerifyingKey}
    {dev : Bool} : ∀ e, ofEncoded abi data proof vkey dev = .error e → e.category = .encoding :=
  Except.bind_errors PublicValues.category_of_decodeBy fun _ _ _ h => by cases h

theorem category_of_ofProof {data : Bytes} {proof : Proof} {vkey : VerifyingKey} {dev : Bool} :
    ∀ e, ofProof data proof vkey dev = .error e → e.category = .encoding :=
  category_of_ofEncoded

theorem within_hexField {name : String} :
    ∀ e, hexField fields name = .error e → e.Within [.encoding] := by
  intro e h
  unfold hexField at h
  split at h
  · split at h
    · cases h
    · exact within_refuse _ e h
  · exact within_refuse _ e h

abbrev Showable (fields : Fields) : Prop :=
  (Value.object fields).isShowable = true

theorem isShowable_field (showable : Showable fields) (name : String) :
    (field fields name).isShowable = true := by
  unfold field
  cases found : fields.get? name with
  | none => rfl
  | some v => exact Value.isShowable_get? showable found

theorem within_intField (showable : Showable fields) {name : String} :
    ∀ e, intField fields name = .error e → e.Within [.encoding] := by
  intro e h
  unfold intField at h
  split at h
  · cases h
  · exact Failure.within_of_error
      (Category.encoding.within_about _ (isShowable_field showable name)) e h

theorem within_versionField (showable : Showable fields) :
    ∀ e, versionField fields = .error e → e.Within [.encoding] := by
  intro e h
  unfold versionField at h
  dsimp only at h
  split at h
  · cases h
  · exact Failure.within_of_error
      (Category.encoding.within_about _ (isShowable_field showable "version")) e h

theorem within_devField (showable : Showable fields) :
    ∀ e, devField fields = .error e → e.Within [.encoding] := by
  intro e h
  unfold devField at h
  split at h
  · cases h
  · cases h
  · rename_i found
    exact Failure.within_of_error
      (Category.encoding.within_about _ (Value.isShowable_get? showable found)) e h

theorem unknownMode_ofValue {v : Value} :
    ∀ e, ProofMode.ofValue v = .error e → e.category = .unknownMode := by
  intro e h
  unfold ProofMode.ofValue ProofMode.ofText at h
  split at h
  · split at h <;> cases h
    rfl
  · cases h
    rfl

/-- All that is looked at before the mode is in order. -/
structure InOrder (fields : Fields) : Prop where
  required : ∀ name ∈ requiredFields, (fields.get? (name : String)).isSome
  version : (field fields "version").IsOne
  vkey : ∃ key, Hex.decodeValue (field fields "vkey") = .ok key ∧ key.length = 32
  publicValues : ∃ data, Hex.decodeValue (field fields "publicValues") = .ok data
  proof : ∃ data, Hex.decodeValue (field fields "proof") = .ok data

namespace InOrder

theorem exists_version (h : InOrder fields) : ∃ version, versionField fields = .ok version := by
  obtain ⟨version, written⟩ := FixtureVersion.exists_ofValue?_iff.mpr h.version
  exact ⟨version, versionField_eq_ok.mpr written⟩

theorem exists_vkey (h : InOrder fields) :
    ∃ s key, hexField fields "vkey" = .ok (s, key) ∧ key.length = 32 := by
  obtain ⟨key, decoded, length⟩ := h.vkey
  obtain ⟨s, read⟩ := decodeValue_eq_ok.mp decoded
  exact ⟨s, key, read, length⟩

end InOrder

/-- Fields that can be shown are refused as ill-formed, or for their mode where it is the first that
is wrong. -/
theorem refused_ofFields (showable : Showable fields) : ∀ e, ofFields fields = .error e →
    e.Within [.encoding] ∨ InOrder fields ∧
      ∃ d, e = .driver d ∧ ProofMode.ofValue (field fields "mode") = .error d := by
  unfold ofFields
  dsimp only
  split
  · exact fun e h => .inl (within_refuse _ e h)
  rename_i none_missing
  refine Except.bind_errors (fun e h => .inl (within_versionField showable e h))
      fun version hversion =>
    Except.bind_errors (fun e h => .inl (within_hexField e h)) fun (s, key) hvkey =>
    Except.bind_errors (fun e h => .inl (within_hexField e h)) fun (_, values) hvalues =>
    Except.bind_errors (fun e h => .inl (within_hexField e h)) fun (_, proof) hproof => ?_
  split
  · exact fun e h => .inl (within_refuse _ e h)
  rename_i length
  have before : InOrder fields := {
    required := missing_eq_nil_iff.mp (Decidable.not_not.mp none_missing)
    version := FixtureVersion.exists_ofValue?_iff.mp ⟨version, versionField_eq_ok.mp hversion⟩
    vkey := ⟨key, decodeValue_eq_ok.mpr ⟨s, hvkey⟩, Decidable.not_not.mp length⟩
    publicValues := ⟨values, decodeValue_eq_ok.mpr ⟨_, hvalues⟩⟩
    proof := ⟨proof, decodeValue_eq_ok.mpr ⟨_, hproof⟩⟩ }
  refine Except.bind_errors (fun e h => .inr ⟨before, DriverError.error_of_lift h⟩) fun mode _ =>
    Except.bind_errors (fun e h => .inl (within_intField showable e h)) fun n _ =>
    Except.bind_errors (fun e h => .inl (within_intField showable e h)) fun a _ =>
    Except.bind_errors (fun e h => .inl (within_intField showable e h)) fun b _ =>
    Except.bind_errors (fun e h => .inl (within_devField showable e h)) fun dev _ => ?_
  exact fun e h => by cases h

theorem ofFields_of_refused {e : DriverError} (h : InOrder fields)
    (refused : ProofMode.ofValue (field fields "mode") = .error e) :
    ofFields fields = .error (.driver e) := by
  obtain ⟨version, hversion⟩ := h.exists_version
  obtain ⟨vkey, key, hvkey, length⟩ := h.exists_vkey
  obtain ⟨publicValues, values, hpublicValues⟩ := exists_hexField h.publicValues
  obtain ⟨proof, data, hproof⟩ := exists_hexField h.proof
  have none_missing := missing_eq_nil_iff.mpr h.required
  unfold ofFields
  rw [if_neg (by simp [none_missing])]
  simp only [Except.ok_bind, hversion, hvkey, hpublicValues, hproof, length, refused]
  rw [if_neg (by decide)]
  rfl

def IsMalformed (e : DriverError) : Prop :=
  e.category = .encoding ∨ e.category = .unknownMode

theorem isMalformed_ofValue {v : Value} (showable : v.isShowable = true) :
    ∀ e, ofValue v = .error e → ∃ d, e = .driver d ∧ IsMalformed d := by
  have encoding {e : Failure} (within : e.Within [.encoding]) :
      ∃ d, e = .driver d ∧ IsMalformed d := by
    obtain ⟨d, driver, category⟩ := within
    exact ⟨d, driver, .inl (List.mem_singleton.mp category)⟩
  intro e h
  unfold ofValue at h
  split at h
  · rcases refused_ofFields showable e h with within | ⟨-, d, driver, mode⟩
    · exact encoding within
    · exact ⟨d, driver, .inr (unknownMode_ofValue d mode)⟩
  · exact encoding (within_refuse _ e h)

end Fixture

end ProofDriver

import ProofDriver.Proofs.Fixture
/-!
# Fixtures from either form of the public values

Encoding takes the words and nothing else, decoding takes the encodings and nothing else, and each
undoes the other. So a fixture is the same whether it is made from the record or from its encoding.
-/

namespace ProofDriver

namespace PublicValues

variable {abi : Abi} {n a b : Value} {data : Bytes}

theorem encodeValues_eq_ok_iff_words (lawful : abi.Lawful) :
    encodeValues abi n a b = .ok data ↔ ∃ x y z : Nat,
      (x < 2 ^ 32 ∧ y < 2 ^ 32 ∧ z < 2 ^ 32) ∧ (n = .int x ∧ a = .int y ∧ b = .int z) ∧
        data = Bytes.bigEndian 32 x ++ Bytes.bigEndian 32 y ++ Bytes.bigEndian 32 z := by
  rw [encodeValues_eq_ok lawful]
  constructor
  · rintro ⟨v, integers, rfl⟩
    exact ⟨v.n.toNat, v.a.toNat, v.b.toNat, ⟨v.n.toNat_lt, v.a.toNat_lt, v.b.toNat_lt⟩, integers,
      rfl⟩
  · rintro ⟨x, y, z, ⟨hx, hy, hz⟩, integers, rfl⟩
    refine ⟨⟨.ofNat x, .ofNat y, .ofNat z⟩, ?_⟩
    simpa [encode, word, UInt32.toNat_ofNat_of_lt' hx, UInt32.toNat_ofNat_of_lt' hy,
      UInt32.toNat_ofNat_of_lt' hz] using integers

theorem decodes_of_encodeValues (lawful : abi.Lawful) (h : encodeValues abi n a b = .ok data) :
    ∃ v, decodeBy abi data = .ok v ∧
      n = .int v.n.toNat ∧ a = .int v.a.toNat ∧ b = .int v.b.toNat := by
  obtain ⟨v, integers, rfl⟩ := (encodeValues_eq_ok lawful).mp h
  exact ⟨v, (decodeBy_eq_ok lawful).mpr rfl, integers⟩

theorem encodes_of_decodeBy (lawful : abi.Lawful) {v : PublicValues}
    (h : decodeBy abi data = .ok v) :
    encodeValues abi (.int v.n.toNat) (.int v.a.toNat) (.int v.b.toNat) = .ok data :=
  (encodeValues_eq_ok lawful).mpr ⟨v, ⟨rfl, rfl, rfl⟩, (decodeBy_eq_ok lawful).mp h⟩

end PublicValues

namespace Fixture

open PublicValues (Given decodeBy encodeValues decodeBy_eq_ok)

variable {abi : Abi} {n a b : Value} {data : Bytes} {f : Fixture}

theorem ofGiven_eq_ok (lawful : abi.Lawful) {given : Given} {proof : Proof} {vkey : VerifyingKey}
    {dev : Bool} :
    ofGiven abi given proof vkey dev = .ok f ↔
      ∃ data, given.data abi = .ok data ∧ ofProof data proof vkey dev = .ok f := by
  have same (data : Bytes) : ofEncoded abi data proof vkey dev = .ok f ↔
      ofProof data proof vkey dev = .ok f := by
    simp only [ofProof, ofEncoded, Except.bind_eq_ok, decodeBy_eq_ok lawful,
      decodeBy_eq_ok Abi.lawful_padded]
  simp only [ofGiven, Except.bind_eq_ok, DriverError.lift_eq_ok, same]

theorem exists_ofGiven (lawful : abi.Lawful) (encoded : encodeValues abi n a b = .ok data)
    (proof : Proof) (vkey : VerifyingKey) (dev : Bool) :
    ∃ f, ofGiven abi (.record n a b) proof vkey dev = .ok f ∧
      ofGiven abi (.encoded data) proof vkey dev = .ok f ∧
      f.Attests proof data vkey ∧ f.dev = dev ∧ n = .int f.n ∧ a = .int f.a ∧ b = .int f.b := by
  obtain ⟨v, ⟨hn, ha, hb⟩, same⟩ := (PublicValues.encodeValues_eq_ok lawful).mp encoded
  have decoded : PublicValues.decode data = .ok v := by
    rw [same, PublicValues.decode_encode]
  have made : ofProof data proof vkey dev = .ok _ := ofProof_eq_ok.mpr ⟨v, decoded, rfl⟩
  exact ⟨_, (ofGiven_eq_ok lawful).mpr ⟨data, encoded, made⟩,
    (ofGiven_eq_ok lawful).mpr ⟨data, rfl, made⟩, attests_ofProof made, rfl, hn, ha, hb⟩

/-- Public values and their encodings are one to one.
1. The values that are encoded are triples of integers of 32 bits, and their encoding is three words.
2. What is decoded is three words that begin with 28 zeros each.
3. All else is refused as an encoding, values if they can be shown.
4. Decoding gives back what was encoded, and encoding what was decoded.
5. The record and its encoding make one fixture, from which the proof, the public values and the key
   are read as they were given. -/
theorem encoding_one_to_one (lawful : abi.Lawful) :
    (∀ n a b data, encodeValues abi n a b = .ok data ↔ ∃ x y z : Nat,
      (x < 2 ^ 32 ∧ y < 2 ^ 32 ∧ z < 2 ^ 32) ∧ (n = .int x ∧ a = .int y ∧ b = .int z) ∧
        data = Bytes.bigEndian 32 x ++ Bytes.bigEndian 32 y ++ Bytes.bigEndian 32 z) ∧
    (∀ data, (∃ v, decodeBy abi data = .ok v) ↔ data.length = 96 ∧
      ∀ i < 3, (data.drop (32 * i)).take 28 = List.replicate 28 0) ∧
    (∀ n a b e, n.Legible → a.Legible → b.Legible → encodeValues abi n a b = .error e →
      e.Within [.encoding]) ∧
    (∀ data e, decodeBy abi data = .error e → e.category = .encoding) ∧
    (∀ n a b data, encodeValues abi n a b = .ok data → ∃ v, decodeBy abi data = .ok v ∧
      n = .int v.n.toNat ∧ a = .int v.a.toNat ∧ b = .int v.b.toNat) ∧
    (∀ data v, decodeBy abi data = .ok v →
      encodeValues abi (.int v.n.toNat) (.int v.a.toNat) (.int v.b.toNat) = .ok data) ∧
    (∀ n a b data, encodeValues abi n a b = .ok data → ∀ proof vkey dev, ∃ f,
      ofGiven abi (.record n a b) proof vkey dev = .ok f ∧
      ofGiven abi (.encoded data) proof vkey dev = .ok f ∧
      f.publicValuesData = .ok data ∧ f.proofData = .ok proof.data ∧ f.key = .ok vkey ∧
      f.mode = proof.mode ∧ f.dev = dev ∧ n = .int f.n ∧ a = .int f.a ∧ b = .int f.b) := by
  refine ⟨fun _ _ _ _ => PublicValues.encodeValues_eq_ok_iff_words lawful, fun data => ?_,
    fun _ _ _ e hn ha hb =>
      PublicValues.within_of_encodeValues hn.showable ha.showable hb.showable e,
    fun _ => PublicValues.category_of_decodeBy,
    fun _ _ _ _ => PublicValues.decodes_of_encodeValues lawful,
    fun _ _ => PublicValues.encodes_of_decodeBy lawful, ?_⟩
  · rw [PublicValues.decodes_iff lawful]
    exact ⟨fun padded => ⟨padded.length, padded.blank⟩, fun ⟨length, blank⟩ => ⟨length, blank⟩⟩
  · intro n a b data encoded proof vkey dev
    obtain ⟨f, record, same, attests, development, readable⟩ :=
      exists_ofGiven lawful encoded proof vkey dev
    exact ⟨f, record, same, attests.publicValuesData, attests.proofData, attests.key, attests.mode,
      development, readable⟩

theorem encoding_one_to_one_padded :
    Abi.padded.Lawful ∧
    encodeValues .padded (.int 10) (.int 55) (.int 89) = .ok (PublicValues.encode ⟨10, 55, 89⟩) ∧
    (Value.int (2 ^ 32)).Legible ∧ (Value.bool true).Legible ∧ (Value.int 89).Legible ∧
    (∀ e, encodeValues .padded (.int (2 ^ 32)) (.bool true) (.int 89) = .error e →
      e.Within [.encoding]) ∧
    (¬ ∃ v, decodeBy .padded (1 :: List.replicate 95 0) = .ok v) ∧
    ∃ f, ofGiven .padded (.record (.int 10) (.int 55) (.int 89)) ⟨.core, [7]⟩
        (⟨List.replicate 32 1, rfl⟩ : VerifyingKey) false = .ok f ∧
      f.publicValuesData = .ok (PublicValues.encode ⟨10, 55, 89⟩) := by
  obtain ⟨encodes, decodes, refuses, -, -, -, makes⟩ := encoding_one_to_one Abi.lawful_padded
  have encoded := (encodes (.int 10) (.int 55) (.int 89) _).mpr
    ⟨10, 55, 89, by decide, ⟨rfl, rfl, rfl⟩, rfl⟩
  obtain ⟨f, made, -, data, -⟩ := makes _ _ _ _ encoded ⟨.core, [7]⟩ ⟨List.replicate 32 1, rfl⟩ false
  have wide : (Value.int (2 ^ 32)).Legible := by decide +kernel
  have truth : (Value.bool true).Legible := by decide +kernel
  have fits : (Value.int 89).Legible := by decide +kernel
  refine ⟨Abi.lawful_padded, encoded, wide, truth, fits, fun e => refuses _ _ _ e wide truth fits,
    fun stray => ?_, f, made, data⟩
  exact absurd (((decodes _).mp stray).2 0 (by decide)) (by decide)

/-- A value that is no word is refused with a fault that is no error of the driver, since it cannot be
shown. -/
theorem exists_value_not_shown :
    encodeValues .padded Value.tooLong (.int 0) (.int 0) = .error (.fault .integerTooLong) ∧
      ¬ ∀ n a b e, encodeValues .padded n a b = .error e → e.Within [.encoding] := by
  have refused : encodeValues .padded Value.tooLong (.int 0) (.int 0) =
      .error (.fault .integerTooLong) := by
    rw [encodeValues, PublicValues.ofValues, PublicValues.fieldOfValue_tooLong]
    rfl
  refine ⟨refused, fun categorized => ?_⟩
  obtain ⟨_, driver, -⟩ := categorized _ _ _ _ refused
  cases driver

end Fixture

end ProofDriver

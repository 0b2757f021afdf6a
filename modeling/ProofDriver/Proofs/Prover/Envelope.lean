import ProofDriver.Proofs.Prover.Binding
/-!
# Envelopes read back

An envelope is one item from its first byte to its last: the name of the mode, the key and a list of
commitments. A core proof has a commitment for every shard that the cycles of its index reach into, a
compressed one has a single commitment, and each of them is for its place in the list.
-/

namespace ProofDriver.Prover.Mock

variable {m : EnvelopeMode} {vkey : VerifyingKey} {publicValues : Bytes} {values : PublicValues}

/-- The items are the commitments of a proof of this mode, one in each shard's place. -/
structure Committed (m : EnvelopeMode) (vkey : VerifyingKey) (publicValues : Bytes) (n : UInt32)
    (items : List Cbor) : Prop where
  compressed : m = .compressed → items.length = 1
  core : m = .core → ∀ k : Int, (items.length : Int) = k ↔
    1 ≤ k ∧ (k - 1) * 2 ^ 22 < 1024 + 8 * (n.toNat : Int) ∧ 1024 + 8 * (n.toNat : Int) ≤ k * 2 ^ 22
  shard : ∀ i < items.length, ∃ index, field 4 i = .ok index ∧ index.length = 4 ∧
    Bytes.ofBigEndian index = i ∧
    items[i]? = some (.bytes (Hash.tagged m.domain.tag [vkey.digest, publicValues, index]))

theorem length_core_iff (n : UInt32) (k : Int) :
    (EnvelopeMode.core.shards n : Int) = k ↔
      1 ≤ k ∧ (k - 1) * 2 ^ 22 < 1024 + 8 * (n.toNat : Int) ∧
        1024 + 8 * (n.toNat : Int) ≤ k * 2 ^ 22 := by
  have positive : 0 < Guest.cycles n.toNat := by
    unfold Guest.cycles
    omega
  have whole : 1 ≤ Guest.shards (Guest.cycles n.toNat) := (Guest.shards_cycles n).1
  calc (EnvelopeMode.core.shards n : Int) = k
    _ ↔ Guest.shards (Guest.cycles n.toNat) = k := by
      rw [EnvelopeMode.shards, Int.toNat_of_nonneg (by omega)]
    _ ↔ _ := Guest.shards_eq_iff positive k

theorem committed_commitments (m : EnvelopeMode) (vkey : VerifyingKey) (publicValues : Bytes)
    (n : UInt32) :
    Committed m vkey publicValues n ((commitments m vkey publicValues n).map .bytes) where
  compressed := by
    rintro rfl
    rw [List.length_map, length_commitments, EnvelopeMode.shards]
  core := by
    rintro rfl k
    rw [List.length_map, length_commitments]
    exact length_core_iff n k
  shard := by
    intro i below
    rw [List.length_map, length_commitments] at below
    have fits : i < 256 ^ 4 := shard_lt below
    refine ⟨Bytes.bigEndian 4 i, field_of_lt fits, Bytes.length_bigEndian 4 i,
      Bytes.ofBigEndian_bigEndian_of_lt fits, ?_⟩
    rw [commitments, List.map_map, List.getElem?_map, List.getElem?_range below]
    rfl

/-- For public values that decode, whatever their two results, there is an envelope, and all of its
bytes are read as the mode's name, the key and the commitments for the index in the first word. -/
theorem envelope_reads_back (m : EnvelopeMode) (vkey : VerifyingKey)
    (decoded : PublicValues.decode publicValues = .ok values) :
    publicValues.take 32 = PublicValues.word values.n ∧
    ∃ data items, envelope m publicValues vkey = .ok data ∧
      Cbor.decode? data = some (.map [
        (.uint 0, .text m.mode.name),
        (.uint 1, .bytes vkey.digest),
        (.uint 2, .array items)]) ∧
      Committed m vkey publicValues values.n items := by
  constructor
  · have encoded : publicValues = values.encode :=
      (PublicValues.decodeBy_eq_ok Abi.lawful_padded).mp decoded
    rw [encoded, PublicValues.encode, List.append_assoc,
      List.take_left' (PublicValues.length_word values.n)]
  · exact ⟨_, _, envelope_of_decode decoded,
      Cbor.decode?_encode (fits_envelopeItem m vkey publicValues values.n),
      committed_commitments m vkey publicValues values.n⟩

/-- The last index of all has a core proof with as many shards as there can be. -/
theorem exists_largest_envelope :
    ∃ data items, envelope .core (PublicValues.encode ⟨4294967295, 5, 7⟩) builtin.vkey = .ok data ∧
      Cbor.decode? data = some (.map [
        (.uint 0, .text "core"), (.uint 1, .bytes builtin.vkey.digest), (.uint 2, .array items)]) ∧
      items.length = 8193 := by
  obtain ⟨-, data, items, made, read, committed⟩ := envelope_reads_back .core builtin.vkey
    (PublicValues.decode_encode ⟨4294967295, 5, 7⟩)
  have length : (items.length : Int) = 8193 := (committed.core rfl 8193).mpr (by decide)
  exact ⟨data, items, made, read, by omega⟩

end ProofDriver.Prover.Mock

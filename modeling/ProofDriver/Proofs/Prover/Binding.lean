import ProofDriver.Proofs.Cbor.Reading
import ProofDriver.Proofs.Hash.Tagged
import ProofDriver.Proofs.Prover.Mock
/-!
# What an accepted proof is bound to

A proof that is accepted in two contexts was made for one mode: the modes stand in the envelopes, and
no envelope is as long as a wrapped proof. The envelope names the key too. The public values are
bound by digests only, so they may differ where two messages that were hashed collide.
-/

namespace ProofDriver.Prover.Mock

variable {curve : Bn254.Multiples} {m m' : EnvelopeMode} {mode mode' : ProofMode}
  {publicValues publicValues' data : Bytes} {vkey vkey' : VerifyingKey}

/-! ## Taking envelopes apart -/

theorem fits_envelopeItem (m : EnvelopeMode) (vkey : VerifyingKey) (publicValues : Bytes)
    (n : UInt32) : (envelopeItem m vkey (commitments m vkey publicValues n)).Fits := by
  have items : Cbor.ItemsFit ((commitments m vkey publicValues n).map .bytes) := by
    rw [Cbor.itemsFit_iff]
    intro item mem
    obtain ⟨c, made, rfl⟩ := List.mem_map.mp mem
    simp [Cbor.Fits, length_of_mem_commitments made]
  have few : m.shards n < 256 ^ 8 := (shards_le m n).trans_lt (by norm_num)
  have name : m.mode.name.toUTF8.size < 256 ^ 8 := by cases m <;> decide
  simp only [envelopeItem, Cbor.Fits, Cbor.EntriesFit, List.length_map, length_commitments,
    vkey.length_digest]
  refine ⟨?_, ?_, name, ?_, ?_, ?_, ⟨few, items⟩, trivial⟩ <;> norm_num

theorem name_inj (same : m.mode.name = m'.mode.name) : m = m' := by
  cases m <;> cases m' <;> first | rfl | exact absurd same (by decide)

theorem map_bytes_inj {xs ys : List Bytes} (same : xs.map Cbor.bytes = ys.map Cbor.bytes) :
    xs = ys :=
  List.map_injective_iff.mpr (fun _ _ h => Cbor.bytes.inj h) same

theorem envelopeItem_inj {n n' : UInt32}
    (same : (envelopeItem m vkey (commitments m vkey publicValues n)).encode =
      (envelopeItem m' vkey' (commitments m' vkey' publicValues' n')).encode) :
    m = m' ∧ vkey = vkey' ∧
      commitments m vkey publicValues n = commitments m' vkey' publicValues' n' := by
  have items := Cbor.encode_inj (fits_envelopeItem m vkey publicValues n)
    (fits_envelopeItem m' vkey' publicValues' n') same
  simp only [envelopeItem, Cbor.map.injEq, List.cons.injEq, Prod.mk.injEq, Cbor.text.injEq,
    Cbor.bytes.injEq, Cbor.array.injEq, true_and, and_true] at items
  obtain ⟨name, digest, commitments⟩ := items
  refine ⟨name_inj name, ?_, map_bytes_inj commitments⟩
  cases vkey
  cases vkey'
  cases digest
  rfl

theorem length_encodeItems {cs : List Bytes} (h : ∀ c ∈ cs, c.length = 32) :
    (Cbor.encodeItems (cs.map .bytes)).length = 34 * cs.length := by
  induction cs with
  | nil => rfl
  | cons c rest ih =>
    rw [List.forall_mem_cons] at h
    have head : (Cbor.head 2 32).length = 2 := by decide
    simp only [List.map_cons, Cbor.encodeItems, Cbor.encode, List.length_append, ih h.2, h.1, head,
      List.length_cons]
    omega

theorem length_envelope (m : EnvelopeMode) (vkey : VerifyingKey) (publicValues : Bytes)
    (n : UInt32) :
    (envelopeItem m vkey (commitments m vkey publicValues n)).encode.length =
      39 + m.mode.name.toUTF8.size + (Cbor.head 4 (m.shards n)).length + 34 * m.shards n := by
  have items : (Cbor.encodeItems ((commitments m vkey publicValues n).map .bytes)).length =
      34 * m.shards n := by
    rw [length_encodeItems fun c => length_of_mem_commitments, length_commitments]
  have small : (Cbor.head 3 m.mode.name.toUTF8.size).length = 1 := by cases m <;> decide
  have fixed : (Cbor.head 0 0).length = 1 ∧ (Cbor.head 0 1).length = 1 ∧
      (Cbor.head 0 2).length = 1 ∧ (Cbor.head 2 32).length = 2 ∧ (Cbor.head 5 3).length = 1 := by
    decide
  obtain ⟨h₀, h₁, h₂, hdigest, hmap⟩ := fixed
  simp only [envelopeItem, Cbor.encode, Cbor.encodeEntries, List.length_append, List.length_cons,
    List.length_nil, List.length_map, length_commitments, Cbor.length_toUTF8, vkey.length_digest,
    items, small, h₀, h₁, h₂, hdigest, hmap]
  omega

theorem length_envelope_ne (m : EnvelopeMode) (vkey : VerifyingKey) (publicValues : Bytes)
    (n : UInt32) :
    (envelopeItem m vkey (commitments m vkey publicValues n)).encode.length ≠ plonkLength := by
  have positive := shards_pos m n
  rw [length_envelope, plonkLength]
  by_cases one : m.shards n = 1
  · have head : (Cbor.head 4 1).length = 1 := by decide
    have name : m.mode.name.toUTF8.size < 20 := by cases m <;> decide
    rw [one, head]
    omega
  · omega

/-! ## Accepted proofs -/

theorem expected_of_check (accepted : check curve ⟨mode, data⟩ publicValues vkey = .ok true) :
    expected curve mode publicValues vkey = .ok data := by
  unfold check at accepted
  dsimp only at accepted
  split at accepted
  · cases accepted
  · split at accepted
    · rename_i proof same
      rw [same, ← eq_of_beq (Except.ok.inj accepted)]
    · split at accepted
      · cases accepted
      · cases accepted
    · cases accepted

theorem envelope_eq_ok (made : envelope m publicValues vkey = .ok data) :
    ∃ values, PublicValues.decode publicValues = .ok values ∧
      data = (envelopeItem m vkey (commitments m vkey publicValues values.n)).encode := by
  cases decoded : PublicValues.decode publicValues with
  | error e =>
    rw [envelope_of_undecodable decoded] at made
    cases made
  | ok values =>
    rw [envelope_of_decode decoded] at made
    exact ⟨values, rfl, (Except.ok.inj made).symm⟩

theorem length_of_field {width n : Nat} {bytes : Bytes} (made : field width n = .ok bytes) :
    bytes.length = width := by
  unfold field at made
  split at made
  · rename_i fitting found
    cases made
    unfold Bytes.bigEndian? at found
    split at found
    · cases found
      exact Bytes.length_bigEndian width n
    · cases found
  · cases made

theorem plonk_eq_ok (made : plonk curve publicValues vkey = .ok data) :
    (∃ values, PublicValues.decode publicValues = .ok values) ∧ data.length = plonkLength ∧
      data.drop 68 = Sha256.digest publicValues := by
  unfold plonk at made
  obtain ⟨values, decoded, made⟩ := Except.bind_eq_ok.mp made
  obtain ⟨x, hx, made⟩ := Except.bind_eq_ok.mp made
  obtain ⟨y, hy, made⟩ := Except.bind_eq_ok.mp made
  have lx := length_of_field (Fault.ok_of_lift hx)
  have ly := length_of_field (Fault.ok_of_lift hy)
  cases made
  refine ⟨⟨values, DriverError.ok_of_lift decoded⟩, ?_, ?_⟩
  · simp [lx, ly, plonkLength]
  · rw [List.drop_left' (by simp [lx, ly])]

/-! ## Binding -/

/-- The messages that are hashed for the proof of a mode, those of the point of a wrapped proof
too. -/
def hashed (mode : ProofMode) (publicValues : Bytes) (vkey : VerifyingKey) : List Bytes :=
  match mode, PublicValues.decode publicValues with
  | _, .error _ => []
  | .core, .ok values =>
    (List.range (EnvelopeMode.core.shards values.n)).map (shardMessage .core vkey publicValues)
  | .compressed, .ok values =>
    (List.range (EnvelopeMode.compressed.shards values.n)).map
      (shardMessage .compressed vkey publicValues)
  | .plonk, .ok _ =>
    [Hash.absorb Hash.Domain.plonkProof.tag [vkey.digest, publicValues], vkey.digest, publicValues]

/-- Two different messages, one of either list, have one digest. -/
def Collide (messages messages' : List Bytes) : Prop :=
  ∃ x ∈ messages, ∃ y ∈ messages', x ≠ y ∧ Sha256.digest x = Sha256.digest y

theorem eq_of_not_collide {messages messages' : List Bytes} {x y : Bytes}
    (apart : ¬ Collide messages messages') (hx : x ∈ messages) (hy : y ∈ messages')
    (same : Sha256.digest x = Sha256.digest y) : x = y := by
  by_contra different
  exact apart ⟨x, hx, y, hy, different, same⟩

theorem shardMessage_inj {shard shard' : Nat} (length : publicValues.length = 96)
    (length' : publicValues'.length = 96)
    (same : shardMessage m vkey publicValues shard = shardMessage m vkey' publicValues' shard') :
    publicValues = publicValues' := by
  have short {vkey : VerifyingKey} {publicValues : Bytes} {shard : Nat}
      (length : publicValues.length = 96) :
      ∀ part ∈ [vkey.digest, publicValues, Bytes.bigEndian 4 shard], part.length < 256 ^ 8 := by
    simp [vkey.length_digest, length]
  have parts := Hash.absorb_inj (short length) (short length') same
  simp only [List.cons.injEq] at parts
  exact parts.2.1

/-- Envelopes of one byte string are of one mode and one key, and their first shards have one
digest. -/
theorem envelope_binds (made : envelope m publicValues vkey = .ok data)
    (made' : envelope m' publicValues' vkey' = .ok data) :
    m = m' ∧ vkey = vkey' ∧
      Sha256.digest (shardMessage m vkey publicValues 0) =
        Sha256.digest (shardMessage m' vkey' publicValues' 0) := by
  obtain ⟨values, -, rfl⟩ := envelope_eq_ok made
  obtain ⟨values', -, same⟩ := envelope_eq_ok made'
  obtain ⟨rfl, rfl, commitments⟩ := envelopeItem_inj same
  refine ⟨rfl, rfl, ?_⟩
  have first {publicValues : Bytes} {n : UInt32} :
      (Mock.commitments m vkey publicValues n)[0]? =
        some (Sha256.digest (shardMessage m vkey publicValues 0)) := by
    rw [Mock.commitments, List.getElem?_map, List.getElem?_range (shards_pos m n)]
    rfl
  have firsts := congrArg (·[0]?) commitments
  simpa only [first, Option.some.injEq] using firsts

theorem shardMessage_mem_hashed {values : PublicValues}
    (decoded : PublicValues.decode publicValues = .ok values) :
    shardMessage m vkey publicValues 0 ∈ hashed m.mode publicValues vkey := by
  have first := List.mem_range.mpr (shards_pos m values.n)
  unfold hashed
  cases m <;> simp only [EnvelopeMode.mode, decoded] <;> exact List.mem_map_of_mem first

theorem length_of_envelope (made : envelope m publicValues vkey = .ok data) :
    data.length ≠ plonkLength := by
  obtain ⟨values, -, rfl⟩ := envelope_eq_ok made
  exact length_envelope_ne m vkey publicValues values.n

theorem envelope_publicValues (m : EnvelopeMode)
    (apart : ¬ Collide (hashed m.mode publicValues vkey) (hashed m.mode publicValues' vkey'))
    (made : envelope m publicValues vkey = .ok data)
    (made' : envelope m publicValues' vkey' = .ok data) : publicValues = publicValues' := by
  obtain ⟨values, decoded, -⟩ := envelope_eq_ok made
  obtain ⟨values', decoded', -⟩ := envelope_eq_ok made'
  obtain ⟨-, rfl, digests⟩ := envelope_binds made made'
  have messages := eq_of_not_collide apart (shardMessage_mem_hashed decoded)
    (shardMessage_mem_hashed decoded') digests
  exact shardMessage_inj (PublicValues.length_of_decode decoded)
    (PublicValues.length_of_decode decoded') messages

theorem plonk_publicValues (apart : ¬ Collide (hashed .plonk publicValues vkey)
      (hashed .plonk publicValues' vkey'))
    (made : plonk curve publicValues vkey = .ok data)
    (made' : plonk curve publicValues' vkey' = .ok data) : publicValues = publicValues' := by
  obtain ⟨⟨values, decoded⟩, -, digest⟩ := plonk_eq_ok made
  obtain ⟨⟨values', decoded'⟩, -, digest'⟩ := plonk_eq_ok made'
  refine eq_of_not_collide apart ?_ ?_ (digest.symm.trans digest')
  · simp [hashed, decoded]
  · simp [hashed, decoded']

theorem expected_cases (made : expected curve mode publicValues vkey = .ok data) :
    (∃ m : EnvelopeMode, mode = m.mode ∧ envelope m publicValues vkey = .ok data) ∨
      mode = .plonk ∧ plonk curve publicValues vkey = .ok data := by
  cases mode with
  | core => exact .inl ⟨.core, rfl, made⟩
  | compressed => exact .inl ⟨.compressed, rfl, made⟩
  | plonk => exact .inr ⟨rfl, made⟩

theorem mode_eq_of_expected (made : expected curve mode publicValues vkey = .ok data)
    (made' : expected curve mode' publicValues' vkey' = .ok data) : mode = mode' := by
  rcases expected_cases made with ⟨m, rfl, first⟩ | ⟨rfl, first⟩
  · rcases expected_cases made' with ⟨m', rfl, second⟩ | ⟨rfl, second⟩
    · rw [(envelope_binds first second).1]
    · exact absurd (plonk_eq_ok second).2.1 (length_of_envelope first)
  · rcases expected_cases made' with ⟨m', rfl, second⟩ | ⟨rfl, second⟩
    · exact absurd (plonk_eq_ok first).2.1 (length_of_envelope second)
    · rfl

/-- A proof that is accepted in two contexts has one mode, one key unless it is wrapped, and one
list of public values unless messages that were hashed collide. -/
theorem accepted_proof_binds_context
    (accepted : check curve ⟨mode, data⟩ publicValues vkey = .ok true)
    (accepted' : check curve ⟨mode', data⟩ publicValues' vkey' = .ok true) :
    mode = mode' ∧ (mode ≠ .plonk → vkey = vkey') ∧
      (¬ Collide (hashed mode publicValues vkey) (hashed mode' publicValues' vkey') →
        publicValues = publicValues') := by
  have made := expected_of_check accepted
  have made' := expected_of_check accepted'
  obtain rfl := mode_eq_of_expected made made'
  refine ⟨rfl, ?_⟩
  cases mode with
  | core =>
    exact ⟨fun _ => (envelope_binds made made').2.1, fun apart =>
      envelope_publicValues .core apart made made'⟩
  | compressed =>
    exact ⟨fun _ => (envelope_binds made made').2.1, fun apart =>
      envelope_publicValues .compressed apart made made'⟩
  | plonk =>
    exact ⟨fun wrapped => absurd rfl wrapped, fun apart => plonk_publicValues apart made made'⟩

/-- The envelope for the public values of index one is accepted for the key of the builtin mock and
for the key of the builtin program, so the two are one key. -/
theorem exists_bound_proof :
    ∃ data,
      check Bn254.multiples ⟨.core, data⟩ (PublicValues.encode ⟨1, 1, 1⟩) builtin.vkey = .ok true ∧
      check Bn254.multiples ⟨.core, data⟩ (PublicValues.encode ⟨1, 1, 1⟩)
        (programKey builtinProgram) = .ok true ∧
      builtin.vkey = programKey builtinProgram := by
  have accepted {vkey : VerifyingKey} :
      check Bn254.multiples ⟨.core, genuine Bn254.multiples .core (PublicValues.encode ⟨1, 1, 1⟩)
        vkey 1⟩ (PublicValues.encode ⟨1, 1, 1⟩) vkey = .ok true := by
    rw [check_of_decode Bn254.lawful_multiples (PublicValues.decode_encode ⟨1, 1, 1⟩),
      beq_self_eq_true]
  obtain ⟨-, key, -⟩ := accepted_proof_binds_context accepted accepted
  exact ⟨_, accepted, accepted, key (by decide)⟩

end ProofDriver.Prover.Mock

import ProofDriver.Proofs.Guest
import ProofDriver.Proofs.PublicValues
import ProofDriver.Prover.Mock
/-!
# The one proof that the mock accepts

For public values that decode, the proof of each mode is one byte string: every number in it fits
its field, and the point of a wrapped proof lies on the curve. The verifier therefore never fails,
and it tells just this byte string from all others.
-/

namespace ProofDriver

namespace Bn254

/-- What is asked of whoever computes the multiples: a nonzero scalar below the order leads to a
point of the curve, and its coordinates have 32 bytes. -/
def Lawful (curve : Multiples) : Prop :=
  ∀ s, 0 < s → s < groupOrder →
    satisfiesEquation (curve s).1 (curve s).2 = true ∧
      (curve s).1 < 256 ^ 32 ∧ (curve s).2 < 256 ^ 32

theorem lawful_multiples : Lawful multiples := by
  intro s _ _
  have small : fieldOrder < 256 ^ 32 := by norm_num [fieldOrder]
  unfold multiples
  split
  · rename_i x y onCurve _
    exact ⟨onCurve.2.2, onCurve.1.trans small, onCurve.2.1.trans small⟩
  · exact ⟨by decide, by norm_num, by norm_num⟩

end Bn254

namespace Prover.Mock

open Bn254 (Multiples Lawful)

variable {curve : Multiples} {m : EnvelopeMode} {mode : ProofMode} {publicValues : Bytes}
  {vkey : VerifyingKey} {values : PublicValues}

theorem field_of_lt {width n : Nat} (h : n < 256 ^ width) :
    field width n = .ok (Bytes.bigEndian width n) := by
  rw [field, Bytes.bigEndian?_of_lt h]

/-! ## Envelopes -/

theorem shards_pos (m : EnvelopeMode) (n : UInt32) : 0 < m.shards n := by
  have := Guest.shards_cycles n
  cases m <;> simp only [EnvelopeMode.shards] <;> omega

theorem shards_le (m : EnvelopeMode) (n : UInt32) : m.shards n ≤ 8193 := by
  have := Guest.shards_cycles n
  cases m <;> simp only [EnvelopeMode.shards] <;> omega

theorem shard_lt {n : UInt32} {shard : Nat} (below : shard < m.shards n) : shard < 256 ^ 4 := by
  have few : m.shards n ≤ 8193 := shards_le m n
  omega

def shardMessage (m : EnvelopeMode) (vkey : VerifyingKey) (publicValues : Bytes) (shard : Nat) :
    Bytes :=
  Hash.absorb m.domain.tag [vkey.digest, publicValues, Bytes.bigEndian 4 shard]

def commitments (m : EnvelopeMode) (vkey : VerifyingKey) (publicValues : Bytes) (n : UInt32) :
    List Bytes :=
  (List.range (m.shards n)).map fun shard =>
    Sha256.digest (shardMessage m vkey publicValues shard)

@[simp] theorem length_commitments (m : EnvelopeMode) (vkey : VerifyingKey) (publicValues : Bytes)
    (n : UInt32) : (commitments m vkey publicValues n).length = m.shards n := by
  simp [commitments]

theorem length_of_mem_commitments {n : UInt32} {c : Bytes}
    (h : c ∈ commitments m vkey publicValues n) : c.length = 32 := by
  obtain ⟨shard, -, rfl⟩ := List.mem_map.mp h
  simp

theorem mapM_eq_ok {ε α β : Type} {f : α → Except ε β} {g : α → β} {l : List α}
    (h : ∀ a ∈ l, f a = .ok (g a)) : l.mapM f = .ok (l.map g) := by
  induction l with
  | nil => rfl
  | cons a rest ih =>
    have first : f a = .ok (g a) := h a List.mem_cons_self
    have others : rest.mapM f = .ok (rest.map g) := ih fun b mem => h b (List.mem_cons_of_mem a mem)
    rw [List.mapM_cons, first, others]
    rfl

theorem mapM_commitment (m : EnvelopeMode) (vkey : VerifyingKey) (publicValues : Bytes)
    (n : UInt32) :
    (List.range (m.shards n)).mapM (commitment m vkey publicValues) =
      .ok (commitments m vkey publicValues n) := by
  refine mapM_eq_ok fun shard mem => ?_
  have below : shard < m.shards n := List.mem_range.mp mem
  rw [commitment, field_of_lt (shard_lt below)]
  rfl

theorem envelope_of_decode (decoded : PublicValues.decode publicValues = .ok values) :
    envelope m publicValues vkey =
      .ok (envelopeItem m vkey (commitments m vkey publicValues values.n)).encode := by
  rw [envelope, decoded, DriverError.lift_ok, Except.ok_bind, mapM_commitment, Fault.lift_ok,
    Except.ok_bind]

theorem envelope_of_undecodable {e : DriverError}
    (refused : PublicValues.decode publicValues = .error e) :
    envelope m publicValues vkey = .error (.driver e) := by
  rw [envelope, refused]
  rfl

/-! ## Wrapped proofs -/

theorem scalar_pos (publicValues : Bytes) (vkey : VerifyingKey) :
    0 < scalar publicValues vkey := by
  unfold scalar
  dsimp only
  split <;> omega

theorem scalar_lt (publicValues : Bytes) (vkey : VerifyingKey) :
    scalar publicValues vkey < Bn254.groupOrder := by
  have order : 1 < Bn254.groupOrder := by decide
  unfold scalar
  dsimp only
  split
  · exact order
  · exact Nat.mod_lt _ (by omega)

def plonkData (curve : Multiples) (publicValues : Bytes) (vkey : VerifyingKey) : Bytes :=
  let point := curve (scalar publicValues vkey)
  (Sha256.digest vkey.digest).take 4 ++ Bytes.bigEndian 32 point.1 ++
    Bytes.bigEndian 32 point.2 ++ Sha256.digest publicValues

theorem length_selector (vkey : VerifyingKey) :
    ((Sha256.digest vkey.digest).take 4).length = 4 := by
  simp

theorem length_plonkData (curve : Multiples) (publicValues : Bytes) (vkey : VerifyingKey) :
    (plonkData curve publicValues vkey).length = plonkLength := by
  simp [plonkData, plonkLength]

theorem plonk_of_decode (lawful : Lawful curve)
    (decoded : PublicValues.decode publicValues = .ok values) :
    plonk curve publicValues vkey = .ok (plonkData curve publicValues vkey) := by
  obtain ⟨-, hx, hy⟩ := lawful _ (scalar_pos publicValues vkey) (scalar_lt publicValues vkey)
  rw [plonk, decoded, DriverError.lift_ok, Except.ok_bind]
  dsimp only
  rw [field_of_lt hx, field_of_lt hy]
  rfl

theorem plonk_of_undecodable {e : DriverError}
    (refused : PublicValues.decode publicValues = .error e) :
    plonk curve publicValues vkey = .error (.driver e) := by
  rw [plonk, refused]
  rfl

theorem hasCurvePoint_plonkData (lawful : Lawful curve) :
    hasCurvePoint (plonkData curve publicValues vkey) = true := by
  obtain ⟨equation, hx, hy⟩ := lawful _ (scalar_pos publicValues vkey) (scalar_lt publicValues vkey)
  have abscissa : ((plonkData curve publicValues vkey).drop 4).take 32 =
      Bytes.bigEndian 32 (curve (scalar publicValues vkey)).1 := by
    rw [plonkData, List.append_assoc, List.append_assoc, List.drop_left' (length_selector vkey),
      List.take_left' (Bytes.length_bigEndian 32 _)]
  have ordinate : ((plonkData curve publicValues vkey).drop 36).take 32 =
      Bytes.bigEndian 32 (curve (scalar publicValues vkey)).2 := by
    rw [plonkData, List.append_assoc, List.drop_left' (by simp),
      List.take_left' (Bytes.length_bigEndian 32 _)]
  rw [hasCurvePoint, length_plonkData, abscissa, ordinate, Bytes.ofBigEndian_bigEndian_of_lt hx,
    Bytes.ofBigEndian_bigEndian_of_lt hy, equation]
  rfl

/-! ## The verdict -/

def genuine (curve : Multiples) (mode : ProofMode) (publicValues : Bytes) (vkey : VerifyingKey)
    (n : UInt32) : Bytes :=
  match mode with
  | .core => (envelopeItem .core vkey (commitments .core vkey publicValues n)).encode
  | .compressed =>
    (envelopeItem .compressed vkey (commitments .compressed vkey publicValues n)).encode
  | .plonk => plonkData curve publicValues vkey

theorem genuine_mode (curve : Multiples) (m : EnvelopeMode) (publicValues : Bytes)
    (vkey : VerifyingKey) (n : UInt32) :
    genuine curve m.mode publicValues vkey n =
      (envelopeItem m vkey (commitments m vkey publicValues n)).encode := by
  cases m <;> rfl

theorem exists_envelopeMode (h : mode ≠ .plonk) : ∃ m, envelopeMode mode = .ok m ∧ m.mode = mode := by
  cases mode with
  | core => exact ⟨.core, rfl, rfl⟩
  | compressed => exact ⟨.compressed, rfl, rfl⟩
  | plonk => exact absurd rfl h

theorem expected_of_decode (lawful : Lawful curve)
    (decoded : PublicValues.decode publicValues = .ok values) :
    expected curve mode publicValues vkey = .ok (genuine curve mode publicValues vkey values.n) := by
  cases mode with
  | core => exact envelope_of_decode decoded
  | compressed => exact envelope_of_decode decoded
  | plonk => exact plonk_of_decode lawful decoded

theorem expected_of_undecodable {e : DriverError}
    (refused : PublicValues.decode publicValues = .error e) :
    expected curve mode publicValues vkey = .error (.driver e) := by
  cases mode with
  | core => exact envelope_of_undecodable refused
  | compressed => exact envelope_of_undecodable refused
  | plonk => exact plonk_of_undecodable refused

theorem check_of_undecodable {e : DriverError} {proof : Proof}
    (refused : PublicValues.decode publicValues = .error e) :
    check curve proof publicValues vkey = .ok false := by
  have encoding : e.category = .encoding := PublicValues.category_of_decode e refused
  rw [check, expected_of_undecodable refused]
  simp only [encoding, if_true, ite_self]

theorem check_of_decode (lawful : Lawful curve) {proof : Proof}
    (decoded : PublicValues.decode publicValues = .ok values) :
    check curve proof publicValues vkey =
      .ok (proof.data == genuine curve proof.mode publicValues vkey values.n) := by
  rw [check, expected_of_decode lawful decoded]
  split
  · rename_i off
    obtain ⟨plonk, off⟩ := off
    have apart : proof.data ≠ genuine curve proof.mode publicValues vkey values.n := by
      intro same
      rw [same, plonk, genuine, hasCurvePoint_plonkData lawful] at off
      cases off
    rw [beq_eq_false_iff_ne.mpr apart]
  · rfl

def builtin : Prover.Mock :=
  ofProgram builtinProgram

theorem exists_check (lawful : Lawful curve) (proof : Proof) (publicValues : Bytes)
    (vkey : VerifyingKey) : ∃ accepted, check curve proof publicValues vkey = .ok accepted := by
  cases decoded : PublicValues.decode publicValues with
  | error e => exact ⟨false, check_of_undecodable decoded⟩
  | ok values => exact ⟨_, check_of_decode lawful decoded⟩

theorem check_multiples (proof : Proof) (publicValues : Bytes) (vkey : VerifyingKey) :
    check Bn254.multiples proof publicValues vkey = .ok (verify proof publicValues vkey) := by
  obtain ⟨accepted, checked⟩ := exists_check Bn254.lawful_multiples proof publicValues vkey
  rw [verify, checked]

theorem run_execute {σ : Type} (p : Prover.Mock) (input : GuestInput) (desk : Desk σ) :
    ((p.clientOn curve).execute input).run desk = (DriverError.lift (execute input), desk) := rfl

theorem run_verify {σ : Type} (p : Prover.Mock) (proof : Proof) (publicValues : Bytes)
    (vkey : VerifyingKey) (desk : Desk σ) :
    ((p.clientOn curve).verify proof publicValues vkey).run desk =
      (check curve proof publicValues vkey, desk) := rfl

/-- No proof is accepted for public values that do not decode. For others there is one accepted
proof, whichever program the verifying mock was made for. -/
theorem accepts_exactly_expected (lawful : Lawful curve) (mode : ProofMode) (publicValues : Bytes)
    (vkey : VerifyingKey) :
    (∀ e, PublicValues.decode publicValues = .error e →
      ∀ {σ : Type} (p : Prover.Mock) (desk : Desk σ) (data : Bytes),
        ((p.clientOn curve).verify ⟨mode, data⟩ publicValues vkey).run desk = (.ok false, desk)) ∧
    ∀ values, PublicValues.decode publicValues = .ok values →
      ∃ accepted, expected curve mode publicValues vkey = .ok accepted ∧
        (mode = .plonk → accepted.length = 100) ∧
        ∀ {σ : Type} (p : Prover.Mock) (desk : Desk σ) (data : Bytes),
          ((p.clientOn curve).verify ⟨mode, data⟩ publicValues vkey).run desk =
            (.ok (data == accepted), desk) := by
  constructor
  · intro e refused σ p desk data
    have verdict : check curve ⟨mode, data⟩ publicValues vkey = .ok false :=
      check_of_undecodable refused
    rw [run_verify, verdict]
  · intro values decoded
    refine ⟨_, expected_of_decode lawful decoded, ?_, ?_⟩
    · rintro rfl
      exact length_plonkData curve publicValues vkey
    · intro σ p desk data
      have verdict : check curve ⟨mode, data⟩ publicValues vkey =
          .ok (data == genuine curve mode publicValues vkey values.n) :=
        check_of_decode lawful decoded
      rw [run_verify, verdict]

/-- With the multiples of the curve's law, the public values of index one have a wrapped proof, and
one byte more makes it none. -/
theorem exists_accepted_wrapped_proof :
    ∃ accepted : Bytes, accepted.length = 100 ∧
      ((builtin.client : Client Unit).verify ⟨.plonk, accepted⟩
        (PublicValues.encode ⟨1, 1, 1⟩) builtin.vkey).run ⟨(), []⟩ = (.ok true, ⟨(), []⟩) ∧
      ((builtin.client : Client Unit).verify ⟨.plonk, accepted ++ [0]⟩
        (PublicValues.encode ⟨1, 1, 1⟩) builtin.vkey).run ⟨(), []⟩ = (.ok false, ⟨(), []⟩) := by
  obtain ⟨accepted, -, length, verdict⟩ :=
    (accepts_exactly_expected Bn254.lawful_multiples .plonk _ builtin.vkey).2 _
      (PublicValues.decode_encode ⟨1, 1, 1⟩)
  refine ⟨accepted, length rfl, ?_, ?_⟩
  · rw [client, verdict, beq_self_eq_true]
  · rw [client, verdict, beq_eq_false_iff_ne.mpr (by simp)]

end Prover.Mock

end ProofDriver

import ProofDriver.Proofs.Delivery.Calm
import ProofDriver.Proofs.Delivery.Preview
import ProofDriver.Proofs.FileSystem.Outline
import ProofDriver.Proofs.Fixture
import ProofDriver.Proofs.Prover.Binding
/-!
# Deliveries from the mock

The mock computes what the guest commits to, its proofs pass its own check, and so the way to a
fixture ends only where the disk refuses the file.
-/

namespace ProofDriver

namespace Prover.Mock

open Bn254 (Multiples Lawful)

variable {curve : Multiples} {σ : Type}

def honest (n : UInt32) : PublicValues :=
  ⟨n, (Guest.pairAt n.toNat).1, (Guest.pairAt n.toNat).2⟩

theorem execute_ofIndex (n : UInt32) :
    ∃ report, execute (.ofIndex n) = .ok report ∧ report.publicValues = (honest n).encode ∧
      report.opcodeCounts.Tidy ∧ report.syscallCounts.Tidy := by
  unfold execute
  rw [GuestInput.parse_ofIndex]
  dsimp only
  rw [Guest.fibonacci_eq_pairAt]
  have word := n.toNat_lt
  have short {count : Nat} (small : count < 10 ^ 20) : Numeral.isShort count = true :=
    Numeral.isShort_of_small (by simpa using small)
  refine ⟨_, rfl, rfl, fun entry mem => ?_, fun entry mem => ?_⟩
  · simp only [List.mem_cons, List.not_mem_nil, or_false] at mem
    rcases mem with rfl | rfl | rfl | rfl | rfl <;> exact ⟨_, _, rfl, short (by omega)⟩
  · simp only [List.mem_cons, List.not_mem_nil, or_false] at mem
    rcases mem with rfl | rfl | rfl | rfl <;> exact ⟨_, _, rfl, short (by omega)⟩

def receipt (curve : Multiples) (p : Prover.Mock) (n : UInt32) (mode : ProofMode) : Receipt :=
  ⟨⟨mode, genuine curve mode (honest n).encode p.vkey n⟩, (honest n).encode, p.vkey⟩

theorem prove_ofIndex (curve : Multiples) (p : Prover.Mock) (n : UInt32) {mode : ProofMode}
    (h : mode ≠ .plonk) : p.prove (.ofIndex n) mode = .ok (receipt curve p n mode) := by
  obtain ⟨report, executed, values, -, -⟩ := execute_ofIndex n
  have decoded : PublicValues.decode report.publicValues = .ok (honest n) := by
    rw [values, PublicValues.decode_encode]
  obtain ⟨m, known, rfl⟩ := exists_envelopeMode h
  rw [prove, known, DriverError.lift_ok, Except.ok_bind, executed]
  dsimp only
  rw [envelope_of_decode decoded, values, receipt, genuine_mode]
  rfl

theorem decode_receipt (curve : Multiples) (p : Prover.Mock) (n : UInt32) (mode : ProofMode) :
    PublicValues.decode (receipt curve p n mode).publicValues = .ok (honest n) :=
  PublicValues.decode_encode (honest n)

theorem check_receipt (lawful : Lawful curve) (p : Prover.Mock) (n : UInt32) (mode : ProofMode) :
    check curve (receipt curve p n mode).proof (receipt curve p n mode).publicValues
      (receipt curve p n mode).vkey = .ok true := by
  rw [check_of_decode lawful (decode_receipt curve p n mode)]
  exact congrArg Except.ok (beq_self_eq_true _)

theorem wrap_receipt (lawful : Lawful curve) (p : Prover.Mock) (n : UInt32) :
    wrap curve (receipt curve p n .compressed) = .ok (receipt curve p n .plonk) := by
  have checked := check_receipt lawful p n .compressed
  have wrapped : plonk curve (receipt curve p n .compressed).publicValues
      (receipt curve p n .compressed).vkey =
        .ok (genuine curve .plonk (honest n).encode p.vkey n) :=
    plonk_of_decode lawful (decode_receipt curve p n .compressed)
  unfold wrap
  rw [checked, wrapped]
  rfl

theorem receipt_injective (lawful : Lawful curve) (p : Prover.Mock) (n : UInt32) :
    Function.Injective fun mode => (receipt curve p n mode).proof.data := by
  intro mode mode' same
  have made (mode : ProofMode) : expected curve mode (honest n).encode p.vkey =
      .ok (receipt curve p n mode).proof.data := by
    rw [expected_of_decode lawful (PublicValues.decode_encode (honest n))]
    rfl
  exact mode_eq_of_expected (made mode) ((made mode').trans (congrArg Except.ok same.symm))

theorem receipt_of_calm_strategy (lawful : Lawful curve) {p : Prover.Mock} {n : UInt32}
    {mode : ProofMode} {r : Outcome Receipt} {w w' : World σ}
    (course : Strategy.CalmCourse (p.clientOn curve) (.ofIndex n) w mode r w') :
    r = .ok (receipt curve p n mode) := by
  have proved := prove_ofIndex curve p n (by decide : ProofMode.compressed ≠ .plonk)
  cases course with
  | refused sound _ => cases sound
  | single h asked => rw [asked.eq_of_ofOutcome, prove_ofIndex curve p n h]
  | unwrapped asked => cases asked.eq_of_ofOutcome.trans proved
  | wrapped first second =>
    cases first.eq_of_ofOutcome.trans proved
    rw [second.eq_of_ofOutcome, wrap_receipt lawful]
    rfl

end Prover.Mock

namespace Delivery

open Bn254 (Multiples Lawful)
open Prover.Mock (honest receipt)

variable {σ : Type} {curve : Multiples}

def mockFixture (p : Prover.Mock) (n : UInt32) (mode : ProofMode) (proof : Bytes) : Fixture where
  mode := mode
  n := n.toNat
  a := (Nat.fib n.toNat % 4294967296 : Nat)
  b := (Nat.fib (n.toNat + 1) % 4294967296 : Nat)
  vkey := p.vkey.bytes32
  publicValues := Hex.encode (honest n).encode
  proof := Hex.encode proof
  dev := true

theorem ofProof_receipt (curve : Multiples) (p : Prover.Mock) (n : UInt32) (mode : ProofMode) :
    Fixture.ofProof (receipt curve p n mode).publicValues (receipt curve p n mode).proof
      (receipt curve p n mode).vkey true =
        .ok (mockFixture p n mode (receipt curve p n mode).proof.data) := by
  refine Fixture.ofProof_eq_ok.mpr ⟨_, Prover.Mock.decode_receipt curve p n mode, ?_⟩
  simp only [mockFixture, receipt, honest, Guest.pairAt, UInt32.toNat_ofNat']

/-! ## Previews -/

theorem preview_mock (curve : Multiples) (p : Prover.Mock) (n : UInt32) (w : World σ) :
    ∃ report, report.publicValues = (honest n).encode ∧
      (preview (p.clientOn curve) (.int n.toNat)).Ends w fun r _ => r = .ok (report, honest n) := by
  obtain ⟨report, executed, values, opcodes, syscalls⟩ := Prover.Mock.execute_ofIndex n
  refine ⟨report, values, ?_⟩
  have asked : (World.ask ((p.clientOn curve : Client σ).execute (.ofIndex n))).run w =
      (.ok report, w) := by
    rw [World.run_ask, Prover.Mock.run_execute, executed]
    rfl
  have decoded : PublicValues.decode report.publicValues = .ok (honest n) := by
    rw [values, PublicValues.decode_encode]
  exact preview_ends_of_answer (GuestInput.ofValue_toNat n) asked decoded opcodes syscalls

/-! ## Deliveries -/

theorem deliver_mock (lawful : Lawful curve) (p : Prover.Mock) (n : UInt32) {settings : Settings}
    {sink : Sink} {m : ProofMode} {mode : Value} {output : Option Path} {w : World σ}
    (known : ProofMode.ofValue mode = .ok m) (calm : Unobtrusive sink w.machine)
    (writable : w.disk.Writable (output.getD (settings.fixturePath m))) :
    (deliver (p.clientOn curve) settings sink (.int n.toNat) mode output).Ends w fun r _ =>
      r = .ok (mockFixture p n m (receipt curve p n m).proof.data,
        output.getD (settings.fixturePath m)) := by
  refine (deliver_ends_of_unobtrusive (p.clientOn curve) settings output known
    (GuestInput.ofValue_toNat n) calm).imp fun r w' course => ?_
  cases course with
  | unproved course => cases Prover.Mock.receipt_of_calm_strategy lawful course
  | @proved run w₁ _ _ course concluded =>
    have disk : w₁.disk = w.disk := course.disk
    cases Prover.Mock.receipt_of_calm_strategy lawful course
    have accepted {answer : Outcome Bool} {w₂ : World σ}
        (asked : World.Asked ((p.clientOn curve).verify (receipt curve p n m).proof
          (receipt curve p n m).publicValues (receipt curve p n m).vkey) w₁ answer w₂) :
        answer = .ok true :=
      asked.eq_of_ofOutcome.trans (Prover.Mock.check_receipt lawful p n m)
    have made := ofProof_receipt curve p n m
    cases concluded with
    | unanswered asked => cases accepted asked
    | rejected asked => cases accepted asked
    | unencodable _ refused => cases made.symm.trans refused
    | unsaved asked made' saved _ =>
      cases made.symm.trans made'
      obtain ⟨text, written⟩ := Fixture.exists_write_ofProof made
      rw [asked.1, disk] at saved
      cases (writable.save written).symm.trans (congrArg Prod.fst saved)
    | stored _ made' _ _ =>
      cases made.symm.trans made'
      rfl

/-- For every program and index there are three different proofs with which the mock delivers, in
each mode and wherever a document can be saved. The readable words are Fibonacci numbers, and the
public values and the key are those of a preview and of the setup. -/
theorem mock_delivers_fibonacci (lawful : Lawful curve) (program : Bytes) (n : UInt32) :
    let p := Prover.Mock.ofProgram program
    let values : PublicValues :=
      ⟨n, UInt32.ofNat (Nat.fib n.toNat), UInt32.ofNat (Nat.fib (n.toNat + 1))⟩
    ∃ proofs : ProofMode → Bytes, Function.Injective proofs ∧
      ∀ σ : Type, let client : Client σ := p.clientOn curve
        (∀ desk, client.setup.run desk = (.ok p.vkey, desk)) ∧
        (∀ w : World σ, ∃ report, report.publicValues = values.encode ∧
          ((preview client (.int n.toNat)).run w).1 = .ok (report, values)) ∧
        ∀ (settings : Settings) (sink : Sink) (mode : Value) (m : ProofMode)
          (output : Option Path) (w : World σ), ProofMode.ofValue mode = .ok m →
          Unobtrusive sink w.machine →
          w.disk.Writable (output.getD (settings.fixturePath m)) →
          ((deliver client settings sink (.int n.toNat) mode output).run w).1 =
            .ok ({
              mode := m
              n := n.toNat
              a := (Nat.fib n.toNat % 4294967296 : Nat)
              b := (Nat.fib (n.toNat + 1) % 4294967296 : Nat)
              vkey := p.vkey.bytes32
              publicValues := Hex.encode values.encode
              proof := Hex.encode (proofs m)
              dev := true }, output.getD (settings.fixturePath m)) := by
  intro p values
  refine ⟨_, Prover.Mock.receipt_injective lawful p n, fun σ => ⟨fun _ => rfl, ?_, ?_⟩⟩
  · exact fun w => preview_mock curve p n w
  · intro settings sink mode m output w known calm writable
    exact deliver_mock lawful p n known calm writable

/-- An empty disk takes a file in its root. -/
theorem exists_mock_delivery :
    ∃ fixture, fixture.mode = .plonk ∧ fixture.a = 5 ∧ fixture.b = 8 ∧
      ((deliver (Prover.Mock.builtin.client : Client Unit) {} .journal (.int 5) (.text "plonk")
        (some ⟨.relative, ["f"]⟩)).run spare).1 = .ok (fixture, ⟨.relative, ["f"]⟩) := by
  obtain ⟨proofs, -, delivers⟩ :=
    mock_delivers_fibonacci Bn254.lawful_multiples Prover.Mock.builtinProgram 5
  have known : ProofMode.ofValue (.text "plonk") = .ok .plonk := by rfl
  have writable : spare.disk.Writable ⟨.relative, ["f"]⟩ := ⟨.null, by decide +kernel⟩
  have five : ((Nat.fib (UInt32.toNat 5) % 4294967296 : Nat) : Int) = 5 := by decide
  have eight : ((Nat.fib (UInt32.toNat 5 + 1) % 4294967296 : Nat) : Int) = 8 := by decide
  exact ⟨_, rfl, five, eight, (delivers Unit).2.2 {} .journal (.text "plonk") .plonk
    (some ⟨.relative, ["f"]⟩) spare known unobtrusive_spare writable⟩

end Delivery

end ProofDriver

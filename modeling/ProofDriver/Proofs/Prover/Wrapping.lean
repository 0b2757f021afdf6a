import ProofDriver.Proofs.Prover.Binding
/-!
# What the mock wraps

The mock wraps a compressed proof if it is the one that it accepts for the public values and the key
that come with it. Any other run is a failed wrapping, and nothing that goes wrong in the check is
shown as anything else. What comes of it has one length and is accepted in turn.
-/

namespace ProofDriver.Prover.Mock

open Bn254 (Multiples Lawful)

variable {curve : Multiples} {run : Receipt}

/-- A compressed proof that is the envelope of the public values and the key that come with it. -/
structure Wrappable (run : Receipt) : Prop where
  compressed : run.proof.mode = .compressed
  decodes : ∃ values, PublicValues.decode run.publicValues = .ok values
  genuine : envelope .compressed run.publicValues run.vkey = .ok run.proof.data

/-- The run that a wrapped proof makes of it. -/
def wrapped (curve : Multiples) (run : Receipt) : Receipt :=
  ⟨⟨.plonk, plonkData curve run.publicValues run.vkey⟩, run.publicValues, run.vkey⟩

theorem wrappable_of_check (compressed : run.proof.mode = .compressed)
    (accepted : check curve run.proof run.publicValues run.vkey = .ok true) : Wrappable run := by
  have made : expected curve run.proof.mode run.publicValues run.vkey = .ok run.proof.data :=
    expected_of_check accepted
  rw [compressed] at made
  obtain ⟨values, decoded, -⟩ := envelope_eq_ok made
  exact ⟨compressed, ⟨values, decoded⟩, made⟩

theorem check_of_wrappable (lawful : Lawful curve) (wrappable : Wrappable run) :
    check curve run.proof run.publicValues run.vkey = .ok true := by
  obtain ⟨values, decoded⟩ := wrappable.decodes
  have same : genuine curve run.proof.mode run.publicValues run.vkey values.n = run.proof.data := by
    have made := wrappable.genuine
    rw [envelope_of_decode decoded] at made
    rw [wrappable.compressed]
    exact Except.ok.inj made
  rw [check_of_decode lawful decoded, same, beq_self_eq_true]

theorem wrap_of_wrappable (lawful : Lawful curve) (wrappable : Wrappable run) :
    wrap curve run = .ok (wrapped curve run) := by
  obtain ⟨values, decoded⟩ := wrappable.decodes
  have passed : ¬ run.proof.mode ≠ .compressed := not_not.mpr wrappable.compressed
  unfold wrap
  rw [check_of_wrappable lawful wrappable, plonk_of_decode lawful decoded, if_neg passed]
  rfl

theorem wrap_of_not_wrappable (lawful : Lawful curve) (refused : ¬ Wrappable run) :
    ∃ text, wrap curve run = .error (.driver (Category.wrapping.error text)) := by
  unfold wrap
  by_cases compressed : run.proof.mode = .compressed
  · obtain ⟨accepted, checked⟩ := exists_check lawful run.proof run.publicValues run.vkey
    cases accepted with
    | true => exact absurd (wrappable_of_check compressed checked) refused
    | false =>
      rw [checked, if_neg (not_not.mpr compressed)]
      exact ⟨_, rfl⟩
  · rw [if_pos compressed]
    exact ⟨_, rfl⟩

theorem check_wrapped (lawful : Lawful curve) (wrappable : Wrappable run) :
    check curve (wrapped curve run).proof run.publicValues run.vkey = .ok true := by
  obtain ⟨values, decoded⟩ := wrappable.decodes
  rw [check_of_decode lawful decoded]
  exact congrArg Except.ok (beq_self_eq_true _)

theorem run_wrap {σ : Type} (p : Prover.Mock) (run : Receipt) (desk : Desk σ) :
    ((p.clientOn curve).wrap run).run desk = (wrap curve run, desk) := rfl

/-- Wrapping returns for the compressed proofs that are accepted with their public values and key,
and for no other run; (1) all else is a failed wrapping. (2) What it returns is a wrapped proof of a
hundred bytes with the same public values and key, which every mock accepts. (3) Nothing else
changes. -/
theorem wraps_exactly_verifying (lawful : Lawful curve) (run : Receipt) {σ : Type}
    (p : Prover.Mock) (desk : Desk σ) :
    ((∃ r, (((p.clientOn curve).wrap run).run desk).1 = .ok r) ↔ Wrappable run) ∧
    (∀ e, (((p.clientOn curve).wrap run).run desk).1 = .error e →
      ∃ text, e = .driver (Category.wrapping.error text)) ∧
    (∀ r, (((p.clientOn curve).wrap run).run desk).1 = .ok r →
      r.proof.mode = .plonk ∧ r.proof.data.length = 100 ∧
      r.publicValues = run.publicValues ∧ r.vkey = run.vkey ∧
      ∀ {τ : Type} (verifier : Prover.Mock) (desk' : Desk τ),
        ((verifier.clientOn curve).verify r.proof r.publicValues r.vkey).run desk' =
          (.ok true, desk')) ∧
    (((p.clientOn curve).wrap run).run desk).2 = desk := by
  rw [run_wrap]
  by_cases wrappable : Wrappable run
  · rw [wrap_of_wrappable lawful wrappable]
    refine ⟨⟨fun _ => wrappable, fun _ => ⟨_, rfl⟩⟩, nofun, ?_, rfl⟩
    rintro r ⟨⟩
    refine ⟨rfl, length_plonkData curve run.publicValues run.vkey, rfl, rfl, ?_⟩
    intro τ verifier desk'
    rw [run_verify]
    exact congrArg (·, desk') (check_wrapped lawful wrappable)
  · obtain ⟨text, failed⟩ := wrap_of_not_wrappable lawful wrappable
    rw [failed]
    refine ⟨⟨nofun, fun absurd => (wrappable absurd).elim⟩, ?_, nofun, rfl⟩
    rintro e ⟨⟩
    exact ⟨text, rfl⟩

def enveloped : Receipt :=
  let publicValues := PublicValues.encode ⟨1, 5, 7⟩
  let vkey := builtin.vkey
  ⟨⟨.compressed, genuine Bn254.multiples .compressed publicValues vkey 1⟩, publicValues, vkey⟩

theorem wrappable_enveloped : Wrappable enveloped where
  compressed := rfl
  decodes := ⟨⟨1, 5, 7⟩, PublicValues.decode_encode ⟨1, 5, 7⟩⟩
  genuine := envelope_of_decode (PublicValues.decode_encode ⟨1, 5, 7⟩)

/-- This run is wrapped, and the wrapped proof is not wrapped again. -/
theorem exists_wrapped_run :
    ∃ r, (((builtin.client : Client Unit).wrap enveloped).run ⟨(), []⟩).1 = .ok r ∧
      r.proof.data.length = 100 ∧
      ∃ text, (((builtin.client : Client Unit).wrap r).run ⟨(), []⟩).1 =
        .error (.driver (Category.wrapping.error text)) := by
  have once (run : Receipt) :=
    wraps_exactly_verifying Bn254.lawful_multiples run builtin (⟨(), []⟩ : Desk Unit)
  obtain ⟨r, returned⟩ := (once enveloped).1.mpr wrappable_enveloped
  obtain ⟨mode, length, -⟩ := (once enveloped).2.2.1 r returned
  refine ⟨r, returned, length, ?_⟩
  cases again : (((builtin.client : Client Unit).wrap r).run ⟨(), []⟩).1 with
  | ok r' =>
    have compressed := ((once r).1.mp ⟨r', again⟩).compressed
    rw [mode] at compressed
    cases compressed
  | error e =>
    obtain ⟨text, rfl⟩ := (once r).2.1 e again
    exact ⟨text, rfl⟩

end ProofDriver.Prover.Mock

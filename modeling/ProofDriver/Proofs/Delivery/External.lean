import ProofDriver.Proofs.Delivery.Course
import ProofDriver.Proofs.Fixture
import ProofDriver.Proofs.Prover.External
/-!
# Deliveries with an external prover

A delivered fixture holds exactly what went through the prover's processes: the proof that the last
of `prove` and `wrap` wrote is the proof that `verify` was given and the proof in the fixture, and
the public values and the key went the same way.
-/

namespace ProofDriver

theorem GuestInput.ofValue_eq_ok {n : Value} {input : GuestInput}
    (h : ofValue n = .ok input) :
    ∃ i : UInt32, n = .int i.toNat ∧ input.buffer = Bytes.littleEndian 4 i.toNat := by
  unfold ofValue at h
  split at h
  · split at h
    · rename_i n bounds
      cases h
      have small : n.toNat < 2 ^ 32 := by
        have size : (UInt32.size : Int) = 2 ^ 32 := rfl
        omega
      refine ⟨UInt32.ofNat n.toNat, ?_, rfl⟩
      rw [UInt32.toNat_ofNat', Nat.mod_eq_of_lt small, Int.toNat_of_nonneg bounds.1]
    · cases h
  · cases h

namespace Delivery

variable {τ : Type}

open Prover.External (Keyed Printed)

section

variable (p : Prover.External) (host : Host τ) (env : Environment)

/-- The way from the proof that `prove` wrote to the proof that is verified: it is the same, but for
a plonk proof, which one `wrap` made of it. -/
inductive Finished (publicValues : Bytes) : ProofMode → Bytes → List Exchange → Bytes → Prop
  | proved {m proof} : m ≠ .plonk → Finished publicValues m proof [] proof
  | wrapped {proof proof' e} : e.out = some proof' → Finished publicValues .plonk proof
      [(p.wrapCommand host env proof publicValues, e)] proof'

def provedMode (m : ProofMode) : ProofMode :=
  if m = .plonk then .compressed else m

end

variable {p : Prover.External} {host : Host τ} {env : Environment}

theorem exchanged_of_course {input : GuestInput} {m : ProofMode} {run : Receipt}
    {w w' : World (ExternalState τ)}
    (course : Strategy.Course (p.client host env) input w m (.ok run) w') :
    ∃ keyed proof e wrapping,
      w.client.Exchanged host
        (keyed ++ [(p.proveCommand host env input (provedMode m), e)] ++ wrapping) w'.client ∧
      p.Keyed env w.client.key run.vkey keyed ∧ e.out = some proof ∧
      Printed e run.publicValues ∧
      Finished p host env run.publicValues m proof wrapping run.proof.data ∧
      run.proof.mode = m := by
  cases course with
  | single h asked follows =>
    obtain ⟨-, before, after, proved⟩ := asked
    rw [follows run rfl] at proved
    obtain ⟨keyed, e, exchanged, known, out, printed, mode, -⟩ :=
      Prover.External.prove_ok proved
    refine ⟨keyed, _, e, [], ?_, known, out, printed, .proved h, mode⟩
    rw [provedMode, if_neg h, List.append_nil]
    exact exchanged
  | wrapped first second follows =>
    obtain ⟨-, before, after, first⟩ := first
    obtain ⟨-, before', after', wrapped⟩ := second
    replace first : (p.prove host env input .compressed).run _ = _ := first
    rw [follows run rfl] at wrapped
    obtain ⟨keyed, e, exchanged, known, out, printed, -, -⟩ := Prover.External.prove_ok first
    obtain ⟨e', exchanged', out', mode, values, key, -⟩ := Prover.External.wrap_ok wrapped
    refine ⟨keyed, _, e, _, exchanged.append exchanged', ?_, out, ?_, ?_, mode⟩
    · rwa [key]
    · rwa [values]
    · rw [values]
      exact .wrapped out'

/-- The fixture of a successful delivery attests the proof of the one verification, which the
commands before it have led to. -/
theorem deliver_external_ships_what_it_verified (p : Prover.External) (host : Host τ)
    (env : Environment) (settings : Settings) (sink : Sink) (n mode : Value)
    (output : Option Path) (w w' : World (ExternalState τ)) (fixture : Fixture) (path : Path)
    (delivered : (deliver (p.client host env) settings sink n mode output).run w =
      (.ok (fixture, path), w')) :
    ∃ m i input vkey publicValues proof proof' keyed proved wrapping verified,
      ProofMode.ofValue mode = .ok m ∧ n = .int (i : UInt32).toNat ∧
      input.buffer = Bytes.littleEndian 4 i.toNat ∧
      w.client.Exchanged host
        (keyed ++ [(p.proveCommand host env input (provedMode m), proved)] ++ wrapping ++
          [(p.verifyCommand host env ⟨m, proof'⟩ publicValues vkey, verified)]) w'.client ∧
      p.Keyed env w.client.key vkey keyed ∧
      proved.out = some proof ∧ Printed proved publicValues ∧
      Finished p host env publicValues m proof wrapping proof' ∧
      verified.status = 0 ∧
      fixture.Attests ⟨m, proof'⟩ publicValues vkey := by
  have course := (deliver_ends (p.client host env) settings sink n mode output w).run_eq delivered
  cases course with
  | @stored m input run _ w₂ _ known valid checked made saved kept =>
    obtain ⟨w₁, course, -, before, after, asked⟩ := checked
    obtain ⟨i, hn, buffer⟩ := GuestInput.ofValue_eq_ok valid
    obtain ⟨keyed, proof, e, wrapping, exchanged, hkeyed, out, printed, finished, hmode⟩ :=
      exchanged_of_course course
    obtain ⟨e', exchanged', status, -⟩ := Prover.External.verify_ok asked
    have attests := Fixture.attests_ofProof made
    have hproof : run.proof = ⟨m, run.proof.data⟩ := by rw [← hmode]
    rw [hproof] at exchanged' attests
    refine ⟨m, i, input, run.vkey, run.publicValues, proof, run.proof.data, keyed, e, wrapping, e',
      known, hn, buffer, ?_, hkeyed, out, printed, finished, ?_, attests⟩
    · rw [kept]
      exact exchanged.append exchanged'
    · simpa using status.symm

def obliging : Host Unit where
  scratch := "/tmp"
  start c _ :=
    let zeros (name : String) (count : Nat) : String :=
      "\x7b\"" ++ name ++ "\": \"" ++ Hex.encode (List.replicate count 0) ++ "\"\x7d"
    (.exited (match c.subcommand with
      | .vkey => { stdout := zeros "vkey" 32 }
      | .prove => { stdout := zeros "publicValues" 96, out := some [1] }
      | .wrap => { out := some [2] }
      | _ => {}), ())

def obliged : Act (World (ExternalState Unit)) (Fixture × Path) :=
  deliver (Prover.External.client ⟨⟨.relative, ["p"]⟩, ⟨.relative, ["e"]⟩, true, none⟩ obliging [])
    {} (.receiver fun _ _ => none) (.int 0) (.text "plonk") (some ⟨.relative, ["f"]⟩)

def unasked : World (ExternalState Unit) where
  client := { host := () }
  journal := []
  disk := { files := {} }

/-- The delivery of a plonk proof takes all four commands. -/
theorem exists_external_delivery :
    ∃ fixture path w', obliged.run unasked = (.ok (fixture, path), w') ∧
      w'.client.commands.map Command.subcommand = [.vkey, .prove, .wrap, .verify] := by
  have succeeds : (obliged.run unasked).1.isOk = true := by decide +kernel
  rcases ran : obliged.run unasked with ⟨r, w'⟩
  rw [ran] at succeeds
  cases r with
  | error e => cases succeeds
  | ok delivered =>
    obtain ⟨fixture, path⟩ := delivered
    refine ⟨fixture, path, w', rfl, ?_⟩
    obtain ⟨m, _, _, _, _, _, _, _, _, _, _, known, -, -, exchanged, keyed, -, -, finished, -, -⟩ :=
      deliver_external_ships_what_it_verified _ _ _ _ _ _ _ _ _ _ _ _ ran
    have plonk : ProofMode.ofValue (.text "plonk") = .ok .plonk := ProofMode.plonk.ofValue_name
    cases known.symm.trans plonk
    obtain ⟨absurd, -⟩ | ⟨-, e, v, rfl, -, -⟩ := keyed
    · cases absurd
    · cases finished with
      | proved h => exact absurd rfl h
      | wrapped _ =>
        rw [exchanged.commands]
        rfl

end Delivery

end ProofDriver

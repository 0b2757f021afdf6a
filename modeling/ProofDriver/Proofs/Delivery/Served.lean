import ProofDriver.Proofs.Delivery.Calm
import ProofDriver.Proofs.Delivery.External
import ProofDriver.Proofs.Delivery.Preview
import ProofDriver.Proofs.FileSystem.Outline
import ProofDriver.Proofs.Prover.Served
/-!
# Previews and deliveries that are served

Where the processes of an external prover do their part and the disk takes the file, a core or
compressed proof is delivered: none of the driver's own checks stands in the way. A prover that has
no key yet is given one command for each stage. A preview needs no more than a report.
-/

namespace ProofDriver

open World (Asked)

theorem World.Asked.eq_of_run {σ α : Type} {work : Act (Desk σ) α} {w w' : World σ}
    {r answer : Outcome α} (asked : Asked work w r w')
    (answers : ∀ journal, ∃ d', work.run ⟨w.client, journal⟩ = (answer, d')) : r = answer := by
  obtain ⟨-, before, after, run⟩ := asked
  obtain ⟨d', run'⟩ := answers before
  exact congrArg Prod.fst (run.symm.trans run')

namespace Delivery

variable {τ : Type} {p : Prover.External} {host : Host τ} {env : Environment}
  {vkey : VerifyingKey} {publicValues proof : Bytes}

theorem preview_served {report : Execution} {values : PublicValues} {n : Value}
    {input : GuestInput}
    (answers : host.Answers .execute fun e =>
      ∃ v, Output.result e.stdout = .ok v ∧ Output.report v = .ok report)
    (valid : GuestInput.ofValue n = .ok input)
    (decoded : PublicValues.decode report.publicValues = .ok values)
    (opcodes : report.opcodeCounts.Tidy) (syscalls : report.syscallCounts.Tidy)
    (w : World (ExternalState τ)) :
    (preview (p.client host env) n).Ends w fun r _ => r = .ok (report, values) := by
  obtain ⟨d', executed⟩ : ∃ d', (p.execute host env input).run w.toDesk = (.ok report, d') :=
    Prover.External.execute_answered answers input w.toDesk
  have asked : (World.ask ((p.client host env).execute input)).run w =
      (.ok report, { w with toDesk := d' }) := by
    rw [World.run_ask]
    exact congrArg (fun x => (x.1, { w with toDesk := x.2 })) executed
  exact preview_ends_of_answer valid asked decoded opcodes syscalls

theorem deliver_served (serves : host.Serves vkey publicValues proof) {settings : Settings}
    {sink : Sink} {n mode : Value} {m : ProofMode} {input : GuestInput} {output : Option Path}
    {w : World (ExternalState τ)} {fixture : Fixture}
    (kept : ∀ key, w.client.key = some key → key = vkey)
    (known : ProofMode.ofValue mode = .ok m) (single : m ≠ .plonk)
    (valid : GuestInput.ofValue n = .ok input)
    (made : Fixture.ofProof publicValues ⟨m, proof⟩ vkey p.dev = .ok fixture)
    (calm : Unobtrusive sink w.machine)
    (writable : w.disk.Writable (output.getD (settings.fixturePath m))) :
    (deliver (p.client host env) settings sink n mode output).Ends w fun r _ =>
      r = .ok (fixture, output.getD (settings.fixturePath m)) := by
  refine (deliver_ends_of_unobtrusive (p.client host env) settings output known valid
    calm).imp fun r w' course => ?_
  have proved {r : Outcome Receipt} {w' : World (ExternalState τ)}
      (course : Strategy.CalmCourse (p.client host env) input w m r w') :
      r = .ok ⟨⟨m, proof⟩, publicValues, vkey⟩ := by
    cases course with
    | refused | unwrapped | wrapped => exact absurd rfl single
    | single _ asked =>
      exact asked.eq_of_run fun journal =>
        Prover.External.prove_served (d := ⟨w.client, journal⟩) serves kept input single
  cases course with
  | unproved course => cases proved course
  | @proved run w₁ _ _ course concluded =>
    have disk : w₁.disk = w.disk := course.disk
    cases proved course
    have accepted {answer : Outcome Bool} {w₂ : World (ExternalState τ)}
        (asked : Asked (p.verify host env ⟨m, proof⟩ publicValues vkey) w₁ answer w₂) :
        answer = .ok true :=
      asked.eq_of_run fun _ => Prover.External.verify_served serves _ _ _ _
    have dev : (!(p.client host env).sound) = p.dev := Bool.not_not p.dev
    cases concluded with
    | unanswered asked => cases accepted asked
    | rejected asked => cases accepted asked
    | unencodable _ refused =>
      rw [dev] at refused
      cases made.symm.trans refused
    | unsaved asked made' saved _ =>
      obtain ⟨text, written⟩ := Fixture.exists_write_ofProof made'
      rw [asked.1, disk] at saved
      cases (writable.save written).symm.trans (congrArg Prod.fst saved)
    | stored _ made' _ _ =>
      rw [dev] at made'
      cases made.symm.trans made'
      rfl

def stages (m : ProofMode) : List Subcommand :=
  [.vkey, .prove] ++ (if m = .plonk then [.wrap] else []) ++ [.verify]

theorem subcommands_of_delivered {settings : Settings} {sink : Sink} {n mode : Value}
    {m : ProofMode} {output : Option Path} {w w' : World (ExternalState τ)} {fixture : Fixture}
    {path : Path} (known : ProofMode.ofValue mode = .ok m) (keyless : w.client.key = none)
    (delivered : (deliver (p.client host env) settings sink n mode output).run w =
      (.ok (fixture, path), w')) :
    w'.client.commands.map Command.subcommand =
      w.client.commands.map Command.subcommand ++ stages m := by
  have course := (deliver_ends (p.client host env) settings sink n mode output w).run_eq delivered
  cases course with
  | @stored m' input run _ _ _ known' _ checked _ _ kept =>
    cases known.symm.trans known'
    obtain ⟨w₁, course, -, before, after, verified⟩ := checked
    obtain ⟨keyed, proof, e, wrapping, exchanged, named, -, -, finished, -⟩ :=
      exchanged_of_course course
    obtain ⟨e', last, -, -⟩ := Prover.External.verify_ok verified
    have whole := exchanged.append last
    rw [← kept] at whole
    rw [whole.commands, List.map_append]
    obtain ⟨absurd, -⟩ | ⟨-, named, v, rfl, -, -⟩ := named
    · cases keyless.symm.trans absurd
    · cases finished with
      | proved single =>
        rw [stages, if_neg single]
        rfl
      | wrapped _ => rfl

def zeroKey : VerifyingKey :=
  ⟨List.replicate 32 0, List.length_replicate⟩

theorem writable_unasked : unasked.disk.Writable ⟨.relative, ["f"]⟩ := by
  have saved : (unasked.disk.save ⟨.relative, ["f"]⟩ .null).1.isOk = true := by decide +kernel
  cases result : (unasked.disk.save ⟨.relative, ["f"]⟩ .null).1 with
  | ok _ => exact ⟨.null, result⟩
  | error e =>
    rw [result] at saved
    cases saved

end Delivery

end ProofDriver

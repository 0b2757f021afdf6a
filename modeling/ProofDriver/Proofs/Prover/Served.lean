import ProofDriver.Proofs.Prover.Errors
/-!
# Calls that are served

A call of an external prover goes through where its processes do their part: they end well, the
result line says what the call reads from it, and the file that was asked for is there.
-/

namespace ProofDriver

variable {τ : Type}

namespace Host

/-- Every process of the command ends well, and `Q` holds of how it left off. -/
def Answers (host : Host τ) (sub : Subcommand) (Q : Exit → Prop) : Prop :=
  ∀ c s, c.subcommand = sub → ∃ e s', host.start c s = (.exited e, s') ∧ e.status = 0 ∧ Q e

/-- The processes that make and check a proof come up with this key, these public values and this
proof. -/
structure Serves (host : Host τ) (vkey : VerifyingKey) (publicValues proof : Bytes) : Prop where
  keys : host.Answers .vkey fun e =>
    ∃ v, Output.result e.stdout = .ok v ∧ Output.vkey v = .ok vkey
  proves : host.Answers .prove fun e =>
    e.out = some proof ∧
      ∃ v, Output.result e.stdout = .ok v ∧ Output.proved v vkey = .ok (publicValues, vkey)
  verifies : host.Answers .verify fun _ => True

end Host

namespace Prover.External

variable {p : Prover.External} {host : Host τ} {env : Environment} {vkey : VerifyingKey}
  {publicValues proof : Bytes} {d : Desk (ExternalState τ)}

theorem resultOf_of_result {sub : Subcommand} {e : Exit} {v : Value}
    (read : Output.result e.stdout = .ok v) : resultOf sub e = .ok v := by
  rw [resultOf, read]

theorem written_of_out {category : Category} {what path : String} {e : Exit} {data : Bytes}
    (wrote : e.out = some data) : written category what path e = .ok data := by
  rw [written, wrote]

theorem run_answered {c : Command} {Q : Exit → Prop} (answers : host.Answers c.subcommand Q)
    (d : Desk (ExternalState τ)) :
    ∃ e d', (p.run host c).run d = (.ok e, d') ∧ d'.client.key = d.client.key ∧ e.status = 0 ∧
      Q e := by
  obtain ⟨e, s', start, success, left⟩ := answers c d.client.host rfl
  obtain ⟨journal, run⟩ := p.run_run host c d
  rw [start, classify_of_success success] at run
  exact ⟨e, _, run, rfl, success, left⟩

theorem setup_served (serves : host.Serves vkey publicValues proof)
    (kept : ∀ key, d.client.key = some key → key = vkey) :
    ∃ d', (p.setup host env).run d = (.ok vkey, d') := by
  unfold setup
  rw [Act.run_bind_of_ok (Act.run_get d)]
  cases known : d.client.key with
  | some key =>
    cases kept key known
    exact ⟨d, rfl⟩
  | none =>
    obtain ⟨e, d₁, ran, -, -, v, read, named⟩ :=
      run_answered (c := p.command env .vkey [] none none) serves.keys d
    refine ⟨_, Act.run_bind_eq_ok.mpr ⟨e, d₁, ran, Act.ofDriver_bind_eq_ok.mpr
      ⟨v, resultOf_of_result read, Act.ofOutcome_bind_eq_ok.mpr ⟨vkey, ?_, rfl⟩⟩⟩⟩
    rw [named]
    rfl

theorem execute_answered {report : Execution}
    (answers : host.Answers .execute fun e =>
      ∃ v, Output.result e.stdout = .ok v ∧ Output.report v = .ok report)
    (input : GuestInput) (d : Desk (ExternalState τ)) :
    ∃ d', (p.execute host env input).run d = (.ok report, d') := by
  obtain ⟨e, d₁, ran, -, -, v, read, reported⟩ :=
    run_answered (c := p.executeCommand host env input) answers d
  refine ⟨d₁, Act.run_bind_eq_ok.mpr ⟨e, d₁, ran, Act.ofDriver_bind_eq_ok.mpr
    ⟨v, resultOf_of_result read, ?_⟩⟩⟩
  rw [reported]
  rfl

theorem prove_served (serves : host.Serves vkey publicValues proof)
    (kept : ∀ key, d.client.key = some key → key = vkey) (input : GuestInput) {mode : ProofMode}
    (h : mode ≠ .plonk) :
    ∃ d', (p.prove host env input mode).run d =
      (.ok ⟨⟨mode, proof⟩, publicValues, vkey⟩, d') := by
  obtain ⟨d₁, keyed⟩ : ∃ d₁, (p.setup host env).run d = (.ok vkey, d₁) := setup_served serves kept
  obtain ⟨e, d₂, ran, -, -, out, v, read, proved⟩ :=
    run_answered (c := p.proveCommand host env input mode) serves.proves d₁
  unfold prove
  rw [if_neg h]
  refine ⟨d₂, Act.run_bind_eq_ok.mpr ⟨vkey, d₁, keyed, Act.run_bind_eq_ok.mpr ⟨e, d₂, ran,
    Act.ofDriver_bind_eq_ok.mpr ⟨v, resultOf_of_result read, Act.ofDriver_bind_eq_ok.mpr
      ⟨proof, written_of_out out, Act.ofOutcome_bind_eq_ok.mpr ⟨(publicValues, vkey), ?_, ?_⟩⟩⟩⟩⟩⟩
  · rw [proved]
    rfl
  · dsimp only
    rw [if_neg (fun other => other rfl)]
    rfl

theorem verify_served (serves : host.Serves vkey publicValues proof) (proof' : Proof)
    (publicValues' : Bytes) (vkey' : VerifyingKey) (d : Desk (ExternalState τ)) :
    ∃ d', (p.verify host env proof' publicValues' vkey').run d = (.ok true, d') := by
  obtain ⟨e, d₁, ran, -, success, -⟩ :=
    run_answered (c := p.verifyCommand host env proof' publicValues' vkey') serves.verifies d
  refine ⟨d₁, Act.run_bind_eq_ok.mpr ⟨e, d₁, ran, ?_⟩⟩
  rw [success]
  rfl

end Prover.External

end ProofDriver

import ProofDriver.Proofs.Act
import ProofDriver.Proofs.Outcome
import ProofDriver.Prover.External
/-!
# What an external prover exchanges with its host

A call of an external prover that succeeds gave certain commands and got certain ends. For each call
this module says which, and what the result has to do with what the processes left behind.
-/

namespace ProofDriver

variable {τ : Type}

abbrev Exchange := Command × Exit

/-- The host goes from one state to another while it runs the commands in turn. -/
inductive Host.Played (host : Host τ) : τ → List Exchange → τ → Prop
  | nil (s : τ) : Played host s [] s
  | cons {s s' s'' : τ} {c : Command} {e : Exit} {rest : List Exchange} :
      host.start c s = (.exited e, s') → Played host s' rest s'' →
      Played host s ((c, e) :: rest) s''

theorem Host.Played.append {host : Host τ} {s s' s'' : τ} {xs ys : List Exchange}
    (h₁ : host.Played s xs s') (h₂ : host.Played s' ys s'') : host.Played s (xs ++ ys) s'' := by
  induction h₁ with
  | nil => exact h₂
  | cons start _ ih => exact .cons start (ih h₂)

/-- Between two states of a prover just these exchanges took place. -/
structure ExternalState.Exchanged (host : Host τ) (s : ExternalState τ) (exchanges : List Exchange)
    (s' : ExternalState τ) : Prop where
  played : host.Played s.host exchanges s'.host
  commands : s'.commands = s.commands ++ exchanges.map Prod.fst

namespace ExternalState.Exchanged

variable {host : Host τ} {s s' s'' : ExternalState τ} {xs ys : List Exchange}

theorem append (h₁ : s.Exchanged host xs s') (h₂ : s'.Exchanged host ys s'') :
    s.Exchanged host (xs ++ ys) s'' := by
  refine ⟨h₁.played.append h₂.played, ?_⟩
  rw [h₂.commands, h₁.commands, List.map_append, List.append_assoc]

end ExternalState.Exchanged

namespace Prover.External

variable (p : Prover.External) (host : Host τ) (env : Environment)

theorem run_run (c : Command) (d : Desk (ExternalState τ)) :
    ∃ journal, (p.run host c).run d = (p.classify c (host.start c d.client.host).1, {
      client := { d.client with
        host := (host.start c d.client.host).2
        commands := d.client.commands ++ [c] }
      journal }) :=
  ⟨_, rfl⟩

theorem exited_of_classify {c : Command} {processEnd : ProcessEnd} {e : Exit}
    (h : p.classify c processEnd = .ok e) : processEnd = .exited e := by
  unfold classify at h
  split at h
  · cases h
  · cases h
  · cases h
  · split at h <;> cases h
  · split at h
    · cases h
    · split at h
      · cases h
      · cases h
        rfl

theorem exists_classify_timedOut (c : Command) : ∃ e, p.classify c .timedOut = .error e := by
  unfold classify
  dsimp only
  split
  · exact ⟨_, rfl⟩
  · exact ⟨_, rfl⟩

theorem ok_of_resultOf {sub : Subcommand} {e : Exit} {v : Value}
    (h : resultOf sub e = .ok v) : Output.result e.stdout = .ok v := by
  unfold resultOf at h
  split at h
  · rename_i read
    cases h
    exact read
  · cases h

theorem ok_of_reading {α : Type} {kinds : List FaultKind} {category : Category} {what : String}
    {r : Except Fault α} {a : α} (h : reading kinds category what r = .ok a) : r = .ok a := by
  unfold reading at h
  split at h
  · cases h
    rfl
  · split at h <;> cases h

theorem out_of_written {category : Category} {what path : String} {e : Exit} {data : Bytes}
    (h : written category what path e = .ok data) : e.out = some data := by
  unfold written at h
  split at h
  · rename_i wrote
    cases h
    exact wrote
  · cases h

/-! ## The commands -/

def keyCommand : Command :=
  p.command env .vkey [] none none

def executeCommand (input : GuestInput) : Command :=
  p.command env .execute ["--stdin", host.scratch ++ "/stdin.bin"] (some input.buffer) none

def proveCommand (input : GuestInput) (mode : ProofMode) : Command :=
  p.command env .prove ["--stdin", host.scratch ++ "/stdin.bin", "--mode", mode.name, "--out",
    host.scratch ++ "/proof.bin"] (some input.buffer) none

def wrapCommand (proof publicValues : Bytes) : Command :=
  p.command env .wrap ["--proof", host.scratch ++ "/compressed.bin", "--public-values",
    Hex.digits publicValues, "--out", host.scratch ++ "/plonk.bin"] none (some proof)

def verifyCommand (proof : Proof) (publicValues : Bytes) (vkey : VerifyingKey) : Command :=
  p.command env .verify ["--proof", host.scratch ++ "/proof.bin", "--public-values",
    Hex.digits publicValues, "--vkey", vkey.bytes32, "--mode", proof.mode.name] none
    (some proof.data)

/-- The exchanges that it takes to know the key: none where it was kept, else one, whose result
line names the key. -/
def Keyed (kept : Option VerifyingKey) (vkey : VerifyingKey) (exchanges : List Exchange) : Prop :=
  kept = some vkey ∧ exchanges = [] ∨
    kept = none ∧ ∃ e v, exchanges = [(p.keyCommand env, e)] ∧ Output.result e.stdout = .ok v ∧
      Output.vkey v = .ok vkey

def Printed (e : Exit) (publicValues : Bytes) : Prop :=
  ∃ v text, Output.result e.stdout = .ok v ∧ Output.field v "publicValues" = .ok text ∧
    Hex.decodeValue text = .ok publicValues

/-! ## Successful calls -/

variable {p host env} {d d' : Desk (ExternalState τ)}

theorem run_ok {c : Command} {e : Exit} (h : (p.run host c).run d = (.ok e, d')) :
    d.client.Exchanged host [(c, e)] d'.client ∧ d'.client.key = d.client.key := by
  obtain ⟨journal, run⟩ := p.run_run host c d
  rw [run] at h
  obtain ⟨ended, rfl⟩ := Prod.mk.inj h
  have exited := p.exited_of_classify ended
  have answered : host.start c d.client.host = (.exited e, (host.start c d.client.host).2) := by
    rw [← exited]
  exact ⟨⟨.cons answered (.nil _), rfl⟩, rfl⟩

theorem setup_ok {vkey : VerifyingKey} (h : (p.setup host env).run d = (.ok vkey, d')) :
    ∃ exchanges, d.client.Exchanged host exchanges d'.client ∧
      p.Keyed env d.client.key vkey exchanges ∧ d'.client.key = some vkey := by
  unfold setup at h
  rw [Act.run_bind_of_ok (Act.run_get d)] at h
  cases kept : d.client.key with
  | some key =>
    rw [kept] at h
    cases h
    exact ⟨[], ⟨.nil _, by simp⟩, .inl ⟨rfl, rfl⟩, kept⟩
  | none =>
    rw [kept] at h
    dsimp only at h
    obtain ⟨e, d₁, ran, h⟩ := Act.run_bind_eq_ok.mp h
    obtain ⟨v, read, h⟩ := Act.ofDriver_bind_eq_ok.mp h
    obtain ⟨key, named, h⟩ := Act.ofOutcome_bind_eq_ok.mp h
    obtain ⟨exchanged, -⟩ := run_ok ran
    rw [Act.run_bind_of_ok (Act.run_modify _ d₁)] at h
    cases h
    exact ⟨_, ⟨exchanged.played, exchanged.commands⟩,
      .inr ⟨rfl, e, v, rfl, ok_of_resultOf read, ok_of_reading named⟩, rfl⟩

theorem decodeValue_of_bytes {v : Value} {data : Bytes} (h : Output.bytes v = .ok data) :
    Hex.decodeValue v = .ok data := by
  unfold Output.bytes at h
  cases decoded : Hex.decodeValue v with
  | ok data' =>
    rw [decoded] at h
    cases h
    rfl
  | error f =>
    rw [decoded] at h
    cases h

theorem printed_of_proved {e : Exit} {v : Value} {expected vkey : VerifyingKey}
    {publicValues : Bytes} (read : Output.result e.stdout = .ok v)
    (proved : Output.proved v expected = .ok (publicValues, vkey)) : Printed e publicValues := by
  unfold Output.proved at proved
  obtain ⟨text, field, proved⟩ := Except.bind_eq_ok.mp proved
  obtain ⟨data, decoded, proved⟩ := Except.bind_eq_ok.mp proved
  obtain ⟨key, -, proved⟩ := Except.bind_eq_ok.mp proved
  cases proved
  exact ⟨v, text, read, field, decodeValue_of_bytes decoded⟩

/-- A successful proof is what the process wrote to its file, for the public values that it printed
and the key that is kept. -/
theorem prove_ok {input : GuestInput} {mode : ProofMode} {run : Receipt}
    (h : (p.prove host env input mode).run d = (.ok run, d')) :
    ∃ keyed e, d.client.Exchanged host (keyed ++ [(p.proveCommand host env input mode, e)])
        d'.client ∧
      p.Keyed env d.client.key run.vkey keyed ∧ e.out = some run.proof.data ∧
      Printed e run.publicValues ∧ run.proof.mode = mode ∧ d'.client.key = some run.vkey := by
  unfold prove at h
  split at h
  · cases h
  obtain ⟨vkey, d₁, keyed, h⟩ := Act.run_bind_eq_ok.mp h
  obtain ⟨e, d₂, ran, h⟩ := Act.run_bind_eq_ok.mp h
  obtain ⟨v, read, h⟩ := Act.ofDriver_bind_eq_ok.mp h
  obtain ⟨data, wrote, h⟩ := Act.ofDriver_bind_eq_ok.mp h
  obtain ⟨⟨publicValues, key⟩, proved, h⟩ := Act.ofOutcome_bind_eq_ok.mp h
  dsimp only at h
  split at h
  · cases h
  cases h
  obtain ⟨exchanges, first, known, kept⟩ := setup_ok keyed
  obtain ⟨second, same⟩ := run_ok ran
  exact ⟨exchanges, e, first.append second, known, out_of_written wrote,
    printed_of_proved (ok_of_resultOf read) (ok_of_reading proved), rfl, same.trans kept⟩

theorem wrap_ok {run wrapped : Receipt} (h : (p.wrap host env run).run d = (.ok wrapped, d')) :
    ∃ e, d.client.Exchanged host
        [(p.wrapCommand host env run.proof.data run.publicValues, e)] d'.client ∧
      e.out = some wrapped.proof.data ∧ wrapped.proof.mode = .plonk ∧
      wrapped.publicValues = run.publicValues ∧ wrapped.vkey = run.vkey ∧
      d'.client.key = d.client.key := by
  unfold wrap at h
  split at h
  · cases h
  obtain ⟨e, d₁, ran, h⟩ := Act.run_bind_eq_ok.mp h
  obtain ⟨data, wrote, h⟩ := Act.ofDriver_bind_eq_ok.mp h
  cases h
  obtain ⟨exchanged, same⟩ := run_ok ran
  exact ⟨e, exchanged, out_of_written wrote, rfl, rfl, rfl, same⟩

theorem verify_ok {proof : Proof} {publicValues : Bytes} {vkey : VerifyingKey} {answer : Bool}
    (h : (p.verify host env proof publicValues vkey).run d = (.ok answer, d')) :
    ∃ e, d.client.Exchanged host
        [(p.verifyCommand host env proof publicValues vkey, e)] d'.client ∧
      answer = (e.status == 0) ∧ d'.client.key = d.client.key := by
  unfold verify at h
  obtain ⟨e, d₁, ran, h⟩ := Act.run_bind_eq_ok.mp h
  obtain ⟨exchanged, same⟩ := run_ok ran
  -- A rejection writes a record, which is all that the two cases differ in.
  split at h <;> cases h <;> exact ⟨e, exchanged, rfl, same⟩

end Prover.External

end ProofDriver

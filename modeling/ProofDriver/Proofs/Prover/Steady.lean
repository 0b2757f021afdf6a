import ProofDriver.Proofs.Prover.External
import ProofDriver.Proofs.Prover.Mock
import ProofDriver.Proofs.World
/-!
# Steady clients

A client is steady if it settles on a key before it hands out proofs and its verdict on a proof does
not depend on its state. A client with one fixed key is steady, and so is an external prover whose
host judges proofs by the command alone: it keeps the first key that it is told.
-/

namespace ProofDriver

abbrev Verdict := Proof → Bytes → VerifyingKey → Outcome Bool

namespace Client

variable {σ : Type}

def Settled (key? : σ → Option VerifyingKey) (d d' : Desk σ) : Prop :=
  ∀ k, key? d.client = some k → key? d'.client = some k

theorem Settled.trans {key? : σ → Option VerifyingKey} {d₁ d₂ d₃ : Desk σ}
    (h₁ : Settled key? d₁ d₂) (h₂ : Settled key? d₂ d₃) : Settled key? d₁ d₃ :=
  fun k same => h₂ k (h₁ k same)

def Settles {α : Type} (key? : σ → Option VerifyingKey) (work : Act (Desk σ) α) : Prop :=
  ∀ d, work.Ends d fun _ d' => Settled key? d d'

namespace Settles

variable {α β : Type} {key? : σ → Option VerifyingKey}

theorem bind {x : Act (Desk σ) α} {f : α → Act (Desk σ) β} (hx : Settles key? x)
    (hf : ∀ a, Settles key? (f a)) : Settles key? (x >>= f) :=
  Act.Ends.bind_trans Settled.trans hx hf

theorem ofOutcome (r : Outcome α) : Settles key? (Act.ofOutcome r : Act (Desk σ) α) :=
  fun _ _ same => same

theorem log {level : Level} {source : Source} {message : String} :
    Settles key? (Desk.log level source message : Act (Desk σ) Unit) :=
  fun _ _ same => same

end Settles

/-- `key?` is the key that the client has settled on, and `verdict` how it judges proofs. -/
structure Steady (c : Client σ) (key? : σ → Option VerifyingKey) (verdict : Verdict) : Prop where
  setup : ∀ d, c.setup.Ends d fun r d' => Settled key? d d' ∧
    ∀ k, key? d.client = some k → r = .ok k
  execute : ∀ input, Settles key? (c.execute input)
  prove : ∀ input mode d, (c.prove input mode).Ends d fun r d' => Settled key? d d' ∧
    ∀ run, r = .ok run → key? d'.client = some run.vkey
  wrap : ∀ run d, (c.wrap run).Ends d fun r d' => Settled key? d d' ∧
    ∀ wrapped, key? d.client = some run.vkey → r = .ok wrapped →
      key? d'.client = some wrapped.vkey
  verify : ∀ proof publicValues vkey d, (c.verify proof publicValues vkey).Ends d fun r d' =>
    Settled key? d d' ∧ r = verdict proof publicValues vkey

/-- The client always names `k`, hands out runs for `k` only and judges proofs by `verdict`. -/
structure HasOneKey (c : Client σ) (k : VerifyingKey) (verdict : Verdict) : Prop where
  setup : ∀ d, (c.setup.run d).1 = .ok k
  prove : ∀ input mode d run, ((c.prove input mode).run d).1 = .ok run → run.vkey = k
  wrap : ∀ run d wrapped, run.vkey = k → ((c.wrap run).run d).1 = .ok wrapped → wrapped.vkey = k
  verify : ∀ proof publicValues vkey d,
    ((c.verify proof publicValues vkey).run d).1 = verdict proof publicValues vkey

theorem HasOneKey.steady {c : Client σ} {k : VerifyingKey} {verdict : Verdict}
    (h : c.HasOneKey k verdict) : c.Steady (fun _ => some k) verdict where
  setup d := ⟨fun _ same => same, fun k' same => by rw [h.setup d, ← Option.some.inj same]⟩
  execute _ _ := fun _ same => same
  prove input mode d :=
    ⟨fun _ same => same, fun run proved => by rw [h.prove input mode d run proved]⟩
  wrap run d := ⟨fun _ same => same, fun wrapped same proved =>
    by rw [h.wrap run d wrapped (Option.some.inj same).symm proved]⟩
  verify proof publicValues vkey d :=
    ⟨fun _ same => same, h.verify proof publicValues vkey d⟩

end Client

namespace Prover.Mock

theorem vkey_of_prove {p : Prover.Mock} {input : GuestInput} {mode : ProofMode} {run : Receipt}
    (h : p.prove input mode = .ok run) : run.vkey = p.vkey := by
  unfold prove at h
  obtain ⟨m, -, h⟩ := Except.bind_eq_ok.mp h
  split at h
  · cases h
  · obtain ⟨data, -, h⟩ := Except.bind_eq_ok.mp h
    cases h
    rfl

theorem vkey_of_wrap {curve : Bn254.Multiples} {run wrapped : Receipt}
    (h : wrap curve run = .ok wrapped) : wrapped.vkey = run.vkey := by
  unfold wrap at h
  dsimp only at h
  split at h
  · cases h
  · obtain ⟨accepted, -, h⟩ := Except.bind_eq_ok.mp h
    split at h
    · cases h
    · obtain ⟨data, -, h⟩ := Except.bind_eq_ok.mp h
      cases h
      rfl

theorem hasOneKey {σ : Type} (p : Prover.Mock) :
    (p.client : Client σ).HasOneKey p.vkey fun proof publicValues vkey =>
      .ok (verify proof publicValues vkey) where
  setup _ := rfl
  prove _ _ _ _ proved := vkey_of_prove proved
  wrap _ _ _ same wrapped := (vkey_of_wrap wrapped).trans same
  verify proof publicValues vkey _ := check_multiples proof publicValues vkey

end Prover.Mock

namespace Prover.External

variable {τ : Type} {p : Prover.External} {host : Host τ} {env : Environment}

open Client (Settles)

theorem settles_run (c : Command) : Settles ExternalState.key (p.run host c) := by
  intro d k same
  obtain ⟨journal, run⟩ := p.run_run host c d
  rw [run]
  exact same

theorem settles_setup : Settles ExternalState.key (p.setup host env) := by
  intro d k same
  unfold setup
  rw [Act.run_bind_of_ok (Act.run_get d), same]
  exact same

theorem setup_of_key {d : Desk (ExternalState τ)} {k : VerifyingKey}
    (same : d.client.key = some k) : (p.setup host env).run d = (.ok k, d) := by
  unfold setup
  rw [Act.run_bind_of_ok (Act.run_get d), same]
  rfl

theorem settles_prove (input : GuestInput) (mode : ProofMode) :
    Settles ExternalState.key (p.prove host env input mode) := by
  unfold prove
  split
  · exact .ofOutcome _
  refine settles_setup.bind fun vkey => (settles_run _).bind fun e =>
    (Settles.ofOutcome _).bind fun v => (Settles.ofOutcome _).bind fun data =>
    (Settles.ofOutcome _).bind fun proved => ?_
  dsimp only
  split <;> exact .ofOutcome _

theorem settles_wrap (run : Receipt) : Settles ExternalState.key (p.wrap host env run) := by
  unfold wrap
  dsimp only
  split
  · exact .ofOutcome _
  exact (settles_run _).bind fun e => (Settles.ofOutcome _).bind fun data => .ofOutcome _

theorem settles_verify (proof : Proof) (publicValues : Bytes) (vkey : VerifyingKey) :
    Settles ExternalState.key (p.verify host env proof publicValues vkey) := by
  refine (settles_run _).bind fun e => ?_
  dsimp only
  split
  · exact Settles.log.bind fun _ => .ofOutcome _
  · exact .ofOutcome _

theorem settles_execute (input : GuestInput) :
    Settles ExternalState.key (p.execute host env input) :=
  (settles_run _).bind fun _ => (Settles.ofOutcome _).bind fun _ => .ofOutcome _

theorem fst_run_verify (proof : Proof) (publicValues : Bytes) (vkey : VerifyingKey)
    (d : Desk (ExternalState τ)) :
    ((p.verify host env proof publicValues vkey).run d).1 =
      (p.classify (p.verifyCommand host env proof publicValues vkey)
        (host.start (p.verifyCommand host env proof publicValues vkey) d.client.host).1).map
          fun e => e.status == 0 := by
  obtain ⟨journal, run⟩ :=
    p.run_run host (p.verifyCommand host env proof publicValues vkey) d
  unfold verifyCommand at run ⊢
  unfold verify
  cases ended : p.classify _ (host.start _ d.client.host).1 with
  | error e =>
    rw [ended] at run
    rw [Act.run_bind_of_error run]
    rfl
  | ok e =>
    rw [ended] at run
    rw [Act.run_bind_of_ok run]
    -- A rejection writes a record, which the verdict does not show.
    split <;> rfl

/-- How the host ends a verify command, as far as the status tells, depends on the command alone. -/
def Impartial (p : Prover.External) (host : Host τ) (status : Command → Outcome Int) : Prop :=
  ∀ c s, c.subcommand = .verify → (p.classify c (host.start c s).1).map Exit.status = status c

theorem steady {status : Command → Outcome Int} (impartial : p.Impartial host status) :
    (p.client host env).Steady ExternalState.key fun proof publicValues vkey =>
      (status (p.verifyCommand host env proof publicValues vkey)).map (· == 0) where
  setup d := ⟨settles_setup d, fun k same => congrArg Prod.fst (setup_of_key same)⟩
  execute := settles_execute
  prove input mode d := by
    refine ⟨settles_prove input mode d, fun run proved => ?_⟩
    obtain ⟨_, _, -, -, -, -, -, kept⟩ := prove_ok (p := p) (Prod.ext proved rfl)
    exact kept
  wrap run d := by
    refine ⟨settles_wrap run d, fun wrapped same proved => ?_⟩
    obtain ⟨_, -, -, -, -, key, kept⟩ := wrap_ok (p := p) (Prod.ext proved rfl)
    rw [key]
    exact kept.trans same
  verify proof publicValues vkey d := by
    refine ⟨settles_verify proof publicValues vkey d, (fst_run_verify ..).trans ?_⟩
    rw [← impartial _ d.client.host rfl]
    cases p.classify _ (host.start _ d.client.host).1 <;> rfl

end Prover.External

end ProofDriver

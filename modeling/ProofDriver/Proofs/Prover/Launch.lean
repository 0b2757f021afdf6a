import ProofDriver.Proofs.Prover.Exits
/-!
# Processes that cannot be started

Each command of an external prover starts one process, and the end of the process may be a failure:
that there is no binary is one of the command's own category, any other refusal to start it is the
system's fault. Work heeds the ends of its processes if it fails with the first such failure and
gives no command after it. All calls of an external prover do, so nothing is made of a command whose
process never ran.
-/

namespace ProofDriver

variable {τ : Type}

theorem failureOf_eq_some {α : Type} {r : Outcome α} {e : Failure} :
    failureOf r = some e ↔ r = .error e := by
  cases r <;> simp [failureOf]

/-- Between two states of a prover certain commands were given. If the end of one of their processes
is a failure, it is what was raised. -/
def ExternalState.Heeded (p : Prover.External) (host : Host τ) (s : ExternalState τ)
    (raised : Option Failure) (s' : ExternalState τ) : Prop :=
  ∃ commands, s.Attempted host commands s' ∧
    ∀ c processEnd e, (c, processEnd) ∈ host.attempts s.host commands →
      p.classify c processEnd = .error e → raised = some e

namespace ExternalState.Heeded

variable {p : Prover.External} {host : Host τ} {s s' s'' : ExternalState τ}
  {raised : Option Failure}

theorem idle (unused : s'.host = s.host ∧ s'.commands = s.commands) :
    s.Heeded p host raised s' :=
  ⟨[], ⟨unused.1, unused.2.trans (List.append_nil _).symm⟩, fun _ _ _ mem => by cases mem⟩

theorem trans (h₁ : s.Heeded p host none s') (h₂ : s'.Heeded p host raised s'') :
    s.Heeded p host raised s'' := by
  obtain ⟨first, attempted, heeded⟩ := h₁
  obtain ⟨second, attempted', heeded'⟩ := h₂
  refine ⟨first ++ second, attempted.trans attempted', fun c processEnd e mem failed => ?_⟩
  rw [Host.attempts_append, List.mem_append, ← attempted.host] at mem
  rcases mem with mem | mem
  · cases heeded c processEnd e mem failed
  · exact heeded' c processEnd e mem failed

end ExternalState.Heeded

namespace Act

variable {s α β : Type}

/-- The work heeds the ends of the processes that it starts, from every state. `part` is where the
state keeps the prover's. -/
def Heeds (p : Prover.External) (host : Host τ) (part : s → ExternalState τ) (x : Act s α) : Prop :=
  ∀ state, x.Ends state fun r last => (part state).Heeded p host (failureOf r) (part last)

namespace Heeds

variable {p : Prover.External} {host : Host τ} {part : s → ExternalState τ}

theorem of_idle {x : Act s α} (unused : ∀ state, x.Ends state fun _ last =>
    (part last).host = (part state).host ∧ (part last).commands = (part state).commands) :
    x.Heeds p host part :=
  fun state => (unused state).imp fun _ _ => .idle

theorem ofOutcome (r : Outcome α) : (Act.ofOutcome r : Act s α).Heeds p host part :=
  of_idle fun _ => ⟨rfl, rfl⟩

theorem ofDriver (r : Except DriverError α) : (Act.ofDriver r : Act s α).Heeds p host part :=
  ofOutcome (DriverError.lift r)

theorem fail_bind (e : Failure) (f : α → Act s β) :
    ((Act.fail e : Act s α) >>= f).Heeds p host part :=
  of_idle fun _ => ⟨rfl, rfl⟩

theorem pure (a : α) : (Pure.pure a : Act s α).Heeds p host part :=
  ofOutcome (.ok a)

theorem get : (MonadState.get : Act s s).Heeds p host part :=
  of_idle fun _ => ⟨rfl, rfl⟩

theorem bind {x : Act s α} {f : α → Act s β} (hx : x.Heeds p host part)
    (hf : ∀ a, (f a).Heeds p host part) : (x >>= f).Heeds p host part := by
  intro state
  apply Act.Ends.bind
  case ok =>
    intro a next run
    have first : (part state).Heeded p host none (part next) := (hx state).run_eq run
    exact (hf a next).imp fun r last rest => first.trans rest
  case error =>
    intro e next run
    exact (hx state).run_eq run

end Heeds

end Act

namespace Prover.External

variable {p : Prover.External} {host : Host τ} {env : Environment} {α : Type}

/-! ## Calls -/

theorem heeds_run (c : Command) : (p.run host c).Heeds p host Desk.client := by
  intro d
  obtain ⟨journal, ran⟩ := p.run_run host c d
  refine .of_run ran ⟨[c], ⟨rfl, rfl⟩, fun c' processEnd e mem failed => ?_⟩
  simp only [Host.attempts, List.mem_singleton, Prod.mk.injEq] at mem
  obtain ⟨rfl, rfl⟩ := mem
  rw [failed]
  rfl

theorem heeds_log {level : Level} {source : Source} {message : String} :
    (Desk.log level source message : Act (Desk (ExternalState τ)) Unit).Heeds p host
      Desk.client :=
  .of_idle fun _ => ⟨rfl, rfl⟩

theorem heeds_setup : (p.setup host env).Heeds p host Desk.client := by
  refine Act.Heeds.get.bind fun d => ?_
  cases d.client.key with
  | some key => exact .pure key
  | none =>
    refine (heeds_run _).bind fun exit => (Act.Heeds.ofDriver _).bind fun v =>
      (Act.Heeds.ofOutcome _).bind fun key => ?_
    exact (Act.Heeds.of_idle fun _ => ⟨rfl, rfl⟩).bind fun _ => .pure key

theorem heeds_execute (input : GuestInput) :
    (p.execute host env input).Heeds p host Desk.client :=
  (heeds_run _).bind fun _ => (Act.Heeds.ofDriver _).bind fun _ => .ofOutcome _

theorem heeds_prove (input : GuestInput) (mode : ProofMode) :
    (p.prove host env input mode).Heeds p host Desk.client := by
  unfold prove
  split
  · exact .fail_bind _ _
  · refine heeds_setup.bind fun vkey => (heeds_run _).bind fun exit =>
      (Act.Heeds.ofDriver _).bind fun v => (Act.Heeds.ofDriver _).bind fun data =>
      (Act.Heeds.ofOutcome _).bind fun ⟨publicValues, key⟩ => ?_
    dsimp only
    split
    · exact .fail_bind _ _
    · exact .pure _

theorem heeds_wrap (run : Receipt) : (p.wrap host env run).Heeds p host Desk.client := by
  unfold wrap
  split
  · exact .fail_bind _ _
  · exact (heeds_run _).bind fun _ => (Act.Heeds.ofDriver _).bind fun _ => .pure _

theorem heeds_verify (proof : Proof) (publicValues : Bytes) (vkey : VerifyingKey) :
    (p.verify host env proof publicValues vkey).Heeds p host Desk.client := by
  refine (heeds_run _).bind fun exit => ?_
  dsimp only
  split
  · exact heeds_log.bind fun _ => .pure _
  · exact .pure _

theorem heeded_serve (p : Prover.External) (host : Host τ) (env : Environment) (call : Call)
    (d : Desk (ExternalState τ)) :
    d.client.Heeded p host ((p.client host env).serve call d).1.raised?
      ((p.client host env).serve call d).2.client := by
  cases call with
  | setup => exact heeds_setup d
  | execute input => exact heeds_execute input d
  | prove input mode => exact heeds_prove input mode d
  | wrap run => exact heeds_wrap run d
  | verify proof publicValues vkey => exact heeds_verify proof publicValues vkey d

/-! ## What becomes of a process that was not started -/

def absent (p : Prover.External) (c : Command) : DriverError :=
  c.subcommand.failure.error ("prover binary not found at " ++ p.proverPath.render)

end Prover.External

namespace ExternalState

/-- What was raised tells of the processes that were not started: of a missing binary in the category
of the command, of any other refusal as a fault of the system. -/
structure ToldOfStarts (p : Prover.External) (host : Host τ) (s : ExternalState τ)
    (commands : List Command) (raised : Option Failure) : Prop where
  missing : ∀ c, (c, .missing) ∈ host.attempts s.host commands →
    raised = some (.driver (p.absent c))
  refused : ∀ c why there, (c, .refused why there) ∈ host.attempts s.host commands →
    raised = some (.fault (.system why))

theorem Heeded.toldOfStarts {p : Prover.External} {host : Host τ} {s s' : ExternalState τ}
    {raised : Option Failure} (heeded : s.Heeded p host raised s') :
    ∃ commands, s.Attempted host commands s' ∧ s.ToldOfStarts p host commands raised := by
  obtain ⟨commands, attempted, heeded⟩ := heeded
  exact ⟨commands, attempted, fun c mem => heeded c _ _ mem rfl,
    fun c why there mem => heeded c _ _ mem rfl⟩

end ExternalState

end ProofDriver

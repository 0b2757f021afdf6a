import ProofDriver.Proofs.Prover.KeyCache
/-!
# What becomes of a call when a process ends

A process that ran out of time or memory makes its call fail with an error of exhaustion, and nothing
else does, if the time that it was granted can be named. Of any other exit the status decides: a
verifier's is its verdict, every other command fails with an error of its own unless it is zero. What
a process that failed printed or wrote is not looked at, so it may as well be gone
(`Host.forgetful`). A process that was lost has no end to tell of: why it was lost is passed on.
-/

namespace ProofDriver

variable {τ : Type}

def Exit.withoutResult (e : Exit) : Exit :=
  if e.status = 0 then e else { e with stdout := "", out := none }

namespace ProcessEnd

/-- The process ran out of time, or was killed for its use of memory. -/
def Starved : ProcessEnd → Prop
  | .timedOut => True
  | .exited e => e.status = -9 ∨ e.status = 137
  | .missing | .refused .. | .lost _ => False

def withoutResult : ProcessEnd → ProcessEnd
  | .exited e => .exited e.withoutResult
  | processEnd => processEnd

theorem starved_exited {e : Exit} : (exited e).Starved ↔ e.status ∈ killedStatuses := by
  simp [Starved, killedStatuses]

end ProcessEnd

/-- A host that loses the results of the processes that fail. -/
def Host.forgetful (host : Host τ) : Host τ where
  scratch := host.scratch
  start c s := ((host.start c s).1.withoutResult, (host.start c s).2)

@[simp] theorem Host.scratch_forgetful (host : Host τ) : host.forgetful.scratch = host.scratch :=
  rfl

def failureOf {α : Type} : Outcome α → Option Failure
  | .ok _ => none
  | .error e => some e

namespace Event

def raised? : Event → Option Failure
  | setup r => failureOf r
  | execute _ r => failureOf r
  | prove _ _ r => failureOf r
  | wrap _ r => failureOf r
  | verify _ _ _ r => failureOf r

def verdict? : Event → Option Bool
  | verify _ _ _ (.ok verdict) => some verdict
  | _ => none

theorem exists_verify {event : Event} {before after : Bool}
    (mem : .verify ∈ event.subcommands before after) :
    ∃ proof publicValues vkey r, event = .verify proof publicValues vkey r := by
  cases event with
  | verify proof publicValues vkey r => exact ⟨proof, publicValues, vkey, r, rfl⟩
  | setup _ => cases before <;> simp [subcommands] at mem
  | execute _ _ => simp [subcommands] at mem
  | prove _ mode _ => cases mode <;> cases before <;> cases after <;> simp [subcommands] at mem
  | wrap run _ => by_cases h : run.proof.mode = .compressed <;> simp [subcommands, h] at mem

end Event

namespace Prover.External

variable {p : Prover.External} {c : Command} {processEnd : ProcessEnd} {e : Exit}

def failed (c : Command) (e : Exit) : DriverError :=
  c.subcommand.failure.error
    ("prover " ++ c.subcommand.name ++ " exited with status " ++ toString e.status ++ ": " ++
      Output.excerpt e.stderr)

/-! ## A single end -/

theorem failure_ne_exhausted (sub : Subcommand) : sub.failure ≠ .exhausted := by
  cases sub <;> decide

theorem not_exhausted {error : Failure} {category : Category} (within : error.Within [category])
    (other : category ≠ .exhausted) : ¬ error.Within [.exhausted] := by
  rintro ⟨d, rfl, mem⟩
  obtain ⟨d', same, mem'⟩ := within
  cases same
  exact other ((List.mem_singleton.mp mem').symm.trans (List.mem_singleton.mp mem))

theorem classify_of_starved (named : p.namesLimit = true) (starved : processEnd.Starved) :
    ∃ text, p.classify c processEnd =
      .error (.driver ⟨.exhausted, c.subcommand.failure.stage, text⟩) := by
  cases processEnd with
  | missing | refused _ _ | lost _ => exact starved.elim
  | timedOut => exact ⟨_, if_pos named⟩
  | exited e => exact ⟨_, if_pos (ProcessEnd.starved_exited.mp starved)⟩

theorem classify_of_failed (spared : ¬ (ProcessEnd.exited e).Starved) (checked : c.checked = true)
    (status : e.status ≠ 0) : p.classify c (.exited e) = .error (.driver (failed c e)) := by
  rw [ProcessEnd.starved_exited] at spared
  simp only [classify, if_neg spared, if_pos (And.intro checked status), failed]

theorem classify_of_unchecked (spared : ¬ (ProcessEnd.exited e).Starved)
    (unchecked : c.checked = false) : p.classify c (.exited e) = .ok e := by
  rw [ProcessEnd.starved_exited] at spared
  simp [classify, spared, unchecked]

theorem not_exhausted_of_classify {error : Failure} (spared : ¬ processEnd.Starved)
    (h : p.classify c processEnd = .error error) : ¬ error.Within [.exhausted] := by
  have own (text : String) :
      ¬ (Failure.driver (c.subcommand.failure.error text)).Within [.exhausted] :=
    not_exhausted (Category.within_error _ text) (failure_ne_exhausted _)
  cases processEnd with
  | missing =>
    cases h
    exact own _
  | refused why _ | lost why =>
    cases h
    rintro ⟨d, absurd, -⟩
    cases absurd
  | timedOut => exact absurd trivial spared
  | exited e =>
    unfold classify at h
    dsimp only at h
    rw [if_neg (mt ProcessEnd.starved_exited.mpr spared)] at h
    split at h <;> cases h
    exact own _

theorem classify_withoutResult (processEnd : ProcessEnd) :
    p.classify c processEnd.withoutResult =
      (p.classify c processEnd).map Exit.withoutResult := by
  cases processEnd with
  | missing | refused _ _ | lost _ => rfl
  | timedOut =>
    obtain ⟨e, failed⟩ := p.exists_classify_timedOut c
    change p.classify c .timedOut = (p.classify c .timedOut).map _
    rw [failed]
    rfl
  | exited e =>
    by_cases success : e.status = 0
    · simp [ProcessEnd.withoutResult, Exit.withoutResult, classify_of_success success, success,
        Except.map]
    · simp only [ProcessEnd.withoutResult, Exit.withoutResult, if_neg success, classify]
      split
      · rfl
      · split
        · rfl
        · simp [Except.map, Exit.withoutResult, success]

theorem success_of_classify (checked : c.checked = true) (h : p.classify c processEnd = .ok e) :
    e.status = 0 := by
  have exited := p.exited_of_classify h
  subst exited
  by_contra status
  unfold classify at h
  dsimp only at h
  rw [if_pos (And.intro checked status)] at h
  split at h <;> cases h

/-! ## What is done with an exit -/

variable {α β : Type} {category : Category}

theorem not_exhausted_of_resultOf {sub : Subcommand} {d : DriverError}
    (h : resultOf sub e = .error d) : ¬ (Failure.driver d).Within [.exhausted] :=
  not_exhausted (within_of_resultOf h) (failure_ne_exhausted sub)

theorem not_exhausted_of_written {what path : String} {d : DriverError}
    (h : written category what path e = .error d) (other : category ≠ .exhausted) :
    ¬ (Failure.driver d).Within [.exhausted] :=
  not_exhausted (within_of_written h) other

theorem not_exhausted_of_reading {kinds : List FaultKind} {what : String} {r : Except Fault α}
    {error : Failure} (h : reading kinds category what r = .error error)
    (other : category ≠ .exhausted) : ¬ error.Within [.exhausted] := by
  unfold reading at h
  split at h
  · cases h
  · split at h <;> cases h
    · exact not_exhausted (Category.within_error _ _) other
    · rintro ⟨d, absurd, -⟩
      cases absurd

def Modest (x : Act (Desk (ExternalState τ)) α) : Prop :=
  ∀ d, x.Ends d fun r d' =>
    (d'.client.host = d.client.host ∧ d'.client.commands = d.client.commands) ∧
      ∀ error, failureOf r = some error → ¬ error.Within [.exhausted]

namespace Modest

theorem ofOutcome {r : Outcome α} (h : ∀ error, r = .error error → ¬ error.Within [.exhausted]) :
    Modest (Act.ofOutcome r : Act (Desk (ExternalState τ)) α) := by
  refine fun d => ⟨⟨rfl, rfl⟩, fun error failed => h error ?_⟩
  cases r with
  | ok a => cases failed
  | error e' =>
    cases failed
    rfl

theorem ofDriver {r : Except DriverError α}
    (h : ∀ d, r = .error d → ¬ (Failure.driver d).Within [.exhausted]) :
    Modest (Act.ofDriver r : Act (Desk (ExternalState τ)) α) := by
  refine ofOutcome fun error failed => ?_
  cases r with
  | ok a => cases failed
  | error d =>
    cases failed
    exact h d rfl

theorem pure (a : α) : Modest (Pure.pure a : Act (Desk (ExternalState τ)) α) :=
  fun _ => ⟨⟨rfl, rfl⟩, fun _ failed => by cases failed⟩

theorem log {level : Level} {source : Source} {message : String} :
    Modest (Desk.log level source message : Act (Desk (ExternalState τ)) Unit) :=
  fun _ => ⟨⟨rfl, rfl⟩, fun _ failed => by cases failed⟩

theorem bind {x : Act (Desk (ExternalState τ)) α} {f : α → Act (Desk (ExternalState τ)) β}
    (hx : Modest x) (hf : ∀ a, Modest (f a)) : Modest (x >>= f) := by
  intro d
  apply Act.Ends.bind
  case ok =>
    intro a d₁ run
    obtain ⟨⟨host, commands⟩, -⟩ := (hx d).run_eq run
    exact (hf a d₁).imp fun r d' ⟨⟨host', commands'⟩, spared⟩ =>
      ⟨⟨host'.trans host, commands'.trans commands⟩, spared⟩
  case error =>
    intro error d₁ run
    exact (hx d).run_eq run

end Modest

end Prover.External

/-- Between two states of a prover these commands were given, and how their processes ended decided
what was raised. -/
structure ExternalState.Decided (p : Prover.External) (host : Host τ) (s : ExternalState τ)
    (commands : List Command) (raised : Option Failure) (s' : ExternalState τ) : Prop where
  attempted : s.Attempted host commands s'
  checked : ∀ c ∈ commands, c.checked = (c.subcommand != .verify)
  heeded : ∀ c processEnd error, (c, processEnd) ∈ host.attempts s.host commands →
    p.classify c processEnd = .error error → raised = some error
  spared : (∀ a ∈ host.attempts s.host commands, ¬ a.2.Starved) →
    ∀ error, raised = some error → ¬ error.Within [.exhausted]

namespace ExternalState.Decided

variable {p : Prover.External} {host : Host τ} {s s' s'' : ExternalState τ} {xs ys : List Command}
  {raised : Option Failure}

theorem idle (spared : ∀ error, raised = some error → ¬ error.Within [.exhausted]) :
    s.Decided p host [] raised s :=
  ⟨⟨rfl, by simp⟩, (by simp), (by simp [Host.attempts]), fun _ => spared⟩

theorem trans (h₁ : s.Decided p host xs none s') (h₂ : s'.Decided p host ys raised s'') :
    s.Decided p host (xs ++ ys) raised s'' := by
  have both : host.attempts s.host (xs ++ ys) =
      host.attempts s.host xs ++ host.attempts s'.host ys := by
    rw [Host.attempts_append, h₁.attempted.host]
  refine ⟨h₁.attempted.trans h₂.attempted,
    List.forall_mem_append.mpr ⟨h₁.checked, h₂.checked⟩, ?_, fun none => ?_⟩
  · intro c processEnd error mem failed
    rw [both, List.mem_append] at mem
    rcases mem with mem | mem
    · cases h₁.heeded c processEnd error mem failed
    · exact h₂.heeded c processEnd error mem failed
  · rw [both] at none
    exact h₂.spared fun a mem => none a (List.mem_append_right _ mem)

theorem single {c : Command} (checked : c.checked = (c.subcommand != .verify))
    (attempted : s.Attempted host [c] s')
    (raises : ∀ error, p.classify c (host.start c s.host).1 = .error error → raised = some error)
    (goesOn : ∀ e, p.classify c (host.start c s.host).1 = .ok e →
      ∀ error, raised = some error → ¬ error.Within [.exhausted]) :
    s.Decided p host [c] raised s' := by
  refine ⟨attempted, fun _ mem => ?_, fun c' processEnd error mem failed => ?_, fun none => ?_⟩
  · rw [List.mem_singleton.mp mem, checked]
  · simp only [Host.attempts, List.mem_singleton, Prod.mk.injEq] at mem
    obtain ⟨rfl, rfl⟩ := mem
    exact raises error failed
  · have spared : ¬ (host.start c s.host).1.Starved := none (c, _) (by simp [Host.attempts])
    cases classified : p.classify c (host.start c s.host).1 with
    | ok e => exact goesOn e classified
    | error error =>
      rw [raises error classified]
      rintro _ ⟨⟩
      exact Prover.External.not_exhausted_of_classify spared classified

variable {c : Command} {processEnd : ProcessEnd} {commands : List Command}

theorem raised_of_starved (decided : s.Decided p host commands raised s')
    (named : p.namesLimit = true) (mem : (c, processEnd) ∈ host.attempts s.host commands)
    (starved : processEnd.Starved) :
    ∃ text, raised = some (.driver ⟨.exhausted, c.subcommand.failure.stage, text⟩) := by
  obtain ⟨text, classified⟩ := Prover.External.classify_of_starved (p := p) (c := c) named starved
  exact ⟨text, decided.heeded c processEnd _ mem classified⟩

theorem raised_of_failed (decided : s.Decided p host commands raised s') {e : Exit}
    (mem : (c, .exited e) ∈ host.attempts s.host commands)
    (spared : ¬ (ProcessEnd.exited e).Starved) (other : c.subcommand ≠ .verify)
    (status : e.status ≠ 0) : raised = some (.driver (Prover.External.failed c e)) := by
  have given : c ∈ commands := by
    rw [← host.map_fst_attempts s.host commands]
    exact List.mem_map_of_mem mem
  have checked : c.checked = true := by simp [decided.checked c given, other]
  exact decided.heeded c _ _ mem (Prover.External.classify_of_failed spared checked status)

end ExternalState.Decided

namespace Prover.External

variable {p : Prover.External} {host : Host τ} {env : Environment} {α : Type}

/-! ## Calls -/

theorem run_bind_decided {c : Command} {f : Exit → Act (Desk (ExternalState τ)) α}
    (checked : c.checked = (c.subcommand != .verify)) (modest : ∀ e, Modest (f e))
    (d : Desk (ExternalState τ)) :
    (p.run host c >>= f).Ends d fun r d' =>
      d.client.Decided p host [c] (failureOf r) d'.client := by
  obtain ⟨journal, ran⟩ := p.run_run host c d
  cases classified : p.classify c (host.start c d.client.host).1 with
  | error error =>
    rw [classified] at ran
    refine .bind_error ran (.single checked ⟨rfl, rfl⟩ ?_ ?_)
    · rintro _ same
      cases classified.symm.trans same
      rfl
    · rintro e same
      cases classified.symm.trans same
  | ok e =>
    rw [classified] at ran
    refine .bind_ok ran ((modest e _).imp fun r d' ⟨⟨host', commands'⟩, spared⟩ =>
      .single checked ⟨host', commands'⟩ ?_ fun _ _ => spared)
    rintro error same
    cases classified.symm.trans same

theorem setup_decided (d : Desk (ExternalState τ)) :
    (p.setup host env).Ends d fun r d' =>
      ∃ commands, d.client.Decided p host commands (failureOf r) d'.client := by
  unfold setup
  refine .bind_ok (Act.run_get d) ?_
  cases d.client.key with
  | some key => exact ⟨[], .idle fun _ failed => by cases failed⟩
  | none =>
    refine (run_bind_decided (by rfl) (fun e => ?_) d).imp fun r d' decided => ⟨_, decided⟩
    refine .bind (.ofDriver fun _ => not_exhausted_of_resultOf) fun v => ?_
    refine .bind (.ofOutcome fun _ h => not_exhausted_of_reading h (by decide)) fun key => ?_
    refine .bind ?_ fun _ => .pure key
    exact fun _ => ⟨⟨rfl, rfl⟩, fun _ failed => by cases failed⟩

theorem execute_decided (input : GuestInput) (d : Desk (ExternalState τ)) :
    (p.execute host env input).Ends d fun r d' =>
      ∃ commands, d.client.Decided p host commands (failureOf r) d'.client := by
  refine (run_bind_decided (by rfl) (fun e => ?_) d).imp fun r d' decided => ⟨_, decided⟩
  refine .bind (.ofDriver fun _ => not_exhausted_of_resultOf) fun v => ?_
  exact .ofOutcome fun _ h => not_exhausted_of_reading h (by decide)

theorem prove_decided (input : GuestInput) (mode : ProofMode) (d : Desk (ExternalState τ)) :
    (p.prove host env input mode).Ends d fun r d' =>
      ∃ commands, d.client.Decided p host commands (failureOf r) d'.client := by
  unfold prove
  split
  · refine .bind_error (Act.run_fail _ d) ⟨[], .idle ?_⟩
    rintro _ ⟨⟩
    exact not_exhausted (Category.within_error _ _) (by decide)
  apply Act.Ends.bind
  case error =>
    intro error d₁ run
    exact (setup_decided d).run_eq run
  case ok =>
    -- With the key at hand, which may have taken a process of its own, the proof is asked for.
    intro vkey d₁ keyed
    obtain ⟨first, decided⟩ := (setup_decided d).run_eq keyed
    refine (run_bind_decided (by rfl) (fun e => ?_) d₁).imp fun r d' second =>
      ⟨_, decided.trans second⟩
    refine .bind (.ofDriver fun _ => not_exhausted_of_resultOf) fun v => ?_
    refine .bind (.ofDriver fun _ h => not_exhausted_of_written h (by decide)) fun data => ?_
    refine .bind (.ofOutcome fun _ h => not_exhausted_of_reading h (by decide))
      fun ⟨publicValues, key⟩ => ?_
    dsimp only
    split
    · refine .bind (.ofOutcome ?_) fun _ => .pure _
      rintro _ ⟨⟩
      exact not_exhausted (Category.within_error _ _) (by decide)
    · exact .pure _

theorem wrap_decided (run : Receipt) (d : Desk (ExternalState τ)) :
    (p.wrap host env run).Ends d fun r d' =>
      ∃ commands, d.client.Decided p host commands (failureOf r) d'.client := by
  unfold wrap
  split
  · refine .bind_error (Act.run_fail _ d) ⟨[], .idle ?_⟩
    rintro _ ⟨⟩
    exact not_exhausted (Category.within_error _ _) (by decide)
  refine (run_bind_decided (by rfl) (fun e => ?_) d).imp fun r d' decided => ⟨_, decided⟩
  exact .bind (.ofDriver fun _ h => not_exhausted_of_written h (by decide)) fun data => .pure _

theorem verify_decided (proof : Proof) (publicValues : Bytes) (vkey : VerifyingKey)
    (d : Desk (ExternalState τ)) :
    (p.verify host env proof publicValues vkey).Ends d fun r d' =>
      d.client.Decided p host [p.verifyCommand host env proof publicValues vkey] (failureOf r)
        d'.client := by
  refine run_bind_decided (by rfl) (fun e => ?_) d
  dsimp only
  split
  · exact .bind .log fun _ => .pure _
  · exact .pure _

theorem verify_of_spared (proof : Proof) (publicValues : Bytes) (vkey : VerifyingKey)
    {d : Desk (ExternalState τ)} {e : Exit}
    (exited : (host.start (p.verifyCommand host env proof publicValues vkey) d.client.host).1 =
      .exited e)
    (spared : ¬ (ProcessEnd.exited e).Starved) :
    ((p.verify host env proof publicValues vkey).run d).1 = .ok (e.status == 0) := by
  obtain ⟨journal, ran⟩ := p.run_run host (p.verifyCommand host env proof publicValues vkey) d
  rw [exited, classify_of_unchecked spared rfl] at ran
  have goesOn := Act.run_bind_of_ok ran fun exit => (do
    if exit.status ≠ 0 then
      Desk.log .debug .external ("verifier rejected proof: " ++ Output.excerpt exit.stderr)
    pure (exit.status == 0))
  refine (congrArg Prod.fst goesOn).trans ?_
  split <;> rfl

theorem verdict_of_spared {call : Call} {d : Desk (ExternalState τ)} {commands : List Command}
    {c : Command} {e : Exit}
    (attempted : d.client.Attempted host commands ((p.client host env).serve call d).2.client)
    (mem : (c, .exited e) ∈ host.attempts d.client.host commands)
    (spared : ¬ (ProcessEnd.exited e).Starved) (verifies : c.subcommand = .verify) :
    ((p.client host env).serve call d).1.raised? = none ∧
      ((p.client host env).serve call d).1.verdict? = some (e.status == 0) := by
  obtain ⟨commands', visited⟩ := visited_serve p host env call d
  obtain rfl : commands' = commands :=
    List.append_cancel_left (visited.attempted.commands.symm.trans attempted.commands)
  have given : .verify ∈ commands'.map Command.subcommand := by
    rw [← map_attempts host d.client.host]
    exact List.mem_map.mpr ⟨_, mem, verifies⟩
  rw [visited.subcommands] at given
  obtain ⟨proof, publicValues, vkey, r, event⟩ := Event.exists_verify given
  obtain rfl : call = .verify proof publicValues vkey := by
    rw [← Client.call_serve (p.client host env) call d, event]
    rfl
  have decided : (p.verify host env proof publicValues vkey).Ends d fun r d' =>
      d.client.Decided p host [p.verifyCommand host env proof publicValues vkey] (failureOf r)
        d'.client := verify_decided proof publicValues vkey d
  obtain rfl : commands' = [p.verifyCommand host env proof publicValues vkey] :=
    List.append_cancel_left (attempted.commands.symm.trans decided.attempted.commands)
  simp only [Host.attempts, List.mem_singleton, Prod.mk.injEq] at mem
  have answer : ((p.verify host env proof publicValues vkey).run d).1 = .ok (e.status == 0) :=
    verify_of_spared proof publicValues vkey mem.2.symm spared
  have same : ((p.client host env).serve (.verify proof publicValues vkey) d).1 =
      .verify proof publicValues vkey (.ok (e.status == 0)) := congrArg _ answer
  rw [same]
  exact ⟨rfl, rfl⟩

theorem serve_decided (p : Prover.External) (host : Host τ) (env : Environment) (call : Call)
    (d : Desk (ExternalState τ)) :
    ∃ commands, d.client.Decided p host commands ((p.client host env).serve call d).1.raised?
      ((p.client host env).serve call d).2.client := by
  cases call with
  | setup => exact setup_decided d
  | execute input => exact execute_decided input d
  | prove input mode => exact prove_decided input mode d
  | wrap run => exact wrap_decided run d
  | verify proof publicValues vkey => exact ⟨_, verify_decided proof publicValues vkey d⟩

/-! ## Results that are lost -/

theorem run_forgetful (p : Prover.External) (host : Host τ) (c : Command) :
    p.run host.forgetful c = Exit.withoutResult <$> p.run host c := by
  funext d
  refine Eq.trans ?_ (Act.run_map Exit.withoutResult (p.run host c) d).symm
  exact Prod.ext (classify_withoutResult (host.start c d.client.host).1) rfl

theorem run_forgetful_of_ne (p : Prover.External) (host : Host τ) (env : Environment)
    {sub : Subcommand} (other : sub ≠ .verify) (arguments : List String)
    (stdin proof : Option Bytes) :
    p.run host.forgetful (p.command env sub arguments stdin proof) =
      p.run host (p.command env sub arguments stdin proof) := by
  have checked : (p.command env sub arguments stdin proof).checked = true := by
    simp [command, other]
  rw [run_forgetful]
  funext d
  refine (Act.run_map _ _ d).trans (Prod.ext ?_ rfl)
  dsimp only
  cases classified : ((p.run host (p.command env sub arguments stdin proof)).run d).1 with
  | error error => exact classified.symm
  | ok e =>
    have success : e.status = 0 := success_of_classify checked classified
    rw [Except.map, Exit.withoutResult, if_pos success]
    exact classified.symm

theorem verify_forgetful (p : Prover.External) (host : Host τ) (env : Environment) (proof : Proof)
    (publicValues : Bytes) (vkey : VerifyingKey) :
    p.verify host.forgetful env proof publicValues vkey =
      p.verify host env proof publicValues vkey := by
  simp only [External.verify, Host.scratch_forgetful, run_forgetful, bind_map_left]
  refine congrArg _ (funext fun e => ?_)
  unfold Exit.withoutResult
  split <;> rfl

theorem client_forgetful (p : Prover.External) (host : Host τ) (env : Environment) :
    p.client host.forgetful env = p.client host env := by
  have setup : p.setup host.forgetful env = p.setup host env := by
    simp only [External.setup,
      run_forgetful_of_ne p host env (by decide : Subcommand.vkey ≠ .verify)]
  have execute (input : GuestInput) :
      p.execute host.forgetful env input = p.execute host env input := by
    simp only [External.execute, Host.scratch_forgetful,
      run_forgetful_of_ne p host env (by decide : Subcommand.execute ≠ .verify)]
  have prove (input : GuestInput) (mode : ProofMode) :
      p.prove host.forgetful env input mode = p.prove host env input mode := by
    simp only [External.prove, Host.scratch_forgetful, setup,
      run_forgetful_of_ne p host env (by decide : Subcommand.prove ≠ .verify)]
  have wrap (run : Receipt) : p.wrap host.forgetful env run = p.wrap host env run := by
    simp only [External.wrap, Host.scratch_forgetful,
      run_forgetful_of_ne p host env (by decide : Subcommand.wrap ≠ .verify)]
  have verify := verify_forgetful p host env
  simp only [client, setup, funext execute, funext₂ prove, funext wrap, funext₃ verify]

/-! ## What the ends of processes come to -/

/-- The calls of an external prover, whatever its processes do and whatever time it grants them, if it
can be named.
1. A call gives the commands that it takes, and is told the ends of their processes.
2. It fails with an error of exhaustion if and only if one of these processes was starved, and then at
   the stage of its command.
3. Of another exit of a verifier the status is the verdict.
4. Another exit with a status other than zero is an error of its command's own category.
5. Why a process was lost is raised as it is.
6. What a process that failed printed or wrote makes no difference. -/
theorem ends_decide_calls (p : Prover.External) (host : Host τ) (env : Environment) (call : Call)
    (d : Desk (ExternalState τ)) (named : p.namesLimit = true) :
    let event := ((p.client host env).serve call d).1
    let after := ((p.client host env).serve call d).2.client
    (∃ commands, d.client.Attempted host commands after ∧
      commands.map Command.subcommand = event.subcommands d.client.key.isSome after.key.isSome ∧
      ((∃ error, event.raised? = some error ∧ error.Within [.exhausted]) ↔
        ∃ a ∈ host.attempts d.client.host commands, a.2.Starved) ∧
      ∀ c processEnd, (c, processEnd) ∈ host.attempts d.client.host commands →
        (processEnd.Starved →
          ∃ text, event.raised? = some (.driver ⟨.exhausted, c.subcommand.failure.stage, text⟩)) ∧
        (∀ e, processEnd = .exited e → ¬ processEnd.Starved →
          (c.subcommand = .verify →
            event.raised? = none ∧ event.verdict? = some (e.status == 0)) ∧
          (c.subcommand ≠ .verify → e.status ≠ 0 →
            event.raised? = some (.driver (failed c e)))) ∧
        ∀ why, processEnd = .lost why → event.raised? = some (.fault why)) ∧
    p.client host.forgetful env = p.client host env := by
  intro event after
  refine ⟨?_, client_forgetful p host env⟩
  obtain ⟨commands, decided⟩ := serve_decided p host env call d
  obtain ⟨commands', visited⟩ := visited_serve p host env call d
  -- Both tell of the commands that were noted, so they are the same.
  obtain rfl : commands' = commands :=
    List.append_cancel_left (visited.attempted.commands.symm.trans decided.attempted.commands)
  refine ⟨commands', decided.attempted, visited.subcommands, ⟨?_, ?_⟩, ?_⟩
  · rintro ⟨error, raised, exhausted⟩
    by_contra none
    push Not at none
    exact decided.spared none error raised exhausted
  · rintro ⟨⟨c, processEnd⟩, mem, starved⟩
    obtain ⟨text, raised⟩ := decided.raised_of_starved named mem starved
    exact ⟨_, raised, _, rfl, by simp⟩
  · intro c processEnd mem
    refine ⟨decided.raised_of_starved named mem, fun e exited spared => ?_, fun why lost => ?_⟩
    · subst exited
      exact ⟨verdict_of_spared decided.attempted mem spared,
        decided.raised_of_failed mem spared⟩
    · subst lost
      exact decided.heeded c _ _ mem rfl

/-- A system whose processes take all the time that they are granted. It waits for a whole number of
milliseconds, and an endless time has no such number. -/
def clock : Host Unit where
  scratch := "t"
  start c s :=
    match c.timeout with
    | none => (.exited {}, s)
    | some (.real (.infinite _)) => (.lost .infinityToInteger, s)
    | some (.real .nan) => (.lost .nanToInteger, s)
    | some _ => (.timedOut, s)

def granting (timeout : Option Number) : Prover.External :=
  ⟨⟨.relative, ["p"]⟩, ⟨.relative, ["e"]⟩, false, timeout⟩

theorem exists_starved_call :
    let p := granting (some (.int 5))
    p.namesLimit = true ∧ ∃ text, ((p.client clock []).serve .setup ⟨{ host := () }, []⟩).1.raised? =
      some (.driver ⟨.exhausted, "prove", text⟩) := by
  intro p
  have named : p.namesLimit = true := by decide +kernel
  obtain ⟨⟨commands, attempted, -, -, ends⟩, -⟩ :=
    ends_decide_calls p clock [] .setup ⟨{ host := () }, []⟩ named
  have asked : [p.keyCommand []] = commands := attempted.commands
  have starved : (p.keyCommand [], .timedOut) ∈ clock.attempts () commands := by
    rw [← asked]
    exact List.mem_singleton_self _
  exact ⟨named, (ends _ _ starved).1 trivial⟩

/-- A process that is granted an endless time makes the call that started it fail with a fault that is
no error of the driver. -/
theorem exists_call_of_endless_time :
    let p := granting (some (.real (.infinite false)))
    let call := Call.verify ⟨.core, []⟩ [] ⟨List.replicate 32 0, rfl⟩
    let event := ((p.client clock []).serve call ⟨{ host := () }, []⟩).1
    event.raised? = some (.fault .infinityToInteger) ∧ event.verdict? = none ∧
      ¬ ∃ error, event.raised? = some error ∧ error.Within [.exhausted] := by
  intro p call event
  have raised : event.raised? = some (.fault .infinityToInteger) := rfl
  refine ⟨raised, rfl, ?_⟩
  rintro ⟨_, same, _, driver, -⟩
  cases raised.symm.trans same
  cases driver

example : [Subcommand.vkey, .execute, .prove, .wrap, .verify].map (·.failure.stage) =
    ["prove", "execute", "prove", "wrap", "verify"] := rfl

end Prover.External

end ProofDriver

import ProofDriver.Proofs.Prover.Errors
import ProofDriver.Proofs.Prover.Steady
import ProofDriver.Proofs.Prover.Trace
/-!
# A key that is asked for until it is known

Whatever the processes of an external prover answer from call to call, the prover asks for its key
until a process names one, and from then on it keeps this key and never asks again. `Visited` says
which commands a single call gives and what becomes of the key; a session is a sequence of calls, and
`Visit.Frugal` says the same in terms of what came before in the session.
-/

namespace ProofDriver

variable {σ τ : Type}

abbrev Attempt := Command × ProcessEnd

def namedKey? : Attempt → Option VerifyingKey
  | (c, .exited e) =>
    if c.subcommand = .vkey ∧ e.status = 0 then (Output.result e.stdout >>= Output.vkey).toOption
    else none
  | _ => none

def firstKey? (attempts : List Attempt) : Option VerifyingKey :=
  attempts.findSome? namedKey?

theorem firstKey?_append (xs ys : List Attempt) :
    firstKey? (xs ++ ys) = (firstKey? xs).or (firstKey? ys) :=
  List.findSome?_append

namespace Event

def subcommands (before after : Bool) : Event → List Subcommand
  | setup _ => if before then [] else [.vkey]
  | execute _ _ => [.execute]
  | prove _ mode _ =>
    if mode = .plonk then []
    else (if before then [] else [.vkey]) ++ if after then [.prove] else []
  | wrap run _ => if run.proof.mode = .compressed then [.wrap] else []
  | verify _ _ _ _ => [.verify]

def needsKey : Event → Bool
  | setup _ => true
  | prove _ mode _ => mode != .plonk
  | _ => false

def key? : Event → Option VerifyingKey
  | setup (.ok key) => some key
  | prove _ _ (.ok run) => some run.vkey
  | _ => none

theorem count_vkey (event : Event) (before after : Bool) :
    (event.subcommands before after).count .vkey =
      if event.needsKey ∧ before = false then 1 else 0 := by
  cases event with
  | setup _ => cases before <;> rfl
  | execute _ _ | verify _ _ _ _ => rfl
  | prove _ mode _ => cases mode <;> cases before <;> cases after <;> rfl
  | wrap run _ =>
    by_cases h : run.proof.mode = .compressed <;> simp [subcommands, needsKey, h]

theorem count_prove_le (event : Event) (before after : Bool) :
    (event.subcommands before after).count .prove ≤ after.toNat := by
  cases event with
  | setup _ => cases before <;> exact Nat.zero_le _
  | execute _ _ | verify _ _ _ _ => exact Nat.zero_le _
  | prove _ mode _ =>
    cases mode <;> cases before <;> cases after <;> simp [subcommands]
  | wrap run _ =>
    by_cases h : run.proof.mode = .compressed <;> simp [subcommands, h]

end Event

def Client.serve (c : Client σ) (call : Call) (d : Desk σ) : Event × Desk σ :=
  match call with
  | .setup => (c.setup.run d).map .setup id
  | .execute input => ((c.execute input).run d).map (.execute input) id
  | .prove input mode => ((c.prove input mode).run d).map (.prove input mode) id
  | .wrap run => ((c.wrap run).run d).map (.wrap run) id
  | .verify proof publicValues vkey =>
    ((c.verify proof publicValues vkey).run d).map (.verify proof publicValues vkey) id

/-! ## One call -/

namespace Client

variable {α β : Type}

def Idle (x : Act (Desk σ) α) : Prop :=
  ∀ d, x.Ends d fun _ d' => d'.client = d.client

namespace Idle

theorem bind {x : Act (Desk σ) α} {f : α → Act (Desk σ) β} (hx : Idle x) (hf : ∀ a, Idle (f a)) :
    Idle (x >>= f) :=
  Act.Ends.bind_trans (fun h₁ h₂ => h₂.trans h₁) hx hf

theorem ofOutcome (r : Outcome α) : Idle (Act.ofOutcome r : Act (Desk σ) α) :=
  fun _ => rfl

theorem log {level : Level} {source : Source} {message : String} :
    Idle (Desk.log level source message : Act (Desk σ) Unit) :=
  fun _ => rfl

end Idle

end Client

/-- Between two states of a prover a call was served: these are the commands that it gave, the key is
the one that was known or else the one that was named, and no other key was handed out. -/
structure ExternalState.Visited (host : Host τ) (s : ExternalState τ) (event : Event)
    (commands : List Command) (s' : ExternalState τ) : Prop where
  attempted : s.Attempted host commands s'
  subcommands : commands.map Command.subcommand = event.subcommands s.key.isSome s'.key.isSome
  key : s'.key = s.key.or (firstKey? (host.attempts s.host commands))
  handedOut : ∀ k, event.key? = some k → s'.key = some k

namespace Prover.External

open Client (Idle)

variable {p : Prover.External} {host : Host τ} {env : Environment} {α : Type}

theorem run_bind_attempted {c : Command} {f : Exit → Act (Desk (ExternalState τ)) α}
    (idle : ∀ e, Idle (f e)) (d : Desk (ExternalState τ)) :
    (p.run host c >>= f).Ends d fun _ d' =>
      d.client.Attempted host [c] d'.client ∧ d'.client.key = d.client.key := by
  obtain ⟨journal, ran⟩ := p.run_run host c d
  apply Act.Ends.bind
  case ok =>
    intro e d₁ run
    obtain ⟨-, rfl⟩ := Prod.mk.inj (run.symm.trans ran)
    refine (idle e _).imp fun r d' same => ?_
    rw [same]
    exact ⟨⟨rfl, rfl⟩, rfl⟩
  case error =>
    intro e d₁ run
    obtain ⟨-, rfl⟩ := Prod.mk.inj (run.symm.trans ran)
    exact ⟨⟨rfl, rfl⟩, rfl⟩

def keyOf (p : Prover.External) (env : Environment) (processEnd : ProcessEnd) :
    Outcome VerifyingKey := do
  let exit ← p.classify (p.keyCommand env) processEnd
  let v ← DriverError.lift (resultOf .vkey exit)
  reading (.key :: valueKinds) .proving "vkey" (Output.vkey v)

theorem namedKey?_keyCommand (processEnd : ProcessEnd) :
    namedKey? (p.keyCommand env, processEnd) = (p.keyOf env processEnd).toOption := by
  cases processEnd with
  | missing | refused _ _ | lost _ => rfl
  | timedOut =>
    obtain ⟨e, failed⟩ := p.exists_classify_timedOut (p.keyCommand env)
    rw [keyOf, failed]
    rfl
  | exited e =>
    unfold namedKey? keyOf
    by_cases success : e.status = 0
    · rw [classify_of_success success, Except.ok_bind]
      simp only [keyCommand, command, success, and_self, if_true, resultOf]
      cases Output.result e.stdout with
      | error f => rfl
      | ok v =>
        simp only [Except.ok_bind, DriverError.lift_ok, reading]
        cases Output.vkey v with
        | ok key => rfl
        | error f =>
          dsimp only
          split <;> rfl
    · have refused : ∃ e', p.classify (p.keyCommand env) (.exited e) = .error e' := by
        unfold classify
        dsimp only
        split
        · exact ⟨_, rfl⟩
        · rw [if_pos ⟨rfl, success⟩]
          exact ⟨_, rfl⟩
      obtain ⟨e', refused⟩ := refused
      simp only [success, and_false, if_false, refused]
      rfl

theorem setup_of_unknown (p : Prover.External) (host : Host τ) (env : Environment)
    {d : Desk (ExternalState τ)} (unknown : d.client.key = none) :
    ∃ journal, (p.setup host env).run d =
      (p.keyOf env (host.start (p.keyCommand env) d.client.host).1, {
        client := {
          key := (p.keyOf env (host.start (p.keyCommand env) d.client.host).1).toOption
          host := (host.start (p.keyCommand env) d.client.host).2
          commands := d.client.commands ++ [p.keyCommand env] }
        journal }) := by
  obtain ⟨⟨key, state, commands⟩, journal⟩ := d
  obtain rfl : key = none := unknown
  obtain ⟨journal', ran⟩ := p.run_run host (p.keyCommand env) ⟨⟨none, state, commands⟩, journal⟩
  refine ⟨journal', ?_⟩
  unfold setup keyOf
  rw [Act.run_bind_of_ok (Act.run_get _)]
  change (p.run host (p.keyCommand env) >>= _).run _ = _
  rw [Act.run_bind, ran]
  cases p.classify (p.keyCommand env) (host.start (p.keyCommand env) state).1 with
  | error e => rfl
  | ok e =>
    dsimp only
    rw [Except.ok_bind, Act.run_bind, Act.run_ofDriver]
    cases resultOf .vkey e with
    | error e => rfl
    | ok v =>
      rw [DriverError.lift_ok, Except.ok_bind]
      dsimp only
      rw [Act.run_bind, Act.run_ofOutcome]
      cases reading (.key :: valueKinds) .proving "vkey" (Output.vkey v) <;> rfl

theorem setup_attempted (d : Desk (ExternalState τ)) :
    (p.setup host env).Ends d fun r d' => ∃ commands,
      d.client.Attempted host commands d'.client ∧
      commands.map Command.subcommand = (if d.client.key.isSome then [] else [.vkey]) ∧
      d'.client.key = d.client.key.or (firstKey? (host.attempts d.client.host commands)) ∧
      r.toOption = d'.client.key := by
  cases known : d.client.key with
  | some key =>
    refine .of_run (setup_of_key known) ⟨[], ⟨rfl, by simp⟩, rfl, known, known.symm⟩
  | none =>
    obtain ⟨journal, ran⟩ := setup_of_unknown p host env known
    refine .of_run ran ⟨[p.keyCommand env], ⟨rfl, rfl⟩, rfl, ?_, rfl⟩
    simp only [firstKey?, Host.attempts, List.findSome?_cons, List.findSome?_nil,
      namedKey?_keyCommand, Option.none_or]
    cases (p.keyOf env (host.start (p.keyCommand env) d.client.host).1).toOption <;> rfl

theorem namedKey?_of_ne {c : Command} (other : c.subcommand ≠ .vkey) (processEnd : ProcessEnd) :
    namedKey? (c, processEnd) = none := by
  cases processEnd with
  | missing | refused _ _ | lost _ | timedOut => rfl
  | exited e => simp [namedKey?, other]

theorem visited_single {s s' : ExternalState τ} {c : Command} {event : Event}
    (other : c.subcommand ≠ .vkey)
    (plan : event.subcommands s.key.isSome s'.key.isSome = [c.subcommand])
    (silent : event.key? = none) (attempted : s.Attempted host [c] s') (same : s'.key = s.key) :
    s.Visited host event [c] s' := by
  refine ⟨attempted, plan.symm, ?_, fun k out => ?_⟩
  · simp [same, firstKey?, Host.attempts, namedKey?_of_ne other]
  · cases silent.symm.trans out

theorem visited_refused {s : ExternalState τ} {event : Event}
    (plan : event.subcommands s.key.isSome s.key.isSome = []) (silent : event.key? = none) :
    s.Visited host event [] s := by
  refine ⟨⟨rfl, by simp⟩, plan.symm, by simp [firstKey?, Host.attempts], fun k out => ?_⟩
  cases silent.symm.trans out

theorem setup_visited (d : Desk (ExternalState τ)) :
    (p.setup host env).Ends d fun r d' =>
      ∃ commands, d.client.Visited host (.setup r) commands d'.client := by
  refine (setup_attempted d).imp fun r d' ⟨commands, attempted, plan, key, out⟩ =>
    ⟨commands, attempted, plan, key, fun k handed => ?_⟩
  cases r with
  | ok key => exact out.symm.trans handed
  | error e => cases handed

theorem execute_visited (input : GuestInput) (d : Desk (ExternalState τ)) :
    (p.execute host env input).Ends d fun r d' =>
      ∃ commands, d.client.Visited host (.execute input r) commands d'.client := by
  have idle (e : Exit) : Idle (do
      let v ← Act.ofDriver (resultOf .execute e)
      Act.ofOutcome (reading (.key :: .type :: valueKinds) .execution "execution report"
        (Output.report v)) : Act (Desk (ExternalState τ)) Execution) :=
    (Idle.ofOutcome _).bind fun _ => .ofOutcome _
  exact (run_bind_attempted idle d).imp fun r d' ⟨attempted, same⟩ =>
    ⟨_, visited_single (by simp [command]) rfl rfl attempted same⟩

theorem wrap_visited (run : Receipt) (d : Desk (ExternalState τ)) :
    (p.wrap host env run).Ends d fun r d' =>
      ∃ commands, d.client.Visited host (.wrap run r) commands d'.client := by
  unfold wrap
  split
  · rename_i other
    exact ⟨[], visited_refused (by simp [Event.subcommands, other]) rfl⟩
  · rename_i compressed
    have idle (e : Exit) : Idle (do
        let data ← Act.ofDriver (written .wrapping "plonk proof" (host.scratch ++ "/plonk.bin") e)
        pure ⟨⟨.plonk, data⟩, run.publicValues, run.vkey⟩ :
          Act (Desk (ExternalState τ)) Receipt) :=
      (Idle.ofOutcome _).bind fun _ => .ofOutcome (.ok _)
    have plan : run.proof.mode = .compressed := by simpa using compressed
    refine (run_bind_attempted idle d).imp fun r d' ⟨attempted, same⟩ =>
      ⟨_, visited_single (by simp [command]) ?_ ?_ attempted same⟩
    · simp [Event.subcommands, plan, command]
    · rfl

theorem verify_visited (proof : Proof) (publicValues : Bytes) (vkey : VerifyingKey)
    (d : Desk (ExternalState τ)) :
    (p.verify host env proof publicValues vkey).Ends d fun r d' =>
      ∃ commands, d.client.Visited host (.verify proof publicValues vkey r) commands d'.client := by
  refine (run_bind_attempted (fun e => ?_) d).imp fun r d' ⟨attempted, same⟩ =>
    ⟨_, visited_single (by simp [command]) rfl rfl attempted same⟩
  dsimp only
  split
  · exact Idle.log.bind fun _ => .ofOutcome (.ok _)
  · exact .ofOutcome (.ok _)

theorem prove_attempted (p : Prover.External) (host : Host τ) (env : Environment)
    (input : GuestInput) {mode : ProofMode} (h : mode ≠ .plonk) (d : Desk (ExternalState τ)) :
    (p.prove host env input mode).Ends d fun _ d' => ∃ commands,
      d.client.Attempted host commands d'.client ∧
      commands.map Command.subcommand = (if d.client.key.isSome then [] else [.vkey]) ++
        (if d'.client.key.isSome then [.prove] else []) ∧
      d'.client.key = d.client.key.or (firstKey? (host.attempts d.client.host commands)) := by
  unfold prove
  rw [if_neg h]
  change (p.setup host env >>= _).Ends d _
  apply Act.Ends.bind
  case error =>
    intro e d₁ run
    obtain ⟨commands, attempted, plan, key, out⟩ := (setup_attempted d).run_eq run
    have unknown : d₁.client.key = none := out.symm
    exact ⟨commands, attempted, by simp [plan, unknown], key⟩
  case ok =>
    intro vkey d₁ run
    obtain ⟨commands, attempted, plan, key, out⟩ := (setup_attempted d).run_eq run
    have known : d₁.client.key = some vkey := out.symm
    refine (run_bind_attempted (c := p.proveCommand host env input mode) (fun e => ?_) d₁).imp
      fun r d' ⟨second, same⟩ => ?_
    · refine (Idle.ofOutcome _).bind fun v => (Idle.ofOutcome _).bind fun data =>
        (Idle.ofOutcome _).bind fun proved => ?_
      dsimp only
      split <;> exact .ofOutcome _
    · refine ⟨commands ++ [p.proveCommand host env input mode], attempted.trans second, ?_, ?_⟩
      · simp [plan, same, known, proveCommand, command]
      · have silent (processEnd : ProcessEnd) :
            namedKey? (p.proveCommand host env input mode, processEnd) = none :=
          namedKey?_of_ne (by simp [proveCommand, command]) processEnd
        rw [same, key, Host.attempts_append, firstKey?_append, ← attempted.host]
        simp [firstKey?, Host.attempts, silent]

theorem prove_visited (input : GuestInput) (mode : ProofMode) (d : Desk (ExternalState τ)) :
    (p.prove host env input mode).Ends d fun r d' =>
      ∃ commands, d.client.Visited host (.prove input mode r) commands d'.client := by
  by_cases h : mode = .plonk
  · subst h
    exact ⟨[], visited_refused rfl rfl⟩
  · obtain ⟨commands, attempted, plan, key⟩ := prove_attempted p host env input h d
    refine ⟨commands, attempted, by simpa [Event.subcommands, h] using plan, key, ?_⟩
    intro k out
    cases proved : ((p.prove host env input mode).run d).1 with
    | error e =>
      rw [proved] at out
      cases out
    | ok run =>
      rw [proved] at out
      obtain ⟨_, _, -, -, -, -, -, kept⟩ := prove_ok (p := p) (Prod.ext proved rfl)
      exact kept.trans out

theorem visited_serve (p : Prover.External) (host : Host τ) (env : Environment) (call : Call)
    (d : Desk (ExternalState τ)) :
    ∃ commands, d.client.Visited host ((p.client host env).serve call d).1 commands
      ((p.client host env).serve call d).2.client := by
  cases call with
  | setup => exact setup_visited d
  | execute input => exact execute_visited input d
  | prove input mode => exact prove_visited input mode d
  | wrap run => exact wrap_visited run d
  | verify proof publicValues vkey => exact verify_visited proof publicValues vkey d

end Prover.External

/-! ## Sessions -/

def Event.call : Event → Call
  | setup _ => .setup
  | execute input _ => .execute input
  | prove input mode _ => .prove input mode
  | wrap run _ => .wrap run
  | verify proof publicValues vkey _ => .verify proof publicValues vkey

theorem Client.call_serve (c : Client σ) (call : Call) (d : Desk σ) :
    (c.serve call d).1.call = call := by
  cases call <;> rfl

/-- A call of a session: what came of it, the commands that it gave and how they ended, and the key
that the prover had after it. -/
structure Visit where
  event : Event
  attempts : List Attempt
  key : Option VerifyingKey

namespace Visit

def subcommands (v : Visit) : List Subcommand :=
  v.attempts.map fun a => a.1.subcommand

def runs (v : Visit) (sub : Subcommand) : Nat :=
  v.subcommands.count sub

def named (visits : List Visit) : Option VerifyingKey :=
  firstKey? (visits.flatMap attempts)

theorem named_concat (before : List Visit) (v : Visit) :
    named (before ++ [v]) = (named before).or (firstKey? v.attempts) := by
  rw [named, List.flatMap_append, List.flatMap_singleton, firstKey?_append]
  rfl

/-- What a call does after the calls `before` it. It asks for the key if it needs one and none was
named yet; a request that fails changes nothing and no proof is asked for after it; the key that was
named first is the one that is kept and handed out. -/
structure Frugal (before : List Visit) (visit : Visit) : Prop where
  asks : visit.runs .vkey = if visit.event.needsKey ∧ named before = none then 1 else 0
  failed : visit.runs .vkey = 1 → firstKey? visit.attempts = none →
    visit.key = named before ∧ visit.runs .prove = 0
  keeps : visit.key = named (before ++ [visit])
  handsOut : ∀ k, visit.event.key? = some k → named (before ++ [visit]) = some k
  proves : visit.runs .prove ≤ 1
  gives : visit.subcommands =
    visit.event.subcommands (named before).isSome (named (before ++ [visit])).isSome

end Visit

namespace Prover.External

def session (p : Prover.External) (host : Host τ) (env : Environment) :
    List Call → Desk (ExternalState τ) → List Visit
  | [], _ => []
  | call :: rest, d =>
    let (event, d') := (p.client host env).serve call d
    let commands := d'.client.commands.drop d.client.commands.length
    ⟨event, host.attempts d.client.host commands, d'.client.key⟩ :: p.session host env rest d'

variable {p : Prover.External} {host : Host τ} {env : Environment}

theorem map_attempts (host : Host τ) (s : τ) (commands : List Command) :
    (host.attempts s commands).map (fun a => a.1.subcommand) =
      commands.map Command.subcommand := by
  have given := congrArg (List.map Command.subcommand) (host.map_fst_attempts s commands)
  rwa [List.map_map] at given

theorem frugal_of_visited {s s' : ExternalState τ} {event : Event} {commands : List Command}
    {before : List Visit} (visited : s.Visited host event commands s')
    (known : s.key = Visit.named before) :
    Visit.Frugal before ⟨event, host.attempts s.host commands, s'.key⟩ := by
  have found : Visit.named (before ++ [⟨event, host.attempts s.host commands, s'.key⟩]) =
      s'.key := by
    rw [Visit.named_concat, ← known]
    exact visited.key.symm
  have gives : (host.attempts s.host commands).map (fun a => a.1.subcommand) =
      event.subcommands s.key.isSome s'.key.isSome :=
    (map_attempts host s.host commands).trans visited.subcommands
  have asks : ((host.attempts s.host commands).map fun a => a.1.subcommand).count .vkey =
      if event.needsKey ∧ Visit.named before = none then 1 else 0 := by
    rw [gives, Event.count_vkey, ← known]
    cases s.key <;> simp
  have proves : ((host.attempts s.host commands).map fun a => a.1.subcommand).count .prove ≤
      s'.key.isSome.toNat := by
    rw [gives]
    exact event.count_prove_le _ _
  refine ⟨asks, fun once unnamed => ?_, found.symm, fun k out => ?_, ?_, ?_⟩
  · have unknown : Visit.named before = none := by
      by_contra known
      rw [Visit.runs, Visit.subcommands, asks, if_neg fun h => known h.2] at once
      cases once
    have key : s'.key = none := by
      rw [visited.key, known, unknown, Option.none_or]
      exact unnamed
    rw [key] at proves
    exact ⟨key.trans unknown.symm, Nat.le_zero.mp proves⟩
  · exact found.trans (visited.handedOut k out)
  · exact proves.trans (Bool.toNat_le _)
  · rw [found, ← known]
    exact gives

theorem session_frugal (calls : List Call) {d : Desk (ExternalState τ)} (earlier : List Visit)
    (known : d.client.key = Visit.named earlier) {before after : List Visit} {visit : Visit}
    (here : p.session host env calls d = before ++ visit :: after) :
    visit.Frugal (earlier ++ before) := by
  induction calls generalizing d earlier before with
  | nil => simp [session] at here
  | cons call rest ih =>
    obtain ⟨commands, visited⟩ := visited_serve p host env call d
    have gave : ((p.client host env).serve call d).2.client.commands.drop
        d.client.commands.length = commands := by
      rw [visited.attempted.commands, List.drop_left]
    have frugal := frugal_of_visited visited known
    rw [session] at here
    dsimp only at here
    rw [gave] at here
    cases before with
    | nil =>
      obtain ⟨rfl, -⟩ := List.cons.inj here
      rwa [List.append_nil]
    | cons first before =>
      obtain ⟨rfl, later⟩ := List.cons.inj here
      have next := ih _ frugal.keeps later
      rwa [List.append_assoc] at next

theorem call_session (calls : List Call) (d : Desk (ExternalState τ)) :
    (p.session host env calls d).map (fun v => v.event.call) = calls := by
  induction calls generalizing d with
  | nil => rfl
  | cons call rest ih =>
    rw [session, List.map_cons, ih]
    exact congrArg (· :: rest) (Client.call_serve _ call d)

/-- In every session of a new prover the calls are served in turn, and each is frugal. -/
theorem session_asks_until_named (p : Prover.External) (host : Host τ) (env : Environment)
    (calls : List Call) (s : τ) (journal : Journal) :
    let visits := p.session host env calls ⟨{ host := s }, journal⟩
    visits.map (fun v => v.event.call) = calls ∧
      ∀ before visit after, visits = before ++ visit :: after → visit.Frugal before :=
  ⟨call_session calls _, fun _ _ _ here => session_frugal calls [] rfl here⟩

end Prover.External

end ProofDriver

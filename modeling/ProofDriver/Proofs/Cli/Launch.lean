import ProofDriver.Proofs.Cli.Prove
import ProofDriver.Proofs.Delivery.Launch
/-!
# Calls of a program whose prover cannot be started

A missing binary ends a call of the program with the exit status of the command's category. Any other
refusal to start the process is no error of the driver's: it passes through every layer and ends the
program.
-/

namespace ProofDriver

variable {τ : Type} {host : Host τ} {env : Environment}

open ExternalState (ToldOfStarts)

namespace Prover

theorem fixes_machine_ofSettings (s : Settings) :
    (ofSettings s : Act (World (ExternalState τ)) Prover).Fixes World.machine := by
  unfold ofSettings
  cases s.backend with
  | host => exact .ofOutcome _
  | mock =>
    refine Act.Fixes.bind (Act.Fixes.get.bind fun w => (Act.Fixes.ofOutcome _).bind fun there => ?_)
      fun _ => .ofOutcome _
    cases there with
    | true => exact (Act.Fixes.ofOutcome _).bind fun data => .ofOutcome _
    | false => exact Act.Fixes.bind (fun _ => rfl) fun _ => .ofOutcome _

theorem exists_heeds_client (prover : Prover) (p : Prover.External) :
    ∃ p, (prover.client host env).Heeds p host := by
  cases prover with
  | mock q => exact ⟨p, q.heeds_client⟩
  | external q => exact ⟨q, External.heeds_client⟩

end Prover

namespace Cli

/-- A command heeds the processes of the prover that its settings choose. `p` stands in where they
choose none. -/
theorem perform_heeded (p : Prover.External) (inv : Invocation) {w : World (ExternalState τ)}
    (samples : w.machine.Samples) :
    (perform host env inv).Ends w fun r w' =>
      ∃ p, w.prover.Heeded p host (failureOf r) w'.prover := by
  unfold perform
  cases Settings.ofEnvironment env with
  | error e => exact ⟨p, .idle ⟨rfl, rfl⟩⟩
  | ok defaults =>
    refine .bind_ok (a := defaults) (t := w) rfl ?_
    cases defaults.replace inv.overrides with
    | error e => exact ⟨p, .idle ⟨rfl, rfl⟩⟩
    | ok settings =>
      refine .bind_ok (a := settings) (t := w) rfl ?_
      apply Act.Ends.bind
      case error =>
        intro e w₁ run
        have observed := (Prover.observes_ofSettings settings w).run_eq run
        exact ⟨p, .idle (by rw [World.prover, observed.client]; exact ⟨rfl, rfl⟩)⟩
      case ok =>
        intro prover w₁ run
        have same : w₁.prover = w.prover :=
          ((Prover.observes_ofSettings settings w).run_eq run).client
        have machine : w₁.machine = w.machine :=
          (Prover.fixes_machine_ofSettings settings w).run_eq run
        have calm : Unobtrusive .journal w₁.machine := ⟨by rwa [machine], trivial⟩
        obtain ⟨q, heeds⟩ : ∃ q, (prover.client host env).Heeds q host :=
          prover.exists_heeds_client p
        rw [← same]
        cases inv.command with
        | execute =>
          have heeded := ((Delivery.heeds_preview heeds (.int inv.n)).bind fun _ => .pure "") w₁
          exact heeded.imp fun r w' heeded => ⟨q, heeded⟩
        | prove mode =>
          have delivered (mode : Value) :=
            Delivery.deliver_heeded heeds settings (.int inv.n) mode inv.output calm
          apply Act.Ends.bind
          case error =>
            intro e w₂ run
            exact ⟨q, (delivered _).run_eq run⟩
          case ok =>
            rintro ⟨fixture, path⟩ w₂ run
            exact ⟨q, ((delivered _).run_eq run).trans (.idle ⟨rfl, rfl⟩)⟩
        | verify =>
          have heeded := ((Delivery.heeds_recheck heeds inv.fixture.render).bind fun _ =>
            .pure "") w₁
          exact heeded.imp fun r w' heeded => ⟨q, heeded⟩

/-- How a call of the program ends, as far as processes were not started. -/
structure EndsByStarts (host : Host τ) (s : ExternalState τ) (commands : List ProofDriver.Command)
    (result : Result) : Prop where
  missing : ∀ c, (c, .missing) ∈ host.attempts s.host commands →
    result.exitCode = c.subcommand.failure.exitCode ∧ result.fault = none ∧ result.stdout = ""
  refused : ∀ c why there, (c, .refused why there) ∈ host.attempts s.host commands →
    result.exitCode = 1 ∧ result.fault = some (.system why) ∧ result.stdout = ""

theorem run_endsByStarts (p : Prover.External) (program : Program) (args : List String)
    {inv : Invocation} {w after : World (ExternalState τ)} {result : Result}
    (asked : program.invocation w.disk.files args = .ok inv) (samples : w.machine.Samples)
    (ran : (run host env program args).run w = (result, after)) :
    ∃ commands, (unkeyed w).prover.Attempted host commands after.prover ∧
      EndsByStarts host w.prover commands result := by
  rw [run_of_asked asked] at ran
  rcases performing : (perform host env inv).run (unkeyed w) with ⟨r, last⟩
  obtain ⟨q, heeded⟩ := (perform_heeded p inv (w := unkeyed w) samples).run_eq performing
  obtain ⟨commands, attempted, told⟩ := heeded.toldOfStarts
  cases r with
  | ok stdout =>
    rw [run_concluded_of_ok performing] at ran
    cases ran
    exact ⟨commands, attempted, fun c mem => (by cases told.missing c mem),
      fun c why there mem => (by cases told.refused c why there mem)⟩
  | error e =>
    cases e with
    | driver d =>
      rw [run_concluded_of_driver performing] at ran
      cases ran
      refine ⟨commands, attempted, fun c mem => ?_, fun c why there mem => ?_⟩
      · cases told.missing c mem
        exact ⟨rfl, rfl, rfl⟩
      · cases told.refused c why there mem
    | fault f =>
      rw [run_concluded_of_fault performing] at ran
      cases ran
      refine ⟨commands, attempted, fun c mem => ?_, fun c why there mem => ?_⟩
      · cases told.missing c mem
      · cases told.refused c why there mem
        exact ⟨rfl, rfl, rfl⟩

/-- What becomes of a process of an external prover that cannot be started.
1. A call gives the commands that it takes. Where there is no binary for one, the call fails with an
error of the command's category; where the system refuses to start one, it fails with the system's
fault.
2. A delivery, a preview and a recheck fail with just the same.
3. So does a call of the program: the status is that of the category, or one with the fault handed on.
-/
theorem unstarted_processes (p : Prover.External) (host : Host τ) (env : Environment) :
    (∀ (call : Call) (d : Desk (ExternalState τ)),
      let event := ((p.client host env).serve call d).1
      let after := ((p.client host env).serve call d).2.client
      ∃ commands, d.client.Attempted host commands after ∧
        commands.map ProofDriver.Command.subcommand =
          event.subcommands d.client.key.isSome after.key.isSome ∧
        d.client.ToldOfStarts p host commands event.raised?) ∧
    (∀ (settings : Settings) (sink : Sink) (n mode : Value) (output : Option Path)
      (w : World (ExternalState τ)), Unobtrusive sink w.machine →
      (Delivery.deliver (p.client host env) settings sink n mode output).Ends w fun r w' =>
        ∃ commands, w.prover.Attempted host commands w'.prover ∧
          w.prover.ToldOfStarts p host commands (failureOf r)) ∧
    (∀ (n : Value) (w : World (ExternalState τ)),
      (Delivery.preview (p.client host env) n).Ends w fun r w' =>
        ∃ commands, w.prover.Attempted host commands w'.prover ∧
          w.prover.ToldOfStarts p host commands (failureOf r)) ∧
    (∀ (shown : String) (w : World (ExternalState τ)),
      (Delivery.recheck (p.client host env) shown).Ends w fun r w' =>
        ∃ commands, w.prover.Attempted host commands w'.prover ∧
          w.prover.ToldOfStarts p host commands (failureOf r)) ∧
    ∀ (program : Program) (args : List String) (inv : Invocation) (w : World (ExternalState τ)),
      program.invocation w.disk.files args = .ok inv → w.machine.Samples →
        let (result, after) := (run host env program args).run w
        ∃ commands, (unkeyed w).prover.Attempted host commands after.prover ∧
          EndsByStarts host w.prover commands result := by
  have heeds : (p.client host env).Heeds p host := Prover.External.heeds_client
  refine ⟨fun call d => ?_, fun settings sink n mode output w calm => ?_, fun n w => ?_,
    fun shown w => ?_, fun program args inv w asked samples => ?_⟩
  · obtain ⟨commands, attempted, told⟩ :=
      (Prover.External.heeded_serve p host env call d).toldOfStarts
    obtain ⟨commands', visited⟩ := Prover.External.visited_serve p host env call d
    -- Both tell of the commands that were noted, so they are the same.
    obtain rfl : commands' = commands :=
      List.append_cancel_left (visited.attempted.commands.symm.trans attempted.commands)
    exact ⟨commands', attempted, visited.subcommands, told⟩
  · exact (Delivery.deliver_heeded heeds settings n mode output calm).imp
      fun _ _ heeded => heeded.toldOfStarts
  · exact (Delivery.heeds_preview heeds n w).imp fun _ _ heeded => heeded.toldOfStarts
  · exact (Delivery.heeds_recheck heeds shown w).imp fun _ _ heeded => heeded.toldOfStarts
  · rcases ran : (run host env program args).run w with ⟨result, after⟩
    exact run_endsByStarts p program args asked samples ran

open Delivery (unasked unheard samples_unasked)

def uniform (processEnd : ProcessEnd) : Host Unit where
  scratch := "/tmp"
  start _ _ := (processEnd, ())

theorem mem_attempts_uniform {processEnd : ProcessEnd} {c : ProofDriver.Command}
    {commands : List ProofDriver.Command} (mem : c ∈ commands) :
    (c, processEnd) ∈ (uniform processEnd).attempts () commands := by
  induction commands with
  | nil => cases mem
  | cons first rest ih =>
    rcases List.mem_cons.mp mem with rfl | later
    · exact List.mem_cons_self
    · exact List.mem_cons_of_mem _ (ih later)

/-- Without a binary neither a delivery nor a call of the program comes to a key, and both say so. -/
theorem exists_missing_prover :
    Unobtrusive .journal unasked.machine ∧ unasked.machine.Samples ∧
      ((Delivery.deliver (unheard.client (uniform .missing) []) {} .journal (.int 7) (.text "core")
        none).run unasked).1 = .error (.driver (unheard.absent (unheard.keyCommand []))) ∧
      ∃ inv, (Program.single .core).invocation unasked.disk.files ["--output", "f"] = .ok inv ∧
        ((run (uniform .missing) [] (.single .core) ["--output", "f"]).run unasked).1.exitCode =
          Category.proving.exitCode := by
  have calm : Unobtrusive .journal unasked.machine := ⟨samples_unasked, trivial⟩
  have asked : (Program.single .core).invocation unasked.disk.files ["--output", "f"] =
      .ok coreInvocation := by rfl
  obtain ⟨-, delivers, -, -, calls⟩ := unstarted_processes unheard (uniform .missing) []
  refine ⟨calm, samples_unasked, ?_, coreInvocation, asked, ?_⟩
  · have given : ((Delivery.deliver (unheard.client (uniform .missing) []) {} .journal (.int 7)
        (.text "core") none).run unasked).2.client.commands = [unheard.keyCommand []] := by
      decide +kernel
    obtain ⟨commands, attempted, told⟩ :=
      delivers {} .journal (.int 7) (.text "core") none unasked calm
    obtain rfl : [unheard.keyCommand []] = commands := given.symm.trans attempted.commands
    exact failureOf_eq_some.mp (told.missing _ (mem_attempts_uniform List.mem_cons_self))
  · have given : ((run (uniform .missing) [] (.single .core) ["--output", "f"]).run
        unasked).2.client.commands.map ProofDriver.Command.subcommand = [.vkey] := by
      decide +kernel
    have ends := calls (.single .core) ["--output", "f"] coreInvocation unasked asked
      samples_unasked
    rcases ran : (run (uniform .missing) [] (.single .core) ["--output", "f"]).run unasked with
      ⟨result, after⟩
    rw [ran] at ends given
    obtain ⟨commands, attempted, starts⟩ := ends
    obtain rfl : after.client.commands = commands := attempted.commands
    obtain ⟨c, only, asksKey⟩ := List.map_eq_singleton_iff.mp given
    rw [only] at starts
    have status := (starts.missing c (mem_attempts_uniform List.mem_cons_self)).1
    rwa [asksKey] at status

/-- A verifier that may not be executed is no error of the driver's. -/
theorem exists_unreported_refusal :
    ∃ (d : Desk (ExternalState Unit)) (call : Call) (why : OsError)
      (there : why.errno ≠ .noEntry), why.errno = .denied ∧
      (((unheard.client (uniform (.refused why there)) []).serve call d).2.client.commands.map
        ProofDriver.Command.subcommand = [.verify]) ∧
      ((unheard.client (uniform (.refused why there)) []).serve call d).1.raised? =
        some (.fault (.system why)) :=
  ⟨unasked.toDesk, .verify ⟨.core, []⟩ [] ⟨List.replicate 32 0, rfl⟩, ⟨.denied, "p", none⟩,
    by decide, rfl, rfl, rfl⟩

end Cli

end ProofDriver

import ProofDriver.Cli.Command
import ProofDriver.Proofs.Delivery.Errors
import ProofDriver.Proofs.Delivery.Mock
import ProofDriver.Proofs.Delivery.Records
import ProofDriver.Proofs.Delivery.Served
/-!
# The commands that prove

What a call that asks for a proof shows to the outside. Its exit status says whether a fixture was
written. If it was, standard output is the path of the fixture; if not, there is one record of an
error, the exit status is that of the category of the error, and every file is as it was.
-/

namespace ProofDriver

variable {σ τ : Type}

namespace Delivery.Course

variable {client : Client σ} {settings : Settings} {n mode : Value} {output : Option Path}
  {w w' : World σ}

theorem grown_of_error {e : Failure}
    (course : Course client settings n mode output w (.error e) w') :
    w.disk.files.Grown w'.disk.files := by
  cases course with
  | unknownMode _ | invalidInput _ _ => exact .refl _
  | unproved _ _ course => rw [course.disk]
  | unanswered _ _ checked | rejected _ _ checked | unencodable _ _ checked _ => rw [checked.disk]
  | unsaved _ _ checked _ saved _ =>
    rw [← checked.disk]
    exact Disk.grown_of_save saved

theorem wrote_of_ok {fixture : Fixture} {path : Path}
    (course : Course client settings n mode output w (.ok (fixture, path)) w') :
    (∃ l, Disk.Wrote fixture.toValue path l w.disk.files w'.disk.files) ∧
      ∀ given, output = some given → path = given := by
  cases course with
  | stored _ _ checked _ saved _ =>
    rw [← checked.disk]
    exact ⟨Disk.wrote_of_save saved, fun given same => by rw [same]; rfl⟩

end Delivery.Course

theorem Category.exitCode_ne_zero (c : Category) : c.exitCode ≠ 0 := by
  cases c <;> decide

namespace Prover

open Act (Observes Routine)

theorem writesOnly_client (p : Prover) (host : Host τ) (env : Environment) :
    (p.client host env).WritesOnly Record.Routine := by
  cases p with
  | mock p => exact (p.writesOnly_clientOn _).imp fun _ absurd => absurd.elim
  | external p =>
    refine (External.writesOnly_client (p := p)).imp fun record debugging => ?_
    rw [Record.Routine, debugging.1, debugging.2]
    decide

theorem observes_mockOfElf (path : Path) : (mockOfElf path : Act (World σ) _).Observes := by
  refine Observes.get.bind fun w => (Observes.ofFault _).bind fun there => ?_
  cases there with
  | true => exact (Observes.ofFault _).bind fun data => .pure _
  | false => exact Observes.log.bind fun _ => .pure _

theorem routine_mockOfElf (path : Path) : (mockOfElf path : Act (World σ) _).Routine := by
  refine Routine.get.bind fun w => (Routine.ofOutcome _).bind fun there => ?_
  cases there with
  | true => exact (Routine.ofOutcome _).bind fun data => .pure _
  | false => exact (Routine.log (by decide)).bind fun _ => .pure _

theorem observes_ofSettings (s : Settings) : (ofSettings s : Act (World σ) Prover).Observes := by
  unfold ofSettings
  cases s.backend with
  | mock => exact (observes_mockOfElf _).bind fun p => .pure _
  | host => exact .pure _

theorem routine_ofSettings (s : Settings) : (ofSettings s : Act (World σ) Prover).Routine := by
  unfold ofSettings
  cases s.backend with
  | mock => exact (routine_mockOfElf _).bind fun p => .pure _
  | host => exact .pure _

end Prover

namespace Cli

open Delivery (announcement)

/-- The fixture came to its path between `w` and `w'`, and this was announced. -/
structure Written (w w' : World σ) (records : Journal) (fixture : Fixture) (path : Path) : Prop where
  announced : announcement fixture path ∈ records
  wrote : ∃ l, Disk.Wrote fixture.toValue path l w.disk.files w'.disk.files

/-- How the body of a command that proves ends. -/
inductive Performed (output : Option Path) (w : World σ) : Outcome String → World σ → Prop
  | refused {e w'} : w.Routinely w' → w.disk.files.Grown w'.disk.files →
      Performed output w (.error e) w'
  | written {fixture path w₁ w'} : w.Routinely w₁ →
      w'.journal = w₁.journal ++ [announcement fixture path] →
      (∃ l, Disk.Wrote fixture.toValue path l w.disk.files w'.disk.files) →
      (∀ given, output = some given → path = given) →
      Performed output w (.ok (path.render ++ "\n")) w'

open Act (Observes Routine)

theorem Performed.bind {α : Type} {output : Option Path} {x : Act (World σ) α}
    {f : α → Act (World σ) String} (observes : x.Observes) (routine : x.Routine)
    (rest : ∀ a w, (f a).Ends w (Performed output w)) (w : World σ) :
    (x >>= f).Ends w (Performed output w) := by
  apply Act.Ends.bind
  case error =>
    intro e w₁ run
    refine .refused ((routine w).run_eq run) ?_
    rw [((observes w).run_eq run).disk]
  case ok =>
    intro a w₁ run
    have first : w.Routinely w₁ := (routine w).run_eq run
    have disk : w₁.disk = w.disk := ((observes w).run_eq run).disk
    refine (rest a w₁).imp fun r w' performed => ?_
    cases performed with
    | refused routinely grown =>
      rw [disk] at grown
      exact .refused (first.trans routinely) grown
    | written routinely journal wrote given =>
      rw [disk] at wrote
      exact .written (first.trans routinely) journal wrote given

theorem deliver_performed {client : Client σ} (writes : client.WritesOnly Record.Routine)
    (settings : Settings) (sink : Sink) (n mode : Value) (output : Option Path) (w : World σ) :
    (do
      let (_, path) ← Delivery.deliver client settings sink n mode output
      pure (path.render ++ "\n") : Act (World σ) String).Ends w (Performed output w) := by
  have announced := Delivery.announces_deliver writes settings sink n mode output w
  have course := Delivery.deliver_ends client settings sink n mode output w
  apply Act.Ends.bind
  case error =>
    intro e w' run
    obtain ⟨w₁, routinely, journal⟩ := announced.run_eq run
    exact .refused (routinely.trans (.of_eq (journal.trans (List.append_nil _))))
      (course.run_eq run).grown_of_error
  case ok =>
    rintro ⟨fixture, path⟩ w' run
    obtain ⟨w₁, routinely, journal⟩ := announced.run_eq run
    obtain ⟨wrote, given⟩ := (course.run_eq run).wrote_of_ok
    exact .written routinely journal wrote given

theorem perform_ends {host : Host τ} {env : Environment} {inv : Invocation}
    {mode : Option ProofMode} (proving : inv.command = .prove mode) (w : World (ExternalState τ)) :
    (perform host env inv).Ends w (Performed inv.output w) := by
  unfold perform
  refine Performed.bind (.ofOutcome _) (.ofOutcome _) (fun defaults => Performed.bind
    (.ofOutcome _) (.ofOutcome _) fun settings => Performed.bind
    (Prover.observes_ofSettings settings) (Prover.routine_ofSettings settings) fun prover => ?_) w
  rw [proving]
  exact deliver_performed (prover.writesOnly_client host env) _ _ _ _ _

def unkeyed (w : World (ExternalState τ)) : World (ExternalState τ) :=
  { w with client := { w.client with key := none } }

theorem run_of_asked {host : Host τ} {env : Environment} {p : Program} {args : List String}
    {inv : Invocation} {w : World (ExternalState τ)}
    (asked : p.invocation w.disk.files args = .ok inv) :
    (run host env p args).run w =
      let (result, after) := (concluded (perform host env inv)).run (unkeyed w)
      ({ result with threshold := some (threshold (env.get? "FIBPROOF_LOG") inv.verbosity) },
        after) := by
  unfold run
  rw [StateT.run_bind, StateT.run_get, pure_bind]
  dsimp only
  rw [asked]
  rfl

def complaint (e : DriverError) : Record :=
  ⟨.error, .commandLine, e.stage ++ " failed: " ++ e.message⟩

theorem run_concluded_of_ok {work : Act (World (ExternalState τ)) String} {stdout : String}
    {w w' : World (ExternalState τ)} (done : work.run w = (.ok stdout, w')) :
    (concluded work).run w = ({ exitCode := 0, stdout }, w') := by
  simp only [concluded, StateT.run, done]

theorem run_concluded_of_driver {work : Act (World (ExternalState τ)) String} {e : DriverError}
    {w w' : World (ExternalState τ)} (failed : work.run w = (.error (.driver e), w')) :
    (concluded work).run w =
      ({ exitCode := e.exitCode }, { w' with journal := w'.journal ++ [complaint e] }) := by
  simp only [concluded, StateT.run, failed]
  rfl

def shownErrors (threshold : Nat) (records : Journal) : Journal :=
  (records.passing threshold).filter (·.level = .error)

theorem shownErrors_routine {records more : Journal} (threshold : Nat)
    (routine : ∀ record ∈ records, record.Routine) :
    shownErrors threshold (records ++ more) = shownErrors threshold more := by
  have none : shownErrors threshold records = [] := by
    rw [shownErrors, List.filter_eq_nil_iff]
    intro record mem
    simpa using (routine record (List.mem_filter.mp mem).1).1
  have split : shownErrors threshold (records ++ more) =
      shownErrors threshold records ++ shownErrors threshold more := by
    simp only [shownErrors, Journal.passing, List.filter_append]
  rw [split, none, List.nil_append]

theorem shownErrors_complaint (threshold : Nat) (e : DriverError) :
    shownErrors threshold [complaint e] =
      if threshold ≤ Level.error.rank then [complaint e] else [] := by
  by_cases shown : threshold ≤ Level.error.rank
  · simp [shownErrors, Journal.passing, complaint, shown]
  · simp [shownErrors, Journal.passing, complaint, shown]

theorem run_concluded_of_fault {work : Act (World (ExternalState τ)) String} {f : Fault}
    {w w' : World (ExternalState τ)} (failed : work.run w = (.error (.fault f), w')) :
    (concluded work).run w =
      ({ exitCode := 1, fault := if f.isInterrupt then none else some f }, w') := by
  simp only [concluded, StateT.run, failed]

theorem not_written {w w' : World σ} {records more : Journal}
    (routine : ∀ record ∈ records, record.Routine)
    (foreign : ∀ record ∈ more, record.source ≠ .fixture) :
    ¬ ∃ fixture path, Written w w' (records ++ more) fixture path := by
  rintro ⟨fixture, path, announced, -⟩
  obtain mem | mem := List.mem_append.mp announced
  · exact (routine _ mem).2 rfl
  · exact foreign _ mem rfl

/-- What a call that asks for a proof shows to the outside. Its exit status is zero just if a fixture
was written, and then the path of the fixture is all it prints. Where it ends with an error, the exit
status is that of the category of the error, whatever stage the error names; it prints nothing,
shows one record about an error if such records are shown, and leaves every file as it was. -/
theorem run_exit_status (host : Host τ) (env : Environment) (p : Program) (args : List String)
    {inv : Invocation} {mode : Option ProofMode} {w after : World (ExternalState τ)}
    {result : Result} (asked : p.invocation w.disk.files args = .ok inv)
    (proving : inv.command = .prove mode)
    (ran : (run host env p args).run w = (result, after)) :
    let body := ((perform host env inv).run (unkeyed w)).1
    ∃ records, after.journal = w.journal ++ records ∧
      (result.exitCode = 0 ↔ ∃ fixture path, Written w after records fixture path) ∧
      (∀ stdout, body = .ok stdout → result.exitCode = 0 ∧ result.stdout = stdout ∧
        ∃ fixture path, Written w after records fixture path ∧
          (∀ given, inv.output = some given → path = given) ∧ stdout = path.render ++ "\n") ∧
      ∀ e, body = .error (.driver e) → result.exitCode = e.category.exitCode ∧
        result.exitCode ≠ 0 ∧ result.stdout = "" ∧
        (∃ threshold, result.threshold = some threshold ∧ shownErrors threshold records =
          if threshold ≤ Level.error.rank then [complaint e] else []) ∧
        w.disk.files.Grown after.disk.files := by
  intro body
  rw [run_of_asked asked] at ran
  rcases performing : (perform host env inv).run (unkeyed w) with ⟨r, last⟩
  have performed := (perform_ends proving (unkeyed w)).run_eq performing
  have outcome : body = r := congrArg Prod.fst performing
  rw [outcome]
  cases performed with
  | @refused failure _ routinely grown =>
    obtain ⟨records, routine, journal⟩ := routinely
    cases failure with
    | fault f =>
      rw [run_concluded_of_fault performing] at ran
      cases ran
      refine ⟨records ++ [], ?_, iff_of_false Nat.one_ne_zero (not_written routine nofun),
        nofun, nofun⟩
      rw [List.append_nil]
      exact journal
    | driver e =>
      rw [run_concluded_of_driver performing] at ran
      cases ran
      have status : e.exitCode ≠ 0 := e.category.exitCode_ne_zero
      have foreign : ∀ record ∈ [complaint e], record.source ≠ .fixture := by
        simp [complaint]
      refine ⟨records ++ [complaint e], ?_, iff_of_false status (not_written routine foreign),
        nofun, ?_⟩
      · exact (congrArg (· ++ _) journal).trans (List.append_assoc ..)
      · rintro _ ⟨⟩
        refine ⟨rfl, status, rfl, ⟨_, rfl, ?_⟩, grown⟩
        rw [shownErrors_routine _ routine, shownErrors_complaint]
  | @written fixture path w₁ _ routinely announced wrote given =>
    obtain ⟨records, routine, journal⟩ := routinely
    rw [run_concluded_of_ok performing] at ran
    cases ran
    have written : Written w after (records ++ [announcement fixture path]) fixture path :=
      ⟨List.mem_append_right _ List.mem_cons_self, wrote⟩
    refine ⟨records ++ [announcement fixture path], ?_,
      iff_of_true rfl ⟨fixture, path, written⟩, ?_, nofun⟩
    · rw [announced, journal, List.append_assoc]
      rfl
    · rintro _ ⟨⟩
      exact ⟨rfl, rfl, fixture, path, written, given, rfl⟩

open Delivery (deliver_mock mute unasked writable_unasked)

def coreInvocation : Invocation :=
  { command := .prove (some .core), output := some ⟨.relative, ["f"]⟩ }

def mocked : Environment := [("FIBPROOF_PROVER", "mock")]

def impatient : Environment := [("FIBPROOF_TIMEOUT", "soon")]

theorem unkeyed_unasked : unkeyed unasked = unasked := rfl

theorem perform_mocked :
    (perform mute mocked coreInvocation).Ends (unkeyed unasked) fun r _ => r = .ok "f\n" := by
  have read : Settings.ofEnvironment mocked = .ok { backend := .mock } := by decide +kernel
  have chosen : ∃ w, (Prover.ofSettings { backend := .mock }).run unasked =
      (.ok (.mock Prover.Mock.builtin), w) ∧ w.disk = unasked.disk ∧ w.machine = {} :=
    ⟨_, rfl, rfl, rfl⟩
  obtain ⟨w, chosen, disk, machine⟩ := chosen
  have known : ProofMode.ofValue (.text "core") = .ok .core := ProofMode.core.ofValue_name
  have calm : Unobtrusive .journal w.machine := by
    rw [machine]
    exact ⟨fun f mem => (by cases mem), trivial⟩
  have writable : w.disk.Writable ⟨.relative, ["f"]⟩ := by
    rw [disk]
    exact writable_unasked
  have index : Value.int coreInvocation.n = .int (UInt32.toNat 20) := rfl
  have delivered : ∃ fixture, (Delivery.deliver
      ((Prover.mock Prover.Mock.builtin).client mute mocked) { backend := .mock } .journal
      (.int coreInvocation.n) (.text "core") coreInvocation.output).Ends w fun r _ =>
        r = .ok (fixture, ⟨.relative, ["f"]⟩) := by
    rw [index]
    exact ⟨_, deliver_mock Bn254.lawful_multiples Prover.Mock.builtin 20 known calm writable⟩
  obtain ⟨fixture, delivered⟩ := delivered
  unfold perform
  rw [read, unkeyed_unasked]
  refine .bind_ok rfl (.bind_ok rfl (.bind_ok chosen ?_))
  apply Act.Ends.bind
  · intro _ w' run
    cases delivered.run_eq run
    rfl
  · intro e w' run
    cases delivered.run_eq run

theorem perform_impatient :
    (perform mute impatient coreInvocation).Ends (unkeyed unasked) fun r _ => r = .error (.driver
      ⟨.invalidInput, "config", "FIBPROOF_TIMEOUT must be a number, got 'soon'"⟩) := by
  have read : Settings.ofEnvironment impatient = .error
      ⟨.invalidInput, "config", "FIBPROOF_TIMEOUT must be a number, got 'soon'"⟩ := by
    decide +kernel
  unfold perform
  rw [read]
  rfl

/-- With the mock a core proof is written, and its path is printed. With an ill-formed setting the
same call ends with the status of invalid input, although the error names a stage of its own. -/
theorem exists_exit_statuses :
    (∃ result after fixture records,
      (run mute mocked (.single .core) ["--output", "f"]).run unasked = (result, after) ∧
        result.exitCode = 0 ∧ result.stdout = "f\n" ∧
        Written unasked after records fixture ⟨.relative, ["f"]⟩) ∧
    ∃ result after,
      (run mute impatient (.single .core) ["--output", "f"]).run unasked = (result, after) ∧
        result.exitCode = 2 ∧ result.stdout = "" ∧
        unasked.disk.files.Grown after.disk.files := by
  have asked : (Program.single .core).invocation unasked.disk.files ["--output", "f"] =
      .ok coreInvocation := by rfl
  constructor
  · rcases ran : (run mute mocked (.single .core) ["--output", "f"]).run unasked with
      ⟨result, after⟩
    obtain ⟨records, -, -, ended, -⟩ :=
      run_exit_status mute mocked (.single .core) ["--output", "f"] asked rfl ran
    obtain ⟨status, stdout, fixture, path, written, given, -⟩ := ended _ perform_mocked
    cases given _ rfl
    exact ⟨result, after, fixture, records, rfl, status, stdout, written⟩
  · rcases ran : (run mute impatient (.single .core) ["--output", "f"]).run unasked with
      ⟨result, after⟩
    obtain ⟨records, -, -, -, failed⟩ :=
      run_exit_status mute impatient (.single .core) ["--output", "f"] asked rfl ran
    obtain ⟨status, -, stdout, -, grown⟩ := failed _ perform_impatient
    exact ⟨result, after, rfl, status, stdout, grown⟩

end Cli

end ProofDriver

import ProofDriver.Proofs.CountTable
import ProofDriver.Proofs.Json.Showable
import ProofDriver.Proofs.Prover.Errors
/-!
# What the output of an execution comes to

The fields of a result line are arbitrary values, and each way in which one of them is refused is a
fault of a kind that counts as a malformed report. The one exception is a number of cycles that is an
infinite double (`Output.Endless`): its fault is of another kind and goes through to the caller. The
tables of a report can be shown, since the result line that they are taken from was read.
-/

namespace ProofDriver

variable {τ : Type}

namespace Prover.External

def reportKinds : List FaultKind :=
  .key :: .type :: valueKinds

variable {f : Fault}

theorem mem_of_key (kind : f.kind = .key) : f.kind ∈ reportKinds := by
  simp [kind, reportKinds]

theorem mem_of_type (kind : f.kind = .type) : f.kind ∈ reportKinds := by
  simp [kind, reportKinds]

theorem mem_of_value (kind : f.kind = .value) : f.kind ∈ reportKinds := by
  simp [kind, reportKinds, valueKinds]

end Prover.External

open Prover.External (reportKinds mem_of_key mem_of_type mem_of_value)

/-! ## Tables -/

namespace CountTable

variable {index : Nat} {table : CountTable} {entry v : Value}

theorem kind_of_putEntry :
    ∀ f, putEntry index table entry = .error f → f.kind ∈ reportKinds := by
  intro f failed
  unfold putEntry at failed
  split at failed
  · cases failed
    exact mem_of_type rfl
  · split at failed <;> cases failed <;> exact mem_of_type rfl
  · cases failed
    exact mem_of_value rfl

theorem kind_of_ofEntries {entries : List Value} :
    ∀ f, ofEntries index table entries = .error f → f.kind ∈ reportKinds := by
  induction entries generalizing index table with
  | nil => exact fun f failed => by cases failed
  | cons entry rest ih =>
    intro f failed
    unfold ofEntries at failed
    split at failed
    · rename_i refused
      cases failed
      exact kind_of_putEntry _ refused
    · exact ih f failed

theorem kind_of_ofValue : ∀ f, ofValue v = .error f → f.kind ∈ reportKinds := by
  intro f failed
  unfold ofValue at failed
  split at failed
  · cases failed
  · exact kind_of_ofEntries f failed
  · split at failed <;> cases failed
    exact mem_of_value rfl
  · cases failed
    exact mem_of_type rfl

theorem showable_nil : Showable [] := by
  intro entry mem
  cases mem

theorem showable_put {name count : Value} (first : name.isShowable = true)
    (second : count.isShowable = true) (showable : table.Showable) :
    (table.put name count).Showable := by
  induction table with
  | nil => exact List.forall_mem_cons.mpr ⟨⟨first, second⟩, showable_nil⟩
  | cons entry rest ih =>
    obtain ⟨here, others⟩ := List.forall_mem_cons.mp showable
    unfold put
    split
    · exact List.forall_mem_cons.mpr ⟨⟨here.1, second⟩, others⟩
    · exact List.forall_mem_cons.mpr ⟨here, ih others⟩

theorem isShowable_of_parts? {parts : List Value} (short : v.isShowable = true)
    (taken : parts? v = some parts) : ∀ part ∈ parts, part.isShowable = true := by
  cases v with
  | list items =>
    cases taken
    exact Value.isShowable_list.mp short
  | text s =>
    cases taken
    exact List.forall_mem_map.mpr fun _ _ => rfl
  | object fields =>
    cases taken
    exact List.forall_mem_map.mpr fun _ _ => rfl
  | null | bool _ | int _ | real _ | bytes _ => cases taken

theorem showable_of_putEntry {table' : CountTable} (short : entry.isShowable = true)
    (showable : table.Showable) (made : putEntry index table entry = .ok table') :
    table'.Showable := by
  unfold putEntry at made
  split at made
  · cases made
  · rename_i name count taken
    have parts := isShowable_of_parts? short taken
    split at made <;> cases made
    exact showable_put (parts name (by simp)) (parts count (by simp)) showable
  · cases made

theorem showable_of_ofEntries {table' : CountTable} {entries : List Value}
    (short : ∀ entry ∈ entries, entry.isShowable = true) (showable : table.Showable)
    (made : ofEntries index table entries = .ok table') : table'.Showable := by
  induction entries generalizing index table with
  | nil =>
    cases made
    exact showable
  | cons entry rest ih =>
    obtain ⟨first, others⟩ := List.forall_mem_cons.mp short
    unfold ofEntries at made
    split at made
    · cases made
    · rename_i put
      exact ih others (showable_of_putEntry first showable put) made

theorem showable_of_ofValue (short : v.isShowable = true) (made : ofValue v = .ok table) :
    table.Showable := by
  unfold ofValue at made
  split at made
  · cases made
    exact List.forall_mem_map.mpr fun field mem => ⟨rfl, Value.isShowable_object.mp short _ mem⟩
  · exact showable_of_ofEntries (Value.isShowable_list.mp short) showable_nil made
  · split at made <;> cases made
    exact showable_nil
  · cases made

end CountTable

namespace Output

variable {v : Value} {name : String}

theorem kind_of_table : ∀ f, table v name = .error f → f.kind ∈ reportKinds := by
  intro f failed
  unfold table at failed
  split at failed
  · cases failed
  · exact CountTable.kind_of_ofValue f failed

/-! ## Cycles -/

theorem integer_infinite (negative : Bool) :
    integer (.real (.infinite negative)) = .error .infinityToInteger :=
  rfl

theorem kind_of_integer : ∀ f, integer v = .error f →
    f.kind ∈ reportKinds ∨ ∃ negative, v = .real (.infinite negative) := by
  intro f failed
  unfold integer at failed
  split at failed
  · cases failed
  · cases failed
  · rename_i x
    cases x with
    | finite negative significand exponent => cases failed
    | infinite negative => exact .inr ⟨negative, rfl⟩
    | nan =>
      cases failed
      exact .inl (mem_of_value rfl)
  · split at failed <;> cases failed <;> exact .inl (mem_of_value rfl)
  · cases failed
    exact .inl (mem_of_type rfl)

/-! ## Reports -/

/-- The result gives public values and an infinite number of cycles. -/
def Endless (v : Value) : Prop :=
  (∃ data, (field v "publicValues" >>= bytes) = .ok data) ∧
    ∃ negative, field v "cycles" = .ok (.real (.infinite negative))

theorem report_of_endless (endless : Endless v) : report v = .error .infinityToInteger := by
  obtain ⟨⟨data, values⟩, negative, cycles⟩ := endless
  obtain ⟨text, given, decoded⟩ := Except.bind_eq_ok.mp values
  rw [report, given, Except.ok_bind, decoded, Except.ok_bind, cycles, Except.ok_bind,
    integer_infinite]
  rfl

theorem kind_of_report : ∀ f, report v = .error f → f.kind ∈ reportKinds ∨ Endless v := by
  -- The fields are read one after the other, so the cycles are looked at behind good public values.
  refine Except.bind_errors (fun f failed => .inl (mem_of_key (kind_of_field f failed)))
      fun text given =>
    Except.bind_errors (fun f failed => .inl (mem_of_value (kind_of_bytes f failed)))
      fun data decoded =>
    Except.bind_errors (fun f failed => .inl (mem_of_key (kind_of_field f failed)))
      fun count counted =>
    Except.bind_errors (fun f failed => (kind_of_integer f failed).imp_right ?_) fun cycles _ =>
    Except.bind_errors (fun f failed => .inl (kind_of_table f failed)) fun opcodes _ =>
    Except.bind_errors (fun f failed => .inl (kind_of_table f failed)) fun syscalls _ => ?_
  · rintro ⟨negative, rfl⟩
    exact ⟨⟨data, Except.bind_eq_ok.mpr ⟨text, given, decoded⟩⟩, negative, counted⟩
  · exact fun f failed => by cases failed

theorem isShowable_of_result {stdout : String} (printed : result stdout = .ok v) :
    v.isShowable = true := by
  unfold result at printed
  split at printed
  · cases printed
  · rename_i line _
    cases read : Json.read line with
    | ok v' =>
      rw [read] at printed
      cases printed
      exact Json.isShowable_of_read read
    | error refusal =>
      rw [read] at printed
      cases printed

theorem showable_of_table {table' : CountTable} (short : v.isShowable = true)
    (made : table v name = .ok table') : table'.Showable := by
  unfold table at made
  split at made
  · cases made
    exact CountTable.showable_nil
  · rename_i counts found
    refine CountTable.showable_of_ofValue ?_ made
    cases v with
    | object fields => exact Value.isShowable_get? short found
    | null | bool _ | int _ | real _ | text _ | bytes _ | list _ => cases found

theorem showable_of_report {r : Execution} (short : v.isShowable = true)
    (made : report v = .ok r) : r.opcodeCounts.Showable ∧ r.syscallCounts.Showable := by
  unfold report at made
  obtain ⟨_, -, made⟩ := Except.bind_eq_ok.mp made
  obtain ⟨_, -, made⟩ := Except.bind_eq_ok.mp made
  obtain ⟨_, -, made⟩ := Except.bind_eq_ok.mp made
  obtain ⟨_, -, made⟩ := Except.bind_eq_ok.mp made
  obtain ⟨opcodes, first, made⟩ := Except.bind_eq_ok.mp made
  obtain ⟨syscalls, second, made⟩ := Except.bind_eq_ok.mp made
  cases made
  exact ⟨showable_of_table short first, showable_of_table short second⟩

def obstacle? (stdout : String) : Option Fault :=
  match result stdout >>= report with
  | .ok _ => none
  | .error f => some f

theorem ne_infinity_of_result {stdout : String} :
    ∀ f, result stdout = .error f → f ≠ .infinityToInteger := by
  intro f failed
  unfold result at failed
  split at failed
  · cases failed
    simp
  · rename_i line _
    cases read : Json.read line with
    | ok v =>
      rw [read] at failed
      cases failed
    | error refusal =>
      rw [read] at failed
      cases failed
      cases refusal <;> simp [Json.Refusal.fault]

end Output

/-! ## Executions -/

namespace Prover.External

variable {p : Prover.External} {host : Host τ} {env : Environment} {input : GuestInput}
  {d : Desk (ExternalState τ)} {e : Exit}

def reportOf (e : Exit) : Outcome Execution := do
  let v ← DriverError.lift (resultOf .execute e)
  reading reportKinds .execution "execution report" (Output.report v)

theorem execute_of_exited
    (exited : (host.start (p.executeCommand host env input) d.client.host).1 = .exited e)
    (success : e.status = 0) : ((p.execute host env input).run d).1 = reportOf e := by
  obtain ⟨journal, ran⟩ := p.run_run host (p.executeCommand host env input) d
  rw [exited, classify_of_success success] at ran
  have goesOn := Act.run_bind_of_ok ran fun exit => (do
    let v ← Act.ofDriver (resultOf .execute exit)
    Act.ofOutcome (reading reportKinds .execution "execution report" (Output.report v)))
  refine (congrArg Prod.fst goesOn).trans ?_
  unfold reportOf
  cases resultOf .execute e <;> rfl

/-- The tables of every report that an execution returns can be shown. -/
theorem showable_of_execute {report : Execution} {d' : Desk (ExternalState τ)}
    (returned : (p.execute host env input).run d = (.ok report, d')) :
    report.opcodeCounts.Showable ∧ report.syscallCounts.Showable := by
  unfold execute at returned
  obtain ⟨e, d₁, ran, returned⟩ := Act.run_bind_eq_ok.mp returned
  obtain ⟨v, read, returned⟩ := Act.ofDriver_bind_eq_ok.mp returned
  obtain ⟨reported, -⟩ := Prod.mk.inj returned
  exact Output.showable_of_report (Output.isShowable_of_result (ok_of_resultOf read))
    (ok_of_reading reported)

def PrintedEndless (e : Exit) : Prop :=
  ∃ v, Output.result e.stdout = .ok v ∧ Output.Endless v

theorem printedEndless_iff :
    PrintedEndless e ↔ Output.obstacle? e.stdout = some .infinityToInteger := by
  unfold Output.obstacle?
  constructor
  · rintro ⟨v, printed, endless⟩
    rw [printed, Except.ok_bind, Output.report_of_endless endless]
  · intro obstacle
    cases printed : Output.result e.stdout with
    | error f =>
      rw [printed] at obstacle
      cases obstacle
      exact absurd rfl (Output.ne_infinity_of_result _ printed)
    | ok v =>
      rw [printed, Except.ok_bind] at obstacle
      cases read : Output.report v with
      | ok report =>
        rw [read] at obstacle
        cases obstacle
      | error f =>
        rw [read] at obstacle
        cases obstacle
        exact ⟨v, printed, (Output.kind_of_report _ read).resolve_left (by decide)⟩

instance : Decidable (PrintedEndless e) :=
  decidable_of_iff _ printedEndless_iff.symm

theorem reportOf_of_endless (endless : PrintedEndless e) :
    reportOf e = .error (.fault .infinityToInteger) := by
  obtain ⟨v, printed, endless⟩ := endless
  rw [reportOf, resultOf, printed]
  change reading _ _ _ (Output.report v) = _
  rw [Output.report_of_endless endless]
  rfl

theorem reportOf_of_not_endless (finite : ¬ PrintedEndless e) :
    (∃ v report, Output.result e.stdout = .ok v ∧ Output.report v = .ok report ∧
      reportOf e = .ok report) ∨
    ∃ text, reportOf e = .error (.driver (Category.execution.error text)) := by
  unfold reportOf resultOf
  cases printed : Output.result e.stdout with
  | error f => exact .inr ⟨_, rfl⟩
  | ok v =>
    change (∃ w report, _ ∧ _ ∧ reading _ _ _ (Output.report v) = _) ∨
      ∃ text, reading _ _ _ (Output.report v) = _
    cases read : Output.report v with
    | ok report => exact .inl ⟨v, report, rfl, read, rfl⟩
    | error f =>
      have known := (Output.kind_of_report f read).resolve_right fun endless =>
        finite ⟨v, printed, endless⟩
      exact .inr ⟨_, if_pos known⟩

/-- Whatever an execution prints that ended well, it comes to the report that the result line gives or
to an error of execution, but for an infinite number of cycles. -/
theorem execute_reports_or_fails (p : Prover.External) (host : Host τ) (env : Environment)
    (input : GuestInput) (d : Desk (ExternalState τ)) {e : Exit}
    (exited : (host.start (p.executeCommand host env input) d.client.host).1 = .exited e)
    (success : e.status = 0) :
    (¬ PrintedEndless e →
      (∃ v report, Output.result e.stdout = .ok v ∧ Output.report v = .ok report ∧
        ((p.execute host env input).run d).1 = .ok report) ∨
      ∃ text, ((p.execute host env input).run d).1 =
        .error (.driver (Category.execution.error text))) ∧
    (PrintedEndless e →
      ((p.execute host env input).run d).1 = .error (.fault .infinityToInteger)) := by
  rw [execute_of_exited exited success]
  exact ⟨reportOf_of_not_endless, reportOf_of_endless⟩

def printing (stdout : String) : Host Unit where
  scratch := "t"
  start _ s := (.exited { stdout }, s)

theorem execute_reports_or_fails_finite :
    let e : Exit := { stdout := "\x7b\"publicValues\": \"0x\", \"cycles\": 8.5\x7d" }
    let p : Prover.External := ⟨⟨.relative, ["p"]⟩, ⟨.relative, ["e"]⟩, false, none⟩
    ((printing e.stdout).start (p.executeCommand (printing e.stdout) [] (.ofIndex 7)) ()).1 =
        .exited e ∧ e.status = 0 ∧
      ((∃ v report, Output.result e.stdout = .ok v ∧ Output.report v = .ok report ∧
          ((p.execute (printing e.stdout) [] (.ofIndex 7)).run ⟨{ host := () }, []⟩).1 =
            .ok report) ∨
        ∃ text, ((p.execute (printing e.stdout) [] (.ofIndex 7)).run ⟨{ host := () }, []⟩).1 =
          .error (.driver (Category.execution.error text))) := by
  intro e p
  have finite : ¬ PrintedEndless e := by decide +kernel
  exact ⟨rfl, rfl, (execute_reports_or_fails p (printing e.stdout) [] (.ofIndex 7)
    ⟨{ host := () }, []⟩ (e := e) rfl rfl).1 finite⟩

/-- A process that ends well and counts no end of cycles makes a call to execute fail with a fault that
is no error of the driver. -/
theorem exists_execute_fault :
    let stdout := "\x7b\"publicValues\": \"0x\", \"cycles\": Infinity\x7d"
    let p : Prover.External := ⟨⟨.relative, ["p"]⟩, ⟨.relative, ["e"]⟩, false, none⟩
    let r := ((p.execute (printing stdout) [] (.ofIndex 7)).run ⟨{ host := () }, []⟩).1
    (∀ c s, ((printing stdout).start c s).1 = .exited { status := 0, stdout }) ∧
      r = .error (.fault .infinityToInteger) ∧
      ¬ ((∃ report, r = .ok report) ∨ ∃ error, r = .error error ∧ error.Within [.execution]) := by
  intro stdout p r
  have endless : PrintedEndless { stdout } := by decide +kernel
  have fault : r = .error (.fault .infinityToInteger) :=
    (execute_of_exited rfl rfl).trans (reportOf_of_endless endless)
  refine ⟨fun _ _ => rfl, fault, ?_⟩
  rw [fault]
  rintro (⟨_, absurd⟩ | ⟨_, same, _, driver, -⟩)
  · cases absurd
  · cases same
    cases driver

end Prover.External

end ProofDriver

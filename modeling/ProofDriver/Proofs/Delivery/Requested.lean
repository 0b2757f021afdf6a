import ProofDriver.Proofs.Delivery.Served
import ProofDriver.Proofs.Prover.Lines
import ProofDriver.Proofs.PublicValues
/-!
# Results for the requested index

An external prover gets the requested index as the input of its process, and what it prints is taken
for the answer. The results are for the index that the process answered for, so they are for the
requested one wherever processes are faithful; nothing else ties the two together.
-/

namespace ProofDriver

variable {τ : Type}

open Prover.External (Printed)

theorem Host.Played.exists_start_of_mem {host : Host τ} {s s' : τ} {exchanges : List Exchange}
    (played : host.Played s exchanges s') {c : Command} {e : Exit} (mem : (c, e) ∈ exchanges) :
    ∃ t t', host.start c t = (.exited e, t') := by
  induction played with
  | nil => cases mem
  | cons start _ ih =>
    rcases List.mem_cons.mp mem with here | later
    · cases here
      exact ⟨_, _, start⟩
    · exact ih later

def Host.Faithful (host : Host τ) : Prop :=
  ∀ c s e s' (i : UInt32) data values, host.start c s = (.exited e, s') →
    c.stdin = some (Bytes.littleEndian 4 i.toNat) → Printed e data →
    PublicValues.decode data = .ok values → values.n = i

def ExternalState.Answered (host : Host τ) (s s' : ExternalState τ) (i : UInt32)
    (values : PublicValues) : Prop :=
  ∃ exchanges c e data, s.Exchanged host exchanges s' ∧ (c, e) ∈ exchanges ∧
    c.stdin = some (Bytes.littleEndian 4 i.toNat) ∧ Printed e data ∧
    PublicValues.decode data = .ok values

theorem ExternalState.Answered.index {host : Host τ} {s s' : ExternalState τ} {i : UInt32}
    {values : PublicValues} (answered : s.Answered host s' i values) (faithful : host.Faithful) :
    values.n = i := by
  obtain ⟨exchanges, c, e, data, exchanged, mem, given, printed, decoded⟩ := answered
  obtain ⟨t, t', start⟩ := exchanged.played.exists_start_of_mem mem
  exact faithful c t e t' i data values start given printed decoded

namespace Prover.External

variable {p : Prover.External} {host : Host τ} {env : Environment}

theorem printed_of_report {e : Exit} {v : Value} {report : Execution}
    (read : Output.result e.stdout = .ok v) (reported : Output.report v = .ok report) :
    Printed e report.publicValues := by
  unfold Output.report at reported
  obtain ⟨text, field, reported⟩ := Except.bind_eq_ok.mp reported
  obtain ⟨data, decoded, reported⟩ := Except.bind_eq_ok.mp reported
  obtain ⟨count, -, reported⟩ := Except.bind_eq_ok.mp reported
  obtain ⟨cycles, -, reported⟩ := Except.bind_eq_ok.mp reported
  obtain ⟨opcodes, -, reported⟩ := Except.bind_eq_ok.mp reported
  obtain ⟨syscalls, -, reported⟩ := Except.bind_eq_ok.mp reported
  cases reported
  exact ⟨v, text, read, field, decodeValue_of_bytes decoded⟩

theorem execute_ok {input : GuestInput} {report : Execution} {d d' : Desk (ExternalState τ)}
    (h : (p.execute host env input).run d = (.ok report, d')) :
    ∃ c e, c.stdin = some input.buffer ∧ d.client.Exchanged host [(c, e)] d'.client ∧
      Printed e report.publicValues := by
  unfold execute at h
  obtain ⟨e, d₁, ran, h⟩ := Act.run_bind_eq_ok.mp h
  obtain ⟨v, read, h⟩ := Act.ofDriver_bind_eq_ok.mp h
  obtain ⟨reported, rfl⟩ := Prod.mk.inj h
  obtain ⟨exchanged, -⟩ := run_ok ran
  exact ⟨_, e, rfl, exchanged, printed_of_report (ok_of_resultOf read) (ok_of_reading reported)⟩

end Prover.External

namespace Delivery

variable {p : Prover.External} {host : Host τ} {env : Environment}

theorem answered_of_preview {n : Value} {w w' : World (ExternalState τ)} {report : Execution}
    {values : PublicValues}
    (previewed : (preview (p.client host env) n).run w = (.ok (report, values), w')) :
    ∃ i : UInt32, n = .int i.toNat ∧ w.client.Answered host w'.client i values := by
  obtain ⟨input, valid, ⟨-, before, after, executed⟩, decoded⟩ := preview_ok previewed
  obtain ⟨i, hn, buffer⟩ := GuestInput.ofValue_eq_ok valid
  obtain ⟨c, e, given, exchanged, printed⟩ := Prover.External.execute_ok executed
  rw [buffer] at given
  exact ⟨i, hn, [(c, e)], c, e, _, exchanged, List.mem_singleton_self _, given, printed, decoded⟩

theorem answered_of_delivery {settings : Settings} {sink : Sink} {n mode : Value}
    {output : Option Path} {w w' : World (ExternalState τ)} {fixture : Fixture} {path : Path}
    (delivered : (deliver (p.client host env) settings sink n mode output).run w =
      (.ok (fixture, path), w')) :
    ∃ (i : UInt32) (values : PublicValues), n = .int i.toNat ∧
      w.client.Answered host w'.client i values ∧ fixture.n = values.n.toNat := by
  have course := (deliver_ends (p.client host env) settings sink n mode output w).run_eq delivered
  cases course with
  | @stored m input run _ _ _ known valid checked made saved kept =>
    obtain ⟨w₁, course, -, before, after, verified⟩ := checked
    obtain ⟨i, hn, buffer⟩ := GuestInput.ofValue_eq_ok valid
    obtain ⟨keyed, proof, e, wrapping, exchanged, -, -, printed, -, -⟩ := exchanged_of_course course
    obtain ⟨e', exchanged', -, -⟩ := Prover.External.verify_ok verified
    obtain ⟨values, decoded, index, -, -⟩ := (Fixture.attests_ofProof made).values
    have given : (p.proveCommand host env input (provedMode m)).stdin =
        some (Bytes.littleEndian 4 i.toNat) := congrArg some buffer
    have whole := exchanged.append exchanged'
    rw [← kept] at whole
    have mem : (p.proveCommand host env input (provedMode m), e) ∈ keyed ++
        [(p.proveCommand host env input (provedMode m), e)] ++ wrapping ++
          [(p.verifyCommand host env run.proof run.publicValues run.vkey, e')] := by simp
    exact ⟨i, values, hn, ⟨_, _, e, _, whole, mem, given, printed, decoded⟩, index⟩

/-- A preview and a delivery succeed only for an index, and what they say is for the index in the
values that a process printed when it was given this index. Where processes are faithful the results
are for the requested index. -/
theorem results_are_for_answered_index (p : Prover.External) (host : Host τ) (env : Environment)
    (settings : Settings) (sink : Sink) (n mode : Value) (output : Option Path)
    (w : World (ExternalState τ)) :
    (∀ report values w', (preview (p.client host env) n).run w = (.ok (report, values), w') →
      ∃ i : UInt32, n = .int i.toNat ∧ w.client.Answered host w'.client i values ∧
        (host.Faithful → values.n = i)) ∧
    ∀ fixture path w', (deliver (p.client host env) settings sink n mode output).run w =
        (.ok (fixture, path), w') →
      ∃ (i : UInt32) (values : PublicValues), n = .int i.toNat ∧
        w.client.Answered host w'.client i values ∧ fixture.n = values.n.toNat ∧
        (host.Faithful → fixture.n = i.toNat) := by
  constructor
  · intro report values w' previewed
    obtain ⟨i, hn, answered⟩ := answered_of_preview previewed
    exact ⟨i, hn, answered, answered.index⟩
  · intro fixture path w' delivered
    obtain ⟨i, values, hn, answered, index⟩ := answered_of_delivery delivered
    refine ⟨i, values, hn, answered, index, fun faithful => ?_⟩
    rw [index, answered.index faithful]

def eighth : PublicValues :=
  ⟨8, 21, 34⟩

def mistaken : Host Unit where
  scratch := "/tmp"
  start c _ :=
    let line (opening name : String) (data : Bytes) : String :=
      opening ++ name ++ "\": \"" ++ Hex.encode data ++ "\"\x7d"
    (.exited (match c.subcommand with
      | .vkey => { stdout := line "\x7b\"" "vkey" (List.replicate 32 0) }
      | .execute => { stdout := line "\x7b\"cycles\": 0, \"" "publicValues" eighth.encode }
      | .prove => { stdout := line "\x7b\"" "publicValues" eighth.encode, out := some [1] }
      | _ => {}), ())

theorem reports_mistaken : mistaken.Answers .execute fun e =>
    ∃ v, Output.result e.stdout = .ok v ∧
      Output.report v = .ok { publicValues := eighth.encode, cycles := 0 } := by
  rintro ⟨_, _, _, _, _, _, _⟩ s ⟨⟩
  exact ⟨_, _, rfl, rfl, Output.report_line _⟩

theorem serves_mistaken : mistaken.Serves zeroKey eighth.encode [1] where
  keys := by
    rintro ⟨_, _, _, _, _, _, _⟩ s ⟨⟩
    exact ⟨_, _, rfl, rfl, Output.vkey_line zeroKey⟩
  proves := by
    rintro ⟨_, _, _, _, _, _, _⟩ s ⟨⟩
    exact ⟨_, _, rfl, rfl, rfl, Output.proved_line _ zeroKey⟩
  verifies := by
    rintro ⟨_, _, _, _, _, _, _⟩ s ⟨⟩
    exact ⟨_, _, rfl, rfl, trivial⟩

def misled : Client (ExternalState Unit) :=
  Prover.External.client ⟨⟨.relative, ["p"]⟩, ⟨.relative, ["e"]⟩, false, none⟩ mistaken []

/-- Asked for index seven, the driver shows and delivers results for index eight. -/
theorem exists_result_for_another_index :
    (∃ report, ((preview misled (.int 7)).run unasked).1 = .ok (report, ⟨8, 21, 34⟩)) ∧
      ∃ fixture path, ((deliver misled {} .journal (.int 7) (.text "core")
          (some ⟨.relative, ["f"]⟩)).run unasked).1 = .ok (fixture, path) ∧ fixture.n = 8 := by
  have decoded : PublicValues.decode eighth.encode = .ok eighth := PublicValues.decode_encode eighth
  have known : ProofMode.ofValue (.text "core") = .ok .core := ProofMode.core.ofValue_name
  have empty : CountTable.Tidy [] := fun entry mem => by cases mem
  have previewed : (preview misled (.int 7)).Ends unasked fun r _ => r = .ok (_, eighth) :=
    preview_served reports_mistaken rfl decoded empty empty unasked
  constructor
  · exact ⟨_, previewed⟩
  · refine ⟨_, _, deliver_served serves_mistaken (fun key kept => by cases kept) known (by decide)
      rfl (Fixture.ofProof_eq_ok.mpr ⟨eighth, decoded, rfl⟩) ⟨fun f mem => (by cases mem), trivial⟩
      writable_unasked, ?_⟩
    rfl

end Delivery

end ProofDriver

import ProofDriver.Proofs.Delivery.Course
import ProofDriver.Proofs.FileSystem.Load
import ProofDriver.Proofs.Fixture
/-!
# Only verified proofs leave the driver

Whatever the client answers, a delivery changes the disk only after the client has verified the run
that it proved last, and then the fixture that is written is the fixture of that run.
-/

namespace ProofDriver

namespace Delivery

variable {σ : Type}

/-- The events of a delivery whose run was verified: the calls that led to the run and one
verification, of exactly this run. -/
def Verified (input : GuestInput) (mode : ProofMode) (run : Receipt) (events : List Event) : Prop :=
  ∃ calls, Strategy.Proved input mode run calls ∧
    events = calls ++ [.verify run.proof run.publicValues run.vkey (.ok true)]

theorem Checked.trace {client : Client σ} {input : GuestInput} {mode : ProofMode} {run : Receipt}
    {answer : Outcome Bool} {w : World σ} {w' : World (σ × List Event)}
    (checked : Checked client.traced input mode w.traced run answer w') :
    ∃ calls, Strategy.Proved input mode run calls ∧
      w'.trace = calls ++ [.verify run.proof run.publicValues run.vkey answer] := by
  obtain ⟨w₁, course, asked⟩ := checked
  obtain ⟨calls, proved, trace⟩ := course.trace_of_ok
  rw [World.trace_traced, List.nil_append] at trace
  exact ⟨calls, proved, by rw [asked.trace, trace]⟩

theorem answer_of_mem {input : GuestInput} {mode : ProofMode} {run : Receipt} {calls : List Event}
    {answer answer' : Outcome Bool} {proof : Proof} {publicValues : Bytes} {vkey : VerifyingKey}
    (proved : Strategy.Proved input mode run calls)
    (mem : .verify proof publicValues vkey answer' ∈
      calls ++ [.verify run.proof run.publicValues run.vkey answer]) : answer' = answer := by
  cases proved <;> simp_all

theorem document_reads {fixture : Fixture} {proof : Proof} {publicValues : Bytes}
    {vkey : VerifyingKey} {dev : Bool}
    (made : Fixture.ofProof publicValues proof vkey dev = .ok fixture) :
    ∃ text fields, Disk.document fixture.toValue = Text.utf8Bytes (String.ofList text) ∧
      Json.read text = .ok (.object fields) ∧ fields.Perm fixture.toFields := by
  obtain ⟨fields, sorted, perm⟩ := fixture.exists_sorted_toValue
  refine ⟨_, fields, rfl, ?_, perm⟩
  rw [Json.read_render (Fixture.plain_ofProof made), sorted]

structure Exported (client : Client σ) (settings : Settings) (n mode : Value)
    (output : Option Path) (before after : FileSystem) (events : List Event) (fixture : Fixture)
    (path : Path) : Prop where
  verified : ∃ m input run, ProofMode.ofValue mode = .ok m ∧ GuestInput.ofValue n = .ok input ∧
    Verified input m run events ∧ fixture.Attests run.proof run.publicValues run.vkey ∧
    path = output.getD (settings.fixturePath m)
  dev : fixture.dev = !client.sound
  wrote : ∃ l, Disk.Wrote fixture.toValue path l before after
  reads : ∃ text fields, Disk.document fixture.toValue = Text.utf8Bytes (String.ofList text) ∧
    Json.read text = .ok (.object fields) ∧ fields.Perm fixture.toFields

namespace Course

variable {client : Client σ} {settings : Settings} {n mode : Value} {output : Option Path}
  {w : World σ} {w' : World (σ × List Event)} {r : Outcome (Fixture × Path)}

theorem verified_of_changed (course : Course client.traced settings n mode output w.traced r w')
    (changed : w'.disk.files ≠ w.disk.files) :
    ∃ m input run, ProofMode.ofValue mode = .ok m ∧ GuestInput.ofValue n = .ok input ∧
      Verified input m run w'.trace := by
  have same (h : w'.disk = w.traced.disk) : False := changed (by rw [h]; rfl)
  cases course with
  | unknownMode _ | invalidInput _ _ => exact absurd rfl changed
  | unproved _ _ course => exact (same course.disk).elim
  | unanswered _ _ checked | rejected _ _ checked => exact (same checked.disk).elim
  | unencodable _ _ checked _ => exact (same checked.disk).elim
  | unsaved known valid checked _ _ kept | stored known valid checked _ _ kept =>
    obtain ⟨calls, proved, trace⟩ := checked.trace
    refine ⟨_, _, _, known, valid, calls, proved, ?_⟩
    rw [← trace, World.trace, kept]
    rfl

theorem exported {fixture : Fixture} {path : Path}
    (course : Course client.traced settings n mode output w.traced (.ok (fixture, path)) w') :
    Exported client settings n mode output w.disk.files w'.disk.files w'.trace fixture path := by
  cases course with
  | stored known valid checked made saved kept =>
    obtain ⟨calls, proved, trace⟩ := checked.trace
    have events : w'.trace = _ := (congrArg Prod.snd kept).trans trace
    refine ⟨⟨_, _, _, known, valid, ⟨calls, proved, events⟩, Fixture.attests_ofProof made, rfl⟩,
      Fixture.dev_ofProof made, ?_, document_reads made⟩
    have wrote := Disk.wrote_of_save saved
    rwa [checked.disk] at wrote

theorem unchanged_of_rejected {proof : Proof} {publicValues : Bytes} {vkey : VerifyingKey}
    (course : Course client.traced settings n mode output w.traced r w')
    (rejected : .verify proof publicValues vkey (.ok false) ∈ w'.trace) :
    (∃ e, r = .error (.driver e) ∧ e.category = .verification) ∧ w'.disk = w.disk := by
  have answered {m : ProofMode} {input : GuestInput} {run : Receipt} {answer : Outcome Bool}
      {w₂ : World (σ × List Event)}
      (checked : Checked client.traced input m w.traced run answer w₂)
      (kept : w'.client = w₂.client) : .ok false = answer := by
    obtain ⟨calls, proved, trace⟩ := checked.trace
    rw [World.trace, kept] at rejected
    rw [← World.trace, trace] at rejected
    exact answer_of_mem proved rejected
  cases course with
  | unknownMode _ | invalidInput _ _ => cases rejected
  | unproved _ _ course =>
    obtain ⟨events, trace, no_verify⟩ := course.trace_no_verify
    rw [trace, World.trace_traced, List.nil_append] at rejected
    cases no_verify _ rejected
  | unanswered _ _ checked => cases answered checked rfl
  | rejected _ _ checked => exact ⟨⟨_, rfl, rfl⟩, checked.disk⟩
  | unencodable _ _ checked _ => cases answered checked rfl
  | unsaved _ _ checked _ _ kept | stored _ _ checked _ _ kept => cases answered checked kept

end Course

/-- A delivery is the same with and without a trace. It changes the disk only after the client has
verified the last run, what it returns is what it has written and had verified, and a rejected proof
leaves no mark. -/
theorem deliver_exports_only_verified (client : Client σ) (settings : Settings) (sink : Sink)
    (n mode : Value) (output : Option Path) (w : World σ) :
    let (result, after) := (deliver client.traced settings sink n mode output).run w.traced
    (deliver client settings sink n mode output).run w = (result, after.untraced) ∧
    (after.disk.files ≠ w.disk.files →
      ∃ m input run, ProofMode.ofValue mode = .ok m ∧ GuestInput.ofValue n = .ok input ∧
        Verified input m run after.trace) ∧
    (∀ fixture path, result = .ok (fixture, path) →
      Exported client settings n mode output w.disk.files after.disk.files after.trace
        fixture path) ∧
    (∀ proof publicValues vkey,
      .verify proof publicValues vkey (.ok false) ∈ after.trace →
        (∃ e, result = .error (.driver e) ∧ e.category = .verification) ∧
          after.disk = w.disk) := by
  have mirrored := mirrors_deliver client settings sink n mode output w.traced
  have course := deliver_ends client.traced settings sink n mode output w.traced
  unfold Act.Ends at course
  rcases ran : (deliver client.traced settings sink n mode output).run w.traced with
    ⟨result, after⟩
  rw [ran, World.untraced_traced] at mirrored
  rw [ran] at course
  refine ⟨mirrored, course.verified_of_changed, ?_, ?_⟩
  · rintro fixture path rfl
    exact course.exported
  · intro proof publicValues vkey
    exact course.unchanged_of_rejected

end Delivery

end ProofDriver

import ProofDriver.Proofs.Delivery.Recheck
/-!
# Rechecking an arbitrary file

The bytes of a file are taken as a text, the text as JSON, the JSON as a fixture and the hexadecimal
texts in it as public values. Whatever the bytes are, one of these layers refuses them before the
client is called, or the recheck takes its course. Refusals are errors of the driver, with two
exceptions in the outer layers: bytes that are no text, and an integer with too many digits.
-/

namespace ProofDriver

namespace Disk

variable {fs : FileSystem} {path : Path} {data : Bytes} {f : Fault}

def parse (data : Bytes) : Except Fault Value :=
  match Text.decodeUtf8 data with
  | .error e => .error (.undecodable e)
  | .ok text => (Json.read (Text.unifyLineBreaks text.toList)).mapError Json.Refusal.fault

/-- The bytes are no text, or the text writes an integer with more digits than are read. -/
inductive Unreadable (data : Bytes) : Fault → Prop
  | text {e} : Text.decodeUtf8 data = .error e → Unreadable data (.undecodable e)
  | integer {text count} : Text.decodeUtf8 data = .ok text →
      Json.read (Text.unifyLineBreaks text.toList) = .error (.tooManyDigits count) →
      Unreadable data (.tooManyDigits count)

theorem Unreadable.parse_eq (unreadable : Unreadable data f) : parse data = .error f := by
  unfold parse
  cases unreadable with
  | text undecodable => rw [undecodable]
  | integer decoded long =>
    rw [decoded]
    dsimp only
    rw [long]
    rfl

theorem unreadable_or_json (refused : parse data = .error f) :
    Unreadable data f ∨ ∃ e, f = .json e := by
  unfold parse at refused
  cases decoded : Text.decodeUtf8 data with
  | error e =>
    rw [decoded] at refused
    cases refused
    exact .inl (.text decoded)
  | ok text =>
    rw [decoded] at refused
    dsimp only at refused
    cases read : Json.read (Text.unifyLineBreaks text.toList) with
    | ok v =>
      rw [read] at refused
      cases refused
    | error refusal =>
      rw [read] at refused
      cases refusal with
      | malformed e =>
        cases refused
        exact .inr ⟨e, rfl⟩
      | tooManyDigits count =>
        cases refused
        exact .inl (.integer decoded read)

theorem not_unreadable_json {e : Json.SyntaxError} : ¬ Unreadable data (.json e) := by
  rintro ⟨⟩

theorem load_of_read (read : fs.read path = .ok data) :
    load fs path = Fault.lift (parse data) := by
  unfold load readText parse
  rw [read]
  dsimp only
  cases Text.decodeUtf8 data with
  | error e => rfl
  | ok text =>
    dsimp only
    cases Json.read (Text.unifyLineBreaks text.toList) <;> rfl

end Disk

namespace Fixture

def WellFormed (v : Value) : Prop :=
  ∃ f data values, ofValue v = .ok f ∧ f.publicValuesData = .ok data ∧
    PublicValues.decode data = .ok values

end Fixture

/-- The calls that a recheck may make fail with errors of the driver only. -/
structure Client.Categorized {σ : Type} (client : Client σ) : Prop where
  setup : ∀ desk e, (client.setup.run desk).1 = .error e → ∃ d, e = .driver d
  verify : ∀ proof publicValues vkey desk e,
    ((client.verify proof publicValues vkey).run desk).1 = .error e → ∃ d, e = .driver d

namespace Delivery

variable {σ : Type} {client : Client σ} {shown : String} {data : Bytes} {v : Value}

theorem RecheckCourse.categorized {w w' : World σ} {r : Outcome Fixture}
    (course : RecheckCourse client v w r w') (categorized : client.Categorized) :
    ∀ e, r = .error e → ∃ d, e = .driver d := by
  rintro e rfl
  cases course with
  | malformed _ _ | undecodable _ _ _ | disagreeing _ _ _ _ _ | foreign _ _ _ _
  | rejected _ _ _ _ _ _ => exact ⟨_, rfl⟩
  | keyless _ setup =>
    exact categorized.setup _ e (congrArg Prod.fst (World.run_of_ask setup))
  | unanswered _ _ _ _ verify =>
    exact categorized.verify _ _ _ _ e (congrArg Prod.fst (World.run_of_ask verify))

theorem Genuine.wellFormed {f : Fixture} {publicValues : Bytes}
    (genuine : Genuine v f publicValues) : Fixture.WellFormed v := by
  obtain ⟨values, decoded, -⟩ := genuine.values
  exact ⟨f, publicValues, values, genuine.document, genuine.data, decoded⟩

theorem Rechecked.of_not_wellFormed {r : Outcome Fixture} {events : List Event}
    (rechecked : Rechecked v r events) (illFormed : ¬ Fixture.WellFormed v) :
    events = [] ∧ ∃ e, r = .error (.driver e) ∧ Fixture.IsMalformed e := by
  cases rechecked with
  | malformed _ malformed => exact ⟨rfl, _, rfl, malformed⟩
  | undecodable _ _ _ encoding => exact ⟨rfl, _, rfl, .inl encoding⟩
  | disagreeing described decodes decoded _ _ =>
    exact absurd ⟨_, _, _, described, decodes, decoded⟩ illFormed
  | keyless genuine | foreign genuine _ _ | unanswered genuine _ _ | rejected genuine _ _ _
  | accepted genuine _ _ => exact absurd genuine.wellFormed illFormed

inductive Examined (shown : String) (data : Bytes) : Outcome Fixture → List Event → Prop
  | unreadable {f} : Disk.Unreadable data f → Examined shown data (.error (.fault f)) []
  | unstructured {e} : Disk.parse data = .error (.json e) →
      Examined shown data (.error (.driver
        ⟨.encoding, "read", shown ++ " is not valid JSON: " ++ e.message⟩)) []
  | malformed {v e} : Disk.parse data = .ok v → ¬ Fixture.WellFormed v → Fixture.IsMalformed e →
      Examined shown data (.error (.driver e)) []
  | rechecked {v r events} : Disk.parse data = .ok v → Fixture.WellFormed v →
      (∀ e, r = .error e → ∃ d, e = .driver d) → Examined shown data r events

theorem Examined.fault_iff {r : Outcome Fixture} {events : List Event}
    (examined : Examined shown data r events) (f : Fault) :
    r = .error (.fault f) ↔ Disk.Unreadable data f := by
  have parsed {f' : Fault} {x : Except Fault Value} (parse : Disk.parse data = x)
      (unreadable : Disk.Unreadable data f') : x = .error f' :=
    parse.symm.trans unreadable.parse_eq
  constructor
  · rintro rfl
    cases examined with
    | unreadable unreadable => exact unreadable
    | rechecked _ _ categorized =>
      obtain ⟨d, absurd⟩ := categorized _ rfl
      cases absurd
  · intro unreadable
    cases examined with
    | unreadable unreadable' =>
      cases parsed unreadable'.parse_eq unreadable
      rfl
    | unstructured parse =>
      cases parsed parse unreadable
      exact absurd unreadable Disk.not_unreadable_json
    | malformed parse _ _ => cases parsed parse unreadable
    | rechecked parse _ _ => cases parsed parse unreadable

/-- Whatever bytes a file has, its recheck is refused before any call or takes its course, and with a
client that fails in categories it fails in categories, unless the bytes cannot be read as JSON for a
reason other than its grammar. -/
theorem recheck_arbitrary_file (client : Client σ) (shown : String) (data : Bytes) (w : World σ)
    (read : w.disk.files.read (Path.ofString shown) = .ok data)
    (categorized : client.Categorized) :
    let (result, after) := (recheck client.traced shown).run w.traced
    (recheck client shown).run w = (result, after.untraced) ∧
      Examined shown data result after.trace ∧
      ∀ f, result = .error (.fault f) ↔ Disk.Unreadable data f := by
  have mirrored := mirrors_recheck client shown w.traced
  have loaded := Disk.load_of_read read
  rcases ran : (recheck client.traced shown).run w.traced with ⟨result, after⟩
  rw [ran, World.untraced_traced] at mirrored
  suffices examined : Examined shown data result after.trace from
    ⟨mirrored, examined, examined.fault_iff⟩
  have unread {e : Failure} (refused : Fixture.read w.disk.files shown = .error e) :
      result = .error e ∧ after.trace = [] := by
    have stopped : (recheck client.traced shown).run w.traced = (.error e, w.traced) :=
      recheck_of_unread refused
    cases ran.symm.trans stopped
    exact ⟨rfl, rfl⟩
  cases parsed : Disk.parse data with
  | error f =>
    rw [parsed] at loaded
    obtain unreadable | ⟨e, rfl⟩ := Disk.unreadable_or_json parsed
    · have refused : Fixture.read w.disk.files shown = .error (.fault f) := by
        rw [Fixture.read, loaded]
        cases unreadable <;> rfl
      obtain ⟨rfl, trace⟩ := unread refused
      rw [trace]
      exact .unreadable unreadable
    · have refused : Fixture.read w.disk.files shown = .error (.driver
          ⟨.encoding, "read", shown ++ " is not valid JSON: " ++ e.message⟩) := by
        rw [Fixture.read, loaded]
        rfl
      obtain ⟨rfl, trace⟩ := unread refused
      rw [trace]
      exact .unstructured parsed
  | ok v =>
    rw [parsed] at loaded
    by_cases wellFormed : Fixture.WellFormed v
    · have course := (recheck_ends client shown loaded).run_eq mirrored
      exact .rechecked parsed wellFormed (course.categorized categorized)
    · have course := (recheck_ends client.traced shown (w := w.traced) loaded).run_eq ran
      obtain ⟨trace, e, rfl, malformed⟩ := course.rechecked.of_not_wellFormed wellFormed
      rw [trace]
      exact .malformed parsed wellFormed malformed

theorem categorized_trusting : trusting.Categorized :=
  ⟨fun _ _ failed => (by cases failed), fun _ _ _ _ _ failed => (by cases failed)⟩

/-- A file with an empty list in it is refused as no fixture. -/
theorem exists_malformed_file :
    ∃ data, (holding data).disk.files.read (Path.ofString "f") = .ok data ∧
      trusting.Categorized ∧ Disk.parse data = .ok (.list []) ∧
      ∃ e, ((recheck trusting "f").run (holding data)).1 = .error (.driver e) ∧
        Fixture.IsMalformed e := by
  let data : Bytes := [0x5b, 0x5d]
  have read : (holding data).disk.files.read (Path.ofString "f") = .ok data :=
    FileSystem.read_single data
  have parsed : Disk.parse data = .ok (.list []) := by rfl
  have illFormed : ¬ Fixture.WellFormed (.list []) := by
    rintro ⟨f, _, _, described, -⟩
    cases described
  refine ⟨data, read, categorized_trusting, parsed, ?_⟩
  have examined := recheck_arbitrary_file trusting "f" data (holding data) read
    categorized_trusting
  rcases ran : (recheck trusting.traced "f").run (holding data).traced with ⟨result, after⟩
  rw [ran] at examined
  obtain ⟨mirrored, examined, -⟩ := examined
  rw [mirrored]
  generalize after.trace = events at examined
  cases examined with
  | unreadable unreadable => cases parsed.symm.trans unreadable.parse_eq
  | unstructured refused => cases parsed.symm.trans refused
  | malformed _ _ malformed => exact ⟨_, rfl, malformed⟩
  | rechecked parsed' wellFormed _ =>
    cases parsed.symm.trans parsed'
    exact absurd wellFormed illFormed

/-- A byte that starts no character is not reported as an error of the driver. -/
theorem exists_unreadable_file :
    (holding [0xff]).disk.files.read (Path.ofString "f") = .ok [0xff] ∧ trusting.Categorized ∧
      ((recheck trusting "f").run (holding [0xff])).1 =
        .error (.fault (.undecodable ⟨0, 1, 0xff, .invalidStart⟩)) := by
  have read : (holding [0xff]).disk.files.read (Path.ofString "f") = .ok [0xff] :=
    FileSystem.read_single [0xff]
  have unreadable : Disk.Unreadable [0xff] (.undecodable ⟨0, 1, 0xff, .invalidStart⟩) := .text rfl
  have refused : Fixture.read (holding [0xff]).disk.files "f" =
      .error (.fault (.undecodable ⟨0, 1, 0xff, .invalidStart⟩)) := by
    rw [Fixture.read, Disk.load_of_read read, unreadable.parse_eq]
    rfl
  exact ⟨read, categorized_trusting, by rw [recheck_of_unread refused]⟩

end Delivery

end ProofDriver

import ProofDriver.Proofs.FileSystem.Concurrent
/-!
# No trace but the document

A save asks for one call after the other, and each of them can raise: because the system refuses it,
or for a reason of its own (`SaveJob.raised?`). The first exception that is raised is what the save
fails with (`outcome_run_eq_error_iff`), and then no file has changed. Otherwise the document is at
its destination, and no other file has changed.
-/

namespace ProofDriver

namespace FileSystem

variable {fs fs' : FileSystem} {l : Location}

theorem file_iff (h : fs'.get? l = fs.get? l ∨
    fs.get? l = none ∧ ∃ mode, fs'.get? l = some (.directory mode)) (mode : Nat) (data : Bytes) :
    fs'.get? l = some (.file mode data) ↔ fs.get? l = some (.file mode data) := by
  rcases h with same | ⟨vacant, mode', made⟩
  · rw [same]
  · simp [vacant, made]

end FileSystem

namespace SavePhase

@[simp] def ending? : SavePhase → Option Failure
  | abandoned _ why | failed why => some why
  | _ => none

@[simp] def verb : SavePhase → String
  | begun | parentsMade => "prepare"
  | _ => "write"

end SavePhase

namespace SaveJob

variable {job : SaveJob} {trouble : SaveStep → Option Failure} {fs files : FileSystem}
  {reached : SavePhase × FileSystem} {phase : SavePhase} {why e : Failure} {count : Nat}

/-! ## What the calls raise -/

@[simp] def refusal? {α : Type} : Except Fault α → Option Failure
  | .ok _ => none
  | .error f => some (.fault f)

def nameless : Failure :=
  .fault (.raised .system "[Errno 17] No usable temporary file name found")

/-- What the call that comes next raises, if anything: `trouble`, or what the system refuses it for.
Writing and flushing are never refused; that the destination does not exist is no exception
(`modeAfter`). -/
def raised? (job : SaveJob) (token : String) (trouble : Option Failure) (phase : SavePhase)
    (fs : FileSystem) : Option Failure :=
  match phase with
  | .begun => trouble <|> refusal? (fs.makeDirectories job.umask job.path.parent).1
  | .parentsMade =>
    let temporary := job.temporaryPath token fs
    trouble <|>
      if taken fs temporary then some nameless else refusal? (createFile fs temporary)
  | .created _ | .written _ => trouble
  | .synced _ =>
    match job.modeAfter trouble fs with
    | .ok _ => none
    | .error why => some why
  | .modeKnown t mode => trouble <|> refusal? (fs.setMode t mode)
  | .modeSet t => trouble <|> refusal? (fs.replace t job.path)
  | .finished | .abandoned .. | .failed _ => none

def afterCalls (job : SaveJob) (trouble : SaveStep → Option Failure) (fs : FileSystem)
    (count : Nat) : SavePhase × FileSystem :=
  (List.range count).foldl (fun reached _ => job.advance trouble reached) (.begun, fs)

def Breaks (job : SaveJob) (trouble : SaveStep → Option Failure) (fs : FileSystem) (verb : String)
    (why : Failure) : Prop :=
  ∃ count, let (phase, files) := job.afterCalls trouble fs count
    job.raised? (job.freeToken files) (phase.next?.bind trouble) phase files = some why ∧
      phase.verb = verb

/-- How an exception leaves a save: an error of the system as an error of the driver's own category,
and every other one as it is. -/
inductive Surfaces (job : SaveJob) (verb : String) : Failure → Failure → Prop
  | system (f : Fault) (system : f.isSystemError = true) :
      Surfaces job verb (.fault f) (.driver (Category.io.error
        ("cannot " ++ verb ++ " " ++ job.path.render ++ ": " ++ f.message)))
  | unchanged (why : Failure) (other : ∀ f, why = .fault f → f.isSystemError = false) :
      Surfaces job verb why why

theorem surfaces_iff {verb : String} : job.Surfaces verb why e ↔ e = job.report verb why := by
  constructor
  · rintro (⟨f, system⟩ | ⟨why, other⟩)
    · rw [report, if_pos system]
    · cases why with
      | driver _ => rfl
      | fault f => rw [report, if_neg (by simp [other f rfl])]
  · rintro rfl
    cases why with
    | driver d => exact .unchanged _ (by simp)
    | fault f =>
      cases system : f.isSystemError with
      | true =>
        rw [report, if_pos system]
        exact .system f system
      | false =>
        rw [report, if_neg (by simp [system])]
        exact .unchanged _ (by simp [system])

/-! ## The first exception is the last call -/

/-- A call that raises nothing leads on, and an exception is what the save fails with; only a save
that has no name left for its temporary file stays where it is. -/
theorem step_ending {token : String} {trouble : Option Failure} (going : phase.ending? = none) :
    (job.step token trouble phase fs).1.ending? =
        (job.raised? token trouble phase fs).map (job.report phase.verb) ∨
      phase = .parentsMade ∧ job.raised? token trouble phase fs = some nameless ∧
        job.step token trouble phase fs = (phase, fs) := by
  cases phase with
  | begun =>
    left
    cases trouble with
    | some why => rfl
    | none =>
      rcases made : fs.makeDirectories job.umask job.path.parent with ⟨r, fs'⟩
      cases r <;> simp [step, raised?, made, notPrepared]
  | parentsMade =>
    cases trouble with
    | some why => exact .inl rfl
    | none =>
      cases free : taken fs (job.temporaryPath token fs) with
      | true => exact .inr ⟨rfl, by simp [raised?, free], by simp [step, free]⟩
      | false =>
        left
        cases created : createFile fs (job.temporaryPath token fs) <;>
          simp [step, raised?, free, created, notPrepared]
  | created t | written t =>
    left
    cases trouble <;> rfl
  | synced t =>
    left
    cases read : job.modeAfter trouble fs <;>
      simp [step, raised?, read, notWritten]
  | modeKnown t mode =>
    left
    cases trouble with
    | some why => rfl
    | none =>
      cases set : fs.setMode t mode <;>
        simp [step, raised?, set, notWritten]
  | modeSet t =>
    left
    cases trouble with
    | some why => rfl
    | none =>
      cases replaced : fs.replace t job.path <;>
        simp [step, raised?, replaced, notWritten]
  | finished => exact .inl rfl
  | abandoned _ _ | failed _ => cases going

def Doomed (job : SaveJob) (trouble : SaveStep → Option Failure) (reached : SavePhase × FileSystem)
    (e : Failure) : Prop :=
  reached.1.ending? = some e ∨
    job.Stuck trouble reached ∧ e = job.report "prepare" nameless

theorem Doomed.advance (h : job.Doomed trouble reached e) :
    job.Doomed trouble (job.advance trouble reached) e := by
  rcases h with ended | ⟨stuck, rfl⟩
  · obtain ⟨phase, fs⟩ := reached
    cases phase with
    | abandoned _ _ | failed _ => exact .inl ended
    | _ => cases ended
  · rw [stuck.2]
    exact .inr ⟨stuck, rfl⟩

theorem Doomed.outcome (h : job.Doomed trouble reached e) :
    Disk.outcome job reached.1 = .error e := by
  obtain ⟨phase, fs⟩ := reached
  rcases h with ended | ⟨⟨at_name, -⟩, rfl⟩
  · cases phase with
    | abandoned _ _ | failed _ =>
      cases ended
      rfl
    | _ => cases ended
  · cases at_name
    rfl

theorem ending_of_raised {token : String} {trouble : Option Failure}
    (raised : job.raised? token trouble phase fs = some why) : phase.ending? = none := by
  cases phase with
  | abandoned _ _ | failed _ => cases raised
  | _ => rfl

theorem doomed_of_raised
    (raised : job.raised? (job.freeToken fs) (phase.next?.bind trouble) phase fs = some why) :
    job.Doomed trouble (job.advance trouble (phase, fs)) (job.report phase.verb why) := by
  rcases step_ending (ending_of_raised raised) with ended | ⟨at_name, nameless, stays⟩
  · rw [raised] at ended
    exact .inl ended
  · cases nameless.symm.trans raised
    have stuck : job.Stuck trouble (phase, fs) := ⟨at_name, stays⟩
    rw [stuck.2, at_name]
    exact .inr ⟨at_name ▸ stuck, rfl⟩

theorem raised_of_stuck (stuck : job.Stuck trouble (phase, fs)) :
    job.raised? (job.freeToken fs) (phase.next?.bind trouble) phase fs = some nameless := by
  obtain ⟨at_name, stays⟩ := stuck
  dsimp only at at_name
  subst at_name
  have moves : SavePhase.parentsMade.next?.bind trouble = trouble .createTemporary := rfl
  simp only [advance, moves] at stays ⊢
  cases happens : trouble .createTemporary with
  | some why => simp [step, happens, notPrepared] at stays
  | none =>
    cases free : taken fs (job.temporaryPath (job.freeToken fs) fs) with
    | true => simp [raised?, free]
    | false =>
      cases created : createFile fs (job.temporaryPath (job.freeToken fs) fs) <;>
        simp [step, happens, free, created, notPrepared] at stays

theorem afterCalls_succ (count : Nat) :
    job.afterCalls trouble fs (count + 1) =
      job.advance trouble (job.afterCalls trouble fs count) := by
  rw [afterCalls, List.range_succ, List.foldl_append]
  rfl

theorem afterCalls_add_eight (count : Nat) :
    job.afterCalls trouble fs (count + 8) = job.run trouble fs := by
  induction count with
  | zero => rw [Nat.zero_add, afterCalls, run]
  | succ count ih =>
    rw [Nat.add_right_comm, afterCalls_succ, ih]
    rcases job.progress_or_stuck_run trouble fs with through | stuck
    · generalize job.run trouble fs = reached at through
      obtain ⟨phase, files⟩ := reached
      cases phase with
      | finished | failed _ => rfl
      | _ => simp [progress] at through
    · exact stuck.2

theorem doomed_of_breaks {verb : String} (breaks : job.Breaks trouble fs verb why) :
    job.Doomed trouble (job.run trouble fs) (job.report verb why) := by
  obtain ⟨count, raised, rfl⟩ := breaks
  rw [← afterCalls_add_eight count]
  have later (more : Nat) : job.Doomed trouble (job.afterCalls trouble fs (count + (more + 1)))
      (job.report (job.afterCalls trouble fs count).1.verb why) := by
    induction more with
    | zero =>
      rw [Nat.zero_add, afterCalls_succ]
      exact doomed_of_raised raised
    | succ more ih =>
      rw [← Nat.add_assoc, afterCalls_succ]
      exact ih.advance
  exact later 7

theorem outcome_of_calm (unbroken : ∀ verb why, ¬job.Breaks trouble fs verb why) :
    Disk.outcome job (job.run trouble fs).1 = .ok () := by
  have calm (count : Nat) :
      let (phase, files) := job.afterCalls trouble fs count
      job.raised? (job.freeToken files) (phase.next?.bind trouble) phase files = none :=
    Option.eq_none_iff_forall_ne_some.mpr fun why raised => unbroken _ why ⟨count, raised, rfl⟩
  have going (count : Nat) : (job.afterCalls trouble fs count).1.ending? = none := by
    induction count with
    | zero => rfl
    | succ count ih =>
      rw [afterCalls_succ]
      rcases step_ending ih with leads | ⟨-, nameless, -⟩
      · exact leads.trans (Option.map_eq_none_iff.mpr (calm count))
      · cases (calm count).symm.trans nameless
  have through := job.progress_or_stuck_run trouble fs
  rw [← afterCalls_add_eight 0] at through ⊢
  rcases through with through | stuck
  · have unended := going (0 + 8)
    generalize (job.afterCalls trouble fs (0 + 8)).1 = phase at through unended
    cases phase with
    | finished => rfl
    | failed _ => cases unended
    | _ => simp [progress] at through
  · cases (calm (0 + 8)).symm.trans (raised_of_stuck stuck)

/-- A save fails exactly where one of its calls raises an exception, and with this exception. -/
theorem outcome_run_eq_error_iff :
    Disk.outcome job (job.run trouble fs).1 = .error e ↔
      ∃ verb why, job.Breaks trouble fs verb why ∧ job.Surfaces verb why e := by
  simp only [surfaces_iff]
  constructor
  · intro failed
    by_cases breaks : ∃ verb why, job.Breaks trouble fs verb why
    · obtain ⟨verb, why, breaks⟩ := breaks
      have same := (doomed_of_breaks breaks).outcome.symm.trans failed
      exact ⟨verb, why, breaks, (Except.error.inj same).symm⟩
    · have unbroken : ∀ verb why, ¬job.Breaks trouble fs verb why :=
        fun verb why breaking => breaks ⟨verb, why, breaking⟩
      cases (outcome_of_calm unbroken).symm.trans failed
  · rintro ⟨verb, why, breaks, rfl⟩
    exact (doomed_of_breaks breaks).outcome

/-! ## Calls that fail halfway -/

def story (job : SaveJob) (fs : FileSystem) (deeds : List SaveDeed) : SavePhase × FileSystem :=
  deeds.foldl (fun reached deed => job.perform reached.1 reached.2 deed) (.begun, fs)

theorem reached_perform (deed : SaveDeed)
    (h : ∃ base, fs.Grown base ∧ job.Reached True base phase files) :
    ∃ base, fs.Grown base ∧
      job.Reached True base (job.perform phase files deed).1 (job.perform phase files deed).2 := by
  obtain ⟨base, grown, reached⟩ := h
  cases deed with
  | step token trouble =>
    exact ⟨base, grown, reached_step token trouble (fun _ _ _ _ => trivial) reached⟩
  | makeSome count =>
    cases phase with
    | begun =>
      cases reached
      exact ⟨_, grown.trans (FileSystem.grown_makeDirectories ..), rfl⟩
    | _ => exact ⟨base, grown, reached⟩
  | writeSome count =>
    cases phase with
    | created t =>
      obtain ⟨parents, holding, mode, data, file⟩ := reached
      simp only [perform, fill_file file]
      exact ⟨base, grown, parents, holding.put _, mode, _, FileSystem.get?_put_self⟩
    | _ => exact ⟨base, grown, reached⟩

theorem reached_story (job : SaveJob) (fs : FileSystem) (deeds : List SaveDeed) :
    ∃ base, fs.Grown base ∧
      job.Reached True base (job.story fs deeds).1 (job.story fs deeds).2 := by
  induction deeds using List.reverseRecOn with
  | nil => exact ⟨fs, .refl fs, rfl⟩
  | append_singleton deeds deed ih =>
    rw [story, List.foldl_append]
    exact reached_perform deed ih

/-- A save that has failed added directories at most, also where a call had done a part of its work
when it failed. -/
theorem grown_of_story {deeds : List SaveDeed}
    (failed : job.story fs deeds = (.failed why, files)) : fs.Grown files := by
  obtain ⟨base, grown, reached⟩ := job.reached_story fs deeds
  rw [failed] at reached
  exact grown.trans reached

end SaveJob

namespace Disk

variable {disk disk' : Disk} {path : Path} {v : Value} {why : Failure}

open FileSystem (file_iff)

def unserialized? (disk : Disk) (v : Value) : Option Failure :=
  disk.trouble .serialize <|>
    match Json.write v with
    | .ok _ => none
    | .error why => some (.fault why.fault)

def job (disk : Disk) (path : Path) (text : String) : SaveJob :=
  ⟨path, Text.utf8Bytes (text.push '\n'), disk.umask⟩

theorem save_of_unserialized (unserialized : disk.unserialized? v = some why) :
    disk.save path v = (.error why, disk) := by
  unfold unserialized? at unserialized
  unfold save
  cases happens : disk.trouble .serialize with
  | some why' =>
    rw [happens] at unserialized
    cases unserialized
    rfl
  | none =>
    rw [happens] at unserialized
    cases written : Json.write v with
    | ok text => simp [written] at unserialized
    | error refusal =>
      rw [written] at unserialized
      cases unserialized
      rfl

theorem save_of_serialized (path : Path) (serialized : disk.unserialized? v = none) :
    ∃ text, Json.write v = .ok text ∧ disk.save path v =
      (outcome (disk.job path text) ((disk.job path text).run disk.trouble disk.files).1,
        { disk with files := ((disk.job path text).run disk.trouble disk.files).2 }) := by
  unfold unserialized? at serialized
  cases happens : disk.trouble .serialize with
  | some why' =>
    rw [happens] at serialized
    cases serialized
  | none =>
    cases written : Json.write v with
    | ok text =>
      refine ⟨text, rfl, ?_⟩
      simp only [save, happens, written]
      rfl
    | error refusal => simp [happens, written] at serialized

/-- What a save leaves behind.

1. A value that cannot be serialized changes nothing at all.
2. Otherwise the save fails exactly where one of its calls raises an exception: with an error of its
   own category for an error of the system, and with the exception itself for any other.
3. A save that fails changes no file and leaves none, and at most it adds directories.
4. This holds as well where a call had done a part of its work when it failed.
5. After a save that does not fail the destination has the text and a line break, with the permission
   bits that it had before, or those of a new file where the system said that nothing stands there.
   Every other file is as it was. -/
theorem save_changes_at_most_its_target (disk : Disk) (path : Path) (v : Value) :
    (∀ why, disk.unserialized? v = some why → disk.save path v = (.error why, disk)) ∧
    (disk.unserialized? v = none → ∃ text, Json.write v = .ok text ∧
      ∀ e, (disk.save path v).1 = .error e ↔
        ∃ verb why, (disk.job path text).Breaks disk.trouble disk.files verb why ∧
          (disk.job path text).Surfaces verb why e) ∧
    (∀ e disk', disk.save path v = (.error e, disk') →
      disk.files.Grown disk'.files ∧ ∀ l mode data,
        disk'.files.get? l = some (.file mode data) ↔ disk.files.get? l = some (.file mode data)) ∧
    (∀ text deeds why files, (disk.job path text).story disk.files deeds = (.failed why, files) →
      disk.files.Grown files ∧ ∀ l mode data,
        files.get? l = some (.file mode data) ↔ disk.files.get? l = some (.file mode data)) ∧
    (∀ disk', disk.save path v = (.ok (), disk') →
      ∃ text l, Json.write v = .ok text ∧ disk'.files.Reaches path l ∧
        (∃ bits, disk'.files.get? l = some (.file bits (Text.utf8Bytes (text.push '\n'))) ∧
          (bits = (disk.job path text).bitsAt disk.files l ∨
            SaveJob.Misled disk.trouble ∧ bits = (disk.job path text).newMode)) ∧
        ∀ l' ≠ l, (disk'.files.get? l' = disk.files.get? l' ∨
            disk.files.get? l' = none ∧ ∃ mode, disk'.files.get? l' = some (.directory mode)) ∧
          ∀ mode data, disk'.files.get? l' = some (.file mode data) ↔
            disk.files.get? l' = some (.file mode data)) := by
  refine ⟨fun why => save_of_unserialized, fun serialized => ?_, fun e disk' failed => ?_,
    fun text deeds why files failed => ?_, fun disk' saved => ?_⟩
  · obtain ⟨text, written, save⟩ := save_of_serialized path serialized
    refine ⟨text, written, fun e => ?_⟩
    rw [save]
    exact SaveJob.outcome_run_eq_error_iff
  · have grown := grown_of_save failed
    exact ⟨grown, fun l => file_iff (grown.get? l)⟩
  · have grown := SaveJob.grown_of_story failed
    exact ⟨grown, fun l => file_iff (grown.get? l)⟩
  · obtain ⟨text, written, base, l, stored⟩ := stored_of_save saved
    refine ⟨text, l, written, stored.reaches, stored.bits, fun l' apart => ?_⟩
    have elsewhere := stored.get?_elsewhere apart
    exact ⟨elsewhere, file_iff elsewhere⟩

def interrupted : Disk where
  files := { entries := [([], .directory 0o755), (["f"], .file 0o600 [7])] }
  trouble
    | .sync => some (.fault (.raised .interrupt ""))
    | _ => none

/-- An interrupt comes through, and the old file stays. -/
theorem exists_interrupted_save :
    ∃ disk', interrupted.save ⟨.relative, ["f"]⟩ .null =
        (.error (.fault (.raised .interrupt "")), disk') ∧
      disk'.files.get? ["f"] = some (.file 0o600 [7]) := by
  obtain ⟨-, -, failed, -, -⟩ :=
    save_changes_at_most_its_target interrupted ⟨.relative, ["f"]⟩ .null
  have interrupt : (interrupted.save ⟨.relative, ["f"]⟩ .null).1 =
      .error (.fault (.raised .interrupt "")) := by decide +kernel
  have save : interrupted.save ⟨.relative, ["f"]⟩ .null =
      (.error (.fault (.raised .interrupt "")), (interrupted.save ⟨.relative, ["f"]⟩ .null).2) :=
    Prod.ext interrupt rfl
  exact ⟨_, save, ((failed _ _ save).2 _ _ _).mpr (by rfl)⟩

/-- A disk with the same file. At one step the system says that the file is missing. -/
def missingAt (step : SaveStep) : Disk where
  files := interrupted.files
  trouble s :=
    if s = step then some (.fault (FileSystem.refused ⟨.relative, ["f"]⟩ .noEntry)) else none

/-- What a save leaves besides: an error of the system is no error of the driver's when it comes from
serializing; a destination that the system says is missing loses its permission bits; and a directory
that is made on the way, for a save that fails, can stand at the destination itself. -/
theorem exists_save_with_trace :
    let unserialized := (missingAt .serialize).save ⟨.relative, ["f"]⟩ .null
    let misled := (missingAt .readMode).save ⟨.relative, ["f"]⟩ .null
    let through := Disk.save { files := interrupted.files } (Path.ofString "d/../d") .null
    unserialized.1 = .error (.fault (FileSystem.refused ⟨.relative, ["f"]⟩ .noEntry)) ∧
      (interrupted.files.get? ["f"] = some (.file 0o600 [7]) ∧ misled.1 = .ok () ∧
        misled.2.files.get? ["f"] = some (.file 0o644 (Text.utf8Bytes "null\n"))) ∧
      interrupted.files.get? ["d"] = none ∧ through.1.isOk = false ∧
        through.2.files.get? ["d"] = some (.directory 0o755) := by
  decide +kernel

end Disk

end ProofDriver

import ProofDriver.Proofs.FileSystem.Save
import ProofDriver.Proofs.Outcome
/-!
# What a save fails with

A save passes on faults that are none of the file system. With paths that hold no null character the
file system has no others, so where nothing else goes wrong a save fails with an error of its own
category only.
-/

namespace ProofDriver

namespace FileSystem

variable {fs fs' : FileSystem} {p : Path} {f : Fault}

def CleanName (name : String) : Prop :=
  '\x00' ∉ name.toList

theorem holdsNul_eq_false : holdsNul p = false ↔ ∀ name ∈ p.parts, CleanName name := by
  simp [holdsNul, CleanName]

theorem mem_foldl_follow {names : List String} {l : Location} {name : String}
    (mem : name ∈ names.foldl follow l) : name ∈ l ∨ name ∈ names := by
  induction names generalizing l with
  | nil => exact .inl mem
  | cons first rest ih =>
    rcases ih mem with there | later
    · unfold follow at there
      split at there
      · exact .inl (List.dropLast_subset l there)
      · simp only [List.mem_append, List.mem_singleton] at there
        exact there.imp_right fun same => by simp [same]
    · exact .inr (List.mem_cons_of_mem first later)

theorem mem_lexical {name : String} (mem : name ∈ fs.lexical p) :
    name ∈ fs.cwd ∨ name ∈ p.parts := by
  rw [lexical_eq_foldl] at mem
  refine (mem_foldl_follow mem).imp_left fun there => ?_
  unfold start at there
  split at there
  · exact there
  · cases there

/-! ## Refusals of the system -/

theorem system_of_stat (h : fs.stat p = .error f) :
    (holdsNul p = true ∧ f = .nulInPath) ∨ f.isSystemError = true := by
  unfold stat at h
  split at h
  · rename_i nul
    cases h
    exact .inl ⟨nul, rfl⟩
  · split at h
    · cases h
      exact .inr rfl
    · split at h <;> cases h
      exact .inr rfl

theorem system_of_isDirectory (h : fs.isDirectory p = .error f) : f.isSystemError = true := by
  unfold isDirectory ask at h
  split at h
  · cases h
  · cases h
  · split at h <;> cases h
    rfl
  · rename_i f' notNul notSystem failed
    cases h
    exact (system_of_stat failed).resolve_left fun nul => notNul nul.2

theorem system_of_unlessDirectory {f' : Fault} (system : f.isSystemError = true)
    (h : fs.unlessDirectory p f = .error f') : f'.isSystemError = true := by
  unfold unlessDirectory at h
  rw [if_pos system] at h
  split at h
  · cases h
  · cases h
    exact system
  · rename_i failed
    cases h
    exact system_of_isDirectory failed

theorem system_of_makeDirectory {umask : Nat} (clean : holdsNul p = false)
    (h : makeDirectory umask fs p = .error f) : f.isSystemError = true := by
  unfold makeDirectory at h
  rw [clean] at h
  simp only [Bool.false_eq_true, if_false] at h
  split at h
  · cases h
    rfl
  · split at h
    · cases h
      rfl
    · split at h <;> cases h
      rfl

theorem system_of_makeDirectoriesFrom {umask : Nat} {names : List String}
    (clean : ∀ name ∈ names, CleanName name) (fs : FileSystem) :
    ∀ f, (makeDirectoriesFrom umask p names fs).1 = .error f → f.isSystemError = true := by
  have here : holdsNul { p with parts := names.reverse } = false :=
    holdsNul_eq_false.mpr fun name mem => clean name (List.mem_reverse.mp mem)
  induction names generalizing fs with
  | nil =>
    intro f failed
    unfold makeDirectoriesFrom at failed
    dsimp only at failed
    split at failed
    · cases failed
    · rename_i refused
      have system := system_of_makeDirectory here refused
      split at failed
      · cases failed
        exact system
      · exact system_of_unlessDirectory system failed
  | cons name above ih =>
    intro f failed
    have parents := ih (fun name mem => clean name (List.mem_cons_of_mem _ mem)) fs
      (holdsNul_eq_false.mpr fun name mem =>
        clean name (List.mem_cons_of_mem _ (List.mem_reverse.mp mem)))
    unfold makeDirectoriesFrom at failed
    dsimp only at failed
    split at failed
    · cases failed
    · rename_i refused
      have system := system_of_makeDirectory here refused
      split at failed
      · split at failed
        · rename_i made
          cases failed
          exact parents _ (congrArg Prod.fst made)
        · split at failed
          · cases failed
          · rename_i refused
            have system := system_of_makeDirectory here refused
            dsimp only at failed
            split at failed
            · cases failed
              exact system
            · exact system_of_unlessDirectory system failed
      · exact system_of_unlessDirectory system failed

theorem system_of_setMode {mode : Nat} (clean : holdsNul p = false)
    (h : fs.setMode p mode = .error f) : f.isSystemError = true := by
  unfold setMode at h
  rw [clean] at h
  simp only [Bool.false_eq_true, if_false] at h
  split at h
  · cases h
    rfl
  · split at h
    · cases h
      rfl
    · split at h <;> cases h
      rfl

theorem system_of_replace {target : Path} (h : fs.replace p target = .error f) :
    f.isSystemError = true := by
  unfold replace at h
  dsimp only at h
  split at h
  · cases h
    rfl
  · cases h
    rfl
  · split at h
    · cases h
      rfl
    · split at h
      · cases h
        rfl
      · split at h
        · cases h
        · split at h
          · split at h <;> cases h
            rfl
          · cases h
            rfl

end FileSystem

namespace SaveJob

variable {job : SaveJob} {misled : Prop} {start fs : FileSystem} {phase : SavePhase} {t : Path}
  {f : Fault}

open FileSystem (CleanName holdsNul holdsNul_eq_false)

theorem within_of_report (verb : String) (system : f.isSystemError = true) :
    (job.report verb (.fault f)).Within [.io] := by
  unfold report
  dsimp only
  rw [if_pos system]
  exact Category.within_error _ _

def Accounted : SavePhase → Prop
  | .created t | .written t | .synced t | .modeKnown t _ | .modeSet t => holdsNul t = false
  | .abandoned _ why | .failed why => why.Within [.io]
  | .begun | .parentsMade | .finished => True

theorem clean_tokenOf (n : Nat) : CleanName (tokenOf n) := by
  have digit : ∀ d < 10, Nat.digitChar d ≠ '\x00' := by decide
  unfold CleanName tokenOf
  rw [String.toList_ofList, List.mem_map]
  rintro ⟨i, -, nul⟩
  exact digit _ (Nat.mod_lt _ (by decide)) nul

theorem clean_freeToken (job : SaveJob) (fs : FileSystem) : CleanName (job.freeToken fs) := by
  unfold freeToken
  split <;> exact clean_tokenOf _

theorem clean_temporaryPath {token : String} (clean : holdsNul job.path = false)
    (cwd : ∀ name ∈ fs.cwd, CleanName name) (token_clean : CleanName token) :
    holdsNul (job.temporaryPath token fs) = false := by
  rw [holdsNul_eq_false] at clean ⊢
  intro name mem
  rcases List.mem_append.mp mem with above | last
  · rcases FileSystem.mem_lexical above with there | given
    · exact cwd name there
    · exact clean name (List.dropLast_subset _ given)
  · rw [List.mem_singleton.mp last]
    have own : CleanName job.path.name := by
      unfold Path.name
      cases found : job.path.parts.getLast? with
      | none => simp [CleanName]
      | some name => exact clean name (List.mem_of_getLast? found)
    unfold CleanName at own token_clean ⊢
    simp [String.toList_append, own, token_clean]

theorem system_of_createFile (clean : holdsNul t = false) (h : createFile fs t = .error f) :
    f.isSystemError = true := by
  unfold createFile at h
  rw [clean] at h
  simp only [Bool.false_eq_true, if_false] at h
  split at h
  · cases h
    rfl
  · split at h <;> cases h
    rfl

def SystemTrouble (trouble : Option Failure) : Prop :=
  ∀ why, trouble = some why → ∃ f, why = .fault f ∧ f.isSystemError = true

theorem system_of_modeAfter {trouble : Option Failure} {why : Failure}
    (clean : holdsNul job.path = false) (system : SystemTrouble trouble)
    (h : job.modeAfter trouble fs = .error why) : ∃ f, why = .fault f ∧ f.isSystemError = true := by
  unfold modeAfter at h
  split at h
  · split at h
    · cases h
    · cases h
      exact system why rfl
  · split at h
    · cases h
    · rename_i f failed
      split at h <;> cases h
      exact ⟨f, rfl,
        (FileSystem.system_of_stat failed).resolve_left fun nul => by simp [clean] at nul⟩

theorem accounted_step {token : String} {trouble : Option Failure}
    (clean : holdsNul job.path = false) (cwd : ∀ name ∈ start.cwd, CleanName name)
    (token_clean : CleanName token) (system : SystemTrouble trouble)
    (reached : job.Reached misled start phase fs) (h : Accounted phase) :
    Accounted (job.step token trouble phase fs).1 := by
  have unprepared (why : Failure) (failed : ∃ f, why = .fault f ∧ f.isSystemError = true) :
      Accounted (job.notPrepared why) := by
    obtain ⟨f, rfl, system⟩ := failed
    exact within_of_report "prepare" system
  have unwritten (t : Path) (why : Failure)
      (failed : ∃ f, why = .fault f ∧ f.isSystemError = true) :
      Accounted (job.notWritten t why) := by
    obtain ⟨f, rfl, system⟩ := failed
    exact within_of_report "write" system
  cases phase with
  | begun =>
    cases trouble with
    | some why => exact unprepared why (system why rfl)
    | none =>
      have parents : ∀ name ∈ job.path.parent.parts.reverse, CleanName name := fun name mem =>
        holdsNul_eq_false.mp clean name (List.dropLast_subset _ (List.mem_reverse.mp mem))
      simp only [step]
      split
      · trivial
      · rename_i f fs' made
        exact unprepared _ ⟨f, rfl, FileSystem.system_of_makeDirectoriesFrom parents fs f
          (congrArg Prod.fst made)⟩
  | parentsMade =>
    cases trouble with
    | some why => exact unprepared why (system why rfl)
    | none =>
      have temporary : holdsNul (job.temporaryPath token fs) = false := by
        refine clean_temporaryPath clean (fun name mem => cwd name ?_) token_clean
        rwa [reached.cwd] at mem
      simp only [step]
      split
      · trivial
      · split
        · exact temporary
        · rename_i f failed
          exact unprepared _ ⟨f, rfl, system_of_createFile temporary failed⟩
  | created t | written t =>
    cases trouble with
    | some why => exact unwritten t why (system why rfl)
    | none => exact h
  | synced t =>
    simp only [step]
    split
    · exact h
    · rename_i why failed
      exact unwritten t why (system_of_modeAfter clean system failed)
  | modeKnown t bits =>
    cases trouble with
    | some why => exact unwritten t why (system why rfl)
    | none =>
      simp only [step]
      split
      · exact h
      · rename_i f failed
        exact unwritten t _ ⟨f, rfl, FileSystem.system_of_setMode h failed⟩
  | modeSet t =>
    cases trouble with
    | some why => exact unwritten t why (system why rfl)
    | none =>
      simp only [step]
      split
      · trivial
      · rename_i f failed
        exact unwritten t _ ⟨f, rfl, FileSystem.system_of_replace failed⟩
  | abandoned t why => exact h
  | finished => exact h
  | failed why => exact h

theorem accounted_run {trouble : SaveStep → Option Failure} (clean : holdsNul job.path = false)
    (cwd : ∀ name ∈ fs.cwd, CleanName name) (system : ∀ step, SystemTrouble (trouble step)) :
    Accounted (job.run trouble fs).1 := by
  have steps (count : Nat) :
      let r := (List.range count).foldl (fun r _ => job.advance trouble r) (.begun, fs)
      job.Reached (Misled trouble) fs r.1 r.2 ∧ Accounted r.1 := by
    induction count with
    | zero => exact ⟨rfl, trivial⟩
    | succ count ih =>
      obtain ⟨reached, accounted⟩ := ih
      rw [List.range_succ, List.foldl_append]
      refine ⟨reached_advance reached, accounted_step clean cwd (job.clean_freeToken _) ?_ reached
        accounted⟩
      intro why happens
      obtain ⟨step, -, happens⟩ := Option.bind_eq_some_iff.mp happens
      exact system step why happens
  exact (steps 8).2

end SaveJob

namespace Disk

variable {disk : Disk} {path : Path} {v : Value}

open FileSystem (CleanName holdsNul)

/-- Nothing but refusals of the system goes wrong on the disk. -/
structure Ordinary (disk : Disk) : Prop where
  cwd : ∀ name ∈ disk.files.cwd, CleanName name
  serialize : disk.trouble .serialize = none
  system : ∀ step, SaveJob.SystemTrouble (disk.trouble step)

theorem within_of_outcome {job : SaveJob} {phase : SavePhase} (h : SaveJob.Accounted phase)
    {e : Failure} (failed : outcome job phase = .error e) : e.Within [.io] := by
  cases phase with
  | finished => cases failed
  | abandoned t why | failed why =>
    cases failed
    exact h
  | _ =>
    cases failed
    exact SaveJob.within_of_report "prepare" rfl

theorem within_of_save (ordinary : disk.Ordinary) (clean : holdsNul path = false)
    (written : ∃ text, Json.write v = .ok text) {e : Failure}
    (failed : (disk.save path v).1 = .error e) : e.Within [.io] := by
  obtain ⟨text, written⟩ := written
  unfold save at failed
  simp only [ordinary.serialize, written] at failed
  exact within_of_outcome (SaveJob.accounted_run clean ordinary.cwd ordinary.system) failed

end Disk

end ProofDriver

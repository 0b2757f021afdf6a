import ProofDriver.FileSystem.Save
import ProofDriver.Proofs.FileSystem.Tree
/-!
# What a save does to the tree

`SaveJob.Reached` says, phase by phase, what the tree is like on the way: it is the tree at the
beginning with directories added, and with the temporary file while there is one. Every step keeps
this, so at the end a successful save has put the document at its destination and a failed one has
put nothing anywhere.
-/

namespace ProofDriver

open FileSystem (SameElsewhere follow)

theorem Path.parent_eq_self {p : Path} (h : p.parts = []) : p.parent = p := by
  cases p
  cases h
  rfl

namespace FileSystem

variable {fs : FileSystem} {l : Location} {p : Path}

theorem dots_notMem_follow {name : String} (h : ".." ∉ l) : ".." ∉ follow l name := by
  unfold follow
  split
  · exact fun dots => h (List.dropLast_subset l dots)
  · rename_i plain
    simp [h, Ne.symm plain]

theorem dots_notMem_foldl (names : List String) (h : ".." ∉ l) :
    ".." ∉ names.foldl follow l := by
  induction names generalizing l with
  | nil => exact h
  | cons name rest ih => exact ih (dots_notMem_follow h)

theorem foldl_follow_of_plain {names : List String} (h : ".." ∉ names) :
    names.foldl follow l = l ++ names := by
  induction names generalizing l with
  | nil => simp
  | cons name rest ih =>
    simp only [List.mem_cons, not_or] at h
    rw [List.foldl_cons, ih h.2, follow, if_neg (Ne.symm h.1), List.append_assoc]
    rfl

theorem dots_notMem_lexical (fs : FileSystem) (p : Path) : ".." ∉ fs.lexical p := by
  rw [lexical_eq_foldl]
  apply dots_notMem_foldl
  unfold start
  split
  · exact fs.cwd_plain
  · simp

theorem lexical_parent (fs : FileSystem) (p : Path) (named : p.parts ≠ []) :
    fs.lexical p = follow (fs.lexical p.parent) p.name := by
  have split : p.parts = p.parts.dropLast ++ [p.name] := by
    rw [Path.name, List.getLast?_eq_some_getLast named]
    exact (List.dropLast_concat_getLast named).symm
  rw [lexical_eq_foldl, split, List.foldl_append]
  rfl

end FileSystem

namespace SaveJob

variable {job : SaveJob} {misled : Prop} {start base fs fs' : FileSystem} {t : Path} {l : Location}

/-! ## The temporary file -/

def Temporary (job : SaveJob) (fs : FileSystem) (t : Path) : Prop :=
  ∃ token, t = job.temporaryPath token fs

namespace Temporary

theorem congr (h : job.Temporary fs t) (cwd : fs'.cwd = fs.cwd) : job.Temporary fs' t := by
  obtain ⟨token, rfl⟩ := h
  exact ⟨token, by rw [temporaryPath, temporaryPath, FileSystem.absolute_congr cwd]⟩

theorem parts_eq (h : job.Temporary fs t) :
    ∃ name, job.path.name.length + 6 ≤ name.length ∧
      t.parts = fs.lexical job.path.parent ++ [name] := by
  obtain ⟨token, rfl⟩ := h
  refine ⟨"." ++ job.path.name ++ "." ++ token ++ ".tmp", ?_, rfl⟩
  simp only [String.length_append]
  have short : ".".length = 1 ∧ ".tmp".length = 4 := by decide
  omega

theorem plain (h : job.Temporary fs t) : ".." ∉ t.parts := by
  obtain ⟨name, long, parts⟩ := h.parts_eq
  have hname : name ≠ ".." := by
    rintro rfl
    have short : "..".length = 2 := by decide
    omega
  simp [parts, FileSystem.dots_notMem_lexical, Ne.symm hname]

theorem start_eq (h : job.Temporary fs t) (fs' : FileSystem) : fs'.start t = [] := by
  obtain ⟨token, rfl⟩ := h
  unfold FileSystem.start temporaryPath FileSystem.absolute Path.child
  split
  · rename_i relative
    dsimp only at relative
    split at relative <;> cases relative
  · rfl

theorem lexical_eq_parts (h : job.Temporary fs t) (fs' : FileSystem) :
    fs'.lexical t = t.parts := by
  rw [FileSystem.lexical_eq_foldl, h.start_eq, FileSystem.foldl_follow_of_plain h.plain,
    List.nil_append]

theorem locate (h : job.Temporary fs t) (found : fs'.locate t = .ok l) : l = t.parts :=
  (FileSystem.locate_eq_lexical found).trans (h.lexical_eq_parts fs')

theorem ne_lexical (h : job.Temporary fs t) : fs.lexical job.path ≠ t.parts := by
  obtain ⟨name, long, parts⟩ := h.parts_eq
  intro same
  rw [parts] at same
  by_cases named : job.path.parts = []
  · rw [Path.parent_eq_self named] at same
    have := congrArg List.length same
    simp at this
  · rw [FileSystem.lexical_parent fs job.path named] at same
    unfold FileSystem.follow at same
    split at same
    · have := congrArg List.length same
      simp at this
    · have last : job.path.name = name := by
        have := congrArg List.getLast? same
        simpa using this
      rw [last] at long
      omega

theorem created (h : job.Temporary fs t) (free : taken fs t = false)
    (made : createFile fs t = .ok fs') :
    fs.get? t.parts = none ∧ fs' = fs.put t.parts (.file 0o600 []) := by
  unfold createFile at made
  unfold taken at free
  split at made
  · cases made
  · split at made
    · cases made
    · rename_i place found
      have here := h.locate found
      subst here
      split at made
      · cases made
        exact ⟨by simpa [found] using free, rfl⟩
      · cases made

theorem modeSet (h : job.Temporary fs' t) {mode bits : Nat} {data : Bytes}
    (file : fs.get? t.parts = some (.file mode data)) (done : fs.setMode t bits = .ok base) :
    base = fs.put t.parts (.file bits data) := by
  unfold FileSystem.setMode at done
  split at done
  · cases done
  · split at done
    · cases done
    · rename_i place found
      have here := h.locate found
      subst here
      split at done
      · cases done
      · rename_i node there
        rw [file] at there
        cases there
        split at done
        · cases done
        · cases done
          rfl

theorem replaced (h : job.Temporary fs t) {node : Node} (there : fs.get? t.parts = some node)
    (done : fs.replace t job.path = .ok fs') :
    fs.locate job.path = .ok (fs.lexical job.path) ∧
      (∀ mode, fs.get? (fs.lexical job.path) ≠ some (.directory mode)) ∧
      fs' = (fs.erase t.parts).put (fs.lexical job.path) node := by
  unfold FileSystem.replace at done
  dsimp only at done
  split at done
  · cases done
  · cases done
  · rename_i old new source target
    have here := h.locate source
    have there' := FileSystem.locate_eq_lexical target
    subst here
    subst there'
    rw [there] at done
    dsimp only at done
    split at done
    · cases done
    · split at done
      · rename_i same
        exact absurd same.symm h.ne_lexical
      · split at done
        · split at done
          · cases done
          · rename_i noDirectory
            cases done
            exact ⟨target, noDirectory, rfl⟩
        · cases done

end Temporary

theorem fill_file {mode : Nat} {old : Bytes} (file : fs.get? t.parts = some (.file mode old))
    (data : Bytes) : fill fs t data = fs.put t.parts (.file mode data) := by
  unfold fill
  rw [file]

/-- The tree `fs` on the way of a save: `base`, which is `start` with the parents made, and the
temporary file beside it. -/
structure Holding (job : SaveJob) (start : FileSystem) (t : Path) (base fs : FileSystem) :
    Prop where
  grown : start.Grown base
  temporary : job.Temporary base t
  vacant : base.get? t.parts = none
  elsewhere : SameElsewhere t.parts base fs

namespace Holding

theorem target_ne (h : job.Holding start t base fs) : fs.lexical job.path ≠ t.parts :=
  (h.temporary.congr h.elsewhere.cwd).ne_lexical

theorem get?_target (h : job.Holding start t base fs) (found : fs.locate job.path = .ok l) :
    fs.get? l = base.get? l := by
  apply h.elsewhere.get?
  rw [FileSystem.locate_eq_lexical found]
  exact h.target_ne

theorem keepsWays (h : job.Holding start t base fs) : base.KeepsWays fs := by
  refine ⟨h.elsewhere.cwd, fun place mode there => ?_⟩
  have apart : place ≠ t.parts := by
    rintro rfl
    cases h.vacant.symm.trans there
  rw [h.elsewhere.get? place apart, there]

theorem locate_target (h : job.Holding start t base fs) (found : base.locate job.path = .ok l) :
    fs.locate job.path = .ok l :=
  h.keepsWays.locate found

theorem locate_target_base (h : job.Holding start t base fs) {mode : Nat} {data : Bytes}
    (file : fs.get? t.parts = some (.file mode data)) (found : fs.locate job.path = .ok l) :
    base.locate job.path = .ok l := by
  have keeps : fs.KeepsWays base := by
    refine ⟨h.elsewhere.cwd.symm, fun place mode' there => ?_⟩
    have apart : place ≠ t.parts := by
      rintro rfl
      cases file.symm.trans there
    rw [← h.elsewhere.get? place apart, there]
  exact keeps.locate found

theorem put (h : job.Holding start t base fs) (node : Node) :
    job.Holding start t base (fs.put t.parts node) :=
  ⟨h.grown, h.temporary, h.vacant, h.elsewhere.trans (.put fs t.parts node)⟩

theorem same_erase (h : job.Holding start t base fs) : base.Same (fs.erase t.parts) := by
  have erased := h.elsewhere.trans (.erase fs t.parts)
  refine ⟨erased.cwd, erased.foreign, fun l' => ?_⟩
  by_cases here : l' = t.parts
  · rw [here, h.vacant, FileSystem.get?_erase, if_pos rfl]
  · exact erased.get? l' here

theorem rebase (h : job.Holding start t base fs) {start' : FileSystem}
    (grown : start'.Grown base) : job.Holding start' t base fs :=
  ⟨grown, h.temporary, h.vacant, h.elsewhere⟩

end Holding

/-! ## The phases -/

/-- The permission bits that the document gets at a place: those of what stands there, or those
of a new file. -/
def bitsAt (job : SaveJob) (fs : FileSystem) (l : Location) : Nat :=
  match fs.get? l with
  | some node => node.mode
  | none => job.newMode

theorem bitsAt_congr (h : fs'.get? l = fs.get? l) : job.bitsAt fs' l = job.bitsAt fs l := by
  rw [bitsAt, bitsAt, h]

/-- The system has told the permission bits for the destination, and to do so it took its path. They
are those of a new file also where the save was `misled` about what stands there. -/
def Known (job : SaveJob) (misled : Prop) (fs : FileSystem) (bits : Nat) : Prop :=
  FileSystem.holdsNul job.path = false ∧
    ∀ l, fs.locate job.path = .ok l → bits = job.bitsAt fs l ∨ misled ∧ bits = job.newMode

theorem known_of_modeAfter {trouble : Option Failure} {bits : Nat}
    (heard : ∀ why, trouble = some why → why.saysMissing = true → misled)
    (h : job.modeAfter trouble fs = .ok bits) : job.Known misled fs bits := by
  cases trouble with
  | some why =>
    simp only [modeAfter] at h
    split at h
    · rename_i answer
      cases h
      simp only [Bool.and_eq_true, Bool.not_eq_true'] at answer
      exact ⟨answer.2, fun l _ => .inr ⟨heard why rfl answer.1, rfl⟩⟩
    · cases h
  | none =>
    simp only [modeAfter, FileSystem.stat] at h
    cases nul : FileSystem.holdsNul job.path with
    | true => simp [nul, FileSystem.isMissing] at h
    | false =>
      refine ⟨nul, fun l found => .inl ?_⟩
      rw [nul, found] at h
      unfold bitsAt
      cases there : fs.get? l with
      | none =>
        simp only [there, FileSystem.isMissing, FileSystem.refused] at h
        simpa using h.symm
      | some node =>
        simp only [there] at h
        simpa using h.symm

/-- The document stands at its destination, with the parents made before (`base`) and nothing else
changed. -/
structure Stored (job : SaveJob) (misled : Prop) (start base fs : FileSystem) (l : Location) :
    Prop where
  grown : start.Grown base
  clean : FileSystem.holdsNul job.path = false
  located : base.locate job.path = .ok l
  elsewhere : SameElsewhere l base fs
  noDirectory : ∀ mode, base.get? l ≠ some (.directory mode)
  document : ∃ bits, fs.get? l = some (.file bits job.content) ∧
    (bits = job.bitsAt base l ∨ misled ∧ bits = job.newMode)

namespace Stored

variable {l' : Location}

theorem keepsWays (h : job.Stored misled start base fs l) : base.KeepsWays fs := by
  refine ⟨h.elsewhere.cwd, fun place mode there => ?_⟩
  have apart : place ≠ l := by
    rintro rfl
    exact h.noDirectory mode there
  rw [h.elsewhere.get? place apart, there]

theorem reaches (h : job.Stored misled start base fs l) : fs.Reaches job.path l :=
  h.keepsWays.reaches ⟨h.clean, h.located⟩

theorem get?_elsewhere (h : job.Stored misled start base fs l) (apart : l' ≠ l) :
    fs.get? l' = start.get? l' ∨
      start.get? l' = none ∧ ∃ mode, fs.get? l' = some (.directory mode) := by
  rw [h.elsewhere.get? l' apart]
  exact h.grown.get? l'

theorem bits (h : job.Stored misled start base fs l) :
    ∃ bits, fs.get? l = some (.file bits job.content) ∧
      (bits = job.bitsAt start l ∨ misled ∧ bits = job.newMode) := by
  obtain ⟨bits, document, known⟩ := h.document
  refine ⟨bits, document, known.imp_left fun same => same.trans ?_⟩
  rcases h.grown.get? l with same | ⟨-, mode, made⟩
  · exact bitsAt_congr same
  · exact absurd made (h.noDirectory mode)

end Stored

def Reached (job : SaveJob) (misled : Prop) (start : FileSystem) : SavePhase → FileSystem → Prop
  | .begun, fs => fs = start
  | .parentsMade, fs => start.Grown fs
  | .created t, fs => ∃ base, job.Holding start t base fs ∧
      ∃ mode data, fs.get? t.parts = some (.file mode data)
  | .written t, fs => ∃ base, job.Holding start t base fs ∧
      ∃ mode, fs.get? t.parts = some (.file mode job.content)
  | .synced t, fs => ∃ base, job.Holding start t base fs ∧
      ∃ mode, fs.get? t.parts = some (.file mode job.content)
  | .modeKnown t bits, fs => ∃ base, job.Holding start t base fs ∧
      (∃ mode, fs.get? t.parts = some (.file mode job.content)) ∧ job.Known misled base bits
  | .modeSet t, fs => ∃ base bits, job.Holding start t base fs ∧
      fs.get? t.parts = some (.file bits job.content) ∧ job.Known misled base bits
  | .finished, fs => ∃ base l, job.Stored misled start base fs l
  | .abandoned t _, fs => ∃ base, job.Holding start t base fs
  | .failed _, fs => start.Grown fs

def Since (job : SaveJob) (misled : Prop) (base : FileSystem) : SavePhase → FileSystem → Prop
  | .begun, _ => False
  | .parentsMade, fs => fs = base
  | .created t, fs => job.Holding base t base fs ∧
      ∃ mode data, fs.get? t.parts = some (.file mode data)
  | .written t, fs | .synced t, fs => job.Holding base t base fs ∧
      ∃ mode, fs.get? t.parts = some (.file mode job.content)
  | .modeKnown t bits, fs => job.Holding base t base fs ∧
      (∃ mode, fs.get? t.parts = some (.file mode job.content)) ∧ job.Known misled base bits
  | .modeSet t, fs => ∃ bits, job.Holding base t base fs ∧
      fs.get? t.parts = some (.file bits job.content) ∧ job.Known misled base bits
  | .finished, fs => ∃ l, job.Stored misled base base fs l
  | .abandoned t _, fs => job.Holding base t base fs
  | .failed _, fs => base.Same fs

theorem Since.temporary {phase : SavePhase} (h : job.Since misled base phase fs)
    (mine : phase.temporary? = some t) : job.Temporary fs t := by
  have holding : job.Holding base t base fs := by
    cases phase with
    | begun | parentsMade | finished | failed _ => cases mine
    | created _ | written _ | synced _ | modeKnown _ _ =>
      cases mine
      exact h.1
    | modeSet _ =>
      cases mine
      obtain ⟨bits, holding, -⟩ := h
      exact holding
    | abandoned _ _ =>
      cases mine
      exact h
  exact holding.temporary.congr holding.elsewhere.cwd

theorem Since.keepsWays {phase : SavePhase} (h : job.Since misled base phase fs) :
    base.KeepsWays fs := by
  cases phase with
  | begun => exact h.elim
  | parentsMade =>
    cases h
    exact (FileSystem.Grown.refl base).keepsWays
  | created _ | written _ | synced _ | modeKnown _ _ => exact h.1.keepsWays
  | modeSet _ =>
    obtain ⟨bits, holding, -⟩ := h
    exact holding.keepsWays
  | finished =>
    obtain ⟨l, stored⟩ := h
    exact stored.keepsWays
  | abandoned _ _ =>
    have holding : job.Holding base _ base fs := h
    exact holding.keepsWays
  | failed why => exact ⟨h.cwd, fun l mode there => (h.get? l).trans there⟩

theorem Since.reached {phase : SavePhase} (h : job.Since misled base phase fs)
    (grown : start.Grown base) : job.Reached misled start phase fs := by
  cases phase with
  | begun => exact h.elim
  | parentsMade =>
    cases h
    exact grown
  | created t => exact ⟨base, h.1.rebase grown, h.2⟩
  | written t => exact ⟨base, h.1.rebase grown, h.2⟩
  | synced t => exact ⟨base, h.1.rebase grown, h.2⟩
  | modeKnown t bits => exact ⟨base, h.1.rebase grown, h.2⟩
  | modeSet t =>
    obtain ⟨bits, holding, file, known⟩ := h
    exact ⟨base, bits, holding.rebase grown, file, known⟩
  | finished =>
    obtain ⟨l, stored⟩ := h
    exact ⟨base, l, { stored with grown }⟩
  | abandoned t why => exact ⟨base, h.rebase grown⟩
  | failed why => exact grown.trans ⟨h.cwd, h.foreign, fun l => .inl (h.get? l)⟩

theorem Reached.since {phase : SavePhase} (h : job.Reached misled start phase fs)
    (begun : phase ≠ .begun) : ∃ base, start.Grown base ∧ job.Since misled base phase fs := by
  cases phase with
  | begun => exact absurd rfl begun
  | parentsMade => exact ⟨fs, h, rfl⟩
  | created t =>
    obtain ⟨base, holding, file⟩ := h
    exact ⟨base, holding.grown, holding.rebase (.refl base), file⟩
  | written t =>
    obtain ⟨base, holding, file⟩ := h
    exact ⟨base, holding.grown, holding.rebase (.refl base), file⟩
  | synced t =>
    obtain ⟨base, holding, file⟩ := h
    exact ⟨base, holding.grown, holding.rebase (.refl base), file⟩
  | modeKnown t bits =>
    obtain ⟨base, holding, file⟩ := h
    exact ⟨base, holding.grown, holding.rebase (.refl base), file⟩
  | modeSet t =>
    obtain ⟨base, bits, holding, file⟩ := h
    exact ⟨base, holding.grown, bits, holding.rebase (.refl base), file⟩
  | finished =>
    obtain ⟨base, l, stored⟩ := h
    exact ⟨base, stored.grown, l, { stored with grown := .refl base }⟩
  | abandoned t why =>
    obtain ⟨base, holding⟩ := h
    exact ⟨base, holding.grown, holding.rebase (.refl base)⟩
  | failed why => exact ⟨fs, h, .refl fs⟩

theorem holding_of_createFile {token : String}
    (free : taken fs (job.temporaryPath token fs) = false)
    (made : createFile fs (job.temporaryPath token fs) = .ok fs') :
    job.Holding fs (job.temporaryPath token fs) fs fs' ∧
      ∃ mode data, fs'.get? (job.temporaryPath token fs).parts = some (.file mode data) := by
  have temporary : job.Temporary fs (job.temporaryPath token fs) := ⟨token, rfl⟩
  obtain ⟨vacant, rfl⟩ := temporary.created free made
  exact ⟨⟨.refl fs, temporary, vacant, .put fs _ _⟩, 0o600, [], FileSystem.get?_put_self⟩

theorem stored_of_replace {bits : Nat} (h : job.Holding start t base fs)
    (file : fs.get? t.parts = some (.file bits job.content))
    (known : job.Known misled base bits)
    (done : fs.replace t job.path = .ok fs') : ∃ l, job.Stored misled start base fs' l := by
  have temporary := h.temporary.congr h.elsewhere.cwd
  obtain ⟨target, noDirectory, rfl⟩ := temporary.replaced file done
  have located := h.locate_target_base file target
  have same : fs.get? (fs.lexical job.path) = base.get? (fs.lexical job.path) :=
    h.elsewhere.get? _ temporary.ne_lexical
  refine ⟨fs.lexical job.path, h.grown, known.1, located, ?_, fun mode => ?_, ?_⟩
  · have moved := h.elsewhere.trans (.erase fs t.parts)
    refine ⟨moved.cwd, moved.foreign, fun l' apart' => ?_⟩
    rw [FileSystem.get?_put_of_ne apart', FileSystem.get?_erase]
    split
    · rename_i here
      rw [here, h.vacant]
    · rename_i elsewhere
      exact h.elsewhere.get? l' elsewhere
  · rw [← same]
    exact noDirectory mode
  · exact ⟨bits, FileSystem.get?_put_self, known.2 _ located⟩

theorem Known.of_holding {bits : Nat} (known : job.Known misled fs bits)
    (holding : job.Holding start t base fs) : job.Known misled base bits := by
  refine ⟨known.1, fun l located => ?_⟩
  have found := holding.locate_target located
  rw [← bitsAt_congr (holding.get?_target found)]
  exact known.2 l found

/-- Where the reading of the bits is told that nothing stands at the destination, the save counts as
misled. -/
def Hears (misled : Prop) (phase : SavePhase) (trouble : Option Failure) : Prop :=
  phase.next? = some .readMode → ∀ why, trouble = some why → why.saysMissing = true → misled

/-- After the parents are made, a step changes the temporary file and the destination only, whatever
happens to it and whatever token it tries. -/
theorem since_step {phase : SavePhase} (token : String) (trouble : Option Failure)
    (hears : Hears misled phase trouble) (h : job.Since misled base phase fs) :
    job.Since misled base (job.step token trouble phase fs).1
      (job.step token trouble phase fs).2 := by
  cases phase with
  | begun => exact h.elim
  | parentsMade =>
    cases h
    cases trouble with
    | some why => exact .refl base
    | none =>
      simp only [step]
      split
      · exact rfl
      · rename_i free
        split
        · rename_i fs' made
          exact holding_of_createFile (by simpa using free) made
        · exact .refl base
  | created t =>
    obtain ⟨holding, mode, data, file⟩ := h
    cases trouble with
    | some why => exact holding
    | none =>
      simp only [step, fill_file file]
      exact ⟨holding.put _, mode, FileSystem.get?_put_self⟩
  | written t =>
    cases trouble with
    | some why => exact h.1
    | none => exact h
  | synced t =>
    obtain ⟨holding, file⟩ := h
    simp only [step]
    split
    · rename_i bits read
      exact ⟨holding, file, (known_of_modeAfter (hears rfl) read).of_holding holding⟩
    · exact holding
  | modeKnown t bits =>
    obtain ⟨holding, ⟨mode, file⟩, known⟩ := h
    cases trouble with
    | some why => exact holding
    | none =>
      simp only [step]
      split
      · rename_i fs' done
        rw [holding.temporary.modeSet file done]
        exact ⟨bits, holding.put _, FileSystem.get?_put_self, known⟩
      · exact holding
  | modeSet t =>
    obtain ⟨bits, holding, file, known⟩ := h
    cases trouble with
    | some why => exact holding
    | none =>
      simp only [step]
      split
      · rename_i fs' done
        exact stored_of_replace holding file known done
      · exact holding
  | finished => exact h
  | abandoned t why =>
    have holding : job.Holding base t base fs := h
    exact holding.same_erase
  | failed why => exact h

/-- Whatever happens to a step, and whatever token it tries, it leaves the tree as the phase that it
leads to has it. -/
theorem reached_step {phase : SavePhase} (token : String) (trouble : Option Failure)
    (hears : Hears misled phase trouble) (h : job.Reached misled start phase fs) :
    job.Reached misled start (job.step token trouble phase fs).1
      (job.step token trouble phase fs).2 := by
  by_cases begun : phase = .begun
  · subst begun
    cases h
    cases trouble with
    | some why => exact .refl start
    | none =>
      have grown := FileSystem.grown_makeDirectories job.umask start job.path.parent
      rcases made : start.makeDirectories job.umask job.path.parent with ⟨r, fs'⟩
      rw [made] at grown
      cases r with
      | ok _ =>
        simp only [step, made]
        exact grown
      | error f =>
        simp only [step, made]
        exact grown
  · obtain ⟨base, grown, since⟩ := h.since begun
    exact (since_step token trouble hears since).reached grown

/-! ## Whole saves -/

/-- The save is to be told that nothing stands at its destination, whether that is true or not. -/
def Misled (trouble : SaveStep → Option Failure) : Prop :=
  ∃ why, trouble .readMode = some why ∧ why.saysMissing = true

theorem hears_misled (trouble : SaveStep → Option Failure) (phase : SavePhase) :
    Hears (Misled trouble) phase (phase.next?.bind trouble) := by
  intro reading why happens missing
  rw [reading] at happens
  exact ⟨why, happens, missing⟩

theorem reached_advance {trouble : SaveStep → Option Failure} {reached : SavePhase × FileSystem}
    (h : job.Reached (Misled trouble) start reached.1 reached.2) :
    job.Reached (Misled trouble) start (job.advance trouble reached).1
      (job.advance trouble reached).2 :=
  reached_step _ _ (hears_misled trouble _) h

def progress : SavePhase → Nat
  | .begun => 0
  | .parentsMade => 1
  | .created _ => 2
  | .written _ => 3
  | .synced _ => 4
  | .modeKnown .. => 5
  | .modeSet _ => 6
  | .abandoned .. => 7
  | .finished | .failed _ => 8

def Stuck (job : SaveJob) (trouble : SaveStep → Option Failure)
    (reached : SavePhase × FileSystem) : Prop :=
  reached.1 = .parentsMade ∧ job.advance trouble reached = reached

theorem progress_advance (job : SaveJob) (trouble : SaveStep → Option Failure)
    (reached : SavePhase × FileSystem) :
    min (progress reached.1 + 1) 8 ≤ progress (job.advance trouble reached).1 ∨
      job.Stuck trouble reached := by
  obtain ⟨phase, fs⟩ := reached
  unfold Stuck advance
  generalize job.freeToken fs = token
  cases phase with
  | parentsMade =>
    simp only [step]
    split
    · exact .inl (by simp [notPrepared, progress])
    · split
      · exact .inr ⟨trivial, rfl⟩
      · split <;> exact .inl (by simp [notPrepared, progress])
  | begun | created _ | written _ | synced _ | modeKnown _ _ | modeSet _ =>
    left
    simp only [step]
    repeat' split
    all_goals simp [notPrepared, notWritten, progress]
  | finished | failed _ | abandoned _ _ => exact .inl (by simp [step, progress])

theorem reached_run (job : SaveJob) (trouble : SaveStep → Option Failure) (fs : FileSystem) :
    job.Reached (Misled trouble) fs (job.run trouble fs).1 (job.run trouble fs).2 := by
  unfold run
  generalize 8 = count
  induction count with
  | zero => rfl
  | succ count ih =>
    rw [List.range_succ, List.foldl_append]
    exact reached_advance ih

/-- Eight steps are enough for every save that ends at all. -/
theorem progress_or_stuck_run (job : SaveJob) (trouble : SaveStep → Option Failure)
    (fs : FileSystem) :
    progress (job.run trouble fs).1 = 8 ∨ job.Stuck trouble (job.run trouble fs) := by
  have steps (count : Nat) (le : count ≤ 8) :
      let reached := (List.range count).foldl (fun r _ => job.advance trouble r) (.begun, fs)
      count ≤ progress reached.1 ∨ job.Stuck trouble reached := by
    induction count with
    | zero => exact .inl (Nat.zero_le _)
    | succ count ih =>
      rw [List.range_succ, List.foldl_append]
      generalize (List.range count).foldl _ _ = reached at ih
      rcases ih (by omega) with far | stuck
      · rcases job.progress_advance trouble reached with further | stuck
        · left
          simp only [List.foldl_cons, List.foldl_nil]
          omega
        · exact .inr (by simpa only [List.foldl_cons, List.foldl_nil, stuck.2] using stuck)
      · exact .inr (by simpa only [List.foldl_cons, List.foldl_nil, stuck.2] using stuck)
  have bound : progress (job.run trouble fs).1 ≤ 8 := by
    cases (job.run trouble fs).1 <;> simp [progress]
  exact (steps 8 (by omega)).imp_left (Nat.le_antisymm bound)

theorem progress_run (job : SaveJob) (trouble : SaveStep → Option Failure) (fs : FileSystem) :
    progress (job.run trouble fs).1 = 8 ∨ (job.run trouble fs).1 = .parentsMade :=
  (job.progress_or_stuck_run trouble fs).imp_right And.left

theorem stored_of_outcome {trouble : SaveStep → Option Failure}
    (saved : Disk.outcome job (job.run trouble fs).1 = .ok ()) :
    ∃ base l, job.Stored (Misled trouble) fs base (job.run trouble fs).2 l := by
  have reached := job.reached_run trouble fs
  cases phase : (job.run trouble fs).1 with
  | finished => rwa [phase] at reached
  | _ =>
    rw [phase] at saved
    cases saved

theorem grown_of_outcome {trouble : SaveStep → Option Failure} {e : Failure}
    (failed : Disk.outcome job (job.run trouble fs).1 = .error e) :
    fs.Grown (job.run trouble fs).2 := by
  have reached := job.reached_run trouble fs
  have ended := job.progress_run trouble fs
  cases phase : (job.run trouble fs).1 with
  | parentsMade | failed _ => rwa [phase] at reached
  | finished =>
    rw [phase] at failed
    cases failed
  | begun | created _ | written _ | synced _ | modeKnown _ _ | modeSet _ | abandoned _ _ =>
    simp [phase, progress] at ended

end SaveJob

namespace Disk

variable {disk disk' : Disk} {path : Path} {v : Value}

/-- A successful save wrote the text of the value and a line break, and nothing else. -/
theorem stored_of_save (saved : disk.save path v = (.ok (), disk')) :
    ∃ text, Json.write v = .ok text ∧
      ∃ base l, SaveJob.Stored ⟨path, Text.utf8Bytes (text.push '\n'), disk.umask⟩
        (SaveJob.Misled disk.trouble) disk.files base disk'.files l := by
  unfold save at saved
  split at saved
  · cases saved
  · split at saved
    · cases saved
    · rename_i text written
      refine ⟨text, written, ?_⟩
      have files := congrArg (fun r => r.2.files) saved
      rw [← files]
      exact SaveJob.stored_of_outcome (congrArg Prod.fst saved)

/-- A failed save added directories at most. -/
theorem grown_of_save {e : Failure} (failed : disk.save path v = (.error e, disk')) :
    disk.files.Grown disk'.files := by
  have files := congrArg (fun r => r.2.files) failed
  rw [← files]
  unfold save at failed ⊢
  split at failed
  · exact .refl _
  · split at failed
    · exact .refl _
    · exact SaveJob.grown_of_outcome (congrArg Prod.fst failed)

end Disk

end ProofDriver

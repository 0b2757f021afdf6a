import ProofDriver.Proofs.Delivery.Mock
import ProofDriver.Proofs.Delivery.Offline
import ProofDriver.Proofs.FileSystem.Load
import ProofDriver.Proofs.FileSystem.Siblings
import ProofDriver.Prover.Mock
/-!
# Modes beside each other

Deliveries of different modes share a directory, and nothing else: the fixture file of a mode becomes
what it becomes without the deliveries of the other modes, and it does not matter for the files which
of two deliveries of different modes comes first.
-/

namespace ProofDriver

open FileSystem (SameBut)

namespace Settings

variable {settings : Settings} {fs fs' : FileSystem} {m m' : ProofMode}

def fixtureJob (settings : Settings) (umask : Nat) (m : ProofMode) (content : Bytes) : SaveJob :=
  ⟨settings.fixturePath m, content, umask⟩

def fixturePlace (settings : Settings) (fs : FileSystem) (m : ProofMode) : Location :=
  fs.lexical (settings.fixturePath m)

/-- The permission bits and the content of the default fixture file of a mode. Its place is found by
name: double dots take back the name before them. A directory in its place is no such file. -/
def fixtureFile (settings : Settings) (m : ProofMode) (fs : FileSystem) : Option (Nat × Bytes) :=
  match fs.get? (settings.fixturePlace fs m) with
  | some (.file mode data) => some (mode, data)
  | _ => none

theorem parent_fixturePath (settings : Settings) (m : ProofMode) :
    (settings.fixturePath m).parent = settings.fixtureDirectory := by
  simp [fixturePath, Path.child, Path.parent]

theorem name_fixturePath (settings : Settings) (m : ProofMode) :
    (settings.fixturePath m).name = m.name ++ "-fixture.json" := by
  simp [fixturePath, Path.child, Path.name]

theorem fixtureName_plain (m : ProofMode) : m.name ++ "-fixture.json" ≠ ".." := by
  cases m <;> decide

theorem fixtureName_inj (same : m.name ++ "-fixture.json" = m'.name ++ "-fixture.json") :
    m = m' := by
  cases m <;> cases m' <;> first | rfl | exact absurd same (by decide)

theorem fixturePlace_eq (settings : Settings) (fs : FileSystem) (m : ProofMode) :
    settings.fixturePlace fs m =
      fs.lexical settings.fixtureDirectory ++ [m.name ++ "-fixture.json"] := by
  have named : (settings.fixturePath m).parts ≠ [] := by simp [fixturePath, Path.child]
  rw [fixturePlace, FileSystem.lexical_parent fs _ named, parent_fixturePath, name_fixturePath,
    FileSystem.follow, if_neg (fixtureName_plain m)]

theorem fixturePlace_inj (same : settings.fixturePlace fs m = settings.fixturePlace fs m') :
    m = m' := by
  rw [fixturePlace_eq, fixturePlace_eq, List.append_cancel_left_eq, List.singleton_inj] at same
  exact fixtureName_inj same

theorem fixturePlace_congr (cwd : fs'.cwd = fs.cwd) :
    settings.fixturePlace fs' m = settings.fixturePlace fs m :=
  FileSystem.lexical_congr cwd

theorem fixtureFile_congr (cwd : fs'.cwd = fs.cwd)
    (same : fs'.get? (settings.fixturePlace fs m) = fs.get? (settings.fixturePlace fs m)) :
    settings.fixtureFile m fs' = settings.fixtureFile m fs := by
  rw [fixtureFile, fixtureFile, fixturePlace_congr cwd, same]

theorem fixtureFile_of_grown (grown : fs.Grown fs') :
    settings.fixtureFile m fs' = settings.fixtureFile m fs := by
  rcases grown.get? (settings.fixturePlace fs m) with same | ⟨vacant, mode, made⟩
  · exact fixtureFile_congr grown.cwd same
  · rw [fixtureFile, fixtureFile, fixturePlace_congr grown.cwd, vacant, made]

theorem fixtureFile_of_save {disk disk' : Disk} {v : Value}
    (saved : disk.save (settings.fixturePath m) v = (.ok (), disk')) :
    ∃ bits, settings.fixtureFile m disk'.files = some (bits, Disk.document v) := by
  obtain ⟨l, wrote⟩ := Disk.wrote_of_save saved
  obtain ⟨bits, document⟩ := wrote.document
  obtain rfl := FileSystem.locate_eq_lexical wrote.reaches.located
  refine ⟨bits, ?_⟩
  rw [fixtureFile, fixturePlace, document]

theorem beside_fixtureJob {out : Location → Prop} (umask : Nat) (content : Bytes)
    (ready : fs.Ready settings.fixtureDirectory)
    (others : ∀ l, out l → ∃ m', m' ≠ m ∧ l = settings.fixturePlace fs m') :
    (settings.fixtureJob umask m content).Beside out fs := by
  have parent : (settings.fixtureJob umask m content).path.parent = settings.fixtureDirectory :=
    settings.parent_fixturePath m
  have name : (settings.fixtureJob umask m content).path.name = m.name ++ "-fixture.json" :=
    settings.name_fixturePath m
  refine ⟨by simp [fixtureJob, fixturePath, Path.child], ?_, ?_, fun l mem => ?_⟩
  · rw [name]
    exact fixtureName_plain m
  · rwa [parent]
  · obtain ⟨m', differs, place⟩ := others l mem
    rw [fixturePlace_eq] at place
    rw [parent, name]
    refine ⟨_, place, fun same => differs (fixtureName_inj same), fun token same => ?_⟩
    have first := congrArg (fun s => s.toList.head?) same
    cases m' <;> simp [ProofMode.name, String.toList_append] at first

end Settings

namespace Delivery

/-- A delivery of the mock's to the default place: what is asked for and what happens to it. -/
structure Request where
  n : Value
  mode : Value
  sink : Sink := .journal
  machine : Machine := {}
  trouble : SaveStep → Option Failure := fun _ => none

namespace Request

def mode? (r : Request) : Option ProofMode :=
  match ProofMode.ofValue r.mode with
  | .ok m => some m
  | .error _ => none

def world (r : Request) (umask : Nat) (files : FileSystem) : World Unit :=
  { client := (), journal := [], machine := r.machine
    disk := { files, umask, trouble := r.trouble } }

end Request

variable (p : Prover.Mock) (settings : Settings) (umask : Nat)

def filesAfter (files : FileSystem) (r : Request) : FileSystem :=
  ((deliver p.client settings r.sink r.n r.mode none).run (r.world umask files)).2.disk.files

def filesAfterAll (requests : List Request) (files : FileSystem) : FileSystem :=
  requests.foldl (filesAfter p settings umask) files

variable {p : Prover.Mock} {settings : Settings} {umask : Nat} {r first second : Request}
  {m : ProofMode} {fs fs' fs₁ fs₂ fs₃ : FileSystem}

@[simp] theorem filesAfterAll_cons (p : Prover.Mock) (rest : List Request) :
    filesAfterAll p settings umask (r :: rest) fs =
      filesAfterAll p settings umask rest (filesAfter p settings umask fs r) := rfl

theorem filesAfterAll_append (p : Prover.Mock) (before after : List Request) :
    filesAfterAll p settings umask (before ++ after) fs =
      filesAfterAll p settings umask after (filesAfterAll p settings umask before fs) :=
  List.foldl_append

structure Saving (p : Prover.Mock) (settings : Settings) (umask : Nat) (r : Request)
    (m : ProofMode) (content : Bytes) : Prop where
  calm : r.trouble .makeParents = none
  files : ∀ fs, filesAfter p settings umask fs r =
    ((settings.fixtureJob umask m content).run r.trouble fs).2

theorem idle_or_saving (p : Prover.Mock) (settings : Settings) (umask : Nat) (r : Request) :
    (∀ fs, filesAfter p settings umask fs r = fs) ∨
      ∃ m content, r.mode? = some m ∧ Saving p settings umask r m content := by
  cases known : ProofMode.ofValue r.mode with
  | error e =>
    refine .inl fun fs => ?_
    rw [filesAfter, run_deliver_of_unknown _ settings r.sink r.n none known]
    rfl
  | ok m =>
    have stores := stores_deliver p.client settings r.sink r.n none known (r.world umask {})
    rcases stores with idle | ⟨v, saves⟩
    · exact .inl fun fs => congrArg Disk.files (idle ⟨fs, umask, r.trouble⟩)
    · have files (fs : FileSystem) : filesAfter p settings umask fs r =
          ((Disk.mk fs umask r.trouble).save (settings.fixturePath m) v).2.files :=
        congrArg Disk.files (saves ⟨fs, umask, r.trouble⟩)
      have mode : r.mode? = some m := by rw [Request.mode?, known]
      rcases Disk.idle_or_runs umask r.trouble (settings.fixturePath m) v with
        idle | ⟨content, calm, runs⟩
      · exact .inl fun fs => (files fs).trans (idle fs)
      · exact .inr ⟨m, content, mode, calm, fun fs => (files fs).trans (runs fs)⟩

namespace Saving

variable {content : Bytes} {out : Location → Prop} {f : Fault}

theorem of_refused (h : Saving p settings umask r m content)
    (refused : fs.makeDirectories umask settings.fixtureDirectory = (.error f, fs')) :
    filesAfter p settings umask fs r = fs' := by
  rw [← settings.parent_fixturePath m] at refused
  rw [h.files, SaveJob.run_of_refused h.calm refused]

theorem of_made (h : Saving p settings umask r m content)
    (made : fs.makeDirectories umask settings.fixtureDirectory = (.ok (), fs')) :
    filesAfter p settings umask fs r = filesAfter p settings umask fs' r := by
  rw [← settings.parent_fixturePath m] at made
  rw [h.files, h.files, SaveJob.run_of_made h.calm made]

theorem sameBut (h : Saving p settings umask r m content)
    (ready : fs.Ready settings.fixtureDirectory) :
    SameBut (· = settings.fixturePlace fs m) fs (filesAfter p settings umask fs r) := by
  have there : fs.Ready (settings.fixtureJob umask m content).path.parent := by
    rwa [← settings.parent_fixturePath m] at ready
  rw [h.files]
  exact SaveJob.sameBut_run h.calm there

theorem sameBut_both (h : Saving p settings umask r m content)
    (ready : fs.Ready settings.fixtureDirectory)
    (others : ∀ l, out l → ∃ m', m' ≠ m ∧ l = settings.fixturePlace fs m')
    (same : SameBut out fs fs') :
    SameBut out (filesAfter p settings umask fs r) (filesAfter p settings umask fs' r) := by
  rw [h.files, h.files]
  exact SaveJob.sameBut_run_run h.calm (Settings.beside_fixtureJob umask content ready others) same

end Saving

/-! ## Requests of other modes left out -/

/-- Two trees are the same to requests of a mode: the directory for the fixtures can be made in both
and the trees then differ in the fixtures of other modes only, or it cannot be made in either and the
fixture file of the mode is the same. -/
inductive Level (settings : Settings) (umask : Nat) (m : ProofMode) :
    FileSystem → FileSystem → Prop
  | made {fs fs' made made'} :
      fs.makeDirectories umask settings.fixtureDirectory = (.ok (), made) →
      fs'.makeDirectories umask settings.fixtureDirectory = (.ok (), made') →
      SameBut (fun l => ∃ m', m' ≠ m ∧ l = settings.fixturePlace made m') made made' →
      Level settings umask m fs fs'
  | refused {fs fs' f f' left left'} :
      fs.makeDirectories umask settings.fixtureDirectory = (.error f, left) →
      fs'.makeDirectories umask settings.fixtureDirectory = (.error f', left') →
      settings.fixtureFile m fs' = settings.fixtureFile m fs → Level settings umask m fs fs'

theorem fixtureFile_of_makeDirectories {answer : Except Fault Unit}
    (made : fs.makeDirectories umask settings.fixtureDirectory = (answer, fs')) :
    settings.fixtureFile m fs' = settings.fixtureFile m fs := by
  have grown := FileSystem.grown_makeDirectories umask fs settings.fixtureDirectory
  rw [made] at grown
  exact Settings.fixtureFile_of_grown grown

namespace Level

theorem refl (settings : Settings) (umask : Nat) (m : ProofMode) (fs : FileSystem) :
    Level settings umask m fs fs := by
  rcases made : fs.makeDirectories umask settings.fixtureDirectory with ⟨answer, fs'⟩
  cases answer with
  | ok _ => exact .made made made (.refl _ _)
  | error f => exact .refused made made rfl

theorem trans (h₁ : Level settings umask m fs₁ fs₂) (h₂ : Level settings umask m fs₂ fs₃) :
    Level settings umask m fs₁ fs₃ := by
  cases h₁ with
  | made first second same =>
    cases h₂ with
    | made second' third same' =>
      obtain rfl := congrArg Prod.snd (second.symm.trans second')
      refine .made first third (same.trans (same'.imp fun l ⟨m', differs, place⟩ => ?_))
      exact ⟨m', differs, place.trans (Settings.fixturePlace_congr same.cwd)⟩
    | refused second' => cases second.symm.trans second'
  | refused first second file =>
    cases h₂ with
    | made second' => cases second.symm.trans second'
    | refused _ third file' => exact .refused first third (file'.trans file)

theorem fixtureFile_eq (h : Level settings umask m fs fs') :
    settings.fixtureFile m fs' = settings.fixtureFile m fs := by
  cases h with
  | made first second same =>
    rw [← fixtureFile_of_makeDirectories first, ← fixtureFile_of_makeDirectories second]
    refine Settings.fixtureFile_congr same.cwd (same.get?_of_not ?_)
    rintro ⟨m', differs, place⟩
    exact differs (Settings.fixturePlace_inj place).symm
  | refused _ _ file => exact file

theorem after_other (other : r.mode? ≠ some m) (fs : FileSystem) :
    Level settings umask m fs (filesAfter p settings umask fs r) := by
  rcases idle_or_saving p settings umask r with idle | ⟨m', content, known, saving⟩
  · rw [idle]
    exact refl settings umask m fs
  · rcases made : fs.makeDirectories umask settings.fixtureDirectory with ⟨answer, fs'⟩
    cases answer with
    | error f =>
      rw [saving.of_refused made]
      obtain ⟨f', again⟩ := FileSystem.makeDirectories_refused_again made
      exact .refused made (Prod.ext again rfl) (fixtureFile_of_makeDirectories made)
    | ok _ =>
      have ready := FileSystem.ready_of_makeDirectories made
      have same := saving.sameBut ready
      rw [saving.of_made made]
      refine .made made (same.keepsWays.ready ready).makeDirectories (same.imp fun l place => ?_)
      refine ⟨m', ?_, place⟩
      rintro rfl
      exact other known

theorem after_own (own : r.mode? = some m) (h : Level settings umask m fs fs') :
    Level settings umask m (filesAfter p settings umask fs r)
      (filesAfter p settings umask fs' r) := by
  rcases idle_or_saving p settings umask r with idle | ⟨m', content, known, saving⟩
  · rwa [idle, idle]
  · cases known.symm.trans own
    cases h with
    | made first second same =>
      have ready := FileSystem.ready_of_makeDirectories first
      have ready' := FileSystem.ready_of_makeDirectories second
      have saved := saving.sameBut ready
      have saved' := saving.sameBut ready'
      have both := saving.sameBut_both ready (fun l mem => mem) same
      rw [saving.of_made first, saving.of_made second]
      refine .made (saved.keepsWays.ready ready).makeDirectories
        (saved'.keepsWays.ready ready').makeDirectories (both.imp fun l ⟨m', differs, place⟩ => ?_)
      exact ⟨m', differs, place.trans (Settings.fixturePlace_congr saved.cwd).symm⟩
    | refused first second file =>
      obtain ⟨f, again⟩ := FileSystem.makeDirectories_refused_again first
      obtain ⟨f', again'⟩ := FileSystem.makeDirectories_refused_again second
      rw [saving.of_refused first, saving.of_refused second]
      refine .refused (Prod.ext again rfl) (Prod.ext again' rfl) ?_
      rw [fixtureFile_of_makeDirectories first, fixtureFile_of_makeDirectories second, file]

end Level

/-- What a mode sees of a sequence of requests is what the requests of the mode do. -/
theorem level_filter (p : Prover.Mock) (requests : List Request)
    (h : Level settings umask m fs fs') :
    Level settings umask m
      (filesAfterAll p settings umask (requests.filter (·.mode? = some m)) fs)
      (filesAfterAll p settings umask requests fs') := by
  induction requests generalizing fs fs' with
  | nil => exact h
  | cons r rest ih =>
    by_cases own : r.mode? = some m
    · rw [List.filter_cons_of_pos (by simpa using own), filesAfterAll_cons, filesAfterAll_cons]
      exact ih (h.after_own own)
    · rw [List.filter_cons_of_neg (by simpa using own), filesAfterAll_cons]
      exact ih (h.trans (.after_other own fs'))

/-! ## Requests exchanged -/

theorem filesAfter_same (r : Request) (same : fs.Same fs') :
    (filesAfter p settings umask fs r).Same (filesAfter p settings umask fs' r) := by
  rcases idle_or_saving p settings umask r with idle | ⟨m, content, -, saving⟩
  · rwa [idle, idle]
  · obtain ⟨answers, trees⟩ := same.makeDirectories umask settings.fixtureDirectory
    rcases made : fs.makeDirectories umask settings.fixtureDirectory with ⟨answer, left⟩
    rcases made' : fs'.makeDirectories umask settings.fixtureDirectory with ⟨answer', left'⟩
    rw [made, made'] at answers trees
    cases answers
    cases answer with
    | error f => rwa [saving.of_refused made, saving.of_refused made']
    | ok _ =>
      rw [saving.of_made made, saving.of_made made']
      have ready := FileSystem.ready_of_makeDirectories made
      exact (saving.sameBut_both ready (fun _ absurd => absurd.elim) (.of_same trees)).same

theorem filesAfterAll_same (requests : List Request) (same : fs.Same fs') :
    (filesAfterAll p settings umask requests fs).Same
      (filesAfterAll p settings umask requests fs') := by
  induction requests generalizing fs fs' with
  | nil => exact same
  | cons r rest ih =>
    rw [filesAfterAll_cons, filesAfterAll_cons]
    exact ih (filesAfter_same r same)

theorem filesAfter_comm (differ : ∀ m, first.mode? = some m → second.mode? ≠ some m)
    (fs : FileSystem) :
    (filesAfter p settings umask (filesAfter p settings umask fs first) second).Same
      (filesAfter p settings umask (filesAfter p settings umask fs second) first) := by
  rcases idle_or_saving p settings umask first with idle | ⟨m₁, content₁, known₁, saving₁⟩
  · rw [idle, idle]
  rcases idle_or_saving p settings umask second with idle | ⟨m₂, content₂, known₂, saving₂⟩
  · rw [idle, idle]
  have apart : m₁ ≠ m₂ := by
    rintro rfl
    exact differ m₁ known₁ known₂
  rcases made : fs.makeDirectories umask settings.fixtureDirectory with ⟨answer, base⟩
  cases answer with
  | error f =>
    obtain ⟨f', again⟩ := FileSystem.makeDirectories_refused_again made
    have still : base.makeDirectories umask settings.fixtureDirectory =
      (.error f', _) := Prod.ext again rfl
    rw [saving₁.of_refused made, saving₂.of_refused made, saving₁.of_refused still,
      saving₂.of_refused still]
  | ok _ =>
    have ready := FileSystem.ready_of_makeDirectories made
    rw [saving₁.of_made made, saving₂.of_made made]
    have one := saving₁.sameBut ready
    have two := saving₂.sameBut ready
    have twoAfterOne := saving₂.sameBut (one.keepsWays.ready ready)
    have oneAfterTwo := saving₁.sameBut (two.keepsWays.ready ready)
    rw [Settings.fixturePlace_congr one.cwd] at twoAfterOne
    rw [Settings.fixturePlace_congr two.cwd] at oneAfterTwo
    -- Each request does the same before the other one and after it.
    have oneEither := saving₁.sameBut_both ready (fun l place => ⟨m₂, apart.symm, place⟩) two
    have twoEither := saving₂.sameBut_both ready (fun l place => ⟨m₁, apart, place⟩) one
    have butOne := twoEither.symm.trans oneAfterTwo
    have butTwo := twoAfterOne.symm.trans oneEither
    refine butOne.same_of_apart butTwo fun l here there => ?_
    exact apart (Settings.fixturePlace_inj (here.symm.trans there))

/-- Modes do not interfere on disk, whatever the requests are and however they fail. After requests
in turn the default fixture file of a mode is what it is after the requests of this mode alone, and
requests of two modes that follow each other can be exchanged: all files are the same in the end. The
fixture file is found by name, double dots taken back, and a directory is no file. -/
theorem modes_do_not_interfere (p : Prover.Mock) (settings : Settings) (umask : Nat)
    (fs : FileSystem) :
    (∀ (requests : List Request) (m : ProofMode),
      settings.fixtureFile m (filesAfterAll p settings umask requests fs) =
        settings.fixtureFile m
          (filesAfterAll p settings umask (requests.filter (·.mode? = some m)) fs)) ∧
    ∀ (before after : List Request) (first second : Request),
      (∀ m, first.mode? = some m → second.mode? ≠ some m) →
      (filesAfterAll p settings umask (before ++ first :: second :: after) fs).Same
        (filesAfterAll p settings umask (before ++ second :: first :: after) fs) := by
  constructor
  · intro requests m
    exact (level_filter p requests (.refl settings umask m fs)).fixtureFile_eq
  · intro before after first second differ
    simp only [filesAfterAll_append, filesAfterAll_cons]
    exact filesAfterAll_same after (filesAfter_comm differ _)

theorem fixtureFile_of_delivered {σ : Type} {client : Client σ} {sink : Sink} {n mode : Value}
    {w : World σ} {fixture : Fixture} {path : Path} (known : ProofMode.ofValue mode = .ok m)
    (delivered : ((deliver client settings sink n mode none).run w).1 = .ok (fixture, path)) :
    ∃ bits, settings.fixtureFile m
      ((deliver client settings sink n mode none).run w).2.disk.files =
        some (bits, Disk.document fixture.toValue) := by
  have course := deliver_ends client settings sink n mode none w
  unfold Act.Ends at course
  rw [delivered] at course
  cases course with
  | stored known' _ _ _ saved _ =>
    cases known.symm.trans known'
    exact Settings.fixtureFile_of_save saved

def full : Failure :=
  .fault (.raised .system "[Errno 28] No space left on device")

/-- A core fixture is there after its delivery, and stays when a plonk fixture is not saved. -/
theorem exists_modes_apart :
    ∃ (p : Prover.Mock) (first second : Request),
      first.mode? = some .core ∧ second.mode? = some .plonk ∧
      second.trouble .replace = some full ∧
      (∀ m, first.mode? = some m → second.mode? ≠ some m) ∧
      (∃ (bits : Nat) (fixture : Fixture), fixture.mode = .core ∧ fixture.n = 7 ∧
        Settings.fixtureFile {} .core (filesAfterAll p {} 0o022 [first, second] {}) =
          some (bits, Disk.document fixture.toValue)) ∧
      (filesAfterAll p {} 0o022 [first, second] {}).Same
        (filesAfterAll p {} 0o022 [second, first] {}) := by
  -- Whatever the program is, its key plays no part.
  obtain ⟨p⟩ : Nonempty Prover.Mock := ⟨⟨Prover.Mock.programKey []⟩⟩
  let first : Request := { n := .int 7, mode := .text "core" }
  let second : Request := {
    n := .int 7
    mode := .text "plonk"
    trouble := fun step => if step = .replace then some full else none }
  have core : first.mode? = some .core := by decide
  have plonk : second.mode? = some .plonk := by decide
  have differ : ∀ m, first.mode? = some m → second.mode? ≠ some m := by
    intro m one two
    cases core.symm.trans one
    cases plonk.symm.trans two
  obtain ⟨apart, exchanged⟩ := modes_do_not_interfere p {} 0o022 {}
  have kept := apart [first, second] .core
  have swapped := exchanged [] [] first second differ
  have only : [first, second].filter (·.mode? = some .core) = [first] := by
    simp [core, plonk]
  rw [only] at kept
  have known : ProofMode.ofValue (.text "core") = .ok .core := by rfl
  have writable : (first.world 0o022 {}).disk.Writable (Settings.fixturePath {} .core) :=
    ⟨.null, by decide +kernel⟩
  have delivered : ((deliver p.client {} first.sink first.n first.mode none).run
      (first.world 0o022 {})).1 = _ :=
    deliver_mock Bn254.lawful_multiples p 7 known unobtrusive_spare writable
  obtain ⟨bits, file⟩ := fixtureFile_of_delivered known delivered
  exact ⟨p, first, second, core, plonk, rfl, differ, ⟨bits, _, rfl, rfl, kept.trans file⟩, swapped⟩

end Delivery

end ProofDriver

import Mathlib.Logic.Function.Basic
import Mathlib.Data.List.Infix
import ProofDriver.Proofs.FileSystem.Save
/-!
# Saves at the same time

Any number of saves work on one tree, and what they do comes in any order. A save that is killed
does nothing more, so a list of what was done is also the story of saves that were killed on the way.

Each save keeps its own temporary file (`SaveJob.Keeps`), and whatever it does changes this file,
adds directories on the way to its destination, or puts its document there (`SaveJob.Did`). The saves
together therefore keep `Saves.Sound`: a destination has what it had at the beginning or the whole
document that was put there last.
-/

namespace ProofDriver

open FileSystem (SameElsewhere)

def Node.data? : Node → Option Bytes
  | directory _ => none
  | file _ data => some data

/-- What a save can be seen to do: a whole step, or part of one that does not happen at once. -/
inductive SaveDeed where
  | step (token : String) (trouble : Option Failure)
  /-- Makes the parents that the first names lead to. -/
  | makeSome (count : Nat)
  /-- Writes the first bytes. -/
  | writeSome (count : Nat)

/-- The document was put in its place. -/
def SavePhase.places : SavePhase → SavePhase → Bool
  | modeSet _, finished => true
  | _, _ => false

def SavePhase.isFinished : SavePhase → Bool
  | finished => true
  | _ => false

theorem SavePhase.eq_finished {phase : SavePhase} (h : phase.isFinished = true) :
    phase = .finished := by
  cases phase with
  | finished => rfl
  | _ => cases h

namespace SaveJob

variable {job : SaveJob} {start fs fs' : FileSystem} {phase phase' : SavePhase} {t : Path}
  {l : Location}

def perform (job : SaveJob) (phase : SavePhase) (fs : FileSystem) :
    SaveDeed → SavePhase × FileSystem
  | .step token trouble => job.step token trouble phase fs
  | .makeSome count =>
    match phase with
    | .begun =>
      let parent := job.path.parent
      (.begun, (fs.makeDirectories job.umask { parent with parts := parent.parts.take count }).2)
    | phase => (phase, fs)
  | .writeSome count =>
    match phase with
    | .created t => (.created t, fill fs t (job.content.take count))
    | phase => (phase, fs)

/-- The save has its temporary file, and once it is written the file holds the whole document. -/
def Keeps (job : SaveJob) (start fs : FileSystem) : SavePhase → Prop
  | .created t | .abandoned t _ =>
    job.Temporary start t ∧ ∃ mode data, fs.get? t.parts = some (.file mode data)
  | .written t | .synced t | .modeKnown t _ | .modeSet t =>
    job.Temporary start t ∧ ∃ mode, fs.get? t.parts = some (.file mode job.content)
  | .begun | .parentsMade | .finished | .failed _ => True

theorem Keeps.file (h : job.Keeps start fs phase) (mine : phase.temporary? = some t) :
    job.Temporary start t ∧ ∃ mode data, fs.get? t.parts = some (.file mode data) := by
  cases phase with
  | created _ | abandoned _ _ =>
    cases mine
    exact h
  | written _ | synced _ | modeKnown _ _ | modeSet _ =>
    cases mine
    obtain ⟨temporary, mode, file⟩ := h
    exact ⟨temporary, mode, _, file⟩
  | begun | parentsMade | finished | failed _ => cases mine

theorem Keeps.congr (h : job.Keeps start fs phase)
    (same : ∀ t, phase.temporary? = some t → fs'.get? t.parts = fs.get? t.parts) :
    job.Keeps start fs' phase := by
  cases phase with
  | begun | parentsMade | finished | failed _ => trivial
  | created t | abandoned t _ | written t | synced t | modeKnown t _ | modeSet t =>
    have here := same t rfl
    simp only [Keeps] at h ⊢
    rwa [here]

/-- What a deed does to the tree: directories are added on the way to the destination, something
happens to the temporary file, or the file becomes the destination. -/
inductive Did (job : SaveJob) (fs : FileSystem) : SavePhase → SavePhase → FileSystem → Prop
  | parents {phase phase' : SavePhase} {fs' : FileSystem}
      (before : phase.temporary? = none) (after : phase'.temporary? = none)
      (ended : phase = .finished ∨ phase'.isFinished = false) (grown : fs.Grown fs')
      (onWay : ∀ l, fs'.get? l ≠ fs.get? l → fs.OnWay job.path.parent l) :
      Did job fs phase phase' fs'
  | own {phase phase' : SavePhase} {fs' : FileSystem} {t : Path}
      (elsewhere : SameElsewhere t.parts fs fs')
      (mine : phase.temporary? = some t ∨ phase'.temporary? = some t ∧ fs.get? t.parts = none)
      (after : ∀ t', phase'.temporary? = some t' → t' = t) (ended : phase'.isFinished = false) :
      Did job fs phase phase' fs'
  | placed (t : Path) (mode : Nat) :
      Did job fs (.modeSet t) .finished
        ((fs.erase t.parts).put (fs.lexical job.path) (.file mode job.content))

namespace Did

theorem idle (before : phase.temporary? = none) (after : phase'.temporary? = none)
    (ended : phase = .finished ∨ phase'.isFinished = false) : job.Did fs phase phase' fs :=
  .parents before after ended (.refl fs) fun _ changed => absurd rfl changed

theorem work (elsewhere : SameElsewhere t.parts fs fs')
    (before : phase.temporary? = some t ∨ fs.get? t.parts = none)
    (after : phase'.temporary? = some t) : job.Did fs phase phase' fs' := by
  refine .own elsewhere (before.imp_right fun vacant => ⟨after, vacant⟩) (fun t' mine => ?_) ?_
  · exact Option.some.inj (mine.symm.trans after)
  · cases phase' with
    | finished => cases after
    | _ => rfl

theorem cwd (h : job.Did fs phase phase' fs') : fs'.cwd = fs.cwd := by
  cases h with
  | parents _ _ _ grown _ => exact grown.cwd
  | own elsewhere => exact elsewhere.cwd
  | placed => rfl

theorem fresh (h : job.Did fs phase phase' fs') (mine : phase'.temporary? = some t) :
    phase.temporary? = some t ∨ fs.get? t.parts = none := by
  cases h with
  | parents _ after => cases after.symm.trans mine
  | own _ before after =>
    rw [after t mine]
    exact before.imp_right And.right
  | placed => cases mine

theorem get?_elsewhere (h : job.Did fs phase phase' fs')
    (before : ∀ t, phase.temporary? = some t → l ≠ t.parts)
    (after : ∀ t, phase'.temporary? = some t → l ≠ t.parts)
    (target : phase.places phase' = true → l ≠ fs.lexical job.path) :
    fs'.get? l = fs.get? l ∨
      fs.get? l = none ∧ (∃ mode, fs'.get? l = some (.directory mode)) ∧
        fs.OnWay job.path.parent l := by
  cases h with
  | parents _ _ _ grown onWay =>
    rcases grown.get? l with same | ⟨vacant, mode, made⟩
    · exact .inl same
    · exact .inr ⟨vacant, ⟨mode, made⟩, onWay l (by simp [vacant, made])⟩
  | own elsewhere mine =>
    have apart := mine.elim (before _) fun mine => after _ mine.1
    exact .inl (elsewhere.get? l apart)
  | placed t mode =>
    rw [FileSystem.get?_put_of_ne (target rfl), FileSystem.get?_erase, if_neg (before t rfl)]
    exact .inl rfl

theorem get?_target (h : job.Did fs phase phase' fs') (placed : phase.places phase' = true) :
    (fs'.get? (fs.lexical job.path)).bind Node.data? = some job.content := by
  cases h with
  | parents before =>
    cases phase with
    | modeSet _ => cases before
    | _ => cases placed
  | own _ _ _ ended =>
    unfold SavePhase.places at placed
    split at placed
    · cases ended
    · cases placed
  | placed t mode =>
    rw [FileSystem.get?_put_self]
    rfl

theorem places_of_finished (h : job.Did fs phase .finished fs') (going : phase ≠ .finished) :
    phase.places .finished = true := by
  cases h with
  | parents _ _ ended =>
    rcases ended with already | absurd
    · exact absurd already going
    · cases absurd
  | own _ _ _ ended => cases ended
  | placed => rfl

end Did

theorem did_notWritten (h : job.Keeps start fs phase) (mine : phase.temporary? = some t)
    (why : Failure) :
    job.Did fs phase (job.notWritten t why) fs ∧ job.Keeps start fs (job.notWritten t why) :=
  ⟨.work (.refl t.parts fs) (.inl mine) rfl, h.file mine⟩

theorem did_step (token : String) (trouble : Option Failure) (cwd : fs.cwd = start.cwd)
    (h : job.Keeps start fs phase) :
    job.Did fs phase (job.step token trouble phase fs).1 (job.step token trouble phase fs).2 ∧
      job.Keeps start (job.step token trouble phase fs).2
        (job.step token trouble phase fs).1 := by
  cases phase with
  | begun =>
    cases trouble with
    | some why => exact ⟨.idle rfl rfl (.inr rfl), trivial⟩
    | none =>
      have grown := FileSystem.grown_makeDirectories job.umask fs job.path.parent
      have onWay (l : Location) :=
        FileSystem.onWay_makeDirectories (l := l) job.umask fs job.path.parent
      simp only [step]
      rcases made : fs.makeDirectories job.umask job.path.parent with ⟨r, fs'⟩
      rw [made] at grown onWay
      cases r with
      | ok _ => exact ⟨.parents rfl rfl (.inr rfl) grown onWay, trivial⟩
      | error f => exact ⟨.parents rfl rfl (.inr rfl) grown onWay, trivial⟩
  | parentsMade =>
    cases trouble with
    | some why => exact ⟨.idle rfl rfl (.inr rfl), trivial⟩
    | none =>
      simp only [step]
      split
      · exact ⟨.idle rfl rfl (.inr rfl), trivial⟩
      · rename_i free
        have temporary : job.Temporary fs (job.temporaryPath token fs) := ⟨token, rfl⟩
        split
        · rename_i fs' made
          obtain ⟨vacant, rfl⟩ := temporary.created (by simpa using free) made
          exact ⟨.work (.put fs _ _) (.inr vacant) rfl, temporary.congr cwd.symm, 0o600, [],
            FileSystem.get?_put_self⟩
        · exact ⟨.idle rfl rfl (.inr rfl), trivial⟩
  | created t =>
    cases trouble with
    | some why => exact did_notWritten h rfl why
    | none =>
      obtain ⟨temporary, mode, data, file⟩ := h
      simp only [step, fill_file file]
      exact ⟨.work (.put fs _ _) (.inl rfl) rfl, temporary, mode, FileSystem.get?_put_self⟩
  | written t =>
    cases trouble with
    | some why => exact did_notWritten h rfl why
    | none => exact ⟨.work (.refl _ fs) (.inl rfl) rfl, h⟩
  | synced t =>
    simp only [step]
    split
    · exact ⟨.work (.refl _ fs) (.inl rfl) rfl, h⟩
    · exact did_notWritten h rfl _
  | modeKnown t bits =>
    cases trouble with
    | some why => exact did_notWritten h rfl why
    | none =>
      simp only [step]
      split
      · rename_i fs' done
        obtain ⟨temporary, mode, file⟩ := h
        rw [temporary.modeSet file done]
        exact ⟨.work (.put fs _ _) (.inl rfl) rfl, temporary, bits, FileSystem.get?_put_self⟩
      · exact did_notWritten h rfl _
  | modeSet t =>
    cases trouble with
    | some why => exact did_notWritten h rfl why
    | none =>
      simp only [step]
      split
      · rename_i fs' done
        obtain ⟨temporary, mode, file⟩ := h
        obtain ⟨-, -, rfl⟩ := (temporary.congr cwd).replaced file done
        exact ⟨.placed t mode, trivial⟩
      · exact did_notWritten h rfl _
  | abandoned t why =>
    exact ⟨.own (.erase fs t.parts) (.inl rfl) (fun _ mine => by cases mine) rfl, trivial⟩
  | finished => exact ⟨.idle rfl rfl (.inl rfl), trivial⟩
  | failed why => exact ⟨.idle rfl rfl (.inr rfl), trivial⟩

theorem did_perform (deed : SaveDeed) (cwd : fs.cwd = start.cwd)
    (h : job.Keeps start fs phase) :
    job.Did fs phase (job.perform phase fs deed).1 (job.perform phase fs deed).2 ∧
      job.Keeps start (job.perform phase fs deed).2 (job.perform phase fs deed).1 := by
  have idle : job.Did fs phase phase fs := by
    cases mine : phase.temporary? with
    | none =>
      refine .idle mine mine ?_
      cases ended : phase.isFinished with
      | true => exact .inl (SavePhase.eq_finished ended)
      | false => exact .inr rfl
    | some t => exact .work (.refl _ fs) (.inl mine) mine
  cases deed with
  | step token trouble => exact did_step token trouble cwd h
  | makeSome count =>
    cases phase with
    | begun =>
      have grown := FileSystem.grown_makeDirectories
      refine ⟨.parents rfl rfl (.inr rfl) (grown _ fs _) fun l changed => ?_, trivial⟩
      obtain ⟨way, first, there⟩ := FileSystem.onWay_makeDirectories _ fs _ changed
      exact ⟨way, first.trans (List.take_prefix count _), there⟩
    | _ => exact ⟨idle, h⟩
  | writeSome count =>
    cases phase with
    | created t =>
      obtain ⟨temporary, mode, data, file⟩ := h
      simp only [perform, fill_file file]
      exact ⟨.work (.put fs _ _) (.inl rfl) rfl, temporary, mode, _, FileSystem.get?_put_self⟩
    | _ => exact ⟨idle, h⟩

end SaveJob

/-- Several saves and the tree they work on. -/
structure Saves (ι : Type) where
  phase : ι → SavePhase
  files : FileSystem
  /-- The saves whose documents were put in place, the last of them first. -/
  placed : List ι := []

namespace Saves

variable {ι : Type} [DecidableEq ι] {jobs : ι → SaveJob} {start : FileSystem} {s : Saves ι}
  {moves : List (ι × SaveDeed)} {i : ι} {deed : SaveDeed} {l : Location}

def begin (start : FileSystem) : Saves ι where
  phase _ := .begun
  files := start

/-- One of the saves does something. -/
def move (jobs : ι → SaveJob) (s : Saves ι) : ι × SaveDeed → Saves ι
  | (i, deed) =>
    let (phase, files) := (jobs i).perform (s.phase i) s.files deed
    { phase := Function.update s.phase i phase
      files
      placed := if (s.phase i).places phase then i :: s.placed else s.placed }

def after (jobs : ι → SaveJob) (start : FileSystem) (moves : List (ι × SaveDeed)) : Saves ι :=
  moves.foldl (move jobs) (begin start)

/-- The destination of a save, with double dots taken back by name, as there are no links. A
directory at the destination is no document. -/
def target (jobs : ι → SaveJob) (start : FileSystem) (i : ι) : Location :=
  start.lexical (jobs i).path

def latest? (jobs : ι → SaveJob) (start : FileSystem) (s : Saves ι) (l : Location) : Option ι :=
  s.placed.find? fun i => target jobs start i = l

/-- At the place is the whole document that was put there last, or if there was none, what was there
at the beginning. -/
def Untorn (jobs : ι → SaveJob) (start : FileSystem) (s : Saves ι) (l : Location) : Prop :=
  match s.latest? jobs start l with
  | some i => (s.files.get? l).bind Node.data? = some (jobs i).content
  | none => s.files.get? l = start.get? l

instance : Decidable (s.Untorn jobs start l) :=
  match latest : s.latest? jobs start l with
  | some i =>
    decidable_of_iff ((s.files.get? l).bind Node.data? = some (jobs i).content) (by
      simp only [Untorn, latest])
  | none => decidable_of_iff (s.files.get? l = start.get? l) (by simp only [Untorn, latest])

/-- A directory was made at the place, where nothing was, on the way to the destination of a
save. -/
structure Paved (jobs : ι → SaveJob) (start : FileSystem) (s : Saves ι) (l : Location) : Prop where
  vacant : start.get? l = none
  unplaced : s.latest? jobs start l = none
  directory : ∃ mode, s.files.get? l = some (.directory mode)
  onWay : ∃ i, start.OnWay (jobs i).path.parent l

def Apart (jobs : ι → SaveJob) (start : FileSystem) (s : Saves ι) : Prop :=
  ∀ i j, ∀ t ∈ (s.phase i).temporary?, t.parts ≠ target jobs start j

/-! ## One move -/

variable (jobs) in
theorem move_phase_self (s : Saves ι) (i : ι) (deed : SaveDeed) :
    (s.move jobs (i, deed)).phase i = ((jobs i).perform (s.phase i) s.files deed).1 :=
  Function.update_self ..

theorem move_phase_of_ne {j : ι} (other : j ≠ i) :
    (s.move jobs (i, deed)).phase j = s.phase j :=
  Function.update_of_ne other ..

theorem latest?_move (jobs : ι → SaveJob) (start : FileSystem) (s : Saves ι) (i : ι)
    (deed : SaveDeed) (l : Location) : (s.move jobs (i, deed)).latest? jobs start l =
    if (s.phase i).places ((s.move jobs (i, deed)).phase i) = true ∧ target jobs start i = l then
      some i
    else s.latest? jobs start l := by
  have placed : (s.move jobs (i, deed)).placed =
      if (s.phase i).places ((s.move jobs (i, deed)).phase i) then i :: s.placed else s.placed := by
    rw [move_phase_self]
    rfl
  unfold latest?
  rw [placed]
  by_cases done : (s.phase i).places ((s.move jobs (i, deed)).phase i) = true
  · by_cases here : target jobs start i = l <;> simp [done, here]
  · simp [done]

/-- What holds of the saves as long as no temporary file is where a document is to be put. -/
structure Sound (jobs : ι → SaveJob) (start : FileSystem) (s : Saves ι) : Prop where
  cwd : s.files.cwd = start.cwd
  keeps : ∀ i, (jobs i).Keeps start s.files (s.phase i)
  distinct : ∀ i j t t', i ≠ j → (s.phase i).temporary? = some t →
    (s.phase j).temporary? = some t' → t.parts ≠ t'.parts
  intact : ∀ i, s.Untorn jobs start (target jobs start i) ∨ s.Paved jobs start (target jobs start i)

namespace Sound

theorem did (h : s.Sound jobs start) (i : ι) (deed : SaveDeed) :
    (jobs i).Did s.files (s.phase i) ((s.move jobs (i, deed)).phase i)
        (s.move jobs (i, deed)).files ∧
      (jobs i).Keeps start (s.move jobs (i, deed)).files ((s.move jobs (i, deed)).phase i) := by
  rw [move_phase_self]
  exact SaveJob.did_perform deed h.cwd (h.keeps i)

omit [DecidableEq ι] in
theorem target_eq (h : s.Sound jobs start) (i : ι) :
    s.files.lexical (jobs i).path = target jobs start i :=
  FileSystem.lexical_congr h.cwd

theorem distinct_move (h : s.Sound jobs start) {j : ι} {t t' : Path} (other : j ≠ i)
    (mine : ((s.move jobs (i, deed)).phase i).temporary? = some t)
    (theirs : (s.phase j).temporary? = some t') : t.parts ≠ t'.parts := by
  rcases (h.did i deed).1.fresh mine with old | vacant
  · exact h.distinct i j t t' other.symm old theirs
  · -- A new file is made where nothing stands, and there stands theirs.
    intro same
    obtain ⟨-, mode, data, file⟩ := (h.keeps j).file theirs
    rw [← same, vacant] at file
    cases file

theorem get?_theirs (h : s.Sound jobs start) (apart : s.Apart jobs start) (deed : SaveDeed) {j : ι}
    {t : Path} (other : j ≠ i) (theirs : (s.phase j).temporary? = some t) :
    (s.move jobs (i, deed)).files.get? t.parts = s.files.get? t.parts := by
  obtain ⟨-, mode, data, file⟩ := (h.keeps j).file theirs
  rcases (h.did i deed).1.get?_elsewhere (l := t.parts)
    (fun t' mine => h.distinct j i t t' other theirs mine)
    (fun t' mine => (h.distinct_move other mine theirs).symm)
    (fun _ => by
      rw [h.target_eq]
      exact apart j i t theirs) with same | ⟨vacant, -⟩
  · exact same
  · cases file.symm.trans vacant

theorem intact_move (h : s.Sound jobs start) (apart : s.Apart jobs start)
    (apart' : (s.move jobs (i, deed)).Apart jobs start) (k : ι) :
    (s.move jobs (i, deed)).Untorn jobs start (target jobs start k) ∨
      (s.move jobs (i, deed)).Paved jobs start (target jobs start k) := by
  have did := (h.did i deed).1
  generalize there : target jobs start k = l
  have latest := latest?_move jobs start s i deed l
  by_cases placing : (s.phase i).places ((s.move jobs (i, deed)).phase i) = true ∧
      target jobs start i = l
  · left
    rw [if_pos placing] at latest
    have document := did.get?_target placing.1
    rw [h.target_eq, placing.2] at document
    simpa only [Untorn, latest] using document
  · -- All that can happen to a destination now is that a directory is made there.
    rw [if_neg placing] at latest
    have before (t : Path) (mine : (s.phase i).temporary? = some t) : l ≠ t.parts := by
      rw [← there]
      exact (apart i k t mine).symm
    have after (t : Path) (mine : ((s.move jobs (i, deed)).phase i).temporary? = some t) :
        l ≠ t.parts := by
      rw [← there]
      exact (apart' i k t mine).symm
    have elsewhere := did.get?_elsewhere before after fun done here =>
      placing ⟨done, (here.trans (h.target_eq i)).symm⟩
    have intact := h.intact k
    rw [there] at intact
    rcases elsewhere with same | ⟨vacant, made, onWay⟩
    · rcases intact with untorn | paved
      · left
        unfold Untorn at untorn ⊢
        rwa [latest, same]
      · obtain ⟨mode, directory⟩ := paved.directory
        exact .inr ⟨paved.vacant, latest.trans paved.unplaced, ⟨mode, same.trans directory⟩,
          paved.onWay⟩
    · right
      rcases intact with untorn | paved
      · unfold Untorn at untorn
        cases placed : s.latest? jobs start l with
        | some j => simp [placed, vacant] at untorn
        | none =>
          simp only [placed, vacant] at untorn
          obtain ⟨way, first, here⟩ := onWay
          exact ⟨untorn.symm, latest.trans placed, made, i, way, first,
            here.trans (FileSystem.lexical_congr h.cwd)⟩
      · obtain ⟨mode, directory⟩ := paved.directory
        cases vacant.symm.trans directory

theorem move (h : s.Sound jobs start) (apart : s.Apart jobs start)
    (apart' : (s.move jobs (i, deed)).Apart jobs start) :
    (s.move jobs (i, deed)).Sound jobs start where
  cwd := (h.did i deed).1.cwd.trans h.cwd
  keeps j := by
    by_cases mine : j = i
    · subst mine
      exact (h.did j deed).2
    · rw [move_phase_of_ne mine]
      exact (h.keeps j).congr fun t theirs => h.get?_theirs apart deed mine theirs
  distinct j k t t' apart first second := by
    by_cases mine : j = i
    · subst mine
      rw [move_phase_of_ne apart.symm] at second
      exact h.distinct_move apart.symm first second
    · rw [move_phase_of_ne mine] at first
      by_cases mine' : k = i
      · subst mine'
        exact (h.distinct_move apart second first).symm
      · rw [move_phase_of_ne mine'] at second
        exact h.distinct j k t t' apart first second
  intact := h.intact_move apart apart'

end Sound

/-! ## Whole stories -/

theorem after_concat (jobs : ι → SaveJob) (start : FileSystem) (moves : List (ι × SaveDeed))
    (m : ι × SaveDeed) :
    after jobs start (moves ++ [m]) = (after jobs start moves).move jobs m := by
  simp [after]

omit [DecidableEq ι] in
theorem sound_begin (jobs : ι → SaveJob) (start : FileSystem) :
    (begin start : Saves ι).Sound jobs start where
  cwd := rfl
  keeps _ := trivial
  distinct i j t t' _ mine := by cases mine
  intact _ := .inl rfl

theorem sound_after (apart : ∀ past, past <+: moves → (after jobs start past).Apart jobs start) :
    (after jobs start moves).Sound jobs start := by
  -- The invariant goes over the last move; for it the files have to be apart before and after.
  induction moves using List.reverseRecOn with
  | nil => exact sound_begin jobs start
  | append_singleton earlier m ih =>
    have before := List.prefix_append earlier [m]
    rw [after_concat]
    apply (ih fun past first => apart past (first.trans before)).move (apart earlier before)
    rw [← after_concat]
    exact apart _ (List.prefix_refl _)

theorem exists_placing (apart : ∀ past, past <+: moves → (after jobs start past).Apart jobs start)
    (ended : (after jobs start moves).phase i = .finished) :
    ∃ earlier deed, earlier ++ [(i, deed)] <+: moves ∧
      ((after jobs start earlier).phase i).places
        ((after jobs start (earlier ++ [(i, deed)])).phase i) = true := by
  induction moves using List.reverseRecOn with
  | nil => cases ended
  | append_singleton earlier m ih =>
    have before := List.prefix_append earlier [m]
    have apart' : ∀ past, past <+: earlier → (after jobs start past).Apart jobs start :=
      fun past first => apart past (first.trans before)
    by_cases already : (after jobs start earlier).phase i = .finished
    · obtain ⟨first, deed, upTo, placed⟩ := ih apart' already
      exact ⟨first, deed, upTo.trans before, placed⟩
    · obtain ⟨j, deed⟩ := m
      by_cases mine : i = j
      · subst mine
        refine ⟨earlier, deed, List.prefix_refl _, ?_⟩
        have did := ((sound_after apart').did i deed).1
        rw [← after_concat, ended] at did
        rw [ended]
        exact did.places_of_finished already
      · rw [after_concat, move_phase_of_ne mine] at ended
        exact absurd ended already

/-- Readers never see a torn file. Where no temporary file is at a destination, however the saves
take their turns and wherever they stop, at every moment each destination has what it had at the
beginning or the whole document that was put there last, but that a directory may have been made
where nothing was; no save touches the temporary file of another; and a save that has come to its end
had its document at its destination right after it put it there. A destination is found by name,
double dots taken back, and a directory that is there is no file. -/
theorem destinations_never_torn (jobs : ι → SaveJob) (start : FileSystem)
    (moves : List (ι × SaveDeed))
    (apart : ∀ past, past <+: moves → (after jobs start past).Apart jobs start) :
    (∀ past, past <+: moves → ∀ i,
      (after jobs start past).Untorn jobs start (target jobs start i) ∨
        (after jobs start past).Paved jobs start (target jobs start i)) ∧
    (∀ past i deed, past ++ [(i, deed)] <+: moves → ∀ j t, j ≠ i →
      ((after jobs start past).phase j).temporary? = some t →
        (after jobs start (past ++ [(i, deed)])).files.get? t.parts =
          (after jobs start past).files.get? t.parts) ∧
    ∀ i, (after jobs start moves).phase i = .finished →
      ∃ past deed, past ++ [(i, deed)] <+: moves ∧
        ((after jobs start past).phase i).isOver = false ∧
        ((after jobs start (past ++ [(i, deed)])).files.get? (target jobs start i)).bind Node.data? =
          some (jobs i).content := by
  have sound (past : List (ι × SaveDeed)) (first : past <+: moves) :
      (after jobs start past).Sound jobs start :=
    sound_after fun earlier upTo => apart earlier (upTo.trans first)
  refine ⟨fun past first => (sound past first).intact, fun past i deed first j t other theirs => ?_,
    fun i ended => ?_⟩
  · have before := (List.prefix_append past [(i, deed)]).trans first
    rw [after_concat]
    exact (sound past before).get?_theirs (apart past before) deed other theirs
  · obtain ⟨past, deed, first, placed⟩ := exists_placing apart ended
    have before := (List.prefix_append past [(i, deed)]).trans first
    refine ⟨past, deed, first, ?_, ?_⟩
    · unfold SavePhase.places at placed
      split at placed
      · rename_i going _
        rw [going]
        rfl
      · cases placed
    · rw [after_concat] at placed ⊢
      rw [← (sound past before).target_eq]
      exact ((sound past before).did i deed).1.get?_target placed

def rivals (second : Bool) : SaveJob where
  path := ⟨.relative, ["f"]⟩
  content := Text.utf8Bytes (if second then "2\n" else "1\n")
  umask := 0o022

def race : List (Bool × SaveDeed) :=
  (List.range 7).flatMap fun _ => [(false, .step "a" none), (true, .step "b" none)]

theorem exists_race : (∀ past, past <+: race → (after rivals {} past).Apart rivals {}) ∧
    (∀ i, (after rivals {} race).phase i = .finished) ∧
    ∀ i, ∃ past deed, past ++ [(i, deed)] <+: race ∧
      ((after rivals {} past).phase i).isOver = false ∧
      ((after rivals {} (past ++ [(i, deed)])).files.get? (target rivals {} i)).bind Node.data? =
        some (rivals i).content := by
  have apart : ∀ past, past <+: race → (after rivals {} past).Apart rivals {} := by
    have all : ∀ past ∈ race.inits, ∀ i j, ∀ t ∈ ((after rivals {} past).phase i).temporary?,
        t.parts ≠ target rivals {} j := by decide +kernel
    exact fun past first => all past ((List.mem_inits past race).mpr first)
  have ended (i : Bool) : (after rivals {} race).phase i = .finished := by
    apply SavePhase.eq_finished
    revert i
    decide +kernel
  exact ⟨apart, ended, fun i => (destinations_never_torn rivals {} race apart).2.2 i (ended i)⟩

def nested (second : Bool) : SaveJob where
  path := ⟨.relative, if second then ["a"] else ["a", "b"]⟩
  content := Text.utf8Bytes (if second then "2\n" else "1\n")
  umask := 0o022

def shadowing (second : Bool) : SaveJob where
  path := ⟨.relative, [if second then ".x.00000000.tmp" else "x"]⟩
  content := Text.utf8Bytes (if second then "2\n" else "1\n")
  umask := 0o022

/-- A destination can come to hold what is neither its beginning nor a document: a directory on the
way to another destination, or the temporary file of another save. -/
theorem exists_destination_taken :
    ¬ (after nested {} [(false, .step "" none)]).Untorn nested {} (target nested {} true) ∧
      ¬ (after shadowing {} [(false, .step "" none), (false, .step "00000000" none)]).Untorn
        shadowing {} (target shadowing {} true) := by
  constructor <;> decide +kernel

end Saves

end ProofDriver

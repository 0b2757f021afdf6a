import ProofDriver.Proofs.FileSystem.Directories
/-!
# Saves beside each other

Two trees may differ in the files that stand beside the destination of a save. The save does not
come across them: it ends in the same way in both trees and puts the same at its destination. In turn
it changes nothing but its destination, if the directory for it is there, so that saves in one
directory do not interfere.
-/

namespace ProofDriver

namespace FileSystem

variable {fs fs' fs₁ fs₂ fs₃ : FileSystem} {l : Location} {p : Path} {out out' : Location → Prop}

/-- The trees differ at places of `out` only, and where they do there is no directory in either. -/
structure SameBut (out : Location → Prop) (fs fs' : FileSystem) : Prop where
  cwd : fs'.cwd = fs.cwd
  foreign : fs'.foreign = fs.foreign
  get? : ∀ l, fs'.get? l = fs.get? l ∨ out l ∧
    ∀ mode, fs.get? l ≠ some (.directory mode) ∧ fs'.get? l ≠ some (.directory mode)

namespace SameBut

@[refl] theorem refl (out : Location → Prop) (fs : FileSystem) : SameBut out fs fs :=
  ⟨rfl, rfl, fun _ => .inl rfl⟩

theorem symm (h : SameBut out fs fs') : SameBut out fs' fs :=
  ⟨h.cwd.symm, h.foreign.symm, fun l => (h.get? l).imp Eq.symm fun differs =>
    ⟨differs.1, fun mode => (differs.2 mode).symm⟩⟩

theorem trans (h₁ : SameBut out fs₁ fs₂) (h₂ : SameBut out fs₂ fs₃) : SameBut out fs₁ fs₃ := by
  refine ⟨h₂.cwd.trans h₁.cwd, h₂.foreign.trans h₁.foreign, fun l => ?_⟩
  rcases h₁.get? l with first | ⟨mem, first⟩
  · rw [← first]
    exact h₂.get? l
  · rcases h₂.get? l with second | ⟨-, second⟩
    · rw [second]
      exact .inr ⟨mem, first⟩
    · exact .inr ⟨mem, fun mode => ⟨(first mode).1, (second mode).2⟩⟩

theorem imp (h : SameBut out fs fs') (weaker : ∀ l, out l → out' l) : SameBut out' fs fs' :=
  ⟨h.cwd, h.foreign, fun l => (h.get? l).imp_right fun differs => ⟨weaker l differs.1, differs.2⟩⟩

theorem of_same (h : fs.Same fs') : SameBut out fs fs' :=
  ⟨h.cwd, h.foreign, fun l => .inl (h.get? l)⟩

theorem same (h : SameBut (fun _ => False) fs fs') : fs.Same fs' :=
  ⟨h.cwd, h.foreign, fun l => (h.get? l).resolve_right fun differs => differs.1⟩

theorem same_of_apart (h : SameBut out fs fs') (h' : SameBut out' fs fs')
    (apart : ∀ l, out l → ¬ out' l) : fs.Same fs' := by
  refine ⟨h.cwd, h.foreign, fun l => ?_⟩
  rcases h.get? l with same | ⟨here, -⟩
  · exact same
  · exact (h'.get? l).resolve_right fun there => apart l here there.1

theorem get?_of_not (h : SameBut out fs fs') (within : ¬ out l) : fs'.get? l = fs.get? l :=
  (h.get? l).resolve_right fun differs => within differs.1

theorem put (h : SameBut out fs fs') (l : Location) (node : Node) :
    SameBut out (fs.put l node) (fs'.put l node) := by
  refine ⟨h.cwd, h.foreign, fun l' => ?_⟩
  rw [get?_put, get?_put]
  split
  · exact .inl rfl
  · exact h.get? l'

theorem erase (h : SameBut out fs fs') (l : Location) :
    SameBut out (fs.erase l) (fs'.erase l) := by
  refine ⟨h.cwd, h.foreign, fun l' => ?_⟩
  rw [get?_erase, get?_erase]
  split
  · exact .inl rfl
  · exact h.get? l'

theorem keepsWays (h : SameBut out fs fs') : fs.KeepsWays fs' := by
  refine ⟨h.cwd, fun l mode there => ?_⟩
  rcases h.get? l with same | ⟨-, differs⟩
  · rw [same, there]
  · exact absurd there (differs mode).1

theorem barrier?_of_eq (same : fs'.get? l = fs.get? l) : fs'.barrier? l = fs.barrier? l := by
  rw [barrier?, barrier?, same]

theorem walk (h : SameBut out fs fs') (names : List String) (l : Location)
    (within : ∀ front, front <+: names → front ≠ names → ¬ out (front.foldl follow l)) :
    fs'.walk l names = fs.walk l names := by
  induction names generalizing l with
  | nil => rfl
  | cons name rest ih =>
    have here : fs'.barrier? l = fs.barrier? l :=
      barrier?_of_eq (h.get?_of_not (within [] List.nil_prefix (List.cons_ne_nil _ _).symm))
    have further := ih (follow l name) fun front way proper =>
      within (name :: front) (List.cons_prefix_cons.mpr ⟨rfl, way⟩)
        fun whole => proper (List.cons.inj whole).2
    rw [FileSystem.walk, FileSystem.walk, here]
    cases fs.barrier? l with
    | some e => rfl
    | none =>
      unfold follow at further
      dsimp only
      split
      · rename_i dots
        rwa [if_pos dots] at further
      · rename_i plain
        rw [if_neg plain] at further
        rw [further]

theorem locate_of_walk (named : p.parts ≠ [])
    (walk : fs'.walk (fs'.start p) p.parts = fs.walk (fs.start p) p.parts) :
    fs'.locate p = fs.locate p := by
  by_cases short : p.render.utf8ByteSize ≤ pathLimit
  · rw [locate_eq_walk short named, locate_eq_walk short named, walk]
  · rw [locate, locate, if_pos (Nat.lt_of_not_le short), if_pos (Nat.lt_of_not_le short)]

theorem locate_of_ready (h : SameBut out fs fs') (named : p.parts ≠ [])
    (ready : fs.Ready p.parent) : fs'.locate p = fs.locate p := by
  obtain ⟨l, mode, reaches, there⟩ := ready
  have way := walk_of_locate reaches.located
  have way' := h.keepsWays.walk way
  have passable : fs'.barrier? l = fs.barrier? l :=
    barrier?_of_eq ((h.keepsWays.directory l mode there).trans there.symm)
  apply locate_of_walk named
  rw [start_congr h.cwd, ← List.dropLast_concat_getLast named, walk_append, walk_append]
  change (fs'.walk (fs.start p.parent) p.parent.parts >>= _) =
    (fs.walk (fs.start p.parent) p.parent.parts >>= _)
  rw [way, way']
  simp only [Except.ok_bind, FileSystem.walk, passable]

theorem canChange_of_directory (h : SameBut out fs fs') {mode : Nat}
    (there : fs.get? l.dropLast = some (.directory mode)) : fs'.canChange l = fs.canChange l := by
  rw [canChange, canChange, there, h.keepsWays.directory _ mode there]

end SameBut

end FileSystem

namespace SaveJob

variable {job : SaveJob} {fs fs' base : FileSystem} {t : Path} {l : Location}
  {out : Location → Prop}

/-! ## Names for the temporary file -/

def tokenCount : Nat := Nat.pow 10 8

theorem tokenCount_pos : 0 < tokenCount := by decide

theorem digit_mod (n : Nat) {i : Nat} (h : i < 8) :
    n / Nat.pow 10 i % 10 = n % tokenCount / Nat.pow 10 i % 10 := by
  have divides : Nat.pow 10 i * 10 ∣ tokenCount := Nat.pow_dvd_pow 10 h
  rw [← Nat.mod_mul_right_div_self, ← Nat.mod_mul_right_div_self, Nat.mod_mod_of_dvd n divides]

theorem digitChar_inj : ∀ a b : Fin 10, Nat.digitChar a = Nat.digitChar b → a = b := by decide

theorem tokenOf_eq_iff (m n : Nat) : tokenOf m = tokenOf n ↔ m % tokenCount = n % tokenCount := by
  unfold tokenOf
  rw [String.ofList_inj, List.map_inj_left]
  constructor
  · intro same
    have upto (k : Nat) (le : k ≤ 8) : m % Nat.pow 10 k = n % Nat.pow 10 k := by
      induction k with
      | zero => exact (Nat.mod_one m).trans (Nat.mod_one n).symm
      | succ k ih =>
        have digit := same k (List.mem_range.mpr le)
        have last : m / Nat.pow 10 k % 10 = n / Nat.pow 10 k % 10 :=
          congrArg Fin.val (digitChar_inj ⟨_, Nat.mod_lt _ (by decide)⟩
            ⟨_, Nat.mod_lt _ (by decide)⟩ digit)
        have split (x : Nat) : x % Nat.pow 10 (k + 1) =
            x % Nat.pow 10 k + Nat.pow 10 k * (x / Nat.pow 10 k % 10) := Nat.mod_pow_succ
        rw [split, split, ih (by omega), last]
    exact upto 8 (Nat.le_refl 8)
  · intro same i mem
    have digits := digit_mod m (List.mem_range.mp mem)
    rw [same, ← digit_mod n (List.mem_range.mp mem)] at digits
    exact congrArg Nat.digitChar digits

theorem temporaryPath_congr (cwd : fs'.cwd = fs.cwd) (token : String) :
    job.temporaryPath token fs' = job.temporaryPath token fs := by
  rw [temporaryPath, temporaryPath, FileSystem.absolute_congr cwd]

theorem parts_temporaryPath (token : String) :
    (job.temporaryPath token fs).parts =
      fs.lexical job.path.parent ++ ["." ++ job.path.name ++ "." ++ token ++ ".tmp"] := rfl

theorem temporaryPath_inj {m n : Nat}
    (same : (job.temporaryPath (tokenOf m) fs).parts = (job.temporaryPath (tokenOf n) fs).parts) :
    m % tokenCount = n % tokenCount := by
  rw [parts_temporaryPath, parts_temporaryPath, List.append_cancel_left_eq, List.singleton_inj,
    String.append_left_inj, String.append_right_inj] at same
  exact (tokenOf_eq_iff m n).mp same

theorem mem_entries_of_taken {token : String}
    (there : taken fs (job.temporaryPath token fs) = true) :
    (job.temporaryPath token fs).parts ∈ fs.entries.map Prod.fst := by
  unfold taken at there
  split at there
  · rename_i l found
    have mine : job.Temporary fs (job.temporaryPath token fs) := ⟨token, rfl⟩
    have here := mine.locate found
    rw [here, Option.isSome_iff_exists] at there
    obtain ⟨node, there⟩ := there
    obtain ⟨front, back, entries, -⟩ := List.lookup_eq_some_iff.mp there
    rw [entries]
    simp
  · cases there

theorem le_length_of_free {n : Nat}
    (free : taken fs (job.temporaryPath (tokenOf n) fs) = false)
    (before : ∀ j < n, taken fs (job.temporaryPath (tokenOf j) fs) = true) :
    n ≤ fs.entries.length := by
  -- From there on the names repeat.
  have small : n ≤ tokenCount := by
    rcases Nat.lt_or_ge n tokenCount with lt | ge
    · exact Nat.le_of_lt lt
    · have earlier := before (n % tokenCount) (Nat.lt_of_lt_of_le (Nat.mod_lt _ tokenCount_pos) ge)
      rw [(tokenOf_eq_iff _ _).mpr (Nat.mod_mod n tokenCount), free] at earlier
      cases earlier
  have distinct : ((List.range n).map fun j =>
      (job.temporaryPath (tokenOf j) fs).parts).Nodup := by
    refine List.pairwise_map.mpr (List.nodup_range.imp_of_mem fun {a b} left right differ same => ?_)
    have digits := temporaryPath_inj same
    rw [Nat.mod_eq_of_lt (Nat.lt_of_lt_of_le (List.mem_range.mp left) small),
      Nat.mod_eq_of_lt (Nat.lt_of_lt_of_le (List.mem_range.mp right) small)] at digits
    exact differ digits
  have count := distinct.length_le_of_subset fun place mem => by
    obtain ⟨j, lt, rfl⟩ := List.mem_map.mp mem
    exact mem_entries_of_taken (before j (List.mem_range.mp lt))
  simpa using count

def FirstFree (job : SaveJob) (fs : FileSystem) (n : Nat) : Prop :=
  taken fs (job.temporaryPath (tokenOf n) fs) = false ∧
    ∀ j < n, taken fs (job.temporaryPath (tokenOf j) fs) = true

theorem freeToken_of_firstFree {n : Nat} (first : job.FirstFree fs n) :
    job.freeToken fs = tokenOf n := by
  have found : (List.range (fs.entries.length + 1)).find? (fun n =>
      !taken fs (job.temporaryPath (tokenOf n) fs)) = some n := by
    refine List.find?_range_eq_some.mpr ⟨by simp [first.1], ?_, fun j lt => ?_⟩
    · exact List.mem_range.mpr (Nat.lt_succ_of_le (le_length_of_free first.1 first.2))
    · simp [first.2 j lt]
  rw [freeToken, found]

theorem freeToken_cases (job : SaveJob) (fs : FileSystem) :
    (∃ n, job.FirstFree fs n) ∨ job.freeToken fs = tokenOf 0 := by
  unfold freeToken
  split
  · rename_i n found
    obtain ⟨free, -, before⟩ := List.find?_range_eq_some.mp found
    exact .inl ⟨n, by simpa using free, fun j lt => by simpa using before j lt⟩
  · exact .inr rfl

theorem freeToken_congr (same : ∀ token, taken fs' (job.temporaryPath token fs') =
    taken fs (job.temporaryPath token fs)) : job.freeToken fs' = job.freeToken fs := by
  have firsts (n : Nat) : job.FirstFree fs' n ↔ job.FirstFree fs n := by
    simp only [FirstFree, same]
  rcases job.freeToken_cases fs with ⟨n, first⟩ | none
  · rw [freeToken_of_firstFree first, freeToken_of_firstFree ((firsts n).mpr first)]
  · rcases job.freeToken_cases fs' with ⟨n, first⟩ | none'
    · rw [freeToken_of_firstFree first, freeToken_of_firstFree ((firsts n).mp first)]
    · rw [none, none']

/-! ## Saves beside files -/

/-- The directory for the destination is there, and what is in `out` lies beside the destination: in
the same directory, with other names than the destination and the temporary files of the save. -/
structure Beside (job : SaveJob) (out : Location → Prop) (fs : FileSystem) : Prop where
  named : job.path.parts ≠ []
  plain : job.path.name ≠ ".."
  ready : fs.Ready job.path.parent
  names : ∀ l, out l → ∃ name, l = fs.lexical job.path.parent ++ [name] ∧
    name ≠ job.path.name ∧ ∀ token, name ≠ "." ++ job.path.name ++ "." ++ token ++ ".tmp"

namespace Beside

open FileSystem (SameBut ResultsBy)

theorem congr (h : job.Beside out fs) (ways : fs.KeepsWays fs') : job.Beside out fs' := by
  refine ⟨h.named, h.plain, ways.ready h.ready, fun l mem => ?_⟩
  rw [FileSystem.lexical_congr ways.cwd]
  exact h.names l mem

theorem lexical_eq (h : job.Beside out fs) :
    fs.lexical job.path = fs.lexical job.path.parent ++ [job.path.name] := by
  rw [FileSystem.lexical_parent fs job.path h.named, FileSystem.follow, if_neg h.plain]

theorem not_target (h : job.Beside out fs) : ¬ out (fs.lexical job.path) := by
  intro mem
  obtain ⟨name, place, other, -⟩ := h.names _ mem
  rw [h.lexical_eq, List.append_cancel_left_eq, List.singleton_inj] at place
  exact other place.symm

theorem not_temporary (h : job.Beside out fs) (temporary : job.Temporary fs t) :
    ¬ out t.parts := by
  intro mem
  obtain ⟨name, place, -, other⟩ := h.names _ mem
  obtain ⟨token, rfl⟩ := temporary
  rw [parts_temporaryPath, List.append_cancel_left_eq, List.singleton_inj] at place
  exact other token place.symm

theorem directory (h : job.Beside out fs) :
    ∃ mode, fs.get? (fs.lexical job.path.parent) = some (.directory mode) := by
  obtain ⟨l, mode, reaches, there⟩ := h.ready
  rw [FileSystem.locate_eq_lexical reaches.located] at there
  exact ⟨mode, there⟩

variable (h : job.Beside out fs) (same : SameBut out fs fs')

include h same

theorem locate_target : fs'.locate job.path = fs.locate job.path :=
  same.locate_of_ready h.named h.ready

theorem locate_temporary (temporary : job.Temporary fs t) : fs'.locate t = fs.locate t := by
  obtain ⟨name, -, parts⟩ := temporary.parts_eq
  have named : t.parts ≠ [] := by simp [parts]
  have rooted : fs.start t = [] := temporary.start_eq fs
  have plain : ".." ∉ t.parts := temporary.plain
  apply SameBut.locate_of_walk named
  rw [FileSystem.start_congr same.cwd, rooted]
  refine same.walk t.parts [] fun front way proper mem => ?_
  have plain' : ".." ∉ front := fun dots => plain (way.subset dots)
  rw [FileSystem.foldl_follow_of_plain plain', List.nil_append] at mem
  obtain ⟨other, place, -⟩ := h.names _ mem
  have long : front.length = t.parts.length := by simp [place, parts]
  exact proper (way.eq_of_length long)

theorem canChange_target : fs'.canChange (fs.lexical job.path) =
    fs.canChange (fs.lexical job.path) := by
  obtain ⟨mode, there⟩ := h.directory
  have above : fs.get? (fs.lexical job.path).dropLast = some (.directory mode) := by
    rwa [h.lexical_eq, List.dropLast_concat]
  exact same.canChange_of_directory above

theorem canChange_temporary (temporary : job.Temporary fs t) :
    fs'.canChange t.parts = fs.canChange t.parts := by
  obtain ⟨mode, there⟩ := h.directory
  obtain ⟨name, -, parts⟩ := temporary.parts_eq
  have above : fs.get? t.parts.dropLast = some (.directory mode) := by
    rwa [parts, List.dropLast_concat]
  exact same.canChange_of_directory above

theorem taken_congr (temporary : job.Temporary fs t) : taken fs' t = taken fs t := by
  unfold taken
  rw [h.locate_temporary same temporary]
  split
  · rename_i l found
    rw [temporary.locate found, same.get?_of_not (h.not_temporary temporary)]
  · rfl

theorem freeToken_congr : job.freeToken fs' = job.freeToken fs := by
  apply SaveJob.freeToken_congr
  intro token
  rw [temporaryPath_congr same.cwd]
  exact h.taken_congr same ⟨token, rfl⟩

theorem createFile (temporary : job.Temporary fs t) :
    ResultsBy (SameBut out) (createFile fs t) (createFile fs' t) := by
  unfold SaveJob.createFile
  rw [h.locate_temporary same temporary]
  split
  · exact .error
  · split
    · exact .error
    · rename_i l found
      rw [temporary.locate found, h.canChange_temporary same temporary]
      split
      · exact .ok (same.put _ _)
      · exact .error

theorem fill (temporary : job.Temporary fs t) (data : Bytes) :
    SameBut out (fill fs t data) (fill fs' t data) := by
  unfold SaveJob.fill
  rw [same.get?_of_not (h.not_temporary temporary)]
  split
  · exact same.put _ _
  · exact same

theorem modeAfter_congr (trouble : Option Failure) :
    job.modeAfter trouble fs' = job.modeAfter trouble fs := by
  unfold modeAfter FileSystem.stat
  rw [h.locate_target same]
  cases located : fs.locate job.path with
  | error e => rfl
  | ok l =>
    have there : fs'.get? l = fs.get? l := by
      rw [FileSystem.locate_eq_lexical located]
      exact same.get?_of_not h.not_target
    simp only [there]

theorem setMode (temporary : job.Temporary fs t) (mode : Nat) :
    ResultsBy (SameBut out) (fs.setMode t mode) (fs'.setMode t mode) := by
  unfold FileSystem.setMode
  rw [h.locate_temporary same temporary, same.foreign]
  split
  · exact .error
  · split
    · exact .error
    · rename_i l found
      rw [temporary.locate found, same.get?_of_not (h.not_temporary temporary)]
      split
      · exact .error
      · split
        · exact .error
        · exact .ok (same.put _ _)

theorem replace (temporary : job.Temporary fs t) :
    ResultsBy (SameBut out) (fs.replace t job.path) (fs'.replace t job.path) := by
  unfold FileSystem.replace
  rw [h.locate_temporary same temporary, h.locate_target same]
  dsimp only
  split
  · exact .error
  · exact .error
  · rename_i old new source target
    rw [temporary.locate source, FileSystem.locate_eq_lexical target,
      same.get?_of_not (h.not_temporary temporary), same.get?_of_not h.not_target,
      h.canChange_temporary same temporary, h.canChange_target same]
    split
    · exact .error
    · split
      · exact .error
      · split
        · exact .ok same
        · split
          · split
            · exact .error
            · exact .ok ((same.erase _).put _ _)
          · exact .error

end Beside

open FileSystem (SameBut ResultsBy)

/-- Two saves have come equally far, in trees that differ beside them only. -/
structure InStep (out : Location → Prop) (r r' : SavePhase × FileSystem) : Prop where
  phase : r'.1 = r.1
  same : SameBut out r.2 r'.2

theorem InStep.step {phase : SavePhase} (beside : job.Beside out fs)
    (temporary : ∀ t, phase.temporary? = some t → job.Temporary fs t) (started : phase ≠ .begun)
    (token : String) (trouble : Option Failure) (same : SameBut out fs fs') :
    InStep out (job.step token trouble phase fs) (job.step token trouble phase fs') := by
  have refused (phase : SavePhase) : InStep out (phase, fs) (phase, fs') := ⟨rfl, same⟩
  cases phase with
  | begun => exact absurd rfl started
  | parentsMade =>
    cases trouble with
    | some why => exact refused _
    | none =>
      have mine : job.Temporary fs (job.temporaryPath token fs) := ⟨token, rfl⟩
      have results := beside.createFile same mine
      simp only [SaveJob.step]
      rw [temporaryPath_congr same.cwd, beside.taken_congr same mine]
      split
      · exact refused _
      · generalize createFile fs _ = result at results
        generalize createFile fs' _ = result' at results
        cases results with
        | ok made => exact ⟨rfl, made⟩
        | error => exact refused _
  | created t =>
    cases trouble with
    | some why => exact refused _
    | none => exact ⟨rfl, beside.fill same (temporary t rfl) job.content⟩
  | written t =>
    cases trouble with
    | some why => exact refused _
    | none => exact refused _
  | synced t =>
    simp only [SaveJob.step]
    rw [beside.modeAfter_congr same]
    cases job.modeAfter trouble fs with
    | ok mode => exact refused _
    | error why => exact refused _
  | modeKnown t mode =>
    cases trouble with
    | some why => exact refused _
    | none =>
      have results := beside.setMode same (temporary t rfl) mode
      simp only [SaveJob.step]
      generalize fs.setMode t mode = result at results
      generalize fs'.setMode t mode = result' at results
      cases results with
      | ok done => exact ⟨rfl, done⟩
      | error => exact refused _
  | modeSet t =>
    cases trouble with
    | some why => exact refused _
    | none =>
      have results := beside.replace same (temporary t rfl)
      simp only [SaveJob.step]
      generalize fs.replace t job.path = result at results
      generalize fs'.replace t job.path = result' at results
      cases results with
      | ok done => exact ⟨rfl, done⟩
      | error => exact refused _
  | abandoned t why => exact ⟨rfl, same.erase t.parts⟩
  | finished => exact refused _
  | failed why => exact refused _

/-! ## Whole saves beside files -/

section Runs

variable {trouble : SaveStep → Option Failure} {f : Fault}

theorem foldl_failed (job : SaveJob) (trouble : SaveStep → Option Failure) (fs : FileSystem)
    (why : Failure) (steps : List Nat) :
    steps.foldl (fun reached _ => job.advance trouble reached) (.failed why, fs) =
      (.failed why, fs) := by
  induction steps with
  | nil => rfl
  | cons _ _ ih => exact ih

theorem run_eq_foldl (job : SaveJob) (trouble : SaveStep → Option Failure) (fs : FileSystem) :
    job.run trouble fs = (List.range 7).foldl (fun reached _ => job.advance trouble reached)
      (job.advance trouble (.begun, fs)) := rfl

theorem advance_begun (token : String) :
    job.advance trouble (.begun, fs) = job.step token (trouble .makeParents) .begun fs := rfl

theorem run_of_trouble {why : Failure} (prevented : trouble .makeParents = some why) :
    (job.run trouble fs).2 = fs := by
  rw [run_eq_foldl, advance_begun "", prevented]
  exact congrArg Prod.snd (foldl_failed ..)

theorem run_of_refused (calm : trouble .makeParents = none)
    (refused : fs.makeDirectories job.umask job.path.parent = (.error f, fs')) :
    (job.run trouble fs).2 = fs' := by
  have first : job.advance trouble (.begun, fs) = (job.notPrepared (.fault f), fs') := by
    rw [advance_begun "", calm]
    simp only [step, refused]
  rw [run_eq_foldl, first]
  exact congrArg Prod.snd (foldl_failed ..)

theorem advance_of_made (calm : trouble .makeParents = none)
    (made : fs.makeDirectories job.umask job.path.parent = (.ok (), fs')) :
    job.advance trouble (.begun, fs) = (.parentsMade, fs') := by
  rw [advance_begun "", calm]
  simp only [step, made]

theorem run_of_made (calm : trouble .makeParents = none)
    (made : fs.makeDirectories job.umask job.path.parent = (.ok (), fs')) :
    job.run trouble fs = job.run trouble fs' := by
  have again : fs'.makeDirectories job.umask job.path.parent = (.ok (), fs') :=
    (FileSystem.ready_of_makeDirectories made).makeDirectories
  rw [run_eq_foldl, run_eq_foldl, advance_of_made calm made, advance_of_made calm again]

theorem run_of_ready (calm : trouble .makeParents = none) (ready : fs.Ready job.path.parent) :
    job.run trouble fs = (List.range 7).foldl (fun reached _ => job.advance trouble reached)
      (.parentsMade, fs) := by
  rw [run_eq_foldl, advance_of_made calm ready.makeDirectories]

theorem since_foldl (job : SaveJob) (trouble : SaveStep → Option Failure) (fs : FileSystem)
    (count : Nat) :
    let reached := (List.range count).foldl (fun reached _ => job.advance trouble reached)
      (.parentsMade, fs)
    job.Since (Misled trouble) fs reached.1 reached.2 := by
  induction count with
  | zero => rfl
  | succ count ih =>
    rw [List.range_succ, List.foldl_append]
    exact since_step _ _ (hears_misled trouble _) ih

theorem since_run (calm : trouble .makeParents = none) (ready : fs.Ready job.path.parent) :
    job.Since (Misled trouble) fs (job.run trouble fs).1 (job.run trouble fs).2 := by
  rw [run_of_ready calm ready]
  exact since_foldl job trouble fs 7

theorem sameBut_run (calm : trouble .makeParents = none) (ready : fs.Ready job.path.parent) :
    SameBut (· = fs.lexical job.path) fs (job.run trouble fs).2 := by
  have since := job.since_run calm ready
  have ended := job.progress_run trouble fs
  cases phase : (job.run trouble fs).1 with
  | begun | created _ | written _ | synced _ | modeKnown _ _ | modeSet _ | abandoned _ _ =>
    simp [phase, progress] at ended
  | parentsMade =>
    rw [phase] at since
    have unchanged : (job.run trouble fs).2 = fs := since
    rw [unchanged]
  | finished =>
    rw [phase] at since
    obtain ⟨l, stored⟩ := since
    have here := FileSystem.locate_eq_lexical stored.located
    refine ⟨stored.elsewhere.cwd, stored.elsewhere.foreign, fun l' => ?_⟩
    by_cases same : l' = l
    · rw [same]
      refine .inr ⟨here, fun mode => ⟨stored.noDirectory mode, fun absurd => ?_⟩⟩
      obtain ⟨bits, document, -⟩ := stored.document
      cases document.symm.trans absurd
    · exact .inl (stored.elsewhere.get? l' same)
  | failed _ =>
    rw [phase] at since
    exact .of_same since

theorem sameBut_run_run (calm : trouble .makeParents = none) (beside : job.Beside out fs)
    (same : SameBut out fs fs') :
    SameBut out (job.run trouble fs).2 (job.run trouble fs').2 := by
  have side (count : Nat) : InStep out
      ((List.range count).foldl (fun reached _ => job.advance trouble reached) (.parentsMade, fs))
      ((List.range count).foldl (fun reached _ => job.advance trouble reached)
        (.parentsMade, fs')) := by
    induction count with
    | zero => exact ⟨rfl, same⟩
    | succ count ih =>
      rw [List.range_succ, List.foldl_append, List.foldl_append]
      have since := since_foldl job trouble fs count
      dsimp only at since
      generalize (List.range count).foldl _ (SavePhase.parentsMade, fs) = r at ih since
      generalize (List.range count).foldl _ (SavePhase.parentsMade, fs') = r' at ih
      obtain ⟨phase, now⟩ := r
      obtain ⟨phase', now'⟩ := r'
      obtain ⟨rfl, here⟩ : phase' = phase ∧ SameBut out now now' := ⟨ih.phase, ih.same⟩
      have beside' := beside.congr since.keepsWays
      have started : phase' ≠ .begun := by
        rintro rfl
        exact since
      simp only [List.foldl_cons, List.foldl_nil, advance, beside'.freeToken_congr here]
      exact .step beside' (fun t mine => since.temporary mine) started _ _ here
  rw [run_of_ready calm beside.ready,
    run_of_ready calm (same.keepsWays.ready beside.ready)]
  exact (side 7).same

end Runs

end SaveJob

/-- Whatever the files are, saving a value leaves them alone, or it runs one and the same save, which
gets as far as to making its directory. -/
theorem Disk.idle_or_runs (umask : Nat) (trouble : SaveStep → Option Failure) (path : Path)
    (v : Value) :
    (∀ files, ((Disk.mk files umask trouble).save path v).2.files = files) ∨
      ∃ content, trouble .makeParents = none ∧
        ∀ files, ((Disk.mk files umask trouble).save path v).2.files =
          (SaveJob.run ⟨path, content, umask⟩ trouble files).2 := by
  unfold Disk.save
  dsimp only
  cases trouble .serialize with
  | some why => exact .inl fun _ => rfl
  | none =>
    cases Json.write v with
    | error why => exact .inl fun _ => rfl
    | ok text =>
      cases calm : trouble .makeParents with
      | some why => exact .inl fun _ => SaveJob.run_of_trouble calm
      | none => exact .inr ⟨_, rfl, fun _ => rfl⟩

end ProofDriver

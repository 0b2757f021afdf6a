import ProofDriver.Proofs.FileSystem.Outline
import ProofDriver.Proofs.Outcome
/-!
# Directories that are there

Making a directory with its parents twice comes to what it came to the first time. A directory that
was made is there (`Ready`) and is not made again; where one was refused it is refused again, for the
directories above it that were made in between do not help.
-/

namespace ProofDriver

namespace Path

theorem size_render_parent (p : Path) (named : p.parts ≠ []) :
    p.parent.render.utf8ByteSize ≤ max 1 p.render.utf8ByteSize := by
  have split : p.parts = p.parts.dropLast ++ [p.parts.getLast named] :=
    (List.dropLast_concat_getLast named).symm
  have whole : p.render = PathRoot.text p.root ++ "/".intercalate p.parts := by
    rw [render, if_neg (fun h => named h.2)]
  by_cases top : p.parts.dropLast = []
  · have alone : p.parent.render.utf8ByteSize ≤ max 1 (PathRoot.text p.root).utf8ByteSize := by
      unfold render parent
      rw [top]
      cases p.root <;> decide
    rw [whole, String.utf8ByteSize_append]
    omega
  · have parent : p.parent.render = PathRoot.text p.root ++ "/".intercalate p.parts.dropLast := by
      rw [render, if_neg (fun h => top h.2)]
      rfl
    have longer := String.intercalate_append_of_ne_nil (s := "/") top
      (List.cons_ne_nil (p.parts.getLast named) [])
    rw [← split, String.intercalate_singleton] at longer
    rw [whole, parent, longer]
    simp only [String.utf8ByteSize_append]
    omega

theorem parent_reverse_cons (p : Path) (name : String) (above : List String) :
    ({ p with parts := (name :: above).reverse } : Path).parent =
      { p with parts := above.reverse } := by
  simp [parent]

end Path

namespace FileSystem

variable {fs fs' : FileSystem} {l : Location} {p : Path} {f : Fault} {umask : Nat}

/-! ## Ways -/

theorem walk_append (fs : FileSystem) (l : Location) (front back : List String) :
    fs.walk l (front ++ back) = fs.walk l front >>= fun l => fs.walk l back := by
  induction front generalizing l with
  | nil => rfl
  | cons name rest ih =>
    rw [List.cons_append, walk, walk, ih, ih]
    cases fs.barrier? l with
    | some e => rfl
    | none =>
      dsimp only
      split
      · rfl
      · split <;> rfl

theorem locate_eq_walk (short : p.render.utf8ByteSize ≤ pathLimit) (named : p.parts ≠ []) :
    fs.locate p = fs.walk (fs.start p) p.parts := by
  unfold locate
  rw [if_neg (Nat.not_lt.mpr short)]
  split
  · rename_i none
    exact absurd none named
  · rfl

theorem short_of_locate (found : fs.locate p = .ok l) : p.render.utf8ByteSize ≤ pathLimit := by
  unfold locate at found
  split at found
  · cases found
  · rename_i short
    exact Nat.not_lt.mp short

theorem walk_of_locate (found : fs.locate p = .ok l) : fs.walk (fs.start p) p.parts = .ok l := by
  unfold locate at found
  split at found
  · cases found
  · split at found
    · rename_i relative none
      split at found
      · cases found
      · cases found
        rw [none, FileSystem.start, relative]
        rfl
    · exact found

theorem directory_of_barrier? (passable : fs.barrier? l = none) :
    ∃ mode, fs.get? l = some (.directory mode) := by
  unfold barrier? at passable
  cases found : fs.get? l with
  | none => simp [found] at passable
  | some node =>
    cases node with
    | file mode data => simp [found] at passable
    | directory mode => exact ⟨mode, rfl⟩

def Ready (fs : FileSystem) (p : Path) : Prop :=
  ∃ l mode, fs.Reaches p l ∧ fs.get? l = some (.directory mode)

theorem KeepsWays.ready (h : fs.KeepsWays fs') (ready : fs.Ready p) : fs'.Ready p := by
  obtain ⟨l, mode, reaches, there⟩ := ready
  exact ⟨l, mode, h.reaches reaches, h.directory l mode there⟩

theorem Reaches.ready_parent (h : fs.Reaches p l) (named : p.parts ≠ []) : fs.Ready p.parent := by
  have clean : holdsNul p.parent = false := by
    have all := h.clean
    unfold holdsNul at all ⊢
    rw [List.any_eq_false] at all ⊢
    exact fun name mem => all name (List.dropLast_subset _ mem)
  have short := short_of_locate h.located
  have short' : p.parent.render.utf8ByteSize ≤ pathLimit := by
    have size := p.size_render_parent named
    have dot : 1 ≤ pathLimit := by decide
    omega
  have walked := walk_of_locate h.located
  rw [← List.dropLast_concat_getLast named, walk_append] at walked
  obtain ⟨above, way, last⟩ := Except.bind_eq_ok.mp walked
  have passable : fs.barrier? above = none := by
    rw [walk] at last
    split at last
    · cases last
    · assumption
  obtain ⟨mode, there⟩ := directory_of_barrier? passable
  refine ⟨above, mode, ⟨clean, ?_⟩, there⟩
  by_cases top : p.parent.parts = []
  · have start : fs.start p = above := by
      rw [show p.parts.dropLast = [] from top] at way
      exact Except.ok.inj way
    unfold locate
    rw [if_neg (Nat.not_lt.mpr short')]
    split
    · rename_i relative _
      have cwd : fs.cwd = above := by
        rw [← start, FileSystem.start, show p.root = .relative from relative]
      rw [cwd, passable]
    · rw [top]
      exact congrArg Except.ok start
  · rw [locate_eq_walk short' top]
    exact way

theorem ready_parent_of_ready (ready : fs.Ready p) (named : p.parts ≠ []) :
    fs.Ready p.parent := by
  obtain ⟨l, mode, reaches, -⟩ := ready
  exact reaches.ready_parent named

/-! ## Making what is there -/

theorem reaches_of_makeDirectory (made : makeDirectory umask fs p = .ok fs') :
    fs.Reaches p (fs.lexical p) := by
  unfold makeDirectory at made
  split at made
  · cases made
  · rename_i clean
    split at made
    · cases made
    · rename_i l found
      exact ⟨by simpa using clean, by rw [← locate_eq_lexical found, found]⟩

theorem ready_of_makeDirectory (made : makeDirectory umask fs p = .ok fs') : fs'.Ready p := by
  have ways := (grown_makeDirectory made).keepsWays
  have reaches := ways.reaches (reaches_of_makeDirectory made)
  obtain ⟨mode, -, rfl⟩ := put_of_makeDirectory made
  exact ⟨_, mode, reaches, get?_put_self⟩

theorem stat_eq_ok {node : Node} (h : fs.stat p = .ok node) :
    ∃ l, fs.Reaches p l ∧ fs.get? l = some node := by
  unfold stat at h
  split at h
  · cases h
  · rename_i clean
    split at h
    · cases h
    · rename_i l found
      split at h
      · cases h
      · rename_i there
        cases h
        exact ⟨l, ⟨by simpa using clean, found⟩, there⟩

theorem ready_of_unlessDirectory (h : fs.unlessDirectory p f = .ok ()) : fs.Ready p := by
  have directory : fs.isDirectory p = .ok true := by
    unfold unlessDirectory at h
    split at h
    · split at h
      · assumption
      · cases h
      · cases h
    · cases h
  unfold isDirectory ask at directory
  split at directory
  · rename_i node found
    obtain ⟨l, reaches, there⟩ := stat_eq_ok found
    cases node with
    | directory mode => exact ⟨l, mode, reaches, there⟩
    | file mode data => cases directory
  · cases directory
  · split at directory <;> cases directory
  · cases directory

theorem Ready.makeDirectory (ready : fs.Ready p) :
    makeDirectory umask fs p = .error (refused p .alreadyExists) := by
  obtain ⟨l, mode, reaches, there⟩ := ready
  rw [FileSystem.makeDirectory, reaches.clean, reaches.located]
  simp only [Bool.false_eq_true, if_false, there]

theorem Ready.unlessDirectory (ready : fs.Ready p) (e : Errno) :
    fs.unlessDirectory p (refused p e) = .ok () := by
  obtain ⟨l, mode, reaches, there⟩ := ready
  have directory : fs.isDirectory p = .ok true := by
    rw [isDirectory, ask, stat, reaches.clean, reaches.located]
    simp only [Bool.false_eq_true, if_false, there]
    rfl
  rw [FileSystem.unlessDirectory, directory]
  rfl

theorem Ready.makeDirectoriesFrom {names : List String}
    (ready : fs.Ready { p with parts := names.reverse }) :
    makeDirectoriesFrom umask p names fs = (.ok (), fs) := by
  have missing (q : Path) : isMissing (refused q .alreadyExists) = false := rfl
  unfold FileSystem.makeDirectoriesFrom
  simp only [ready.makeDirectory, missing, Bool.false_eq_true, if_false, ready.unlessDirectory]

theorem Ready.makeDirectories (ready : fs.Ready p) :
    makeDirectories umask fs p = (.ok (), fs) := by
  apply Ready.makeDirectoriesFrom
  rwa [List.reverse_reverse]

theorem ready_of_makeDirectoriesFrom {names : List String}
    (made : makeDirectoriesFrom umask p names fs = (.ok (), fs')) :
    fs'.Ready { p with parts := names.reverse } := by
  unfold makeDirectoriesFrom at made
  dsimp only at made
  split at made
  · rename_i last
    cases made
    exact ready_of_makeDirectory last
  · split at made
    · cases names with
      | nil => cases made
      | cons name above =>
        dsimp only at made
        split at made
        · cases made
        · split at made
          · rename_i last
            cases made
            exact ready_of_makeDirectory last
          · split at made
            · cases made
            · obtain ⟨there, rfl⟩ := Prod.mk.inj made
              exact ready_of_unlessDirectory there
    · obtain ⟨there, rfl⟩ := Prod.mk.inj made
      exact ready_of_unlessDirectory there

theorem ready_of_makeDirectories (made : makeDirectories umask fs p = (.ok (), fs')) :
    fs'.Ready p := by
  have ready := ready_of_makeDirectoriesFrom made
  rwa [List.reverse_reverse] at ready

/-! ## Refused again -/

theorem refused_below {name : String} {above : List String}
    (refused : (makeDirectoriesFrom umask p above fs).1 = .error f) :
    ∃ f', (makeDirectoriesFrom umask p (name :: above) fs).1 = .error f' := by
  have named : ({ p with parts := (name :: above).reverse } : Path).parts ≠ [] := by simp
  have unready : ¬ fs.Ready { p with parts := above.reverse } := by
    intro ready
    rw [ready.makeDirectoriesFrom] at refused
    cases refused
  unfold makeDirectoriesFrom
  dsimp only
  split
  · rename_i made
    have ready := (reaches_of_makeDirectory made).ready_parent named
    rw [Path.parent_reverse_cons] at ready
    exact absurd ready unready
  · rename_i first _
    split
    · rcases parents : makeDirectoriesFrom umask p above fs with ⟨r, last⟩
      rw [parents] at refused
      cases refused
      exact ⟨f, rfl⟩
    · cases answer : fs.unlessDirectory { p with parts := (name :: above).reverse } first with
      | error f' => exact ⟨f', rfl⟩
      | ok _ =>
        have ready := ready_parent_of_ready (ready_of_unlessDirectory answer) named
        rw [Path.parent_reverse_cons] at ready
        exact absurd ready unready

theorem refused_again (names : List String) (fs : FileSystem)
    (refused : makeDirectoriesFrom umask p names fs = (.error f, fs')) :
    ∃ f', (makeDirectoriesFrom umask p names fs').1 = .error f' := by
  induction names generalizing fs f fs' with
  | nil =>
    have unchanged : fs' = fs := by
      unfold makeDirectoriesFrom at refused
      dsimp only at refused
      split at refused
      · cases refused
      · split at refused <;> exact (congrArg Prod.snd refused).symm
    rw [unchanged]
    exact ⟨f, congrArg Prod.fst refused⟩
  | cons name above ih =>
    have again := refused
    unfold makeDirectoriesFrom at refused
    dsimp only at refused
    split at refused
    · cases refused
    · split at refused
      · split at refused
        · rename_i parents
          cases refused
          obtain ⟨f', still⟩ := ih fs parents
          exact refused_below still
        · rename_i made parents
          split at refused
          · cases refused
          · rename_i f₁ last
            have ready := ready_of_makeDirectoriesFrom parents
            have unchanged : fs' = made := (congrArg Prod.snd refused).symm
            have answer := congrArg Prod.fst refused
            rw [unchanged]
            unfold makeDirectoriesFrom
            simp only [last, ready.makeDirectoriesFrom]
            split at answer
            · rename_i missing
              rw [if_pos missing, if_pos missing]
              exact ⟨f₁, rfl⟩
            · rename_i present
              rw [if_neg present]
              exact ⟨f, answer⟩
      · have unchanged : fs' = fs := (congrArg Prod.snd refused).symm
        rw [unchanged]
        exact ⟨f, congrArg Prod.fst again⟩

theorem makeDirectories_refused_again (refused : makeDirectories umask fs p = (.error f, fs')) :
    ∃ f', (makeDirectories umask fs' p).1 = .error f' :=
  refused_again _ fs refused

/-! ## In trees that are the same -/

/-- Two operations that are refused for one reason or come to trees that are related. -/
inductive ResultsBy (R : FileSystem → FileSystem → Prop) :
    Except Fault FileSystem → Except Fault FileSystem → Prop
  | ok {s t} : R s t → ResultsBy R (.ok s) (.ok t)
  | error {e} : ResultsBy R (.error e) (.error e)

namespace Same

theorem alike (h : fs.Same fs') : fs.Alike fs' :=
  ⟨h.cwd, h.foreign, fun l => by rw [h.get? l]⟩

theorem put (h : fs.Same fs') (l : Location) (node : Node) :
    (fs.put l node).Same (fs'.put l node) :=
  ⟨h.cwd, h.foreign, fun l' => by rw [get?_put, get?_put, h.get? l']⟩

theorem makeDirectory (h : fs.Same fs') (umask : Nat) (p : Path) :
    ResultsBy Same (makeDirectory umask fs p) (makeDirectory umask fs' p) := by
  unfold FileSystem.makeDirectory
  rw [h.alike.locate]
  split
  · exact .error
  · split
    · exact .error
    · rw [h.get?, h.alike.canChange]
      split
      · exact .error
      · split
        · exact .ok (h.put _ _)
        · exact .error

theorem unlessDirectory (h : fs.Same fs') (p : Path) (f : Fault) :
    fs'.unlessDirectory p f = fs.unlessDirectory p f := by
  unfold FileSystem.unlessDirectory isDirectory ask stat
  simp only [h.alike.locate, h.get?]

theorem makeDirectoriesFrom (h : fs.Same fs') (umask : Nat) (p : Path) (names : List String) :
    (makeDirectoriesFrom umask p names fs').1 = (makeDirectoriesFrom umask p names fs).1 ∧
      (makeDirectoriesFrom umask p names fs).2.Same (makeDirectoriesFrom umask p names fs').2 := by
  induction names with
  | nil =>
    unfold FileSystem.makeDirectoriesFrom
    dsimp only
    have results := h.makeDirectory umask { p with parts := [].reverse }
    generalize FileSystem.makeDirectory umask fs _ = result at results
    generalize FileSystem.makeDirectory umask fs' _ = result' at results
    cases results with
    | ok made => exact ⟨rfl, made⟩
    | error =>
      dsimp only
      split
      · exact ⟨rfl, h⟩
      · exact ⟨h.unlessDirectory _ _, h⟩
  | cons name above ih =>
    unfold FileSystem.makeDirectoriesFrom
    dsimp only
    have results := h.makeDirectory umask { p with parts := (name :: above).reverse }
    generalize FileSystem.makeDirectory umask fs _ = result at results
    generalize FileSystem.makeDirectory umask fs' _ = result' at results
    cases results with
    | ok made => exact ⟨rfl, made⟩
    | error =>
      dsimp only
      split
      · rcases first : FileSystem.makeDirectoriesFrom umask p above fs with ⟨r, s⟩
        rcases second : FileSystem.makeDirectoriesFrom umask p above fs' with ⟨r', s'⟩
        rw [first, second] at ih
        obtain ⟨rfl, same⟩ := ih
        cases r' with
        | error f => exact ⟨rfl, same⟩
        | ok _ =>
          dsimp only
          have results := same.makeDirectory umask { p with parts := (name :: above).reverse }
          generalize FileSystem.makeDirectory umask s _ = result at results
          generalize FileSystem.makeDirectory umask s' _ = result' at results
          cases results with
          | ok made => exact ⟨rfl, made⟩
          | error =>
            dsimp only
            refine ⟨?_, same⟩
            rw [same.unlessDirectory]
      · exact ⟨h.unlessDirectory _ _, h⟩

theorem makeDirectories (h : fs.Same fs') (umask : Nat) (p : Path) :
    (makeDirectories umask fs' p).1 = (makeDirectories umask fs p).1 ∧
      (makeDirectories umask fs p).2.Same (makeDirectories umask fs' p).2 :=
  h.makeDirectoriesFrom umask p p.parts.reverse

end Same

end FileSystem

end ProofDriver

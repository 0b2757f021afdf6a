import ProofDriver.FileSystem.Basic
/-!
# What stands where

A file system is looked at through `get?`: what an operation does is what it does to the node at each
place. Double dots are taken back name by name, so a path that leads anywhere leads to the place
that its names spell (`locate_eq_lexical`), whatever else stands in the tree. `Grown` is the
relation between a tree and the same tree with directories added.
-/

namespace ProofDriver.FileSystem

variable {fs fs' fs₁ fs₂ fs₃ : FileSystem} {l l' : Location} {node : Node} {p : Path}

/-! ## One place changed -/

theorem lookup_putEntry (entries : List (Location × Node)) :
    (putEntry l node entries).lookup l' =
      if l' = l then some node else entries.lookup l' := by
  induction entries with
  | nil => by_cases h : l' = l <;> simp [putEntry, h]
  | cons entry rest ih =>
    obtain ⟨place, old⟩ := entry
    by_cases h : l' = place
    · subst h
      by_cases hplace : l' = l <;> simp [putEntry, hplace]
    · have hne : (l' == place) = false := by simpa using h
      by_cases hplace : place = l
      · subst hplace
        simp [putEntry, List.lookup_cons, h, hne]
      · simp only [putEntry, hplace, if_false, List.lookup_cons, hne, ih]

theorem get?_put : (fs.put l node).get? l' = if l' = l then some node else fs.get? l' :=
  lookup_putEntry fs.entries

@[simp] theorem get?_put_self : (fs.put l node).get? l = some node := by
  simp [get?_put]

theorem get?_put_of_ne (h : l' ≠ l) : (fs.put l node).get? l' = fs.get? l' := by
  simp [get?_put, h]

theorem get?_erase : (fs.erase l).get? l' = if l' = l then none else fs.get? l' := by
  unfold erase get?
  induction fs.entries with
  | nil => simp
  | cons entry rest ih =>
    obtain ⟨place, old⟩ := entry
    by_cases h : l' = place
    · subst h
      by_cases hplace : l' = l
      · simpa [hplace] using ih
      · simp [hplace]
    · have hne : (l' == place) = false := by simpa using h
      by_cases hplace : place = l
      · rw [List.filter_cons_of_neg (by simp [hplace]), List.lookup_cons, hne, ih]
      · rw [List.filter_cons_of_pos (by simp [hplace]), List.lookup_cons, List.lookup_cons, hne,
          ih]

/-- `fs'` is `fs` but for what stands at `l`. -/
structure SameElsewhere (l : Location) (fs fs' : FileSystem) : Prop where
  cwd : fs'.cwd = fs.cwd
  foreign : fs'.foreign = fs.foreign
  get? : ∀ l' ≠ l, fs'.get? l' = fs.get? l'

namespace SameElsewhere

@[refl] theorem refl (l : Location) (fs : FileSystem) : SameElsewhere l fs fs :=
  ⟨rfl, rfl, fun _ _ => rfl⟩

theorem put (fs : FileSystem) (l : Location) (node : Node) :
    SameElsewhere l fs (fs.put l node) :=
  ⟨rfl, rfl, fun _ h => get?_put_of_ne h⟩

theorem erase (fs : FileSystem) (l : Location) : SameElsewhere l fs (fs.erase l) :=
  ⟨rfl, rfl, fun _ h => by simp [get?_erase, h]⟩

theorem trans (h₁ : SameElsewhere l fs₁ fs₂) (h₂ : SameElsewhere l fs₂ fs₃) :
    SameElsewhere l fs₁ fs₃ :=
  ⟨h₂.cwd.trans h₁.cwd, h₂.foreign.trans h₁.foreign,
    fun l' h => (h₂.get? l' h).trans (h₁.get? l' h)⟩

end SameElsewhere

structure Same (fs fs' : FileSystem) : Prop where
  cwd : fs'.cwd = fs.cwd
  foreign : fs'.foreign = fs.foreign
  get? : ∀ l, fs'.get? l = fs.get? l

@[refl] theorem Same.refl (fs : FileSystem) : fs.Same fs := ⟨rfl, rfl, fun _ => rfl⟩

/-! ## Finding a place -/

def follow (l : Location) (name : String) : Location :=
  if name = ".." then l.dropLast else l ++ [name]

theorem lexical_eq_foldl (fs : FileSystem) (p : Path) :
    fs.lexical p = p.parts.foldl follow (fs.start p) := rfl

theorem walk_eq_foldl {names : List String} (h : fs.walk l names = .ok l') :
    l' = names.foldl follow l := by
  induction names generalizing l with
  | nil =>
    simp only [walk, Except.ok.injEq] at h
    simp [h]
  | cons name rest ih =>
    rw [walk] at h
    rw [List.foldl_cons, follow]
    split at h
    · cases h
    · split at h
      · rename_i dots
        rw [if_pos dots]
        exact ih h
      · rename_i plain
        rw [if_neg plain]
        split at h
        · cases h
        · exact ih h

theorem locate_eq_lexical (h : fs.locate p = .ok l) : l = fs.lexical p := by
  unfold locate at h
  split at h
  · cases h
  · split at h
    · rename_i root parts
      split at h
      · cases h
      · cases h
        simp [lexical_eq_foldl, start, root, parts]
    · exact walk_eq_foldl h

theorem start_congr (h : fs'.cwd = fs.cwd) : fs'.start p = fs.start p := by
  simp [start, h]

theorem lexical_congr (h : fs'.cwd = fs.cwd) : fs'.lexical p = fs.lexical p := by
  rw [lexical_eq_foldl, lexical_eq_foldl, start_congr h]

theorem absolute_congr (h : fs'.cwd = fs.cwd) : fs'.absolute p = fs.absolute p := by
  rw [absolute, absolute, lexical_congr h]

/-- Paths lead on in `fs'` where they do in `fs`: each directory is still there. -/
structure KeepsWays (fs fs' : FileSystem) : Prop where
  cwd : fs'.cwd = fs.cwd
  directory : ∀ l mode, fs.get? l = some (.directory mode) → fs'.get? l = some (.directory mode)

structure Reaches (fs : FileSystem) (p : Path) (l : Location) : Prop where
  clean : holdsNul p = false
  located : fs.locate p = .ok l

namespace KeepsWays

theorem barrier? (h : fs.KeepsWays fs') (passable : fs.barrier? l = none) :
    fs'.barrier? l = none := by
  unfold FileSystem.barrier? at passable ⊢
  cases found : fs.get? l with
  | none => simp [found] at passable
  | some node =>
    cases node with
    | file mode data => simp [found] at passable
    | directory mode =>
      rw [h.directory l mode found]
      simpa only [found] using passable

theorem walk {names : List String} (h : fs.KeepsWays fs') (found : fs.walk l names = .ok l') :
    fs'.walk l names = .ok l' := by
  induction names generalizing l with
  | nil => exact found
  | cons name rest ih =>
    rw [FileSystem.walk] at found ⊢
    cases barrier : fs.barrier? l with
    | some e => simp [barrier] at found
    | none =>
      simp only [barrier] at found
      simp only [h.barrier? barrier]
      split at found
      · rename_i dots
        rw [if_pos dots]
        exact ih found
      · rename_i plain
        rw [if_neg plain]
        split at found
        · cases found
        · rename_i short
          rw [if_neg short]
          exact ih found

theorem locate (h : fs.KeepsWays fs') (found : fs.locate p = .ok l) : fs'.locate p = .ok l := by
  unfold FileSystem.locate at found ⊢
  split at found
  · cases found
  · rename_i short
    rw [if_neg short]
    split at found
    · split at found
      · cases found
      · rename_i here
        rw [h.cwd, h.barrier? here]
        exact found
    · rw [start_congr h.cwd]
      exact h.walk found

theorem reaches (h : fs.KeepsWays fs') (there : fs.Reaches p l) : fs'.Reaches p l :=
  ⟨there.clean, h.locate there.located⟩

end KeepsWays

def Readable (fs : FileSystem) (l : Location) : Prop :=
  ∀ node, fs.get? l = some node → node.allows .read = true

theorem Reaches.read {mode : Nat} {data : Bytes} (h : fs.Reaches p l) (readable : fs.Readable l)
    (found : fs.get? l = some (.file mode data)) : fs.read p = .ok data := by
  have allowed := readable _ found
  rw [FileSystem.read, stat, h.clean, h.located]
  simp only [Bool.false_eq_true, if_false, found, allowed, if_true]

theorem Reaches.eq_of_read {mode : Nat} {data data' : Bytes} (h : fs.Reaches p l)
    (found : fs.get? l = some (.file mode data)) (read : fs.read p = .ok data') : data' = data := by
  rw [FileSystem.read, stat, h.clean, h.located] at read
  simp only [Bool.false_eq_true, if_false, found] at read
  split at read
  · cases read
    rfl
  · cases read

/-! ## Directories added -/

/-- Nothing changed but that directories were added where nothing stood. -/
structure Grown (fs fs' : FileSystem) : Prop where
  cwd : fs'.cwd = fs.cwd
  foreign : fs'.foreign = fs.foreign
  get? : ∀ l, fs'.get? l = fs.get? l ∨
    fs.get? l = none ∧ ∃ mode, fs'.get? l = some (.directory mode)

namespace Grown

@[refl] theorem refl (fs : FileSystem) : fs.Grown fs := ⟨rfl, rfl, fun _ => .inl rfl⟩

theorem trans (h₁ : fs₁.Grown fs₂) (h₂ : fs₂.Grown fs₃) : fs₁.Grown fs₃ := by
  refine ⟨h₂.cwd.trans h₁.cwd, h₂.foreign.trans h₁.foreign, fun l => ?_⟩
  rcases h₂.get? l with same | ⟨vacant, made⟩
  · rw [same]
    exact h₁.get? l
  · rcases h₁.get? l with same | ⟨_, mode, made'⟩
    · exact .inr ⟨same.symm.trans vacant, made⟩
    · simp [vacant] at made'

theorem get?_of_some (h : fs.Grown fs') (found : fs.get? l = some node) :
    fs'.get? l = some node := by
  rcases h.get? l with same | ⟨vacant, _⟩
  · rw [same, found]
  · simp [vacant] at found

theorem keepsWays (h : fs.Grown fs') : fs.KeepsWays fs' :=
  ⟨h.cwd, fun _ _ found => h.get?_of_some found⟩

theorem put (vacant : fs.get? l = none) (mode : Nat) :
    fs.Grown (fs.put l (.directory mode)) := by
  refine ⟨rfl, rfl, fun l' => ?_⟩
  by_cases here : l' = l
  · subst here
    exact .inr ⟨vacant, mode, get?_put_self⟩
  · exact .inl (get?_put_of_ne here)

end Grown

theorem put_of_makeDirectory {umask : Nat} (h : makeDirectory umask fs p = .ok fs') :
    ∃ mode, fs.get? (fs.lexical p) = none ∧ fs' = fs.put (fs.lexical p) (.directory mode) := by
  unfold makeDirectory at h
  split at h
  · cases h
  · split at h
    · cases h
    · rename_i place found
      rw [← locate_eq_lexical found]
      split at h
      · cases h
      · rename_i vacant
        split at h
        · cases h
          exact ⟨_, vacant, rfl⟩
        · cases h

theorem grown_makeDirectory {umask : Nat} (h : makeDirectory umask fs p = .ok fs') :
    fs.Grown fs' := by
  obtain ⟨mode, vacant, rfl⟩ := put_of_makeDirectory h
  exact .put vacant mode

theorem makeDirectoriesFrom_preserves {P : FileSystem → Prop} {umask : Nat} {p : Path}
    (names : List String)
    (preserves : ∀ above fs fs', above <:+ names →
      makeDirectory umask fs { p with parts := above.reverse } = .ok fs' → P fs → P fs')
    {fs : FileSystem} (h : P fs) : P (makeDirectoriesFrom umask p names fs).2 := by
  induction names generalizing fs with
  | nil =>
    unfold makeDirectoriesFrom
    dsimp only
    split
    · rename_i fs' made
      exact preserves _ _ _ (List.suffix_refl _) made h
    · split <;> exact h
  | cons name above ih =>
    unfold makeDirectoriesFrom
    dsimp only
    split
    · rename_i fs' made
      exact preserves _ _ _ (List.suffix_refl _) made h
    · split
      · have parents := ih (fun names fs fs' way =>
          preserves names fs fs' (way.trans (List.suffix_cons name above))) h
        split
        · rename_i f fs' failed
          rwa [failed] at parents
        · rename_i fs' made
          rw [made] at parents
          split
          · rename_i fs'' last
            exact preserves _ _ _ (List.suffix_refl _) last parents
          · exact parents
      · exact h

theorem grown_makeDirectories (umask : Nat) (fs : FileSystem) (p : Path) :
    fs.Grown (makeDirectories umask fs p).2 :=
  makeDirectoriesFrom_preserves _
    (fun _ _ _ _ made grown => grown.trans (grown_makeDirectory made)) (.refl fs)

def OnWay (fs : FileSystem) (p : Path) (l : Location) : Prop :=
  ∃ way, way <+: p.parts ∧ l = fs.lexical { p with parts := way }

theorem onWay_makeDirectories (umask : Nat) (fs : FileSystem) (p : Path)
    (changed : (makeDirectories umask fs p).2.get? l ≠ fs.get? l) : fs.OnWay p l := by
  have along : (makeDirectories umask fs p).2.cwd = fs.cwd ∧
      ∀ l, (makeDirectories umask fs p).2.get? l = fs.get? l ∨ fs.OnWay p l := by
    apply makeDirectoriesFrom_preserves (P := fun fs' => fs'.cwd = fs.cwd ∧
      ∀ l, fs'.get? l = fs.get? l ∨ fs.OnWay p l)
    · intro above fs₁ fs₂ way made ⟨cwd, along⟩
      refine ⟨(grown_makeDirectory made).cwd.trans cwd, fun l => ?_⟩
      obtain ⟨mode, -, rfl⟩ := put_of_makeDirectory made
      rw [get?_put]
      split
      · rename_i here
        refine .inr ⟨above.reverse, ?_, here.trans (lexical_congr cwd)⟩
        rw [← List.reverse_reverse p.parts]
        exact List.reverse_prefix.mpr way
      · exact along l
    · exact ⟨rfl, fun _ => .inl rfl⟩
  exact (along.2 l).resolve_left changed

end ProofDriver.FileSystem

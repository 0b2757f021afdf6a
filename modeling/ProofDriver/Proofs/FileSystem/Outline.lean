import ProofDriver.Proofs.FileSystem.Save
/-!
# A save does not look at what it saves

Two trees are alike if they differ in the content of files only. No step of a save tells alike trees
apart, so two saves to one path come to the same end whatever documents they save.
-/

namespace ProofDriver

def Node.outline : Node → Node
  | directory mode => directory mode
  | file mode _ => file mode []

namespace Node

variable {a b : Node}

theorem mode_outline (node : Node) : node.outline.mode = node.mode := by
  cases node <;> rfl

theorem mode_congr (same : a.outline = b.outline) : a.mode = b.mode := by
  rw [← mode_outline a, same, mode_outline b]

theorem allows_congr (same : a.outline = b.outline) (access : Access) :
    a.allows access = b.allows access := by
  rw [allows, allows, mode_congr same]

theorem outline_withMode (same : a.outline = b.outline) (mode : Nat) :
    (a.withMode mode).outline = (b.withMode mode).outline := by
  cases a <;> cases b <;> first | rfl | cases same

end Node

namespace FileSystem

variable {fs fs' : FileSystem} {l : Location} {p : Path} {node node' : Node}

/-- The trees differ in the content of files only. -/
structure Alike (fs fs' : FileSystem) : Prop where
  cwd : fs'.cwd = fs.cwd
  foreign : fs'.foreign = fs.foreign
  outline : ∀ l, (fs'.get? l).map Node.outline = (fs.get? l).map Node.outline

/-- What stands at a place of one tree stands at the same place of a tree that is alike, up to its
content. -/
inductive AlikeNodes : Option Node → Option Node → Prop
  | none : AlikeNodes none none
  | some {a b} : b.outline = a.outline → AlikeNodes (some a) (some b)

/-- Two operations that are refused for one reason or come to trees that are alike. -/
inductive AlikeResults : Except Fault FileSystem → Except Fault FileSystem → Prop
  | ok {s t} : s.Alike t → AlikeResults (.ok s) (.ok t)
  | error {f} : AlikeResults (.error f) (.error f)

namespace Alike

@[refl] theorem refl (fs : FileSystem) : fs.Alike fs :=
  ⟨rfl, rfl, fun _ => rfl⟩

theorem nodes (h : fs.Alike fs') (l : Location) : AlikeNodes (fs.get? l) (fs'.get? l) := by
  have same := h.outline l
  cases left : fs.get? l with
  | none =>
    rw [left, Option.map_none, Option.map_eq_none_iff] at same
    rw [same]
    exact .none
  | some node =>
    rw [left, Option.map_some, Option.map_eq_some_iff] at same
    obtain ⟨node', right, outline⟩ := same
    rw [right]
    exact .some outline

theorem put (h : fs.Alike fs') (l : Location) (same : node'.outline = node.outline) :
    (fs.put l node).Alike (fs'.put l node') := by
  refine ⟨h.cwd, h.foreign, fun l' => ?_⟩
  rw [get?_put, get?_put]
  split
  · rw [Option.map_some, Option.map_some, same]
  · exact h.outline l'

theorem erase (h : fs.Alike fs') (l : Location) : (fs.erase l).Alike (fs'.erase l) := by
  refine ⟨h.cwd, h.foreign, fun l' => ?_⟩
  rw [get?_erase, get?_erase]
  split
  · rfl
  · exact h.outline l'

theorem barrier? (h : fs.Alike fs') (l : Location) : fs'.barrier? l = fs.barrier? l := by
  have nodes := h.nodes l
  unfold FileSystem.barrier?
  generalize fs.get? l = node at nodes
  generalize fs'.get? l = node' at nodes
  cases nodes with
  | none => rfl
  | @some a b same => cases a <;> cases b <;> cases same <;> rfl

theorem walk (h : fs.Alike fs') (l : Location) (names : List String) :
    fs'.walk l names = fs.walk l names := by
  induction names generalizing l with
  | nil => rfl
  | cons name rest ih => rw [FileSystem.walk, FileSystem.walk, h.barrier?, ih, ih]

theorem locate (h : fs.Alike fs') (p : Path) : fs'.locate p = fs.locate p := by
  unfold FileSystem.locate
  simp only [h.cwd, h.barrier?, h.walk, start_congr h.cwd]

theorem canChange (h : fs.Alike fs') (l : Location) : fs'.canChange l = fs.canChange l := by
  have nodes := h.nodes l.dropLast
  unfold FileSystem.canChange
  generalize fs.get? l.dropLast = node at nodes
  generalize fs'.get? l.dropLast = node' at nodes
  cases nodes with
  | none => rfl
  | some same => simp only [Node.allows_congr same]

theorem setMode (h : fs.Alike fs') (p : Path) (mode : Nat) :
    AlikeResults (fs.setMode p mode) (fs'.setMode p mode) := by
  unfold FileSystem.setMode
  rw [h.locate, h.foreign]
  split
  · exact .error
  · split
    · exact .error
    · rename_i l _
      have nodes := h.nodes l
      generalize fs.get? l = node at nodes
      generalize fs'.get? l = node' at nodes
      cases nodes with
      | none => exact .error
      | some same =>
        dsimp only
        split
        · exact .error
        · exact .ok (h.put l (Node.outline_withMode same mode))

theorem replace (h : fs.Alike fs') (source target : Path) :
    AlikeResults (fs.replace source target) (fs'.replace source target) := by
  unfold FileSystem.replace
  rw [h.locate, h.locate]
  dsimp only
  split
  · exact .error
  · exact .error
  · rename_i old new _ _
    have moved := h.nodes old
    have covered := h.nodes new
    generalize fs.get? old = node at moved
    generalize fs'.get? old = node' at moved
    generalize fs.get? new = there at covered
    generalize fs'.get? new = there' at covered
    cases moved with
    | none => exact .error
    | some same =>
      dsimp only
      rw [h.canChange, h.canChange]
      split
      · exact .error
      · split
        · exact .ok h
        · split
          · have result := (h.erase old).put new same
            cases covered with
            | none => exact .ok result
            | @some a b same =>
              cases a with
              | directory =>
                cases b with
                | directory => exact .error
                | file => cases same
              | file =>
                cases b with
                | directory => cases same
                | file => exact .ok result
          · exact .error

end Alike

end FileSystem

namespace SaveJob

variable {job : SaveJob} {fs fs' : FileSystem} {content : Bytes}

open FileSystem (Alike AlikeNodes AlikeResults)

def withContent (job : SaveJob) (content : Bytes) : SaveJob :=
  { job with content }

theorem modeAfter_congr (h : fs.Alike fs') (trouble : Option Failure) :
    job.modeAfter trouble fs' = job.modeAfter trouble fs := by
  unfold modeAfter FileSystem.stat
  rw [h.locate]
  cases FileSystem.holdsNul job.path with
  | true => rfl
  | false =>
    cases fs.locate job.path with
    | error e => rfl
    | ok l =>
      have nodes := h.nodes l
      dsimp only
      generalize fs.get? l = node at nodes
      generalize fs'.get? l = node' at nodes
      cases nodes with
      | none => rfl
      | some same => simp only [Bool.false_eq_true, if_false, Node.mode_congr same]

theorem alike_fill (fs : FileSystem) (t : Path) (data data' : Bytes) :
    (fill fs t data).Alike (fill fs t data') := by
  unfold fill
  split
  · exact (Alike.refl fs).put t.parts rfl
  · exact .refl fs

def isUnwritten : SavePhase → Bool
  | .begun | .parentsMade | .created _ => true
  | _ => false

/-- Two saves have come equally far. As long as nothing is written they stand before one tree. -/
structure Abreast (r r' : SavePhase × FileSystem) : Prop where
  phase : r'.1 = r.1
  alike : r.2.Alike r'.2
  same : isUnwritten r.1 = true → r'.2 = r.2

theorem Abreast.of_eq {r r' : SavePhase × FileSystem} (h : r' = r) : Abreast r r' := by
  subst h
  exact ⟨rfl, .refl _, fun _ => rfl⟩

theorem Abreast.written {phase : SavePhase} (written : isUnwritten phase = false)
    (h : fs.Alike fs') : Abreast (phase, fs) (phase, fs') := by
  refine ⟨rfl, h, fun unwritten => ?_⟩
  rw [written] at unwritten
  cases unwritten

theorem Abreast.notWritten (job : SaveJob) (t : Path) (why : Failure) (h : fs.Alike fs') :
    Abreast (job.notWritten t why, fs) ((job.withContent content).notWritten t why, fs') :=
  .written rfl h

theorem Abreast.step (job : SaveJob) (content : Bytes) (token : String) (trouble : Option Failure)
    {phase : SavePhase} (h : Abreast (phase, fs) (phase, fs')) :
    Abreast (job.step token trouble phase fs)
      ((job.withContent content).step token trouble phase fs') := by
  have alike : fs.Alike fs' := h.alike
  cases phase with
  | begun =>
    have same : fs' = fs := h.same rfl
    rw [same]
    exact .of_eq rfl
  | parentsMade =>
    have same : fs' = fs := h.same rfl
    rw [same]
    exact .of_eq rfl
  | created t =>
    have same : fs' = fs := h.same rfl
    rw [same]
    cases trouble with
    | some why => exact .notWritten job t why (.refl fs)
    | none => exact .written rfl (alike_fill fs t job.content content)
  | written t =>
    cases trouble with
    | some why => exact .notWritten job t why alike
    | none => exact .written rfl alike
  | synced t =>
    have bits : (job.withContent content).modeAfter trouble fs' = job.modeAfter trouble fs :=
      modeAfter_congr alike trouble
    simp only [SaveJob.step, bits]
    cases job.modeAfter trouble fs with
    | ok mode => exact .written rfl alike
    | error why => exact .notWritten job t why alike
  | modeKnown t mode =>
    cases trouble with
    | some why => exact .notWritten job t why alike
    | none =>
      have results := alike.setMode t mode
      simp only [SaveJob.step]
      generalize fs.setMode t mode = r at results
      generalize fs'.setMode t mode = r' at results
      cases results with
      | ok after => exact .written rfl after
      | error => exact .notWritten job t _ alike
  | modeSet t =>
    cases trouble with
    | some why => exact .notWritten job t why alike
    | none =>
      have results := alike.replace t job.path
      have path : (job.withContent content).path = job.path := rfl
      simp only [SaveJob.step, path]
      generalize fs.replace t job.path = r at results
      generalize fs'.replace t job.path = r' at results
      cases results with
      | ok after => exact .written rfl after
      | error => exact .notWritten job t _ alike
  | abandoned t why => exact .written rfl (alike.erase t.parts)
  | finished => exact .written rfl alike
  | failed why => exact .written rfl alike

theorem step_token (token token' : String) {trouble : Option Failure} {phase : SavePhase}
    (late : isUnwritten phase = false) :
    job.step token trouble phase fs = job.step token' trouble phase fs := by
  cases phase <;> first | rfl | cases late

theorem Abreast.advance {trouble : SaveStep → Option Failure} {r r' : SavePhase × FileSystem}
    (h : Abreast r r') :
    Abreast (job.advance trouble r) ((job.withContent content).advance trouble r') := by
  obtain ⟨phase, fs⟩ := r
  obtain ⟨phase', fs'⟩ := r'
  obtain rfl : phase' = phase := h.phase
  have step := h.step job content (job.freeToken fs) (phase'.next?.bind trouble)
  unfold SaveJob.advance
  cases late : isUnwritten phase' with
  | true =>
    obtain rfl : fs' = fs := h.same late
    exact step
  | false =>
    dsimp only
    rw [step_token ((job.withContent content).freeToken fs') (job.freeToken fs) late]
    exact step

theorem abreast_run (job : SaveJob) (content : Bytes) (trouble : SaveStep → Option Failure)
    (fs : FileSystem) :
    Abreast (job.run trouble fs) ((job.withContent content).run trouble fs) := by
  unfold run
  generalize 8 = count
  induction count with
  | zero => exact .of_eq rfl
  | succ count ih =>
    rw [List.range_succ, List.foldl_append, List.foldl_append]
    exact ih.advance

end SaveJob

namespace Disk

variable {disk : Disk} {path : Path}

def Writable (disk : Disk) (path : Path) : Prop :=
  ∃ v, (disk.save path v).1 = .ok ()

theorem Writable.save (h : disk.Writable path) {v : Value} {text : String}
    (written : Json.write v = .ok text) : (disk.save path v).1 = .ok () := by
  obtain ⟨old, saved⟩ := h
  unfold Disk.save at saved ⊢
  cases trouble : disk.trouble .serialize with
  | some why =>
    rw [trouble] at saved
    cases saved
  | none =>
    rw [trouble] at saved
    cases printed : Json.write old with
    | error why =>
      rw [printed] at saved
      cases saved
    | ok other =>
      rw [printed] at saved
      rw [written]
      have abreast := SaveJob.abreast_run ⟨path, Text.utf8Bytes (other.push '\n'), disk.umask⟩
        (Text.utf8Bytes (text.push '\n')) disk.trouble disk.files
      have phases := abreast.phase
      unfold SaveJob.withContent at phases
      dsimp only at saved phases ⊢
      rw [phases]
      exact saved

end Disk

end ProofDriver

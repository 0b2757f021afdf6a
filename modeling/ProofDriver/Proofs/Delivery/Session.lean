import ProofDriver.Proofs.Delivery.Course
import ProofDriver.Proofs.Delivery.Preview
import ProofDriver.Proofs.Delivery.Recheck
import ProofDriver.Proofs.Prover.Steady
/-!
# Sessions

A session is any sequence of previews, deliveries and rechecks, each of which may fail and has a
machine and a disk of its own moods around it. With a steady client a fixture that was delivered
stays good until the next one is delivered to its place: whatever comes in between, a recheck of the
file returns it.
-/

namespace ProofDriver

variable {σ α β : Type} {key? : σ → Option VerifyingKey}

open Client (Settled Settles Steady)
open World (Asked Observed)

structure Surroundings where
  umask : Nat
  trouble : SaveStep → Option Failure
  machine : Machine

def World.under (w : World σ) (around : Surroundings) : World σ :=
  { w with
    disk := { w.disk with umask := around.umask, trouble := around.trouble }
    machine := around.machine }

/-! ## Work that leaves the disk and the key alone -/

def World.Carried (key? : σ → Option VerifyingKey) (w w' : World σ) : Prop :=
  w'.disk = w.disk ∧ Settled key? w.toDesk w'.toDesk

def Act.Carries (key? : σ → Option VerifyingKey) (x : Act (World σ) α) : Prop :=
  ∀ w, x.Ends w fun _ w' => w.Carried key? w'

namespace Act.Carries

theorem bind {x : Act (World σ) α} {f : α → Act (World σ) β} (hx : x.Carries key?)
    (hf : ∀ a, (f a).Carries key?) : (x >>= f).Carries key? :=
  Ends.bind_trans (fun h₁ h₂ => ⟨h₂.1.trans h₁.1, h₁.2.trans h₂.2⟩) hx hf

theorem of_observes {x : Act (World σ) α} (h : x.Observes) : x.Carries key? := by
  refine fun w => (h w).imp fun _ w' observed => ⟨observed.disk, fun k same => ?_⟩
  rwa [observed.client]

theorem ofOutcome (r : Outcome α) : (Act.ofOutcome r : Act (World σ) α).Carries key? :=
  of_observes (.ofOutcome r)

theorem ask {work : Act (Desk σ) α} (h : Settles key? work) : (World.ask work).Carries key? := by
  intro w
  exact ⟨rfl, h w.toDesk⟩

end Act.Carries

theorem Act.closed_carries : Closed fun α (x : Act (World σ) α) => x.Carries key? where
  bind := .bind
  ofOutcome := .ofOutcome
  log _ := .of_observes .log
  look each _ := (Carries.of_observes .get).bind each

namespace Delivery

open Act (Carries)

variable {client : Client σ} {verdict : Verdict}

theorem carries_preview (steady : client.Steady key? verdict) (n : Value) :
    (preview client n).Carries key? :=
  Act.closed_carries.preview (fun input => .ask (steady.execute input)) n

theorem carries_recheck (steady : client.Steady key? verdict) (shown : String) :
    (recheck client shown).Carries key? :=
  Act.closed_carries.recheck (fun each => (Carries.of_observes .get).bind each)
    (.ask fun d => (steady.setup d).1)
    (fun proof publicValues vkey => .ask fun d => (steady.verify proof publicValues vkey d).1) shown

/-! ## What a delivery leaves -/

theorem settled_of_asked {work : Act (Desk σ) α} {w w' : World σ} {r : Outcome α}
    (h : Settles key? work) (asked : Asked work w r w') : Settled key? w.toDesk w'.toDesk := by
  obtain ⟨-, before, after, run⟩ := asked
  have settled : Settled key? ⟨w.client, before⟩ ⟨w'.client, after⟩ := (h _).run_eq run
  exact settled

theorem settled_of_strategy (steady : client.Steady key? verdict) {input : GuestInput}
    {mode : ProofMode} {w w' : World σ} {r : Outcome Receipt}
    (course : Strategy.Course client input w mode r w') :
    Settled key? w.toDesk w'.toDesk ∧ ∀ run, r = .ok run → key? w'.client = some run.vkey := by
  have proves (mode : ProofMode) : Settles key? (client.prove input mode) :=
    fun d => (steady.prove input mode d).1
  have wraps (run : Receipt) : Settles key? (client.wrap run) := fun d => (steady.wrap run d).1
  cases course with
  | unstarted observed =>
    refine ⟨fun k same => ?_, by simp⟩
    rwa [observed.client]
  | @single _ _ _ _ _ asked follows =>
    refine ⟨settled_of_asked (proves mode) asked, fun run same => ?_⟩
    rw [follows run same] at asked
    obtain ⟨-, before, after, run⟩ := asked
    exact ((steady.prove input mode _).run_eq run).2 _ rfl
  | unwrapped asked => exact ⟨settled_of_asked (proves _) asked, by simp⟩
  | wrapped first second follows =>
    refine ⟨(settled_of_asked (proves _) first).trans (settled_of_asked (wraps _) second),
      fun run same => ?_⟩
    rw [follows run same] at second
    obtain ⟨-, before, after, proved⟩ := first
    obtain ⟨-, before', after', wrapped⟩ := second
    exact ((steady.wrap _ _).run_eq wrapped).2 _ (((steady.prove _ _ _).run_eq proved).2 _ rfl) rfl

/-- The file at the place holds the document of the fixture, and the client would take the proof
in it for the key that it has settled on. -/
structure Good (key? : σ → Option VerifyingKey) (verdict : Verdict) (w : World σ) (l : Location)
    (f : Fixture) : Prop where
  document : ∃ mode, w.disk.files.get? l = some (.file mode (Disk.document f.toValue))
  plain : f.toValue.Plain
  decodes : f.Decodes
  verified : ∃ proof publicValues vkey, f.Attests proof publicValues vkey ∧
    key? w.client = some vkey ∧ verdict proof publicValues vkey = .ok true

theorem Good.stays {w w' : World σ} {l : Location} {f : Fixture} (good : Good key? verdict w l f)
    (settled : Settled key? w.toDesk w'.toDesk)
    (file : ∀ node, w.disk.files.get? l = some node → w'.disk.files.get? l = some node) :
    Good key? verdict w' l f := by
  obtain ⟨mode, document⟩ := good.document
  obtain ⟨proof, publicValues, vkey, attests, key, answer⟩ := good.verified
  exact ⟨⟨mode, file _ document⟩, good.plain, good.decodes, proof, publicValues, vkey, attests,
    settled vkey key, answer⟩

/-- What a task leaves: the fixture that it delivered, good where it was put, or at most new
directories. -/
inductive Leaves (key? : σ → Option VerifyingKey) (verdict : Verdict) (w w' : World σ) :
    Option (Fixture × Path) → Prop
  | nothing : w.disk.files.Grown w'.disk.files → Leaves key? verdict w w' none
  | fixture {f path l} : Disk.Wrote f.toValue path l w.disk.files w'.disk.files →
      Good key? verdict w' l f → Leaves key? verdict w w' (some (f, path))

theorem Leaves.of_disk_eq {w w' : World σ} (same : w'.disk = w.disk) :
    Leaves key? verdict w w' none := by
  refine .nothing ?_
  rw [same]

theorem checked_steady (steady : client.Steady key? verdict) {input : GuestInput} {m : ProofMode}
    {w w' : World σ} {run : Receipt} {answer : Outcome Bool}
    (checked : Checked client input m w run answer w') :
    Settled key? w.toDesk w'.toDesk ∧ key? w'.client = some run.vkey ∧
      answer = verdict run.proof run.publicValues run.vkey := by
  obtain ⟨w₁, course, asked⟩ := checked
  obtain ⟨settled, key⟩ := settled_of_strategy steady course
  obtain ⟨-, before, after, run⟩ := asked
  obtain ⟨kept, judged⟩ := (steady.verify _ _ _ ⟨w₁.client, before⟩).run_eq run
  exact ⟨settled.trans kept, kept _ (key _ rfl), judged⟩

theorem leaves_of_course (steady : client.Steady key? verdict) {settings : Settings}
    {n mode : Value} {output : Option Path} {w w' : World σ} {r : Outcome (Fixture × Path)}
    (course : Course client settings n mode output w r w') :
    Settled key? w.toDesk w'.toDesk ∧ Leaves key? verdict w w' r.toOption := by
  cases course with
  | unknownMode _ | invalidInput _ _ => exact ⟨fun _ same => same, .of_disk_eq rfl⟩
  | unproved _ _ course =>
    exact ⟨(settled_of_strategy steady course).1, .of_disk_eq course.disk⟩
  | unanswered _ _ checked | rejected _ _ checked | unencodable _ _ checked _ =>
    exact ⟨(checked_steady steady checked).1, .of_disk_eq checked.disk⟩
  | unsaved _ _ checked _ saved kept =>
    obtain ⟨settled, -, -⟩ := checked_steady steady checked
    refine ⟨fun k same => ?_, .nothing ?_⟩
    · rw [kept]
      exact settled k same
    · rw [← checked.disk]
      exact Disk.grown_of_save saved
  | stored _ _ checked made saved kept =>
    obtain ⟨settled, key, answer⟩ := checked_steady steady checked
    obtain ⟨l, wrote⟩ := Disk.wrote_of_save saved
    rw [checked.disk] at wrote
    refine ⟨fun k same => ?_, .fixture wrote ⟨wrote.document, Fixture.plain_ofProof made,
      Fixture.decodes_ofProof made, _, _, _, Fixture.attests_ofProof made, ?_, answer.symm⟩⟩
    · rw [kept]
      exact settled k same
    · rw [kept]
      exact key

theorem recheck_good (steady : client.Steady key? verdict) {w : World σ} {l : Location}
    {f : Fixture} {shown : String} (good : Good key? verdict w l f)
    (reaches : w.disk.files.Reaches (Path.ofString shown) l)
    (readable : w.disk.files.Readable l) : ((recheck client shown).run w).1 = .ok f := by
  obtain ⟨mode, document⟩ := good.document
  obtain ⟨proof, publicValues, vkey, attests, key, answer⟩ := good.verified
  have loaded : Disk.load w.disk.files (Path.ofString shown) = .ok f.toValue.sorted :=
    Disk.load_document good.plain (reaches.read readable document)
  obtain ⟨values, decoded, agree⟩ := attests.values
  have genuine : Genuine f.toValue.sorted f publicValues :=
    ⟨Fixture.ofValue_sorted_toValue good.decodes, attests.publicValuesData,
      PublicValues.length_of_decode decoded, values, decoded, agree⟩
  rcases named : client.setup.run w.toDesk with ⟨r, desk⟩
  obtain ⟨-, same⟩ := (steady.setup w.toDesk).run_eq named
  obtain rfl := same vkey key
  refine (recheck_eq_ok_iff client loaded f).mpr
    ⟨publicValues, vkey, desk, proof.data, genuine, named, attests.key, attests.proofData, ?_⟩
  rw [attests.mode, (steady.verify _ _ _ desk).2]
  exact answer

/-! ## Tasks one after the other -/

inductive Task where
  | preview (n : Value)
  | deliver (settings : Settings) (sink : Sink) (n mode : Value) (output : Option Path)
  | recheck (shown : String)

def Task.act (client : Client σ) : Task → Act (World σ) (Option (Fixture × Path))
  | preview n => do
    let _ ← Delivery.preview client n
    pure none
  | deliver settings sink n mode output => do
    let delivered ← Delivery.deliver client settings sink n mode output
    pure (some delivered)
  | recheck shown => do
    let _ ← Delivery.recheck client shown
    pure none

abbrev Session := List (Surroundings × Task)

def Session.run (client : Client σ) : Session → World σ → List (Fixture × Path) × World σ
  | [], w => ([], w)
  | (around, task) :: rest, w =>
    let (r, w) := (task.act client).run (w.under around)
    let (delivered, w) := Session.run client rest w
    (r.toOption.join.toList ++ delivered, w)

/-- The fixture that was delivered to the place last. -/
def latest (fs : FileSystem) (l : Location) (delivered : List (Fixture × Path)) : Option Fixture :=
  (delivered.findRev? fun d => fs.lexical d.2 = l).map Prod.fst

theorem latest_append {fs : FileSystem} {l : Location} {f : Fixture} {path : Path}
    {delivered : List (Fixture × Path)} :
    latest fs l (delivered ++ [(f, path)]) =
      if fs.lexical path = l then some f else latest fs l delivered := by
  by_cases here : fs.lexical path = l <;> simp [latest, here]

theorem latest_congr {fs fs' : FileSystem} (cwd : fs'.cwd = fs.cwd) (l : Location)
    (delivered : List (Fixture × Path)) : latest fs' l delivered = latest fs l delivered := by
  simp only [latest, FileSystem.lexical_congr cwd]

theorem exists_latest {fs : FileSystem} {d : Fixture × Path} {delivered : List (Fixture × Path)}
    (mem : d ∈ delivered) : ∃ f, latest fs (fs.lexical d.2) delivered = some f := by
  have found : (latest fs (fs.lexical d.2) delivered).isSome := by
    simp only [latest, List.findRev?_eq_find?_reverse, Option.isSome_map, List.find?_isSome,
      List.mem_reverse, decide_eq_true_eq]
    exact ⟨d, mem, rfl⟩
  exact Option.isSome_iff_exists.mp found

theorem leaves_of_task (steady : client.Steady key? verdict) (task : Task) (w : World σ) :
    (task.act client).Ends w fun r w' =>
      Settled key? w.toDesk w'.toDesk ∧ Leaves key? verdict w w' r.toOption.join := by
  have idle {α : Type} {x : Act (World σ) α} (h : x.Carries key?) :
      (do let _ ← x; pure none : Act (World σ) (Option (Fixture × Path))).Ends w fun r w' =>
        Settled key? w.toDesk w'.toDesk ∧ Leaves key? verdict w w' r.toOption.join := by
    apply Act.Ends.bind
    · intro a w' run
      obtain ⟨disk, settled⟩ := (h w).run_eq run
      exact ⟨settled, .of_disk_eq disk⟩
    · intro e w' run
      obtain ⟨disk, settled⟩ := (h w).run_eq run
      exact ⟨settled, .of_disk_eq disk⟩
  cases task with
  | preview n => exact idle (carries_preview steady n)
  | recheck shown => exact idle (carries_recheck steady shown)
  | deliver settings sink n mode output =>
    have course := deliver_ends client settings sink n mode output w
    apply Act.Ends.bind
    · intro delivered w' run
      exact leaves_of_course steady (course.run_eq run)
    · intro e w' run
      exact leaves_of_course steady (course.run_eq run)

/-- The paths of all deliveries still lead to their files, and each of these files is good for what
was delivered to it last. -/
structure AllGood (key? : σ → Option VerifyingKey) (verdict : Verdict) (w : World σ)
    (delivered : List (Fixture × Path)) : Prop where
  reaches : ∀ d ∈ delivered, w.disk.files.Reaches d.2 (w.disk.files.lexical d.2)
  good : ∀ l f, latest w.disk.files l delivered = some f → Good key? verdict w l f

namespace AllGood

variable {w w' : World σ} {delivered : List (Fixture × Path)}

theorem nil : AllGood key? verdict w [] :=
  ⟨by simp, by simp [latest]⟩

theorem under (h : AllGood key? verdict w delivered) (around : Surroundings) :
    AllGood key? verdict (w.under around) delivered :=
  ⟨h.reaches, fun l f last => (h.good l f last).stays (fun _ same => same) fun _ file => file⟩

theorem append (h : AllGood key? verdict w delivered) {d? : Option (Fixture × Path)}
    (settled : Settled key? w.toDesk w'.toDesk) (leaves : Leaves key? verdict w w' d?) :
    AllGood key? verdict w' (delivered ++ d?.toList) := by
  have kept (cwd : w'.disk.files.cwd = w.disk.files.cwd)
      (keeps : w.disk.files.KeepsWays w'.disk.files) :
      ∀ d ∈ delivered, w'.disk.files.Reaches d.2 (w'.disk.files.lexical d.2) := by
    intro d mem
    rw [FileSystem.lexical_congr cwd]
    exact keeps.reaches (h.reaches d mem)
  cases leaves with
  | nothing grown =>
    rw [Option.toList_none, List.append_nil]
    refine ⟨kept grown.cwd grown.keepsWays, fun l f last => ?_⟩
    rw [latest_congr grown.cwd] at last
    exact (h.good l f last).stays settled fun _ file => grown.get?_of_some file
  | @fixture f path place wrote good =>
    have here := FileSystem.locate_eq_lexical wrote.reaches.located
    subst here
    refine ⟨?_, fun l g last => ?_⟩
    · intro d mem
      rw [Option.toList_some, List.mem_append, List.mem_singleton] at mem
      rcases mem with old | rfl
      · exact kept wrote.cwd wrote.keepsWays d old
      · exact wrote.reaches
    · rw [Option.toList_some, latest_append] at last
      split at last
      · rename_i same
        cases last
        rwa [← same]
      · rename_i apart
        rw [latest_congr wrote.cwd] at last
        exact (h.good l g last).stays settled fun _ file =>
          wrote.get?_of_some (Ne.symm apart) file

theorem run (steady : client.Steady key? verdict) (session : Session)
    (h : AllGood key? verdict w delivered) :
    AllGood key? verdict (session.run client w).2 (delivered ++ (session.run client w).1) := by
  induction session generalizing w delivered with
  | nil => simpa [Session.run] using h
  | cons next rest ih =>
    obtain ⟨around, task⟩ := next
    obtain ⟨settled, leaves⟩ := leaves_of_task steady task (w.under around)
    have done := ih ((h.under around).append settled leaves)
    rw [List.append_assoc] at done
    exact done

end AllGood

/-- At the end of every session, from any disk, each file that was delivered to passes a recheck
under every path by which it was, with the fixture that came to it last. -/
def Rechecks (client : Client σ) : Prop :=
  ∀ (session : Session) (w : World σ) (fixture : Fixture) (path : Path) (shown : String)
    (around : Surroundings),
    let (delivered, after) := session.run client w
    let l := after.disk.files.lexical path
    (fixture, path) ∈ delivered → Path.ofString shown = path → after.disk.files.Readable l →
      ∃ last, latest after.disk.files l delivered = some last ∧
        ((recheck client shown).run (after.under around)).1 = .ok last

theorem rechecks_of_steady (steady : client.Steady key? verdict) : Rechecks client := by
  intro session w fixture path shown around
  rcases ran : session.run client w with ⟨delivered, after⟩
  intro mem named readable
  have all : AllGood key? verdict (session.run client w).2 (session.run client w).1 :=
    AllGood.nil.run steady session
  rw [ran] at all
  obtain ⟨last, found⟩ : ∃ last, latest after.disk.files _ delivered = some last :=
    exists_latest mem
  have there := all.under around
  refine ⟨last, found, recheck_good steady (there.good _ last found) ?_ readable⟩
  rw [named]
  exact there.reaches _ mem

theorem Rechecks.last (rechecks : Rechecks client) {session : Session} {w after : World σ}
    {before : List (Fixture × Path)} {f : Fixture} {path : Path} {shown : String}
    (ran : session.run client w = (before ++ [(f, path)], after))
    (named : Path.ofString shown = path)
    (readable : after.disk.files.Readable (after.disk.files.lexical path))
    (around : Surroundings) : ((recheck client shown).run (after.under around)).1 = .ok f := by
  have rechecked := rechecks session w f path shown around
  rw [ran] at rechecked
  obtain ⟨last, found, rechecked⟩ := rechecked (by simp) named readable
  rw [latest_append, if_pos rfl] at found
  rw [rechecked, Option.some.inj found]

/-- Clients with one key recheck what they delivered, the mock is one of them, and an impartial
external prover does so too. -/
theorem delivered_fixtures_recheck :
    (∀ {σ : Type} (client : Client σ) (k : VerifyingKey) (verdict : Verdict),
      client.HasOneKey k verdict → Rechecks client) ∧
    (∀ (σ : Type) (p : Prover.Mock), (p.client : Client σ).HasOneKey p.vkey
      fun proof publicValues vkey => .ok (Prover.Mock.verify proof publicValues vkey)) ∧
    (∀ {τ : Type} (p : Prover.External) (host : Host τ) (env : Environment)
      (status : Command → Outcome Int),
      p.Impartial host status → Rechecks (p.client host env)) :=
  ⟨fun _ _ _ oneKey => rechecks_of_steady oneKey.steady, fun _ p => p.hasOneKey,
    fun _ _ _ _ impartial => rechecks_of_steady (Prover.External.steady impartial)⟩

def credulous : Client Unit where
  sound := true
  setup := pure ⟨List.replicate 32 0, rfl⟩
  execute _ := Act.fail (.fault .noResultLine)
  prove _ mode := pure ⟨⟨mode, []⟩, List.replicate 96 0, ⟨List.replicate 32 0, rfl⟩⟩
  wrap _ := Act.fail (.fault .noResultLine)
  verify _ _ _ := pure true

def calm : Surroundings := ⟨0o022, fun _ => none, {}⟩

def rehearsal : Session :=
  let deliver (mode : String) : Task :=
    .deliver {} (.receiver fun _ _ => none) (.int 0) (.text mode) (some ⟨.relative, ["f"]⟩)
  [.recheck "f", deliver "core", .preview (.int 0), deliver "compressed"].map fun task =>
    (calm, task)

def blank : World Unit where
  client := ()
  journal := []
  disk := { files := {} }

theorem credulous_hasOneKey :
    credulous.HasOneKey ⟨List.replicate 32 0, rfl⟩ fun _ _ _ => .ok true where
  setup _ := rfl
  prove _ _ _ _ proved := by rw [← Except.ok.inj proved]
  wrap _ _ _ _ wrapped := by cases wrapped
  verify _ _ _ _ := rfl

/-- The second of its deliveries is the one that a recheck finds. -/
theorem exists_session_rechecked :
    ∃ fixture, fixture.mode = .compressed ∧
      ((recheck credulous "f").run ((rehearsal.run credulous blank).2.under calm)).1 =
        .ok fixture := by
  have rechecks : Rechecks credulous := delivered_fixtures_recheck.1 _ _ _ credulous_hasOneKey
  have deliveries : ((rehearsal.run credulous blank).1.map fun d => (d.1.mode, d.2)) =
      [(.core, ⟨.relative, ["f"]⟩), (.compressed, ⟨.relative, ["f"]⟩)] :=
    eq_of_beq (by decide +kernel)
  have allowed : ((rehearsal.run credulous blank).2.disk.files.get?
      ((rehearsal.run credulous blank).2.disk.files.lexical ⟨.relative, ["f"]⟩)).all
        (Node.allows .read) = true := by
    decide +kernel
  rcases ran : rehearsal.run credulous blank with ⟨delivered, after⟩
  rw [ran] at deliveries allowed
  obtain ⟨first, rest, rfl, -, hrest⟩ := List.map_eq_cons_iff.mp deliveries
  obtain ⟨⟨fixture, path⟩, rest, rfl, hsecond, none⟩ := List.map_eq_cons_iff.mp hrest
  obtain rfl := List.map_eq_nil_iff.mp none
  obtain ⟨mode, rfl⟩ := Prod.ext_iff.mp hsecond
  have named : Path.ofString "f" = ⟨.relative, ["f"]⟩ := by decide
  replace ran : rehearsal.run credulous blank = ([first] ++ [(fixture, _)], after) := ran
  refine ⟨fixture, mode, rechecks.last ran named ?_ calm⟩
  intro node found
  simpa [found] using allowed

end Delivery

end ProofDriver

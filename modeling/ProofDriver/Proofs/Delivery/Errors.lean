import ProofDriver.Proofs.Delivery.Discipline
import ProofDriver.Proofs.Delivery.External
import ProofDriver.Proofs.FileSystem.Refusals
import ProofDriver.Proofs.Guest
import ProofDriver.Proofs.PublicValues
import ProofDriver.Proofs.Prover.Errors
/-!
# What a delivery with an external prover fails with

Each stage of a delivery has categories of errors of its own. Whatever the processes of the prover
do, the delivery ends with a fixture or with an error of one of these categories, and a flawed result
ends it with an error of proving. What stands against it is a message that cannot be made: the guard
before a plonk proof cannot name a minimum that is no double, and an index or a time limit of too many
digits cannot be named either.
-/

namespace ProofDriver

open World (Asked Observed)

def Machine.Sized (m : Machine) : Prop :=
  match m.totalMemory with
  | .ok total => ∃ gb, Strategy.gigabytes total = .ok gb
  | .error f => World.isSamplingFault f = true

namespace Strategy

variable {σ : Type} {client : Client σ} {settings : Settings} {w w₁ : World σ}

theorem memory?_ok (sized : w.machine.Sized) :
    ∃ memory w', (memory? : Act (World σ) _).run w = (.ok memory, w') := by
  unfold Machine.Sized at sized
  unfold memory?
  rw [Act.run_bind_of_ok (Act.run_get w)]
  cases total : w.machine.totalMemory with
  | ok total' =>
    simp only [total] at sized
    obtain ⟨gb, told⟩ := sized
    dsimp only
    rw [told]
    exact ⟨_, _, rfl⟩
  | error f =>
    simp only [total] at sized
    dsimp only
    rw [if_pos sized]
    exact ⟨_, _, rfl⟩

theorem within_of_requireMemory (sized : w.machine.Sized)
    (double : settings.plonkMinRam.toDouble? ≠ none) :
    (requireMemory client settings).Ends w fun r _ =>
      ∀ e, r = .error e → e.Within [.exhausted] := by
  obtain ⟨required, named⟩ := Option.ne_none_iff_exists'.mp double
  obtain ⟨memory, w', read⟩ := memory?_ok sized
  unfold requireMemory
  split
  · exact Failure.within_of_ok
  · refine .bind_ok read ?_
    cases memory with
    | none => exact Failure.within_of_ok
    | some total =>
      dsimp only
      split
      · unfold gigabyteText
        rw [named]
        exact Failure.within_of_error (Category.within_error _ _)
      · exact Failure.within_of_ok

def unguarded (client : Client σ) : Client σ :=
  { client with sound := false }

theorem proveWrapped_of_guarded {sink : Sink} {input : GuestInput}
    (passed : (requireMemory client settings).run w = (.ok (), w₁)) :
    (proveWrapped client settings sink input).run w =
      (proveWrapped (unguarded client) settings sink input).run w₁ := by
  unfold proveWrapped
  rw [Act.run_bind_of_ok passed]
  rfl

end Strategy

namespace Delivery

variable {τ : Type} {p : Prover.External} {host : Host τ} {env : Environment}
  {w w' : World (ExternalState τ)} {α : Type} {r : Outcome α}

open FileSystem (holdsNul holdsNul_eq_false)

theorem conducted_of_asked {work : Act (Desk (ExternalState τ)) α} {categories : List Category}
    (conducted : ∀ d, work.Ends d fun r d' => d.client.Conducted host categories r d'.client)
    (asked : Asked work w r w') : w.client.Conducted host categories r w'.client := by
  obtain ⟨-, before, after, run⟩ := asked
  have ended := conducted ⟨w.client, before⟩
  unfold Act.Ends at ended
  rwa [run] at ended

def provingCategories : List Category :=
  [.proving, .wrapping, .exhausted]

theorem wrappingFailure_of_within {e : Failure} (within : e.Within [.wrapping, .exhausted]) :
    Strategy.wrappingFailure e = e := by
  obtain ⟨d, rfl, category⟩ := within
  have kept : d.category = .wrapping ∨ d.category = .exhausted := by simpa using category
  exact if_pos kept

theorem mapError_wrappingFailure {answer : Outcome Receipt}
    (named : ∀ e, answer = .error e → Strategy.wrappingFailure e = e) :
    answer.mapError Strategy.wrappingFailure = answer := by
  cases answer with
  | ok run => rfl
  | error e => exact congrArg Except.error (named e rfl)

section Conducted

variable (startable : host.Startable) (named : p.namesLimit = true)
include startable named

theorem conducted_of_calm {input : GuestInput} {m : ProofMode}
    {r : Outcome Receipt}
    (course : Strategy.CalmCourse (Strategy.unguarded (p.client host env)) input w m r w') :
    w.client.Conducted host provingCategories r w'.client ∧
      ∀ run, r = .ok run → ∃ key, w'.client.key = some key := by
  have proving : [Category.proving, .exhausted] ⊆ provingCategories := by decide
  have keyed {mode : ProofMode} {run : Receipt} {w w' : World (ExternalState τ)}
      (asked : Asked (p.prove host env input mode) w (.ok run) w') :
      ∃ key, w'.client.key = some key := by
    obtain ⟨-, before, after, proved⟩ := asked
    obtain ⟨_, _, -, -, -, -, -, key⟩ := Prover.External.prove_ok proved
    exact ⟨_, key⟩
  cases course with
  | refused sound _ => cases sound
  | single _ asked =>
    have conducted := conducted_of_asked
      (Prover.External.prove_conducted startable named input m) asked
    refine ⟨conducted.mono proving, ?_⟩
    rintro run rfl
    exact keyed asked
  | unwrapped asked =>
    have conducted := conducted_of_asked
      (Prover.External.prove_conducted startable named input .compressed) asked
    exact ⟨conducted.mono proving, fun run absurd => by cases absurd⟩
  | @wrapped compressed answer w₁ _ first second =>
    replace first : Asked (p.prove host env input .compressed) w (.ok compressed) w₁ := first
    obtain ⟨key, known⟩ := keyed first
    have conducted := conducted_of_asked
      (Prover.External.prove_conducted startable named input .compressed) first
    have wrapping := conducted_of_asked
      (Prover.External.wrap_conducted startable named compressed) second
    rw [mapError_wrappingFailure fun e failed =>
      wrappingFailure_of_within (wrapping.errors e failed)]
    exact ⟨conducted.trans known (wrapping.mono (by decide)),
      fun _ _ => ⟨key, wrapping.kept key known⟩⟩

theorem strategy_conducted {settings : Settings}
    (samples : w.machine.Samples) (sized : w.machine.Sized)
    (double : settings.plonkMinRam.toDouble? ≠ none) (m : ProofMode) (input : GuestInput) :
    (Strategy.run m (p.client host env) settings .journal input).Ends w fun r w' =>
      (w.client.Conducted host provingCategories r w'.client ∧
        ∀ run, r = .ok run → ∃ key, w'.client.key = some key) ∧ w'.disk = w.disk := by
  have unguarded {w₁ : World (ExternalState τ)} (observed : w.Observed w₁)
      (machine : w₁.machine = w.machine) :
      (Strategy.run m (Strategy.unguarded (p.client host env)) settings .journal input).Ends w₁
        fun r w' => (w.client.Conducted host provingCategories r w'.client ∧
          ∀ run, r = .ok run → ∃ key, w'.client.key = some key) ∧ w'.disk = w.disk := by
    have calm : Unobtrusive .journal w₁.machine := ⟨by rwa [machine], trivial⟩
    refine (Strategy.run_ends_of_unobtrusive m _ settings input calm).imp fun r w' course => ?_
    replace course := course.of_observed observed
    exact ⟨conducted_of_calm startable named course, course.disk⟩
  cases m with
  | core | compressed => exact unguarded (.refl w) rfl
  | plonk =>
    have errors : (Strategy.requireMemory (p.client host env) settings).Ends w fun r _ =>
        ∀ e, r = .error e → e.Within [.exhausted] := Strategy.within_of_requireMemory sized double
    have observed := Strategy.observes_requireMemory (p.client host env) settings w
    have machine := Strategy.requireMemory_fixes_machine (p.client host env) settings w
    rcases guarded : (Strategy.requireMemory (p.client host env) settings).run w with ⟨r, w₁⟩
    replace observed := observed.run_eq guarded
    replace machine := machine.run_eq guarded
    cases r with
    | error e =>
      have within := errors.run_eq guarded e rfl
      refine .bind_error guarded
        ⟨⟨?_, fun run absurd => by cases absurd⟩, observed.disk⟩
      rw [observed.client]
      exact .idle w.client (Failure.within_of_error (within.mono (by decide)))
    | ok _ =>
      have rest := unguarded observed machine
      unfold Act.Ends at rest ⊢
      simp only [Strategy.run] at rest ⊢
      rwa [Strategy.proveWrapped_of_guarded guarded]

end Conducted

def categories : List Category :=
  [.unknownMode, .invalidInput, .proving, .wrapping, .exhausted, .verification, .encoding, .io]

theorem within_of_mode {mode : Value} {e : DriverError} (h : ProofMode.ofValue mode = .error e) :
    (Failure.driver e).Within [.unknownMode] := by
  unfold ProofMode.ofValue ProofMode.ofText at h
  split at h
  · split at h <;> cases h
    exact Category.within_error _ _
  · cases h
    exact Category.within_error _ _

theorem within_of_ofProof {publicValues : Bytes} {proof : Proof} {vkey : VerifyingKey} {dev : Bool}
    {e : DriverError} (h : Fixture.ofProof publicValues proof vkey dev = .error e) :
    (Failure.driver e).Within [.encoding] :=
  ⟨e, rfl, by simp [Fixture.category_of_ofProof e h]⟩

theorem conducted_of_concluded (startable : host.Startable) (named : p.namesLimit = true)
    {settings : Settings} {m : ProofMode} {output : Option Path} {run : Receipt}
    {r : Outcome (Fixture × Path)} {key : VerifyingKey}
    (known : w.client.key = some key) (ordinary : w.disk.Ordinary)
    (clean : holdsNul (output.getD (settings.fixturePath m)) = false)
    (concluded : Concluded (p.client host env) settings m output run w r w') :
    w.client.Conducted host categories r w'.client := by
  have verified {answer : Outcome Bool} {w₁ : World (ExternalState τ)}
      (asked : Asked (p.verify host env run.proof run.publicValues run.vkey) w answer w₁) :
      w.client.Conducted host [.verification, .exhausted] answer w₁.client :=
    conducted_of_asked (Prover.External.verify_conducted startable named _ _ _) asked
  have goOn {answer : Bool} {w₁ : World (ExternalState τ)}
      (asked : Asked (p.verify host env run.proof run.publicValues run.vkey) w (.ok answer) w₁)
      (errors : ∀ e, r = .error e → e.Within categories) :
      w.client.Conducted host categories r w₁.client :=
    (verified asked).trans ((verified asked).kept key known) (.idle _ errors)
  cases concluded with
  | unanswered asked => exact (verified asked).error.mono (by decide)
  | rejected asked =>
    exact goOn asked (Failure.within_of_error ((Category.within_error _ _).mono (by decide)))
  | unencodable asked refused =>
    exact goOn asked (Failure.within_of_error ((within_of_ofProof refused).mono (by decide)))
  | @unsaved fixture e w₁ _ asked made saved kept =>
    rw [kept]
    rw [asked.1] at saved
    have failed : e.Within [.io] :=
      Disk.within_of_save ordinary clean (Fixture.exists_write_ofProof made)
        (congrArg Prod.fst saved)
    exact goOn asked (Failure.within_of_error (failed.mono (by decide)))
  | stored asked _ _ kept =>
    rw [kept]
    exact goOn asked Failure.within_of_ok

theorem clean_fixturePath {settings : Settings} {output : Option Path}
    (given : ∀ path, output = some path → holdsNul path = false)
    (directory : holdsNul settings.fixtureDirectory = false) (m : ProofMode) :
    holdsNul (output.getD (settings.fixturePath m)) = false := by
  cases output with
  | some path => exact given path rfl
  | none =>
    rw [holdsNul_eq_false] at directory ⊢
    intro name mem
    rcases List.mem_append.mp mem with above | last
    · exact directory name above
    · rw [List.mem_singleton.mp last]
      cases m <;> (unfold FileSystem.CleanName; decide)

def mute : Host Unit where
  scratch := "/tmp"
  start _ _ := (.exited {}, ())

def unheard : Prover.External :=
  ⟨⟨.relative, ["p"]⟩, ⟨.relative, ["e"]⟩, false, none⟩

theorem startable_mute : mute.Startable :=
  fun _ _ => .exited _

theorem sized_unasked : unasked.machine.Sized :=
  ⟨.finite false 4503599627370496 (-44), rfl⟩

theorem samples_unasked : unasked.machine.Samples := by
  intro f mem
  cases mem

theorem ordinary_unasked : unasked.disk.Ordinary where
  cwd name mem := by cases mem
  serialize := rfl
  system step why happens := by cases happens

end Delivery

end ProofDriver

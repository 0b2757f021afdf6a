import ProofDriver.Proofs.Delivery.External
import ProofDriver.Proofs.Delivery.Served
import ProofDriver.Proofs.Prover.Issued
import ProofDriver.Proofs.Prover.Lines
import ProofDriver.Prover.Select
/-!
# The marker of relaxed proofs

A fixture is marked where its proof was made under relaxed settings. The marker, the client and the
environment of the prover's commands all go back to the same settings, so a fixture without the
marker comes from commands that ran without the relaxing variables, even where the driver itself was
started with them.
-/

namespace ProofDriver

variable {σ τ : Type}

open World (Asked)

namespace Client.Moves

variable {client : Client σ} {R : σ → σ → Prop}

theorem of_asked {α : Type} {work : Act (Desk σ) α} {w w' : World σ} {r : Outcome α}
    (h : ∀ d, work.Ends d fun _ d' => R d.client d'.client) (asked : Asked work w r w') :
    R w.client w'.client := by
  obtain ⟨-, before, after, run⟩ := asked
  have moved := (h ⟨w.client, before⟩).run_eq run
  exact moved

theorem of_observed (moves : client.Moves R) {w w' : World σ} (observed : w.Observed w') :
    R w.client w'.client := by
  rw [observed.client]
  exact moves.refl w.client

theorem of_strategy (moves : client.Moves R) {input : GuestInput} {mode : ProofMode}
    {r : Outcome Receipt} {w w' : World σ}
    (course : Strategy.Course client input w mode r w') : R w.client w'.client := by
  cases course with
  | unstarted observed => exact moves.of_observed observed
  | single _ asked _ => exact of_asked (moves.prove _ _) asked
  | unwrapped asked => exact of_asked (moves.prove _ _) asked
  | wrapped first second _ =>
    exact moves.trans (of_asked (moves.prove _ _) first) (of_asked (moves.wrap _) second)

theorem of_checked (moves : client.Moves R) {input : GuestInput} {mode : ProofMode} {run : Receipt}
    {answer : Outcome Bool} {w w' : World σ}
    (checked : Delivery.Checked client input mode w run answer w') : R w.client w'.client := by
  obtain ⟨w₁, course, asked⟩ := checked
  exact moves.trans (moves.of_strategy course) (of_asked (moves.verify _ _ _) asked)

theorem of_course (moves : client.Moves R) {settings : Settings} {n mode : Value}
    {output : Option Path} {r : Outcome (Fixture × Path)} {w w' : World σ}
    (course : Delivery.Course client settings n mode output w r w') : R w.client w'.client := by
  cases course with
  | unknownMode _ | invalidInput _ _ => exact moves.refl w.client
  | unproved _ _ course => exact moves.of_strategy course
  | unanswered _ _ checked | rejected _ _ checked | unencodable _ _ checked _ =>
    exact moves.of_checked checked
  | unsaved _ _ checked _ _ kept | stored _ _ checked _ _ kept =>
    rw [kept]
    exact moves.of_checked checked

end Client.Moves

namespace Delivery

open Prover.External (relaxing)

theorem Course.dev {client : Client σ} {settings : Settings} {n mode : Value}
    {output : Option Path} {w w' : World σ} {fixture : Fixture} {path : Path}
    (course : Course client settings n mode output w (.ok (fixture, path)) w') :
    fixture.dev = !client.sound := by
  cases course with
  | stored _ _ _ made _ _ => exact Fixture.dev_ofProof made

/-- A prover that the settings chose, and what it makes of the relaxing variables. -/
inductive Chosen (settings : Settings) : Prover → Prop
  | mock (p : Prover.Mock) : settings.backend = .mock → Chosen settings (.mock p)
  | external (p : Prover.External) : settings.backend = .host → p.dev = settings.dev →
      Chosen settings (.external p)

theorem chosen_of_ofSettings {settings : Settings} {prover : Prover} {w w' : World σ}
    (run : (Prover.ofSettings settings).run w = (.ok prover, w')) : Chosen settings prover := by
  unfold Prover.ofSettings at run
  cases backend : settings.backend with
  | mock =>
    rw [backend] at run
    obtain ⟨p, w₁, -, made⟩ := Act.run_bind_eq_ok.mp run
    cases made
    exact .mock p backend
  | host =>
    rw [backend] at run
    cases run
    exact .external _ backend rfl

/-- Whatever the settings and the driver's own environment are, the commands of a delivery get all
variables but the relaxing ones unchanged. A fixture without the marker comes from a prover on this
host without relaxed settings, and no command had a relaxing variable; one with the marker comes
from the mock, or every command had them all. -/
theorem deliver_marks_relaxed_proofs (settings : Settings) (host : Host τ) (env : Environment)
    (sink : Sink) (n mode : Value) (output : Option Path) (prover : Prover)
    (before w after : World (ExternalState τ)) (result : Outcome (Fixture × Path))
    (chosen : (Prover.ofSettings settings).run before = (.ok prover, w))
    (ran : (deliver (prover.client host env) settings sink n mode output).run w =
      (result, after)) :
    ∃ issued, after.client.commands = w.client.commands ++ issued ∧
      (∀ c ∈ issued, ∀ name ∉ relaxing, c.environment.get? name = env.get? name) ∧
      ∀ fixture path, result = .ok (fixture, path) →
        (fixture.dev = false → settings.backend = .host ∧ settings.dev = false ∧
          ∀ c ∈ issued, ∀ name ∈ relaxing, c.environment.get? name = none) ∧
        (fixture.dev = true → (∃ p, prover = .mock p) ∨
          ∀ c ∈ issued, ∀ name ∈ relaxing, c.environment.get? name = some "1") := by
  have course := (deliver_ends (prover.client host env) settings sink n mode output w).run_eq ran
  cases chosen_of_ofSettings chosen with
  | mock p _ =>
    obtain ⟨issued, commands, none⟩ := (p.moves fun _ => False).of_course course
    refine ⟨issued, commands, fun c mem => (none c mem).elim, ?_⟩
    rintro fixture path rfl
    have marked : fixture.dev = true := course.dev
    exact ⟨fun unmarked => (by cases unmarked.symm.trans marked), fun _ => .inl ⟨p, rfl⟩⟩
  | external p backend same =>
    obtain ⟨issued, commands, equipped⟩ := Prover.External.moves.of_course course
    have variable_eq (c : Command) (mem : c ∈ issued) (name : String) :=
      (congrArg (Environment.get? · name) (equipped c mem)).trans (p.get?_childEnvironment env name)
    refine ⟨issued, commands, fun c mem name other => ?_, ?_⟩
    · rw [variable_eq c mem name, if_neg other]
    · rintro fixture path rfl
      have marked : fixture.dev = !(!p.dev) := course.dev
      rw [Bool.not_not, same] at marked
      refine ⟨fun unmarked => ?_, fun dev => .inr fun c mem name relaxes => ?_⟩
      · have strict : settings.dev = false := marked.symm.trans unmarked
        refine ⟨backend, strict, fun c mem name relaxes => ?_⟩
        rw [variable_eq c mem name, if_pos relaxes, same, strict]
        rfl
      · rw [variable_eq c mem name, if_pos relaxes, same, marked.symm.trans dev]
        rfl

theorem serves_obliging : obliging.Serves zeroKey (List.replicate 96 0) [1] where
  keys := by
    rintro ⟨_, _, _, _, _, _, _⟩ s ⟨⟩
    exact ⟨_, _, rfl, rfl, Output.vkey_line zeroKey⟩
  proves := by
    rintro ⟨_, _, _, _, _, _, _⟩ s ⟨⟩
    exact ⟨_, _, rfl, rfl, rfl, Output.proved_line _ zeroKey⟩
  verifies := by
    rintro ⟨_, _, _, _, _, _, _⟩ s ⟨⟩
    exact ⟨_, _, rfl, rfl, trivial⟩

def relaxedStart : Environment := [("HOME", "/home"), ("SP1_DEV", "1")]

def defaultProver : Prover :=
  let settings : Settings := {}
  .external ⟨settings.proverPath, settings.elfPath, false, none⟩

def unrelaxed : Act (World (ExternalState Unit)) (Fixture × Path) :=
  deliver (defaultProver.client obliging relaxedStart) {} .journal (.int 0) (.text "core")
    (some ⟨.relative, ["f"]⟩)

/-- The fixture is not marked, and rightly so: no command was relaxed. -/
theorem exists_unmarked_delivery :
    ∃ fixture path after, unrelaxed.run unasked = (.ok (fixture, path), after) ∧
      fixture.dev = false ∧
      after.client.commands.map Command.subcommand = [.vkey, .prove, .verify] ∧
      ∀ c ∈ after.client.commands, c.environment.get? "SP1_DEV" = none ∧
        c.environment.get? "HOME" = some "/home" := by
  have chosen : (Prover.ofSettings {}).run unasked = (.ok defaultProver, unasked) := rfl
  have known : ProofMode.ofValue (.text "core") = .ok .core := ProofMode.core.ofValue_name
  have zeros : PublicValues.decode (List.replicate 96 0) = .ok ⟨0, 0, 0⟩ := by rfl
  have served : unrelaxed.Ends unasked fun r _ => r = .ok (_, ⟨.relative, ["f"]⟩) :=
    deliver_served serves_obliging (fun key kept => by cases kept) known (by decide) rfl
      (Fixture.ofProof_eq_ok.mpr ⟨_, zeros, rfl⟩) ⟨fun f mem => (by cases mem), trivial⟩
      writable_unasked
  rcases ran : unrelaxed.run unasked with ⟨result, after⟩
  cases served.run_eq ran
  have commands := subcommands_of_delivered known rfl ran
  have unmarked := ((deliver_ends _ _ _ _ _ _ _).run_eq ran).dev
  obtain ⟨issued, all, others, marks⟩ :=
    deliver_marks_relaxed_proofs _ _ _ _ _ _ _ _ _ _ _ _ chosen ran
  obtain ⟨-, -, strict⟩ := (marks _ _ rfl).1 unmarked
  have here : after.client.commands = issued := all
  refine ⟨_, _, after, rfl, unmarked, commands, fun c mem => ?_⟩
  rw [here] at mem
  exact ⟨strict c mem "SP1_DEV" (by decide), others c mem "HOME" (by decide)⟩

end Delivery

end ProofDriver

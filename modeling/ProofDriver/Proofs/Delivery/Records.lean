import ProofDriver.Proofs.Delivery.Export
import ProofDriver.Proofs.Prover.Records
/-!
# Records of a delivery

What a delivery writes to the journal on its way is routine: no record is about an error, and none
announces a fixture. Only when the fixture has been written there is one more record, which announces
it.
-/

namespace ProofDriver

variable {σ α β : Type}

def Record.Routine (record : Record) : Prop :=
  record.level ≠ .error ∧ record.source ≠ .fixture

namespace World

def Routinely (w w' : World σ) : Prop :=
  ∃ records : Journal, (∀ record ∈ records, record.Routine) ∧ w'.journal = w.journal ++ records

namespace Routinely

theorem of_eq {w w' : World σ} (same : w'.journal = w.journal) : w.Routinely w' :=
  ⟨[], fun _ mem => (by cases mem), same.trans (List.append_nil _).symm⟩

@[refl] theorem refl (w : World σ) : w.Routinely w := of_eq rfl

theorem trans {w₁ w₂ w₃ : World σ} (h₁ : w₁.Routinely w₂) (h₂ : w₂.Routinely w₃) :
    w₁.Routinely w₃ := by
  obtain ⟨first, all, journal⟩ := h₁
  obtain ⟨second, all', journal'⟩ := h₂
  refine ⟨first ++ second, fun record mem => ?_, ?_⟩
  · exact (List.mem_append.mp mem).elim (all record) (all' record)
  · rw [journal', journal, List.append_assoc]

end Routinely

end World

namespace Act

def Routine (x : Act (World σ) α) : Prop :=
  ∀ w, x.Ends w fun _ w' => w.Routinely w'

namespace Routine

theorem bind {x : Act (World σ) α} {f : α → Act (World σ) β} (hx : x.Routine)
    (hf : ∀ a, (f a).Routine) : (x >>= f).Routine :=
  Ends.bind_trans World.Routinely.trans hx hf

theorem ofOutcome (r : Outcome α) : (Act.ofOutcome r : Act (World σ) α).Routine :=
  fun w => .refl w

theorem pure (a : α) : (Pure.pure a : Act (World σ) α).Routine :=
  ofOutcome (.ok a)

theorem get : (MonadState.get : Act (World σ) (World σ)).Routine :=
  fun w => .refl w

theorem log {level : Level} {source : Source} {message : String}
    (routine : level ≠ .error ∧ source ≠ .fixture) :
    (World.log level source message : Act (World σ) Unit).Routine := by
  refine fun w => ⟨[⟨level, source, message⟩], fun record mem => ?_, rfl⟩
  rw [List.mem_singleton.mp mem]
  exact routine

theorem ask {work : Act (Desk σ) α} (writes : work.WritesOnly Record.Routine) :
    (World.ask work).Routine := by
  intro w
  obtain ⟨records, run, all⟩ := writes.run_eq w.toDesk
  refine .of_run (World.run_ask work w) ⟨records, all, ?_⟩
  rw [run]

end Routine

theorem closed_routine : ClosedMetered fun α (x : Act (World σ) α) => x.Routine where
  bind := .bind
  ofOutcome := .ofOutcome
  log := .log
  look each _ := Routine.get.bind each
  attempt each w := each w
  sample w := by
    refine .of_eq ?_
    unfold World.nextSample
    rw [run_modifyGet]
    cases w.machine.samples <;> rfl
  report _ _ := .of_eq rfl

theorem routine_strategy {client : Client σ} (writes : client.WritesOnly Record.Routine)
    (mode : ProofMode) (settings : Settings) (sink : Sink) (input : GuestInput) :
    (Strategy.run mode client settings sink input).Routine :=
  closed_routine.strategy (fun input mode => .ask (writes.prove input mode))
    (fun run => .ask (writes.wrap run)) mode settings sink input

end Act

open Act (Routine)

namespace Delivery

variable {client : Client σ} {w w₁ w' : World σ} {r : Outcome (Fixture × Path)}

def announcement (fixture : Fixture) (path : Path) : Record :=
  ⟨.info, .fixture, "wrote " ++ fixture.mode.name ++ " fixture to " ++ path.render⟩

def announcements : Outcome (Fixture × Path) → Journal
  | .ok (fixture, path) => [announcement fixture path]
  | .error _ => []

def Announced (w : World σ) (r : Outcome (Fixture × Path)) (w' : World σ) : Prop :=
  ∃ w₁, w.Routinely w₁ ∧ w'.journal = w₁.journal ++ announcements r

def Announces (x : Act (World σ) (Fixture × Path)) : Prop :=
  ∀ w, x.Ends w (Announced w)

namespace Announces

theorem fail_bind (e : Failure) (f : α → Act (World σ) (Fixture × Path)) :
    Announces (Act.fail e >>= f) :=
  fun w => ⟨w, .refl w, (List.append_nil _).symm⟩

theorem bind {x : Act (World σ) α} {f : α → Act (World σ) (Fixture × Path)} (hx : x.Routine)
    (hf : ∀ a, Announces (f a)) : Announces (x >>= f) := by
  intro w
  apply Act.Ends.bind
  case error =>
    intro e w' run
    exact ⟨w', (hx w).run_eq run, (List.append_nil _).symm⟩
  case ok =>
    intro a w' run
    refine (hf a w').imp fun r last announced => ?_
    obtain ⟨w₁, routine, journal⟩ := announced
    have first : w.Routinely w' := (hx w).run_eq run
    exact ⟨w₁, first.trans routine, journal⟩

theorem store (fixture : Fixture) (path : Path) :
    Announces (store fixture path >>= fun _ => pure (fixture, path) : Act (World σ) _) := by
  intro w
  rcases saved : w.disk.save path fixture.toValue with ⟨r, disk⟩
  cases r with
  | error e =>
    exact .bind_error (run_store_of_error saved)
      ⟨w, .refl w, (List.append_nil _).symm⟩
  | ok _ =>
    have save : (World.save path fixture.toValue).run w = (.ok (), { w with disk }) := by
      rw [World.run_save, saved]
    exact .bind_ok ((Act.run_bind_of_ok save _).trans (World.run_log ..)) ⟨w, .refl w, rfl⟩

end Announces

theorem announces_deliver (writes : client.WritesOnly Record.Routine) (settings : Settings)
    (sink : Sink) (n mode : Value) (output : Option Path) :
    Announces (deliver client settings sink n mode output) := by
  refine .bind (.ofOutcome _) fun m => .bind (.ofOutcome _) fun input =>
    .bind (.log (by decide)) fun _ =>
    .bind (Act.routine_strategy writes m settings sink input) fun run =>
    .bind (.ask (writes.verify run.proof run.publicValues run.vkey)) fun answer => ?_
  have finish (dev : Bool) : Announces (do
      let fixture ← Act.ofDriver (Fixture.ofProof run.publicValues run.proof run.vkey dev)
      let path := output.getD (settings.fixturePath m)
      store fixture path
      pure (fixture, path) : Act (World σ) _) :=
    .bind (.ofOutcome _) fun fixture => .store fixture _
  cases answer with
  | false => exact .fail_bind _ _
  | true =>
    simp only [Bool.not_true, Bool.false_eq_true, if_false]
    refine .bind (.log (by decide)) fun _ => ?_
    split
    · exact .bind (.log (by decide)) fun _ => finish _
    · exact finish _

end Delivery

end ProofDriver

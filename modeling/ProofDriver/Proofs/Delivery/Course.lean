import ProofDriver.Delivery
import ProofDriver.Proofs.Outcome
import ProofDriver.Proofs.Strategy
/-!
# Courses of a delivery

Every way in which a delivery can end, with the calls that the client received and what happened on
the disk. The disk stays as it is up to the save at the very end, and the save comes only after the
client has verified the run that the strategy came to.
-/

namespace ProofDriver

namespace Delivery

variable {σ : Type}

open Act (Mirrors)
open World (Asked Observed)

/-- The strategy of the mode came to `run`, and the client gave `answer` when it was asked to verify
just this run. -/
def Checked (client : Client σ) (input : GuestInput) (mode : ProofMode) (w : World σ)
    (run : Receipt) (answer : Outcome Bool) (w' : World σ) : Prop :=
  ∃ w₁, Strategy.Course client input w mode (.ok run) w₁ ∧
    Asked (client.verify run.proof run.publicValues run.vkey) w₁ answer w'

namespace Checked

variable {client : Client σ} {input : GuestInput} {mode : ProofMode} {w w₁ w₂ : World σ}
  {run : Receipt} {answer : Outcome Bool}

theorem disk (checked : Checked client input mode w run answer w₁) : w₁.disk = w.disk := by
  obtain ⟨w₀, course, asked⟩ := checked
  exact asked.1.trans course.disk

end Checked

inductive Course (client : Client σ) (settings : Settings) (n mode : Value)
    (output : Option Path) (w : World σ) : Outcome (Fixture × Path) → World σ → Prop
  | unknownMode {e} : ProofMode.ofValue mode = .error e →
      Course client settings n mode output w (.error (.driver e)) w
  | invalidInput {m e} : ProofMode.ofValue mode = .ok m → GuestInput.ofValue n = .error e →
      Course client settings n mode output w (.error e) w
  | unproved {m input e w'} : ProofMode.ofValue mode = .ok m → GuestInput.ofValue n = .ok input →
      Strategy.Course client input w m (.error e) w' →
      Course client settings n mode output w (.error e) w'
  | unanswered {m input run e w'} : ProofMode.ofValue mode = .ok m →
      GuestInput.ofValue n = .ok input → Checked client input m w run (.error e) w' →
      Course client settings n mode output w (.error e) w'
  | rejected {m input run w'} : ProofMode.ofValue mode = .ok m →
      GuestInput.ofValue n = .ok input → Checked client input m w run (.ok false) w' →
      Course client settings n mode output w (.error (Delivery.rejected run m)) w'
  | unencodable {m input run e w'} : ProofMode.ofValue mode = .ok m →
      GuestInput.ofValue n = .ok input → Checked client input m w run (.ok true) w' →
      Fixture.ofProof run.publicValues run.proof run.vkey (!client.sound) = .error e →
      Course client settings n mode output w (.error (.driver e)) w'
  | unsaved {m input run fixture e w₂ w'} : ProofMode.ofValue mode = .ok m →
      GuestInput.ofValue n = .ok input → Checked client input m w run (.ok true) w₂ →
      Fixture.ofProof run.publicValues run.proof run.vkey (!client.sound) = .ok fixture →
      w₂.disk.save (output.getD (settings.fixturePath m)) fixture.toValue = (.error e, w'.disk) →
      w'.client = w₂.client → Course client settings n mode output w (.error e) w'
  | stored {m input run fixture w₂ w'} : ProofMode.ofValue mode = .ok m →
      GuestInput.ofValue n = .ok input → Checked client input m w run (.ok true) w₂ →
      Fixture.ofProof run.publicValues run.proof run.vkey (!client.sound) = .ok fixture →
      w₂.disk.save (output.getD (settings.fixturePath m)) fixture.toValue = (.ok (), w'.disk) →
      w'.client = w₂.client →
      Course client settings n mode output w
        (.ok (fixture, output.getD (settings.fixturePath m))) w'

theorem run_store_of_error {fixture : Fixture} {path : Path} {w : World σ} {e : Failure}
    {disk : Disk} (saved : w.disk.save path fixture.toValue = (.error e, disk)) :
    (store fixture path).run w = (.error e, { w with disk }) := by
  refine Act.run_bind_of_error ?_ _
  rw [World.run_save, saved]

theorem run_store_of_ok {fixture : Fixture} {path : Path} {w : World σ} {disk : Disk}
    (saved : w.disk.save path fixture.toValue = (.ok (), disk)) :
    ∃ w', (store fixture path).run w = (.ok (), w') ∧ w'.client = w.client ∧ w'.disk = disk := by
  have save : (World.save path fixture.toValue).run w = (.ok (), { w with disk }) := by
    rw [World.run_save, saved]
  exact ⟨_, (Act.run_bind_of_ok save _).trans (World.run_log ..), rfl, rfl⟩

def conclude (client : Client σ) (settings : Settings) (m : ProofMode) (output : Option Path)
    (run : Receipt) : Act (World σ) (Fixture × Path) := do
  if !(← World.ask (client.verify run.proof run.publicValues run.vkey)) then
    Act.fail (rejected run m)
  World.log .info .delivery "successfully verified proof"
  let dev := !client.sound
  if dev then
    World.log .warning .delivery
      "proof was produced under development settings, fixture is marked dev"
  let fixture ← Act.ofDriver (Fixture.ofProof run.publicValues run.proof run.vkey dev)
  let path := output.getD (settings.fixturePath m)
  store fixture path
  pure (fixture, path)

inductive Concluded (client : Client σ) (settings : Settings) (m : ProofMode)
    (output : Option Path) (run : Receipt) (w : World σ) :
    Outcome (Fixture × Path) → World σ → Prop
  | unanswered {e w'} :
      Asked (client.verify run.proof run.publicValues run.vkey) w (.error e) w' →
      Concluded client settings m output run w (.error e) w'
  | rejected {w'} :
      Asked (client.verify run.proof run.publicValues run.vkey) w (.ok false) w' →
      Concluded client settings m output run w (.error (Delivery.rejected run m)) w'
  | unencodable {e w'} :
      Asked (client.verify run.proof run.publicValues run.vkey) w (.ok true) w' →
      Fixture.ofProof run.publicValues run.proof run.vkey (!client.sound) = .error e →
      Concluded client settings m output run w (.error (.driver e)) w'
  | unsaved {fixture e w₁ w'} :
      Asked (client.verify run.proof run.publicValues run.vkey) w (.ok true) w₁ →
      Fixture.ofProof run.publicValues run.proof run.vkey (!client.sound) = .ok fixture →
      w₁.disk.save (output.getD (settings.fixturePath m)) fixture.toValue = (.error e, w'.disk) →
      w'.client = w₁.client → Concluded client settings m output run w (.error e) w'
  | stored {fixture w₁ w'} :
      Asked (client.verify run.proof run.publicValues run.vkey) w (.ok true) w₁ →
      Fixture.ofProof run.publicValues run.proof run.vkey (!client.sound) = .ok fixture →
      w₁.disk.save (output.getD (settings.fixturePath m)) fixture.toValue = (.ok (), w'.disk) →
      w'.client = w₁.client →
      Concluded client settings m output run w
        (.ok (fixture, output.getD (settings.fixturePath m))) w'

theorem finish_ends {client : Client σ} {settings : Settings} {m : ProofMode}
    {output : Option Path} {run : Receipt} {w w₁ : World σ}
    (accepted : Asked (client.verify run.proof run.publicValues run.vkey) w (.ok true) w₁) :
    (do
      let fixture ← Act.ofDriver
        (Fixture.ofProof run.publicValues run.proof run.vkey (!client.sound))
      store fixture (output.getD (settings.fixturePath m))
      pure (fixture, output.getD (settings.fixturePath m)) : Act (World σ) _).Ends w₁
      (Concluded client settings m output run w) := by
  cases made : Fixture.ofProof run.publicValues run.proof run.vkey (!client.sound) with
  | error e => exact .unencodable accepted made
  | ok fixture =>
    refine .bind_ok (a := fixture) (t := w₁) rfl ?_
    rcases saved : w₁.disk.save (output.getD (settings.fixturePath m)) fixture.toValue with
      ⟨r, disk⟩
    cases r with
    | error e =>
      refine .bind_error (run_store_of_error saved) ?_
      exact .unsaved accepted made saved rfl
    | ok _ =>
      obtain ⟨w', stored, client, rfl⟩ := run_store_of_ok saved
      refine .bind_ok stored ?_
      exact .stored accepted made saved client

theorem conclude_ends (client : Client σ) (settings : Settings) (m : ProofMode)
    (output : Option Path) (run : Receipt) (w : World σ) :
    (conclude client settings m output run).Ends w (Concluded client settings m output run w) := by
  apply Act.Ends.bind
  case error =>
    intro e w₁ asked
    exact .unanswered (World.asked_of_run asked)
  case ok =>
    intro answer w₁ asked
    replace asked := World.asked_of_run asked
    cases answer with
    | false => exact .rejected asked
    | true =>
      simp only [Bool.not_true, Bool.false_eq_true, if_false]
      refine .log fun w₂ logged => ?_
      split
      · refine .log fun w₃ again => ?_
        exact finish_ends (asked.observed (logged.trans again))
      · exact finish_ends (asked.observed logged)

/-- With a valid mode and a valid index a delivery writes one record and then is its strategy and
its conclusion. -/
theorem deliver_ends_of_valid {client : Client σ} {settings : Settings} {sink : Sink}
    {n mode : Value} {output : Option Path} {m : ProofMode} {input : GuestInput} {w : World σ}
    {Q : Outcome (Fixture × Path) → World σ → Prop} (known : ProofMode.ofValue mode = .ok m)
    (valid : GuestInput.ofValue n = .ok input)
    (rest : ∀ w₀, w.Observed w₀ → w₀.machine = w.machine →
      (do
        let run ← Strategy.run m client settings sink input
        conclude client settings m output run : Act (World σ) _).Ends w₀ Q) :
    (deliver client settings sink n mode output).Ends w Q := by
  unfold deliver
  rw [known, valid]
  refine .bind_ok (a := m) (t := w) rfl (.bind_ok (a := input) (t := w) rfl ?_)
  exact .bind_ok (World.run_log ..) (rest _ ⟨rfl, rfl⟩ rfl)

theorem deliver_ends (client : Client σ) (settings : Settings) (sink : Sink) (n mode : Value)
    (output : Option Path) (w : World σ) :
    (deliver client settings sink n mode output).Ends w
      (Course client settings n mode output w) := by
  cases known : ProofMode.ofValue mode with
  | error e =>
    unfold deliver
    rw [known]
    exact .unknownMode known
  | ok m =>
    cases valid : GuestInput.ofValue n with
    | error e =>
      unfold deliver
      rw [known, valid]
      exact .invalidInput known valid
    | ok input =>
      refine deliver_ends_of_valid known valid fun w₀ logged _ => ?_
      have proving := (Strategy.run_ends m client settings sink input w₀).imp fun _ _ course =>
        course.of_observed logged
      apply Act.Ends.bind
      case error =>
        intro e w₁ run
        exact .unproved known valid (proving.run_eq run)
      case ok =>
        intro run w₁ proved
        replace proved := proving.run_eq proved
        refine (conclude_ends client settings m output run w₁).imp fun r w' concluded => ?_
        cases concluded with
        | unanswered asked => exact .unanswered known valid ⟨w₁, proved, asked⟩
        | rejected asked => exact .rejected known valid ⟨w₁, proved, asked⟩
        | unencodable asked made => exact .unencodable known valid ⟨w₁, proved, asked⟩ made
        | unsaved asked made saved kept =>
          exact .unsaved known valid ⟨w₁, proved, asked⟩ made saved kept
        | stored asked made saved kept =>
          exact .stored known valid ⟨w₁, proved, asked⟩ made saved kept

/-! ## Tracing -/

theorem mirrors_store (fixture : Fixture) (path : Path) :
    (store fixture path : Act (World (σ × List Event)) Unit).Mirrors (store fixture path) :=
  (Mirrors.save _ _).bind fun _ => .log

theorem mirrors_deliver (client : Client σ) (settings : Settings) (sink : Sink) (n mode : Value)
    (output : Option Path) :
    (deliver client.traced settings sink n mode output).Mirrors
      (deliver client settings sink n mode output) := by
  refine (Mirrors.ofDriver _).bind fun m => (Mirrors.ofOutcome _).bind fun input =>
    Mirrors.log.bind fun _ => (Strategy.mirrors_run m client settings sink input).bind fun run =>
    (Mirrors.ask _ _).bind fun answer => ?_
  have finish (dev : Bool) : (do
      let fixture ← Act.ofDriver (Fixture.ofProof run.publicValues run.proof run.vkey dev)
      let path := output.getD (settings.fixturePath m)
      store fixture path
      pure (fixture, path) : Act (World (σ × List Event)) _).Mirrors (do
      let fixture ← Act.ofDriver (Fixture.ofProof run.publicValues run.proof run.vkey dev)
      let path := output.getD (settings.fixturePath m)
      store fixture path
      pure (fixture, path)) :=
    (Mirrors.ofDriver _).bind fun fixture => (mirrors_store fixture _).bind fun _ => .pure _
  cases answer with
  | false => exact .fail_bind _ _ _
  | true =>
    simp only [Bool.not_true, Bool.false_eq_true, if_false]
    refine Mirrors.log.bind fun _ => ?_
    exact .ite (Mirrors.log.bind fun _ => finish _) (finish _)

end Delivery

end ProofDriver

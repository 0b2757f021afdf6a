import ProofDriver.Proofs.Delivery.Course
/-!
# What a delivery looks at

Nothing that a delivery does before it saves its fixture looks at the disk. So whether it saves one,
and which, is decided by the rest of the world.
-/

namespace ProofDriver

variable {σ α β : Type}

namespace Act

def Offline (x : Act (World σ) α) : Prop :=
  ∀ (w : World σ) (disk : Disk),
    x.run { w with disk } = ((x.run w).1, { (x.run w).2 with disk })

namespace Offline

theorem bind {x : Act (World σ) α} {f : α → Act (World σ) β} (hx : x.Offline)
    (hf : ∀ a, (f a).Offline) : (x >>= f).Offline := by
  intro w disk
  have moved := hx w disk
  rcases run : x.run w with ⟨r, w₁⟩
  rw [run] at moved
  cases r with
  | error e => rw [run_bind_of_error run, run_bind_of_error moved]
  | ok a => rw [run_bind_of_ok run, run_bind_of_ok moved, hf a w₁ disk]

theorem ofOutcome (r : Outcome α) : (Act.ofOutcome r : Act (World σ) α).Offline :=
  fun _ _ => rfl

theorem get_bind {f : World σ → Act (World σ) β} (hf : ∀ w, (f w).Offline)
    (blind : ∀ w disk, f { w with disk } = f w) : (get >>= f).Offline := by
  intro w disk
  rw [run_bind_of_ok (run_get w), run_bind_of_ok (run_get _), blind, hf w w disk]

theorem log {level : Level} {source : Source} {message : String} :
    (World.log level source message : Act (World σ) Unit).Offline :=
  fun _ _ => rfl

theorem ask (work : Act (Desk σ) α) : (World.ask work).Offline :=
  fun _ _ => rfl

end Offline

theorem closed_offline : ClosedMetered fun α (x : Act (World σ) α) => x.Offline where
  bind := .bind
  ofOutcome := .ofOutcome
  log _ := .log
  look := .get_bind
  attempt each w disk := by rw [run_attempt, run_attempt, each w disk]
  sample w disk := by
    unfold World.nextSample
    rw [run_modifyGet, run_modifyGet]
    dsimp only
    cases w.machine.samples <;> rfl
  report _ _ _ := rfl

theorem offline_strategy (mode : ProofMode) (client : Client σ) (settings : Settings)
    (sink : Sink) (input : GuestInput) :
    (Strategy.run mode client settings sink input).Offline :=
  closed_offline.strategy (fun _ _ => .ask _) (fun _ => .ask _) mode settings sink input

end Act

namespace Delivery

/-- Whatever is on the disk, the work leaves it as it is, or it saves one and the same document at
`path`. -/
def Stores (path : Path) (x : Act (World σ) α) : Prop :=
  ∀ w : World σ, (∀ disk : Disk, (x.run { w with disk }).2.disk = disk) ∨
    ∃ v, ∀ disk : Disk, (x.run { w with disk }).2.disk = (disk.save path v).2

namespace Stores

variable {path : Path}

theorem bind {x : Act (World σ) α} {f : α → Act (World σ) β} (hx : x.Offline)
    (hf : ∀ a, Stores path (f a)) : Stores path (x >>= f) := by
  intro w
  have moved := hx w
  rcases run : x.run w with ⟨r, w₁⟩
  rw [run] at moved
  cases r with
  | error e =>
    refine .inl fun disk => ?_
    rw [Act.run_bind_of_error (moved disk)]
  | ok a =>
    refine (hf a w₁).imp (fun idle disk => ?_) fun ⟨v, saves⟩ => ⟨v, fun disk => ?_⟩
    · rw [Act.run_bind_of_ok (moved disk)]
      exact idle disk
    · rw [Act.run_bind_of_ok (moved disk)]
      exact saves disk

theorem ofDriver_bind {r : Except DriverError α} {f : α → Act (World σ) β}
    (hf : ∀ a, r = .ok a → Stores path (f a)) : Stores path (Act.ofDriver r >>= f) := by
  cases r with
  | error e => exact fun _ => .inl fun _ => rfl
  | ok a => exact hf a rfl

theorem fail_bind (e : Failure) (f : α → Act (World σ) β) : Stores path (Act.fail e >>= f) :=
  fun _ => .inl fun _ => rfl

theorem store (fixture : Fixture) :
    Stores path (store fixture path >>= fun _ => pure (fixture, path) : Act (World σ) _) := by
  refine fun w => .inr ⟨fixture.toValue, fun disk => ?_⟩
  rcases saved : disk.save path fixture.toValue with ⟨r, disk'⟩
  cases r with
  | error e => rw [Act.run_bind_of_error (run_store_of_error (w := { w with disk }) saved)]
  | ok _ =>
    obtain ⟨w', stored, -, there⟩ := run_store_of_ok (w := { w with disk }) saved
    rw [Act.run_bind_of_ok stored]
    exact there

end Stores

theorem stores_deliver (client : Client σ) (settings : Settings) (sink : Sink) (n : Value)
    {mode : Value} {m : ProofMode} (output : Option Path) (known : ProofMode.ofValue mode = .ok m) :
    Stores (output.getD (settings.fixturePath m))
      (deliver client settings sink n mode output) := by
  have finish (run : Receipt) (dev : Bool) : Stores (output.getD (settings.fixturePath m)) (do
      let fixture ← Act.ofDriver (Fixture.ofProof run.publicValues run.proof run.vkey dev)
      let path := output.getD (settings.fixturePath m)
      Delivery.store fixture path
      pure (fixture, path) : Act (World σ) _) :=
    .bind (.ofOutcome _) fun fixture => .store fixture
  refine .ofDriver_bind fun m' same => ?_
  cases known.symm.trans same
  refine .bind (.ofOutcome _) fun input => .bind .log fun _ =>
    .bind (Act.offline_strategy m client settings sink input) fun run =>
    .bind (.ask _) fun answer => ?_
  cases answer with
  | false => exact .fail_bind _ _
  | true =>
    simp only [Bool.not_true, Bool.false_eq_true, if_false]
    refine .bind .log fun _ => ?_
    split
    · exact .bind .log fun _ => finish run _
    · exact finish run _

theorem run_deliver_of_unknown (client : Client σ) (settings : Settings) (sink : Sink) (n : Value)
    {mode : Value} {e : DriverError} (output : Option Path)
    (unknown : ProofMode.ofValue mode = .error e) (w : World σ) :
    (deliver client settings sink n mode output).run w = (.error (.driver e), w) := by
  unfold deliver
  rw [unknown]
  rfl

end Delivery

end ProofDriver

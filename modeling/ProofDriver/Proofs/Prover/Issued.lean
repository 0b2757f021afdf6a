import ProofDriver.Proofs.Prover.External
import ProofDriver.Prover.Mock
/-!
# The environments of commands

Every command of an external prover runs in the environment of the driver, but for the variables of
relaxed proving: the prover switches them on or takes them out, whatever the driver was started
with. `Client.Moves` carries what single calls do to a client's state to whole strategies and
deliveries.
-/

namespace ProofDriver

namespace Environment

variable {env : Environment} {name other : String}

theorem get?_remove :
    (env.remove name).get? other = if other = name then none else env.get? other := by
  unfold remove get?
  induction env with
  | nil => simp
  | cons entry rest ih =>
    obtain ⟨key, value⟩ := entry
    by_cases same : other = key
    · subst same
      by_cases here : other = name
      · simpa [here] using ih
      · simp [here]
    · have apart : (other == key) = false := by simpa using same
      by_cases here : key = name
      · rw [List.filter_cons_of_neg (by simp [here]), List.lookup_cons, apart, ih]
      · rw [List.filter_cons_of_pos (by simp [here]), List.lookup_cons, List.lookup_cons, apart, ih]

theorem get?_set {value : String} :
    (env.set name value).get? other = if other = name then some value else env.get? other := by
  have removed : (env.remove name).lookup other = if other = name then none else env.get? other :=
    get?_remove
  unfold set get?
  rw [List.lookup_append, removed]
  by_cases here : other = name
  · simp [here]
  · have apart : (other == name) = false := by simpa using here
    simp [here, apart, get?]

end Environment

namespace Prover.External

def relaxing : List String := ["SP1_DEV", "FRI_QUERIES"]

theorem get?_childEnvironment (p : Prover.External) (env : Environment) (name : String) :
    (p.childEnvironment env).get? name =
      if name ∈ relaxing then (if p.dev then some "1" else none) else env.get? name := by
  unfold childEnvironment relaxing
  cases p.dev with
  | true =>
    simp only [if_true, Environment.get?_set]
    by_cases queries : name = "FRI_QUERIES" <;> by_cases dev : name = "SP1_DEV" <;>
      simp [queries, dev]
  | false =>
    simp only [Bool.false_eq_true, if_false, Environment.get?_remove]
    by_cases queries : name = "FRI_QUERIES" <;> by_cases dev : name = "SP1_DEV" <;>
      simp [queries, dev]

end Prover.External

variable {σ τ : Type}

/-- A relation that each call of a client keeps to, however it ends. -/
structure Client.Moves (c : Client σ) (R : σ → σ → Prop) : Prop where
  refl : ∀ s, R s s
  trans : ∀ {s s' s''}, R s s' → R s' s'' → R s s''
  prove : ∀ input mode d, (c.prove input mode).Ends d fun _ d' => R d.client d'.client
  wrap : ∀ run d, (c.wrap run).Ends d fun _ d' => R d.client d'.client
  verify : ∀ proof publicValues vkey d,
    (c.verify proof publicValues vkey).Ends d fun _ d' => R d.client d'.client

namespace ExternalState

def Issued (P : Command → Prop) (s s' : ExternalState τ) : Prop :=
  ∃ issued, s'.commands = s.commands ++ issued ∧ ∀ c ∈ issued, P c

namespace Issued

variable {P : Command → Prop} {s s' s'' : ExternalState τ}

theorem refl (s : ExternalState τ) : s.Issued P s :=
  ⟨[], by simp, by simp⟩

theorem trans (h₁ : s.Issued P s') (h₂ : s'.Issued P s'') : s.Issued P s'' := by
  obtain ⟨first, commands₁, all₁⟩ := h₁
  obtain ⟨second, commands₂, all₂⟩ := h₂
  refine ⟨first ++ second, by rw [commands₂, commands₁, List.append_assoc], fun c mem => ?_⟩
  rcases List.mem_append.mp mem with mem | mem
  · exact all₁ c mem
  · exact all₂ c mem

end Issued

end ExternalState

namespace Prover.External

variable (p : Prover.External) (host : Host τ) (env : Environment)

/-- The command runs in the environment that the prover makes of the driver's. -/
def Equipped (c : Command) : Prop :=
  c.environment = p.childEnvironment env

def Equips {α : Type} (work : Act (Desk (ExternalState τ)) α) : Prop :=
  ∀ d, work.Ends d fun _ d' => d.client.Issued (p.Equipped env) d'.client

variable {p host env} {α β : Type}

namespace Equips

theorem bind {x : Act (Desk (ExternalState τ)) α} {f : α → Act (Desk (ExternalState τ)) β}
    (hx : p.Equips env x) (hf : ∀ a, p.Equips env (f a)) : p.Equips env (x >>= f) :=
  Act.Ends.bind_trans ExternalState.Issued.trans hx hf

theorem ofOutcome (r : Outcome α) :
    p.Equips env (Act.ofOutcome r : Act (Desk (ExternalState τ)) α) :=
  fun d => .refl d.client

theorem log {level : Level} {source : Source} {message : String} :
    p.Equips env (Desk.log level source message : Act (Desk (ExternalState τ)) Unit) :=
  fun d => .refl d.client

theorem run {sub : Subcommand} {arguments : List String} {stdin proof : Option Bytes} :
    p.Equips env (p.run host (p.command env sub arguments stdin proof)) := by
  intro d
  obtain ⟨journal, run⟩ := p.run_run host (p.command env sub arguments stdin proof) d
  rw [Act.Ends, run]
  exact ⟨[p.command env sub arguments stdin proof], rfl, List.forall_mem_singleton.mpr rfl⟩

end Equips

theorem equips_setup : p.Equips env (p.setup host env) := by
  intro d
  unfold setup
  refine .bind_ok (Act.run_get d) ?_
  cases d.client.key with
  | some key => exact .refl d.client
  | none =>
    have keep (key : VerifyingKey) : p.Equips env (do
        modify fun d => { d with client := { d.client with key := some key } }
        pure key : Act (Desk (ExternalState τ)) VerifyingKey) := fun d => .refl d.client
    exact (Equips.run.bind fun exit => (Equips.ofOutcome _).bind fun v =>
      (Equips.ofOutcome _).bind keep) d

theorem equips_prove (input : GuestInput) (mode : ProofMode) :
    p.Equips env (p.prove host env input mode) := by
  unfold prove
  split
  · exact .ofOutcome _
  refine equips_setup.bind fun vkey => Equips.run.bind fun exit =>
    (Equips.ofOutcome _).bind fun v => (Equips.ofOutcome _).bind fun data =>
    (Equips.ofOutcome _).bind fun proved => ?_
  dsimp only
  split <;> exact .ofOutcome _

theorem equips_wrap (run : Receipt) : p.Equips env (p.wrap host env run) := by
  unfold wrap
  dsimp only
  split
  · exact .ofOutcome _
  exact Equips.run.bind fun exit => (Equips.ofOutcome _).bind fun data => .ofOutcome _

theorem equips_verify (proof : Proof) (publicValues : Bytes) (vkey : VerifyingKey) :
    p.Equips env (p.verify host env proof publicValues vkey) := by
  refine Equips.run.bind fun exit => ?_
  dsimp only
  split
  · exact Equips.log.bind fun _ => .ofOutcome _
  · exact .ofOutcome _

theorem moves : (p.client host env).Moves (ExternalState.Issued (p.Equipped env)) where
  refl := .refl
  trans := .trans
  prove := equips_prove
  wrap := equips_wrap
  verify := equips_verify

end Prover.External

theorem Prover.Mock.moves (p : Prover.Mock) (P : Command → Prop) :
    (p.client : Client (ExternalState τ)).Moves (ExternalState.Issued P) where
  refl := .refl
  trans := .trans
  prove _ _ d := .refl d.client
  wrap _ d := .refl d.client
  verify _ _ _ d := .refl d.client

end ProofDriver

import ProofDriver.Prover.Client
import ProofDriver.Proofs.World
/-!
# Traces of a client

A traced client keeps every call it receives together with the outcome of the call. Tracing is only
an instrument: `Act.Mirrors` says that work on a traced client does what the same work does on the
client itself, and its lemmas carry this from the single calls to whole runs.
-/

namespace ProofDriver

inductive Event where
  | setup (r : Outcome VerifyingKey)
  | execute (input : GuestInput) (r : Outcome Execution)
  | prove (input : GuestInput) (mode : ProofMode) (r : Outcome Receipt)
  | wrap (run : Receipt) (r : Outcome Receipt)
  | verify (proof : Proof) (publicValues : Bytes) (vkey : VerifyingKey) (r : Outcome Bool)

def Event.isVerify : Event → Bool
  | verify .. => true
  | _ => false

namespace Client

variable {σ α : Type}

def tracing (event : Outcome α → Event) (work : Act (Desk σ) α) :
    Act (Desk (σ × List Event)) α :=
  fun d =>
    let (r, inner) := work.run ⟨d.client.1, d.journal⟩
    (r, ⟨(inner.client, d.client.2 ++ [event r]), inner.journal⟩)

def traced (c : Client σ) : Client (σ × List Event) where
  sound := c.sound
  setup := tracing .setup c.setup
  execute input := tracing (.execute input) (c.execute input)
  prove input mode := tracing (.prove input mode) (c.prove input mode)
  wrap run := tracing (.wrap run) (c.wrap run)
  verify proof publicValues vkey :=
    tracing (.verify proof publicValues vkey) (c.verify proof publicValues vkey)

@[simp] theorem sound_traced (c : Client σ) : c.traced.sound = c.sound := rfl

end Client

namespace World

variable {σ α : Type}

def traced (w : World σ) (events : List Event := []) : World (σ × List Event) :=
  ⟨⟨(w.client, events), w.journal⟩, w.disk, w.machine, w.reports⟩

def untraced (w : World (σ × List Event)) : World σ :=
  ⟨⟨w.client.1, w.journal⟩, w.disk, w.machine, w.reports⟩

def trace (w : World (σ × List Event)) : List Event :=
  w.client.2

@[simp] theorem untraced_traced (w : World σ) (events : List Event) :
    (w.traced events).untraced = w := rfl

@[simp] theorem trace_traced (w : World σ) (events : List Event) :
    (w.traced events).trace = events := rfl

@[simp] theorem disk_untraced (w : World (σ × List Event)) : w.untraced.disk = w.disk := rfl

theorem Observed.trace {w w' : World (σ × List Event)} (h : w.Observed w') :
    w'.trace = w.trace := by
  unfold World.trace
  rw [h.client]

theorem Asked.trace {event : Outcome α → Event} {work : Act (Desk σ) α}
    {w w' : World (σ × List Event)} {r : Outcome α}
    (asked : Asked (Client.tracing event work) w r w') : w'.trace = w.trace ++ [event r] := by
  obtain ⟨-, before, after, run⟩ := asked
  have outcome : (work.run ⟨w.client.1, before⟩).1 = r := congrArg Prod.fst run
  have client : w'.client.2 = w.client.2 ++ [event (work.run ⟨w.client.1, before⟩).1] :=
    (congrArg (fun x => x.2.client.2) run).symm
  rw [World.trace, client, outcome]
  rfl

end World

namespace Act

variable {σ α β : Type}

/-- On every traced world `x` does what `y` does on the world without the trace. -/
def Mirrors (x : Act (World (σ × List Event)) α) (y : Act (World σ) α) : Prop :=
  ∀ w, y.run w.untraced = ((x.run w).1, (x.run w).2.untraced)

namespace Mirrors

theorem bind {x : Act (World (σ × List Event)) α} {y : Act (World σ) α}
    {f : α → Act (World (σ × List Event)) β} {g : α → Act (World σ) β}
    (h : x.Mirrors y) (hf : ∀ a, (f a).Mirrors (g a)) : (x >>= f).Mirrors (y >>= g) := by
  intro w
  have first := h w
  rcases hx : x.run w with ⟨r, next⟩
  rw [hx] at first
  cases r with
  | ok a => rw [run_bind_of_ok first, run_bind_of_ok hx, hf a next]
  | error e => rw [run_bind_of_error first, run_bind_of_error hx]

theorem get_bind {f : World (σ × List Event) → Act (World (σ × List Event)) β}
    {g : World σ → Act (World σ) β} (h : ∀ w, (f w).Mirrors (g w.untraced)) :
    ((get : Act _ (World (σ × List Event))) >>= f).Mirrors ((get : Act _ (World σ)) >>= g) := by
  intro w
  rw [run_bind_of_ok (run_get w), run_bind_of_ok (run_get w.untraced)]
  exact h w w

theorem ofOutcome (r : Outcome α) :
    (Act.ofOutcome r : Act (World (σ × List Event)) α).Mirrors (Act.ofOutcome r) :=
  fun _ => rfl

theorem pure (a : α) :
    (Pure.pure a : Act (World (σ × List Event)) α).Mirrors (Pure.pure a) :=
  ofOutcome (.ok a)

theorem fail (e : Failure) :
    (Act.fail e : Act (World (σ × List Event)) α).Mirrors (Act.fail e) :=
  ofOutcome (.error e)

theorem fail_bind (e : Failure) (f : α → Act (World (σ × List Event)) β)
    (g : α → Act (World σ) β) : (Act.fail e >>= f).Mirrors (Act.fail e >>= g) :=
  fun _ => rfl

theorem ofFault (r : Except Fault α) :
    (Act.ofFault r : Act (World (σ × List Event)) α).Mirrors (Act.ofFault r) :=
  ofOutcome (Fault.lift r)

theorem ofDriver (r : Except DriverError α) :
    (Act.ofDriver r : Act (World (σ × List Event)) α).Mirrors (Act.ofDriver r) :=
  ofOutcome (DriverError.lift r)

theorem ite {c : Prop} [Decidable c] {x₁ x₂ : Act (World (σ × List Event)) α}
    {y₁ y₂ : Act (World σ) α} (h₁ : x₁.Mirrors y₁) (h₂ : x₂.Mirrors y₂) :
    (if c then x₁ else x₂).Mirrors (if c then y₁ else y₂) := by
  split
  · exact h₁
  · exact h₂

theorem attempt {x : Act (World (σ × List Event)) α} {y : Act (World σ) α} (h : x.Mirrors y) :
    x.attempt.Mirrors y.attempt := by
  intro w
  rw [run_attempt, run_attempt, h w]

theorem log {level : Level} {source : Source} {message : String} :
    (World.log level source message : Act (World (σ × List Event)) Unit).Mirrors
      (World.log level source message) :=
  fun _ => rfl

theorem save (path : Path) (v : Value) :
    (World.save path v : Act (World (σ × List Event)) Unit).Mirrors (World.save path v) :=
  fun _ => rfl

theorem ask (event : Outcome α → Event) (work : Act (Desk σ) α) :
    (World.ask (Client.tracing event work)).Mirrors (World.ask work) :=
  fun _ => rfl

end Mirrors

end Act

namespace World

variable {σ α : Type}

open Act (Mirrors)

theorem mirrors_takeSample (stage : String) :
    (takeSample stage : Act (World (σ × List Event)) _).Mirrors (takeSample stage) := by
  have next : (nextSample : Act (World (σ × List Event)) _).Mirrors nextSample := by
    intro w
    have same : w.untraced.machine = w.machine := rfl
    unfold nextSample
    rw [Act.run_modifyGet, Act.run_modifyGet, same]
    cases w.machine.samples <;> rfl
  refine next.bind fun sample => ?_
  cases sample with
  | ok s => exact .pure _
  | error f =>
    dsimp only
    split
    · exact Mirrors.log.bind fun _ => .pure _
    · exact .fail _

theorem mirrors_offer (sink : Sink) (r : Usage) :
    (offer sink r : Act (World (σ × List Event)) Unit).Mirrors (offer sink r) := by
  cases sink with
  | journal => exact (Mirrors.ofFault _).bind fun _ => .log
  | receiver respond =>
    refine Mirrors.get_bind fun w => ?_
    have noting : (modify fun w => { w with reports := w.reports ++ [r] } :
        Act (World (σ × List Event)) PUnit).Mirrors
        (modify fun w => { w with reports := w.reports ++ [r] }) := fun _ => rfl
    refine noting.bind fun _ => ?_
    have same : w.untraced.reports = w.reports := rfl
    rw [same]
    cases respond w.reports r with
    | none => exact .pure _
    | some e => exact .fail e

theorem mirrors_handOver (sink : Sink) (r : Usage) :
    (handOver sink r : Act (World (σ × List Event)) Unit).Mirrors (handOver sink r) := by
  refine (mirrors_offer sink r).attempt.bind fun answer => ?_
  cases answer with
  | ok _ => exact .pure _
  | error e =>
    dsimp only
    split
    · exact .log
    · exact .fail e

theorem mirrors_metered (sink : Sink) (stage : String) {x : Act (World (σ × List Event)) α}
    {y : Act (World σ) α} (h : x.Mirrors y) :
    (metered sink stage x).Mirrors (metered sink stage y) := by
  refine (mirrors_takeSample stage).bind fun before => h.attempt.bind fun result =>
    (mirrors_takeSample stage).bind fun after => ?_
  match before, after with
  | none, _ => exact .ofOutcome result
  | some _, none => exact .ofOutcome result
  | some before, some after =>
    exact (mirrors_handOver sink _).bind fun _ => .ofOutcome result

end World

end ProofDriver

import ProofDriver.Proofs.Prover.Trace
import ProofDriver.Prover.Mock
import ProofDriver.Prover.External
/-!
# Records of the clients

A client may write to the journal, but what it does must not depend on what is written there. Both
clients keep to this: the mock writes nothing, and an external prover writes debugging records under
its own name.
-/

namespace ProofDriver

variable {σ α β : Type}

theorem Client.run_tracing (event : Outcome α → Event) (work : Act (Desk σ) α)
    (d : Desk (σ × List Event)) :
    (Client.tracing event work).run d =
      let (r, inner) := work.run ⟨d.client.1, d.journal⟩
      (r, ⟨(inner.client, d.client.2 ++ [event r]), inner.journal⟩) := rfl

namespace Act

/-- The work goes by the state of the client alone and only adds records with `P` to the journal. -/
def WritesOnly (P : Record → Prop) (work : Act (Desk σ) α) : Prop :=
  ∀ s, ∃ r s' records, (∀ journal, work.run ⟨s, journal⟩ = (r, ⟨s', journal ++ records⟩)) ∧
    ∀ record ∈ records, P record

namespace WritesOnly

variable {P Q : Record → Prop}

theorem run_eq {work : Act (Desk σ) α} (h : work.WritesOnly P) (d : Desk σ) :
    ∃ records, work.run d = ((work.run ⟨d.client, []⟩).1,
        ⟨(work.run ⟨d.client, []⟩).2.client, d.journal ++ records⟩) ∧
      ∀ record ∈ records, P record := by
  obtain ⟨r, s', records, run, all⟩ := h d.client
  exact ⟨records, by rw [run []]; exact run d.journal, all⟩

theorem imp {work : Act (Desk σ) α} (weaker : ∀ record, P record → Q record)
    (h : work.WritesOnly P) : work.WritesOnly Q := by
  intro s
  obtain ⟨r, s', records, run, all⟩ := h s
  exact ⟨r, s', records, run, fun record mem => weaker record (all record mem)⟩

theorem ofOutcome (r : Outcome α) : (Act.ofOutcome r : Act (Desk σ) α).WritesOnly P :=
  fun s => ⟨r, s, [], fun journal => by rw [List.append_nil]; rfl, fun _ mem => by cases mem⟩

theorem bind {x : Act (Desk σ) α} {f : α → Act (Desk σ) β} (hx : x.WritesOnly P)
    (hf : ∀ a, (f a).WritesOnly P) : (x >>= f).WritesOnly P := by
  intro s
  obtain ⟨r, s₁, first, run, all⟩ := hx s
  cases r with
  | error e => exact ⟨.error e, s₁, first, fun journal => run_bind_of_error (run journal) f, all⟩
  | ok a =>
    obtain ⟨r, s₂, second, run', all'⟩ := hf a s₁
    refine ⟨r, s₂, first ++ second, fun journal => ?_, ?_⟩
    · rw [run_bind_of_ok (run journal), run', List.append_assoc]
    · intro record mem
      exact (List.mem_append.mp mem).elim (all record) (all' record)

theorem log {level : Level} {source : Source} {message : String} (h : P ⟨level, source, message⟩) :
    (Desk.log level source message : Act (Desk σ) Unit).WritesOnly P := by
  refine fun s => ⟨.ok (), s, [⟨level, source, message⟩], fun journal => rfl, ?_⟩
  intro record mem
  rwa [List.mem_singleton.mp mem]

theorem onClient (step : σ → α × σ) :
    (modifyGet fun d : Desk σ => ((step d.client).1, { d with client := (step d.client).2 }) :
      Act (Desk σ) α).WritesOnly P :=
  fun s => ⟨.ok (step s).1, (step s).2, [], fun journal => by rw [List.append_nil]; rfl,
    fun _ mem => by cases mem⟩

theorem get_bind {f : Desk σ → Act (Desk σ) β} (h : ∀ d, (f d).WritesOnly P)
    (unread : ∀ s journal journal', f ⟨s, journal⟩ = f ⟨s, journal'⟩) :
    ((get : Act (Desk σ) (Desk σ)) >>= f).WritesOnly P := by
  intro s
  obtain ⟨r, s', records, run, all⟩ := h ⟨s, []⟩ s
  refine ⟨r, s', records, fun journal => ?_, all⟩
  rw [run_bind_of_ok (run_get _), unread s journal [], run]

theorem tracing {work : Act (Desk σ) α} (event : Outcome α → Event) (h : work.WritesOnly P) :
    (Client.tracing event work).WritesOnly P := by
  rintro ⟨s, events⟩
  obtain ⟨r, s', records, run, all⟩ := h s
  refine ⟨r, (s', events ++ [event r]), records, fun journal => ?_, all⟩
  rw [Client.run_tracing, run journal]

end WritesOnly

end Act

namespace Client

/-- What the client does depends on its state and not on the journal, to which it only adds records
with `P`. -/
structure WritesOnly (P : Record → Prop) (c : Client σ) : Prop where
  setup : c.setup.WritesOnly P
  execute : ∀ input, (c.execute input).WritesOnly P
  prove : ∀ input mode, (c.prove input mode).WritesOnly P
  wrap : ∀ run, (c.wrap run).WritesOnly P
  verify : ∀ proof publicValues vkey, (c.verify proof publicValues vkey).WritesOnly P

namespace WritesOnly

variable {P Q : Record → Prop} {c : Client σ}

theorem imp (weaker : ∀ record, P record → Q record) (h : c.WritesOnly P) : c.WritesOnly Q where
  setup := h.setup.imp weaker
  execute input := (h.execute input).imp weaker
  prove input mode := (h.prove input mode).imp weaker
  wrap run := (h.wrap run).imp weaker
  verify proof publicValues vkey := (h.verify proof publicValues vkey).imp weaker

theorem traced (h : c.WritesOnly P) : c.traced.WritesOnly P where
  setup := h.setup.tracing _
  execute input := (h.execute input).tracing _
  prove input mode := (h.prove input mode).tracing _
  wrap run := (h.wrap run).tracing _
  verify proof publicValues vkey := (h.verify proof publicValues vkey).tracing _

end WritesOnly

end Client

theorem Prover.Mock.writesOnly_clientOn (curve : Bn254.Multiples) (p : Prover.Mock) :
    (p.clientOn curve : Client σ).WritesOnly fun _ => False where
  setup := .ofOutcome _
  execute _ := .ofOutcome _
  prove _ _ := .ofOutcome _
  wrap _ := .ofOutcome _
  verify _ _ _ := .ofOutcome _

namespace Prover.External

open Act (WritesOnly)

variable {τ : Type} {p : Prover.External} {host : Host τ} {env : Environment}

def Debugging (record : Record) : Prop :=
  record.level = .debug ∧ record.source = .external

theorem writesOnly_run (c : Command) : (p.run host c).WritesOnly Debugging := by
  have starting : (start host c).WritesOnly Debugging :=
    .onClient fun s : ExternalState τ => ((host.start c s.host).1,
      { s with host := (host.start c s.host).2, commands := s.commands ++ [c] })
  refine (WritesOnly.log ⟨rfl, rfl⟩).bind fun _ => starting.bind fun ended => ?_
  exact .ofOutcome _

theorem writesOnly_setup : (p.setup host env).WritesOnly Debugging := by
  have naming (key : VerifyingKey) : (modify fun d : Desk (ExternalState τ) =>
      { d with client := { d.client with key := some key } } :
      Act _ PUnit).WritesOnly Debugging :=
    .onClient fun s : ExternalState τ => (PUnit.unit, { s with key := some key })
  refine .get_bind (fun d => ?_) fun _ _ _ => rfl
  cases d.client.key with
  | some key => exact .ofOutcome _
  | none =>
    exact (writesOnly_run _).bind fun _ => (WritesOnly.ofOutcome _).bind fun _ =>
      (WritesOnly.ofOutcome _).bind fun key => (naming key).bind fun _ => .ofOutcome _

theorem writesOnly_prove (input : GuestInput) (mode : ProofMode) :
    (p.prove host env input mode).WritesOnly Debugging := by
  unfold prove
  split
  · exact .ofOutcome _
  refine writesOnly_setup.bind fun vkey => (writesOnly_run _).bind fun exit =>
    (WritesOnly.ofOutcome _).bind fun v => (WritesOnly.ofOutcome _).bind fun data =>
    (WritesOnly.ofOutcome _).bind fun proved => ?_
  dsimp only
  split <;> exact .ofOutcome _

theorem writesOnly_wrap (run : Receipt) : (p.wrap host env run).WritesOnly Debugging := by
  unfold wrap
  dsimp only
  split
  · exact .ofOutcome _
  · exact (writesOnly_run _).bind fun _ => (WritesOnly.ofOutcome _).bind fun _ => .ofOutcome _

theorem writesOnly_verify (proof : Proof) (publicValues : Bytes) (vkey : VerifyingKey) :
    (p.verify host env proof publicValues vkey).WritesOnly Debugging := by
  refine (writesOnly_run _).bind fun exit => ?_
  dsimp only
  split
  · exact (WritesOnly.log ⟨rfl, rfl⟩).bind fun _ => .ofOutcome _
  · exact .ofOutcome _

theorem writesOnly_client : (p.client host env).WritesOnly Debugging where
  setup := writesOnly_setup
  execute _ := (writesOnly_run _).bind fun _ => (WritesOnly.ofOutcome _).bind fun _ => .ofOutcome _
  prove := writesOnly_prove
  wrap := writesOnly_wrap
  verify := writesOnly_verify

end Prover.External

end ProofDriver

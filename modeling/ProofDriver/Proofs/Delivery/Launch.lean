import ProofDriver.Proofs.Delivery.Errors
import ProofDriver.Proofs.Delivery.Preview
import ProofDriver.Proofs.Delivery.Recheck
import ProofDriver.Proofs.Prover.Launch
import ProofDriver.Prover.Select
/-!
# Deliveries of a prover that cannot be started

Neither a strategy nor the stages after it go on once a call has failed, and the one failure that is
renamed on the way, that of a wrap, has its name from the prover already. So previews, deliveries and
rechecks heed the ends of processes as the calls do.
-/

namespace ProofDriver

variable {τ : Type} {p : Prover.External} {host : Host τ}

open World (Asked)

def World.prover (w : World (ExternalState τ)) : ExternalState τ :=
  w.client

namespace Act.Heeds

variable {α : Type}

theorem ask {work : Act (Desk (ExternalState τ)) α} (h : work.Heeds p host Desk.client) :
    (World.ask work).Heeds p host World.prover := by
  intro w
  refine .of_run (World.run_ask work w) ?_
  exact h w.toDesk

theorem of_observes {x : Act (World (ExternalState τ)) α} (h : x.Observes) :
    x.Heeds p host World.prover := by
  refine of_idle fun w => (h w).imp fun _ _ observed => ?_
  unfold World.prover
  rw [observed.client]
  exact ⟨rfl, rfl⟩

theorem of_asked {work : Act (Desk (ExternalState τ)) α} {w w' : World (ExternalState τ)}
    {r : Outcome α} (h : work.Heeds p host Desk.client) (asked : Asked work w r w') :
    w.client.Heeded p host (failureOf r) w'.client := by
  obtain ⟨-, before, after, run⟩ := asked
  have heeded := (h ⟨w.client, before⟩).run_eq run
  exact heeded

end Act.Heeds

theorem Act.closed_heeds :
    Closed fun α (x : Act (World (ExternalState τ)) α) => x.Heeds p host World.prover where
  bind := .bind
  ofOutcome := .ofOutcome
  log _ := .of_observes .log
  look each _ := Heeds.get.bind each

/-- All calls of the client heed the ends of the processes that they start, a wrap also under the name
that a strategy gives its failure. -/
structure Client.Heeds (p : Prover.External) (host : Host τ) (client : Client (ExternalState τ)) :
    Prop where
  setup : client.setup.Heeds p host Desk.client
  execute : ∀ input, (client.execute input).Heeds p host Desk.client
  prove : ∀ input mode, (client.prove input mode).Heeds p host Desk.client
  wrap : ∀ run d, (client.wrap run).Ends d fun r d' =>
    d.client.Heeded p host (failureOf (r.mapError Strategy.wrappingFailure)) d'.client
  verify : ∀ proof publicValues vkey,
    (client.verify proof publicValues vkey).Heeds p host Desk.client

namespace Prover

variable {env : Environment}

theorem External.wrappingFailure_of_classify {c : Command} {processEnd : ProcessEnd} {e : Failure}
    (wraps : c.subcommand = .wrap) (failed : p.classify c processEnd = .error e) :
    Strategy.wrappingFailure e = e := by
  have told (expected : processEnd.Expected)
      (named : processEnd = .timedOut → p.namesLimit = true) :
      Strategy.wrappingFailure e = e := by
    have within := External.within_of_classify expected named failed
    rw [wraps] at within
    exact Delivery.wrappingFailure_of_within within
  cases processEnd with
  | refused why _ | lost why =>
    cases failed
    rfl
  | missing => exact told .missing nofun
  | exited exit => exact told (.exited exit) nofun
  | timedOut =>
    by_cases named : p.namesLimit = true
    · exact told .timedOut fun _ => named
    · rw [External.classify, if_neg named] at failed
      cases failed
      rfl

theorem External.wrappingFailure_of_wrap (run : Receipt) (d : Desk (ExternalState τ)) :
    (p.wrap host env run).Ends d fun r _ =>
      ∀ e, r = .error e → Strategy.wrappingFailure e = e := by
  have own {e : Failure} (within : e.Within [.wrapping]) :
      ∀ e', (.error e : Outcome Receipt) = .error e' → Strategy.wrappingFailure e' = e' := by
    rintro _ ⟨⟩
    exact Delivery.wrappingFailure_of_within (within.mono (by decide))
  unfold External.wrap
  split
  · exact own (Category.within_error _ _)
  apply Act.Ends.bind
  case error =>
    intro e d₁ ran e' same
    obtain ⟨journal, ran'⟩ := p.run_run host
      (p.wrapCommand host env run.proof.data run.publicValues) d
    cases same
    exact wrappingFailure_of_classify rfl (congrArg Prod.fst (ran'.symm.trans ran))
  case ok =>
    intro exit d₁ _
    cases wrote : External.written .wrapping "plonk proof" (host.scratch ++ "/plonk.bin") exit with
    | error failed => exact own (External.within_of_written wrote)
    | ok data => exact nofun

theorem External.heeds_client : (p.client host env).Heeds p host where
  setup := heeds_setup
  execute := heeds_execute
  prove := heeds_prove
  verify := heeds_verify
  wrap run d := by
    have named : (p.wrap host env run).Ends d _ := wrappingFailure_of_wrap run d
    have heeded : (p.wrap host env run).Ends d _ := heeds_wrap run d
    unfold Act.Ends at named heeded
    change d.client.Heeded p host
      (failureOf (((p.wrap host env run).run d).1.mapError Strategy.wrappingFailure)) _
    rw [Delivery.mapError_wrappingFailure named]
    exact heeded

theorem Mock.heeds_client (q : Prover.Mock) :
    (q.client : Client (ExternalState τ)).Heeds p host where
  setup := .pure _
  execute _ := .ofDriver _
  prove _ _ := .ofOutcome _
  wrap _ _ := .idle ⟨rfl, rfl⟩
  verify _ _ _ := .ofOutcome _

end Prover

namespace Strategy

variable {client : Client (ExternalState τ)}

theorem heeded_of_calm (heeds : client.Heeds p host) {input : GuestInput} {m : ProofMode}
    {r : Outcome Receipt} {w w' : World (ExternalState τ)}
    (course : CalmCourse client input w m r w') :
    w.client.Heeded p host (failureOf r) w'.client := by
  cases course with
  | refused _ observed => exact .idle (by rw [observed.client]; exact ⟨rfl, rfl⟩)
  | single _ asked => exact (heeds.prove _ _).of_asked asked
  | unwrapped asked => exact (heeds.prove _ _).of_asked asked
  | wrapped first second =>
    obtain ⟨-, before, after, run⟩ := second
    have wrapped := (heeds.wrap _ ⟨_, before⟩).run_eq run
    exact ((heeds.prove _ _).of_asked first).trans wrapped

end Strategy

namespace Delivery

variable {client : Client (ExternalState τ)}

theorem heeded_of_concluded (heeds : client.Heeds p host) {settings : Settings} {m : ProofMode}
    {output : Option Path} {run : Receipt} {r : Outcome (Fixture × Path)}
    {w w' : World (ExternalState τ)} (concluded : Concluded client settings m output run w r w') :
    w.client.Heeded p host (failureOf r) w'.client := by
  have verified {answer : Outcome Bool} {w₁ : World (ExternalState τ)}
      (asked : Asked (client.verify run.proof run.publicValues run.vkey) w answer w₁) :
      w.client.Heeded p host (failureOf answer) w₁.client := (heeds.verify _ _ _).of_asked asked
  cases concluded with
  | unanswered asked => exact verified asked
  | rejected asked | unencodable asked _ => exact (verified asked).trans (.idle ⟨rfl, rfl⟩)
  | unsaved asked _ _ kept | stored asked _ _ kept =>
    rw [kept]
    exact (verified asked).trans (.idle ⟨rfl, rfl⟩)

theorem deliver_heeded (heeds : client.Heeds p host) (settings : Settings) (n mode : Value)
    (output : Option Path) {sink : Sink} {w : World (ExternalState τ)}
    (calm : Unobtrusive sink w.machine) :
    (deliver client settings sink n mode output).Ends w fun r w' =>
      w.client.Heeded p host (failureOf r) w'.client := by
  cases known : ProofMode.ofValue mode with
  | error e =>
    unfold deliver
    rw [known]
    exact .idle ⟨rfl, rfl⟩
  | ok m =>
    cases valid : GuestInput.ofValue n with
    | error e =>
      unfold deliver
      rw [known, valid]
      exact .idle ⟨rfl, rfl⟩
    | ok input =>
      have course := deliver_ends_of_unobtrusive client settings output known valid calm
      refine course.imp fun r w' course => ?_
      cases course with
      | unproved course => exact Strategy.heeded_of_calm heeds course
      | proved course concluded =>
        exact (Strategy.heeded_of_calm heeds course).trans (heeded_of_concluded heeds concluded)

theorem heeds_preview (heeds : client.Heeds p host) (n : Value) :
    (preview client n).Heeds p host World.prover :=
  Act.closed_heeds.preview (fun input => (heeds.execute input).ask) n

theorem heeds_recheck (heeds : client.Heeds p host) (shown : String) :
    (recheck client shown).Heeds p host World.prover :=
  Act.closed_heeds.recheck Act.Heeds.get.bind heeds.setup.ask
    (fun proof publicValues vkey => (heeds.verify proof publicValues vkey).ask) shown

end Delivery

end ProofDriver

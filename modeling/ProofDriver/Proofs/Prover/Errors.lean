import ProofDriver.Proofs.Prover.Flaws
/-!
# How the calls of an external prover fail

Whatever the processes of a prover come to, a call fails with an error of its own category or with one
of exhaustion. What a process printed is checked before anything is made of it: if the result line of
a process is flawed, its call fails.
-/

namespace ProofDriver

variable {τ : Type}

/-! ## Attempts -/

/-- The ends of a process that have a category. -/
inductive ProcessEnd.Expected : ProcessEnd → Prop
  | missing : Expected .missing
  | timedOut : Expected .timedOut
  | exited (e : Exit) : Expected (.exited e)

namespace Host

def after (host : Host τ) (s : τ) (commands : List Command) : τ :=
  commands.foldl (fun s c => (host.start c s).2) s

def attempts (host : Host τ) : τ → List Command → List (Command × ProcessEnd)
  | _, [] => []
  | s, c :: rest => (c, (host.start c s).1) :: host.attempts (host.start c s).2 rest

theorem attempts_append (host : Host τ) (s : τ) (xs ys : List Command) :
    host.attempts s (xs ++ ys) = host.attempts s xs ++ host.attempts (host.after s xs) ys := by
  induction xs generalizing s with
  | nil => rfl
  | cons c rest ih =>
    simp only [List.cons_append, attempts, ih]
    rfl

theorem map_fst_attempts (host : Host τ) (s : τ) (commands : List Command) :
    (host.attempts s commands).map Prod.fst = commands := by
  induction commands generalizing s with
  | nil => rfl
  | cons c rest ih => exact congrArg (c :: ·) (ih _)

def Startable (host : Host τ) : Prop :=
  ∀ c s, (host.start c s).1.Expected

end Host

/-! ## Categories -/

namespace Output

theorem kind_of_field {v : Value} {name : String} :
    ∀ f, field v name = .error f → f.kind = .key := by
  intro f failed
  unfold field at failed
  split at failed <;> cases failed
  rfl

theorem kind_of_bytes {v : Value} : ∀ f, bytes v = .error f → f.kind = .value := by
  intro f failed
  unfold bytes at failed
  cases decoded : Hex.decodeValue v <;> rw [decoded] at failed <;> cases failed
  rfl

theorem kind_of_ofHex {v : Value} :
    ∀ f, VerifyingKey.ofHex v = .error f → f.kind = .value := by
  intro f failed
  unfold VerifyingKey.ofHex at failed
  split at failed
  · unfold VerifyingKey.ofBytes at failed
    split at failed <;> cases failed
    rfl
  · cases failed
    rfl

theorem kind_of_vkey {v : Value} :
    ∀ f, vkey v = .error f → f.kind ∈ .key :: Prover.External.valueKinds :=
  Except.bind_errors (fun f failed => by simp [kind_of_field f failed]) fun _ _ f failed => by
    simp [kind_of_ofHex f failed, Prover.External.valueKinds]

theorem kind_of_proved {v : Value} {key : VerifyingKey} :
    ∀ f, proved v key = .error f → f.kind ∈ .key :: Prover.External.valueKinds := by
  have value {f : Fault} (kind : f.kind = .value) :
      f.kind ∈ .key :: Prover.External.valueKinds := by
    simp [kind, Prover.External.valueKinds]
  refine Except.bind_errors (fun f failed => by simp [kind_of_field f failed]) fun _ _ => ?_
  refine Except.bind_errors (fun f failed => value (kind_of_bytes f failed)) fun _ _ => ?_
  refine Except.bind_errors (fun f failed => value (kind_of_ofHex f failed)) fun _ _ => ?_
  exact fun f failed => by cases failed

end Output

namespace Prover.External

variable {p : Prover.External} {host : Host τ} {env : Environment} {α : Type}

theorem within_of_resultOf {sub : Subcommand} {e : Exit} {d : DriverError}
    (h : resultOf sub e = .error d) : (Failure.driver d).Within [sub.failure] := by
  unfold resultOf at h
  split at h
  · cases h
  · cases h
    exact Category.within_error _ _

theorem within_of_reading {kinds : List FaultKind} {category : Category} {what : String}
    {r : Except Fault α} {e : Failure} (known : ∀ f, r = .error f → f.kind ∈ kinds)
    (h : reading kinds category what r = .error e) : e.Within [category] := by
  unfold reading at h
  split at h
  · cases h
  · rename_i f
    rw [if_pos (known f rfl)] at h
    cases h
    exact Category.within_error _ _

theorem within_of_written {category : Category} {what path : String} {e : Exit} {d : DriverError}
    (h : written category what path e = .error d) : (Failure.driver d).Within [category] := by
  unfold written at h
  split at h
  · cases h
  · cases h
    exact Category.within_error _ _

theorem within_of_classify {c : Command} {processEnd : ProcessEnd} {e : Failure}
    (expected : processEnd.Expected) (named : processEnd = .timedOut → p.namesLimit = true)
    (h : p.classify c processEnd = .error e) :
    e.Within [c.subcommand.failure, .exhausted] := by
  have failure (text : String) : (Failure.driver (c.subcommand.failure.error text)).Within
      [c.subcommand.failure, .exhausted] := ⟨_, rfl, by simp [Category.error]⟩
  have exhausted (text : String) : (Failure.driver (exhausted c.subcommand text)).Within
      [c.subcommand.failure, .exhausted] := ⟨_, rfl, by simp [Prover.External.exhausted]⟩
  cases expected with
  | missing =>
    cases h
    exact failure _
  | timedOut =>
    rw [classify, if_pos (named rfl)] at h
    cases h
    exact exhausted _
  | exited exit =>
    rw [classify] at h
    split at h
    · cases h
      exact exhausted _
    · split at h <;> cases h
      exact failure _

theorem classify_of_success {c : Command} {e : Exit} (success : e.status = 0) :
    p.classify c (.exited e) = .ok e := by
  unfold classify
  simp [success, killedStatuses]

end Prover.External

/-! ## Calls -/

namespace ExternalState

/-- Between two states of a prover just these commands were given. -/
structure Attempted (host : Host τ) (s : ExternalState τ) (commands : List Command)
    (s' : ExternalState τ) : Prop where
  host : s'.host = host.after s.host commands
  commands : s'.commands = s.commands ++ commands

theorem Attempted.trans {host : Host τ} {s s' s'' : ExternalState τ} {xs ys : List Command}
    (h₁ : s.Attempted host xs s') (h₂ : s'.Attempted host ys s'') :
    s.Attempted host (xs ++ ys) s'' := by
  refine ⟨?_, by rw [h₂.commands, h₁.commands, List.append_assoc]⟩
  rw [h₂.host, h₁.host, Host.after, Host.after, Host.after, List.foldl_append]

/-- How work with an outcome went: it fails in these categories only, and with an error of proving if
a process printed a flawed result. -/
structure Conducted {α : Type} (host : Host τ) (categories : List Category) (s : ExternalState τ)
    (r : Outcome α) (s' : ExternalState τ) : Prop where
  errors : ∀ e, r = .error e → e.Within categories
  kept : ∀ key, s.key = some key → s'.key = some key
  flaws : ∃ commands, s.Attempted host commands s' ∧
    ∀ c exit, (c, .exited exit) ∈ host.attempts s.host commands → exit.status = 0 →
      Output.Flawed s'.key exit.stdout c.subcommand → ∃ e, r = .error e ∧ e.Within [.proving]

/-- What was made of an exit. No command is given for it, and nothing is made of a flawed one. -/
structure Judged {α : Type} (sub : Subcommand) (exit : Exit) (s : ExternalState τ) (r : Outcome α)
    (s' : ExternalState τ) : Prop where
  host : s'.host = s.host
  commands : s'.commands = s.commands
  kept : ∀ key, s.key = some key → s'.key = some key
  errors : ∀ e, r = .error e → e.Within [sub.failure]
  flawless : ∀ a, r = .ok a → ¬ Output.Flawed s'.key exit.stdout sub

variable {host : Host τ} {categories : List Category} {s s' s'' : ExternalState τ} {α β : Type}
  {r : Outcome α}

theorem Judged.failed {sub : Subcommand} {exit : Exit} {e : Failure} (h : e.Within [sub.failure]) :
    s.Judged sub exit (.error e : Outcome α) s :=
  ⟨rfl, rfl, fun _ same => same, Failure.within_of_error h, fun _ absurd => by cases absurd⟩

theorem Judged.succeeded {sub : Subcommand} {exit : Exit} {a : α}
    (h : ¬ Output.Flawed s.key exit.stdout sub) : s.Judged sub exit (.ok a) s :=
  ⟨rfl, rfl, fun _ same => same, Failure.within_of_ok, fun _ _ => h⟩

namespace Conducted

theorem idle (s : ExternalState τ) (errors : ∀ e, r = .error e → e.Within categories) :
    s.Conducted host categories r s :=
  ⟨errors, fun _ same => same, [], ⟨rfl, by simp⟩, by simp [Host.attempts]⟩

theorem mono {more : List Category} (h : s.Conducted host categories r s')
    (subset : categories ⊆ more) : s.Conducted host more r s' :=
  ⟨fun e failed => (h.errors e failed).mono subset, h.kept, h.flaws⟩

theorem error {e : Failure} (h : s.Conducted host categories (.error e : Outcome α) s') :
    s.Conducted host categories (.error e : Outcome β) s' := by
  obtain ⟨errors, kept, commands, attempted, flaws⟩ := h
  refine ⟨fun _ same => errors _ (by cases same; rfl), kept, commands, attempted, ?_⟩
  intro c exit mem success flawed
  obtain ⟨_, same, proving⟩ := flaws c exit mem success flawed
  cases same
  exact ⟨e, rfl, proving⟩

theorem trans {earlier : List Category} {b : β} {key : VerifyingKey}
    (h₁ : s.Conducted host earlier (.ok b) s')
    (known : s'.key = some key) (h₂ : s'.Conducted host categories r s'') :
    s.Conducted host categories r s'' := by
  obtain ⟨-, kept, first, attempted, sound⟩ := h₁
  obtain ⟨errors, kept', second, attempted', flaws⟩ := h₂
  refine ⟨errors, fun key' same => kept' key' (kept key' same), first ++ second,
    attempted.trans attempted', fun c exit mem success flawed => ?_⟩
  rw [Host.attempts_append, List.mem_append, ← attempted.host] at mem
  rcases mem with mem | mem
  · rw [kept' key known, ← known] at flawed
    obtain ⟨e, absurd, -⟩ := sound c exit mem success flawed
    cases absurd
  · exact flaws c exit mem success flawed

end Conducted

end ExternalState

namespace Prover.External

variable {p : Prover.External} {host : Host τ} {env : Environment} {α : Type}

section Conducted

variable (startable : host.Startable) (named : p.namesLimit = true)
include startable named

theorem run_bind_conducted {c : Command} {f : Exit → Act (Desk (ExternalState τ)) α}
    {d : Desk (ExternalState τ)}
    (judged : ∀ e d₁, d₁.client.key = d.client.key → (f e).Ends d₁ fun r d' =>
      d₁.client.Judged c.subcommand e r d'.client) :
    (p.run host c >>= f).Ends d fun r d' =>
      d.client.Conducted host [c.subcommand.failure, .exhausted] r d'.client := by
  obtain ⟨journal, ran⟩ := p.run_run host c d
  cases classified : p.classify c (host.start c d.client.host).1 with
  | error e =>
    rw [classified] at ran
    have within := within_of_classify (startable c d.client.host) (fun _ => named) classified
    refine .bind_error ran
      ⟨Failure.within_of_error within, fun _ same => same, [c], ⟨rfl, rfl⟩, ?_⟩
    intro c' exit mem success
    simp only [Host.attempts, List.mem_singleton, Prod.mk.injEq] at mem
    rw [← mem.2, classify_of_success success] at classified
    cases classified
  | ok e =>
    rw [classified] at ran
    refine .bind_ok ran ?_
    refine (judged e _ ?_).imp fun r d' judged => ⟨fun e failed => ?_, judged.kept, [c],
      ⟨judged.host, judged.commands⟩, fun c' exit mem success flawed => ?_⟩
    · rfl
    · exact (judged.errors e failed).mono (by simp)
    · simp only [Host.attempts, List.mem_singleton, Prod.mk.injEq] at mem
      obtain ⟨rfl, exited⟩ := mem
      rw [p.exited_of_classify classified] at exited
      cases exited
      cases r with
      | ok a => exact absurd flawed (judged.flawless a rfl)
      | error e =>
        have within := judged.errors e rfl
        rw [flawed.failure] at within
        exact ⟨e, rfl, within⟩

theorem setup_conducted (d : Desk (ExternalState τ)) :
    (p.setup host env).Ends d fun r d' =>
      d.client.Conducted host [.proving, .exhausted] r d'.client := by
  unfold setup
  refine .bind_ok (Act.run_get d) ?_
  cases unknown : d.client.key with
  | some key => exact .idle _ Failure.within_of_ok
  | none =>
    refine run_bind_conducted startable named fun e d₁ same => ?_
    rw [unknown] at same
    cases read : resultOf .vkey e with
    | error failed => exact .failed (within_of_resultOf read)
    | ok v =>
      refine .bind_ok (a := v) (t := d₁) rfl ?_
      cases named : reading (.key :: valueKinds) .proving "vkey" (Output.vkey v) with
      | error failed => exact .failed (within_of_reading Output.kind_of_vkey named)
      | ok key =>
        refine .bind_ok (a := key) (t := d₁) rfl (.bind_ok (Act.run_modify _ d₁) ?_)
        refine ⟨rfl, rfl, fun _ known => ?_, Failure.within_of_ok, fun _ _ => ?_⟩
        · cases same.symm.trans known
        · exact Output.not_flawed_of_vkey (ok_of_resultOf read) (ok_of_reading named)

theorem prove_conducted (input : GuestInput) (mode : ProofMode) (d : Desk (ExternalState τ)) :
    (p.prove host env input mode).Ends d fun r d' =>
      d.client.Conducted host [.proving, .exhausted] r d'.client := by
  unfold prove
  split
  · have within (text : String) := (Category.within_error .proving text).mono
      (by decide : [Category.proving] ⊆ [.proving, .exhausted])
    exact .bind_error (Act.run_fail _ d)
      (.idle _ (Failure.within_of_error (within _)))
  apply Act.Ends.bind
  case error =>
    intro e d₁ run
    exact ((setup_conducted startable named d).run_eq run).error
  case ok =>
    intro vkey d₁ keyed
    have first := (setup_conducted startable named d).run_eq keyed
    obtain ⟨_, -, -, known⟩ := setup_ok keyed
    refine (run_bind_conducted startable named fun e d₂ same => ?_).imp fun r d' second =>
      first.trans known second
    rw [known] at same
    cases read : resultOf .prove e with
    | error failed => exact .failed (within_of_resultOf read)
    | ok v =>
      refine .bind_ok (a := v) (t := d₂) rfl ?_
      cases wrote : written .proving "proof" (host.scratch ++ "/proof.bin") e with
      | error failed => exact .failed (within_of_written wrote)
      | ok data =>
        refine .bind_ok (a := data) (t := d₂) rfl ?_
        cases proved : reading (.key :: valueKinds) .proving "result" (Output.proved v vkey) with
        | error failed => exact .failed (within_of_reading Output.kind_of_proved proved)
        | ok result =>
          obtain ⟨publicValues, key⟩ := result
          refine .bind_ok (a := (publicValues, key)) (t := d₂) rfl ?_
          dsimp only
          split
          · exact .failed (Category.within_error _ _)
          · rename_i expected
            obtain rfl : key = vkey := by simpa using expected
            have flawless : ¬ Output.Flawed d₂.client.key e.stdout .prove := by
              rw [same]
              exact Output.not_flawed_of_proved (ok_of_resultOf read) (ok_of_reading proved)
            exact .succeeded flawless

theorem wrap_conducted (run : Receipt) (d : Desk (ExternalState τ)) :
    (p.wrap host env run).Ends d fun r d' =>
      d.client.Conducted host [.wrapping, .exhausted] r d'.client := by
  unfold wrap
  split
  · have within (text : String) := (Category.within_error .wrapping text).mono
      (by decide : [Category.wrapping] ⊆ [.wrapping, .exhausted])
    exact .bind_error (Act.run_fail _ d)
      (.idle _ (Failure.within_of_error (within _)))
  refine run_bind_conducted startable named fun e d₁ _ => ?_
  cases wrote : written .wrapping "plonk proof" (host.scratch ++ "/plonk.bin") e with
  | error failed => exact .failed (within_of_written wrote)
  | ok data => exact .succeeded fun flawed => by cases flawed.failure

theorem verify_conducted (proof : Proof) (publicValues : Bytes) (vkey : VerifyingKey)
    (d : Desk (ExternalState τ)) :
    (p.verify host env proof publicValues vkey).Ends d fun r d' =>
      d.client.Conducted host [.verification, .exhausted] r d'.client := by
  refine run_bind_conducted startable named fun e d₁ _ => ?_
  dsimp only
  split <;> exact .succeeded fun flawed => by cases flawed.failure

end Conducted

end Prover.External

end ProofDriver

import ProofDriver.Journal
import ProofDriver.Proofs.Outcome
/-!
# Running work

What a sequence of work comes to is what its parts come to, one after the other: a failure ends the
sequence in the state that was reached. `Act.Ends` speaks about every way in which work can end, so
that a rule for sequences is enough to go through a driver's stages one by one.
-/

namespace ProofDriver.Act

variable {s α β : Type}

theorem run_bind (x : Act s α) (f : α → Act s β) (state : s) :
    (x >>= f).run state =
      match x.run state with
      | (.ok a, next) => (f a).run next
      | (.error e, next) => (.error e, next) := by
  change ExceptT.bindCont f (x state).1 (x state).2 = _
  change _ = match x state with
    | (.ok a, next) => (f a) next
    | (.error e, next) => (.error e, next)
  rcases x state with ⟨r, next⟩
  cases r <;> rfl

theorem run_map (f : α → β) (x : Act s α) (state : s) :
    (f <$> x).run state = ((x.run state).1.map f, (x.run state).2) := by
  rw [map_eq_pure_bind, run_bind]
  rcases x.run state with ⟨r, next⟩
  cases r <;> rfl

@[simp] theorem run_pure (a : α) (state : s) :
    (pure a : Act s α).run state = (.ok a, state) := rfl

@[simp] theorem run_ofOutcome (r : Outcome α) (state : s) :
    (ofOutcome r : Act s α).run state = (r, state) := rfl

@[simp] theorem run_fail (e : Failure) (state : s) :
    (fail e : Act s α).run state = (.error e, state) := rfl

@[simp] theorem run_ofDriver (r : Except DriverError α) (state : s) :
    (ofDriver r : Act s α).run state = (DriverError.lift r, state) := rfl

@[simp] theorem run_ofFault (r : Except Fault α) (state : s) :
    (ofFault r : Act s α).run state = (Fault.lift r, state) := rfl

@[simp] theorem run_get (state : s) : (get : Act s s).run state = (.ok state, state) := rfl

@[simp] theorem run_modify (f : s → s) (state : s) :
    (modify f : Act s PUnit).run state = (.ok (), f state) := rfl

@[simp] theorem run_modifyGet (f : s → α × s) (state : s) :
    (modifyGet f : Act s α).run state = (.ok (f state).1, (f state).2) := rfl

@[simp] theorem run_attempt (x : Act s α) (state : s) :
    (attempt x).run state = (.ok (x.run state).1, (x.run state).2) := rfl

theorem run_bind_of_ok {x : Act s α} {state next : s} {a : α}
    (h : x.run state = (.ok a, next)) (f : α → Act s β) :
    (x >>= f).run state = (f a).run next := by
  rw [run_bind, h]

theorem run_bind_of_error {x : Act s α} {state next : s} {e : Failure}
    (h : x.run state = (.error e, next)) (f : α → Act s β) :
    (x >>= f).run state = (.error e, next) := by
  rw [run_bind, h]

theorem run_bind_eq_ok {x : Act s α} {f : α → Act s β} {state last : s} {b : β} :
    (x >>= f).run state = (.ok b, last) ↔
      ∃ a next, x.run state = (.ok a, next) ∧ (f a).run next = (.ok b, last) := by
  constructor
  · intro h
    rcases hx : x.run state with ⟨r, next⟩
    cases r with
    | ok a => exact ⟨a, next, rfl, by rwa [run_bind_of_ok hx] at h⟩
    | error e =>
      rw [run_bind_of_error hx] at h
      cases h
  · rintro ⟨a, next, hx, hf⟩
    rw [run_bind_of_ok hx, hf]

theorem ofOutcome_bind_eq_ok {r : Outcome α} {f : α → Act s β} {state last : s} {b : β} :
    (ofOutcome r >>= f).run state = (.ok b, last) ↔
      ∃ a, r = .ok a ∧ (f a).run state = (.ok b, last) := by
  cases r with
  | ok a => simp [run_bind]
  | error e =>
    constructor
    · intro h
      cases h
    · rintro ⟨a, absurd, -⟩
      cases absurd

theorem ofDriver_bind_eq_ok {r : Except DriverError α} {f : α → Act s β} {state last : s} {b : β} :
    (ofDriver r >>= f).run state = (.ok b, last) ↔
      ∃ a, r = .ok a ∧ (f a).run state = (.ok b, last) := by
  cases r <;> exact ofOutcome_bind_eq_ok.trans (by simp)

/-- However `x` ends from `state`, its outcome and the state reached satisfy `Q`. -/
def Ends (x : Act s α) (state : s) (Q : Outcome α → s → Prop) : Prop :=
  Q (x.run state).1 (x.run state).2

namespace Ends

variable {x : Act s α} {f : α → Act s β} {state : s} {Q : Outcome β → s → Prop}

theorem bind (ok : ∀ a next, x.run state = (.ok a, next) → (f a).Ends next Q)
    (error : ∀ e next, x.run state = (.error e, next) → Q (.error e) next) :
    (x >>= f).Ends state Q := by
  unfold Ends
  rcases hx : x.run state with ⟨r, next⟩
  cases r with
  | ok a =>
    rw [run_bind_of_ok hx]
    exact ok a next hx
  | error e =>
    rw [run_bind_of_error hx]
    exact error e next hx

theorem bind_ok {a : α} {t : s} (h : x.run state = (.ok a, t)) (rest : (f a).Ends t Q) :
    (x >>= f).Ends state Q := by
  unfold Ends
  rw [run_bind_of_ok h]
  exact rest

theorem of_run {r : Outcome β} {last : s} {y : Act s β} (h : y.run state = (r, last))
    (post : Q r last) : y.Ends state Q := by
  unfold Ends
  rw [h]
  exact post

theorem bind_error {e : Failure} {t : s} (h : x.run state = (.error e, t)) (post : Q (.error e) t) :
    (x >>= f).Ends state Q :=
  of_run (run_bind_of_error h f) post

theorem run_eq {y : Act s β} {r : Outcome β} {last : s} (h : y.Ends state Q)
    (run : y.run state = (r, last)) : Q r last := by
  unfold Ends at h
  rwa [run] at h

theorem imp {y : Act s β} {P : Outcome β → s → Prop} (h : y.Ends state P)
    (weaker : ∀ r last, P r last → Q r last) : y.Ends state Q :=
  weaker _ _ h

theorem bind_trans {R : s → s → Prop} (trans : ∀ {a b c}, R a b → R b c → R a c)
    (hx : ∀ t, x.Ends t fun _ last => R t last)
    (hf : ∀ a t, (f a).Ends t fun _ last => R t last) (t : s) :
    (x >>= f).Ends t fun _ last => R t last := by
  apply bind
  · intro a next run
    have first : R t next := (hx t).run_eq run
    exact (hf a next).imp fun _ _ second => trans first second
  · intro e next run
    exact (hx t).run_eq run

end Ends

end ProofDriver.Act

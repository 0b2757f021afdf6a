import ProofDriver.Failure
/-!
# Outcomes

When a sequence of checks succeeds and how it fails, and the same for errors that are passed on as
failures of the driver or as faults.
-/

namespace Except

variable {ε α β : Type} {x : Except ε α} {f : α → Except ε β}

@[simp] theorem ok_bind (a : α) (f : α → Except ε β) : (.ok a >>= f) = f a := rfl

theorem bind_eq_ok {b : β} : (x >>= f) = .ok b ↔ ∃ a, x = .ok a ∧ f a = .ok b := by
  cases x with
  | ok a =>
    constructor
    · exact fun h => ⟨a, rfl, h⟩
    · rintro ⟨a', same, h⟩
      cases same
      exact h
  | error e =>
    constructor
    · intro h
      cases h
    · rintro ⟨a', absurd, -⟩
      cases absurd

theorem bind_errors {P : ε → Prop} (hx : ∀ e, x = .error e → P e)
    (hf : ∀ a, x = .ok a → ∀ e, f a = .error e → P e) : ∀ e, (x >>= f) = .error e → P e := by
  intro e h
  cases x with
  | ok a => exact hf a rfl e h
  | error e' =>
    cases h
    exact hx e rfl

theorem exists_of_any {test : α → Bool} (passes : x.toOption.any test = true) :
    ∃ a, x = .ok a ∧ test a = true := by
  cases x with
  | ok a => exact ⟨a, rfl, passes⟩
  | error e => cases passes

end Except

namespace ProofDriver

variable {α : Type} {a : α} {e : Failure}

@[simp] theorem DriverError.lift_ok : DriverError.lift (.ok a) = .ok a := rfl

@[simp] theorem DriverError.lift_error (e : DriverError) :
    DriverError.lift (.error e : Except DriverError α) = .error (.driver e) := rfl

theorem DriverError.lift_eq_ok {r : Except DriverError α} : lift r = .ok a ↔ r = .ok a := by
  cases r <;> simp

theorem DriverError.ok_of_lift {r : Except DriverError α} (h : lift r = .ok a) : r = .ok a :=
  lift_eq_ok.mp h

theorem DriverError.error_of_lift {r : Except DriverError α} (h : lift r = .error e) :
    ∃ d, e = .driver d ∧ r = .error d := by
  cases r with
  | ok b => cases h
  | error d =>
    cases h
    exact ⟨d, rfl, rfl⟩

@[simp] theorem Fault.lift_ok : Fault.lift (.ok a) = .ok a := rfl

theorem Fault.ok_of_lift {r : Except Fault α} (h : lift r = .ok a) : r = .ok a := by
  cases r with
  | ok b =>
    cases h
    rfl
  | error f => cases h

@[simp] theorem Fault.lift_error (f : Fault) :
    Fault.lift (.error f : Except Fault α) = .error (.fault f) := rfl

def Failure.Within (categories : List Category) (e : Failure) : Prop :=
  ∃ d, e = .driver d ∧ d.category ∈ categories

theorem Failure.Within.mono {some more : List Category} {e : Failure} (h : e.Within some)
    (subset : some ⊆ more) : e.Within more := by
  obtain ⟨d, driver, mem⟩ := h
  exact ⟨d, driver, subset mem⟩

theorem Failure.Within.ne {c c' : Category} {e : Failure} (h : e.Within [c]) (other : c ≠ c') :
    ¬ e.Within [c'] := by
  rintro ⟨d, rfl, mem'⟩
  obtain ⟨_, ⟨⟩, mem⟩ := h
  exact other ((List.mem_singleton.mp mem).symm.trans (List.mem_singleton.mp mem'))

theorem Failure.within_of_ok {categories : List Category} {a : α} :
    ∀ e, (.ok a : Outcome α) = .error e → e.Within categories := by
  intro e failed
  cases failed

theorem Failure.within_of_error {categories : List Category} {e : Failure}
    (h : e.Within categories) :
    ∀ e', (.error e : Outcome α) = .error e' → e'.Within categories := by
  rintro _ ⟨⟩
  exact h

theorem Category.within_error (c : Category) (text : String) :
    (Failure.driver (c.error text)).Within [c] :=
  ⟨_, rfl, List.mem_singleton_self c⟩

theorem Category.within_about (c : Category) {v : Value} (text : String → String)
    (showable : v.isShowable = true) : (c.about v text).Within [c] := by
  rw [Category.about, if_pos showable]
  exact c.within_error _

theorem Category.about_of_hidden (c : Category) {v : Value} (text : String → String)
    (hidden : v.isShowable = false) : c.about v text = .fault .integerTooLong := by
  rw [Category.about, hidden]
  rfl

theorem DriverError.within_lift {c : Category} {r : Except DriverError α}
    (h : ∀ e, r = .error e → e.category = c) : ∀ e, lift r = .error e → e.Within [c] := by
  intro e failed
  cases r with
  | ok a => cases failed
  | error d =>
    cases failed
    exact ⟨d, rfl, List.mem_singleton.mpr (h d rfl)⟩

end ProofDriver

import ProofDriver.Value
import Mathlib.Data.Nat.Digits.Defs
/-!
# Values that messages can show

A value is shown with all its parts, so every integer in it must be short. How deep its lists and
objects lie within each other is no part of a message's text, but showing goes down one level after
the other and comes to an end of its own where there are too many.
-/

namespace ProofDriver

theorem Numeral.isShort_iff_lt {n : Int} :
    isShort n = true ↔ n.natAbs < 10 ^ digitLimit :=
  isShort_iff.trans (Nat.length_toDigits_le_iff (by decide) (by decide))

theorem Numeral.isShort_of_small {n : Int} (small : n.natAbs < 10 ^ 20) : isShort n = true :=
  isShort_iff_lt.mpr (Nat.lt_of_lt_of_le small (Nat.pow_le_pow_right (by decide) (by decide)))

theorem Numeral.not_word_of_long {n : Int} (long : isShort n = false) :
    ¬ (0 ≤ n ∧ n < UInt32.size) := by
  rintro ⟨low, high⟩
  have size : (UInt32.size : Int) = 4294967296 := rfl
  exact Bool.eq_false_iff.mp long (isShort_of_small (by omega))

/-- The least integer of too many digits. -/
@[irreducible]
def Numeral.leastLong : Int :=
  ((10 ^ digitLimit : Nat) : Int)

theorem Numeral.isShort_leastLong : isShort leastLong = false := by
  rw [Bool.eq_false_iff, ne_eq, isShort_iff_lt, leastLong, Int.natAbs_natCast]
  exact Nat.lt_irrefl _

namespace Value

theorem itemsShowable_iff {items : List Value} :
    itemsShowable items = true ↔ ∀ v ∈ items, v.isShowable = true := by
  induction items with
  | nil => simp [itemsShowable]
  | cons v rest ih => simp [itemsShowable, ih]

theorem fieldsShowable_iff {fields : Fields} :
    fieldsShowable fields = true ↔ ∀ f ∈ fields, f.2.isShowable = true := by
  induction fields with
  | nil => simp [fieldsShowable]
  | cons f rest ih => simp [fieldsShowable, ih]

theorem isShowable_list {items : List Value} :
    (list items).isShowable = true ↔ ∀ v ∈ items, v.isShowable = true := by
  rw [isShowable, itemsShowable_iff]

theorem isShowable_object {fields : Fields} :
    (object fields).isShowable = true ↔ ∀ f ∈ fields, f.2.isShowable = true := by
  rw [isShowable, fieldsShowable_iff]

theorem isShowable_get? {fields : Fields} (showable : (object fields).isShowable = true)
    {name : CodeString} {v : Value} (found : fields.get? name = some v) : v.isShowable = true := by
  obtain ⟨before, after, rfl, -⟩ := List.lookup_eq_some_iff.mp found
  exact isShowable_object.mp showable (name, v) (by simp)

theorem isShowable_put (name : CodeString) {fields : Fields} {v : Value}
    (showable : ∀ f ∈ fields, f.2.isShowable = true) (short : v.isShowable = true) :
    ∀ f ∈ fields.put name v, f.2.isShowable = true := by
  induction fields with
  | nil => simpa [Fields.put] using short
  | cons field rest ih =>
    obtain ⟨first, others⟩ := List.forall_mem_cons.mp showable
    unfold Fields.put
    split
    · exact List.forall_mem_cons.mpr ⟨short, others⟩
    · exact List.forall_mem_cons.mpr ⟨first, ih others⟩

mutual

/-- How many lists and objects lie within each other. -/
def depth : Value → Nat
  | list items => itemsDepth items + 1
  | object fields => fieldsDepth fields + 1
  | _ => 0

def itemsDepth : List Value → Nat
  | [] => 0
  | v :: rest => max v.depth (itemsDepth rest)

def fieldsDepth : List (CodeString × Value) → Nat
  | [] => 0
  | (_, v) :: rest => max v.depth (fieldsDepth rest)

end

/-- As deep as a value may be to be shown wherever a message is made: half of the thousand calls that
there is room for in all, the rest left to those that lead there. -/
def roomToShow : Nat := 500

/-- Messages can show the value, wherever they are made. -/
structure Legible (v : Value) : Prop where
  showable : v.isShowable = true
  shallow : v.depth ≤ roomToShow

instance (v : Value) : Decidable v.Legible :=
  decidable_of_iff (v.isShowable = true ∧ v.depth ≤ roomToShow)
    ⟨fun ⟨showable, shallow⟩ => ⟨showable, shallow⟩, fun h => ⟨h.showable, h.shallow⟩⟩

def tooLong : Value :=
  .int Numeral.leastLong

theorem isShowable_tooLong : tooLong.isShowable = false :=
  Numeral.isShort_leastLong

end Value

end ProofDriver

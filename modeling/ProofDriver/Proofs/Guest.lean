import Mathlib.Data.Nat.Fib.Basic
import ProofDriver.Guest
import ProofDriver.Proofs.Bytes
import ProofDriver.Proofs.Outcome
import ProofDriver.Proofs.Value
/-!
# What the guest computes

The pair at an index is two Fibonacci numbers in words of 32 bits: the recurrence steps to them, and
doubling reaches the same pair because it is a law of the numbers themselves. Words that wrap stand
for integers that are cut at each step, so the same holds of the loop over the binary digits of an
index (`byDigits`), whose difference may be negative before it is cut.
-/

namespace ProofDriver

namespace Guest

/-- The Fibonacci numbers at an index and after it, in words that wrap. -/
def pairAt (n : Nat) : UInt32 × UInt32 :=
  (UInt32.ofNat (Nat.fib n), UInt32.ofNat (Nat.fib (n + 1)))

theorem step_pairAt (n : Nat) : step (pairAt n) = pairAt (n + 1) := by
  have next : Nat.fib (n + 1 + 1) = Nat.fib n + Nat.fib (n + 1) := Nat.fib_add_two
  simp only [step, pairAt, next, UInt32.ofNat_add]

theorem double_pairAt (n : Nat) : double (pairAt n) = pairAt (2 * n) := by
  have below : Nat.fib n ≤ 2 * Nat.fib (n + 1) := by
    have : Nat.fib n ≤ Nat.fib (n + 1) := Nat.fib_le_fib_succ
    omega
  have even : Nat.fib (2 * n) = Nat.fib n * (2 * Nat.fib (n + 1) - Nat.fib n) := Nat.fib_two_mul n
  have odd : Nat.fib (2 * n + 1) = Nat.fib n * Nat.fib n + Nat.fib (n + 1) * Nat.fib (n + 1) := by
    rw [Nat.fib_two_mul_add_one]
    ring
  simp only [double, pairAt, even, odd, UInt32.ofNat_add, UInt32.ofNat_mul,
    UInt32.ofNat_sub below]
  rfl

theorem recurrence_eq_pairAt (n : Nat) : recurrence n = pairAt n := by
  induction n with
  | zero => rfl
  | succ n ih => rw [recurrence, ih, step_pairAt]

theorem fibonacci_eq_pairAt (n : Nat) : fibonacci n = pairAt n := by
  induction n using fibonacci.induct with
  | case1 =>
    rw [fibonacci]
    rfl
  | case2 n positive odd ih =>
    have whole : 2 * (n / 2) + 1 = n := by omega
    rw [fibonacci, if_neg positive, if_pos odd, ih, double_pairAt, step_pairAt, whole]
  | case3 n positive even ih =>
    have whole : 2 * (n / 2) = n := by omega
    rw [fibonacci, if_neg positive, if_neg even, ih, double_pairAt, whole]

theorem shards_eq (c : Int) : shards c = max 1 (-(-c / shardCapacity)) := by
  have capacity : 0 ≤ shardCapacity := by decide
  rw [shards, Int.fdiv_eq_ediv_of_nonneg _ capacity]

theorem shards_cycles (n : UInt32) :
    1 ≤ shards (cycles n.toNat) ∧ shards (cycles n.toNat) ≤ 8193 := by
  have small : n.toNat < 4294967296 := n.toNat_lt
  simp only [shards_eq, cycles, shardCapacity]
  omega

theorem shards_eq_iff {c : Int} (positive : 0 < c) (k : Int) :
    shards c = k ↔ 1 ≤ k ∧ (k - 1) * shardCapacity < c ∧ c ≤ k * shardCapacity := by
  simp only [shards_eq, shardCapacity]
  omega

/-! ## In integers -/

def wordSize : Int := 4294967296

def integers (pair : UInt32 × UInt32) : Int × Int :=
  (pair.1.toNat, pair.2.toNat)

def stepInt (pair : Int × Int) : Int × Int :=
  (pair.2, (pair.1 + pair.2) % wordSize)

/-- The pair is doubled for a digit of the index, and stepped once more for a one. The difference is
cut before it is multiplied, since it may be negative; the squares are added before they are cut. -/
def digitStep (pair : Int × Int) (digit : Char) : Int × Int :=
  let c := pair.1 * ((2 * pair.2 - pair.1) % wordSize) % wordSize
  let d := (pair.1 * pair.1 + pair.2 * pair.2) % wordSize
  if digit = '1' then (d, (c + d) % wordSize) else (c, d)

def byDigits (n : Nat) : Int × Int :=
  (Nat.toDigits 2 n).foldl digitStep (0, 1)

theorem integers_step (pair : UInt32 × UInt32) :
    integers (step pair) = stepInt (integers pair) := by
  simp [integers, step, stepInt, wordSize, UInt32.toNat_add]

theorem toNat_sub_eq_emod (a b : UInt32) :
    ((a - b).toNat : Int) = (a.toNat - b.toNat) % wordSize := by
  have small : b.toNat < 4294967296 := b.toNat_lt
  rw [UInt32.toNat_sub, wordSize]
  omega

theorem integers_double (pair : UInt32 × UInt32) (digit : Char) :
    digitStep (integers pair) digit =
      integers (if digit = '1' then step (double pair) else double pair) := by
  obtain ⟨a, b⟩ := pair
  have difference : ((2 * b - a).toNat : Int) = (2 * b.toNat - a.toNat) % wordSize := by
    rw [toNat_sub_eq_emod, UInt32.toNat_mul]
    change ((2 * b.toNat % 4294967296 : Nat) - (a.toNat : Int)) % wordSize = _
    rw [wordSize]
    omega
  have product : ((a * (2 * b - a)).toNat : Int) =
      a.toNat * ((2 * b.toNat - a.toNat) % wordSize) % wordSize := by
    rw [UInt32.toNat_mul, ← difference]
    rfl
  have squares : ((a * a + b * b).toNat : Int) =
      (a.toNat * a.toNat + b.toNat * b.toNat) % wordSize := by
    rw [UInt32.toNat_add, UInt32.toNat_mul, UInt32.toNat_mul, ← Nat.add_mod]
    rfl
  by_cases one : digit = '1'
  · rw [if_pos one, integers_step]
    simp only [digitStep, one, if_true, stepInt, integers, double, product, squares]
  · simp only [digitStep, if_neg one, integers, double, product, squares]

theorem byDigits_half {n : Nat} (positive : n ≠ 0) :
    byDigits n = digitStep (byDigits (n / 2)) (Nat.digitChar (n % 2)) := by
  unfold byDigits
  rw [Nat.toDigits_eq_if (n := n) (by decide)]
  split
  · obtain rfl : n = 1 := by omega
    rfl
  · rw [List.foldl_append]
    rfl

theorem byDigits_eq_integers (n : Nat) : byDigits n = integers (fibonacci n) := by
  induction n using fibonacci.induct with
  | case1 =>
    rw [fibonacci]
    rfl
  | case2 n positive odd ih =>
    rw [byDigits_half positive, ih, integers_double, fibonacci.eq_def n, if_neg positive, odd]
    rfl
  | case3 n positive even ih =>
    have last : n % 2 = 0 := by omega
    rw [byDigits_half positive, ih, integers_double, fibonacci.eq_def n, if_neg positive, last]
    rfl

theorem integers_fibonacci_eq_iterate (n : Nat) :
    integers (fibonacci n) = stepInt^[n] (0, 1) := by
  rw [fibonacci_eq_pairAt, ← recurrence_eq_pairAt]
  induction n with
  | zero => rfl
  | succ n ih => rw [recurrence, integers_step, ih, Function.iterate_succ_apply']

theorem integers_fibonacci_eq_fib (n : Nat) :
    integers (fibonacci n) = ((Nat.fib n : Int) % 2 ^ 32, (Nat.fib (n + 1) : Int) % 2 ^ 32) := by
  simp [fibonacci_eq_pairAt, integers, pairAt]

/-- What doubling reaches is what the recurrence steps to, the Fibonacci numbers cut to words, and
it is reached in integers along the binary digits of the index. -/
theorem fibonacci_computes_recurrence (n : Nat) :
    byDigits n = integers (fibonacci n) ∧
      integers (fibonacci n) = stepInt^[n] (0, 1) ∧
      integers (fibonacci n) = ((Nat.fib n : Int) % 2 ^ 32, (Nat.fib (n + 1) : Int) % 2 ^ 32) ∧
      (0 ≤ (integers (fibonacci n)).1 ∧ (integers (fibonacci n)).1 ≤ 2 ^ 32 - 1) ∧
      (0 ≤ (integers (fibonacci n)).2 ∧ (integers (fibonacci n)).2 ≤ 2 ^ 32 - 1) := by
  have first : (fibonacci n).1.toNat < 4294967296 := (fibonacci n).1.toNat_lt
  have second : (fibonacci n).2.toNat < 4294967296 := (fibonacci n).2.toNat_lt
  refine ⟨byDigits_eq_integers n, integers_fibonacci_eq_iterate n, integers_fibonacci_eq_fib n,
    ?_, ?_⟩
  · rw [integers]
    omega
  · rw [integers]
    omega

example : byDigits 48 = (512559680, 3483774753) := by decide

end Guest

namespace GuestInput

theorem parse_ofIndex (n : UInt32) : parse (ofIndex n).buffer = .ok n := by
  have fits : n.toNat < 256 ^ 4 := n.toNat_lt
  have length : (ofIndex n).buffer.length = 4 := Bytes.length_littleEndian 4 n.toNat
  rw [parse, if_pos length, ofIndex, Bytes.ofLittleEndian_littleEndian_of_lt fits,
    UInt32.ofNat_toNat]

theorem ofValue_toNat (n : UInt32) : ofValue (.int n.toNat) = .ok (ofIndex n) := by
  have small : n.toNat < UInt32.size := n.toNat_lt
  have bounds : (0 : Int) ≤ n.toNat ∧ (n.toNat : Int) < UInt32.size := by omega
  rw [ofValue, if_pos bounds, Int.toNat_natCast, UInt32.ofNat_toNat]

/-- A refusal can name the index: only an integer is written out there. -/
def Nameable (n : Value) : Prop :=
  ∀ i, n = .int i → Numeral.isShort i = true

theorem within_of_ofValue {n : Value} {e : Failure} (nameable : Nameable n)
    (h : ofValue n = .error e) : e.Within [.invalidInput] := by
  unfold ofValue at h
  split at h
  · split at h <;> cases h
    exact Category.within_about _ _ (nameable _ rfl)
  · cases h
    exact Category.within_error _ _

theorem ofValue_of_not_nameable {n : Value} (unnameable : ¬ Nameable n) :
    ofValue n = .error (.fault .integerTooLong) := by
  unfold Nameable at unnameable
  push Not at unnameable
  obtain ⟨i, rfl, long⟩ := unnameable
  rw [ne_eq, Bool.not_eq_true] at long
  have hidden : (Value.int i).isShowable = false := long
  rw [ofValue, if_neg (Numeral.not_word_of_long long), Category.about_of_hidden _ _ hidden]

end GuestInput

end ProofDriver

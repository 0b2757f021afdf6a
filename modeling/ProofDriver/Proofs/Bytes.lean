import Mathlib.Algebra.Group.Nat.Defs
import ProofDriver.Bytes
/-!
# Reading numbers back

A word of a given width holds a number up to the power of 256 that the width stands for, in either
byte order. A wider word is a narrower one behind the digits that are too high for it.
-/

namespace ProofDriver.Bytes

theorem ofLittleEndian_littleEndian (width n : Nat) :
    ofLittleEndian (littleEndian width n) = n % 256 ^ width := by
  induction width generalizing n with
  | zero => simp [littleEndian, ofLittleEndian, Nat.mod_one]
  | succ width ih =>
    have split : n % (256 * 256 ^ width) = n % 256 + 256 * (n / 256 % 256 ^ width) := Nat.mod_mul
    rw [Nat.pow_succ, Nat.mul_comm, split, ← ih (n / 256)]
    simp [littleEndian, ofLittleEndian]

theorem ofBigEndian_reverse (bytes : Bytes) : ofBigEndian bytes.reverse = ofLittleEndian bytes := by
  rw [ofBigEndian, ofLittleEndian, List.foldl_reverse]
  congr 1
  funext b n
  omega

theorem ofBigEndian_bigEndian (width n : Nat) :
    ofBigEndian (bigEndian width n) = n % 256 ^ width := by
  rw [bigEndian, ofBigEndian_reverse, ofLittleEndian_littleEndian]

theorem ofLittleEndian_littleEndian_of_lt {width n : Nat} (h : n < 256 ^ width) :
    ofLittleEndian (littleEndian width n) = n := by
  rw [ofLittleEndian_littleEndian, Nat.mod_eq_of_lt h]

theorem ofBigEndian_bigEndian_of_lt {width n : Nat} (h : n < 256 ^ width) :
    ofBigEndian (bigEndian width n) = n := by
  rw [ofBigEndian_bigEndian, Nat.mod_eq_of_lt h]

theorem littleEndian_ofLittleEndian (bytes : Bytes) :
    littleEndian bytes.length (ofLittleEndian bytes) = bytes := by
  induction bytes with
  | nil => rfl
  | cons b bytes ih =>
    have value : ofLittleEndian (b :: bytes) = b.toNat + 256 * ofLittleEndian bytes := rfl
    have fits : b.toNat < 256 := b.toNat_lt
    have low : UInt8.ofNat (b.toNat + 256 * ofLittleEndian bytes) = b := by
      rw [← UInt8.toNat_inj, UInt8.toNat_ofNat']
      omega
    have high : (b.toNat + 256 * ofLittleEndian bytes) / 256 = ofLittleEndian bytes := by omega
    rw [List.length_cons, value, littleEndian, low, high, ih]

theorem bigEndian_ofBigEndian (bytes : Bytes) :
    bigEndian bytes.length (ofBigEndian bytes) = bytes := by
  have value := ofBigEndian_reverse bytes.reverse
  rw [List.reverse_reverse] at value
  rw [value, bigEndian, ← List.length_reverse, littleEndian_ofLittleEndian, List.reverse_reverse]

theorem ofBigEndian_lt (bytes : Bytes) : ofBigEndian bytes < 256 ^ bytes.length := by
  have value := ofBigEndian_bigEndian bytes.length (ofBigEndian bytes)
  rw [bigEndian_ofBigEndian] at value
  rw [value]
  exact Nat.mod_lt _ (Nat.pow_pos (by decide))

theorem bigEndian_inj {width m n : Nat} (hm : m < 256 ^ width) (hn : n < 256 ^ width)
    (same : bigEndian width m = bigEndian width n) : m = n := by
  have values := congrArg ofBigEndian same
  rwa [ofBigEndian_bigEndian_of_lt hm, ofBigEndian_bigEndian_of_lt hn] at values

theorem bigEndian?_of_lt {width n : Nat} (h : n < 256 ^ width) :
    bigEndian? width n = some (bigEndian width n) :=
  if_pos h

theorem littleEndian_zero (width : Nat) : littleEndian width 0 = List.replicate width 0 := by
  induction width with
  | zero => rfl
  | succ width ih =>
    rw [littleEndian, Nat.zero_div, ih]
    rfl

theorem littleEndian_add (low high n : Nat) :
    littleEndian (low + high) n = littleEndian low n ++ littleEndian high (n / 256 ^ low) := by
  induction low generalizing n with
  | zero => simp [littleEndian]
  | succ low ih =>
    have shift : n / 256 ^ (low + 1) = n / 256 / 256 ^ low := by
      rw [Nat.pow_succ, Nat.mul_comm, Nat.div_div_eq_div_mul]
    rw [Nat.add_right_comm, littleEndian, ih, littleEndian, shift]
    rfl

theorem bigEndian_add_of_lt {low n : Nat} (high : Nat) (h : n < 256 ^ low) :
    bigEndian (low + high) n = List.replicate high 0 ++ bigEndian low n := by
  rw [bigEndian, littleEndian_add, Nat.div_eq_of_lt h, littleEndian_zero, List.reverse_append,
    List.reverse_replicate]
  rfl

end ProofDriver.Bytes

import ProofDriver.Hex
import ProofDriver.Proofs.Text.Ascii
/-!
# Reading back hexadecimal texts

What is written for a byte string is read as that byte string: the digits are lower case letters
and digits of the ASCII range, so neither trimming nor lowering changes them. A text that is read
need not be of this kind, but it holds no lone surrogate.
-/

namespace ProofDriver

theorem CodeString.ofString_toString {s : CodeString} (whole : '\ufffd' ∉ s.toString.toList) :
    ofString s.toString = s := by
  have chars : ∀ p ∈ s.points, CodePoint.char p.toChar = p := by
    intro p hp
    cases p with
    | char c => rfl
    | surrogate i =>
      refine absurd ?_ whole
      rw [toString, String.toList_ofList]
      exact List.mem_map_of_mem (f := CodePoint.toChar) hp
  cases s with
  | mk points =>
    rw [ofString, toString, String.toList_ofList, List.map_map]
    exact congrArg mk ((List.map_congr_left chars).trans (List.map_id' _))

namespace Hex

open Text (IsSmall)

theorem digitValue?_digit (n : Nat) : digitValue? (digit n) = some (n % 16) := by
  have small : ∀ k < 16, digitValue? (Nat.digitChar k) = some k := by decide
  exact small _ (Nat.mod_lt n (by decide))

theorem isSmall_digit (n : Nat) : IsSmall (digit n) := by
  have small : ∀ k < 16, (Nat.digitChar k).toNat < 0x80 ∧
      (Nat.digitChar k).toLower = Nat.digitChar k := by decide
  exact small _ (Nat.mod_lt n (by decide))

theorem isBlank_digit (n : Nat) : Text.isBlank (digit n) = false := by
  have small : ∀ k < 16, Text.isBlank (Nat.digitChar k) = false := by decide
  exact small _ (Nat.mod_lt n (by decide))

theorem isAsciiBlank_digit (n : Nat) : Text.isAsciiBlank (digit n) = false := by
  have small : ∀ k < 16, Text.isAsciiBlank (Nat.digitChar k) = false := by decide
  exact small _ (Nat.mod_lt n (by decide))

theorem ofNat_pair (b : UInt8) :
    UInt8.ofNat (16 * (b.toNat / 16 % 16) + b.toNat % 16) = b := by
  have small : b.toNat < 256 := b.toNat_lt
  have split : 16 * (b.toNat / 16 % 16) + b.toNat % 16 = b.toNat := by omega
  rw [split, UInt8.ofNat_toNat]

theorem exists_digit_of_mem {data : Bytes} {c : Char} (h : c ∈ data.flatMap pair) :
    ∃ n, c = digit n := by
  obtain ⟨b, -, hc⟩ := List.mem_flatMap.mp h
  simp only [pair, List.mem_cons, List.not_mem_nil, or_false] at hc
  rcases hc with rfl | rfl
  · exact ⟨_, rfl⟩
  · exact ⟨_, rfl⟩

theorem decodePairs_pair (b : UInt8) (position : Nat) (done : Bytes) (cs : List Char) :
    decodePairs position done (pair b ++ cs) = decodePairs (position + 2) (b :: done) cs := by
  rw [pair, List.cons_append, List.cons_append, List.nil_append, decodePairs]
  simp only [isAsciiBlank_digit, digitValue?_digit, Bool.false_eq_true, if_false]
  rw [ofNat_pair]

theorem decodePairs_pairs (position : Nat) (done data : Bytes) :
    decodePairs position done (data.flatMap pair) = .ok (done.reverse ++ data) := by
  induction data generalizing position done with
  | nil => simp [decodePairs]
  | cons b rest ih =>
    rw [List.flatMap_cons, decodePairs_pair, ih, List.reverse_cons, List.append_assoc,
      List.singleton_append]

theorem decodeDigits_pairs (data : Bytes) : decodeDigits (data.flatMap pair) = .ok data := by
  have ascii : (data.flatMap pair).findIdx? (0x80 ≤ ·.toNat) = none := by
    rw [List.findIdx?_eq_none_iff]
    intro c hc
    obtain ⟨n, rfl⟩ := exists_digit_of_mem hc
    simpa using (isSmall_digit n).1
  rw [decodeDigits, ascii]
  exact decodePairs_pairs 0 [] data

theorem forall_mem_encode {P : Char → Prop} (zero : P '0') (mark : P 'x')
    (digits : ∀ n, P (digit n)) (data : Bytes) : ∀ c ∈ (encode data).toList, P c := by
  intro c mem
  rw [encode, String.toList_ofList, List.mem_cons, List.mem_cons] at mem
  rcases mem with rfl | rfl | mem
  · exact zero
  · exact mark
  · obtain ⟨n, rfl⟩ := exists_digit_of_mem mem
    exact digits n

theorem isBlank_of_mem_encode (data : Bytes) :
    ∀ c ∈ (encode data).toList, Text.isBlank c = false :=
  forall_mem_encode (by decide) (by decide) isBlank_digit data

theorem lowerList_encode (data : Bytes) :
    Text.lowerList (encode data).toList = (encode data).toList :=
  Text.lowerList_of_small
    (forall_mem_encode ⟨by decide, by decide⟩ ⟨by decide, by decide⟩ isSmall_digit data)

@[simp] theorem decode_encode (data : Bytes) : decode (encode data) = .ok data := by
  rw [decode, CodeString.toString_ofString, Text.trim_of_forall_not_blank
    (isBlank_of_mem_encode data), lowerList_encode, encode, String.toList_ofList]
  exact decodeDigits_pairs data

/-! ## What is taken -/

theorem mem_dropMark {c : Char} {cs : List Char} (zero : c ≠ '0') (mark : c ≠ 'x') (mem : c ∈ cs) :
    c ∈ dropMark cs := by
  unfold dropMark
  split
  · simpa [zero, mark] using mem
  · exact mem

theorem ascii_of_decodeDigits {cs : List Char} {data : Bytes} (h : decodeDigits cs = .ok data) :
    ∀ c ∈ cs, c.toNat < 0x80 := by
  unfold decodeDigits at h
  split at h
  · cases h
  · rename_i ascii
    simpa using List.findIdx?_eq_none_iff.mp ascii

theorem ofString_toString_of_decode {s : CodeString} {data : Bytes} (h : decode s = .ok data) :
    CodeString.ofString s.toString = s := by
  refine CodeString.ofString_toString fun mem => ?_
  have blank : Text.isBlank '\ufffd' = false := by decide
  have lower : Text.lowerChar '\ufffd' = ['\ufffd'] := by decide
  have kept := mem_dropMark (by decide) (by decide)
    (Text.mem_lowerList (by decide) lower (Text.mem_trim blank mem))
  exact absurd (ascii_of_decodeDigits h _ kept) (by decide)

end Hex

end ProofDriver

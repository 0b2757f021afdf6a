import ProofDriver.Proofs.Hex
import ProofDriver.Failure
/-!
# Which texts are hexadecimal

The texts that are read are those of a grammar of digit pairs (`Hex.Written`), and each byte string
is read from just one text in lower case without blanks, the one that is written for it.
-/

namespace ProofDriver.Hex

/-- Digit pairs in lower case, with blanks before, between and after them but none inside a pair, and
the bytes that the pairs stand for. -/
inductive Written : List Char → Bytes → Prop
  | nil : Written [] []
  | blank {c : Char} {cs : List Char} {data : Bytes} :
      Text.isAsciiBlank c = true → Written cs data → Written (c :: cs) data
  | pair (b : UInt8) {cs : List Char} {data : Bytes} :
      Written cs data → Written (pair b ++ cs) (b :: data)

/-- The text stands for the bytes: without the blanks at its ends, in lower case and without the
mark that it may begin with, it is digit pairs. -/
def Denotes (t : String) (data : Bytes) : Prop :=
  ∃ rest, Written rest data ∧
    ((Text.lower (Text.strip t)).toList = '0' :: 'x' :: rest ∨
      (Text.lower (Text.strip t)).toList = rest)

/-- The text is in lower case, begins with the mark and has no blanks. -/
structure Canonical (t : CodeString) : Prop where
  lower : Text.lower t.toString = t.toString
  marked : ['0', 'x'] <+: t.toString.toList
  unbroken : ∀ c ∈ t.toString.toList, Text.isBlank c = false

variable {cs : List Char} {data : Bytes}

/-! ## Reading pairs -/

theorem decodePairs_blank {c : Char} (blank : Text.isAsciiBlank c = true) (position : Nat)
    (done : Bytes) (cs : List Char) :
    decodePairs position done (c :: cs) = decodePairs (position + 1) done cs := by
  cases cs with
  | nil => simp [decodePairs, blank]
  | cons d rest => rw [decodePairs, if_pos blank]

theorem decodePairs_of_written (h : Written cs data) (position : Nat) (done : Bytes) :
    decodePairs position done cs = .ok (done.reverse ++ data) := by
  induction h generalizing position done with
  | nil => simp [decodePairs]
  | blank blank _ ih => rw [decodePairs_blank blank, ih]
  | pair b _ ih =>
    rw [decodePairs_pair, ih, List.reverse_cons, List.append_assoc, List.singleton_append]

theorem toNat_lt_of_isAsciiBlank {c : Char} (blank : Text.isAsciiBlank c = true) :
    c.toNat < 0x80 := by
  simp only [Text.isAsciiBlank, Bool.or_eq_true, Bool.and_eq_true, decide_eq_true_eq,
    beq_iff_eq] at blank
  rcases blank with ⟨-, below⟩ | rfl
  · omega
  · decide

theorem ascii_of_written (h : Written cs data) : ∀ c ∈ cs, c.toNat < 0x80 := by
  induction h with
  | nil => simp
  | blank blank _ ih =>
    intro c mem
    rcases List.mem_cons.mp mem with rfl | mem
    · exact toNat_lt_of_isAsciiBlank blank
    · exact ih c mem
  | pair b _ ih =>
    intro c mem
    rcases List.mem_append.mp mem with mem | mem
    · simp only [pair, List.mem_cons, List.not_mem_nil, or_false] at mem
      rcases mem with rfl | rfl
      · exact (isSmall_digit _).1
      · exact (isSmall_digit _).1
    · exact ih c mem

theorem eq_digit_of_digitValue? {c : Char} {n : Nat} (small : c.isUpper = false)
    (value : digitValue? c = some n) : n < 16 ∧ c = digit n := by
  have ascii : c.toNat < 0x80 := by
    have below {d : Char} (le : c ≤ d) : c.toNat ≤ d.toNat := UInt32.le_iff_toNat_le.mp le
    unfold digitValue? at value
    split at value
    · rename_i range
      exact Nat.lt_of_le_of_lt (below range.2) (by decide)
    · split at value
      · rename_i range
        exact Nat.lt_of_le_of_lt (below range.2) (by decide)
      · split at value
        · rename_i range
          exact Nat.lt_of_le_of_lt (below range.2) (by decide)
        · cases value
  have table : c.isUpper = false →
      (digitValue? c).all (fun n => n < 16 ∧ c = digit n) = true :=
    Text.forall_ascii (P := fun c => c.isUpper = false →
      (digitValue? c).all (fun n => n < 16 ∧ c = digit n) = true) (by decide) ascii
  have here := table small
  rw [value] at here
  simpa using here

theorem pair_of_digitValue? {c d : Char} {high low : Nat} (hc : c.isUpper = false)
    (hd : d.isUpper = false) (first : digitValue? c = some high)
    (second : digitValue? d = some low) : [c, d] = pair (UInt8.ofNat (16 * high + low)) := by
  obtain ⟨highBound, rfl⟩ := eq_digit_of_digitValue? hc first
  obtain ⟨lowBound, rfl⟩ := eq_digit_of_digitValue? hd second
  have value : (UInt8.ofNat (16 * high + low)).toNat = 16 * high + low := by
    rw [UInt8.toNat_ofNat']
    omega
  have top : (16 * high + low) / 16 = high := by omega
  have bottom : digit (16 * high + low) = digit low := by
    rw [digit, digit]
    congr 1
    omega
  rw [pair, value, top, bottom]

theorem written_of_decodePairs {position : Nat} {done : Bytes} (small : ∀ c ∈ cs, c.isUpper = false)
    (h : decodePairs position done cs = .ok data) :
    ∃ rest, data = done.reverse ++ rest ∧ Written cs rest := by
  fun_induction decodePairs position done cs with
  | case1 position done =>
    cases h
    exact ⟨[], by simp, .nil⟩
  | case2 position done c blank =>
    cases h
    exact ⟨[], by simp, .blank blank .nil⟩
  | case3 | case4 => cases h
  | case5 position done c d rest blank ih =>
    obtain ⟨bytes, rfl, written⟩ := ih (fun e he => small e (List.mem_cons_of_mem _ he)) h
    exact ⟨bytes, rfl, .blank blank written⟩
  | case6 | case7 => cases h
  | case8 position done c d rest blank high low second first ih =>
    have both : [c, d] = pair (UInt8.ofNat (16 * high + low)) :=
      pair_of_digitValue? (small c (by simp)) (small d (by simp)) first second
    obtain ⟨bytes, rfl, written⟩ := ih (fun e he => small e (by simp [he])) h
    have longer : Written ([c, d] ++ rest) (UInt8.ofNat (16 * high + low) :: bytes) := by
      rw [both]
      exact .pair _ written
    exact ⟨_, by rw [List.reverse_cons, List.append_assoc, List.singleton_append], longer⟩

theorem decodeDigits_eq_ok (small : ∀ c ∈ cs, c.isUpper = false) :
    decodeDigits cs = .ok data ↔ Written cs data := by
  constructor
  · intro h
    unfold decodeDigits at h
    split at h
    · cases h
    · obtain ⟨rest, rfl, written⟩ := written_of_decodePairs small h
      exact written
  · intro h
    have ascii : cs.findIdx? (0x80 ≤ ·.toNat) = none := by
      rw [List.findIdx?_eq_none_iff]
      intro c mem
      simpa using ascii_of_written h c mem
    rw [decodeDigits, ascii]
    exact decodePairs_of_written h 0 []

theorem not_written_mark : ¬ Written ('0' :: 'x' :: cs) data := by
  intro h
  generalize marked : '0' :: 'x' :: cs = text at h
  cases h with
  | nil => cases marked
  | blank blank _ =>
    cases marked
    exact absurd blank (by decide)
  | pair b _ =>
    obtain ⟨-, second⟩ := List.cons.inj marked
    obtain ⟨letter, -⟩ := List.cons.inj second
    have digits : ∀ k < 16, 'x' ≠ Nat.digitChar k := by decide
    exact digits _ (Nat.mod_lt _ (by decide)) letter

theorem denotes_iff {t : String} :
    Denotes t data ↔ Written (dropMark (Text.lower (Text.strip t)).toList) data := by
  unfold Denotes dropMark
  constructor
  · rintro ⟨rest, written, marked | plain⟩
    · rwa [marked]
    · rw [plain]
      split
      · exact absurd written not_written_mark
      · exact written
  · intro written
    split at written
    · rename_i rest marked
      exact ⟨rest, written, .inl marked⟩
    · exact ⟨_, written, .inr rfl⟩

theorem mem_of_mem_dropMark {c : Char} (mem : c ∈ dropMark cs) : c ∈ cs := by
  unfold dropMark at mem
  split at mem
  · simp [mem]
  · exact mem

theorem decode_ofString {t : String} : decode (.ofString t) = .ok data ↔ Denotes t data := by
  have small : ∀ c ∈ dropMark (Text.lowerList (Text.trim t.toList)), c.isUpper = false :=
    fun c mem => Text.isUpper_of_mem_lowerList (mem_of_mem_dropMark mem)
  rw [decode, CodeString.toString_ofString, decodeDigits_eq_ok small, denotes_iff, Text.lower,
    Text.strip, String.toList_ofList, String.toList_ofList]

/-! ## The text of a byte string -/

theorem isBlank_of_isAsciiBlank {c : Char} (blank : Text.isAsciiBlank c = true) :
    Text.isBlank c = true :=
  Text.forall_ascii (P := fun c => Text.isAsciiBlank c = true → Text.isBlank c = true)
    (by decide) (toNat_lt_of_isAsciiBlank blank) blank

theorem eq_pairs_of_written (h : Written cs data) (unbroken : ∀ c ∈ cs, Text.isBlank c = false) :
    cs = data.flatMap pair := by
  induction h with
  | nil => rfl
  | @blank c _ _ blank _ _ =>
    have here := unbroken c (by simp)
    rw [isBlank_of_isAsciiBlank blank] at here
    cases here
  | pair b _ ih =>
    rw [List.flatMap_cons, ← ih fun c mem => unbroken c (List.mem_append_right _ mem)]

theorem canonical_encode (data : Bytes) : Canonical (encode data) where
  lower := by
    rw [CodeString.toString_ofString, Text.lower, lowerList_encode, String.ofList_toList]
  marked := by
    rw [CodeString.toString_ofString, encode, String.toList_ofList]
    exact ⟨_, rfl⟩
  unbroken := by
    rw [CodeString.toString_ofString]
    exact isBlank_of_mem_encode data

theorem eq_encode_of_canonical {t : CodeString} (canonical : Canonical t)
    (h : decode t = .ok data) : t = encode data := by
  have whole : CodeString.ofString t.toString = t := ofString_toString_of_decode h
  obtain ⟨rest, marked⟩ := canonical.marked
  have denotes : Denotes t.toString data := by
    rwa [← decode_ofString, whole]
  have stripped : Text.strip t.toString = t.toString := by
    rw [Text.strip, Text.trim_of_forall_not_blank canonical.unbroken, String.ofList_toList]
  have written : Written rest data := by
    rwa [denotes_iff, stripped, canonical.lower, ← marked] at denotes
  have pairs : rest = data.flatMap pair :=
    eq_pairs_of_written written fun c mem => canonical.unbroken c (by simp [← marked, mem])
  have text : t.toString = encode data := by
    rw [← String.toList_inj, ← marked, pairs, encode, String.toList_ofList]
    rfl
  rw [← whole, text]

theorem decodeValue_eq_ok_iff {v : Value} :
    decodeValue v = .ok data ↔ ∃ t : String, v = .text t ∧ Denotes t data := by
  constructor
  · intro h
    cases v with
    | text s =>
      have whole : CodeString.ofString s.toString = s := ofString_toString_of_decode h
      have denotes : Denotes s.toString data := by
        rw [← decode_ofString, whole]
        exact h
      exact ⟨s.toString, by rw [whole], denotes⟩
    | _ => cases h
  · rintro ⟨t, rfl, denotes⟩
    exact decode_ofString.mpr denotes

/-- A value is read exactly if it is a text that denotes bytes, and anything else is a fault of the
value. What is written for bytes is read as them, and of all texts that are read as them it is the
one in canonical form. -/
theorem decodeValue_accepts_exactly_pairs (v : Value) :
    (∀ data, decodeValue v = .ok data ↔ ∃ t : String, v = .text t ∧ Denotes t data) ∧
    ((¬ ∃ (t : String) (data : Bytes), v = .text t ∧ Denotes t data) →
      ∃ f, decodeValue v = .error f ∧ (Fault.hex f).kind = .value) ∧
    (∀ data : Bytes, decodeValue (.text (encode data)) = .ok data) ∧
    ∀ (data : Bytes) (t : CodeString),
      Canonical t ∧ decodeValue (.text t) = .ok data ↔ t = encode data := by
  refine ⟨fun data => decodeValue_eq_ok_iff, fun other => ?_, decode_encode, fun data t => ?_⟩
  · cases read : decodeValue v with
    | ok data =>
      obtain ⟨t, text, denotes⟩ := decodeValue_eq_ok_iff.mp read
      exact absurd ⟨t, data, text, denotes⟩ other
    | error f => exact ⟨f, rfl, rfl⟩
  · constructor
    · rintro ⟨canonical, read⟩
      exact eq_encode_of_canonical canonical read
    · rintro rfl
      exact ⟨canonical_encode data, decode_encode data⟩

end ProofDriver.Hex

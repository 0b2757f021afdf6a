import ProofDriver.Proofs.Bytes
import ProofDriver.Proofs.Outcome
import ProofDriver.Proofs.Value
import ProofDriver.PublicValues
/-!
# Public values

Of a codec it is assumed that it writes a number of 32 bits into the last four bytes of a word and
zeros before it, and that it refuses a word with anything else there. Words of that shape are told by
their numbers, so a codec and its reading are inverse to each other.
-/

namespace ProofDriver

namespace PublicValues

def padding (i : Nat) (data : Bytes) : Bytes :=
  (data.drop (32 * i)).take 28

def digits (i : Nat) (data : Bytes) : Bytes :=
  (data.drop (32 * i + 28)).take 4

def number (i : Nat) (data : Bytes) : UInt32 :=
  UInt32.ofNat (Bytes.ofBigEndian (digits i data))

def noPadding : Bytes :=
  List.replicate 28 0

def leftPadded (x : UInt32) : Bytes :=
  noPadding ++ Bytes.bigEndian 4 x.toNat

/-- Three words with nothing but zeros before their numbers. -/
structure Padded (data : Bytes) : Prop where
  length : data.length = 96
  blank : ∀ i < 3, padding i data = noPadding

end PublicValues

open PublicValues in
/-- What the driver relies on in a codec. -/
structure Abi.Lawful (abi : Abi) : Prop where
  encode (x y z : UInt32) :
    abi.encode (x, y, z) = .ok (leftPadded x ++ leftPadded y ++ leftPadded z)
  decode {data : Bytes} : Padded data →
    abi.decode data = .ok (number 0 data, number 1 data, number 2 data)
  refuse {data : Bytes} : data.length = 96 → (∃ i < 3, padding i data ≠ noPadding) →
    ∃ text, abi.decode data = .error text

namespace PublicValues

variable {abi : Abi} {data : Bytes} {values : PublicValues}

/-! ## Words -/

@[simp] theorem length_word (x : UInt32) : (word x).length = 32 := by
  simp [word]

theorem word_eq (x : UInt32) : word x = leftPadded x :=
  Bytes.bigEndian_add_of_lt 28 x.toNat_lt

theorem length_encode (v : PublicValues) : (encode v).length = 96 := by
  simp [encode]

theorem length_digits {i : Nat} (length : data.length = 96) (inside : i < 3) :
    (digits i data).length = 4 := by
  rw [digits, List.length_take, List.length_drop]
  omega

theorem bigEndian_number {i : Nat} (four : (digits i data).length = 4) :
    Bytes.bigEndian 4 (number i data).toNat = digits i data := by
  have fits : Bytes.ofBigEndian (digits i data) < UInt32.size := by
    have bound := Bytes.ofBigEndian_lt (digits i data)
    rwa [four] at bound
  have same := Bytes.bigEndian_ofBigEndian (digits i data)
  rwa [four, ← UInt32.toNat_ofNat_of_lt' fits] at same

theorem drop_eq (i : Nat) (data : Bytes) :
    data.drop (32 * i) = padding i data ++ digits i data ++ data.drop (32 * (i + 1)) := by
  have number : digits i data = ((data.drop (32 * i)).drop 28).take 4 := by
    rw [digits, List.drop_drop]
  have rest : data.drop (32 * (i + 1)) = ((data.drop (32 * i)).drop 28).drop 4 := by
    rw [List.drop_drop, List.drop_drop, Nat.mul_add]
  rw [padding, number, rest, List.append_assoc, List.take_append_drop, List.take_append_drop]

theorem Padded.eq_encode (padded : Padded data) :
    data = encode ⟨number 0 data, number 1 data, number 2 data⟩ := by
  have split {i : Nat} (inside : i < 3) :
      padding i data ++ digits i data = word (number i data) := by
    rw [word_eq, leftPadded, padded.blank i inside,
      bigEndian_number (length_digits padded.length inside)]
  -- Each word is split off in front of those that come after it.
  have nothing : data.drop (32 * 3) = [] := List.drop_eq_nil_of_le padded.length.le
  calc data
    _ = data.drop (32 * 0) := rfl
    _ = word (number 0 data) ++ (word (number 1 data) ++ (word (number 2 data) ++ [])) := by
      rw [drop_eq 0, drop_eq 1, drop_eq 2, nothing, split (by decide), split (by decide),
        split (by decide)]
    _ = encode _ := by rw [List.append_nil, encode, List.append_assoc]

theorem padded_encode (v : PublicValues) : Padded v.encode ∧
    number 0 v.encode = v.n ∧ number 1 v.encode = v.a ∧ number 2 v.encode = v.b := by
  have at_word {i : Nat} {x : UInt32} {rest : Bytes}
      (here : v.encode.drop (32 * i) = word x ++ rest) :
      padding i v.encode = noPadding ∧ number i v.encode = x := by
    have blank : padding i v.encode = noPadding := by
      rw [padding, here, word_eq, leftPadded, List.append_assoc, List.take_left' (by rfl)]
    have four : digits i v.encode = Bytes.bigEndian 4 x.toNat := by
      rw [digits, ← List.drop_drop, here, word_eq, leftPadded, List.append_assoc,
        List.drop_left' (by rfl), List.take_left' (by simp)]
    refine ⟨blank, ?_⟩
    rw [number, four, Bytes.ofBigEndian_bigEndian_of_lt x.toNat_lt, UInt32.ofNat_toNat]
  have first : v.encode.drop (32 * 0) = word v.n ++ (word v.a ++ word v.b) :=
    List.append_assoc ..
  have second : v.encode.drop (32 * 1) = word v.a ++ word v.b := by
    rw [encode, List.append_assoc, List.drop_left' (length_word v.n)]
  have third : v.encode.drop (32 * 2) = word v.b ++ [] := by
    rw [encode, List.drop_left' (by simp), List.append_nil]
  refine ⟨⟨length_encode v, ?_⟩, (at_word first).2, (at_word second).2, (at_word third).2⟩
  intro i inside
  match i, inside with
  | 0, _ => exact (at_word first).1
  | 1, _ => exact (at_word second).1
  | 2, _ => exact (at_word third).1

/-! ## The codec that runs -/

theorem blank_iff {bytes : Bytes} (length : bytes.length = 28) :
    bytes.all (· == 0) = true ↔ bytes = noPadding := by
  rw [noPadding, List.eq_replicate_iff]
  simp [length]

theorem decodeWord_eq_ok {i : Nat} {x : UInt32} (length : data.length = 96) (inside : i < 3) :
    decodeWord ((data.drop (32 * i)).take 32) = .ok x ↔
      padding i data = noPadding ∧ number i data = x := by
  have split : (data.drop (32 * i)).take 32 = padding i data ++ digits i data := by
    rw [padding, digits, ← List.drop_drop, ← List.take_add]
  have count : (padding i data).length = 28 := by
    rw [padding, List.length_take, List.length_drop]
    omega
  rw [decodeWord, split, List.take_left' count, List.drop_left' count, ← number]
  by_cases blank : padding i data = noPadding
  · rw [if_pos ((blank_iff count).mpr blank)]
    simp [blank]
  · rw [if_neg (mt (blank_iff count).mp blank)]
    simp [blank]

theorem decode_padded_eq_ok {x y z : UInt32} (length : data.length = 96) :
    Abi.padded.decode data = .ok (x, y, z) ↔ Padded data ∧
      number 0 data = x ∧ number 1 data = y ∧ number 2 data = z := by
  have last : data.drop 64 = (data.drop (32 * 2)).take 32 :=
    (List.take_of_length_le (by rw [List.length_drop]; omega)).symm
  have words : Abi.padded.decode data = .ok (x, y, z) ↔
      decodeWord ((data.drop (32 * 0)).take 32) = .ok x ∧
      decodeWord ((data.drop (32 * 1)).take 32) = .ok y ∧
      decodeWord ((data.drop (32 * 2)).take 32) = .ok z := by
    rw [← last]
    simp only [Abi.padded, Except.bind_eq_ok, Except.ok.injEq, Prod.mk.injEq]
    constructor
    · rintro ⟨x, hx, y, hy, z, hz, rfl, rfl, rfl⟩
      exact ⟨hx, hy, hz⟩
    · rintro ⟨hx, hy, hz⟩
      exact ⟨x, hx, y, hy, z, hz, rfl, rfl, rfl⟩
  rw [words, decodeWord_eq_ok length (by decide), decodeWord_eq_ok length (by decide),
    decodeWord_eq_ok length (by decide)]
  constructor
  · rintro ⟨⟨first, hx⟩, ⟨second, hy⟩, ⟨third, hz⟩⟩
    refine ⟨⟨length, fun i inside => ?_⟩, hx, hy, hz⟩
    match i, inside with
    | 0, _ => exact first
    | 1, _ => exact second
    | 2, _ => exact third
  · rintro ⟨padded, hx, hy, hz⟩
    exact ⟨⟨padded.blank 0 (by decide), hx⟩, ⟨padded.blank 1 (by decide), hy⟩,
      ⟨padded.blank 2 (by decide), hz⟩⟩

end PublicValues

open PublicValues in
theorem Abi.lawful_padded : Abi.padded.Lawful where
  encode x y z := by
    rw [← word_eq, ← word_eq, ← word_eq]
    rfl
  decode padded := (decode_padded_eq_ok padded.length).mpr ⟨padded, rfl, rfl, rfl⟩
  refuse {data} length stray := by
    cases decoded : Abi.padded.decode data with
    | error text => exact ⟨text, rfl⟩
    | ok values =>
      obtain ⟨i, inside, stray⟩ := stray
      have padded := ((decode_padded_eq_ok length).mp decoded).1
      exact absurd (padded.blank i inside) stray

namespace PublicValues

/-! ## Any codec -/

theorem encodeBy_eq (lawful : abi.Lawful) (v : PublicValues) : encodeBy abi v = .ok v.encode := by
  rw [encodeBy, lawful.encode, ← word_eq, ← word_eq, ← word_eq]
  rfl

/-- What is decoded is an encoding, and nothing else is. -/
theorem decodeBy_eq_ok (lawful : abi.Lawful) :
    decodeBy abi data = .ok values ↔ data = values.encode := by
  constructor
  · intro h
    unfold decodeBy at h
    split at h
    · rename_i length
      by_cases padded : Padded data
      · rw [lawful.decode padded] at h
        cases h
        exact padded.eq_encode
      · have stray : ∃ i < 3, padding i data ≠ noPadding := by
          by_contra none
          push Not at none
          exact padded ⟨length, none⟩
        obtain ⟨text, refused⟩ := lawful.refuse length stray
        rw [refused] at h
        cases h
    · cases h
  · rintro rfl
    obtain ⟨padded, n, a, b⟩ := padded_encode values
    have length : values.encode.length = encodedLength := padded.length
    rw [decodeBy, if_pos length, lawful.decode padded, n, a, b]

theorem length_of_decodeBy (h : decodeBy abi data = .ok values) : data.length = 96 := by
  unfold decodeBy at h
  split at h
  · assumption
  · cases h

theorem category_of_decodeBy : ∀ e, decodeBy abi data = .error e → e.category = .encoding := by
  intro e h
  unfold decodeBy at h
  split at h
  · split at h <;> cases h
    rfl
  · cases h
    rfl

theorem decodes_iff (lawful : abi.Lawful) :
    (∃ values, decodeBy abi data = .ok values) ↔ Padded data := by
  simp only [decodeBy_eq_ok lawful]
  constructor
  · rintro ⟨values, rfl⟩
    exact (padded_encode values).1
  · exact fun padded => ⟨_, padded.eq_encode⟩

theorem length_of_decode (h : decode data = .ok values) : data.length = 96 :=
  length_of_decodeBy h

theorem category_of_decode : ∀ e, decode data = .error e → e.category = .encoding :=
  category_of_decodeBy

theorem decode_encode (v : PublicValues) : decode (encode v) = .ok v :=
  (decodeBy_eq_ok Abi.lawful_padded).mpr rfl

/-! ## Values of any type -/

theorem fieldOfValue_eq_ok {name : String} {v : Value} {x : UInt32} :
    fieldOfValue name v = .ok x ↔ v = .int x.toNat := by
  unfold fieldOfValue
  cases v with
  | int n =>
    simp only [Value.int.injEq]
    split
    · rename_i range
      have fits : n.toNat < UInt32.size := by omega
      rw [Except.ok.injEq, ← UInt32.toNat_inj, UInt32.toNat_ofNat_of_lt' fits]
      omega
    · rename_i range
      have fits := x.toNat_lt
      simp only [reduceCtorEq, false_iff]
      rintro rfl
      exact range ⟨by omega, by exact_mod_cast fits⟩
  | null | bool _ | real _ | text _ | bytes _ | list _ | object _ => simp

theorem within_of_fieldOfValue {name : String} {v : Value} (showable : v.isShowable = true) :
    ∀ e, fieldOfValue name v = .error e → e.Within [.encoding] := by
  have refused := Category.encoding.within_about (fun shown =>
    "public value " ++ name ++ "=" ++ shown ++ " does not fit in uint32") showable
  intro e h
  unfold fieldOfValue at h
  dsimp only at h
  split at h
  · split at h <;> cases h
    exact refused
  · cases h
    exact refused

theorem fieldOfValue_tooLong {name : String} :
    fieldOfValue name Value.tooLong = .error (.fault .integerTooLong) := by
  have hidden := Category.encoding.about_of_hidden (fun shown =>
    "public value " ++ name ++ "=" ++ shown ++ " does not fit in uint32") Value.isShowable_tooLong
  rw [Value.tooLong] at hidden ⊢
  rw [fieldOfValue, if_neg (Numeral.not_word_of_long Numeral.isShort_leastLong), hidden]

theorem ofValues_eq_ok {n a b : Value} :
    ofValues n a b = .ok values ↔
      n = .int values.n.toNat ∧ a = .int values.a.toNat ∧ b = .int values.b.toNat := by
  simp only [ofValues, Except.bind_eq_ok, fieldOfValue_eq_ok, Except.ok.injEq]
  constructor
  · rintro ⟨x, rfl, y, rfl, z, rfl, rfl⟩
    exact ⟨rfl, rfl, rfl⟩
  · rintro ⟨rfl, rfl, rfl⟩
    exact ⟨_, rfl, _, rfl, _, rfl, rfl⟩

theorem encodeValues_eq_ok (lawful : abi.Lawful) {n a b : Value} :
    encodeValues abi n a b = .ok data ↔ ∃ v : PublicValues,
      (n = .int v.n.toNat ∧ a = .int v.a.toNat ∧ b = .int v.b.toNat) ∧ data = v.encode := by
  simp only [encodeValues, Except.bind_eq_ok, ofValues_eq_ok, encodeBy_eq lawful,
    DriverError.lift_ok, Except.ok.injEq, eq_comm (a := data)]

theorem category_of_encodeBy {v : PublicValues} :
    ∀ e, encodeBy abi v = .error e → e.category = .encoding := by
  intro e h
  unfold encodeBy at h
  split at h <;> cases h
  rfl

theorem within_of_encodeValues {n a b : Value} (hn : n.isShowable = true)
    (ha : a.isShowable = true) (hb : b.isShowable = true) :
    ∀ e, encodeValues abi n a b = .error e → e.Within [.encoding] := by
  unfold encodeValues ofValues
  exact Except.bind_errors
    (Except.bind_errors (within_of_fieldOfValue hn) fun n _ =>
      Except.bind_errors (within_of_fieldOfValue ha) fun a _ =>
      Except.bind_errors (within_of_fieldOfValue hb) fun b _ => Failure.within_of_ok)
    fun values _ => DriverError.within_lift category_of_encodeBy

end PublicValues

end ProofDriver

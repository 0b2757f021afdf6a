import ProofDriver.Json.Printer
import ProofDriver.Json.Reader
/-!
# Reading back JSON integers

An integer is written in decimal digits without leading zeros. Within the limit on digits it is read
as itself, if what comes after it does not continue a number.
-/

namespace ProofDriver.Json

/-! ## Decimal digits -/

theorem isDigit_of_mem_toDigits {n : Nat} {c : Char} (h : c ∈ Nat.toDigits 10 n) :
    isDigit c = true := by
  have core := Nat.isDigit_of_mem_toDigits (by decide) (by decide) h
  simpa [isDigit, Char.isDigit, Char.le_def] using core

theorem natOf_toDigits (n : Nat) : natOf (Nat.toDigits 10 n) = n := by
  have value : ∀ k < 10, Text.asciiDigit? (Nat.digitChar k) = some k := by decide
  induction n using Nat.strongRecOn with
  | ind n ih =>
    rw [Nat.toDigits_eq_if (by decide)]
    split
    · rename_i small
      simp [natOf, value n small, Text.ofDigits]
    · rename_i large
      have smaller := ih (n / 10) (by omega)
      rw [natOf, Text.ofDigits] at smaller ⊢
      rw [List.filterMap_append, List.foldl_append, smaller]
      simp only [List.filterMap_cons, value (n % 10) (by omega), List.filterMap_nil,
        List.foldl_cons, List.foldl_nil]
      omega

theorem toDigits_head_ne_zero {n : Nat} (h : 0 < n) : (Nat.toDigits 10 n).head? ≠ some '0' := by
  have digit : ∀ k < 10, 0 < k → Nat.digitChar k ≠ '0' := by decide
  induction n using Nat.strongRecOn with
  | ind n ih =>
    rw [Nat.toDigits_eq_if (by decide)]
    split
    · rename_i small
      simpa using digit n small h
    · rename_i large
      rw [List.head?_append, Option.or_of_isSome (by simp [Nat.toDigits_ne_nil])]
      exact ih (n / 10) (by omega) (by omega)

/-! ## Numbers -/

def EndsNumber (rest : List Char) : Prop :=
  ∃ c tail, rest = c :: tail ∧ (c = ',' ∨ c = '\n')

variable {rest : List Char}

theorem wholePart?_toDigits (n : Nat) (h : EndsNumber rest) :
    wholePart? (Nat.toDigits 10 n ++ rest) = some (Nat.toDigits 10 n, rest) := by
  obtain ⟨c, tail, rfl, hc⟩ := h
  have stop : isDigit c = false := by
    rcases hc with rfl | rfl <;> decide
  cases n with
  | zero => rfl
  | succ n =>
    have first := toDigits_head_ne_zero (Nat.succ_pos n)
    have digits : ∀ d ∈ Nat.toDigits 10 (n + 1), isDigit d = true :=
      fun d hd => isDigit_of_mem_toDigits hd
    have some_digit : Nat.toDigits 10 (n + 1) ≠ [] := Nat.toDigits_ne_nil
    generalize Nat.toDigits 10 (n + 1) = ds at *
    have taken : (ds ++ c :: tail).takeWhile isDigit = ds := by
      rw [List.takeWhile_append_of_pos digits, List.takeWhile_cons_of_neg (by simp [stop]),
        List.append_nil]
    have dropped : (ds ++ c :: tail).dropWhile isDigit = c :: tail := by
      rw [List.dropWhile_append_of_pos digits, List.dropWhile_cons_of_neg (by simp [stop])]
    cases ds with
    | nil => exact absurd rfl some_digit
    | cons d ds =>
      have nonzero : d ≠ '0' := by
        rintro rfl
        exact first rfl
      rw [List.cons_append] at taken dropped ⊢
      rw [wholePart?, taken, dropped]
      · rfl
      · exact fun _ hd => nonzero (List.cons.inj hd).1

theorem no_fraction (h : EndsNumber rest) : fractionPart? rest = none := by
  obtain ⟨c, tail, rfl, rfl | rfl⟩ := h <;> rfl

theorem no_exponent (h : EndsNumber rest) : exponentPart? rest = none := by
  obtain ⟨c, tail, rfl, rfl | rfl⟩ := h <;> rfl

variable {n : Nat}

theorem number_positive (short : (Nat.toDigits 10 n).length ≤ Numeral.digitLimit)
    (h : EndsNumber rest) :
    number (Nat.toDigits 10 n ++ rest) = .ok (.int n, rest) := by
  have whole := wholePart?_toDigits n h
  unfold number
  split
  · rename_i negative body sign
    split at sign
    · rename_i after minus
      -- A digit is no sign.
      have first : (Nat.toDigits 10 n ++ rest).head? = some '-' := by rw [minus]; rfl
      rw [List.head?_append, Option.or_of_isSome (by simp [Nat.toDigits_ne_nil])] at first
      have digit := isDigit_of_mem_toDigits (List.mem_of_head? first)
      exact absurd digit (by decide)
    · cases sign
      simp only [whole, no_fraction h, no_exponent h, natOf_toDigits]
      rw [if_neg (by omega)]
      rfl

theorem number_negative (short : (Nat.toDigits 10 n).length ≤ Numeral.digitLimit)
    (h : EndsNumber rest) :
    number ('-' :: (Nat.toDigits 10 n ++ rest)) = .ok (.int (-n), rest) := by
  unfold number
  simp only [wholePart?_toDigits n h, no_fraction h, no_exponent h, natOf_toDigits]
  rw [if_neg (by omega)]
  rfl

theorem number_toString (n : Int)
    (short : (Nat.toDigits 10 n.natAbs).length ≤ Numeral.digitLimit) (h : EndsNumber rest) :
    number ((toString n).toList ++ rest) = .ok (.int n, rest) := by
  rw [Int.toString_eq_repr, Int.repr_eq_if]
  split
  · rename_i positive
    have size : n.toNat = n.natAbs := by omega
    rw [size, Nat.toList_repr, number_positive short h, Int.natAbs_of_nonneg positive]
  · rename_i negative
    have size : (-n).toNat = n.natAbs := by omega
    have value : -(n.natAbs : Int) = n := by omega
    rw [size, String.toList_append, Nat.toList_repr]
    exact (number_negative short h).trans (by rw [value])

/-! ## The beginning of an integer -/

theorem exists_toDigits (n : Nat) :
    ∃ d ds, Nat.toDigits 10 n = d :: ds ∧ isDigit d = true := by
  cases h : Nat.toDigits 10 n with
  | nil => exact absurd h Nat.toDigits_ne_nil
  | cons d ds => exact ⟨d, ds, rfl, isDigit_of_mem_toDigits (by rw [h]; simp)⟩

theorem toString_int (n : Int) :
    ∃ d ds, isDigit d = true ∧
      ((toString n).toList = d :: ds ∨ (toString n).toList = '-' :: d :: ds) := by
  rw [Int.toString_eq_repr, Int.repr_eq_if]
  split
  · obtain ⟨d, ds, digits, digit⟩ := exists_toDigits n.toNat
    exact ⟨d, ds, digit, .inl (by rw [Nat.toList_repr, digits])⟩
  · obtain ⟨d, ds, digits, digit⟩ := exists_toDigits (-n).toNat
    refine ⟨d, ds, digit, .inr ?_⟩
    rw [String.toList_append, Nat.toList_repr, digits]
    rfl

theorem mem_toString_int {n : Int} {c : Char} (h : c ∈ (toString n).toList) :
    c = '-' ∨ isDigit c = true := by
  rw [Int.toString_eq_repr, Int.repr_eq_if] at h
  split at h
  · rw [Nat.toList_repr] at h
    exact .inr (isDigit_of_mem_toDigits h)
  · rw [String.toList_append, Nat.toList_repr] at h
    rcases List.mem_append.mp h with sign | digit
    · exact .inl (List.mem_singleton.mp sign)
    · exact .inr (isDigit_of_mem_toDigits digit)

theorem word?_of_digit {cs : List Char} {d : Char} (digit : isDigit d = true)
    (near : d ∈ cs.take 2) : word? cs = none := by
  have letters : ∀ w ∈ wordValues, 2 ≤ w.1.toList.length ∧
      w.1.toList.all (fun c => !isDigit c) = true := by decide
  rw [word?, List.findSome?_eq_none_iff]
  rintro ⟨word, v⟩ hw
  obtain ⟨long, letters⟩ := letters _ hw
  have absent : ¬word.toList.isPrefixOf cs = true := by
    rw [List.isPrefixOf_iff_prefix]
    rintro ⟨tail, rfl⟩
    rw [List.take_append_of_le_length long] at near
    have letter := List.all_eq_true.mp letters d (List.mem_of_mem_take near)
    rw [digit] at letter
    cases letter
  simp only [after?, if_neg absent, Option.map_none]

end ProofDriver.Json

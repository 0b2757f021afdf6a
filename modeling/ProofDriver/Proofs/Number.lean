import ProofDriver.Number
import ProofDriver.Number.Reading
import ProofDriver.Proofs.Text.Ascii
/-!
# Comparing numbers

Turning a comparison round turns its answer round, so what is not at or below a bound is above it.
Not so with a NaN, which is neither; and a text comes to a NaN by spelling it out, and in no other
way.
-/

namespace ProofDriver

namespace Binary64

/-! ## The order of doubles -/

theorem compare?_swap (x y : Binary64) : y.compare? x = (x.compare? y).map Ordering.swap := by
  cases x with
  | nan => cases y <;> rfl
  | infinite s =>
    cases y with
    | finite t n f => cases s <;> rfl
    | infinite t => cases s <;> cases t <;> rfl
    | nan => rfl
  | finite s m e =>
    cases y with
    | finite t n f => simp only [compare?, compareRatio, Option.map_some, Int.compare_swap]
    | infinite t => cases t <;> rfl
    | nan => rfl

theorem compare?_eq_none_iff {x y : Binary64} : x.compare? y = none ↔ x = nan ∨ y = nan := by
  cases x <;> cases y <;> simp [compare?, compareRatio]

theorem compare_neg_neg (a b : Int) : compare (-a) (-b) = compare b a := by
  rcases Int.lt_trichotomy a b with below | rfl | above
  · rw [Int.compare_eq_gt.mpr below, Int.compare_eq_gt.mpr (Int.neg_lt_neg below)]
  · rw [Int.compare_eq_eq.mpr rfl, Int.compare_eq_eq.mpr rfl]
  · rw [Int.compare_eq_lt.mpr above, Int.compare_eq_lt.mpr (Int.neg_lt_neg above)]

theorem signed_not (s : Bool) (n : Int) :
    (if (!s) = true then -n else n) = -(if s = true then -n else n) := by
  cases s <;> simp

theorem compareRatio_neg (num : Int) (den : Nat) (x : Binary64) :
    compareRatio (-num) den x.neg = (compareRatio num den x).map Ordering.swap := by
  cases x with
  | nan => rfl
  | infinite s => cases s <;> rfl
  | finite s m e =>
    simp only [neg, compareRatio, signed_not, Int.neg_mul, compare_neg_neg, Option.map_some,
      Int.compare_swap]

theorem compareRatio_zero (num : Int) (den : Nat) (e : Int) :
    compareRatio num den (.finite false 0 e) = some (compare num 0) := by
  have pos : (0 : Int) < (Nat.pow 2 (-e).toNat : Nat) :=
    Int.natCast_pos.mpr (Nat.pow_pos (by decide))
  simp only [compareRatio, scaled, Nat.zero_mul, Bool.false_eq_true, if_false, Int.natCast_zero,
    Int.zero_mul, Option.some.injEq]
  rcases Int.lt_trichotomy num 0 with below | rfl | above
  · rw [Int.compare_eq_lt.mpr below, Int.compare_eq_lt.mpr (Int.mul_neg_of_neg_of_pos below pos)]
  · rw [Int.zero_mul]
  · rw [Int.compare_eq_gt.mpr above, Int.compare_eq_gt.mpr (Int.mul_pos above pos)]

theorem compare?_zero (x : Binary64) :
    x.compare? .zero = (Number.real x).compare? (.int 0) := by
  cases x with
  | nan => rfl
  | infinite s => cases s <;> rfl
  | finite s m e =>
    unfold zero
    simp only [compare?, compareRatio_zero]
    simp only [Number.compare?, compareRatio, Option.map_some, Int.compare_swap, Int.zero_mul,
      Int.natCast_one, Int.mul_one]

theorem compare?_neg (x y : Binary64) : x.neg.compare? y.neg = y.compare? x := by
  rw [compare?_swap x y]
  cases x with
  | nan => rfl
  | infinite s =>
    cases y with
    | finite t n f => cases s <;> rfl
    | infinite t => cases s <;> cases t <;> rfl
    | nan => rfl
  | finite s m e =>
    simp only [neg, compare?, signed_not]
    exact compareRatio_neg _ _ _

theorem ofRatio_ne_nan (negative : Bool) (num den : Nat) : ofRatio negative num den ≠ nan := by
  fun_cases ofRatio negative num den with
  | case1 => exact nofun
  | case2 => exact nofun
  | case3 => exact nofun

end Binary64

namespace Number

/-! ## The order of numbers -/

variable {a b : Number}

theorem compare?_swap (a b : Number) : b.compare? a = (a.compare? b).map Ordering.swap := by
  cases a with
  | int m =>
    cases b with
    | int n => simp only [compare?, Option.map_some, Int.compare_swap]
    | real y => rfl
  | real x =>
    cases b with
    | int n =>
      simp only [compare?, Option.map_map, Function.comp_def, Ordering.swap_swap, Option.map_id']
    | real y => exact Binary64.compare?_swap x y

theorem compare?_neg (a b : Number) : a.neg.compare? b.neg = b.compare? a := by
  cases a with
  | int m =>
    cases b with
    | int n => exact congrArg some (Binary64.compare_neg_neg m n)
    | real y => exact Binary64.compareRatio_neg m 1 y
  | real x =>
    cases b with
    | int n =>
      simp only [neg, compare?, Binary64.compareRatio_neg, Option.map_map, Function.comp_def,
        Ordering.swap_swap, Option.map_id']
    | real y => exact Binary64.compare?_neg x y

theorem isNan_iff : a.isNan = true ↔ a = real .nan := by
  cases a with
  | int n => simp [isNan]
  | real x => cases x <;> simp [isNan]

theorem compare?_eq_none_iff : a.compare? b = none ↔ a.isNan = true ∨ b.isNan = true := by
  cases a with
  | int m =>
    cases b with
    | int n => simp [compare?, isNan]
    | real y => cases y <;> simp [compare?, isNan, Binary64.compareRatio]
  | real x =>
    cases b with
    | int n => cases x <;> simp [compare?, isNan, Binary64.compareRatio]
    | real y =>
      simp only [isNan_iff, real.injEq]
      exact Binary64.compare?_eq_none_iff

theorem le_eq_false_iff : a.le b = false ↔ b.lt a = true ∨ a.isNan = true ∨ b.isNan = true := by
  rw [← compare?_eq_none_iff]
  unfold le lt
  rw [compare?_swap a b]
  rcases a.compare? b with _ | ⟨_ | _ | _⟩ <;> decide

def Positive (n : Number) : Prop :=
  (int 0).lt n = true

instance (n : Number) : Decidable n.Positive :=
  inferInstanceAs (Decidable ((int 0).lt n = true))

theorem positive_of_not_le {x : Binary64} (h : x.le .zero = false) (number : x ≠ .nan) :
    (real x).Positive := by
  have same : x.le .zero = (real x).le (int 0) := by
    unfold Binary64.le le
    rw [Binary64.compare?_zero]
  rw [same, le_eq_false_iff] at h
  obtain positive | nan | nan := h
  · exact positive
  · exact absurd (real.inj (isNan_iff.mp nan)) number
  · cases nan

end Number

namespace Numeral

/-! ## Texts that come to a NaN -/

theorem ofDecimal_ne_nan (negative : Bool) (digits : Nat) (exponent : Int) :
    ofDecimal negative digits exponent ≠ .nan := by
  fun_cases ofDecimal negative digits exponent with
  | case1 => exact nofun
  | case2 => exact nofun
  | case3 => exact nofun
  | case4 => exact Binary64.ofRatio_ne_nan _ _ _

theorem readDecimal_ne_nan (negative : Bool) (cs : List Char) :
    readDecimal negative cs ≠ some .nan := by
  fun_cases readDecimal negative cs with
  | case1 => exact nofun
  | case2 => exact fun h => ofDecimal_ne_nan _ _ _ (Option.some.inj h)

def SpellsNan (s : String) : Prop :=
  (takeSign (trimSpace s.toList)).2.map Char.toLower = ['n', 'a', 'n']

instance (s : String) : Decidable (SpellsNan s) :=
  inferInstanceAs (Decidable (_ = _))

theorem isDigit_of_nan_letter {c : Char} (h : c.toLower ∈ ['n', 'a', 'n']) :
    isDigit c = false := by
  have ascii : c.toNat < 0x80 := by
    unfold Char.toLower at h
    split at h
    case isTrue capital =>
      exact Nat.lt_of_le_of_lt (UInt32.le_iff_toNat_le.mp capital.2) (by decide)
    case isFalse =>
      simp only [List.mem_cons, List.not_mem_nil, or_false] at h
      rcases h with rfl | rfl | rfl <;> decide
  exact Text.forall_ascii (P := fun c => c.toLower ∈ ['n', 'a', 'n'] → isDigit c = false)
    (by decide) ascii h

theorem eq_of_dropUnderscores_go {cs read : List Char} {afterDigit : Bool} {done : List Char}
    (h : dropUnderscores.go afterDigit done cs = some read)
    (no_digit : ∀ c ∈ read, isDigit c = false) : read = done.reverse ++ cs := by
  fun_induction dropUnderscores.go afterDigit done cs with
  | case1 afterDigit done =>
    cases h
    exact (List.append_nil _).symm
  | case2 afterDigit done d rest digit ih =>
    have same := ih h
    have mem : d ∈ read := by simp [same]
    rw [no_digit d mem, Bool.and_false] at digit
    cases digit
  | case3 => cases h
  | case4 => cases h
  | case5 afterDigit done c rest _ _ ih => simpa using ih h

theorem dropUnderscores_go_of_notMem {cs : List Char} {afterDigit : Bool} {done : List Char}
    (h : '_' ∉ cs) : dropUnderscores.go afterDigit done cs = some (done.reverse ++ cs) := by
  fun_induction dropUnderscores.go afterDigit done cs with
  | case1 afterDigit done => rw [List.append_nil]
  | case2 | case3 => exact absurd (List.mem_cons_self ..) h
  | case4 => simp at h
  | case5 afterDigit done c rest _ _ ih =>
    rw [ih (fun mem => h (List.mem_cons_of_mem c mem))]
    simp

theorem takeSign_cases (cs : List Char) :
    cs = (takeSign cs).2 ∨ ∃ sign ∈ ['-', '+'], cs = sign :: (takeSign cs).2 := by
  fun_cases takeSign cs with
  | case1 => exact .inr ⟨'-', by decide, rfl⟩
  | case2 => exact .inr ⟨'+', by decide, rfl⟩
  | case3 => exact .inl rfl

theorem forall_of_spelled {P : Char → Prop} {cs : List Char} (minus : P '-') (plus : P '+')
    (letters : ∀ c : Char, c.toLower ∈ ['n', 'a', 'n'] → P c)
    (spelled : (takeSign cs).2.map Char.toLower = ['n', 'a', 'n']) : ∀ c ∈ cs, P c := by
  have body : ∀ c ∈ (takeSign cs).2, P c := fun c mem =>
    letters c (spelled ▸ List.mem_map_of_mem mem)
  obtain same | ⟨sign, mem, same⟩ := takeSign_cases cs
  · rwa [← same] at body
  · rw [same]
    have signed : P sign := by
      rcases List.mem_cons.mp mem with rfl | rest
      · exact minus
      · rw [List.mem_singleton.mp rest]
        exact plus
    exact List.forall_mem_cons.mpr ⟨signed, body⟩

theorem readDouble_eq_nan_iff {s : String} : readDouble s = some .nan ↔ SpellsNan s := by
  -- A text that was read is what it was before its underscores were dropped, if it spells a NaN.
  unfold readDouble SpellsNan
  constructor
  · intro h
    obtain ⟨read, dropped, h⟩ := Option.bind_eq_some_iff.mp h
    dsimp only at h
    have spelled : (takeSign read).2.map Char.toLower = ['n', 'a', 'n'] := by
      split at h
      · cases h
      · split at h
        · rename_i word
          simpa using congrArg String.toList word
        · exact absurd h (readDecimal_ne_nan _ _)
    have same := eq_of_dropUnderscores_go dropped
      (forall_of_spelled rfl rfl (fun _ => isDigit_of_nan_letter) spelled)
    rwa [same] at spelled
  · intro spelled
    have no_underscore : '_' ∉ trimSpace s.toList := fun mem =>
      forall_of_spelled (P := (· ≠ '_')) (by decide) (by decide) (fun c letter same => by
        rw [same] at letter
        revert letter
        decide) spelled _ mem rfl
    have dropped : dropUnderscores.go false [] (trimSpace s.toList) = some (trimSpace s.toList) :=
      dropUnderscores_go_of_notMem no_underscore
    unfold dropUnderscores
    rw [dropped]
    simp only [Option.bind_eq_bind, Option.bind_some]
    rw [spelled]
    rfl

end Numeral

end ProofDriver

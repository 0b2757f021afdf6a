/-!
# Texts of documents

A document can name half of a surrogate pair without the other half. That is a code point but no
character, so the text of a document is a list of code points, and a `String` is such a text without
lone surrogates.
-/

namespace ProofDriver

/-- A code point: a character, or a surrogate by its distance from the first of them. -/
inductive CodePoint where
  | char (c : Char)
  | surrogate (index : Fin 0x800)
  deriving Repr, DecidableEq

namespace CodePoint

def toNat : CodePoint → Nat
  | char c => c.toNat
  | surrogate i => 0xd800 + i.val

def ofNat (n : Nat) : CodePoint :=
  if h : 0xd800 ≤ n ∧ n < 0xe000 then surrogate ⟨n - 0xd800, by omega⟩ else char (Char.ofNat n)

/-- The character, or the one that stands in for what is none. The stand-in is no blank, no letter
and no digit, as a surrogate is none of these. -/
def toChar : CodePoint → Char
  | char c => c
  | surrogate _ => '\ufffd'

@[simp] theorem ofNat_toNat (p : CodePoint) : ofNat p.toNat = p := by
  cases p with
  | char c =>
    have h : ¬(0xd800 ≤ c.toNat ∧ c.toNat < 0xe000) := by
      have valid : c.toNat.isValidChar := c.valid
      unfold Nat.isValidChar at valid
      omega
    simp [toNat, ofNat, h]
  | surrogate i =>
    have h : 0xd800 ≤ 0xd800 + i.val ∧ 0xd800 + i.val < 0xe000 := by omega
    simp [toNat, ofNat, h]

end CodePoint

structure CodeString where
  points : List CodePoint
  deriving Repr, DecidableEq, Inhabited

namespace CodeString

def ofString (s : String) : CodeString :=
  ⟨s.toList.map .char⟩

instance : Coe String CodeString := ⟨ofString⟩

/-- The text with a stand-in for each lone surrogate. -/
def toString (s : CodeString) : String :=
  String.ofList (s.points.map CodePoint.toChar)

def isEmpty (s : CodeString) : Bool :=
  s.points.isEmpty

instance : Append CodeString := ⟨fun s t => ⟨s.points ++ t.points⟩⟩

def codes (s : CodeString) : List Nat :=
  s.points.map CodePoint.toNat

instance : LT CodeString := ⟨fun s t => s.codes < t.codes⟩

instance : LE CodeString := ⟨fun s t => ¬t < s⟩

instance (s t : CodeString) : Decidable (s < t) :=
  inferInstanceAs (Decidable (s.codes < t.codes))

instance (s t : CodeString) : Decidable (s ≤ t) :=
  inferInstanceAs (Decidable (¬t < s))

@[simp] theorem toString_ofString (s : String) : (ofString s).toString = s := by
  have h : CodePoint.toChar ∘ CodePoint.char = id := rfl
  simp [ofString, toString, h]

@[simp] theorem points_append (s t : CodeString) : (s ++ t).points = s.points ++ t.points := rfl

theorem ofString_injective {s t : String} (h : ofString s = ofString t) : s = t := by
  rw [← toString_ofString s, h, toString_ofString]

variable {s t u : CodeString}

theorem codes_injective (h : s.codes = t.codes) : s = t := by
  have points : s.points = t.points :=
    (List.map_inj_right fun p q same => by rw [← p.ofNat_toNat, same, q.ofNat_toNat]).mp h
  cases s
  cases t
  exact congrArg mk points

theorem le_total (s t : CodeString) : s ≤ t ∨ t ≤ s :=
  List.le_total s.codes t.codes

theorem le_trans (h : s ≤ t) (h' : t ≤ u) : s ≤ u :=
  @List.le_trans Nat _ _ _ _ s.codes t.codes u.codes h h'

theorem le_antisymm (h : s ≤ t) (h' : t ≤ s) : s = t :=
  codes_injective (List.le_antisymm h h')

theorem lt_of_le_of_ne (h : s ≤ t) (different : s ≠ t) : s < t :=
  Decidable.byContradiction fun above => different (le_antisymm h above)

end CodeString

end ProofDriver

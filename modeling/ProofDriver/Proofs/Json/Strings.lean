import Mathlib.Tactic.SplitIfs
import ProofDriver.Json.Printer
import ProofDriver.Json.Reader
/-!
# Reading back JSON strings

A written string is read as the units of sixteen bits that its code points have, and the units of
characters join to these characters again. So a text without lone surrogates is read as it is.
-/

namespace ProofDriver

def CodePoint.units (p : CodePoint) : List Nat :=
  if p.toNat < 0x10000 then [p.toNat]
  else [0xd800 + (p.toNat - 0x10000) / 0x400, 0xdc00 + (p.toNat - 0x10000) % 0x400]

theorem isValidChar_toNat (c : Char) :
    c.toNat < 0xd800 ∨ 0xdfff < c.toNat ∧ c.toNat < 0x110000 := c.valid

namespace Json

/-! ## Surrogates -/

theorem join_units (done : List CodePoint) (c : Char) (tail : List Nat) :
    joinSurrogates.go done (CodePoint.units (.char c) ++ tail) =
      joinSurrogates.go (.char c :: done) tail := by
  have valid := isValidChar_toNat c
  have same : CodePoint.ofNat c.toNat = .char c := CodePoint.ofNat_toNat (.char c)
  have code : CodePoint.toNat (.char c) = c.toNat := rfl
  unfold CodePoint.units
  rw [code]
  by_cases small : c.toNat < 0x10000
  · rw [if_pos small, List.singleton_append]
    cases tail with
    | nil => simp [joinSurrogates.go, same]
    | cons low rest =>
      rw [joinSurrogates.go, if_neg (by omega), same]
  · rw [if_neg small, List.cons_append, List.singleton_append, joinSurrogates.go,
      if_pos (by omega)]
    have whole : 0x10000 + 0x400 * (0xd800 + (c.toNat - 0x10000) / 0x400 - 0xd800) +
        (0xdc00 + (c.toNat - 0x10000) % 0x400 - 0xdc00) = c.toNat := by omega
    rw [whole, same]

theorem joinSurrogates_units (cs : List Char) :
    joinSurrogates ((cs.map CodePoint.char).flatMap CodePoint.units) =
      cs.map CodePoint.char := by
  have go (done : List CodePoint) :
      joinSurrogates.go done ((cs.map CodePoint.char).flatMap CodePoint.units) =
        done.reverse ++ cs.map CodePoint.char := by
    induction cs generalizing done with
    | nil => simp [joinSurrogates.go]
    | cons c rest ih =>
      rw [List.map_cons, List.flatMap_cons, join_units, ih, List.reverse_cons, List.append_assoc,
        List.singleton_append]
  exact go []

/-! ## Escapes -/

theorem codeUnit?_hexDigits {n : Nat} (h : n < 0x10000) :
    ∃ a b c d, Text.hexDigits 4 n = [a, b, c, d] ∧ codeUnit? a b c d = some n := by
  have value : ∀ k < 16, hexValue? (Nat.digitChar k) = some k := by decide
  have place (i : Nat) : hexValue? (Nat.digitChar (n / Nat.pow 16 i % 16)) =
      some (n / Nat.pow 16 i % 16) := value _ (Nat.mod_lt _ (by decide))
  refine ⟨_, _, _, _, rfl, ?_⟩
  rw [codeUnit?, place 3, place 2, place 1, place 0]
  have powers : Nat.pow 16 3 = 0x1000 ∧ Nat.pow 16 2 = 0x100 ∧ Nat.pow 16 1 = 0x10 ∧
      Nat.pow 16 0 = 1 := by decide
  obtain ⟨p3, p2, p1, p0⟩ := powers
  simp only [Option.bind_eq_bind, Option.bind_some, p3, p2, p1, p0, Option.some.injEq]
  omega

variable {opening rest : List Char} {done : List Nat}

theorem stringFrom_hexEscape {n : Nat} (h : n < 0x10000) (more : rest ≠ []) :
    stringFrom opening done (hexEscape n ++ rest) = stringFrom opening (n :: done) rest := by
  obtain ⟨a, b, c, d, digits, unit⟩ := codeUnit?_hexDigits h
  cases rest with
  | nil => exact absurd rfl more
  | cons e rest =>
    rw [hexEscape, digits]
    simp only [List.cons_append, List.nil_append]
    rw [stringFrom, unit]

theorem stringFrom_simpleEscape {c e : Char} (known : simpleEscape? c = some e) :
    stringFrom opening done ('\\' :: c :: rest) = stringFrom opening (e.toNat :: done) rest := by
  have other : c ≠ 'u' := by
    rintro rfl
    cases known
  rw [stringFrom, if_neg other, known]
  rintro _ _ _ _ _ _ rfl
  exact absurd rfl other

theorem stringFrom_plain {c : Char} (quote : c ≠ '"') (slash : c ≠ '\\')
    (printable : 0x20 ≤ c.toNat) :
    stringFrom opening done (c :: rest) = stringFrom opening (c.toNat :: done) rest := by
  rw [stringFrom, if_neg (by omega)]
  · exact quote
  · exact fun h _ => slash h
  · intros
    exact slash (by assumption)
  · intros
    exact slash (by assumption)

theorem stringFrom_escapeChar (c : Char) (more : rest ≠ []) :
    stringFrom opening done (escapeChar c ++ rest) =
      stringFrom opening ((CodePoint.units (.char c)).reverse ++ done) rest := by
  have bound := isValidChar_toNat c
  have code : CodePoint.toNat (.char c) = c.toNat := rfl
  have single (small : c.toNat < 0x10000) : CodePoint.units (.char c) = [c.toNat] := by
    rw [CodePoint.units, code, if_pos small]
  unfold escapeChar
  split_ifs with quote slash feed back tab bell form printable small
  · subst quote
    exact stringFrom_simpleEscape rfl
  · subst slash
    exact stringFrom_simpleEscape rfl
  · subst feed
    exact stringFrom_simpleEscape rfl
  · subst back
    exact stringFrom_simpleEscape rfl
  · subst tab
    exact stringFrom_simpleEscape rfl
  · subst bell
    exact stringFrom_simpleEscape rfl
  · subst form
    exact stringFrom_simpleEscape rfl
  · rw [single (by omega)]
    exact stringFrom_plain quote slash printable.1
  · rw [single small]
    exact stringFrom_hexEscape small more
  · rw [CodePoint.units, code, if_neg small, List.append_assoc,
      stringFrom_hexEscape (by omega) (by simp [hexEscape]),
      stringFrom_hexEscape (by omega) more]
    rfl

theorem stringFrom_escapePoint (p : CodePoint) (more : rest ≠ []) :
    stringFrom opening done (escapePoint p ++ rest) =
      stringFrom opening (p.units.reverse ++ done) rest := by
  cases p with
  | char c => exact stringFrom_escapeChar c more
  | surrogate i =>
    have small : (CodePoint.surrogate i).toNat < 0x10000 := by
      rw [CodePoint.toNat]
      omega
    rw [CodePoint.units, if_pos small]
    exact stringFrom_hexEscape small more

theorem stringFrom_points (points : List CodePoint) :
    stringFrom opening done (points.flatMap escapePoint ++ '"' :: rest) =
      .ok (⟨joinSurrogates (done.reverse ++ points.flatMap CodePoint.units)⟩, rest) := by
  induction points generalizing done with
  | nil => simp [stringFrom]
  | cons p more ih =>
    rw [List.flatMap_cons, List.append_assoc, stringFrom_escapePoint p (by simp), ih,
      List.reverse_append, List.reverse_reverse, List.flatMap_cons, List.append_assoc]

theorem stringFrom_renderString (s : String) :
    stringFrom opening [] ((s : CodeString).points.flatMap escapePoint ++ '"' :: rest) =
      .ok (s, rest) := by
  rw [stringFrom_points, List.reverse_nil, List.nil_append, CodeString.ofString,
    joinSurrogates_units]

end Json

end ProofDriver

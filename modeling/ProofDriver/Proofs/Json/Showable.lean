import ProofDriver.FileSystem.Save
import ProofDriver.Json.Reader
import ProofDriver.Proofs.Value
/-!
# Documents can be shown

The reader refuses integers of too many digits. So whatever it reads can be shown in a message, and
a file holds no value that cannot.
-/

namespace ProofDriver

namespace Json

variable {cs rest : List Char} {v : Value}

/-! ## Numbers -/

theorem lt_of_asciiDigit? {c : Char} {d : Nat} (digit : Text.asciiDigit? c = some d) : d < 10 := by
  unfold Text.asciiDigit? at digit
  split at digit
  · rename_i range
    cases digit
    have upper : c.toNat ≤ '9'.toNat := Char.le_def.mp range.2
    have nine : '9'.toNat = 57 := rfl
    have zero : '0'.toNat = 48 := rfl
    omega
  · cases digit

theorem ofDigits_lt {digits : List Nat} (small : ∀ d ∈ digits, d < 10) :
    Text.ofDigits digits < 10 ^ digits.length := by
  suffices bound : ∀ n, digits.foldl (fun n d => 10 * n + d) n < (n + 1) * 10 ^ digits.length by
    simpa [Text.ofDigits] using bound 0
  induction digits with
  | nil => simp
  | cons d rest ih =>
    obtain ⟨first, others⟩ := List.forall_mem_cons.mp small
    intro n
    calc (d :: rest).foldl (fun n d => 10 * n + d) n
      _ < (10 * n + d + 1) * 10 ^ rest.length := ih others (10 * n + d)
      _ ≤ (10 * (n + 1)) * 10 ^ rest.length := Nat.mul_le_mul_right _ (by omega)
      _ = (n + 1) * 10 ^ (d :: rest).length := by
        rw [List.length_cons, Nat.pow_succ']
        ring

theorem natOf_lt (digits : List Char) : natOf digits < 10 ^ digits.length := by
  have small : ∀ d ∈ digits.filterMap Text.asciiDigit?, d < 10 := by
    intro d mem
    obtain ⟨c, -, digit⟩ := List.mem_filterMap.mp mem
    exact lt_of_asciiDigit? digit
  exact Nat.lt_of_lt_of_le (ofDigits_lt small)
    (Nat.pow_le_pow_right (by decide) (List.length_filterMap_le ..))

theorem isShowable_of_number (read : number cs = .ok (v, rest)) : v.isShowable = true := by
  unfold number at read
  dsimp only at read
  split at read
  · cases read
  · rename_i whole _ _
    split at read
    · cases read
      rfl
    · split at read
      · cases read
        rfl
      · split at read
        · cases read
        · rename_i short
          have small := Nat.lt_of_lt_of_le (natOf_lt whole)
            (Nat.pow_le_pow_right (by decide) (Nat.not_lt.mp short))
          have unsigned (negative : Bool) :
              (if negative then -(natOf whole : Int) else natOf whole).natAbs = natOf whole := by
            cases negative <;> simp
          cases read
          exact Numeral.isShort_iff_lt.mpr (by rwa [unsigned])

theorem isShowable_of_word? (found : word? cs = some (v, rest)) : v.isShowable = true := by
  obtain ⟨word, mem, after⟩ := List.exists_of_findSome?_eq_some found
  obtain ⟨_, -, same⟩ := Option.map_eq_some_iff.mp after
  cases same
  revert mem
  generalize word = w
  revert w
  decide

/-! ## Values -/

-- The three readers call each other with less room, and so do the lemmas about them.
mutual

theorem isShowable_of_value (n : Nat) (cs : List Char) (v : Value) (rest : List Char)
    (read : value n cs = .ok (v, rest)) : v.isShowable = true := by
  cases n with
  | zero => cases read
  | succ n =>
    cases cs with
    | nil => cases read
    | cons c cs =>
      unfold value at read
      split at read
      · cases string : stringFrom (c :: cs) [] cs with
        | error stop =>
          rw [string] at read
          cases read
        | ok result =>
          rw [string] at read
          cases read
          rfl
      · split at read
        · split at read
          · cases read
            rfl
          · exact isShowable_of_members n _ _ _ _ read nofun
        · split at read
          · split at read
            · cases read
              rfl
            · exact isShowable_of_elements n _ _ _ _ read nofun
          · split at read
            · rename_i found
              cases read
              exact isShowable_of_word? found
            · exact isShowable_of_number read

theorem isShowable_of_elements (n : Nat) (done : List Value) (cs : List Char) (v : Value)
    (rest : List Char) (read : elements n done cs = .ok (v, rest))
    (showable : ∀ d ∈ done, d.isShowable = true) : v.isShowable = true := by
  cases n with
  | zero => cases read
  | succ n =>
    unfold elements at read
    split at read
    · cases read
    · rename_i first _ readFirst
      have more : ∀ d ∈ first :: done, d.isShowable = true :=
        List.forall_mem_cons.mpr ⟨isShowable_of_value n _ _ _ readFirst, showable⟩
      split at read
      · cases read
        exact Value.isShowable_list.mpr fun d mem => more d (List.mem_reverse.mp mem)
      · exact isShowable_of_elements n _ _ _ _ read more
      · cases read

theorem isShowable_of_members (n : Nat) (done : Fields) (cs : List Char) (v : Value)
    (rest : List Char) (read : members n done cs = .ok (v, rest))
    (showable : ∀ f ∈ done, f.2.isShowable = true) : v.isShowable = true := by
  cases n with
  | zero => cases read
  | succ n =>
    unfold members at read
    split at read
    · split at read
      · cases read
      · rename_i name _ _
        split at read
        · split at read
          · cases read
          · rename_i readFirst
            have more := Value.isShowable_put name showable (isShowable_of_value n _ _ _ readFirst)
            split at read
            · cases read
              exact Value.isShowable_object.mpr more
            · exact isShowable_of_members n _ _ _ _ read more
            · cases read
        · cases read
    · cases read

end

theorem isShowable_of_read {text : List Char} (h : read text = .ok v) : v.isShowable = true := by
  unfold read at h
  split at h
  · cases h
  · split at h
    · cases h
    · cases h
    · rename_i made
      split at h
      · cases h
        exact isShowable_of_value _ _ _ _ made
      · cases h

/-! ## Nesting -/

/-- How many brackets are open at most in the rest of a text, `depth` of them already. Those in a
string do not count. -/
def nestingFrom : Nat → Bool → List Char → Nat
  | depth, _, [] => depth
  | depth, true, '\\' :: _ :: rest => nestingFrom depth true rest
  | depth, true, c :: rest => nestingFrom depth (c != '"') rest
  | depth, false, c :: rest =>
    if c = '[' ∨ c = '{' then nestingFrom (depth + 1) false rest
    else if c = ']' ∨ c = '}' then max depth (nestingFrom (depth - 1) false rest)
    else nestingFrom depth (c == '"') rest

/-- How deep the lists and objects of a text lie within each other. -/
def nesting (text : List Char) : Nat :=
  nestingFrom 0 false text

/-- As deep as a text may go to be read. The reader goes down one level after the other as well. -/
def roomToRead : Nat := Value.roomToShow

end Json

theorem Disk.isShowable_of_load {fs : FileSystem} {path : Path} {v : Value}
    (h : load fs path = .ok v) : v.isShowable = true := by
  unfold load at h
  split at h
  · split at h <;> cases h
  · split at h
    · rename_i read
      cases h
      exact Json.isShowable_of_read read
    · cases h

end ProofDriver

import ProofDriver.Text.Blank
import ProofDriver.Text.Line
import ProofDriver.Text.LowerCase
import ProofDriver.Text.Utf8
/-!
# Texts of the ASCII range

Trimming, lowering, UTF-8 and the unification of line breaks leave a text of plain characters as it
is, so what is written in such characters is read as it was written. Lowering any text leaves no
capital of the range.
-/

namespace ByteArray

theorem toList_loop_eq (bs : ByteArray) (i : Nat) (done : List UInt8) :
    toList.loop bs i done = done.reverse ++ bs.data.toList.drop i := by
  have length : bs.data.toList.length = bs.size := Array.length_toList
  induction left : bs.size - i generalizing i done with
  | zero =>
    rw [toList.loop, if_neg (by omega), List.drop_of_length_le (by omega), List.append_nil]
  | succ k ih =>
    have inside : i < bs.data.toList.length := by omega
    have here : bs.get! i = bs.data.toList[i] := by
      rw [Array.getElem_toList]
      exact getElem!_pos bs.data i (by simpa using inside)
    rw [toList.loop, if_pos (by omega), ih (i + 1) _ (by omega), here,
      List.drop_eq_getElem_cons inside, List.reverse_cons, List.append_assoc, List.singleton_append]

theorem toList_eq (bs : ByteArray) : bs.toList = bs.data.toList :=
  toList_loop_eq bs 0 []

end ByteArray

namespace ProofDriver.Text

/-! ## Trimming and lowering -/

theorem trim_of_forall_not_blank {cs : List Char} (h : ∀ c ∈ cs, isBlank c = false) :
    trim cs = cs := by
  have same (cs : List Char) (h : ∀ c ∈ cs, isBlank c = false) : cs.dropWhile isBlank = cs := by
    cases cs with
    | nil => rfl
    | cons c rest => rw [List.dropWhile_cons_of_neg (by simp [h c])]
  rw [trim, same cs h, same cs.reverse (by simpa using h), List.reverse_reverse]

def IsSmall (c : Char) : Prop :=
  c.toNat < 0x80 ∧ c.toLower = c

theorem lowerList_of_small {cs : List Char} (h : ∀ c ∈ cs, IsSmall c) : lowerList cs = cs := by
  have go (before done : List Char) : lowerList.go before done cs = done.reverse ++ cs := by
    induction cs generalizing before done with
    | nil => simp [lowerList.go]
    | cons c rest ih =>
      obtain ⟨ascii, small⟩ := h c (by simp)
      have hsigma : c ≠ 'Σ' := by
        rintro rfl
        exact absurd ascii (by decide)
      rw [lowerList.go, if_neg hsigma, ih (fun d hd => h d (by simp [hd]))]
      simp [lowerChar, ascii, small]
  exact go [] []

theorem mem_dropWhile {c : Char} {cs : List Char} {p : Char → Bool} (keep : p c = false)
    (mem : c ∈ cs) : c ∈ cs.dropWhile p := by
  rw [← List.takeWhile_append_dropWhile (p := p) (l := cs), List.mem_append] at mem
  refine mem.resolve_left fun passed => ?_
  have passes := List.all_eq_true.mp List.all_takeWhile c passed
  simp [keep] at passes

theorem mem_trim {c : Char} {cs : List Char} (keep : isBlank c = false) (mem : c ∈ cs) :
    c ∈ trim cs := by
  refine List.mem_reverse.mpr (mem_dropWhile keep ?_)
  exact List.mem_reverse.mpr (mem_dropWhile keep mem)

theorem mem_lowerList {c : Char} {cs : List Char} (sigma : c ≠ 'Σ') (keep : lowerChar c = [c])
    (mem : c ∈ cs) : c ∈ lowerList cs := by
  have go (before done : List Char) (h : c ∈ done ∨ c ∈ cs) : c ∈ lowerList.go before done cs := by
    clear mem
    induction cs generalizing before done with
    | nil => simpa [lowerList.go] using h
    | cons d rest ih =>
      rw [lowerList.go]
      rcases h with there | here
      · split
        · exact ih _ _ (.inl (List.mem_cons_of_mem _ there))
        · exact ih _ _ (.inl (List.mem_append_right _ there))
      · rcases List.mem_cons.mp here with rfl | later
        · rw [if_neg sigma, keep]
          exact ih _ _ (.inl (by simp))
        · split
          · exact ih _ _ (.inr later)
          · exact ih _ _ (.inr later)
  exact go [] [] (.inr mem)

/-! ## Capitals -/

/-- A fact about all characters of the ASCII range, checked one by one. -/
theorem forall_ascii {P : Char → Prop} (h : ∀ n < 0x80, P (Char.ofNat n)) {c : Char}
    (ascii : c.toNat < 0x80) : P c := by
  have here := h c.toNat ascii
  rwa [Char.ofNat_toNat] at here

theorem isUpper_eq_false {c : Char} (outside : c.toNat < 0x41 ∨ 0x5a < c.toNat) :
    c.isUpper = false := by
  have upper : c.isUpper = decide (0x41 ≤ c.toNat ∧ c.toNat ≤ 0x5a) := rfl
  rw [upper, decide_eq_false_iff_not]
  omega

theorem isUpper_ofNat {n : Nat} (above : 0x5b ≤ n) : (Char.ofNat n).isUpper = false := by
  by_cases valid : n.isValidChar
  · have same : Char.ofNat n = Char.ofNatAux n valid := dif_pos valid
    have number : (Char.ofNatAux n valid).toNat = n := rfl
    rw [same]
    exact isUpper_eq_false (by omega)
  · have zero : Char.ofNat n = '\x00' := dif_neg valid
    rw [zero]
    rfl

theorem isUpper_of_mem_lowerChar {c d : Char} (mem : d ∈ lowerChar c) : d.isUpper = false := by
  unfold lowerChar at mem
  dsimp only at mem
  split at mem
  · rename_i ascii
    rw [List.mem_singleton.mp mem]
    exact forall_ascii (P := fun c => c.toLower.isUpper = false) (by decide) ascii
  · rename_i high
    split at mem
    · simp only [List.mem_cons, List.not_mem_nil, or_false] at mem
      obtain rfl | rfl := mem <;> rfl
    · split at mem
      · rename_i r found
        have above : caseRuns.all (fun r => 0x5b ≤ (r.first : Int) + r.shift) = true := by
          decide +kernel
        have least := List.all_eq_true.mp above r (List.mem_of_find?_eq_some found)
        have covered := List.find?_some found
        simp only [CaseRun.covers, Bool.and_eq_true, decide_eq_true_eq] at covered least
        rw [List.mem_singleton.mp mem]
        exact isUpper_ofNat (by omega)
      · rw [List.mem_singleton.mp mem]
        exact isUpper_eq_false (by omega)

theorem isUpper_of_mem_lowerList {c : Char} {cs : List Char} (mem : c ∈ lowerList cs) :
    c.isUpper = false := by
  have go (before done : List Char) (small : ∀ d ∈ done, d.isUpper = false) :
      ∀ d ∈ lowerList.go before done cs, d.isUpper = false := by
    clear mem
    induction cs generalizing before done with
    | nil => simpa [lowerList.go] using small
    | cons e rest ih =>
      rw [lowerList.go]
      split
      · refine ih _ _ fun d hd => ?_
        rcases List.mem_cons.mp hd with rfl | hd
        · split <;> decide
        · exact small d hd
      · refine ih _ _ fun d hd => ?_
        rcases List.mem_append.mp hd with hd | hd
        · exact isUpper_of_mem_lowerChar (List.mem_reverse.mp hd)
        · exact small d hd
  exact go [] [] (by simp) c mem

/-! ## UTF-8 -/

theorem utf8Bytes_ofList (cs : List Char) :
    utf8Bytes (String.ofList cs) = cs.flatMap String.utf8EncodeChar := by
  rw [utf8Bytes, String.toUTF8_eq_toByteArray, ByteArray.toList_eq, String.toByteArray_ofList,
    List.utf8Encode, List.toList_data_toByteArray]

theorem utf8EncodeChar_of_ascii {c : Char} (h : c.toNat < 0x80) :
    String.utf8EncodeChar c = [UInt8.ofNat c.toNat] := by
  have small : c.val.toNat ≤ 127 := Nat.le_of_lt_succ h
  unfold String.utf8EncodeChar
  simp only [small, if_true]
  rfl

theorem decodeFrom_ascii {cs : List Char} (h : ∀ c ∈ cs, c.toNat < 0x80) (position : Nat)
    (done : List Char) :
    Utf8.decodeFrom position .none done (cs.map fun c => UInt8.ofNat c.toNat) =
      .ok (done.reverse ++ cs) := by
  induction cs generalizing position done with
  | nil => simp [Utf8.decodeFrom]
  | cons c rest ih =>
    have ascii : c.toNat < 0x80 := h c (by simp)
    have value : (UInt8.ofNat c.toNat).toNat = c.toNat := by
      rw [UInt8.toNat_ofNat']
      omega
    have below : UInt8.ofNat c.toNat < 0x80 := by
      rw [UInt8.lt_iff_toNat_lt, value]
      exact ascii
    rw [List.map_cons, Utf8.decodeFrom]
    simp only [below, if_true, value, Char.ofNat_toNat]
    rw [ih (fun d hd => h d (by simp [hd])), List.reverse_cons, List.append_assoc,
      List.singleton_append]

theorem decodeUtf8_utf8Bytes_of_ascii {cs : List Char} (h : ∀ c ∈ cs, c.toNat < 0x80) :
    decodeUtf8 (utf8Bytes (String.ofList cs)) = .ok (String.ofList cs) := by
  have bytes : cs.flatMap String.utf8EncodeChar = cs.map fun c => UInt8.ofNat c.toNat := by
    induction cs with
    | nil => rfl
    | cons c rest ih =>
      rw [List.flatMap_cons, utf8EncodeChar_of_ascii (h c (by simp)),
        ih (fun d hd => h d (by simp [hd])), List.map_cons, List.singleton_append]
  rw [decodeUtf8, utf8Bytes_ofList, bytes, decodeFrom_ascii h]
  rfl

/-! ## Line breaks -/

theorem unifyLineBreaks_of_notMem {cs : List Char} (h : '\r' ∉ cs) : unifyLineBreaks cs = cs := by
  have go (done : List Char) : unifyLineBreaks.go done cs = done.reverse ++ cs := by
    induction cs generalizing done with
    | nil => simp [unifyLineBreaks.go]
    | cons c rest ih =>
      simp only [List.mem_cons, not_or] at h
      have plain : c ≠ '\r' := Ne.symm h.1
      rw [unifyLineBreaks.go, if_neg plain, ih h.2, List.reverse_cons, List.append_assoc,
        List.singleton_append]
      exact fun _ hc _ => plain hc
  exact go []

end ProofDriver.Text

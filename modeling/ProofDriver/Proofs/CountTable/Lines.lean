import Mathlib.Data.List.Perm.Basic
import Mathlib.Data.List.TakeWhile
import ProofDriver.Proofs.CountTable
import ProofDriver.Proofs.Json.Integers
import ProofDriver.Proofs.Value
/-!
# What the lines of a table show

A table of integers is shown whole: each line is for one entry and gives it back. The lines stand in
an order in which no two entries share a place, so they do not tell in which order the entries came
into the table. All this is of counts that can be written: one count of too many digits, and the table
has no lines.
-/

namespace ProofDriver

namespace CountTable

abbrev Entry := CodeString × Int

variable {a b entry : Entry} {counts counts' : List Entry} {width : Nat}

def ofCounts (counts : List Entry) : CountTable :=
  counts.map fun entry => (.text entry.1, .int entry.2)

/-! ## The order of entries -/

/-- The larger count comes first and, of equal counts, the smaller name. -/
def Ahead (a b : Entry) : Prop :=
  b.2 < a.2 ∨ a.2 = b.2 ∧ a.1 < b.1

def entryRow (entry : Entry) : Row where
  weight := .int (-entry.2)
  name := .text entry.1
  count := .int entry.2

theorem rows_ofCounts (counts : List Entry) :
    rows (ofCounts counts) = .ok (counts.map entryRow) := by
  induction counts with
  | nil => rfl
  | cons entry rest ih =>
    have first : row (.text entry.1, .int entry.2) = .ok (entryRow entry) := rfl
    unfold ofCounts at ih ⊢
    rw [List.map_cons, rows, first, ih]
    rfl

theorem before_entryRow :
    (entryRow a).before (entryRow b) = true ↔ b.2 < a.2 ∨ a.2 = b.2 ∧ a.1 ≤ b.1 := by
  have lt (m n : Int) : (Number.int (-m)).lt (.int (-n)) = decide (n < m) := by
    rw [Number.lt, Number.compare?, Binary64.compare_neg_neg]
    rcases Int.lt_trichotomy n m with below | rfl | above
    · simp [Int.compare_eq_lt.mpr below, below]
    · simp
    · simp [Int.compare_eq_gt.mpr above, Int.le_of_lt above]
  simp only [Row.before, entryRow, lt, decide_eq_true_eq]
  split
  · rename_i larger
    simp [larger]
  · split
    · rename_i smaller
      simp [Int.ne_of_lt smaller, Int.le_of_lt smaller]
    · have same : a.2 = b.2 := by omega
      simp [same]

theorem before_trans (a b c : Entry) (first : (entryRow a).before (entryRow b) = true)
    (second : (entryRow b).before (entryRow c) = true) :
    (entryRow a).before (entryRow c) = true := by
  rw [before_entryRow] at first second ⊢
  rcases first with larger | ⟨same, name⟩
  · exact .inl (by omega)
  · rcases second with larger | ⟨same', name'⟩
    · exact .inl (by omega)
    · exact .inr ⟨same.trans same', CodeString.le_trans name name'⟩

theorem before_total (a b : Entry) :
    ((entryRow a).before (entryRow b) || (entryRow b).before (entryRow a)) = true := by
  rw [Bool.or_eq_true, before_entryRow, before_entryRow]
  have names := CodeString.le_total a.1 b.1
  rcases Int.lt_trichotomy a.2 b.2 with below | same | above
  · exact .inr (.inl below)
  · exact names.imp (fun name => .inr ⟨same, name⟩) fun name => .inr ⟨same.symm, name⟩
  · exact .inl (.inl above)

theorem before_antisymm (first : (entryRow a).before (entryRow b) = true)
    (second : (entryRow b).before (entryRow a) = true) : a = b := by
  rw [before_entryRow] at first second
  have count : a.2 = b.2 := by omega
  have name : a.1 = b.1 := by
    rcases first with larger | ⟨-, le⟩
    · omega
    · rcases second with larger | ⟨-, ge⟩
      · omega
      · exact CodeString.le_antisymm le ge
  exact Prod.ext name count

def inOrder (counts : List Entry) : List Entry :=
  counts.mergeSort fun a b => (entryRow a).before (entryRow b)

theorem inOrder_perm (counts : List Entry) : (inOrder counts).Perm counts :=
  List.mergeSort_perm ..

theorem inOrder_pairwise (counts : List Entry) :
    (inOrder counts).Pairwise fun a b => (entryRow a).before (entryRow b) = true :=
  List.pairwise_mergeSort before_trans before_total counts

theorem inOrder_eq_of_perm (perm : counts'.Perm counts) : inOrder counts' = inOrder counts :=
  Sorting.mergeSort_eq_of_perm before_trans before_total
    (fun _ _ _ _ => before_antisymm) perm

theorem ahead_inOrder (distinct : (counts.map Prod.fst).Nodup) :
    (inOrder counts).Pairwise Ahead := by
  have names : (inOrder counts).Pairwise fun a b => a.1 ≠ b.1 :=
    List.pairwise_map.mp (((inOrder_perm counts).map Prod.fst).nodup_iff.mpr distinct)
  -- The order leaves open only which of two equal entries comes first, and there are none.
  refine ((inOrder_pairwise counts).and names).imp ?_
  rintro a b ⟨before, different⟩
  rcases before_entryRow.mp before with larger | ⟨same, name⟩
  · exact .inl larger
  · exact .inr ⟨same, CodeString.lt_of_le_of_ne name different⟩

theorem sortRows_entries (counts : List Entry) :
    sortRows (counts.map entryRow) = .ok ((inOrder counts).map entryRow) := by
  have orderly : (counts.map entryRow).all (fun r => r.orderly?.isSome) = true := by
    rw [List.all_map, List.all_eq_true]
    exact fun _ _ => rfl
  have moved : (inOrder counts).map entryRow = (counts.map entryRow).mergeSort Row.before :=
    List.map_mergeSort fun _ _ _ _ => rfl
  rw [sortRows, if_pos orderly, moved]

/-! ## The width of the counts -/

/-- The width is the length of the longest count. -/
structure Widest (counts : List Entry) (width : Nat) : Prop where
  le : ∀ entry ∈ counts, (toString entry.2).length ≤ width
  reached : counts ≠ [] → ∃ entry ∈ counts, (toString entry.2).length = width

theorem width_ofCounts (counts : List Entry) :
    (ofCounts counts).width = (counts.map fun entry => (toString entry.2).length).foldl max 0 := by
  rw [List.foldl_map]
  exact List.foldl_map

theorem width_eq_of_perm (perm : counts'.Perm counts) :
    (ofCounts counts').width = (ofCounts counts).width := by
  rw [width_ofCounts, width_ofCounts]
  exact (perm.map _).foldl_op_eq

theorem widest_width (counts : List Entry) :
    Widest counts (ofCounts counts).width := by
  rw [width_ofCounts, List.foldl_max, Nat.zero_max]
  cases longest : (counts.map fun entry => (toString entry.2).length).max? with
  | none =>
    obtain rfl : counts = [] := List.map_eq_nil_iff.mp (List.max?_eq_none_iff.mp longest)
    exact ⟨nofun, fun some => absurd rfl some⟩
  | some width =>
    obtain ⟨mem, le⟩ := List.max?_eq_some_iff.mp longest
    exact ⟨fun entry here => le _ (List.mem_map_of_mem here), fun _ => List.mem_map.mp mem⟩

/-! ## Reading a count -/

theorem exists_digitChar_of_mem {n : Nat} {c : Char} (mem : c ∈ Nat.toDigits 10 n) :
    ∃ k < 10, c = Nat.digitChar k := by
  induction n using Nat.strongRecOn with
  | ind n ih =>
    rw [Nat.toDigits_eq_if (by decide)] at mem
    split at mem
    · rename_i small
      exact ⟨n, small, List.mem_singleton.mp mem⟩
    · rename_i large
      rcases List.mem_append.mp mem with higher | last
      · exact ih (n / 10) (by omega) higher
      · exact ⟨n % 10, by omega, List.mem_singleton.mp last⟩

/-- What reading an integer does with the digits that it is written in. -/
structure Plain (c : Char) : Prop where
  digit : Numeral.isDigit c = true
  value : Text.digitValue? c = Text.asciiDigit? c
  space : Numeral.isSpace c = false
  minus : c ≠ '-'
  plus : c ≠ '+'
  underscore : c ≠ '_'

theorem plain_of_mem_toDigits {n : Nat} {c : Char} (mem : c ∈ Nat.toDigits 10 n) : Plain c := by
  have known : ∀ k < 10, Numeral.isDigit (Nat.digitChar k) = true ∧
      Text.digitValue? (Nat.digitChar k) = Text.asciiDigit? (Nat.digitChar k) ∧
      Numeral.isSpace (Nat.digitChar k) = false ∧ Nat.digitChar k ≠ '-' ∧
      Nat.digitChar k ≠ '+' ∧ Nat.digitChar k ≠ '_' := by
    decide
  obtain ⟨k, small, rfl⟩ := exists_digitChar_of_mem mem
  obtain ⟨digit, value, space, minus, plus, underscore⟩ := known k small
  exact ⟨digit, value, space, minus, plus, underscore⟩

theorem dropUnderscores_of_plain {cs : List Char} (plain : ∀ c ∈ cs, Plain c) :
    Numeral.dropUnderscores cs = some cs := by
  suffices goOn : ∀ afterDigit done,
      Numeral.dropUnderscores.go afterDigit done cs = some (done.reverse ++ cs) from goOn false []
  induction cs with
  | nil => simp [Numeral.dropUnderscores.go]
  | cons c rest ih =>
    obtain ⟨first, others⟩ := List.forall_mem_cons.mp plain
    intro afterDigit done
    rw [Numeral.dropUnderscores.go, if_neg first.underscore, ih others]
    · simp
    · intro d _ absurd
      exact (first.underscore absurd).elim

theorem trimSpace_eq_self {cs : List Char} (letters : ∀ c ∈ cs, Numeral.isSpace c = false) :
    Numeral.trimSpace cs = cs := by
  have kept {ds : List Char} (letters : ∀ c ∈ ds, Numeral.isSpace c = false) :
      ds.dropWhile Numeral.isSpace = ds := by
    cases ds with
    | nil => rfl
    | cons d rest => exact List.dropWhile_cons_of_neg (by simp [letters d List.mem_cons_self])
  have turned : ∀ c ∈ cs.reverse, Numeral.isSpace c = false :=
    fun c mem => letters c (List.mem_reverse.mp mem)
  rw [Numeral.trimSpace, kept letters, kept turned, List.reverse_reverse]

theorem takeSign_of_plain {cs : List Char} (plain : ∀ c ∈ cs, Plain c) :
    Numeral.takeSign cs = (false, cs) := by
  unfold Numeral.takeSign
  split
  · exact absurd rfl (plain _ List.mem_cons_self).minus
  · exact absurd rfl (plain _ List.mem_cons_self).plus
  · rfl

theorem readInt_of_takeSign (negative : Bool) {s : String} {n : Nat}
    (short : (Nat.toDigits 10 n).length ≤ Numeral.digitLimit)
    (sign : Numeral.takeSign (Numeral.trimSpace s.toList) = (negative, Nat.toDigits 10 n)) :
    Numeral.readInt s = .ok (if negative then -(n : Int) else n) := by
  have plain : ∀ c ∈ Nat.toDigits 10 n, Plain c := fun c => plain_of_mem_toDigits
  have run : (Nat.toDigits 10 n).takeWhile (fun c => Numeral.isDigit c || c == '_') =
      Nat.toDigits 10 n :=
    List.takeWhile_eq_self_iff.mpr fun c mem => by simp [(plain c mem).digit]
  have some : (Nat.toDigits 10 n).isEmpty = false := by simp [Nat.toDigits_ne_nil]
  have value : Text.ofDigits ((Nat.toDigits 10 n).filterMap Text.digitValue?) = n := by
    rw [List.filterMap_congr fun c mem => (plain c mem).value]
    exact Json.natOf_toDigits n
  unfold Numeral.readInt
  rw [sign]
  simp only [run, dropUnderscores_of_plain plain, if_neg (Nat.not_lt.mpr short), some,
    bne_self_eq_false, Bool.or_self, Bool.false_eq_true, if_false, value]

/-- A count that can be written is read as itself. -/
theorem readInt_toString {n : Int} (short : Numeral.isShort n = true) :
    Numeral.readInt (toString n) = .ok n := by
  rw [Numeral.isShort_iff] at short
  have plain : ∀ c ∈ Nat.toDigits 10 n.natAbs, Plain c := fun c => plain_of_mem_toDigits
  have letters : ∀ c ∈ Nat.toDigits 10 n.natAbs, Numeral.isSpace c = false :=
    fun c mem => (plain c mem).space
  rw [Int.toString_eq_repr, Int.repr_eq_if]
  split
  · rename_i positive
    have size : n.toNat = n.natAbs := by omega
    rw [size, readInt_of_takeSign false short, if_neg Bool.false_ne_true,
      Int.natAbs_of_nonneg positive]
    rw [Nat.toList_repr, trimSpace_eq_self letters, takeSign_of_plain plain]
  · rename_i negative
    have size : (-n).toNat = n.natAbs := by omega
    rw [size, readInt_of_takeSign true short, if_pos rfl]
    · exact congrArg Except.ok (by omega)
    · rw [String.toList_append, Nat.toList_repr]
      have signed : ∀ c ∈ '-' :: Nat.toDigits 10 n.natAbs, Numeral.isSpace c = false :=
        List.forall_mem_cons.mpr ⟨by decide, letters⟩
      exact congrArg Numeral.takeSign (trimSpace_eq_self signed)

/-! ## Lines -/

/-- No count has too many digits to be written. -/
def Short (counts : List Entry) : Prop :=
  ∀ entry ∈ counts, Numeral.isShort entry.2 = true

instance : Decidable (Short counts) :=
  List.decidableBAll _ counts

theorem Short.of_perm (short : Short counts) (perm : counts'.Perm counts) : Short counts' :=
  fun entry mem => short entry (perm.mem_iff.mp mem)

theorem all_isShowable_iff :
    (ofCounts counts).all (·.2.isShowable) = true ↔ Short counts := by
  simp [ofCounts, Value.isShowable, Short]

def isSpace (p : CodePoint) : Bool :=
  p == .char ' '

/-- The entry that a line shows: spaces at the left are skipped, the count goes up to the first
space after them, and the rest is the name. The count is read as the program reads integers. -/
def entryOf? (line : CodeString) : Option Entry :=
  let text := line.points.dropWhile isSpace
  match text.dropWhile (!isSpace ·) with
  | [] => none
  | _ :: name =>
    (Numeral.readInt (CodeString.toString ⟨text.takeWhile (!isSpace ·)⟩)).toOption.map
      fun n => (⟨name⟩, n)

/-- The entry in its line, with the count in the first `width` characters. -/
structure ShownIn (width : Nat) (entry : Entry) (line : CodeString) : Prop where
  /-- The count is flush right, and a space stands between it and the name. -/
  aligned : ∃ spaces, spaces + (toString entry.2).length = width ∧
    line = .ofString (String.ofList (List.replicate spaces ' ') ++ toString entry.2 ++ " ") ++
      entry.1
  column : line.points.drop (width + 1) = entry.1.points
  readBack : entryOf? line = some entry

/-- The text of a count has no space in it. -/
theorem isSpace_of_mem_count {n : Int} {p : CodePoint}
    (mem : p ∈ (CodeString.ofString (toString n)).points) : isSpace p = false := by
  obtain ⟨c, here, rfl⟩ := List.mem_map.mp mem
  have letter : c ≠ ' ' := by
    rintro rfl
    exact absurd (Json.mem_toString_int here) (by decide)
  simpa [isSpace] using letter

theorem exists_points_count (n : Int) :
    ∃ p ps, (CodeString.ofString (toString n)).points = p :: ps := by
  have some : (toString n).toList ≠ [] := by
    obtain ⟨d, ds, -, text | text⟩ := Json.toString_int n
    · rw [text]
      exact List.cons_ne_nil _ _
    · rw [text]
      exact List.cons_ne_nil _ _
  exact List.exists_cons_of_ne_nil (List.map_eq_nil_iff.not.mpr some)

theorem points_line (width : Nat) (entry : Entry) :
    (line width (entryRow entry)).points =
      List.replicate (width - (toString entry.2).length) (.char ' ') ++
        ((CodeString.ofString (toString entry.2)).points ++ .char ' ' :: entry.1.points) := by
  simp [line, entryRow, alignRight, countText, Value.shown, Value.quoted, nameText,
    CodeString.ofString]

theorem dropWhile_spaces (spaces : Nat) (n : Int) (rest : List CodePoint) :
    (List.replicate spaces (CodePoint.char ' ') ++
      ((CodeString.ofString (toString n)).points ++ rest)).dropWhile isSpace =
        (CodeString.ofString (toString n)).points ++ rest := by
  have skipped : ∀ p ∈ List.replicate spaces (CodePoint.char ' '), isSpace p = true := by
    intro p mem
    rw [List.eq_of_mem_replicate mem]
    rfl
  rw [List.dropWhile_append_of_pos skipped]
  have letters : ∀ p ∈ (CodeString.ofString (toString n)).points, isSpace p = false :=
    fun p => isSpace_of_mem_count
  obtain ⟨p, ps, points⟩ := exists_points_count n
  rw [points] at letters ⊢
  rw [List.cons_append, List.dropWhile_cons, letters p List.mem_cons_self]
  rfl

theorem entryOf?_line (width : Nat) (short : Numeral.isShort entry.2 = true) :
    entryOf? (line width (entryRow entry)) = some entry := by
  obtain ⟨name, n⟩ := entry
  have letters : ∀ p ∈ (CodeString.ofString (toString n)).points, (!isSpace p) = true :=
    fun p mem => by rw [isSpace_of_mem_count mem, Bool.not_false]
  have count : ((CodeString.ofString (toString n)).points ++ .char ' ' :: name.points).takeWhile
      (!isSpace ·) = (CodeString.ofString (toString n)).points := by
    rw [List.takeWhile_append_of_pos letters]
    exact List.append_nil _
  have rest : ((CodeString.ofString (toString n)).points ++ .char ' ' :: name.points).dropWhile
      (!isSpace ·) = .char ' ' :: name.points := by
    rw [List.dropWhile_append_of_pos letters]
    rfl
  unfold entryOf?
  rw [points_line, dropWhile_spaces]
  dsimp only
  rw [rest, count]
  dsimp only
  rw [CodeString.toString_ofString, readInt_toString short]
  rfl

theorem shownIn_line (short : Numeral.isShort entry.2 = true)
    (fits : (toString entry.2).length ≤ width) :
    ShownIn width entry (line width (entryRow entry)) where
  aligned := ⟨width - (toString entry.2).length, Nat.sub_add_cancel fits, rfl⟩
  column := by
    rw [points_line, ← List.append_assoc, List.append_cons]
    refine List.drop_left' ?_
    simp only [List.length_append, List.length_replicate, List.length_singleton]
    rw [CodeString.ofString, List.length_map, String.length_toList]
    omega
  readBack := entryOf?_line width short

theorem lines_ofCounts (short : Short counts) :
    (ofCounts counts).lines =
      .ok ((inOrder counts).map fun entry => line (ofCounts counts).width (entryRow entry)) := by
  have named : (ofCounts counts).all (·.1.isShowable) = true := by
    simp [ofCounts, Value.isShowable]
  rw [lines, if_pos (all_isShowable_iff.mpr short), rows_ofCounts, Except.ok_bind,
    sortRows_entries, Except.ok_bind, if_pos named, List.map_map]
  rfl

theorem lines_of_not_short (long : ¬ Short counts) :
    (ofCounts counts).lines = .error .integerTooLong := by
  rw [lines, if_neg (all_isShowable_iff.not.mpr long)]

theorem lines_eq_of_perm (short : Short counts) (perm : counts'.Perm counts) :
    (ofCounts counts').lines = (ofCounts counts).lines := by
  rw [lines_ofCounts short, lines_ofCounts (short.of_perm perm), inOrder_eq_of_perm perm,
    width_eq_of_perm perm]

/-- A table of integers that can be written has one line for each of its entries, the larger counts
first and, of equal counts, the smaller names. The counts are flush right, as wide as the longest of
them, so that the names begin in one column, and each line gives its entry back. A table with the same
entries in another order has the same lines. With a count of too many digits there are none. -/
theorem lines_show_every_entry (counts : List Entry) (distinct : (counts.map Prod.fst).Nodup) :
    (Short counts → ∃ entries width ls, (ofCounts counts).lines = .ok ls ∧
      entries.Perm counts ∧ entries.Pairwise Ahead ∧
      Widest counts width ∧ List.Forall₂ (ShownIn width) entries ls ∧
      ∀ counts', counts'.Perm counts → (ofCounts counts').lines = .ok ls) ∧
    (¬ Short counts → (ofCounts counts).lines = .error .integerTooLong) := by
  refine ⟨fun short => ?_, lines_of_not_short⟩
  have widest := widest_width counts
  have made := lines_ofCounts short
  refine ⟨inOrder counts, _, _, made, inOrder_perm counts, ahead_inOrder distinct, widest, ?_,
    fun counts' perm => (lines_eq_of_perm short perm).trans made⟩
  rw [List.forall₂_map_right_iff, List.forall₂_same]
  intro entry mem
  replace mem := (inOrder_perm counts).mem_iff.mp mem
  exact shownIn_line (short entry mem) (widest.le entry mem)

def tornName : CodeString := ⟨[.surrogate 0, .char ' ']⟩

def crowded : List Entry :=
  [("LW", -5), ("1 2", 120), ("", -5), (tornName, 7)]

def crowdedLines : List CodeString :=
  ["120 1 2", .ofString "  7 " ++ tornName, " -5 ", " -5 LW"]

theorem inOrder_crowded :
    inOrder crowded = ([("1 2", 120), (tornName, 7), ("", -5), ("LW", -5)] : List Entry) := by
  have perm : ([("1 2", 120), (tornName, 7), ("", -5), ("LW", -5)] : List Entry).Perm crowded := by
    decide
  rw [← inOrder_eq_of_perm perm]
  exact List.mergeSort_of_pairwise (by decide +kernel)

theorem exists_crowded_table :
    (crowded.map Prod.fst).Nodup ∧
      (ofCounts crowded).lines = .ok crowdedLines ∧
      (ofCounts crowded.reverse).lines = .ok crowdedLines ∧
      crowdedLines.map entryOf? =
        ([("1 2", 120), (tornName, 7), ("", -5), ("LW", -5)] : List Entry).map some := by
  have distinct : (crowded.map Prod.fst).Nodup := by decide
  have short : Short crowded := by decide +kernel
  obtain ⟨entries, width, ls, made, -, -, -, -, same⟩ :=
    (lines_show_every_entry crowded distinct).1 short
  have shown : (ofCounts crowded).lines = .ok crowdedLines := by
    rw [lines_ofCounts short, inOrder_crowded]
    decide +kernel
  obtain rfl := Except.ok.inj (made.symm.trans shown)
  exact ⟨distinct, made, same _ (List.reverse_perm _), by decide +kernel⟩

/-- An integer of too many digits leaves its table without lines. And a truth value is an integer that
is written with one digit, but as wide as its name. -/
theorem exists_table_without_lines :
    (ofCounts [("A", Numeral.leastLong)]).lines = .error .integerTooLong ∧
      lines [(.text "A", .bool true)] = .ok ["   1 A"] := by
  refine ⟨lines_of_not_short fun short => ?_, by decide +kernel⟩
  exact Bool.eq_false_iff.mp Numeral.isShort_leastLong (short _ List.mem_cons_self)

end CountTable

end ProofDriver

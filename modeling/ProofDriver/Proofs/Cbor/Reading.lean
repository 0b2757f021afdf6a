import ProofDriver.Proofs.Cbor
import ProofDriver.Proofs.Text.Ascii
/-!
# Reading items

The reader takes the kinds of items that there are, with heads of any width, and knows nothing of
how they are written. It gives back every item whose numbers fit in their heads, and leaves the bytes
after it alone; so different items have different bytes.
-/

namespace ProofDriver.Cbor

def split? (n : Nat) (data : Bytes) : Option (Bytes × Bytes) :=
  if n ≤ data.length then some (data.take n, data.drop n) else none

/-- The kind in a head, its number, and the bytes after it. The number stands in the low five bits of
the first byte, or in the bytes that these bits announce. -/
def readHead : Bytes → Option (Nat × Nat × Bytes)
  | [] => none
  | first :: data =>
    let kind := first.toNat / 32
    let low := first.toNat % 32
    if low < 24 then some (kind, low, data)
    else if low < 28 then
      (split? (trail low) data).map fun (number, rest) => (kind, Bytes.ofBigEndian number, rest)
    else none

def readMany {α : Type} (read : Bytes → Option (α × Bytes)) : Nat → Bytes → Option (List α × Bytes)
  | 0, data => some ([], data)
  | n + 1, data => do
    let (a, data) ← read data
    let (others, data) ← readMany read n data
    some (a :: others, data)

def readEntry (read : Bytes → Option (Cbor × Bytes)) (data : Bytes) :
    Option ((Cbor × Cbor) × Bytes) := do
  let (key, data) ← read data
  let (item, data) ← read data
  some ((key, item), data)

/-- The item at the beginning of the bytes. The number bounds how deep items are nested. -/
def readItem : Nat → Bytes → Option (Cbor × Bytes)
  | 0, _ => none
  | depth + 1, data => do
    let (kind, n, data) ← readHead data
    match kind with
    | 0 => some (uint n, data)
    | 2 =>
      let (content, data) ← split? n data
      some (bytes content, data)
    | 3 =>
      let (content, data) ← split? n data
      let s ← String.fromUTF8? ⟨content.toArray⟩
      some (text s, data)
    | 4 =>
      let (items, data) ← readMany (readItem depth) n data
      some (array items, data)
    | 5 =>
      let (entries, data) ← readMany (readEntry (readItem depth)) n data
      some (map entries, data)
    | _ => none

/-- The item that all of the bytes make up. A level of nesting has a byte of its own, so there are no
more levels than bytes. -/
def decode? (data : Bytes) : Option Cbor :=
  match readItem data.length data with
  | some (item, []) => some item
  | _ => none

/-! ## Heads -/

theorem some_bind {α β : Type} (a : α) (f : α → Option β) : (some a >>= f) = f a := rfl

theorem split?_append (data rest : Bytes) :
    split? data.length (data ++ rest) = some (data, rest) := by
  have enough : data.length ≤ (data ++ rest).length := by simp
  rw [split?, if_pos enough, List.take_left, List.drop_left]

theorem readMany_succ {α : Type} {read : Bytes → Option (α × Bytes)} {n : Nat} {a : α} {as : List α}
    {data next rest : Bytes} (first : read data = some (a, next))
    (others : readMany read n next = some (as, rest)) :
    readMany read (n + 1) data = some (a :: as, rest) := by
  rw [readMany, first, some_bind]
  dsimp only
  rw [others, some_bind]

theorem readEntry_of_read {read : Bytes → Option (Cbor × Bytes)} {key item : Cbor}
    {data next rest : Bytes} (first : read data = some (key, next))
    (second : read next = some (item, rest)) :
    readEntry read data = some ((key, item), rest) := by
  rw [readEntry, first, some_bind]
  dsimp only
  rw [second, some_bind]

theorem readHead_head {kind n : Nat} (hkind : kind < 8) (fits : n < 256 ^ 8) (rest : Bytes) :
    readHead (head kind n ++ rest) = some (kind, n, rest) := by
  have small : lead n ≤ 27 := lead_le n
  have first : (UInt8.ofNat (32 * kind + lead n)).toNat = 32 * kind + lead n := by
    rw [UInt8.toNat_ofNat']
    omega
  have quotient : (32 * kind + lead n) / 32 = kind := by omega
  have remainder : (32 * kind + lead n) % 32 = lead n := by omega
  rw [head_eq, List.cons_append, readHead]
  simp only [first, quotient, remainder]
  rcases lt_of_lead fits with ⟨same, below⟩ | ⟨above, fits⟩
  · rw [if_pos (by omega), same, trail_of_lt below]
    rfl
  · have split := split?_append (Bytes.bigEndian (trail (lead n)) n) rest
    rw [Bytes.length_bigEndian] at split
    rw [if_neg (by omega), if_pos (by omega), split, Option.map_some,
      Bytes.ofBigEndian_bigEndian_of_lt fits]

theorem length_head_pos (kind n : Nat) : 0 < (head kind n).length := by
  rw [head_eq]
  exact Nat.succ_pos _

/-! ## Items -/

theorem fromUTF8?_toUTF8 (s : String) : String.fromUTF8? ⟨s.toUTF8.toList.toArray⟩ = some s := by
  have same : (⟨s.toUTF8.toList.toArray⟩ : ByteArray) = s.toUTF8 := by
    rw [ByteArray.toList_eq]
  rw [same, String.fromUTF8?]
  exact dif_pos s.isValidUTF8

theorem length_toUTF8 (s : String) : s.toUTF8.toList.length = s.toUTF8.size := by
  rw [ByteArray.toList_eq]
  rfl

theorem readItem_head {kind n depth : Nat} (hkind : kind < 8) (fits : n < 256 ^ 8) (rest : Bytes) :
    readItem (depth + 1) (head kind n ++ rest) =
      match kind with
      | 0 => some (uint n, rest)
      | 2 => do
        let (content, data) ← split? n rest
        some (bytes content, data)
      | 3 => do
        let (content, data) ← split? n rest
        let s ← String.fromUTF8? ⟨content.toArray⟩
        some (text s, data)
      | 4 => do
        let (items, data) ← readMany (readItem depth) n rest
        some (array items, data)
      | 5 => do
        let (entries, data) ← readMany (readEntry (readItem depth)) n rest
        some (map entries, data)
      | _ => none := by
  rw [readItem, readHead_head hkind fits]
  rfl

mutual

/-- An item is read back with any bytes behind it. -/
theorem readItem_encode {item : Cbor} {depth : Nat} (fits : item.Fits)
    (enough : item.encode.length ≤ depth) (rest : Bytes) :
    readItem depth (item.encode ++ rest) = some (item, rest) := by
  have headed : item.encode = head item.kind item.size ++ item.body := encode_eq item
  have length : item.encode.length = (head item.kind item.size).length + item.body.length := by
    rw [headed, List.length_append]
  have positive := length_head_pos item.kind item.size
  obtain ⟨depth, rfl⟩ : ∃ d, depth = d + 1 := ⟨depth - 1, by omega⟩
  have inner : item.body.length ≤ depth := by omega
  rw [headed, List.append_assoc, readItem_head item.kind_lt fits.size_lt]
  match item with
  | uint n => rfl
  | bytes data =>
    simp only [kind, size, body, split?_append, some_bind]
  | text s =>
    simp only [kind, size, body, ← length_toUTF8, split?_append, some_bind, fromUTF8?_toUTF8]
  | array items =>
    simp only [kind, size, body, readMany_encodeItems fits.2 inner, some_bind]
  | map entries =>
    simp only [kind, size, body, readMany_encodeEntries fits.2 inner, some_bind]

theorem readMany_encodeItems {items : List Cbor} {depth : Nat} (fits : ItemsFit items)
    (enough : (encodeItems items).length ≤ depth) (rest : Bytes) :
    readMany (readItem depth) items.length (encodeItems items ++ rest) = some (items, rest) := by
  match items with
  | [] => rfl
  | item :: items =>
    rw [encodeItems, List.length_append] at enough
    rw [encodeItems, List.append_assoc]
    have first : readItem depth (item.encode ++ (encodeItems items ++ rest)) =
        some (item, encodeItems items ++ rest) := readItem_encode fits.1 (by omega) _
    exact readMany_succ first (readMany_encodeItems fits.2 (by omega) rest)

theorem readMany_encodeEntries {entries : List (Cbor × Cbor)} {depth : Nat}
    (fits : EntriesFit entries) (enough : (encodeEntries entries).length ≤ depth) (rest : Bytes) :
    readMany (readEntry (readItem depth)) entries.length (encodeEntries entries ++ rest) =
      some (entries, rest) := by
  match entries with
  | [] => rfl
  | (key, item) :: entries =>
    rw [encodeEntries, List.length_append, List.length_append] at enough
    rw [encodeEntries, List.append_assoc, List.append_assoc]
    have name : readItem depth (key.encode ++ (item.encode ++ (encodeEntries entries ++ rest))) =
        some (key, item.encode ++ (encodeEntries entries ++ rest)) :=
      readItem_encode fits.1 (by omega) _
    have value : readItem depth (item.encode ++ (encodeEntries entries ++ rest)) =
        some (item, encodeEntries entries ++ rest) := readItem_encode fits.2.1 (by omega) _
    exact readMany_succ (readEntry_of_read name value)
      (readMany_encodeEntries fits.2.2 (by omega) rest)

end

theorem decode?_encode {item : Cbor} (fits : item.Fits) : decode? item.encode = some item := by
  have whole := readItem_encode fits (Nat.le_refl item.encode.length) []
  rw [List.append_nil] at whole
  rw [decode?, whole]

theorem encode_inj {a b : Cbor} (ha : a.Fits) (hb : b.Fits) (same : a.encode = b.encode) :
    a = b := by
  have read : some a = some b :=
    calc some a = decode? a.encode := (decode?_encode ha).symm
      _ = decode? b.encode := by rw [same]
      _ = some b := decode?_encode hb
  exact Option.some.inj read

end ProofDriver.Cbor

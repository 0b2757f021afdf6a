import Mathlib.Tactic.SplitIfs
import ProofDriver.Cbor
import ProofDriver.Proofs.Bytes
/-!
# Heads and what comes after them

An item is a head and a body. The low five bits of the first byte hold the number of the head, or say
how many bytes after it do; a number that fits in eight bytes fits in those.
-/

namespace ProofDriver.Cbor

/-! ## Heads -/

def lead (n : Nat) : Nat :=
  if n < 24 then n
  else if n < 256 then 24
  else if n < 65536 then 25
  else if n < 4294967296 then 26
  else 27

def trail : Nat → Nat
  | 24 => 1
  | 25 => 2
  | 26 => 4
  | 27 => 8
  | _ => 0

theorem trail_of_lt {n : Nat} (small : n < 24) : trail n = 0 := by
  unfold trail
  split <;> omega

theorem lead_le (n : Nat) : lead n ≤ 27 := by
  unfold lead
  split_ifs <;> omega

theorem head_eq (kind n : Nat) :
    head kind n = UInt8.ofNat (32 * kind + lead n) :: Bytes.bigEndian (trail (lead n)) n := by
  unfold head
  by_cases h₀ : n < 24
  · simp only [lead, h₀, if_true, trail_of_lt h₀]
    rfl
  · by_cases h₁ : n < 256
    · simp only [lead, h₀, h₁, if_true, if_false, trail]
    · by_cases h₂ : n < 65536
      · simp only [lead, h₀, h₁, h₂, if_true, if_false, trail]
      · by_cases h₃ : n < 4294967296
        · simp only [lead, h₀, h₁, h₂, h₃, if_true, if_false, trail]
        · simp only [lead, h₀, h₁, h₂, h₃, if_false, trail]

theorem lt_of_lead {n : Nat} (fits : n < 256 ^ 8) :
    lead n = n ∧ n < 24 ∨ 24 ≤ lead n ∧ n < 256 ^ trail (lead n) := by
  by_cases small : n < 24
  · exact .inl ⟨if_pos small, small⟩
  · right
    unfold lead
    split_ifs <;> simp only [trail] <;> omega

/-! ## Items -/

def kind : Cbor → Nat
  | uint _ => 0
  | bytes _ => 2
  | text _ => 3
  | array _ => 4
  | map _ => 5

def size : Cbor → Nat
  | uint n => n
  | bytes data => data.length
  | text s => s.toUTF8.size
  | array items => items.length
  | map entries => entries.length

def body : Cbor → Bytes
  | uint _ => []
  | bytes data => data
  | text s => s.toUTF8.toList
  | array items => encodeItems items
  | map entries => encodeEntries entries

theorem encode_eq (item : Cbor) : item.encode = head item.kind item.size ++ item.body := by
  cases item with
  | uint n => rw [encode, body, List.append_nil, kind, size]
  | bytes _ | text _ | array _ | map _ => rw [encode, kind, size, body]

theorem kind_lt (item : Cbor) : item.kind < 8 := by
  cases item <;> simp [kind]

mutual

/-- Every number in a head of the item fits in eight bytes. -/
def Fits : Cbor → Prop
  | uint n => n < 256 ^ 8
  | bytes data => data.length < 256 ^ 8
  | text s => s.toUTF8.size < 256 ^ 8
  | array items => items.length < 256 ^ 8 ∧ ItemsFit items
  | map entries => entries.length < 256 ^ 8 ∧ EntriesFit entries

def ItemsFit : List Cbor → Prop
  | [] => True
  | item :: rest => item.Fits ∧ ItemsFit rest

def EntriesFit : List (Cbor × Cbor) → Prop
  | [] => True
  | (key, item) :: rest => key.Fits ∧ item.Fits ∧ EntriesFit rest

end

theorem Fits.size_lt {item : Cbor} (h : item.Fits) : item.size < 256 ^ 8 := by
  cases item with
  | uint _ | bytes _ | text _ => simpa only [Fits, size] using h
  | array _ | map _ =>
    rw [Fits] at h
    exact h.1

theorem itemsFit_iff {items : List Cbor} : ItemsFit items ↔ ∀ item ∈ items, item.Fits := by
  induction items with
  | nil => simp [ItemsFit]
  | cons item rest ih => simp [ItemsFit, ih]

end ProofDriver.Cbor

import Mathlib.Tactic.NormNum
import ProofDriver.Hash.Tagged
import ProofDriver.Proofs.Bytes
/-!
# No two lists are absorbed alike

Each part goes in behind its length, so what is absorbed under one tag gives the parts back. A tag
goes in without its length; the tags of the domains are told apart because none begins with another.
-/

namespace ProofDriver.Hash

def framed (part : Bytes) : Bytes :=
  Bytes.bigEndian 8 part.length ++ part

theorem framed_append_inj {part part' s t : Bytes} (h : part.length < 256 ^ 8)
    (h' : part'.length < 256 ^ 8) (same : framed part ++ s = framed part' ++ t) :
    part = part' ∧ s = t := by
  rw [framed, framed, List.append_assoc, List.append_assoc] at same
  obtain ⟨lengths, rest⟩ := List.append_inj same (by simp)
  have length : part.length = part'.length := Bytes.bigEndian_inj h h' lengths
  exact List.append_inj rest length

theorem framed_ne_nil (part : Bytes) : framed part ≠ [] := by
  intro empty
  have length := congrArg List.length empty
  simp [framed] at length

theorem flatMap_framed_inj {parts parts' : List Bytes} (h : ∀ p ∈ parts, p.length < 256 ^ 8)
    (h' : ∀ p ∈ parts', p.length < 256 ^ 8)
    (same : parts.flatMap framed = parts'.flatMap framed) : parts = parts' := by
  induction parts generalizing parts' with
  | nil =>
    cases parts' with
    | nil => rfl
    | cons part rest => exact absurd (List.append_eq_nil_iff.mp same.symm).1 (framed_ne_nil part)
  | cons part rest ih =>
    cases parts' with
    | nil => exact absurd (List.append_eq_nil_iff.mp same).1 (framed_ne_nil part)
    | cons part' rest' =>
      rw [List.forall_mem_cons] at h h'
      rw [List.flatMap_cons, List.flatMap_cons] at same
      obtain ⟨rfl, tails⟩ := framed_append_inj h.1 h'.1 same
      rw [ih h.2 h'.2 tails]

theorem absorb_inj {tag : Bytes} {parts parts' : List Bytes}
    (h : ∀ p ∈ parts, p.length < 256 ^ 8) (h' : ∀ p ∈ parts', p.length < 256 ^ 8)
    (same : absorb tag parts = absorb tag parts') : parts = parts' :=
  flatMap_framed_inj h h' (List.append_cancel_left same)

/-! ## Domains -/

variable {d d' : Domain}

theorem Domain.eq_of_prefix (begins : d.tag <+: d'.tag) : d = d' := by
  cases d <;> cases d' <;> first | rfl | exact absurd begins (by decide +kernel)

theorem Domain.tag_append_inj {s t : Bytes} (same : d.tag ++ s = d'.tag ++ t) : d = d' ∧ s = t := by
  have first : d.tag <+: d'.tag ++ t := ⟨s, same⟩
  have second : d'.tag <+: d'.tag ++ t := List.prefix_append _ _
  obtain rfl : d = d' := by
    rcases List.prefix_or_prefix_of_prefix first second with begins | begins
    · exact Domain.eq_of_prefix begins
    · exact (Domain.eq_of_prefix begins).symm
  exact ⟨rfl, List.append_cancel_left same⟩

theorem domain_absorb_inj {parts parts' : List Bytes} (h : ∀ p ∈ parts, p.length < 256 ^ 8)
    (h' : ∀ p ∈ parts', p.length < 256 ^ 8) (same : absorb d.tag parts = absorb d'.tag parts') :
    d = d' ∧ parts = parts' := by
  obtain ⟨rfl, -⟩ := Domain.tag_append_inj same
  exact ⟨rfl, absorb_inj h h' same⟩

/-- Two different messages with one digest. -/
def Collision (x y : Bytes) : Prop :=
  x ≠ y ∧ Sha256.digest x = Sha256.digest y

/-- What is absorbed for a domain gives back the domain and the parts, however many there are and
whatever they hold. So where the two messages do not collide, one digest is of one domain and of the
same parts. -/
theorem absorbed_tells_domain_and_parts (d d' : Domain) (parts parts' : List Bytes)
    (h : ∀ p ∈ parts, p.length < 2 ^ 64) (h' : ∀ p ∈ parts', p.length < 2 ^ 64) :
    (absorb d.tag parts = absorb d'.tag parts' ↔ d = d' ∧ parts = parts') ∧
      (¬ Collision (absorb d.tag parts) (absorb d'.tag parts') →
        (tagged d.tag parts = tagged d'.tag parts' ↔ d = d' ∧ parts = parts')) := by
  have width : 2 ^ 64 = 256 ^ 8 := by norm_num
  rw [width] at h h'
  have read : absorb d.tag parts = absorb d'.tag parts' → d = d' ∧ parts = parts' :=
    domain_absorb_inj h h'
  constructor
  · constructor
    · exact read
    · rintro ⟨rfl, rfl⟩
      rfl
  · intro apart
    constructor
    · intro digests
      refine read ?_
      by_contra different
      exact apart ⟨different, digests⟩
    · rintro ⟨rfl, rfl⟩
      rfl

/-- A part that holds the frame of a second part is not taken for two parts, and the digests of the
two lists differ. -/
theorem exists_frame_inside_part :
    ∃ part part' : Bytes, (∀ p ∈ [part ++ framed part', part, part'], p.length < 2 ^ 64) ∧
      absorb Domain.coreProof.tag [part ++ framed part'] ≠
        absorb Domain.coreProof.tag [part, part'] ∧
      tagged Domain.coreProof.tag [part ++ framed part'] ≠
        tagged Domain.coreProof.tag [part, part'] := by
  have apart : ¬ Collision (absorb Domain.coreProof.tag [[1] ++ framed [2]])
      (absorb Domain.coreProof.tag [[1], [2]]) := by
    rintro ⟨-, digests⟩
    exact absurd digests (by decide +kernel)
  obtain ⟨messages, digests⟩ := absorbed_tells_domain_and_parts .coreProof .coreProof
    [[1] ++ framed [2]] [[1], [2]] (by decide) (by decide)
  have different : ¬ (Domain.coreProof = .coreProof ∧ [[1] ++ framed [2]] = [[1], [2]]) := by decide
  exact ⟨[1], [2], by decide, fun same => different (messages.mp same),
    fun same => different ((digests apart).mp same)⟩

end ProofDriver.Hash

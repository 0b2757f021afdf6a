import ProofDriver.Proofs.Prover.External
/-!
# Flawed results

What can be wrong with the result line of a process: it is absent or no JSON, it lacks a field, a
field is no hexadecimal text or no key, or it names another key than the one that is kept. Nothing is
made of such a line.
-/

namespace ProofDriver

namespace Output

inductive FlawedHex : Value → Prop
  | notText {v : Value} : (∀ s, v ≠ .text s) → FlawedHex v
  | notHex {s : CodeString} {f : HexFault} : Hex.decode s = .error f → FlawedHex (.text s)

inductive FlawedKey : Value → Prop
  | hex {v : Value} : FlawedHex v → FlawedKey v
  | length {s : CodeString} {data : Bytes} : Hex.decode s = .ok data → data.length ≠ 32 →
      FlawedKey (.text s)

/-- The output of `vkey` or `prove` has no result line that will do. A proof may name its key, which
has to be the one that is kept. -/
inductive Flawed (kept : Option VerifyingKey) (stdout : String) : Subcommand → Prop
  | absent {sub : Subcommand} : sub = .vkey ∨ sub = .prove → resultLine? stdout = none →
      Flawed kept stdout sub
  | notJson {sub : Subcommand} {line : List Char} {refusal : Json.Refusal} :
      sub = .vkey ∨ sub = .prove → resultLine? stdout = some line →
      Json.read line = .error refusal → Flawed kept stdout sub
  | keyless {v : Value} : result stdout = .ok v → field? v "vkey" = none →
      Flawed kept stdout .vkey
  | badKey {sub : Subcommand} {v key : Value} : sub = .vkey ∨ sub = .prove →
      result stdout = .ok v → field? v "vkey" = some key → FlawedKey key →
      Flawed kept stdout sub
  | valueless {v : Value} : result stdout = .ok v → field? v "publicValues" = none →
      Flawed kept stdout .prove
  | badValues {v values : Value} : result stdout = .ok v →
      field? v "publicValues" = some values → FlawedHex values → Flawed kept stdout .prove
  | otherKey {v : Value} {s : CodeString} {data : Bytes} {key : VerifyingKey} :
      result stdout = .ok v → field? v "vkey" = some (.text s) → Hex.decode s = .ok data →
      kept = some key → data ≠ key.digest → Flawed kept stdout .prove

variable {v : Value} {stdout : String} {kept : Option VerifyingKey} {key : VerifyingKey}
  {publicValues : Bytes}

theorem not_flawedHex {data : Bytes} (h : Hex.decodeValue v = .ok data) : ¬ FlawedHex v := by
  intro flawed
  cases flawed with
  | notText other =>
    cases v with
    | text s => exact other s rfl
    | _ => cases h
  | notHex refused => cases refused.symm.trans h

theorem digest_of_ofHex (h : VerifyingKey.ofHex v = .ok key) :
    Hex.decodeValue v = .ok key.digest := by
  unfold VerifyingKey.ofHex at h
  split at h
  · rename_i data decoded
    unfold VerifyingKey.ofBytes at h
    split at h
    · cases h
      exact decoded
    · cases h
  · cases h

theorem not_flawedKey (h : VerifyingKey.ofHex v = .ok key) : ¬ FlawedKey v := by
  have decoded := digest_of_ofHex h
  intro flawed
  cases flawed with
  | hex flawed => exact not_flawedHex decoded flawed
  | length decoded' length =>
    cases decoded'.symm.trans decoded
    exact length key.length_digest

theorem field?_of_field {name : String} {x : Value} (h : field v name = .ok x) :
    field? v name = some x := by
  unfold field at h
  split at h
  · rename_i found
    cases h
    exact found
  · cases h

theorem resultLine_of_result (h : result stdout = .ok v) :
    ∃ line, resultLine? stdout = some line ∧ Json.read line = .ok v := by
  unfold result at h
  split at h
  · cases h
  · rename_i line found
    refine ⟨line, found, ?_⟩
    cases read : Json.read line with
    | ok v' =>
      rw [read] at h
      cases h
      rfl
    | error refusal =>
      rw [read] at h
      cases h

theorem not_flawed_of_vkey (read : result stdout = .ok v) (h : vkey v = .ok key) :
    ¬ Flawed kept stdout .vkey := by
  obtain ⟨line, found, json⟩ := resultLine_of_result read
  obtain ⟨x, named, made⟩ := Except.bind_eq_ok.mp h
  replace named := field?_of_field named
  intro flawed
  cases flawed with
  | absent _ absent => cases absent.symm.trans found
  | notJson _ found' refused =>
    cases found'.symm.trans found
    cases refused.symm.trans json
  | keyless read' keyless =>
    cases read'.symm.trans read
    cases keyless.symm.trans named
  | badKey _ read' named' flawed =>
    cases read'.symm.trans read
    cases named'.symm.trans named
    exact not_flawedKey made flawed

theorem not_flawed_of_proved (read : result stdout = .ok v)
    (h : proved v key = .ok (publicValues, key)) : ¬ Flawed (some key) stdout .prove := by
  obtain ⟨line, found, json⟩ := resultLine_of_result read
  obtain ⟨x, given, h⟩ := Except.bind_eq_ok.mp h
  obtain ⟨data, decoded, h⟩ := Except.bind_eq_ok.mp h
  obtain ⟨key', made, h⟩ := Except.bind_eq_ok.mp h
  cases h
  replace given := field?_of_field given
  replace decoded := Prover.External.decodeValue_of_bytes decoded
  intro flawed
  cases flawed with
  | absent _ absent => cases absent.symm.trans found
  | notJson _ found' refused =>
    cases found'.symm.trans found
    cases refused.symm.trans json
  | badKey _ read' named flawed =>
    cases read'.symm.trans read
    rw [named] at made
    exact not_flawedKey made flawed
  | valueless read' valueless =>
    cases read'.symm.trans read
    cases valueless.symm.trans given
  | badValues read' given' flawed =>
    cases read'.symm.trans read
    cases given'.symm.trans given
    exact not_flawedHex decoded flawed
  | otherKey read' named decoded' kept other =>
    cases read'.symm.trans read
    cases kept
    rw [named] at made
    have same := digest_of_ofHex made
    cases decoded'.symm.trans same
    exact other rfl

theorem Flawed.failure {kept : Option VerifyingKey} {stdout : String} {sub : Subcommand}
    (h : Flawed kept stdout sub) : sub.failure = .proving := by
  cases h with
  | absent either _ | notJson either _ _ | badKey either _ _ _ =>
    rcases either with rfl | rfl <;> rfl
  | _ => rfl

end Output

end ProofDriver

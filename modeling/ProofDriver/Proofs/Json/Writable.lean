import ProofDriver.Proofs.Json.RoundTrip
/-!
# What has a text

A value has a text if none of its parts stands in the way: no byte string, and no integer with too
many digits. So a value of the kinds that documents keep (`Value.Simple`) is written only if it can
be read back (`Value.Plain`).
-/

namespace ProofDriver

/-- The value is built of nothing, truth values, integers, texts without lone surrogates, lists and
objects with every name once. -/
inductive Value.Simple : Value → Prop
  | null : Simple null
  | bool (b : Bool) : Simple (bool b)
  | int (n : Int) : Simple (int n)
  | text {s : CodeString} : s.Plain → Simple (text s)
  | list {items : List Value} : (∀ v ∈ items, Simple v) → Simple (list items)
  | object {fields : Fields} : (∀ f ∈ fields, f.1.Plain) → (∀ f ∈ fields, Simple f.2) →
      (fields.map Prod.fst).Nodup → Simple (object fields)

namespace Json

variable {v : Value} {text : String}

theorem itemObstacle?_eq_none {items : List Value} :
    itemObstacle? items = none ↔ ∀ v ∈ items, obstacle? v = none := by
  induction items with
  | nil => simp [itemObstacle?]
  | cons v rest ih => simp [itemObstacle?, ih]

theorem fieldObstacles_eq_map (fields : Fields) :
    fieldObstacles fields = fields.map fun f => (f.1, obstacle? f.2) := by
  induction fields with
  | nil => rfl
  | cons f rest ih => rw [fieldObstacles, ih, List.map_cons]

theorem obstacle?_object (fields : Fields) : obstacle? (.object fields) =
    ((fields.map fun f => (f.1, obstacle? f.2)).mergeSort byName).findSome? Prod.snd := by
  rw [obstacle?, fieldObstacles_eq_map]
  split
  · rename_i free
    rw [eq_comm, List.findSome?_eq_none_iff]
    intro o ho
    exact Option.isNone_iff_eq_none.mp (List.all_eq_true.mp free o (List.mem_mergeSort.mp ho))
  · rfl

theorem obstacle?_object_eq_none {fields : Fields} :
    obstacle? (.object fields) = none ↔ ∀ f ∈ fields, obstacle? f.2 = none := by
  rw [obstacle?_object, List.findSome?_eq_none_iff]
  constructor
  · intro h f hf
    exact h (f.1, obstacle? f.2) (List.mem_mergeSort.mpr (List.mem_map_of_mem hf))
  · intro h o ho
    obtain ⟨f, hf, rfl⟩ := List.mem_map.mp (List.mem_mergeSort.mp ho)
    exact h f hf

theorem obstacle?_int_eq_none {n : Int} :
    obstacle? (.int n) = none ↔ (Nat.toDigits 10 n.natAbs).length ≤ Numeral.digitLimit := by
  simp [obstacle?, Numeral.isShort_iff]

theorem obstacle?_of_plain (plain : v.Plain) : obstacle? v = none := by
  induction plain with
  | null | bool _ | text _ => rfl
  | int short => exact obstacle?_int_eq_none.mpr short
  | list plain ih =>
    rw [obstacle?]
    exact itemObstacle?_eq_none.mpr ih
  | object names plain distinct ih => exact obstacle?_object_eq_none.mpr ih

theorem write_eq_ok :
    write v = .ok text ↔ obstacle? v = none ∧ text = String.ofList (render 0 v) := by
  unfold write
  cases obstacle? v with
  | none => simp [eq_comm]
  | some why => simp

theorem write_of_plain (plain : v.Plain) : write v = .ok (String.ofList (render 0 v)) :=
  write_eq_ok.mpr ⟨obstacle?_of_plain plain, rfl⟩

theorem plain_of_simple (simple : v.Simple) (free : obstacle? v = none) : v.Plain := by
  induction simple with
  | null => exact .null
  | bool b => exact .bool b
  | int n => exact .int (obstacle?_int_eq_none.mp free)
  | text plain => exact .text plain
  | list _ ih =>
    rw [obstacle?] at free
    exact .list fun v hv => ih v hv (itemObstacle?_eq_none.mp free v hv)
  | object names _ distinct ih =>
    exact .object names (fun f hf => ih f hf (obstacle?_object_eq_none.mp free f hf)) distinct

end Json

end ProofDriver

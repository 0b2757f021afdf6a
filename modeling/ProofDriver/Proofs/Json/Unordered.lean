import Mathlib.Data.List.Nodup
import ProofDriver.Proofs.Json.Writable
import ProofDriver.Proofs.Sorting
/-!
# Objects as unordered maps

What an object says depends on its fields by name and not on their order. Values that differ in the
order of fields only (`Value.Alike`) have the same text, since it has the fields in the order of
their names, and what is read from the text is such a value.
-/

namespace ProofDriver

/-! ## Fields by name -/

namespace Fields

variable {fields fields' : Fields}

theorem get?_eq_some_iff (distinct : (fields.map Prod.fst).Nodup) {name : CodeString} {v : Value} :
    fields.get? name = some v ↔ (name, v) ∈ fields := by
  unfold get?
  induction fields with
  | nil => simp
  | cons f rest ih =>
    obtain ⟨key, old⟩ := f
    simp only [List.map_cons, List.nodup_cons] at distinct
    rw [List.lookup_cons]
    by_cases h : name = key
    · subst h
      have absent : (name, v) ∉ rest := fun hmem =>
        distinct.1 (List.mem_map.mpr ⟨_, hmem, rfl⟩)
      simp [absent, eq_comm]
    · have hne : (name == key) = false := by simpa using h
      simp [hne, h, ih distinct.2]

theorem isSome_get?_iff {name : CodeString} :
    (fields.get? name).isSome ↔ name ∈ fields.map Prod.fst := by
  rw [get?, List.lookup_isSome_iff, List.mem_map]
  constructor
  · rintro ⟨f, hf, same⟩
    exact ⟨f, hf, (beq_iff_eq.mp same).symm⟩
  · rintro ⟨f, hf, rfl⟩
    exact ⟨f, hf, beq_self_eq_true _⟩

theorem get?_perm (perm : fields.Perm fields') (distinct : (fields'.map Prod.fst).Nodup)
    (name : CodeString) : fields.get? name = fields'.get? name := by
  have distinct' : (fields.map Prod.fst).Nodup := (perm.map Prod.fst).nodup_iff.mpr distinct
  apply Option.ext
  intro v
  rw [get?_eq_some_iff distinct', get?_eq_some_iff distinct, perm.mem_iff]

theorem get?_map (g : Value → Value) (fields : Fields) (name : CodeString) :
    get? (fields.map fun f => (f.1, g f.2)) name = (fields.get? name).map g := by
  unfold get?
  induction fields with
  | nil => rfl
  | cons f rest ih =>
    rw [List.map_cons, List.lookup_cons, List.lookup_cons]
    cases name == f.1 with
    | true => rfl
    | false => exact ih

end Fields

/-! ## Entries in order -/

theorem Json.mergeSort_eq_of_perm {α : Type} {entries entries' : List (CodeString × α)}
    (perm : entries.Perm entries') (distinct : (entries'.map Prod.fst).Nodup) :
    entries.mergeSort byName = entries'.mergeSort byName := by
  refine Sorting.mergeSort_eq_of_perm ?_ ?_ ?_ perm
  · intro x y z below above
    exact decide_eq_true (CodeString.le_trans (of_decide_eq_true below) (of_decide_eq_true above))
  · intro x y
    simpa [byName] using CodeString.le_total x.1 y.1
  · intro x hx y hy below above
    have name : x.1 = y.1 :=
      CodeString.le_antisymm (of_decide_eq_true below) (of_decide_eq_true above)
    exact List.inj_on_of_nodup_map distinct hx hy name

/-! ## Values that are alike -/

/-- The same value, with the fields of objects as unordered maps. -/
inductive Value.Alike : Value → Value → Prop
  | same (v : Value) : Alike v v
  | list {items items' : List Value} (length : items.length = items'.length)
      (each : ∀ (i : Nat) v v', items[i]? = some v → items'[i]? = some v' → Alike v v') :
      Alike (list items) (list items')
  | object {fields fields' : Fields} (distinct : (fields.map Prod.fst).Nodup)
      (distinct' : (fields'.map Prod.fst).Nodup)
      (names : ∀ name, (fields.get? name).isSome = (fields'.get? name).isSome)
      (each : ∀ name v v', fields.get? name = some v → fields'.get? name = some v' → Alike v v') :
      Alike (object fields) (object fields')

section Entries

variable {α : Type} {g : Value → α} {fields fields' : Fields}
  (distinct : (fields.map Prod.fst).Nodup) (distinct' : (fields'.map Prod.fst).Nodup)
  (names : ∀ name, (fields.get? name).isSome = (fields'.get? name).isSome)
  (each : ∀ name v v', fields.get? name = some v → fields'.get? name = some v' → g v = g v')

include distinct distinct' names each

theorem Fields.mem_map_of_names {x : CodeString × α} (mem : x ∈ fields.map fun f => (f.1, g f.2)) :
    x ∈ fields'.map fun f => (f.1, g f.2) := by
  obtain ⟨⟨name, v⟩, there, rfl⟩ := List.mem_map.mp mem
  have found := (get?_eq_some_iff distinct).mpr there
  obtain ⟨v', found'⟩ := Option.isSome_iff_exists.mp ((names name).symm.trans (by rw [found]; rfl))
  rw [each name v v' found found']
  exact List.mem_map_of_mem (f := fun f : CodeString × Value => (f.1, g f.2))
    ((get?_eq_some_iff distinct').mp found')

theorem Fields.map_perm :
    (fields.map fun f => (f.1, g f.2)).Perm (fields'.map fun f => (f.1, g f.2)) := by
  have entries_nodup (fields : Fields) (distinct : (fields.map Prod.fst).Nodup) :
      (fields.map fun f => (f.1, g f.2)).Nodup := by
    refine List.Nodup.of_map Prod.fst ?_
    rwa [List.map_map]
  rw [List.perm_ext_iff_of_nodup (entries_nodup _ distinct) (entries_nodup _ distinct')]
  intro x
  refine ⟨mem_map_of_names distinct distinct' names each,
    mem_map_of_names distinct' distinct (fun name => (names name).symm) ?_⟩
  exact fun name v v' found found' => (each name v' v found' found).symm

theorem Fields.mergeSort_map_eq :
    (fields.map fun f => (f.1, g f.2)).mergeSort Json.byName =
      (fields'.map fun f => (f.1, g f.2)).mergeSort Json.byName :=
  Json.mergeSort_eq_of_perm (map_perm distinct distinct' names each) (by rwa [List.map_map])

end Entries

theorem Value.map_eq_of_each {α : Type} {g : Value → α} {items items' : List Value}
    (length : items.length = items'.length)
    (each : ∀ (i : Nat) v v', items[i]? = some v → items'[i]? = some v' → g v = g v') :
    items.map g = items'.map g := by
  refine List.ext_getElem (by simpa using length) fun i inside inside' => ?_
  rw [List.getElem_map, List.getElem_map]
  exact each i _ _ (List.getElem?_eq_getElem _) (List.getElem?_eq_getElem _)

namespace Json

variable {v w : Value}

theorem render_eq_of_alike (alike : v.Alike w) (depth : Nat) : render depth v = render depth w := by
  induction alike generalizing depth with
  | same v => rfl
  | list length _ ih =>
    rw [render, render, renderItems_eq_map, renderItems_eq_map,
      Value.map_eq_of_each length fun i v v' found found' => ih i v v' found found' (depth + 1)]
  | object distinct distinct' names _ ih =>
    rw [render, render, renderFields_eq_map, renderFields_eq_map,
      Fields.mergeSort_map_eq distinct distinct' names
        fun name v v' found found' => ih name v v' found found' (depth + 1)]

theorem itemObstacle?_eq_findSome? (items : List Value) :
    itemObstacle? items = (items.map obstacle?).findSome? id := by
  induction items with
  | nil => rfl
  | cons v rest ih =>
    rw [itemObstacle?, ih, List.map_cons, List.findSome?_cons]
    cases obstacle? v <;> rfl

theorem obstacle?_eq_of_alike (alike : v.Alike w) : obstacle? v = obstacle? w := by
  induction alike with
  | same v => rfl
  | list length _ ih =>
    rw [obstacle?, obstacle?, itemObstacle?_eq_findSome?, itemObstacle?_eq_findSome?,
      Value.map_eq_of_each length ih]
  | object distinct distinct' names _ ih =>
    rw [obstacle?_object, obstacle?_object, Fields.mergeSort_map_eq distinct distinct' names ih]

theorem write_eq_of_alike (alike : v.Alike w) : write v = write w := by
  rw [write, write, obstacle?_eq_of_alike alike, render_eq_of_alike alike]

end Json

theorem Value.Plain.alike_sorted {v : Value} (plain : v.Plain) : v.Alike v.sorted := by
  induction plain with
  | null | bool _ | int _ | text _ => exact .same _
  | @list items _ ih =>
    rw [sorted, sortedItems_eq_map]
    refine .list (List.length_map sorted).symm fun i v v' found found' => ?_
    rw [List.getElem?_map, found] at found'
    cases found'
    exact ih v (List.mem_of_getElem? found)
  | @object fields _ _ distinct ih =>
    have perm : ((fields.mergeSort byName).map fun f => (f.1, f.2.sorted)).Perm
        (fields.map fun f => (f.1, f.2.sorted)) := (List.mergeSort_perm ..).map _
    have distinct' : ((fields.map fun f => (f.1, f.2.sorted)).map Prod.fst).Nodup := by
      rwa [List.map_map]
    have lookup (name : CodeString) :
        Fields.get? ((fields.mergeSort byName).map fun f => (f.1, f.2.sorted)) name =
          (fields.get? name).map sorted :=
      (Fields.get?_perm perm distinct' name).trans (Fields.get?_map sorted fields name)
    rw [sorted_object]
    refine .object distinct ((perm.map Prod.fst).nodup_iff.mpr distinct') ?_ ?_
    · intro name
      rw [lookup, Option.isSome_map]
    · intro name v v' found found'
      rw [lookup, found] at found'
      cases found'
      exact ih (name, v) ((Fields.get?_eq_some_iff distinct).mp found)

end ProofDriver

import ProofDriver.Proofs.Delivery.Course
import ProofDriver.Proofs.FileSystem.Load
import ProofDriver.Proofs.Fixture
/-!
# What is written is read

A document of the kinds that are kept comes back from the file that it was saved to, with the fields
of its objects in another order, and so does the fixture that a document describes.
-/

namespace ProofDriver

namespace Disk

variable {disk disk' : Disk} {path : Path} {v w : Value}

theorem load_of_save (simple : v.Simple) (saved : disk.save path v = (.ok (), disk'))
    (readable : ∃ data, disk'.files.read path = .ok data) :
    v.Plain ∧ load disk'.files path = .ok v.sorted := by
  obtain ⟨text, written, -⟩ := stored_of_save saved
  obtain ⟨l, wrote⟩ := wrote_of_save saved
  obtain ⟨data, read⟩ := readable
  have plain := Json.plain_of_simple simple (Json.write_eq_ok.mp written).1
  exact ⟨plain, load_document plain (wrote.read read)⟩

theorem save_eq_of_alike (alike : v.Alike w) : disk.save path w = disk.save path v := by
  rw [save, save, Json.write_eq_of_alike alike]

end Disk

theorem Fixture.read_of_save {f : Fixture} {shown : String} {disk disk' : Disk}
    (decodes : f.Decodes) (integer : f.version ≠ .real)
    (saved : disk.save (Path.ofString shown) f.toValue = (.ok (), disk'))
    (readable : ∃ data, disk'.files.read (Path.ofString shown) = .ok data) :
    read disk'.files shown = .ok f := by
  have loaded := (Disk.load_of_save (simple_toValue decodes integer) saved readable).2
  rw [read, loaded]
  simp only [ofValue_sorted_toValue decodes]

namespace Delivery

variable {σ : Type}

theorem saved_of_store {f : Fixture} {path : Path} {w w' : World σ}
    (stored : (store f path).run w = (.ok (), w')) :
    w.disk.save path f.toValue = (.ok (), w'.disk) := by
  rcases saved : w.disk.save path f.toValue with ⟨r, disk⟩
  cases r with
  | ok _ =>
    obtain ⟨after, ran, -, rfl⟩ := run_store_of_ok saved
    cases ran.symm.trans stored
    rfl
  | error e => cases (run_store_of_error saved).symm.trans stored

/-- Documents come back from their files. Take any value of nothing, truth values, integers, texts
without lone surrogates, lists and objects, and any path where it is saved and then can be read:

1. what is loaded is the value, its objects taken as unordered maps;
2. a value that is the same in this sense is saved as the same bytes, with the same outcome;
3. a fixture that some document describes, with a version that is no double, is read as it was
   written. -/
theorem documents_round_trip :
    (∀ (disk disk' : Disk) (path : Path) (v : Value), v.Simple →
      disk.save path v = (.ok (), disk') → (∃ data, disk'.files.read path = .ok data) →
      ∃ w, Disk.load disk'.files path = .ok w ∧ v.Alike w) ∧
    (∀ (disk : Disk) (path : Path) (v w : Value), v.Alike w →
      disk.save path w = disk.save path v) ∧
    (∀ (w w' : World σ) (shown : String) (d : Value) (f : Fixture),
      Fixture.ofValue d = .ok f → f.version ≠ .real →
      (store f (Path.ofString shown)).run w = (.ok (), w') →
      (∃ data, w'.disk.files.read (Path.ofString shown) = .ok data) →
      Fixture.read w'.disk.files shown = .ok f) := by
  refine ⟨?_, fun disk path v w alike => Disk.save_eq_of_alike alike, ?_⟩
  · intro disk disk' path v simple saved readable
    obtain ⟨plain, loaded⟩ := Disk.load_of_save simple saved readable
    exact ⟨v.sorted, loaded, plain.alike_sorted⟩
  · intro w w' shown d f accepted integer stored readable
    exact Fixture.read_of_save (Fixture.decodes_of_ofValue accepted) integer (saved_of_store stored)
      readable

def reversed : Value :=
  .object [("b", .list [.null, .int 5]), ("a", .text "é")]

theorem simple_reversed : reversed.Simple := by
  refine .object ?_ ?_ (by decide)
  · intro f hf
    simp only [List.mem_cons, List.not_mem_nil, or_false] at hf
    rcases hf with rfl | rfl <;> exact ⟨_, rfl⟩
  · intro f hf
    simp only [List.mem_cons, List.not_mem_nil, or_false] at hf
    rcases hf with rfl | rfl
    · refine .list fun v hv => ?_
      simp only [List.mem_cons, List.not_mem_nil, or_false] at hv
      rcases hv with rfl | rfl
      · exact .null
      · exact .int 5
    · exact .text ⟨_, rfl⟩

/-- The document comes back from an empty disk, its fields in order. -/
theorem exists_document_read_back :
    ∃ disk' w, ({ files := {} } : Disk).save ⟨.relative, ["f"]⟩ reversed = (.ok (), disk') ∧
      Disk.load disk'.files ⟨.relative, ["f"]⟩ = .ok w ∧ reversed.Alike w := by
  have saves : (({ files := {} } : Disk).save ⟨.relative, ["f"]⟩ reversed).1.isOk = true := by
    decide +kernel
  have reads : ((({ files := {} } : Disk).save ⟨.relative, ["f"]⟩ reversed).2.files.read
      ⟨.relative, ["f"]⟩).isOk = true := by decide +kernel
  rcases saved : ({ files := {} } : Disk).save ⟨.relative, ["f"]⟩ reversed with ⟨r, disk'⟩
  rw [saved] at saves reads
  have readable : ∃ data, disk'.files.read ⟨.relative, ["f"]⟩ = .ok data := by
    cases read : disk'.files.read ⟨.relative, ["f"]⟩ with
    | ok data => exact ⟨data, rfl⟩
    | error f =>
      rw [read] at reads
      cases reads
  cases r with
  | ok _ =>
    obtain ⟨w, loaded, alike⟩ :=
      (@documents_round_trip Unit).1 _ _ _ _ simple_reversed saved readable
    exact ⟨disk', w, rfl, loaded, alike⟩
  | error e => cases saves

end Delivery

end ProofDriver

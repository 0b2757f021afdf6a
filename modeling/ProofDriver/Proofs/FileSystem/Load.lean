import ProofDriver.Proofs.FileSystem.Save
import ProofDriver.Proofs.Json.RoundTrip
import ProofDriver.Proofs.Text.Ascii
/-!
# Loading what was saved

The bytes that a save puts into a file are loaded as the value that was saved, sorted. `Wrote` is
what a successful save does to the tree as a whole.
-/

namespace ProofDriver

namespace FileSystem

def single (data : Bytes) : FileSystem where
  entries := [([], .directory 0o755), (["f"], .file 0o644 data)]

theorem read_single (data : Bytes) : (single data).read (Path.ofString "f") = .ok data := by
  have path : Path.ofString "f" = ⟨.relative, ["f"]⟩ := by decide
  have short : ¬pathLimit < (Path.render ⟨.relative, ["f"]⟩).utf8ByteSize := by decide
  have name : ¬nameLimit < "f".utf8ByteSize := by decide
  have plain : holdsNul ⟨.relative, ["f"]⟩ = false := by decide
  have search : (Node.directory 0o755).allows .search = true := by decide
  have readable : (Node.file 0o644 data).allows .read = true := by
    change Nat.testBit 0o644 8 = true
    decide
  simp [single, read, stat, locate, start, walk, barrier?, get?, List.lookup_cons, path, short,
    name, plain, search, readable]

end FileSystem

namespace Disk

variable {fs : FileSystem} {path : Path} {v : Value} {text : String}

def document (v : Value) : Bytes :=
  Text.utf8Bytes (String.ofList (Json.render 0 v ++ ['\n']))

theorem utf8Bytes_push (written : Json.write v = .ok text) :
    Text.utf8Bytes (text.push '\n') = document v := by
  unfold Json.write at written
  split at written
  · cases written
  · cases written
    rw [document, String.ofList_append]
    rfl

/-- From `fs` to `fs'` the document came to where `path` leads, and nothing else changed but that
directories were made where nothing stood. -/
structure Wrote (v : Value) (path : Path) (l : Location) (fs fs' : FileSystem) : Prop where
  cwd : fs'.cwd = fs.cwd
  reaches : fs'.Reaches path l
  noDirectory : ∀ mode, fs.get? l ≠ some (.directory mode)
  document : ∃ mode, fs'.get? l = some (.file mode (document v))
  elsewhere : ∀ l' ≠ l, fs'.get? l' = fs.get? l' ∨
    fs.get? l' = none ∧ ∃ mode, fs'.get? l' = some (.directory mode)

theorem wrote_of_save {disk disk' : Disk} (saved : disk.save path v = (.ok (), disk')) :
    ∃ l, Wrote v path l disk.files disk'.files := by
  obtain ⟨text, written, base, l, stored⟩ := stored_of_save saved
  refine ⟨l, stored.elsewhere.cwd.trans stored.grown.cwd, stored.reaches, ?_, ?_,
    fun l' => stored.get?_elsewhere⟩
  · intro mode found
    exact stored.noDirectory mode (stored.grown.get?_of_some found)
  · obtain ⟨bits, document, -⟩ := stored.document
    exact ⟨bits, by rw [document, utf8Bytes_push written]⟩

namespace Wrote

variable {l l' : Location} {fs' : FileSystem}

theorem get?_of_some {node : Node} (h : Wrote v path l fs fs') (apart : l' ≠ l)
    (found : fs.get? l' = some node) : fs'.get? l' = some node := by
  rcases h.elsewhere l' apart with same | ⟨vacant, -⟩
  · rw [same, found]
  · cases vacant.symm.trans found

theorem keepsWays (h : Wrote v path l fs fs') : fs.KeepsWays fs' := by
  refine ⟨h.cwd, fun place mode found => h.get?_of_some ?_ found⟩
  rintro rfl
  exact h.noDirectory mode found

theorem read (h : Wrote v path l fs fs') {data : Bytes} (read : fs'.read path = .ok data) :
    fs'.read path = .ok (Disk.document v) := by
  obtain ⟨mode, found⟩ := h.document
  rw [read, h.reaches.eq_of_read found read]

end Wrote

theorem readText_of_ascii {text : List Char} (ascii : ∀ c ∈ text, c.toNat < 0x80)
    (no_return : '\r' ∉ text)
    (read : fs.read path = .ok (Text.utf8Bytes (String.ofList text))) :
    readText fs path = .ok text := by
  rw [readText, read]
  simp only [Text.decodeUtf8_utf8Bytes_of_ascii ascii, String.toList_ofList,
    Text.unifyLineBreaks_of_notMem no_return]

theorem readText_document (plain : v.Plain) (read : fs.read path = .ok (document v)) :
    readText fs path = .ok (Json.render 0 v ++ ['\n']) := by
  have printed : Json.Printed (Json.render 0 v ++ ['\n']) :=
    (Json.printed_render plain 0).append (by decide)
  have ascii : ∀ c ∈ Json.render 0 v ++ ['\n'], c.toNat < 0x80 := by
    intro c hc
    rcases printed c hc with rfl | ⟨-, high⟩
    · decide
    · omega
  have no_return : '\r' ∉ Json.render 0 v ++ ['\n'] := by
    intro hc
    have := printed _ hc
    revert this
    decide
  exact readText_of_ascii ascii no_return read

theorem load_document (plain : v.Plain) (read : fs.read path = .ok (document v)) :
    load fs path = .ok v.sorted := by
  rw [load, readText_document plain read]
  simp only [Json.read_render plain]

end Disk

end ProofDriver

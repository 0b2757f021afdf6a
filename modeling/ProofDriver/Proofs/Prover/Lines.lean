import ProofDriver.Proofs.Fixture
import ProofDriver.Prover.Output
/-!
# Result lines

A prover writes an object on one line with a hexadecimal text in its last field. The driver reads
such a line as that object, whatever bytes the text stands for: no character of the line ends it,
and none is written as an escape.
-/

namespace ProofDriver

/-! ## Lines -/

namespace Text

def Whole (cs : List Char) : Prop :=
  ∀ c ∈ cs, isLineBreak c = false

instance (cs : List Char) : Decidable (Whole cs) :=
  List.decidableBAll _ cs

theorem splitLines_letter {c : Char} {rest : List Char} (letter : isLineBreak c = false) :
    splitLines (c :: rest) =
      match splitLines rest with
      | [] => [[c]]
      | line :: lines => (c :: line) :: lines := by
  have single : ∀ tail, c = '\r' → rest = '\n' :: tail → False := by
    rintro tail rfl -
    cases letter
  rw [splitLines.eq_3 c rest single, letter]
  rfl

theorem splitLines_of_whole {cs : List Char} (some : cs ≠ []) (whole : Whole cs) :
    splitLines cs = [cs] := by
  induction cs with
  | nil => exact absurd rfl some
  | cons c rest ih =>
    rw [splitLines_letter (whole c List.mem_cons_self)]
    cases rest with
    | nil => rfl
    | cons d rest => rw [ih nofun fun e mem => whole e (List.mem_cons_of_mem c mem)]

theorem trim_of_ends {first last : Char} {cs : List Char} (left : isBlank first = false)
    (right : isBlank last = false) : trim (first :: (cs ++ [last])) = first :: (cs ++ [last]) := by
  rw [trim, List.dropWhile_cons_of_neg (by simp [left]), List.reverse_cons, List.reverse_append,
    List.reverse_singleton, List.singleton_append, List.cons_append,
    List.dropWhile_cons_of_neg (by simp [right])]
  simp

end Text

open Text (isLineBreak Whole)

theorem VerifyingKey.ofHex_bytes32 (key : VerifyingKey) : ofHex (.text key.bytes32) = .ok key := by
  rw [ofHex, Hex.decodeValue, bytes32, Hex.decode_encode]
  simp only [ofBytes, key.length_digest]
  rfl

theorem Hex.isLineBreak_digit (n : Nat) : isLineBreak (digit n) = false := by
  have small : ∀ k < 16, isLineBreak (Nat.digitChar k) = false := by decide
  exact small _ (Nat.mod_lt n (by decide))

/-! ## Fields -/

namespace Json

def Literal (s : String) : Prop :=
  ∀ c ∈ s.toList, escapeChar c = [c] ∧ isLineBreak c = false

instance (s : String) : Decidable (Literal s) :=
  List.decidableBAll _ s.toList

theorem Literal.whole {s : String} (literal : Literal s) : Whole s.toList :=
  fun c mem => (literal c mem).2

theorem literal_hex (data : Bytes) : Literal (Hex.encode data) := by
  have small : ∀ k < 16, escapeChar (Nat.digitChar k) = [Nat.digitChar k] := by decide
  intro c mem
  rw [Hex.encode, String.toList_ofList, List.mem_cons, List.mem_cons] at mem
  rcases mem with rfl | rfl | mem
  · decide
  · decide
  · obtain ⟨n, rfl⟩ := Hex.exists_digit_of_mem mem
    exact ⟨small _ (Nat.mod_lt n (by decide)), Hex.isLineBreak_digit n⟩

theorem renderString_of_literal {s : String} (literal : Literal s) :
    renderString s = ("\"" ++ s ++ "\"").toList := by
  have same : s.toList.flatMap escapeChar = s.toList := by
    rw [List.flatMap_def, List.map_congr_left fun c mem => (literal c mem).1, ← List.flatMap_def,
      List.flatMap_singleton']
  rw [renderString, CodeString.ofString, List.flatMap_map, String.toList_append,
    String.toList_append]
  exact congrArg (fun cs => '"' :: cs ++ ['"']) same

theorem members_lastText (fuel : Nat) (done : Fields) (name text : String) (rest : List Char) :
    members (fuel + 2) done (renderField 0 (name, .text text) ++ '}' :: rest) =
      .ok (.object (done.put name (.text text)), rest) := by
  have read : value (fuel + 1) (renderString text ++ '}' :: rest) =
      .ok (.text text, '}' :: rest) := by
    rw [renderString, List.cons_append, List.cons_append, List.append_assoc,
      List.singleton_append, value, if_pos rfl, stringFrom_renderString]
    rfl
  have colon : skipSpace (':' :: ' ' :: (renderString text ++ '}' :: rest)) =
      ':' :: ' ' :: (renderString text ++ '}' :: rest) := skipSpace_of_head rfl
  have blank : skipSpace (' ' :: (renderString text ++ '}' :: rest)) =
      renderString text ++ '}' :: rest := skipSpace_of_begins (begins_string text)
  rw [renderField_append, render, members, stringFrom_renderString]
  simp only [colon, blank, read, skipSpace_of_head (c := '}') rfl]

def renderBefore (fields : Fields) : List Char :=
  fields.flatMap fun f => renderField 0 f ++ [',', ' ']

theorem renderBefore_cons (f : CodeString × Value) (fields : Fields) (rest : List Char) :
    renderBefore (f :: fields) ++ rest =
      renderField 0 f ++ ',' :: ' ' :: (renderBefore fields ++ rest) := by
  simp only [renderBefore, List.flatMap_cons, List.append_assoc, List.cons_append, List.nil_append]

theorem length_renderBefore_cons (f : CodeString × Value) (fields : Fields) :
    (renderBefore (f :: fields)).length =
      (renderField 0 f).length + (renderBefore fields).length + 2 := by
  have length := congrArg List.length (renderBefore_cons f fields [])
  simp only [List.append_nil, List.length_append, List.length_cons] at length
  omega

theorem length_le_renderBefore (fields : Fields) :
    fields.length ≤ (renderBefore fields).length := by
  induction fields with
  | nil => exact Nat.le_refl 0
  | cons f fields ih =>
    rw [length_renderBefore_cons, List.length_cons]
    omega

theorem exists_renderBefore (fields : Fields) (tail : List Char) :
    ∃ tail', renderBefore fields ++ '"' :: tail = '"' :: tail' := by
  cases fields with
  | nil => exact ⟨tail, rfl⟩
  | cons f fields =>
    rw [renderBefore_cons]
    exact ⟨_, rfl⟩

theorem members_renderBefore {fields : Fields} (names : ∀ f ∈ fields, f.1.Plain)
    (plain : ∀ f ∈ fields, f.2.Plain) (done : Fields) (tail : List Char) (fuel : Nat)
    (distinct : ((done ++ fields).map Prod.fst).Nodup)
    (long : (renderBefore fields).length ≤ fuel) :
    members (fuel + fields.length) done (renderBefore fields ++ '"' :: tail) =
      members fuel (done ++ fields.map fun f => (f.1, f.2.sorted)) ('"' :: tail) := by
  induction fields generalizing done with
  | nil => simp [renderBefore]
  | cons f fields ih =>
    have fresh : f.1 ∉ done.map Prod.fst := by
      rw [List.map_append, List.map_cons] at distinct
      exact fun h => (List.nodup_append.mp distinct).2.2 _ h _ (by simp) rfl
    rw [length_renderBefore_cons] at long
    obtain ⟨tail', begins⟩ := exists_renderBefore fields tail
    have next : skipSpace (',' :: ' ' :: (renderBefore fields ++ '"' :: tail)) =
        ',' :: ' ' :: (renderBefore fields ++ '"' :: tail) := skipSpace_of_head rfl
    have blank : skipSpace (' ' :: (renderBefore fields ++ '"' :: tail)) =
        renderBefore fields ++ '"' :: tail := by
      rw [begins]
      rfl
    rw [renderBefore_cons, List.length_cons, ← Nat.add_assoc,
      members_field (reads_of_plain (plain f (by simp))) (names f (by simp)) (plain f (by simp))
        fresh 0 _ (by omega) (endsNumber_comma _)]
    simp only [next, blank]
    rw [ih (fun x mem => names x (by simp [mem])) (fun x mem => plain x (by simp [mem])) _
      (by simpa using distinct) (by omega), List.append_assoc]
    rfl

def line (fields : Fields) (name text : String) : List Char :=
  '{' :: (renderBefore fields ++ renderField 0 (name, .text text) ++ ['}'])

theorem read_line {fields : Fields} {name text : String} (names : ∀ f ∈ fields, f.1.Plain)
    (plain : ∀ f ∈ fields, f.2.Plain) (distinct : (fields.map Prod.fst).Nodup)
    (fresh : (name : CodeString) ∉ fields.map Prod.fst) :
    read (line fields name text) =
      .ok (.object (fields.map (fun f => (f.1, f.2.sorted)) ++
        [((name : CodeString), .text text)])) := by
  have shorter := length_le_renderBefore fields
  have length : (line fields name text).length =
      (renderBefore fields).length + (renderField 0 (name, .text text)).length + 2 := by
    simp only [line, List.length_cons, List.length_append, List.length_nil]
  obtain ⟨fuel, enough⟩ : ∃ fuel, 2 * (line fields name text).length + 2 =
      fuel + 2 + fields.length + 1 :=
    ⟨2 * (line fields name text).length - fields.length - 1, by omega⟩
  obtain ⟨tail, last⟩ : ∃ tail, renderField 0 (name, .text text) ++ ['}'] = '"' :: tail := ⟨_, rfl⟩
  obtain ⟨tail', whole⟩ := exists_renderBefore fields tail
  have members_eq : members (fuel + 2 + fields.length) [] ('"' :: tail') =
      .ok (.object (fields.map (fun f => (f.1, f.2.sorted)) ++
        [((name : CodeString), .text text)]), []) := by
    rw [← whole, members_renderBefore names plain [] tail (fuel + 2) distinct (by omega), ← last,
      List.nil_append, members_lastText, Fields.put_of_notMem (by simpa using fresh)]
  have read : value (2 * (line fields name text).length + 2) (line fields name text) =
      .ok (.object (fields.map (fun f => (f.1, f.2.sorted)) ++
        [((name : CodeString), .text text)]), []) := by
    rw [enough, line, List.append_assoc, last, whole, value, if_neg (by decide), if_pos rfl]
    exact members_eq
  have brace : skipSpace (line fields name text) = line fields name text := skipSpace_of_head rfl
  rw [Json.read, brace, read]
  rfl

/-- The text opens an object on one line: some fields, and the quote before the name of the last. -/
structure Opens (opening : String) (fields : Fields) : Prop where
  text : opening.toList = '{' :: (renderBefore fields ++ ['"'])
  whole : Whole opening.toList
  names : ∀ f ∈ fields, f.1.Plain
  plain : ∀ f ∈ fields, f.2.Plain
  distinct : (fields.map Prod.fst).Nodup

theorem opens_nil : Opens "\x7b\"" [] where
  text := by decide +kernel
  whole := by decide
  names f mem := by cases mem
  plain f mem := by cases mem
  distinct := List.nodup_nil

theorem opens_noCycles : Opens "\x7b\"cycles\": 0, \"" [(("cycles" : CodeString), .int 0)] where
  text := by decide +kernel
  whole := by decide
  names f mem := by
    rw [List.mem_singleton.mp mem]
    exact ⟨_, rfl⟩
  plain f mem := by
    rw [List.mem_singleton.mp mem]
    exact .int (by decide)
  distinct := by simp

theorem Opens.line_eq {opening name text : String} {fields : Fields}
    (opens : Opens opening fields) (named : Literal name) (literal : Literal text) :
    (opening ++ name ++ "\": \"" ++ text ++ "\"\x7d").toList = line fields name text := by
  rw [line, renderField, render, renderString_of_literal named, renderString_of_literal literal]
  simp [opens.text]

theorem Opens.whole_line {opening name text : String} {fields : Fields}
    (opens : Opens opening fields) (named : Literal name) (literal : Literal text) :
    Whole (line fields name text) := by
  rw [← opens.line_eq named literal]
  simp only [String.toList_append, Whole, List.forall_mem_append]
  have colon : Whole "\": \"".toList := by decide
  have brace : Whole "\"\x7d".toList := by decide
  exact ⟨⟨⟨⟨opens.whole, named.whole⟩, colon⟩, literal.whole⟩, brace⟩

theorem trim_line (fields : Fields) (name text : String) :
    Text.trim (line fields name text) = line fields name text :=
  Text.trim_of_ends (by decide) (by decide)

end Json

/-! ## Results -/

namespace Output

open Json (Literal Opens line)

theorem result_line {opening name text : String} {fields : Fields} (opens : Opens opening fields)
    (named : Literal name) (literal : Literal text)
    (fresh : (name : CodeString) ∉ fields.map Prod.fst) :
    result (opening ++ name ++ "\": \"" ++ text ++ "\"\x7d") =
      .ok (.object (fields.map (fun f => (f.1, f.2.sorted)) ++
        [((name : CodeString), .text text)])) := by
  have printed := opens.line_eq named literal
  have only : Text.splitLines (line fields name text) = [line fields name text] :=
    Text.splitLines_of_whole (fun absurd => by cases absurd) (opens.whole_line named literal)
  have found : resultLine? (opening ++ name ++ "\": \"" ++ text ++ "\"\x7d") =
      some (line fields name text) := by
    rw [resultLine?, printed, only, List.reverse_singleton, List.map_singleton, Json.trim_line]
    rfl
  rw [result, found]
  dsimp only
  rw [Json.read_line opens.names opens.plain opens.distinct fresh]
  rfl

theorem field?_object (fields : List (String × Value)) (name : String) :
    field? (.object (fields.map fun f => ((f.1 : CodeString), f.2))) name = fields.lookup name := by
  rw [field?, Fields.get?]
  induction fields with
  | nil => rfl
  | cons f fields ih =>
    have same : ((name : CodeString) == (f.1 : CodeString)) = (name == f.1) := by
      rw [Bool.eq_iff_iff, beq_iff_eq, beq_iff_eq, CodeString.ofString_inj]
    rw [List.map_cons, List.lookup_cons, List.lookup_cons, same, ih]

variable {v : Value} {data : Bytes} {key : VerifyingKey}

theorem bytes_encode (data : Bytes) : bytes (.text (Hex.encode data)) = .ok data := by
  rw [bytes, Hex.decodeValue, Hex.decode_encode]
  rfl

theorem vkey_of_field (named : field? v "vkey" = some (.text key.bytes32)) : vkey v = .ok key := by
  rw [vkey, field, named, Except.ok_bind, key.ofHex_bytes32]

theorem proved_of_fields (values : field? v "publicValues" = some (.text (Hex.encode data)))
    (unnamed : field? v "vkey" = none) : proved v key = .ok (data, key) := by
  rw [proved, field, values, Except.ok_bind, bytes_encode, Except.ok_bind, unnamed,
    Option.getD_none, key.ofHex_bytes32]
  rfl

theorem report_of_fields (values : field? v "publicValues" = some (.text (Hex.encode data)))
    {cycles : Int} (counted : field? v "cycles" = some (.int cycles))
    (opcodes : field? v "opcodeCounts" = none) (syscalls : field? v "syscallCounts" = none) :
    report v = .ok { publicValues := data, cycles } := by
  rw [report, field, values, Except.ok_bind, bytes_encode, Except.ok_bind, field, counted,
    Except.ok_bind, table, opcodes, table, syscalls]
  rfl

theorem vkey_line (key : VerifyingKey) :
    ∃ v, result ("\x7b\"" ++ "vkey" ++ "\": \"" ++ key.bytes32 ++ "\"\x7d") = .ok v ∧
      vkey v = .ok key := by
  have fields := field?_object [("vkey", .text key.bytes32)]
  exact ⟨_, result_line Json.opens_nil (by decide) (Json.literal_hex _) List.not_mem_nil,
    vkey_of_field (fields "vkey")⟩

theorem proved_line (data : Bytes) (key : VerifyingKey) :
    ∃ v, result ("\x7b\"" ++ "publicValues" ++ "\": \"" ++ Hex.encode data ++ "\"\x7d") =
        .ok v ∧
      proved v key = .ok (data, key) := by
  have fields := field?_object [("publicValues", .text (Hex.encode data))]
  exact ⟨_, result_line Json.opens_nil (by decide) (Json.literal_hex _) List.not_mem_nil,
    proved_of_fields (fields "publicValues") (fields "vkey")⟩

theorem report_line (data : Bytes) :
    ∃ v, result ("\x7b\"cycles\": 0, \"" ++ "publicValues" ++ "\": \"" ++ Hex.encode data ++
        "\"\x7d") = .ok v ∧
      report v = .ok { publicValues := data, cycles := 0 } := by
  have fresh : ("publicValues" : CodeString) ∉ [("cycles" : CodeString)] := by
    rw [List.mem_singleton, CodeString.ofString_inj]
    decide
  have fields := field?_object [("cycles", .int 0), ("publicValues", .text (Hex.encode data))]
  exact ⟨_, result_line Json.opens_noCycles (by decide) (Json.literal_hex _) fresh,
    report_of_fields (fields "publicValues") (fields "cycles") (fields "opcodeCounts")
      (fields "syscallCounts")⟩

end Output

end ProofDriver

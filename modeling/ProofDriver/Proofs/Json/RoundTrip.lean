import ProofDriver.Proofs.Json.Integers
import ProofDriver.Proofs.Json.Strings
/-!
# Reading back documents

The text of a value is read as this value with the fields of every object in the order of their
names. This holds for the values without doubles and byte strings whose texts hold no lone
surrogate, whose integers are not too long and whose objects have every name once.
-/

namespace ProofDriver

def CodeString.Plain (s : CodeString) : Prop :=
  ∃ t : String, s = t

namespace Value

/-- The values that a document keeps. -/
inductive Plain : Value → Prop
  | null : Plain null
  | bool (b : Bool) : Plain (bool b)
  | int {n : Int} : (Nat.toDigits 10 n.natAbs).length ≤ Numeral.digitLimit → Plain (int n)
  | text {s : CodeString} : s.Plain → Plain (text s)
  | list {items : List Value} : (∀ v ∈ items, Plain v) → Plain (list items)
  | object {fields : Fields} : (∀ f ∈ fields, f.1.Plain) → (∀ f ∈ fields, Plain f.2) →
      (fields.map Prod.fst).Nodup → Plain (object fields)

def byName (a b : CodeString × Value) : Bool :=
  a.1 ≤ b.1

mutual

def sorted : Value → Value
  | list items => list (sortedItems items)
  | object fields => object ((sortedFields fields).mergeSort byName)
  | v => v

def sortedItems : List Value → List Value
  | [] => []
  | v :: rest => v.sorted :: sortedItems rest

def sortedFields : List (CodeString × Value) → List (CodeString × Value)
  | [] => []
  | (name, v) :: rest => (name, v.sorted) :: sortedFields rest

end

theorem sortedItems_eq_map (items : List Value) : sortedItems items = items.map sorted := by
  induction items with
  | nil => rfl
  | cons v rest ih => rw [sortedItems, ih, List.map_cons]

theorem sortedFields_eq_map (fields : Fields) :
    sortedFields fields = fields.map fun f => (f.1, f.2.sorted) := by
  induction fields with
  | nil => rfl
  | cons f rest ih => rw [sortedFields, ih, List.map_cons]

theorem sorted_object (fields : Fields) :
    (object fields).sorted =
      object ((fields.mergeSort byName).map fun f => (f.1, f.2.sorted)) := by
  rw [sorted, sortedFields_eq_map, List.map_mergeSort (s := byName)]
  exact fun _ _ _ _ => rfl

end Value

theorem Fields.put_of_notMem {name : CodeString} {v : Value} {fields : Fields}
    (h : name ∉ fields.map Prod.fst) : fields.put name v = fields ++ [(name, v)] := by
  induction fields with
  | nil => rfl
  | cons f rest ih =>
    simp only [List.map_cons, List.mem_cons, not_or] at h
    rw [put, if_neg (Ne.symm h.1), ih h.2, List.cons_append]

namespace Json

theorem renderItems_eq_map (depth : Nat) (items : List Value) :
    renderItems depth items = items.map (render depth) := by
  induction items with
  | nil => rfl
  | cons v rest ih => rw [renderItems, ih, List.map_cons]

theorem renderFields_eq_map (depth : Nat) (fields : Fields) :
    renderFields depth fields = fields.map fun f => (f.1, render depth f.2) := by
  induction fields with
  | nil => rfl
  | cons f rest ih => rw [renderFields, ih, List.map_cons]

def renderField (depth : Nat) (f : CodeString × Value) : List Char :=
  renderString f.1 ++ ':' :: ' ' :: render depth f.2

theorem render_object (depth : Nat) (fields : Fields) :
    render depth (.object fields) =
      bracket depth '{' '}' ((fields.mergeSort Value.byName).map (renderField (depth + 1))) := by
  have sorted : (renderFields (depth + 1) fields).mergeSort byName =
      (fields.mergeSort Value.byName).map fun f => (f.1, render (depth + 1) f.2) := by
    rw [renderFields_eq_map, List.map_mergeSort (s := byName)]
    exact fun _ _ _ _ => rfl
  rw [render, sorted, List.map_map]
  rfl

/-! ## Blanks between the parts -/

def Begins (cs : List Char) : Prop :=
  ∃ c tail, cs = c :: tail ∧ isSpace c = false ∧ c ≠ ']'

variable {cs rest : List Char}

theorem skipSpace_of_head {c : Char} (h : isSpace c = false) :
    skipSpace (c :: rest) = c :: rest := by
  rw [skipSpace, List.dropWhile_cons_of_neg (by simp [h])]

theorem skipSpace_of_begins (h : Begins cs) : skipSpace (cs ++ rest) = cs ++ rest := by
  obtain ⟨c, tail, rfl, space, -⟩ := h
  exact skipSpace_of_head space

theorem skipSpace_newLine (depth : Nat) (cs : List Char) :
    skipSpace (newLine depth ++ cs) = skipSpace cs := by
  have blank : ∀ c ∈ newLine depth, isSpace c = true := by
    intro c hc
    simp only [newLine, List.mem_cons, List.mem_replicate] at hc
    rcases hc with rfl | ⟨-, rfl⟩ <;> rfl
  rw [skipSpace, List.dropWhile_append_of_pos blank, ← skipSpace]

theorem endsNumber_newLine (depth : Nat) (cs : List Char) : EndsNumber (newLine depth ++ cs) :=
  ⟨'\n', _, rfl, .inr rfl⟩

theorem endsNumber_comma (cs : List Char) : EndsNumber (',' :: cs) :=
  ⟨',', cs, rfl, .inl rfl⟩

def Reads (v : Value) : Prop :=
  ∀ depth fuel rest, (render depth v).length ≤ fuel → EndsNumber rest →
    value fuel (render depth v ++ rest) = .ok (v.sorted, rest)

/-! ## Values without parts -/

theorem begins_string (s : CodeString) : Begins (renderString s) :=
  ⟨'"', _, rfl, rfl, by decide⟩

theorem reads_null : Reads .null := by
  intro depth fuel rest long _
  cases fuel with
  | zero => cases long
  | succ fuel => rfl

theorem reads_bool (b : Bool) : Reads (.bool b) := by
  intro depth fuel rest long _
  cases fuel with
  | zero => cases b <;> cases long
  | succ fuel => cases b <;> rfl

theorem reads_text {s : CodeString} (plain : s.Plain) : Reads (.text s) := by
  obtain ⟨t, rfl⟩ := plain
  intro depth fuel rest long _
  cases fuel with
  | zero => cases long
  | succ fuel =>
    rw [render, renderString, List.cons_append, List.cons_append, List.append_assoc,
      List.singleton_append, value, if_pos rfl, stringFrom_renderString]
    rfl

theorem reads_int {n : Int} (short : (Nat.toDigits 10 n.natAbs).length ≤ Numeral.digitLimit) :
    Reads (.int n) := by
  intro depth fuel rest long ends
  have read := number_toString n short ends
  rw [render] at long ⊢
  obtain ⟨d, ds, digit, text⟩ := toString_int n
  have unlike {c : Char} (hc : isDigit c = false) : d ≠ c := by
    rintro rfl
    rw [hc] at digit
    cases digit
  cases fuel with
  | zero =>
    rcases text with text | text
    · rw [text] at long
      cases long
    · rw [text] at long
      cases long
  | succ fuel =>
    rcases text with text | text
    · rw [text] at read ⊢
      rw [List.cons_append] at read ⊢
      rw [value, if_neg (unlike rfl), if_neg (unlike rfl), if_neg (unlike rfl),
        word?_of_digit digit (by simp)]
      exact read
    · rw [text] at read ⊢
      rw [List.cons_append] at read ⊢
      rw [value, if_neg (by decide), if_neg (by decide), if_neg (by decide),
        word?_of_digit digit (by simp)]
      exact read

theorem isSpace_of_digit {d : Char} (digit : isDigit d = true) : isSpace d = false := by
  rw [Bool.eq_false_iff]
  intro space
  simp only [isSpace, Bool.or_eq_true, beq_iff_eq] at space
  rcases space with ((rfl | rfl) | rfl) | rfl <;> cases digit

theorem exists_bracket (depth : Nat) (left right : Char) (items : List (List Char)) :
    ∃ tail, bracket depth left right items = left :: tail := by
  cases items with
  | nil => exact ⟨_, rfl⟩
  | cons first rest => exact ⟨_, rfl⟩

theorem begins_render {v : Value} (plain : v.Plain) (depth : Nat) : Begins (render depth v) := by
  cases plain with
  | null => exact ⟨'n', _, rfl, rfl, by decide⟩
  | bool b =>
    cases b with
    | false => exact ⟨'f', _, rfl, rfl, by decide⟩
    | true => exact ⟨'t', _, rfl, rfl, by decide⟩
  | text _ => exact begins_string _
  | @int n _ =>
    obtain ⟨d, ds, digit, text | text⟩ := toString_int n
    · refine ⟨d, ds, text, isSpace_of_digit digit, ?_⟩
      rintro rfl
      cases digit
    · exact ⟨'-', _, text, rfl, by decide⟩
  | list _ =>
    rw [render]
    obtain ⟨tail, text⟩ := exists_bracket depth '[' ']' _
    exact ⟨'[', tail, text, rfl, by decide⟩
  | object _ _ _ =>
    rw [render_object]
    obtain ⟨tail, text⟩ := exists_bracket depth '{' '}' _
    exact ⟨'{', tail, text, rfl, by decide⟩

/-! ## Lists and objects -/

def followUp (depth : Nat) (right : Char) (items : List (List Char)) : List Char :=
  items.flatMap (fun item => ',' :: newLine (depth + 1) ++ item) ++ newLine depth ++ [right]

theorem followUp_nil (depth : Nat) (right : Char) :
    followUp depth right [] ++ rest = newLine depth ++ right :: rest := by
  rw [followUp, List.flatMap_nil, List.nil_append, List.append_assoc, List.singleton_append]

theorem followUp_cons (depth : Nat) (right : Char) (item : List Char) (items : List (List Char)) :
    followUp depth right (item :: items) ++ rest =
      ',' :: (newLine (depth + 1) ++ (item ++ (followUp depth right items ++ rest))) := by
  simp only [followUp, List.flatMap_cons, List.cons_append, List.append_assoc]

theorem bracket_cons (depth : Nat) (left right : Char) (item : List Char)
    (items : List (List Char)) :
    bracket depth left right (item :: items) =
      left :: (newLine (depth + 1) ++ (item ++ followUp depth right items)) := by
  simp only [bracket, followUp, List.append_assoc]

theorem endsNumber_followUp (depth : Nat) (right : Char) (items : List (List Char)) :
    EndsNumber (followUp depth right items ++ rest) := by
  cases items with
  | nil =>
    rw [followUp_nil]
    exact endsNumber_newLine _ _
  | cons item items =>
    rw [followUp_cons]
    exact endsNumber_comma _

theorem length_followUp_cons (depth : Nat) (right : Char) (item : List Char)
    (items : List (List Char)) :
    (item ++ followUp depth right items).length < (followUp depth right (item :: items)).length := by
  have text : followUp depth right (item :: items) ++ [] = _ :=
    followUp_cons depth right item items
  simp only [List.append_nil] at text
  rw [text]
  simp only [List.length_cons, List.length_append]
  omega

theorem elements_render {items : List Value} {v : Value} (reads : ∀ x ∈ v :: items, Reads x)
    (plain : ∀ x ∈ v :: items, x.Plain) (depth : Nat) (rest : List Char) (done : List Value)
    (fuel : Nat)
    (long : (render (depth + 1) v ++
      followUp depth ']' (items.map (render (depth + 1)))).length < fuel) :
    elements fuel done (render (depth + 1) v ++
        (followUp depth ']' (items.map (render (depth + 1))) ++ rest)) =
      .ok (.list (done.reverse ++ (v :: items).map Value.sorted), rest) := by
  induction items generalizing v done fuel with
  | nil =>
    cases fuel with
    | zero => cases long
    | succ fuel =>
      rw [List.length_append] at long
      rw [elements, reads v (by simp) _ _ _ (by omega) (endsNumber_followUp ..), List.map_nil,
        followUp_nil]
      simp only [skipSpace_newLine, skipSpace_of_head (c := ']') rfl, List.reverse_cons]
      rfl
  | cons next items ih =>
    cases fuel with
    | zero => cases long
    | succ fuel =>
      have shorter := length_followUp_cons depth ']' (render (depth + 1) next)
        (items.map (render (depth + 1)))
      have begins := begins_render (plain next (by simp)) (depth + 1)
      rw [List.length_append, List.map_cons] at long
      rw [elements, reads v (by simp) _ _ _ (by omega) (endsNumber_followUp ..), List.map_cons,
        followUp_cons]
      simp only [skipSpace_of_head (c := ',') rfl, skipSpace_newLine, skipSpace_of_begins begins]
      rw [ih (fun x hx => reads x (by simp [hx])) (fun x hx => plain x (by simp [hx])) _ _
        (by omega)]
      simp

theorem reads_list {items : List Value} (reads : ∀ x ∈ items, Reads x)
    (plain : ∀ x ∈ items, x.Plain) : Reads (.list items) := by
  intro depth fuel rest long ends
  rw [render, renderItems_eq_map] at long ⊢
  rw [Value.sorted, Value.sortedItems_eq_map]
  cases items with
  | nil =>
    cases fuel with
    | zero => cases long
    | succ fuel => rfl
  | cons v items =>
    rw [List.map_cons, bracket_cons] at long ⊢
    cases fuel with
    | zero => cases long
    | succ fuel =>
      have begins := begins_render (plain v (by simp)) (depth + 1)
      simp only [List.length_cons, List.length_append, newLine] at long
      have read := elements_render reads plain depth rest [] fuel
        (by rw [List.length_append]; omega)
      rw [List.cons_append, value, if_neg (by decide), if_neg (by decide), if_pos rfl]
      simp only [List.append_assoc, skipSpace_newLine, skipSpace_of_begins begins]
      split
      · rename_i tail text
        obtain ⟨c, cs, first, -, other⟩ := begins
        rw [first, List.cons_append] at text
        exact absurd (List.cons.inj text).1 other
      · exact read

/-! ## Objects -/

theorem begins_field (f : CodeString × Value) (depth : Nat) : Begins (renderField depth f) :=
  ⟨'"', _, rfl, rfl, by decide⟩

theorem renderField_append (depth : Nat) (f : CodeString × Value) :
    renderField depth f ++ rest =
      '"' :: (f.1.points.flatMap escapePoint ++
        '"' :: (':' :: ' ' :: (render depth f.2 ++ rest))) := by
  simp only [renderField, renderString, List.cons_append, List.append_assoc, List.nil_append]

theorem members_field {f : CodeString × Value} {done : Fields} (reads : Reads f.2)
    (name : f.1.Plain) (plain : f.2.Plain) (fresh : f.1 ∉ done.map Prod.fst) (depth fuel : Nat)
    (long : (renderField depth f).length ≤ fuel) (ends : EndsNumber rest) :
    members (fuel + 1) done (renderField depth f ++ rest) =
      match skipSpace rest with
      | '}' :: rest => .ok (.object (done ++ [(f.1, f.2.sorted)]), rest)
      | ',' :: rest => members fuel (done ++ [(f.1, f.2.sorted)]) (skipSpace rest)
      | rest => .error (.fault .expectingComma rest) := by
  obtain ⟨s, text⟩ := name
  have begins := begins_render plain depth
  have colon : skipSpace (':' :: ' ' :: (render depth f.2 ++ rest)) =
      ':' :: ' ' :: (render depth f.2 ++ rest) := skipSpace_of_head rfl
  have blank : skipSpace (' ' :: (render depth f.2 ++ rest)) = render depth f.2 ++ rest :=
    skipSpace_of_begins begins
  have short : (render depth f.2).length ≤ fuel := by
    rw [renderField, List.length_append, List.length_cons, List.length_cons] at long
    omega
  rw [renderField_append, members, text, stringFrom_renderString]
  simp only [colon, blank, reads depth fuel rest short ends]
  rw [← text]
  have goesOn (fields : Fields) (joined : fields = done ++ [(f.1, f.2.sorted)]) :
      (match skipSpace rest with
        | '}' :: rest => .ok (.object fields, rest)
        | ',' :: rest => members fuel fields (skipSpace rest)
        | rest => .error (.fault .expectingComma rest) : Except Stop (Value × List Char)) =
      match skipSpace rest with
      | '}' :: rest => .ok (.object (done ++ [(f.1, f.2.sorted)]), rest)
      | ',' :: rest => members fuel (done ++ [(f.1, f.2.sorted)]) (skipSpace rest)
      | rest => .error (.fault .expectingComma rest) := by
    rw [joined]
  exact goesOn _ (Fields.put_of_notMem fresh)

theorem members_render {fields : Fields} {f : CodeString × Value}
    (reads : ∀ x ∈ f :: fields, Reads x.2) (names : ∀ x ∈ f :: fields, x.1.Plain)
    (plain : ∀ x ∈ f :: fields, x.2.Plain) (depth : Nat) (rest : List Char) (done : Fields)
    (fuel : Nat)
    (distinct : ((done ++ f :: fields).map Prod.fst).Nodup)
    (long : (renderField (depth + 1) f ++
      followUp depth '}' (fields.map (renderField (depth + 1)))).length < fuel) :
    members fuel done (renderField (depth + 1) f ++
        (followUp depth '}' (fields.map (renderField (depth + 1))) ++ rest)) =
      .ok (.object (done ++ (f :: fields).map fun x => (x.1, x.2.sorted)), rest) := by
  have fresh {done fields : Fields} {f : CodeString × Value}
      (distinct : ((done ++ f :: fields).map Prod.fst).Nodup) : f.1 ∉ done.map Prod.fst := by
    rw [List.map_append, List.map_cons] at distinct
    exact fun h => (List.nodup_append.mp distinct).2.2 _ h _ (by simp) rfl
  induction fields generalizing f done fuel with
  | nil =>
    cases fuel with
    | zero => cases long
    | succ fuel =>
      rw [List.length_append] at long
      rw [members_field (reads f (by simp)) (names f (by simp)) (plain f (by simp))
        (fresh distinct) _ _ (by omega) (endsNumber_followUp ..), List.map_nil, followUp_nil]
      simp only [skipSpace_newLine, skipSpace_of_head (c := '}') rfl]
      rfl
  | cons next fields ih =>
    cases fuel with
    | zero => cases long
    | succ fuel =>
      have shorter := length_followUp_cons depth '}' (renderField (depth + 1) next)
        (fields.map (renderField (depth + 1)))
      rw [List.length_append, List.map_cons] at long
      rw [members_field (reads f (by simp)) (names f (by simp)) (plain f (by simp))
        (fresh distinct) _ _ (by omega) (endsNumber_followUp ..), List.map_cons, followUp_cons]
      have begins := begins_field next (depth + 1)
      simp only [skipSpace_of_head (c := ',') rfl, skipSpace_newLine, skipSpace_of_begins begins]
      rw [ih (fun x hx => reads x (by simp [hx])) (fun x hx => names x (by simp [hx]))
        (fun x hx => plain x (by simp [hx])) _ _ _ (by omega)]
      · simp
      · simpa using distinct

theorem reads_object {fields : Fields} (reads : ∀ f ∈ fields, Reads f.2)
    (names : ∀ f ∈ fields, f.1.Plain) (plain : ∀ f ∈ fields, f.2.Plain)
    (distinct : (fields.map Prod.fst).Nodup) : Reads (.object fields) := by
  intro depth fuel rest long ends
  rw [render_object] at long ⊢
  rw [Value.sorted_object]
  have perm := List.mergeSort_perm fields Value.byName
  replace distinct : ((fields.mergeSort Value.byName).map Prod.fst).Nodup :=
    (perm.map Prod.fst).nodup_iff.mpr distinct
  have each {P : CodeString × Value → Prop} (h : ∀ f ∈ fields, P f) :
      ∀ f ∈ fields.mergeSort Value.byName, P f := fun f hf => h f (perm.mem_iff.mp hf)
  replace reads := each reads
  replace names := each names
  replace plain := each plain
  generalize fields.mergeSort Value.byName = fields at *
  cases fields with
  | nil =>
    cases fuel with
    | zero => cases long
    | succ fuel => rfl
  | cons f fields =>
    rw [List.map_cons, bracket_cons] at long ⊢
    cases fuel with
    | zero => cases long
    | succ fuel =>
      have begins := begins_field f (depth + 1)
      simp only [List.length_cons, List.length_append, newLine] at long
      have read := members_render reads names plain depth rest [] fuel distinct
        (by rw [List.length_append]; omega)
      rw [List.cons_append, value, if_neg (by decide), if_pos rfl]
      simp only [List.append_assoc, skipSpace_newLine, skipSpace_of_begins begins]
      exact read

theorem reads_of_plain {v : Value} (plain : v.Plain) : Reads v := by
  induction plain with
  | null => exact reads_null
  | bool b => exact reads_bool b
  | int short => exact reads_int short
  | text plain => exact reads_text plain
  | list plain ih => exact reads_list ih plain
  | object names plain distinct ih => exact reads_object ih names plain distinct

/-! ## The characters of a document -/

def Printed (cs : List Char) : Prop :=
  ∀ c ∈ cs, c = '\n' ∨ 0x20 ≤ c.toNat ∧ c.toNat < 0x7f

namespace Printed

instance (cs : List Char) : Decidable (Printed cs) :=
  List.decidableBAll _ cs

theorem append {cs ds : List Char} (h₁ : Printed cs) (h₂ : Printed ds) : Printed (cs ++ ds) := by
  intro c hc
  rcases List.mem_append.mp hc with hc | hc
  · exact h₁ c hc
  · exact h₂ c hc

theorem cons {c : Char} {cs : List Char} (h₁ : Printed [c]) (h₂ : Printed cs) :
    Printed (c :: cs) :=
  append h₁ h₂

theorem flatMap {α : Type} {items : List α} {f : α → List Char}
    (h : ∀ x ∈ items, Printed (f x)) : Printed (items.flatMap f) := by
  intro c hc
  obtain ⟨x, hx, hc⟩ := List.mem_flatMap.mp hc
  exact h x hx c hc

end Printed

theorem printed_hexEscape (n : Nat) : Printed (hexEscape n) := by
  have digits : ∀ k < 16, Printed [Nat.digitChar k] := by decide
  have place (i : Nat) : Printed [Nat.digitChar (n / Nat.pow 16 i % 16)] :=
    digits _ (Nat.mod_lt _ (by decide))
  have head : Printed ['\\', 'u'] := by decide
  exact head.append ((place 3).append ((place 2).append ((place 1).append (place 0))))

theorem printed_escapeChar (c : Char) : Printed (escapeChar c) := by
  unfold escapeChar
  split_ifs with quote slash feed back tab bell form printable small
  all_goals first | decide | skip
  · intro d hd
    rw [List.mem_singleton.mp hd]
    exact .inr printable
  · exact printed_hexEscape _
  · exact (printed_hexEscape _).append (printed_hexEscape _)

theorem printed_string (s : CodeString) : Printed (renderString s) := by
  have quote : Printed ['"'] := by decide
  refine (quote.cons (.flatMap fun p _ => ?_)).append quote
  cases p with
  | char c => exact printed_escapeChar c
  | surrogate i => exact printed_hexEscape _

theorem printed_newLine (depth : Nat) : Printed (newLine depth) := by
  intro c hc
  simp only [newLine, List.mem_cons, List.mem_replicate] at hc
  rcases hc with rfl | ⟨-, rfl⟩
  · exact .inl rfl
  · exact .inr (by decide)

theorem printed_bracket (depth : Nat) {left right : Char} {items : List (List Char)}
    (hleft : Printed [left]) (hright : Printed [right]) (h : ∀ item ∈ items, Printed item) :
    Printed (bracket depth left right items) := by
  cases items with
  | nil => exact hleft.cons hright
  | cons item items =>
    have comma : Printed [','] := by decide
    refine hleft.cons ((((printed_newLine _).append (h item (by simp))).append
      (.flatMap fun x hx => ?_)).append (printed_newLine _) |>.append hright)
    exact comma.cons ((printed_newLine _).append (h x (by simp [hx])))

theorem printed_toString (n : Int) : Printed (toString n).toList := by
  intro c hc
  rcases mem_toString_int hc with rfl | digit
  · exact .inr (by decide)
  · simp only [isDigit, Bool.and_eq_true, decide_eq_true_eq, Char.le_def] at digit
    have low : 0x30 ≤ c.toNat := digit.1
    have high : c.toNat ≤ 0x39 := digit.2
    exact .inr (by omega)

theorem printed_render {v : Value} (plain : v.Plain) (depth : Nat) : Printed (render depth v) := by
  induction plain generalizing depth with
  | null =>
    rw [render]
    decide
  | bool b =>
    rw [render]
    cases b <;> decide
  | int _ => exact printed_toString _
  | text _ => exact printed_string _
  | list plain ih =>
    rw [render, renderItems_eq_map]
    refine printed_bracket depth (by decide) (by decide) fun item hitem => ?_
    obtain ⟨v, hv, rfl⟩ := List.mem_map.mp hitem
    exact ih v hv (depth + 1)
  | object names plain distinct ih =>
    rw [render_object]
    refine printed_bracket depth (by decide) (by decide) fun item hitem => ?_
    obtain ⟨f, hf, rfl⟩ := List.mem_map.mp hitem
    have between : Printed [':', ' '] := by decide
    exact (printed_string f.1).append
      (between.append (ih f ((List.mergeSort_perm ..).mem_iff.mp hf) (depth + 1)))

/-- A written document, with the line break at its end, is read as the value it was written for. -/
theorem read_render {v : Value} (plain : v.Plain) :
    read (render 0 v ++ ['\n']) = .ok v.sorted := by
  have begins := begins_render plain 0
  have printed := printed_render plain 0
  have no_mark : (render 0 v ++ ['\n']).head? ≠ some '\ufeff' := by
    obtain ⟨c, tail, text, -⟩ := begins
    rw [text]
    rintro ⟨⟩
    have := printed '\ufeff' (by rw [text]; simp)
    revert this
    decide
  have value := reads_of_plain plain 0 (2 * (render 0 v ++ ['\n']).length + 2) ['\n']
    (by rw [List.length_append]; omega) ⟨'\n', [], rfl, .inr rfl⟩
  rw [read, if_neg no_mark, skipSpace_of_begins begins, value]
  rfl

end Json

end ProofDriver

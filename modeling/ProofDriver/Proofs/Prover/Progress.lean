import ProofDriver.Proofs.Prover.Lines
import ProofDriver.Prover.External
/-!
# Progress before the result

A prover may print what it likes before its result, other objects too. A text that ends in a line
break is cut into its own lines, whatever comes after it, and a line without breaks stays whole; so
the last line that begins with a brace is found as it was printed.
-/

namespace ProofDriver

namespace Text

variable {c : Char} {cs line rest : List Char}

/-! ## Line by line -/

theorem splitLines_break (lineBreak : isLineBreak c = true)
    (alone : c = '\r' → rest.head? ≠ some '\n') :
    splitLines (c :: rest) = [] :: splitLines rest := by
  have single : ∀ tail, c = '\r' → rest = '\n' :: tail → False := by
    rintro tail carriage rfl
    exact alone carriage rfl
  rw [splitLines.eq_3 c rest single, if_pos lineBreak]

theorem splitLines_ne_nil (some : cs ≠ []) : splitLines cs ≠ [] := by
  fun_cases splitLines cs with
  | case1 => exact absurd rfl some
  | case2 | case3 | case4 | case5 => exact List.cons_ne_nil _ _

theorem splitLines_line (whole : Whole line) :
    splitLines (line ++ '\n' :: rest) = line :: splitLines rest := by
  induction line with
  | nil => exact splitLines_break (by decide) nofun
  | cons c line ih =>
    have letter : isLineBreak c = false := whole c List.mem_cons_self
    have others : Whole line := fun d mem => whole d (List.mem_cons_of_mem c mem)
    rw [List.cons_append, splitLines_letter letter, ih others]

def Ended (cs : List Char) : Prop :=
  ∀ c ∈ cs.getLast?, isLineBreak c = true

instance (cs : List Char) : Decidable (Ended cs) :=
  -- The instance that is there for a statement about characters tries each character.
  decidable_of_iff (cs.getLast?.all isLineBreak = true) (Option.all_eq_true isLineBreak _)

theorem Ended.tail (ended : Ended (c :: cs)) : Ended cs := by
  cases cs with
  | nil => exact nofun
  | cons d rest =>
    unfold Ended at ended
    rwa [List.getLast?_cons_cons] at ended

/-- A text that is ended keeps its lines before any other text, unless the two make one break of two
characters where they meet. -/
theorem splitLines_append (ended : Ended cs) (apart : rest.head? ≠ some '\n') :
    splitLines (cs ++ rest) = splitLines cs ++ splitLines rest := by
  induction cs using splitLines.induct with
  | case1 => rfl
  | case2 cs ih =>
    rw [List.cons_append, List.cons_append, splitLines, splitLines, ih ended.tail.tail,
      List.cons_append]
  | case3 c cs single lineBreak ih =>
    have alone : c = '\r' → cs.head? ≠ some '\n' := by
      intro carriage feed
      obtain ⟨tail, starts⟩ := List.head?_eq_some_iff.mp feed
      exact single tail carriage starts
    have still : c = '\r' → (cs ++ rest).head? ≠ some '\n' := by
      cases cs with
      | nil => exact fun _ => apart
      | cons d cs => exact alone
    rw [List.cons_append, splitLines_break lineBreak still, splitLines_break lineBreak alone,
      ih ended.tail, List.cons_append]
  | case4 c cs single letter none ih =>
    have last : cs = [] := by
      by_contra some
      exact splitLines_ne_nil some none
    subst last
    exact absurd (ended c rfl) letter
  | case5 c cs single letter line lines split ih =>
    have plain : isLineBreak c = false := Bool.eq_false_iff.mpr letter
    rw [List.cons_append, splitLines_letter plain, splitLines_letter plain, ih ended.tail, split]
    rfl

end Text

namespace Output

open Text (Ended Whole splitLines trim)

def OpensObject (line : List Char) : Prop :=
  (trim line).head? = some '{'

instance (line : List Char) : Decidable (OpensObject line) :=
  inferInstanceAs (Decidable (_ = _))

variable {before line after stdout : String}

/-- No line of the text begins with a brace. -/
def Quiet (text : String) : Prop :=
  ∀ line ∈ splitLines text.toList, ¬ OpensObject line

instance (text : String) : Decidable (Quiet text) :=
  List.decidableBAll _ _

/-! ## The line that is found -/

theorem find?_quiet {lines : List (List Char)} (quiet : ∀ line ∈ lines, ¬ OpensObject line) :
    (lines.reverse.map trim).find? (·.head? == some '{') = none := by
  rw [List.find?_eq_none]
  intro trimmed mem opens
  obtain ⟨line, printed, rfl⟩ := List.mem_map.mp mem
  exact quiet line (List.mem_reverse.mp printed) (beq_iff_eq.mp opens)

theorem result_of_quiet (quiet : Quiet stdout) : result stdout = .error .noResultLine := by
  rw [result, resultLine?, find?_quiet quiet]

theorem splitLines_of_output (ended : Ended before.toList) (whole : Whole line.toList)
    (some : line.toList ≠ []) :
    splitLines (before ++ line ++ "\n" ++ after).toList =
      splitLines before.toList ++ line.toList :: splitLines after.toList := by
  have text : (before ++ line ++ "\n" ++ after).toList =
      before.toList ++ (line.toList ++ '\n' :: after.toList) := by
    simp only [String.toList_append, List.append_assoc]
    rfl
  have apart : (line.toList ++ '\n' :: after.toList).head? ≠ .some '\n' := by
    obtain ⟨c, cs, starts⟩ := List.exists_cons_of_ne_nil some
    have letter : Text.isLineBreak c = false := whole c (by rw [starts]; exact List.mem_cons_self)
    rw [starts]
    rintro ⟨⟩
    cases letter
  rw [text, Text.splitLines_append ended apart, Text.splitLines_line whole]

theorem toList_ne_nil (opens : OpensObject line.toList) : line.toList ≠ [] := by
  intro none
  rw [OpensObject, none] at opens
  cases opens

def lineResult (line : String) : Except Fault Value :=
  (Json.read (trim line.toList)).mapError Json.Refusal.fault

theorem result_of_lines {earlier later : List (List Char)}
    (printed : splitLines stdout.toList = earlier ++ line.toList :: later)
    (opens : OpensObject line.toList) (quiet : ∀ l ∈ later, ¬ OpensObject l) :
    result stdout = lineResult line := by
  have found : ((trim line.toList).head? == some '{') = true := beq_iff_eq.mpr opens
  have none : (later.reverse.map trim).find? (·.head? == some '{') = none :=
    find?_quiet quiet
  have last : resultLine? stdout = some (trim line.toList) := by
    rw [resultLine?, printed, List.reverse_append, List.reverse_cons, List.map_append,
      List.map_append, List.find?_append, List.find?_append, none, List.map_singleton,
      List.find?_singleton, if_pos found]
    rfl
  rw [result, last, lineResult]

theorem result_of_output (ended : Ended before.toList) (whole : Whole line.toList)
    (opens : OpensObject line.toList) (quiet : Quiet after) :
    result (before ++ line ++ "\n" ++ after) = lineResult line :=
  result_of_lines (splitLines_of_output ended whole (toList_ne_nil opens)) opens quiet

theorem result_of_line (whole : Whole line.toList) (opens : OpensObject line.toList) :
    result line = lineResult line := by
  have alone : splitLines line.toList = [] ++ line.toList :: [] :=
    Text.splitLines_of_whole (toList_ne_nil opens) whole
  exact result_of_lines alone opens nofun

/-- The result is what the last line with an object comes to by itself, the same object or the same
refusal, whatever is printed before that line and whatever without a brace after it; and a command
has the same result as if that line were all that it printed. A text without such a line has none. -/
theorem progress_never_changes_result :
    (∀ before line after : String, Ended before.toList → Whole line.toList →
      OpensObject line.toList → Quiet after →
        result (before ++ line ++ "\n" ++ after) =
            (Json.read (trim line.toList)).mapError Json.Refusal.fault ∧
        ∀ (sub : Subcommand) (e : Exit), e.stdout = before ++ line ++ "\n" ++ after →
          Prover.External.resultOf sub e = Prover.External.resultOf sub { e with stdout := line }) ∧
    ∀ stdout : String, Quiet stdout →
      result stdout = .error .noResultLine ∧ Fault.noResultLine.isValueError = true := by
  constructor
  · intro before line after ended whole opens quiet
    have same := result_of_output ended whole opens quiet
    refine ⟨same, fun sub e printed => ?_⟩
    simp only [Prover.External.resultOf, printed, same, result_of_line whole opens]
  · intro stdout quiet
    exact ⟨result_of_quiet quiet, rfl⟩

/-- Progress with a whole object, with a line that begins like one, and with three kinds of break. -/
def chatter : String :=
  "\x7b\"vkey\": 1\x7d\r\nshard 1\x0b \x7bbroken\u2028"

def keyLine (key : VerifyingKey) : String :=
  "\x7b\"" ++ "vkey" ++ "\": \"" ++ key.bytes32 ++ "\"\x7d"

theorem toList_keyLine (key : VerifyingKey) :
    (keyLine key).toList = Json.line [] "vkey" key.bytes32 :=
  Json.opens_nil.line_eq (by decide) (Json.literal_hex _)

theorem whole_keyLine (key : VerifyingKey) : Whole (keyLine key).toList := by
  rw [toList_keyLine]
  exact Json.opens_nil.whole_line (by decide) (Json.literal_hex _)

theorem opens_keyLine (key : VerifyingKey) : OpensObject (keyLine key).toList := by
  rw [OpensObject, toList_keyLine, Json.trim_line]
  rfl

/-- The key is read from its own line behind such progress, and where a brace comes behind a word
there is no result. -/
theorem exists_result_behind_progress :
    (∃ key v, result (chatter ++ keyLine key ++ "\n" ++ "done\n") = .ok v ∧
      Prover.External.resultOf .vkey { stdout := chatter ++ keyLine key ++ "\n" ++ "done\n" } =
        .ok v ∧
      vkey v = .ok key) ∧
    result "done \x7b\"vkey\": 1\x7d\n" = .error .noResultLine := by
  let key : VerifyingKey := ⟨List.replicate 32 0, rfl⟩
  obtain ⟨v, line, named⟩ := vkey_line key
  obtain ⟨read, command⟩ := progress_never_changes_result.1 chatter (keyLine key) "done\n"
    (by decide +kernel) (whole_keyLine key) (opens_keyLine key) (by decide +kernel)
  have alone : lineResult (keyLine key) = .ok v := by
    rw [← result_of_line (whole_keyLine key) (opens_keyLine key), keyLine, line]
  have nothing : Quiet "done \x7b\"vkey\": 1\x7d\n" := by decide +kernel
  constructor
  · refine ⟨key, v, read.trans alone, ?_, named⟩
    rw [command .vkey _ rfl, Prover.External.resultOf]
    dsimp only
    rw [keyLine, line]
  · exact (progress_never_changes_result.2 _ nothing).1

end Output

end ProofDriver

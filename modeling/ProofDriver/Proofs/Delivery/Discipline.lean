import Mathlib.Data.List.Chain
import ProofDriver.Proofs.Delivery.Calm
import ProofDriver.Proofs.Delivery.Export
/-!
# The order of the calls

A delivery follows the plan of its mode call by call and never calls again after a failure. Each call
gets the run that the one before it returned, and a failure of a call is the failure of the delivery,
but for errors of wrapping, which are named as such.
-/

namespace ProofDriver

/-- What a client is asked to do, apart from the run that it is given. -/
inductive CallKind where
  | setup
  | execute (input : GuestInput)
  | prove (input : GuestInput) (mode : ProofMode)
  | wrap
  | verify
  deriving Repr, DecidableEq

namespace Event

def kind : Event → CallKind
  | setup _ => .setup
  | execute input _ => .execute input
  | prove input mode _ => .prove input mode
  | wrap _ _ => .wrap
  | verify _ _ _ _ => .verify

def run? : Event → Option Receipt
  | prove _ _ (.ok run) => some run
  | wrap _ (.ok run) => some run
  | _ => none

def About (run : Receipt) : Event → Prop
  | wrap given _ => given = run
  | verify proof publicValues vkey _ =>
    proof = run.proof ∧ publicValues = run.publicValues ∧ vkey = run.vkey
  | _ => False

/-- The next call is given the run that this one returned. No call comes after one that failed. -/
def Precedes (e next : Event) : Prop :=
  ∃ run, e.run? = some run ∧ next.About run

def failure? : Event → Option Failure
  | prove _ _ (.error e) => some e
  | wrap _ (.error e) => some (Strategy.wrappingFailure e)
  | verify _ _ _ (.error e) => some e
  | _ => none

end Event

namespace Delivery

def plan (input : GuestInput) : ProofMode → List CallKind
  | .core => [.prove input .core, .verify]
  | .compressed => [.prove input .compressed, .verify]
  | .plonk => [.prove input .compressed, .wrap, .verify]

/-- The events are a beginning of the plan, each about the run before it. -/
structure Disciplined (input : GuestInput) (mode : ProofMode) (events : List Event) : Prop where
  kinds : events.map Event.kind <+: plan input mode
  chain : events.IsChain Event.Precedes

namespace Disciplined

variable {input : GuestInput} {mode : ProofMode}

theorem nil (input : GuestInput) (mode : ProofMode) : Disciplined input mode [] :=
  ⟨List.nil_prefix, .nil⟩

theorem single (h : mode ≠ .plonk) (answer : Outcome Receipt) :
    Disciplined input mode [.prove input mode answer] := by
  refine ⟨?_, .singleton _⟩
  cases mode with
  | core => exact ⟨[.verify], rfl⟩
  | compressed => exact ⟨[.verify], rfl⟩
  | plonk => exact absurd rfl h

theorem unwrapped (answer : Outcome Receipt) :
    Disciplined input .plonk [.prove input .compressed answer] :=
  ⟨⟨[.wrap, .verify], rfl⟩, .singleton _⟩

theorem wrapped (compressed : Receipt) (answer : Outcome Receipt) :
    Disciplined input .plonk [.prove input .compressed (.ok compressed), .wrap compressed answer] :=
  ⟨⟨[.verify], rfl⟩, .cons_cons ⟨compressed, rfl, rfl⟩ (.singleton _)⟩

theorem verified {run : Receipt} {calls : List Event} (proved : Strategy.Proved input mode run calls)
    (answer : Outcome Bool) :
    Disciplined input mode
      (calls ++ [.verify run.proof run.publicValues run.vkey answer]) := by
  cases proved with
  | single h =>
    refine ⟨?_, .cons_cons ⟨run, rfl, rfl, rfl, rfl⟩ (.singleton _)⟩
    cases mode with
    | core => exact ⟨[], rfl⟩
    | compressed => exact ⟨[], rfl⟩
    | plonk => exact absurd rfl h
  | wrapped =>
    exact ⟨⟨[], rfl⟩, .cons_cons ⟨_, rfl, rfl⟩
      (.cons_cons ⟨run, rfl, rfl, rfl, rfl⟩ (.singleton _))⟩

end Disciplined

/-! ## The plan -/

variable {σ : Type} {client : Client σ} {settings : Settings} {n mode : Value}
  {output : Option Path} {w : World σ} {w' : World (σ × List Event)}

theorem disciplined_of_unproved {input : GuestInput} {m : ProofMode} {e : Failure}
    {w w' : World (σ × List Event)}
    (course : Strategy.Course client.traced input w m (.error e) w') :
    ∃ events, w'.trace = w.trace ++ events ∧ Disciplined input m events ∧
      ∀ event ∈ events, event.isVerify = false := by
  cases course with
  | unstarted observed =>
    exact ⟨[], by rw [observed.trace, List.append_nil], .nil input m, by simp⟩
  | single h asked _ => exact ⟨_, asked.trace, .single h _, by simp [Event.isVerify]⟩
  | unwrapped asked => exact ⟨_, asked.trace, .unwrapped _, by simp [Event.isVerify]⟩
  | wrapped first second _ =>
    have trace := second.trace
    rw [first.trace, List.append_assoc] at trace
    exact ⟨_, trace, .wrapped _ _, by simp [Event.isVerify]⟩

theorem Checked.disciplined {input : GuestInput} {m : ProofMode} {run : Receipt}
    {answer : Outcome Bool} {w₂ : World (σ × List Event)}
    (checked : Checked client.traced input m w.traced run answer w₂)
    (kept : w'.client = w₂.client) : Disciplined input m w'.trace := by
  obtain ⟨calls, proved, trace⟩ := checked.trace
  have same : w'.trace = w₂.trace := congrArg Prod.snd kept
  rw [same, trace]
  exact .verified proved answer

theorem Course.disciplined {m : ProofMode} {input : GuestInput} {r : Outcome (Fixture × Path)}
    (course : Course client.traced settings n mode output w.traced r w')
    (known : ProofMode.ofValue mode = .ok m) (valid : GuestInput.ofValue n = .ok input) :
    Disciplined input m w'.trace := by
  have same {m' : ProofMode} {input' : GuestInput} (known' : ProofMode.ofValue mode = .ok m')
      (valid' : GuestInput.ofValue n = .ok input') : m' = m ∧ input' = input :=
    ⟨Except.ok.inj (known'.symm.trans known), Except.ok.inj (valid'.symm.trans valid)⟩
  cases course with
  | unknownMode _ => exact .nil input m
  | invalidInput _ _ => exact .nil input m
  | unproved known' valid' course =>
    obtain ⟨rfl, rfl⟩ := same known' valid'
    obtain ⟨events, trace, disciplined, -⟩ := disciplined_of_unproved course
    rw [trace]
    exact disciplined
  | unanswered known' valid' checked | rejected known' valid' checked
  | unencodable known' valid' checked _ =>
    obtain ⟨rfl, rfl⟩ := same known' valid'
    exact checked.disciplined rfl
  | unsaved known' valid' checked _ _ kept | stored known' valid' checked _ _ kept =>
    obtain ⟨rfl, rfl⟩ := same known' valid'
    exact checked.disciplined kept

theorem Course.error_of_verify {r : Outcome (Fixture × Path)} {proof : Proof}
    {publicValues : Bytes} {vkey : VerifyingKey} {e : Failure}
    (course : Course client.traced settings n mode output w.traced r w')
    (failed : .verify proof publicValues vkey (.error e) ∈ w'.trace) : r = .error e := by
  have answered {m : ProofMode} {input : GuestInput} {run : Receipt} {answer : Outcome Bool}
      {w₂ : World (σ × List Event)}
      (checked : Checked client.traced input m w.traced run answer w₂)
      (kept : w'.client = w₂.client) : .error e = answer := by
    obtain ⟨calls, proved, trace⟩ := checked.trace
    have same : w'.trace = w₂.trace := congrArg Prod.snd kept
    rw [same, trace] at failed
    exact answer_of_mem proved failed
  cases course with
  | unknownMode _ | invalidInput _ _ => cases failed
  | unproved _ _ course =>
    obtain ⟨events, trace, -, no_verify⟩ := disciplined_of_unproved course
    rw [trace] at failed
    cases no_verify _ failed
  | unanswered _ _ checked =>
    cases answered checked rfl
    rfl
  | rejected _ _ checked | unencodable _ _ checked _ => cases answered checked rfl
  | unsaved _ _ checked _ _ kept | stored _ _ checked _ _ kept => cases answered checked kept

theorem Course.of_unknownMode {r : Outcome (Fixture × Path)} {e : DriverError}
    (course : Course client.traced settings n mode output w.traced r w')
    (unknown : ProofMode.ofValue mode = .error e) : w'.trace = [] ∧ r = .error (.driver e) := by
  cases course with
  | unknownMode unknown' =>
    cases unknown.symm.trans unknown'
    exact ⟨rfl, rfl⟩
  | _ known => cases unknown.symm.trans known

theorem Course.of_invalidInput {r : Outcome (Fixture × Path)} {m : ProofMode} {e : Failure}
    (course : Course client.traced settings n mode output w.traced r w')
    (known : ProofMode.ofValue mode = .ok m) (invalid : GuestInput.ofValue n = .error e) :
    w'.trace = [] ∧ r = .error e := by
  cases course with
  | unknownMode unknown => cases known.symm.trans unknown
  | invalidInput _ invalid' =>
    cases invalid.symm.trans invalid'
    exact ⟨rfl, rfl⟩
  | _ _ valid => cases invalid.symm.trans valid

/-! ## Calls that fail -/

theorem failure_of_calm_strategy {input : GuestInput} {m : ProofMode} {r : Outcome Receipt}
    {w w' : World (σ × List Event)}
    (course : Strategy.CalmCourse client.traced input w m r w') :
    ∃ events, w'.trace = w.trace ++ events ∧
      ∀ event ∈ events, ∀ e, event.failure? = some e → r = .error e := by
  cases course with
  | refused _ observed => exact ⟨[], by rw [observed.trace, List.append_nil], by simp⟩
  | single _ asked =>
    refine ⟨_, asked.trace, ?_⟩
    cases r <;> simp [Event.failure?]
  | unwrapped asked => exact ⟨_, asked.trace, by simp [Event.failure?]⟩
  | @wrapped compressed answer _ _ first second =>
    have trace := second.trace
    rw [first.trace, List.append_assoc] at trace
    refine ⟨_, trace, ?_⟩
    cases answer <;> simp [Event.failure?, Except.mapError]

theorem failure_of_concluded {m : ProofMode} {run : Receipt} {r : Outcome (Fixture × Path)}
    {w w' : World (σ × List Event)}
    (concluded : Concluded client.traced settings m output run w r w') :
    ∃ event, w'.trace = w.trace ++ [event] ∧ ∀ e, event.failure? = some e → r = .error e := by
  cases concluded with
  | unanswered asked =>
    refine ⟨_, asked.trace, fun e failed => ?_⟩
    cases failed
    rfl
  | rejected asked => exact ⟨_, asked.trace, fun e failed => by cases failed⟩
  | unencodable asked _ => exact ⟨_, asked.trace, fun e failed => by cases failed⟩
  | unsaved asked _ _ kept | stored asked _ _ kept =>
    have same : w'.trace = _ := congrArg Prod.snd kept
    exact ⟨_, same.trans asked.trace, fun e failed => by cases failed⟩

theorem failure_of_valid {sink : Sink} {m : ProofMode} {input : GuestInput}
    (known : ProofMode.ofValue mode = .ok m) (valid : GuestInput.ofValue n = .ok input)
    (calm : Unobtrusive sink w.machine) :
    (deliver client.traced settings sink n mode output).Ends w.traced fun r w' =>
      ∀ event ∈ w'.trace, ∀ e, event.failure? = some e → r = .error e := by
  have calm' : Unobtrusive sink w.traced.machine := calm
  refine (deliver_ends_of_unobtrusive client.traced settings output known valid calm').imp
    fun r w' course => ?_
  cases course with
  | unproved course =>
    obtain ⟨events, trace, failure⟩ := failure_of_calm_strategy course
    rw [World.trace_traced, List.nil_append] at trace
    intro event mem e failed
    rw [trace] at mem
    cases failure event mem e failed
    rfl
  | proved course concluded =>
    obtain ⟨events, trace, failure⟩ := failure_of_calm_strategy course
    obtain ⟨last, trace', failure'⟩ := failure_of_concluded concluded
    rw [World.trace_traced, List.nil_append] at trace
    intro event mem e failed
    rw [trace', trace, List.mem_append, List.mem_singleton] at mem
    rcases mem with before | rfl
    · cases failure event before e failed
    · exact failure' e failed

theorem failure_of_unobtrusive (client : Client σ) (settings : Settings) (n mode : Value)
    (output : Option Path) {sink : Sink} (calm : Unobtrusive sink w.machine) :
    (deliver client.traced settings sink n mode output).Ends w.traced fun r w' =>
      ∀ event ∈ w'.trace, ∀ e, event.failure? = some e → r = .error e := by
  have course := deliver_ends client.traced settings sink n mode output w.traced
  cases known : ProofMode.ofValue mode with
  | error e =>
    refine course.imp fun r w' course event mem => ?_
    rw [(course.of_unknownMode known).1] at mem
    cases mem
  | ok m =>
    cases valid : GuestInput.ofValue n with
    | error e =>
      refine course.imp fun r w' course event mem => ?_
      rw [(course.of_invalidInput known valid).1] at mem
      cases mem
    | ok input => exact failure_of_valid known valid calm

/-! ## The memory guard -/

/-- The client proves something and the machine has no more memory than the minimum. -/
structure ShortOfMemory (client : Client σ) (settings : Settings) (m : Machine) : Prop where
  sound : client.sound = true
  memory : ∃ total gb, m.totalMemory = .ok total ∧ Strategy.gigabytes total = .ok gb ∧
    (Number.real gb).le settings.plonkMinRam = true

/-- The error names the minimum as a double, so a minimum that is none cannot be named. -/
def refusal (settings : Settings) (available : Binary64) : Failure :=
  match settings.plonkMinRam.toDouble? with
  | none => .fault .integerTooLarge
  | some required =>
    .driver (Category.exhausted.error ("not enough memory to generate plonk proof: " ++
      available.fixed 0 ++ "GB available, more than " ++ required.fixed 0 ++ "GB required"))

theorem run_memory?_of_readable {total : Number} (readable : w.machine.totalMemory = .ok total) :
    (Strategy.memory? : Act (World σ) _).run w =
      (Fault.lift ((Strategy.gigabytes total).map some), w) := by
  unfold Strategy.memory?
  rw [Act.run_bind_of_ok (Act.run_get w), readable]
  dsimp only
  cases Strategy.gigabytes total <;> rfl

theorem requireMemory_of_short (short : ShortOfMemory client settings w.machine) :
    ∃ available, (Strategy.requireMemory client settings).run w =
      (.error (refusal settings available), w) := by
  obtain ⟨sound, total, gb, total_eq, gb_eq, le⟩ := short
  have memory : (Strategy.memory? : Act (World σ) _).run w = (.ok (some gb), w) := by
    rw [run_memory?_of_readable total_eq, gb_eq]
    rfl
  refine ⟨gb, ?_⟩
  unfold Strategy.requireMemory refusal
  rw [sound]
  simp only [Bool.not_true, Bool.false_eq_true, if_false]
  rw [Act.run_bind_of_ok memory]
  dsimp only
  rw [if_pos le]
  unfold Strategy.gigabyteText
  cases settings.plonkMinRam.toDouble? <;> rfl

theorem deliver_ends_of_short (sink : Sink) (output : Option Path) {input : GuestInput}
    (known : ProofMode.ofValue mode = .ok .plonk) (valid : GuestInput.ofValue n = .ok input)
    (short : ShortOfMemory client settings w.machine) :
    (deliver client settings sink n mode output).Ends w fun r w' =>
      w.Observed w' ∧ ∃ available, r = .error (refusal settings available) := by
  refine deliver_ends_of_valid known valid fun w₀ logged machine => ?_
  have short₀ : ShortOfMemory client settings w₀.machine := by rwa [machine]
  obtain ⟨available, refused⟩ := requireMemory_of_short short₀
  have stopped : (Strategy.run .plonk client settings sink input).run w₀ =
      (.error (refusal settings available), w₀) := Act.run_bind_of_error refused _
  exact .bind_error stopped ⟨logged, available, rfl⟩

/-! ## The whole delivery -/

/-- What a delivery with these arguments may do, as its trace and its result tell. -/
structure Orderly (client : Client σ) (settings : Settings) (sink : Sink) (n mode : Value)
    (m : Machine) (trace : List Event) (result : Outcome (Fixture × Path)) : Prop where
  unknownMode : ∀ e, ProofMode.ofValue mode = .error e →
    trace = [] ∧ result = .error (.driver e)
  invalidInput : ∀ mode' e, ProofMode.ofValue mode = .ok mode' → GuestInput.ofValue n = .error e →
    trace = [] ∧ result = .error e
  disciplined : ∀ mode' input, ProofMode.ofValue mode = .ok mode' →
    GuestInput.ofValue n = .ok input → Disciplined input mode' trace
  short : ∀ input, ProofMode.ofValue mode = .ok .plonk → GuestInput.ofValue n = .ok input →
    ShortOfMemory client settings m →
      trace = [] ∧
      (settings.plonkMinRam.toDouble? ≠ none →
        ∃ e, result = .error (.driver e) ∧ e.category = .exhausted) ∧
      (settings.plonkMinRam.toDouble? = none → result = .error (.fault .integerTooLarge))
  verify_failed : ∀ proof publicValues vkey e,
    .verify proof publicValues vkey (.error e) ∈ trace → result = .error e
  prove_failed : Unobtrusive sink m → ∀ input mode' e,
    .prove input mode' (.error e) ∈ trace → result = .error e
  wrap_fault : Unobtrusive sink m → ∀ run f,
    .wrap run (.error (.fault f)) ∈ trace → result = .error (.fault f)
  wrap_error : Unobtrusive sink m → ∀ run e, .wrap run (.error (.driver e)) ∈ trace →
    if e.category = .wrapping ∨ e.category = .exhausted then result = .error (.driver e)
    else ∃ e', result = .error (.driver e') ∧ e'.category = .wrapping

/-- A delivery is the same with and without a trace, and it is orderly. A machine short of memory is
named as the reason wherever the minimum is a double. -/
theorem deliver_orderly (client : Client σ) (settings : Settings) (sink : Sink) (n mode : Value)
    (output : Option Path) (w : World σ) :
    let (result, after) := (deliver client.traced settings sink n mode output).run w.traced
    (deliver client settings sink n mode output).run w = (result, after.untraced) ∧
      Orderly client settings sink n mode w.machine after.trace result := by
  have mirrored := mirrors_deliver client settings sink n mode output w.traced
  have course := deliver_ends client.traced settings sink n mode output w.traced
  have guarded {input : GuestInput} (known : ProofMode.ofValue mode = .ok .plonk)
      (valid : GuestInput.ofValue n = .ok input)
      (short : ShortOfMemory client settings w.machine) :=
    deliver_ends_of_short sink output known valid
      (⟨short.sound, short.memory⟩ : ShortOfMemory client.traced settings w.traced.machine)
  have failed (calm : Unobtrusive sink w.machine) :=
    failure_of_unobtrusive client settings n mode output calm
  unfold Act.Ends at course guarded failed
  rcases ran : (deliver client.traced settings sink n mode output).run w.traced with
    ⟨result, after⟩
  rw [ran] at mirrored course
  simp only [ran] at guarded failed
  refine ⟨mirrored, ?_, ?_, ?_, ?_, ?_, ?_, ?_, ?_⟩
  · exact fun e unknown => course.of_unknownMode unknown
  · exact fun m e known invalid => course.of_invalidInput known invalid
  · exact fun m input known valid => course.disciplined known valid
  · intro input known valid short
    obtain ⟨observed, available, rfl⟩ := guarded known valid short
    refine ⟨observed.trace, ?_, ?_⟩
    · intro double
      obtain ⟨required, eq⟩ := Option.ne_none_iff_exists'.mp double
      exact ⟨_, by rw [refusal, eq], rfl⟩
    · intro huge
      rw [refusal, huge]
  · exact fun proof publicValues vkey e failed => course.error_of_verify failed
  · exact fun calm input m e mem => failed calm _ mem e rfl
  · exact fun calm run f mem => failed calm _ mem (.fault f) rfl
  · intro calm run e mem
    have result := failed calm _ mem _ rfl
    unfold Strategy.wrappingFailure at result
    dsimp only at result
    split
    · rename_i kept
      rwa [if_pos kept] at result
    · rename_i renamed
      rw [if_neg renamed] at result
      exact ⟨_, result, rfl⟩

def untried : Client Unit where
  sound := true
  setup := Act.fail (.fault .noResultLine)
  execute _ := Act.fail (.fault .noResultLine)
  prove _ _ := Act.fail (.fault .noResultLine)
  wrap _ := Act.fail (.fault .noResultLine)
  verify _ _ _ := Act.fail (.fault .noResultLine)

def unreachable : Settings :=
  { plonkMinRam := .int (Nat.pow 10 400) }

theorem toDouble?_unreachable : unreachable.plonkMinRam.toDouble? = none := by decide +kernel

theorem short_of_unreachable (sound : client.sound = true) :
    ShortOfMemory client unreachable {} := by
  refine ⟨sound, .int 256000000000, .finite false 4503599627370496 (-44), rfl, ?_, ?_⟩
  · rfl
  · decide +kernel

/-- The machine is short of the minimum, and yet its delivery does not fail for lack of memory but
because an integer is too large. -/
theorem exists_shortage_not_named :
    ShortOfMemory untried unreachable spare.machine ∧
      ((deliver untried unreachable .journal (.int 7) (.text "plonk") none).run spare).1 =
        .error (.fault .integerTooLarge) := by
  have short : ShortOfMemory untried unreachable spare.machine := short_of_unreachable rfl
  refine ⟨short, ?_⟩
  have known : ProofMode.ofValue (.text "plonk") = .ok .plonk := by rfl
  have valid : GuestInput.ofValue (.int 7) = .ok ⟨[7, 0, 0, 0]⟩ := by rfl
  obtain ⟨-, available, result⟩ := deliver_ends_of_short .journal none known valid short
  rw [refusal, toDouble?_unreachable] at result
  exact result

end Delivery

end ProofDriver

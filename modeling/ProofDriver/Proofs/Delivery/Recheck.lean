import ProofDriver.Delivery
import ProofDriver.Proofs.Delivery.Served
import ProofDriver.Proofs.FileSystem.Load
import ProofDriver.Proofs.Fixture
import ProofDriver.Proofs.Json.Showable
import ProofDriver.Proofs.Prover.Trace
/-!
# Rechecking a fixture

A recheck takes the checks in one order: the document, the public values, the readable fields, the
key, the proof. The client is asked for its key only after the first three and to verify only after
the key, so what it was asked tells how far the recheck came. A document with an integer of too many
digits is not even read.
-/

namespace ProofDriver

theorem Act.Closed.recheck {σ : Type} {P : (α : Type) → Act (World σ) α → Prop} (h : Closed P)
    (look : ∀ {β : Type} {f : World σ → Act (World σ) β}, (∀ w, P β (f w)) → P β (get >>= f))
    {client : Client σ} (setup : P _ (World.ask client.setup))
    (verify : ∀ proof publicValues vkey, P _ (World.ask (client.verify proof publicValues vkey)))
    (shown : String) : P _ (Delivery.recheck client shown) := by
  refine look fun w => h.bind (h.ofOutcome _) fun f => h.bind (h.ofOutcome _) fun data =>
    h.bind (h.ofOutcome _) fun values => h.ite (h.fail_bind _ _) ?_
  have finish : P _ (do
      World.log .info .delivery ("fixture " ++ shown ++ " verified")
      pure f : Act (World σ) _) := h.log_bind (h.ofOutcome (.ok f))
  refine h.bind setup fun vkey => h.bind (h.ofOutcome _) fun key => h.ite (h.fail_bind _ _) ?_
  refine h.bind (h.ofOutcome _) fun proof => h.bind (verify _ _ _) fun answer =>
    h.ite (h.fail_bind _ _) ?_
  exact h.ite (h.log_bind finish) finish

/-- The file has this text, and the text does not go too deep to be read. -/
structure Disk.Holds (fs : FileSystem) (path : Path) (text : List Char) : Prop where
  held : readText fs path = .ok text
  shallow : Json.nesting text ≤ Json.roomToRead

namespace Delivery

variable {σ : Type}

open Act (Mirrors)

/-- The document is a fixture whose readable fields are its public values. -/
structure Genuine (v : Value) (fixture : Fixture) (publicValues : Bytes) : Prop where
  document : Fixture.ofValue v = .ok fixture
  data : fixture.publicValuesData = .ok publicValues
  length : publicValues.length = 96
  values : ∃ values, PublicValues.decode publicValues = .ok values ∧
    fixture.n = values.n.toNat ∧ fixture.a = values.a.toNat ∧ fixture.b = values.b.toNat

namespace Genuine

variable {v : Value} {f f' : Fixture} {data data' : Bytes}

theorem unique (genuine : Genuine v f data) (described : Fixture.ofValue v = .ok f')
    (decodes : f'.publicValuesData = .ok data') : f = f' ∧ data = data' := by
  cases genuine.document.symm.trans described
  cases genuine.data.symm.trans decodes
  exact ⟨rfl, rfl⟩

theorem agrees (genuine : Genuine v f data) {values : PublicValues}
    (decoded : PublicValues.decode data = .ok values) : f.agrees values = true := by
  obtain ⟨values', decoded', same⟩ := genuine.values
  cases decoded.symm.trans decoded'
  exact Fixture.agrees_iff.mpr same

end Genuine

inductive RecheckCourse (client : Client σ) (v : Value) (w : World σ) :
    Outcome Fixture → World σ → Prop
  | malformed {e} : Fixture.ofValue v = .error (.driver e) → Fixture.IsMalformed e →
      RecheckCourse client v w (.error (.driver e)) w
  | undecodable {f data e} : Fixture.ofValue v = .ok f → f.publicValuesData = .ok data →
      PublicValues.decode data = .error e → RecheckCourse client v w (.error (.driver e)) w
  | disagreeing {f data values e} : Fixture.ofValue v = .ok f → f.publicValuesData = .ok data →
      PublicValues.decode data = .ok values → f.agrees values = false →
      e.category = .verification → RecheckCourse client v w (.error (.driver e)) w
  | keyless {f data e w'} : Genuine v f data → (World.ask client.setup).run w = (.error e, w') →
      RecheckCourse client v w (.error e) w'
  | foreign {f data vkey e w'} : Genuine v f data →
      (World.ask client.setup).run w = (.ok vkey, w') → f.key ≠ .ok vkey →
      e.category = .verification → RecheckCourse client v w (.error (.driver e)) w'
  | unanswered {f data vkey proof e w₁ w'} : Genuine v f data →
      (World.ask client.setup).run w = (.ok vkey, w₁) → f.key = .ok vkey →
      f.proofData = .ok proof →
      (World.ask (client.verify ⟨f.mode, proof⟩ data vkey)).run w₁ = (.error e, w') →
      RecheckCourse client v w (.error e) w'
  | rejected {f data vkey proof e w₁ w'} : Genuine v f data →
      (World.ask client.setup).run w = (.ok vkey, w₁) → f.key = .ok vkey →
      f.proofData = .ok proof →
      (World.ask (client.verify ⟨f.mode, proof⟩ data vkey)).run w₁ = (.ok false, w') →
      e.category = .verification → RecheckCourse client v w (.error (.driver e)) w'
  | accepted {f data vkey proof w₁ w₂ w'} : Genuine v f data →
      (World.ask client.setup).run w = (.ok vkey, w₁) → f.key = .ok vkey →
      f.proofData = .ok proof →
      (World.ask (client.verify ⟨f.mode, proof⟩ data vkey)).run w₁ = (.ok true, w₂) →
      w₂.Observed w' → RecheckCourse client v w (.ok f) w'

theorem recheck_ends (client : Client σ) (shown : String) {v : Value} {w : World σ}
    (loaded : Disk.load w.disk.files (Path.ofString shown) = .ok v) :
    (recheck client shown).Ends w (RecheckCourse client v w) := by
  unfold recheck
  refine .bind_ok (Act.run_get w) ?_
  have document : Fixture.read w.disk.files shown = Fixture.ofValue v := by
    rw [Fixture.read, loaded]
  rw [document]
  cases described : Fixture.ofValue v with
  | error e =>
    obtain ⟨d, rfl, malformed⟩ :=
      Fixture.isMalformed_ofValue (Disk.isShowable_of_load loaded) e described
    exact .malformed described malformed
  | ok f =>
    refine .bind_ok (a := f) (t := w) rfl ?_
    have decodes := Fixture.decodes_of_ofValue described
    obtain ⟨data, hdata⟩ := decodes.publicValues
    rw [hdata]
    refine .bind_ok (a := data) (t := w) rfl ?_
    cases decoded : PublicValues.decode data with
    | error e => exact .undecodable described hdata decoded
    | ok values =>
      refine .bind_ok (a := values) (t := w) rfl ?_
      cases agrees : f.agrees values with
      | false => exact .disagreeing described hdata decoded agrees rfl
      | true =>
        have genuine : Genuine v f data := ⟨described, hdata,
          PublicValues.length_of_decode decoded, values, decoded, Fixture.agrees_iff.mp agrees⟩
        simp only [Bool.not_true, Bool.false_eq_true, if_false]
        apply Act.Ends.bind
        case error =>
          intro e w₁ asked
          exact .keyless genuine asked
        case ok =>
          intro vkey w₁ asked
          obtain ⟨key, hkey⟩ := decodes.exists_key
          obtain ⟨proof, hproof⟩ := decodes.proof
          rw [hkey, hproof]
          refine .bind_ok (a := key) (t := w₁) rfl ?_
          split
          · rename_i other
            refine .foreign genuine asked (fun same => other ?_) rfl
            exact Except.ok.inj (hkey.symm.trans same)
          · rename_i same
            replace same : key = vkey := Decidable.not_not.mp same
            subst same
            refine .bind_ok (a := proof) (t := w₁) rfl ?_
            apply Act.Ends.bind
            case error =>
              intro e w₂ answer
              exact .unanswered genuine asked hkey hproof answer
            case ok =>
              intro answer w₂ answered
              cases answer with
              | false => exact .rejected genuine asked hkey hproof answered rfl
              | true =>
                have accepted {w' : World σ} (observed : w₂.Observed w') :
                    RecheckCourse client v w (.ok f) w' :=
                  .accepted genuine asked hkey hproof answered observed
                simp only [Bool.not_true, Bool.false_eq_true, if_false]
                split
                · exact .log fun w₃ first => .log fun w₄ second => accepted (first.trans second)
                · exact .log fun w₃ first => accepted first

namespace RecheckCourse

variable {client : Client σ} {v : Value} {w w' : World σ} {r : Outcome Fixture}

theorem disk (course : RecheckCourse client v w r w') : w'.disk = w.disk := by
  have asked {α : Type} {work : Act (Desk σ) α} {w₁ w₂ : World σ} {r : Outcome α}
      (h : (World.ask work).run w₁ = (r, w₂)) : w₂.disk = w₁.disk := (World.asked_of_run h).1
  cases course with
  | malformed _ _ | undecodable _ _ _ | disagreeing _ _ _ _ _ => rfl
  | keyless _ setup | foreign _ setup _ _ => exact asked setup
  | unanswered _ setup _ _ verify | rejected _ setup _ _ verify _ =>
    exact (asked verify).trans (asked setup)
  | accepted _ setup _ _ verify observed =>
    exact observed.disk.trans ((asked verify).trans (asked setup))

end RecheckCourse

theorem recheck_eq_ok_iff (client : Client σ) {shown : String} {v : Value} {w : World σ}
    (loaded : Disk.load w.disk.files (Path.ofString shown) = .ok v) (f : Fixture) :
    ((recheck client shown).run w).1 = .ok f ↔
      ∃ data vkey desk proof, Genuine v f data ∧ client.setup.run w.toDesk = (.ok vkey, desk) ∧
        f.key = .ok vkey ∧ f.proofData = .ok proof ∧
        ((client.verify ⟨f.mode, proof⟩ data vkey).run desk).1 = .ok true := by
  have course := recheck_ends client shown loaded
  unfold Act.Ends at course
  rcases ran : (recheck client shown).run w with ⟨r, w'⟩
  rw [ran] at course
  constructor
  · rintro rfl
    cases course with
    | accepted genuine setup key proof verify _ =>
      refine ⟨_, _, _, _, genuine, World.run_of_ask setup, key, proof, ?_⟩
      rw [World.run_of_ask verify]
  · rintro ⟨data, vkey, desk, proof, genuine, setup, key, hproof, verify⟩
    -- Every other course departs from the facts at one of its checks.
    cases course with
    | malformed refused _ => cases genuine.document.symm.trans refused
    | undecodable described decodes refused =>
      obtain ⟨rfl, rfl⟩ := genuine.unique described decodes
      obtain ⟨values, decoded, -⟩ := genuine.values
      cases decoded.symm.trans refused
    | disagreeing described decodes decoded differs _ =>
      obtain ⟨rfl, rfl⟩ := genuine.unique described decodes
      rw [genuine.agrees decoded] at differs
      cases differs
    | keyless _ failed => cases setup.symm.trans (World.run_of_ask failed)
    | foreign genuine' setup' other _ =>
      obtain ⟨rfl, rfl⟩ := genuine.unique genuine'.document genuine'.data
      cases setup.symm.trans (World.run_of_ask setup')
      exact absurd key other
    | unanswered genuine' setup' key' proof' failed =>
      obtain ⟨rfl, rfl⟩ := genuine.unique genuine'.document genuine'.data
      cases setup.symm.trans (World.run_of_ask setup')
      cases hproof.symm.trans proof'
      rw [World.run_of_ask failed] at verify
      cases verify
    | rejected genuine' setup' key' proof' answered _ =>
      obtain ⟨rfl, rfl⟩ := genuine.unique genuine'.document genuine'.data
      cases setup.symm.trans (World.run_of_ask setup')
      cases hproof.symm.trans proof'
      rw [World.run_of_ask answered] at verify
      cases verify
    | accepted genuine' _ _ _ _ _ =>
      rw [(genuine.unique genuine'.document genuine'.data).1]

/-! ## The calls of a recheck -/

inductive Rechecked (v : Value) : Outcome Fixture → List Event → Prop
  | malformed {e} : Fixture.ofValue v = .error (.driver e) → Fixture.IsMalformed e →
      Rechecked v (.error (.driver e)) []
  | undecodable {f data e} : Fixture.ofValue v = .ok f → f.publicValuesData = .ok data →
      PublicValues.decode data = .error e → e.category = .encoding →
      Rechecked v (.error (.driver e)) []
  | disagreeing {f data values e} : Fixture.ofValue v = .ok f → f.publicValuesData = .ok data →
      PublicValues.decode data = .ok values → f.agrees values = false →
      e.category = .verification → Rechecked v (.error (.driver e)) []
  | keyless {f data e} : Genuine v f data → Rechecked v (.error e) [.setup (.error e)]
  | foreign {f data vkey e} : Genuine v f data → f.key ≠ .ok vkey → e.category = .verification →
      Rechecked v (.error (.driver e)) [.setup (.ok vkey)]
  | unanswered {f data vkey proof e} : Genuine v f data → f.key = .ok vkey →
      f.proofData = .ok proof →
      Rechecked v (.error e) [.setup (.ok vkey), .verify ⟨f.mode, proof⟩ data vkey (.error e)]
  | rejected {f data vkey proof e} : Genuine v f data → f.key = .ok vkey →
      f.proofData = .ok proof → e.category = .verification →
      Rechecked v (.error (.driver e))
        [.setup (.ok vkey), .verify ⟨f.mode, proof⟩ data vkey (.ok false)]
  | accepted {f data vkey proof} : Genuine v f data → f.key = .ok vkey →
      f.proofData = .ok proof →
      Rechecked v (.ok f) [.setup (.ok vkey), .verify ⟨f.mode, proof⟩ data vkey (.ok true)]

theorem RecheckCourse.rechecked {client : Client σ} {v : Value} {w : World σ}
    {w' : World (σ × List Event)} {r : Outcome Fixture}
    (course : RecheckCourse client.traced v w.traced r w') : Rechecked v r w'.trace := by
  have first {w₁ : World (σ × List Event)} {r : Outcome VerifyingKey}
      (setup : (World.ask client.traced.setup).run w.traced = (r, w₁)) :
      w₁.trace = [.setup r] := (World.asked_of_run setup).trace
  have second {w₁ w₂ : World (σ × List Event)} {r : Outcome VerifyingKey} {proof : Proof}
      {data : Bytes} {vkey : VerifyingKey} {answer : Outcome Bool}
      (setup : (World.ask client.traced.setup).run w.traced = (r, w₁))
      (verify : (World.ask (client.traced.verify proof data vkey)).run w₁ = (answer, w₂)) :
      w₂.trace = [.setup r, .verify proof data vkey answer] := by
    rw [(World.asked_of_run verify).trace, first setup]
    rfl
  cases course with
  | malformed refused malformed => exact .malformed refused malformed
  | undecodable described decodes refused =>
    exact .undecodable described decodes refused (PublicValues.category_of_decode _ refused)
  | disagreeing described decodes decoded differs category =>
    exact .disagreeing described decodes decoded differs category
  | keyless genuine setup =>
    rw [first setup]
    exact .keyless genuine
  | foreign genuine setup other category =>
    rw [first setup]
    exact .foreign genuine other category
  | unanswered genuine setup key proof verify =>
    rw [second setup verify]
    exact .unanswered genuine key proof
  | rejected genuine setup key proof verify category =>
    rw [second setup verify]
    exact .rejected genuine key proof category
  | accepted genuine setup key proof verify observed =>
    rw [observed.trace, second setup verify]
    exact .accepted genuine key proof

theorem mirrors_recheck (client : Client σ) (shown : String) :
    (recheck client.traced shown).Mirrors (recheck client shown) := by
  refine Mirrors.get_bind fun w => ?_
  rw [World.disk_untraced]
  refine (Mirrors.ofOutcome _).bind fun f => (Mirrors.ofFault _).bind fun data =>
    (Mirrors.ofDriver _).bind fun values => ?_
  have finish : (do
      World.log .info .delivery ("fixture " ++ shown ++ " verified")
      pure f : Act (World (σ × List Event)) _).Mirrors (do
      World.log .info .delivery ("fixture " ++ shown ++ " verified")
      pure f) :=
    Mirrors.log.bind fun _ => .pure f
  refine .ite (.fail_bind _ _ _) ((Mirrors.ask _ _).bind fun vkey => (Mirrors.ofFault _).bind
    fun key => .ite (.fail_bind _ _ _) ((Mirrors.ofFault _).bind fun proof =>
    (Mirrors.ask _ _).bind fun answer => .ite (.fail_bind _ _ _) ?_))
  exact .ite (Mirrors.log.bind fun _ => finish) finish

theorem recheck_of_unread {client : Client σ} {shown : String} {w : World σ} {e : Failure}
    (refused : Fixture.read w.disk.files shown = .error e) :
    (recheck client shown).run w = (.error e, w) := by
  unfold recheck
  rw [Act.run_bind_of_ok (Act.run_get w), refused]
  rfl

/-- A text that is refused holds no fixture; too many digits are passed on as they are. -/
theorem exists_read_of_refusal {fs : FileSystem} {shown : String} {text : List Char}
    {refusal : Json.Refusal} (held : Disk.readText fs (Path.ofString shown) = .ok text)
    (refused : Json.read text = .error refusal) :
    ∃ e, Fixture.read fs shown = .error e ∧
      ∀ count, refusal = .tooManyDigits count → e = .fault (.tooManyDigits count) := by
  rw [Fixture.read, Disk.load, held]
  dsimp only
  rw [refused]
  cases refusal with
  | malformed e => exact ⟨_, rfl, fun count same => by cases same⟩
  | tooManyDigits count =>
    refine ⟨_, rfl, fun count' same => ?_⟩
    cases same
    rfl

/-- A recheck leaves the disk alone. With the text of a document it calls the client only as its
course says, and succeeds with exactly the genuine fixtures of the client's program whose proof the
client verifies. Where the text has an integer of too many digits, that is all it says. -/
theorem recheck_accepts_exactly_genuine (client : Client σ) (shown : String) (text : List Char)
    (w : World σ) (holds : Disk.Holds w.disk.files (Path.ofString shown) text) :
    let (result, after) := (recheck client.traced shown).run w.traced
    (recheck client shown).run w = (result, after.untraced) ∧
    after.disk = w.disk ∧
    (∀ v, Json.read text = .ok v →
      Rechecked v result after.trace ∧
      ∀ f, result = .ok f ↔ ∃ data vkey desk proof, Genuine v f data ∧
        client.setup.run w.toDesk = (.ok vkey, desk) ∧ Hex.decode f.vkey = .ok vkey.digest ∧
        f.proofData = .ok proof ∧
        ((client.verify ⟨f.mode, proof⟩ data vkey).run desk).1 = .ok true) ∧
    ∀ count, Json.read text = .error (.tooManyDigits count) →
      result = .error (.fault (.tooManyDigits count)) ∧ after = w.traced := by
  have mirrored := mirrors_recheck client shown w.traced
  rcases ran : (recheck client.traced shown).run w.traced with ⟨result, after⟩
  rw [ran, World.untraced_traced] at mirrored
  cases read : Json.read text with
  | error refusal =>
    obtain ⟨e, refused, digits⟩ := exists_read_of_refusal holds.held read
    have stopped : (recheck client.traced shown).run w.traced = (.error e, w.traced) :=
      recheck_of_unread refused
    obtain ⟨rfl, rfl⟩ := Prod.mk.inj (ran.symm.trans stopped)
    refine ⟨mirrored, rfl, fun v same => (by cases same), fun count same => ⟨?_, rfl⟩⟩
    rw [digits count (Except.error.inj same)]
  | ok v =>
    have loaded : Disk.load w.disk.files (Path.ofString shown) = .ok v := by
      rw [Disk.load, holds.held]
      dsimp only
      rw [read]
    have course := (recheck_ends client.traced shown (w := w.traced) loaded).run_eq ran
    have accepts := recheck_eq_ok_iff client loaded
    rw [mirrored] at accepts
    refine ⟨mirrored, course.disk, fun v' same => ?_, fun count same => by cases same⟩
    cases same
    exact ⟨course.rechecked, fun f => by simpa only [Fixture.key_eq_ok] using accepts f⟩

def trusting : Client Unit where
  sound := true
  setup := pure zeroKey
  execute _ := Act.fail (.fault .noResultLine)
  prove _ _ := Act.fail (.fault .noResultLine)
  wrap _ := Act.fail (.fault .noResultLine)
  verify _ _ _ := pure true

def holding (data : Bytes) : World Unit where
  client := ()
  disk := { files := FileSystem.single data }

def zeroFixture : Fixture where
  mode := .core
  n := 0
  a := 0
  b := 0
  vkey := zeroKey.bytes32
  publicValues := Hex.encode (List.replicate 96 0)
  proof := Hex.encode []

theorem ofProof_zeroFixture :
    Fixture.ofProof (List.replicate 96 0) ⟨.core, []⟩ zeroKey false = .ok zeroFixture :=
  Fixture.ofProof_eq_ok.mpr ⟨⟨0, 0, 0⟩, rfl, rfl⟩

theorem passes_zeroFixture {v : Value} (described : Fixture.ofValue v = .ok zeroFixture)
    (w : World Unit) :
    ∃ data vkey desk proof, Genuine v zeroFixture data ∧
      trusting.setup.run w.toDesk = (.ok vkey, desk) ∧
      Hex.decode zeroFixture.vkey = .ok vkey.digest ∧ zeroFixture.proofData = .ok proof ∧
      ((trusting.verify ⟨zeroFixture.mode, proof⟩ data vkey).run desk).1 = .ok true := by
  have attests := Fixture.attests_ofProof ofProof_zeroFixture
  exact ⟨_, zeroKey, _, _, ⟨described, attests.publicValuesData, rfl, attests.values⟩, rfl,
    Fixture.key_eq_ok.mp attests.key, attests.proofData, rfl⟩

def memberText (name : String) (value : List Char) : List Char :=
  '"' :: name.toList ++ '"' :: ':' :: value

def zerosText (digits : Nat) : List Char :=
  '"' :: '0' :: 'x' :: List.replicate digits '0' ++ ['"']

def zeroMembers : List Char :=
  memberText "version" ['1'] ++ (',' :: memberText "mode" "\"core\"".toList ++
    (',' :: memberText "n" ['0'] ++ (',' :: memberText "a" ['0'] ++ (',' :: memberText "b" ['0'] ++
    (',' :: memberText "vkey" (zerosText 64) ++ (',' :: memberText "publicValues" (zerosText 192) ++
    (',' :: memberText "proof" (zerosText 0) ++ ['}'])))))))

def holdingText (text : List Char) : World Unit :=
  holding (Text.utf8Bytes (String.ofList text))

theorem readText_holdingText {text : List Char}
    (plain : (text.all fun c => c.toNat < 0x80 && c != '\r') = true) :
    Disk.readText (holdingText text).disk.files (Path.ofString "f") = .ok text := by
  simp only [List.all_eq_true, Bool.and_eq_true, decide_eq_true_eq, bne_iff_ne, ne_eq] at plain
  exact Disk.readText_of_ascii (fun c mem => (plain c mem).1)
    (fun mem => (plain _ mem).2 rfl) (FileSystem.read_single _)

/-- The client accepts a fixture in which all public values are zero. -/
theorem exists_recheck_accepted :
    let text := '{' :: zeroMembers
    Disk.Holds (holdingText text).disk.files (Path.ofString "f") text ∧
      ((recheck trusting "f").run (holdingText text)).1 = .ok zeroFixture := by
  intro text
  have holds : Disk.Holds (holdingText text).disk.files (Path.ofString "f") text :=
    ⟨readText_holdingText (by decide +kernel), by decide +kernel⟩
  have described : (Json.read text).toOption.any
      (fun v => decide (Fixture.ofValue v = .ok zeroFixture)) = true := by decide +kernel
  obtain ⟨v, read, described⟩ := Except.exists_of_any described
  refine ⟨holds, ?_⟩
  have checked := recheck_accepts_exactly_genuine trusting "f" text (holdingText text) holds
  rcases ran : (recheck trusting.traced "f").run (holdingText text).traced with ⟨result, after⟩
  rw [ran] at checked
  obtain ⟨mirrored, -, accepts, -⟩ := checked
  rw [mirrored]
  exact ((accepts v read).2 zeroFixture).mpr (passes_zeroFixture (of_decide_eq_true described) _)

def overlongText : List Char :=
  '{' :: memberText "x" (List.replicate (Numeral.digitLimit + 1) '1') ++ ',' :: zeroMembers

def tooManyDigits? : Except Json.Refusal Value → Option Nat
  | .error (.tooManyDigits count) => some count
  | _ => none

/-- A field that no fixture has makes a fixture no other, whatever integer it holds, but with too many
digits in it the fixture is not read. -/
theorem exists_genuine_not_read :
    let w := holdingText overlongText
    (∀ i, ∃ data vkey desk proof,
      Genuine (.object (("x", .int i) :: zeroFixture.toFields)) zeroFixture data ∧
      trusting.setup.run w.toDesk = (.ok vkey, desk) ∧
      Hex.decode zeroFixture.vkey = .ok vkey.digest ∧ zeroFixture.proofData = .ok proof ∧
      ((trusting.verify ⟨zeroFixture.mode, proof⟩ data vkey).run desk).1 = .ok true) ∧
    Disk.readText w.disk.files (Path.ofString "f") = .ok overlongText ∧
    (recheck trusting "f").run w =
      (.error (.fault (.tooManyDigits (Numeral.digitLimit + 1))), w) := by
  intro w
  have other : ∀ known ∈ "dev" :: Fixture.requiredFields,
      CodeString.ofString known ≠ CodeString.ofString "x" := by decide
  have held : Disk.readText w.disk.files (Path.ofString "f") = .ok overlongText :=
    readText_holdingText (by decide +kernel)
  have long : tooManyDigits? (Json.read overlongText) = some (Numeral.digitLimit + 1) := by
    decide +kernel
  refine ⟨fun i => passes_zeroFixture ?_ w, held, ?_⟩
  · rw [Fixture.ofValue, Fixture.ofFields_cons _ other]
    exact Fixture.ofFields_toFields (Fixture.decodes_ofProof ofProof_zeroFixture)
  · cases read : Json.read overlongText with
    | ok v =>
      rw [read] at long
      cases long
    | error refusal =>
      rw [read] at long
      cases refusal with
      | malformed e => cases long
      | tooManyDigits count =>
        cases long
        obtain ⟨e, refused, digits⟩ := exists_read_of_refusal held read
        rw [recheck_of_unread refused, digits _ rfl]

end Delivery

end ProofDriver

import ProofDriver.World
/-!
# Metered work

Readings are taken before and after the expensive calls and reported to a sink. Metering only
observes: whatever it comes to, the result and the failure of the call pass through.
-/

namespace ProofDriver

/-- Who receives the reports: the journal, or somebody who accepts or refuses each one, which may
depend on the reports offered before it. -/
inductive Sink where
  | journal
  | receiver (respond : List Usage → Usage → Option Failure)

namespace World

variable {σ α : Type}

def isSamplingFault (f : Fault) : Bool :=
  f.kind == .system || f.kind == .sampling

def nextSample : Act (World σ) (Except Fault Sample) :=
  modifyGet fun w =>
    match w.machine.samples with
    | [] => (.ok {}, w)
    | s :: rest => (s, { w with machine := { w.machine with samples := rest } })

def takeSample (stage : String) : Act (World σ) (Option Sample) := do
  match ← nextSample with
  | .ok s => pure (some s)
  | .error f =>
    if isSamplingFault f then
      log .warning .metering ("resource sampling for " ++ stage ++ " failed: " ++ f.message)
      pure none
    else Act.fail (.fault f)

def noteUsage (r : Usage) : Act (World σ) Unit := do
  log .info .metering (← Act.ofFault r.line)

def offer (sink : Sink) (r : Usage) : Act (World σ) Unit :=
  match sink with
  | .journal => noteUsage r
  | .receiver respond => do
    let offered := (← get).reports
    modify fun w => { w with reports := w.reports ++ [r] }
    match respond offered r with
    | none => pure ()
    | some e => Act.fail e

/-- Offers a report; that it is refused is worth a warning, unless the refusal is an interrupt. -/
def handOver (sink : Sink) (r : Usage) : Act (World σ) Unit := do
  match ← Act.attempt (offer sink r) with
  | .ok () => pure ()
  | .error e =>
    if e.isOrdinary then
      log .warning .metering
        ("resource report for " ++ r.stage ++ " was dropped: " ++ e.message)
    else Act.fail e

/-- Does the work between two samples and reports their difference if there are both. -/
def metered (sink : Sink) (stage : String) (work : Act (World σ) α) : Act (World σ) α := do
  let before ← takeSample stage
  let result ← Act.attempt work
  let after ← takeSample stage
  match before, after with
  | some before, some after =>
    handOver sink (Usage.between stage before after result.isOk)
  | _, _ => pure ()
  Act.ofOutcome result

end World

end ProofDriver

import ProofDriver.Failure
import ProofDriver.Number.Fixed
/-!
# Usage

Readings of memory, processor time and a clock, and what a stage of the work took between two of
them.
-/

namespace ProofDriver

structure Sample where
  memory : Int := 0
  cpuSeconds : Binary64 := .zero
  wall : Binary64 := .zero
  deriving Repr, DecidableEq

structure Usage where
  stage : String
  elapsed : Binary64
  memoryBefore : Int
  memoryAfter : Int
  cpuSeconds : Binary64
  ok : Bool
  deriving Repr, DecidableEq

namespace Usage

def growth (r : Usage) : Int :=
  r.memoryAfter - r.memoryBefore

def between (stage : String) (before after : Sample) (ok : Bool) : Usage :=
  { stage
    elapsed := after.wall.sub before.wall
    memoryBefore := before.memory
    memoryAfter := after.memory
    cpuSeconds := after.cpuSeconds.sub before.cpuSeconds
    ok }

def megabyte : Nat := 1024 * 1024

def megabytes (n : Int) : Except Fault Binary64 :=
  match Binary64.ofRatio (n < 0) n.natAbs megabyte with
  | .infinite _ => .error .quotientTooLarge
  | x => .ok x

def line (r : Usage) : Except Fault String := do
  let before ← megabytes r.memoryBefore
  let after ← megabytes r.memoryAfter
  let delta ← megabytes r.growth
  .ok (r.stage ++ (if r.ok then " finished in " else " failed in ") ++ r.elapsed.fixed 2 ++
    "s, rss " ++ before.fixed 1 ++ " MB -> " ++ after.fixed 1 ++ " MB (" ++ delta.fixed 1 true ++
    " MB), cpu " ++ r.cpuSeconds.fixed 2 ++ "s")

end Usage

end ProofDriver

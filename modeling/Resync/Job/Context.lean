import Resync.Context.Draft
import Resync.Job.Schedule

/-! # Programs in a context

A context takes part in a job with its registry, its connections and its pool, and keeps
what has become of them.
-/
namespace Resync.Context

variable {ν τ : Type}

def job (x : Context) (c : Cluster) : Job ν τ where
  world := c.world
  codec := c.codec
  registry := x.registry
  pool := x.pool
  opened := x.opened
  snapshot := x.snapshot

def after (x : Context) (j : Job ν τ) : Context :=
  { x with registry := j.registry, pool := j.pool, opened := j.opened }

structure Performance (ν τ : Type) where
  outcome : Option (Outcome τ)
  journal : List (ProcessId × ν)
  context : Context
  cluster : Cluster

/-- Runs a program in the context; its first turn begins with `allowance`. -/
def perform (fuel allowance : Nat) (x : Context) (c : Cluster) (inSpan : Bool)
    (program : Program ν τ) : Performance ν τ :=
  let (outcome, j) := (x.job c).perform fuel allowance inSpan program
  { outcome, journal := j.journal, context := x.after j, cluster := { c with world := j.world } }

def closing (result : τ) : Program ν τ :=
  .ask .closeRegistry fun _ => .ask .shutdown fun _ => .done result

end Resync.Context

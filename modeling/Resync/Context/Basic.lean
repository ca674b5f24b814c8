import Resync.Cluster.World
import Resync.Pool
import Resync.Registry

/-! # Contexts

What a job works with: a source, its target, a snapshot of each, the connections that are
open for the job, and a pool.
-/
namespace Resync

inductive Side where
  | source
  | target
  deriving DecidableEq, Repr

/-- A connection of a job: the backend it leads to and its number in the world. -/
structure Opened where
  backend : String
  number : Nat
  deriving DecidableEq, Repr

structure Context where
  source : Member
  target : Member
  snapshot : Side → Nat
  registry : Registry
  opened : List Opened
  pool : Pool
  /-- What making the context has taken of the allowance of its turn. -/
  spent : Nat := 0

structure View where
  source : Member
  target : Member
  sourceSnapshot : Snapshot
  targetSnapshot : Snapshot

def Context.view? (x : Context) (c : Cluster) : Option View := do
  let sourceSnapshot ← c.world.cache.snapshot? (x.snapshot .source)
  let targetSnapshot ← c.world.cache.snapshot? (x.snapshot .target)
  pure { source := x.source, target := x.target, sourceSnapshot, targetSnapshot }

end Resync

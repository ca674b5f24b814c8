/-! # Worker pools

A pool runs accepted tasks, at most `capacity` of them at a time. Tasks are numbered as
they are accepted. An accepted task asks for a permit when it comes to run for the first
time, and lines up if there is none. It runs while it has the permit and gives it back when
it ends; then the task that has stood in line longest has it, or else the permit is left for
the next one to ask. A pool that is shut down accepts no more tasks, but those it has
accepted still run.
-/
namespace Resync

structure Pool where
  capacity : Nat
  /-- The permits that no task has. -/
  permits : Nat
  /-- How many tasks were accepted; the next one has this number. -/
  accepted : Nat := 0
  /-- The tasks without a permit, in the order of their acceptance. -/
  waiting : List Nat := []
  /-- Those of them that have asked for a permit, in the order in which they did. -/
  line : List Nat := []
  active : List Nat := []
  isShutdown : Bool := false
  deriving DecidableEq, Repr

namespace Pool

/-- A new pool; it can run one task at least. -/
def ofCapacity (n : Nat) : Pool := { capacity := max 1 n, permits := max 1 n }

def running (p : Pool) : Nat := p.capacity - p.permits

def outstanding (p : Pool) : Nat := p.waiting.length + p.active.length

def submit? (p : Pool) : Option (Nat × Pool) :=
  if p.isShutdown then none
  else some (p.accepted,
    { p with accepted := p.accepted + 1, waiting := p.waiting ++ [p.accepted] })

def grant? (p : Pool) (task : Nat) : Option Pool :=
  if p.waiting.contains task && 0 < p.permits then
    some { p with
      permits := p.permits - 1
      waiting := p.waiting.filter (· ≠ task)
      line := p.line.filter (· ≠ task)
      active := p.active ++ [task] }
  else none

/-- A waiting task lines up, unless it stands in line. -/
def lineUp? (p : Pool) (task : Nat) : Option Pool :=
  if p.waiting.contains task && !p.line.contains task then some { p with line := p.line ++ [task] }
  else none

def finish (p : Pool) (task : Nat) : Pool :=
  if p.active.contains task then
    { p with permits := p.permits + 1, active := p.active.filter (· ≠ task) }
  else
    { p with
      waiting := p.waiting.filter (· ≠ task)
      line := p.line.filter (· ≠ task) }

def grantNext? (p : Pool) : Option (Nat × Pool) := do
  let task ← p.line.head?
  let p ← p.grant? task
  pure (task, p)

def shutdown (p : Pool) : Pool := { p with isShutdown := true }

def isTerminated (p : Pool) : Bool := p.isShutdown && p.outstanding == 0

end Pool
end Resync

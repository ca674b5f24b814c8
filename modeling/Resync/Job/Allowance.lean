import Resync.Job.Basic

/-! # Allowances

A process that goes on has a turn, which lasts until it has to wait. A turn has an
allowance: a permit, the end of another process, a time to wait for and an attempt to open
a connection each need a unit of it, and take the unit when the process need not wait any
longer. A process without a unit left has to give up its turn first, so none keeps all
others from going on. It keeps what it has: at a cell where it took the turn, all others
queue up meanwhile.
-/
namespace Resync

def turnAllowance : Nat := 128

inductive Charge where
  | nothing
  /-- A unit has to be left, and is kept. -/
  | presence
  | unit
  deriving DecidableEq, Repr

namespace Charge

def needed : Charge → Nat
  | nothing => 0
  | presence | unit => 1

def taken : Charge → Nat
  | nothing | presence => 0
  | unit => 1

end Charge

/-- What the next step of process `p` means for its allowance. To take the turn at a cell, or to
queue up there, costs nothing; to begin an attempt to open a connection takes a unit. -/
def Process.charge {ν τ : Type} (j : Job ν τ) (p : ProcessId) : Process ν τ → Charge
  | fresh _ | asleep .. | awaiting .. | running (.ask (.join _) _) => .unit
  | running (.ask (.sleep _) _) => .presence
  | queued m _ => if (j.registry.cell m.id).holder? = some p then .unit else .nothing
  | opening _ a _ => if a.due.isSome then .presence else .nothing
  | running _ | admitted .. | visiting .. | lingering .. | ended _ => .nothing

def Job.charge {ν τ : Type} (j : Job ν τ) (p : ProcessId) : Charge :=
  ((j.process? p).map (Process.charge j p)).getD .nothing

end Resync

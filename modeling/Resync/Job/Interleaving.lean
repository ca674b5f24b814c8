import Resync.Job.Step

/-! # Interleavings

What can happen to a job, in any order: any process makes a step, time passes, a process
is ended from outside, or a signal is given. A list of moves is an interleaving; it is
impossible if a process would have to step that has to wait.
-/
namespace Resync

inductive Move where
  | step (p : ProcessId) (choice : Nat)
  | elapse (duration : Nat)
  | abort (p : ProcessId)
  | signal (name : String)
  deriving DecidableEq, Repr

namespace Job

variable {ν τ : Type}

def move? (j : Job ν τ) : Move → Option (Job ν τ)
  | .step p choice => (j.step p choice).map Prod.fst
  | .elapse d => some { j with world := { j.world with now := j.world.timeAfter d } }
  | .abort p => some (j.abort p).1
  | .signal name => some (j.giveSignal name).1

def play? (j : Job ν τ) (moves : List Move) : Option (Job ν τ) := moves.foldlM move? j

end Job
end Resync

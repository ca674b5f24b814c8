import Resync.Job.Allowance
import Resync.Job.Step

/-! # Schedules

One of the interleavings of a job is the one that happens: woken processes have turns in
the order in which they were woken, and in its turn each goes on as far as it can with its
allowance. The main process, if there is one, starts and then has a turn whenever a round
ends, if it was woken. A round ends after a fixed number of turns or when no other process
can go on; those who gave up a turn for want of allowance are woken then. If none of them
is left and the main process has to wait, the clock jumps to the next time at which someone
has to be woken.
-/
namespace Resync

/-- The turns of one round, other than the main process's. -/
def roundLength : Nat := 61

structure Schedule (ν τ : Type) where
  job : Job ν τ
  /-- The process whose end the schedule is for. -/
  main : Option ProcessId := none
  current : Option ProcessId := none
  allowance : Nat := turnAllowance
  /-- The woken processes, other than the main one. -/
  queue : List ProcessId := []
  mainWoken : Bool := false
  /-- Who gave up a turn for want of allowance in this round, the latest first. -/
  exhausted : List ProcessId := []
  /-- The turns that others than the main process have had in this round. -/
  turns : Nat := 0

namespace Schedule

variable {ν τ : Type}

/-- Puts a process that was woken in its place; one that has ended is left alone. -/
def wakeOne (s : Schedule ν τ) (p : ProcessId) : Schedule ν τ :=
  if s.main = some p then { s with mainWoken := true }
  else if s.queue.contains p || (s.job.outcome? p).isSome then s
  else { s with queue := s.queue ++ [p] }

def wake (s : Schedule ν τ) (ps : List ProcessId) : Schedule ν τ := ps.foldl wakeOne s

def put (s : Schedule ν τ) : Job ν τ × List ProcessId → Schedule ν τ
  | (job, woken) => { s with job }.wake woken

/-- The timers that are due, by time and then in the order in which they were set. -/
def due (now : Nat) (timers : List (Nat × ProcessId)) : List (Nat × ProcessId) :=
  (timers.filter fun t => t.1 ≤ now).mergeSort fun a b => a.1 ≤ b.1

def setClock (s : Schedule ν τ) (now : Nat) : Schedule ν τ :=
  let fired := due now s.job.timers
  let job := { s.job with
    world := { s.job.world with now }
    timers := s.job.timers.filter fun t => now < t.1 }
  { s with job }.wake (fired.map Prod.snd)

def giveTurn (s : Schedule ν τ) (p : Option ProcessId) : Schedule ν τ :=
  { s with current := p, allowance := turnAllowance }

def beginRound (s : Schedule ν τ) : Schedule ν τ :=
  let s := { s with turns := 0 }
  if s.mainWoken then { s with mainWoken := false }.giveTurn s.main else s

def endRound (s : Schedule ν τ) : Schedule ν τ :=
  ({ s with exhausted := [] }.wake s.exhausted).beginRound

def isPending (s : Schedule ν τ) : Bool := s.main.any fun p => (s.job.outcome? p).isNone

/-- The process with the turn goes on. It gives up the turn if it has to wait, or if what
is left of the allowance is too little. -/
def goOn (s : Schedule ν τ) (p : ProcessId) : Schedule ν τ :=
  let charge := s.job.charge p
  if s.allowance < charge.needed then
    { s with
      current := none
      exhausted := if s.exhausted.head? = some p then s.exhausted else p :: s.exhausted }
  else
    match s.job.step p 0 with
    | some r => { s with allowance := s.allowance - charge.taken }.put r
    | none => { s with current := none }

def idle (s : Schedule ν τ) : Option (Schedule ν τ) :=
  if s.mainWoken || !s.exhausted.isEmpty then some s.endRound
  else if s.isPending then
    (s.job.timers.map Prod.fst).min?.map fun time => (s.setClock time).beginRound
  else none

def tick (s : Schedule ν τ) : Option (Schedule ν τ) :=
  match s.current with
  | some p => some (s.goOn p)
  | none =>
    if s.turns = roundLength then some s.endRound
    else
      match s.queue with
      | p :: queue => some ({ s with queue, turns := s.turns + 1 }.giveTurn (some p))
      | [] => s.idle

def run : Nat → Schedule ν τ → Schedule ν τ
  | 0, s => s
  | fuel + 1, s =>
    match s.tick with
    | none => s
    | some s => run fuel s

end Schedule

namespace Job

variable {ν τ : Type}

/-- Lets everyone in `woken` go on, and whoever they wake, until all have to wait. -/
def settleAll (fuel : Nat) (j : Job ν τ) (woken : List ProcessId) : Job ν τ :=
  (({ job := j : Schedule ν τ }.wake woken).run fuel).job

/-- Runs a program as the main process until it has ended and all others have to wait; its
first turn begins with `allowance`. -/
def perform (fuel allowance : Nat) (inSpan : Bool) (j : Job ν τ) (program : Program ν τ) :
    Option (Outcome τ) × Job ν τ :=
  let (p, j) := j.spawn program inSpan
  let s := { job := j, main := some p, current := some p, allowance : Schedule ν τ }.run fuel
  (s.job.outcome? p, s.job)

def elapse (fuel : Nat) (j : Job ν τ) (duration : Nat) : Job ν τ :=
  (({ job := j : Schedule ν τ }.setClock (j.world.timeAfter duration)).run fuel).job

end Job
end Resync

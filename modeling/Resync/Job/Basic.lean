import Resync.Job.Program

/-! # Jobs

A job is a set of processes over one registry, one pool and the world of the cluster. A
process stands somewhere between two atomic steps of its program, and what it waits for
can be read off its state. Whatever may enable processes to go on tells which they are.
-/
namespace Resync

inductive Process (ν τ : Type) where
  /-- A task of the pool that has had no permit yet, or has one and has not run yet. -/
  | fresh (body : Program ν τ)
  | running (program : Program ν τ)
  /-- The registry has let the request in; the cell comes next. -/
  | admitted (m : Member) (next : Except Error Nat → Program ν τ)
  /-- At the cell, with the turn or in the queue. -/
  | queued (m : Member) (next : Except Error Nat → Program ν τ)
  | opening (m : Member) (a : Attempt) (next : Except Error Nat → Program ν τ)
  | awaiting (m : Member) (a : Attempt) (due : Nat) (next : Except Error Nat → Program ν τ)
  | asleep (due : Nat) (next : Unit → Program ν τ)
  | visiting (todo : List String) (next : Unit → Program ν τ)
  /-- Closing the registry, in the queue at one of the cells. -/
  | lingering (backend : String) (todo : List String) (next : Unit → Program ν τ)
  | ended (o : Outcome τ)

structure Task (ν τ : Type) where
  process : Process ν τ
  ticket : Option Nat
  /-- What it reports stands in the job's span. -/
  inSpan : Bool

structure Job (ν τ : Type) where
  world : World
  codec : Codec
  registry : Registry := {}
  pool : Pool
  /-- The connections of this job; programs name them by their places. -/
  opened : List Opened := []
  snapshot : Side → Nat := fun _ => 0
  tasks : List (Task ν τ) := []
  timers : List (Nat × ProcessId) := []
  signals : List String := []
  journal : List (ProcessId × ν) := []

namespace Job

variable {ν τ : Type}

def setProcess (j : Job ν τ) (p : ProcessId) (s : Process ν τ) : Job ν τ :=
  { j with tasks := j.tasks.modify p fun t => { t with process := s } }

def process? (j : Job ν τ) (p : ProcessId) : Option (Process ν τ) :=
  j.tasks[p]?.map (·.process)

def outcome? (j : Job ν τ) (p : ProcessId) : Option (Outcome τ) :=
  match j.process? p with
  | some (.ended o) => some o
  | _ => none

def spawn (j : Job ν τ) (program : Program ν τ) (inSpan : Bool) : ProcessId × Job ν τ :=
  (j.tasks.length, { j with tasks := j.tasks ++ [⟨.running program, none, inSpan⟩] })

def submit (j : Job ν τ) (body : Program ν τ) : Except Error ProcessId × Job ν τ :=
  match j.pool.submit? with
  | none => (.error .poolShutdown, j)
  | some (ticket, pool) =>
    (.ok j.tasks.length, { j with pool, tasks := j.tasks ++ [⟨.fresh body, some ticket, false⟩] })

/-- The process waits for `p` to end, or for all tasks of a pool that is shut down. -/
def awaits (p : ProcessId) (terminated : Bool) (t : Task ν τ) : Bool :=
  match t.process with
  | .running (.ask (.join q) _) => q == p
  | .running (.ask .termination _) => terminated
  | _ => false

def processesWhere (j : Job ν τ) (f : Task ν τ → Bool) : List ProcessId :=
  (List.range j.tasks.length).filter fun q => j.tasks[q]?.any f

def awaiting (j : Job ν τ) (p : ProcessId) : List ProcessId :=
  j.processesWhere (awaits p j.pool.isTerminated)

/-- The end of a task in the pool; its permit goes to the first task in line. -/
def yieldPermit (j : Job ν τ) (ticket : Nat) : Job ν τ × List ProcessId :=
  let pool := j.pool.finish ticket
  match pool.grantNext? with
  | none => ({ j with pool }, [])
  | some (next, pool) => ({ j with pool }, j.processesWhere fun t => t.ticket == some next)

def finish (j : Job ν τ) (p : ProcessId) (o : Outcome τ) : Job ν τ × List ProcessId :=
  let (j, granted) :=
    match j.tasks[p]?.bind (·.ticket) with
    | some ticket => (j.setProcess p (.ended o)).yieldPermit ticket
    | none => (j.setProcess p (.ended o), [])
  (j, granted ++ j.awaiting p)

def setTimer (j : Job ν τ) (p : ProcessId) (due : Nat) : Job ν τ :=
  if j.world.now < due then { j with timers := j.timers ++ [(due, p)] } else j

end Job
end Resync

import Resync.Context.Basic

/-! # Programs

What a process does, as a tree: a program is done, or it asks for something and goes on
as the answer tells. Programs of one job have results of one type `τ`; `ν` is the type of
the notes that they take on the way.
-/
namespace Resync

inductive Outcome (τ : Type) where
  | value (t : τ)
  | panicked
  | cancelled
  deriving DecidableEq, Repr

inductive Request where
  /-- The job's connection to a backend, by its number in the job. -/
  | connection (m : Member)
  | isClosed (connection : Nat)
  | closeConnection (connection : Nat)
  | autoIncrement (side : Side) (connection : Nat) (relation : String)
  | activeSet
  | pool
  | shutdown
  /-- To wait until the pool is shut down and all its tasks have ended. -/
  | termination
  | closeRegistry
  | sleep (duration : Nat)
  | join (process : ProcessId)
  | signal (name : String)
  | log (e : Log.Event)
  deriving DecidableEq, Repr

@[reducible] def Request.Reply (τ : Type) : Request → Type
  | connection _ => Except Error Nat
  | isClosed _ => Except Error Bool
  | closeConnection _ => Except Error Unit
  | autoIncrement .. => Except Error Bool
  | activeSet => ActiveSet
  | pool => Pool
  | join _ => Outcome τ
  | shutdown | termination | closeRegistry | sleep _ | signal _ | log _ => Unit

inductive Program (ν τ : Type) where
  | done (result : τ)
  | panic
  | note (n : ν) (next : Program ν τ)
  | submit (body : Program ν τ) (next : Except Error ProcessId → Program ν τ)
  | ask (q : Request) (next : q.Reply τ → Program ν τ)

namespace Program

variable {ν τ : Type}

def andThen (p : Program ν τ) (f : τ → Program ν τ) : Program ν τ :=
  match p with
  | done t => f t
  | panic => panic
  | note n next => note n (next.andThen f)
  | submit body next => submit body fun r => (next r).andThen f
  | ask q next => ask q fun r => (next r).andThen f

def logAll (events : List Log.Event) (next : Program ν τ) : Program ν τ :=
  events.foldr (fun e p => ask (.log e) fun _ => p) next

end Program
end Resync

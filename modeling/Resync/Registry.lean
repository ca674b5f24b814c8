import Resync.Assoc

/-! # Connection registries

A job has at most one connection to each backend. The first request for a backend makes
its cell; the process that has the turn at a cell may try to open the connection, all
others queue up behind it. A failed attempt passes the turn to the next in the queue, a
successful one fills the cell for good. Closing the registry takes the cells out of it,
but a process that has come to a cell before can still use it.
-/
namespace Resync

/-- Processes are numbered in the order in which they are made. -/
abbrev ProcessId := Nat

inductive Cell where
  | free
  | held (holder : ProcessId) (queue : List ProcessId)
  | ready (connection : Nat)
  deriving DecidableEq, Repr

namespace Cell

def approach (p : ProcessId) : Cell → Cell
  | free => held p []
  | held holder queue => held holder (queue ++ [p])
  | ready c => ready c

def pass : Cell → Cell × List ProcessId
  | held _ [] => (free, [])
  | held _ (next :: queue) => (held next queue, [next])
  | c => (c, [])

/-- The holder has opened the connection; everyone in the queue can have it. -/
def fill (connection : Nat) : Cell → Cell × List ProcessId
  | held _ queue => (ready connection, queue)
  | c => (c, [])

def leave (p : ProcessId) : Cell → Cell × List ProcessId
  | held holder queue =>
    if holder = p then pass (held holder queue) else (held holder (queue.filter (· ≠ p)), [])
  | c => (c, [])

def holder? : Cell → Option ProcessId
  | held holder _ => some holder
  | _ => none

def isReady : Cell → Bool
  | ready _ => true
  | _ => false

end Cell

structure Registry where
  cells : Assoc String Cell := ∅
  closed : Bool := false

namespace Registry

def cell (r : Registry) (backend : String) : Cell := (r.cells.get? backend).getD .free

def setCell (r : Registry) (backend : String) (c : Cell) : Registry :=
  { r with cells := r.cells.insert backend c }

/-- A request comes to the backend's cell, which is made if there is none. A closed registry
refuses it. -/
def admit? (r : Registry) (backend : String) : Option Registry :=
  if r.closed then none
  else some (if r.cells.contains backend then r else r.setCell backend .free)

def change (r : Registry) (backend : String) (f : Cell → Cell × List ProcessId) :
    Registry × List ProcessId :=
  let (c, woken) := f (r.cell backend)
  (r.setCell backend c, woken)

def approach (r : Registry) (backend : String) (p : ProcessId) : Registry :=
  r.setCell backend ((r.cell backend).approach p)

/-- Closes the registry; the backends whose cells are left to visit. -/
def drain (r : Registry) : List String × Registry :=
  (if r.closed then [] else r.cells.keys, { r with closed := true })

def size (r : Registry) : Nat :=
  if r.closed then 0 else (r.cells.values.filter Cell.isReady).length

def isEmpty (r : Registry) : Bool := r.size == 0

end Registry
end Resync

import Resync.Job.Basic

/-! # Steps

`step` makes one atomic step of one process, whichever it is: to take a request to the
registry, to come to a cell, to begin or end an attempt to open a connection or the wait in
it, to visit a cell on the way to close the registry, or to go on with a program. A process
that has to wait has no step.
-/
namespace Resync.Job

variable {ν τ : Type}

def changeCell (j : Job ν τ) (backend : String) (f : Cell → Cell × List ProcessId) :
    Job ν τ × List ProcessId :=
  let (registry, woken) := j.registry.change backend f
  ({ j with registry }, woken)

def release (j : Job ν τ) (inSpan : Bool) (backend : String) (connection : Nat) : Job ν τ :=
  match j.opened[connection]? with
  | none => j
  | some o => { j with world := j.world.release inSpan backend o.number }

def access {α : Type} (j : Job ν τ) (connection : Nat) (f : World → Nat → Except Error α × World) :
    Except Error α × Job ν τ :=
  match j.opened[connection]? with
  | none => (.error (.dataAccess .stateUnknown), j)
  | some o =>
    let (r, world) := f j.world o.number
    (r, { j with world })

def answer (j : Job ν τ) (p : ProcessId) (inSpan : Bool) :
    (q : Request) → (q.Reply τ → Program ν τ) → Option (Job ν τ × List ProcessId)
  | .connection m, next =>
    match j.registry.admit? m.id with
    | none => some (j.setProcess p (.running (next (.error (.registryClosed m.id)))), [])
    | some registry => some ({ j with registry }.setProcess p (.admitted m next), [])
  | .isClosed c, next =>
    let (r, j) := j.access c fun w n => w.access n Access.isClosed
    some (j.setProcess p (.running (next r)), [])
  | .closeConnection c, next =>
    let (r, j) := j.access c fun w n => w.access n Access.close
    some (j.setProcess p (.running (next r)), [])
  | .autoIncrement side c relation, next =>
    let (r, j) := j.access c fun w n => w.autoIncrement (j.snapshot side) n relation
    some (j.setProcess p (.running (next r)), [])
  | .activeSet, next => some (j.setProcess p (.running (next j.world.active)), [])
  | .pool, next => some (j.setProcess p (.running (next j.pool)), [])
  | .shutdown, next =>
    let j := { j with pool := j.pool.shutdown }.setProcess p (.running (next ()))
    some (j, j.awaiting p)
  | .termination, next =>
    if j.pool.isTerminated then some (j.setProcess p (.running (next ())), []) else none
  | .closeRegistry, next =>
    let (todo, registry) := j.registry.drain
    some ({ j with registry }.setProcess p (.visiting todo next), [])
  | .sleep duration, next =>
    let due := j.world.dueAfter duration
    some ((j.setProcess p (.asleep due next)).setTimer p due, [])
  | .join q, next =>
    match j.outcome? q with
    | none => none
    | some o => some (j.setProcess p (.running (next o)), [])
  | .signal name, next =>
    if j.signals.contains name then some (j.setProcess p (.running (next ())), []) else none
  | .log e, next =>
    some ({ j with world := j.world.report inSpan e }.setProcess p (.running (next ())), [])

def advance (j : Job ν τ) (p : ProcessId) (inSpan : Bool) :
    Program ν τ → Option (Job ν τ × List ProcessId)
  | .done t => some (j.finish p (.value t))
  | .panic => some (j.finish p .panicked)
  | .note n next =>
    some ({ j with journal := j.journal ++ [(p, n)] }.setProcess p (.running next), [])
  | .submit body next =>
    match j.submit body with
    | (.error e, j) => some (j.setProcess p (.running (next (.error e))), [])
    | (.ok task, j) => some (j.setProcess p (.running (next (.ok task))), [task])
  | .ask q next => j.answer p inSpan q next

/-- A process comes to the cell of the backend that it wants a connection to: it has the
connection there is, or else takes the turn or queues up. -/
def approach (j : Job ν τ) (p : ProcessId) (m : Member)
    (next : Except Error Nat → Program ν τ) : Job ν τ :=
  match j.registry.cell m.id with
  | .ready c => j.setProcess p (.running (next (.ok c)))
  | _ => { j with registry := j.registry.approach m.id p }.setProcess p (.queued m next)

def atCell (j : Job ν τ) (p : ProcessId) (m : Member) (next : Except Error Nat → Program ν τ) :
    Option (Job ν τ × List ProcessId) :=
  match j.registry.cell m.id with
  | .ready c => some (j.setProcess p (.running (next (.ok c))), [])
  | .free => none
  | .held holder _ =>
    if holder = p then
      match j.world.attempt j.codec m with
      | (.error e, world) =>
        let (j, woken) := { j with world }.changeCell m.id Cell.pass
        some (j.setProcess p (.running (next (.error e))), woken)
      | (.ok a, world) =>
        some ({ j with world }.setProcess p (.opening m a next), [])
    else none

def settle (j : Job ν τ) (p : ProcessId) (m : Member) (a : Attempt)
    (next : Except Error Nat → Program ν τ) : Job ν τ × List ProcessId :=
  match j.world.settle m a with
  | (.error e, world) =>
    let (j, woken) := { j with world }.changeCell m.id Cell.pass
    (j.setProcess p (.running (next (.error e))), woken)
  | (.ok number, world) =>
    let connection := j.opened.length
    let j : Job ν τ := { j with world, opened := j.opened ++ [⟨m.id, number⟩] }
    let (j, woken) := j.changeCell m.id (Cell.fill connection)
    (j.setProcess p (.running (next (.ok connection))), woken)

def goOnOpening (j : Job ν τ) (p : ProcessId) (m : Member) (a : Attempt)
    (next : Except Error Nat → Program ν τ) : Job ν τ × List ProcessId :=
  match a.due with
  | none => j.settle p m a next
  | some due => ((j.setProcess p (.awaiting m a due next)).setTimer p due, [])

/-- A visit to the cell of a backend on the way to close the registry: a connection is
closed, a free cell is left alone, and at a cell where someone has the turn the visitor
queues up. -/
def visit (j : Job ν τ) (p : ProcessId) (inSpan : Bool) (backend : String) (todo : List String)
    (next : Unit → Program ν τ) : Job ν τ :=
  match j.registry.cell backend with
  | .ready c => (j.release inSpan backend c).setProcess p (.visiting todo next)
  | .free => j.setProcess p (.visiting todo next)
  | .held .. =>
    { j with registry := j.registry.approach backend p }.setProcess p (.lingering backend todo next)

/-- A step of a process that has queued up to close a connection: it closes the connection
that was opened meanwhile, or has the turn and passes it on. -/
def linger (j : Job ν τ) (p : ProcessId) (inSpan : Bool) (backend : String) (todo : List String)
    (next : Unit → Program ν τ) : Option (Job ν τ × List ProcessId) :=
  match j.registry.cell backend with
  | .ready c => some ((j.release inSpan backend c).setProcess p (.visiting todo next), [])
  | .free => none
  | .held holder _ =>
    if holder = p then
      let (j, woken) := j.changeCell backend Cell.pass
      some (j.setProcess p (.visiting todo next), woken)
    else none

/-- A step of a task that has not begun: it begins if it has a permit or is given one, and
lines up otherwise. -/
def start (j : Job ν τ) (p : ProcessId) (ticket : Option Nat) (body : Program ν τ) :
    Option (Job ν τ × List ProcessId) := do
  let ticket ← ticket
  if j.pool.active.contains ticket then some (j.setProcess p (.running body), [])
  else
    match j.pool.grant? ticket with
    | some pool => some ({ j with pool }.setProcess p (.running body), [])
    | none => do
      let pool ← j.pool.lineUp? ticket
      pure ({ j with pool }.setProcess p (.fresh body), [])

/-- One atomic step of process `p`, with the processes that it wakes; none if the process
has to wait or has ended. Of the cells that are left to visit, `choice` picks one. -/
def step (j : Job ν τ) (p : ProcessId) (choice : Nat) : Option (Job ν τ × List ProcessId) :=
  match j.tasks[p]? with
  | none => none
  | some t =>
    match t.process with
    | .fresh body => j.start p t.ticket body
    | .running program => j.advance p t.inSpan program
    | .admitted m next => some (j.approach p m next, [])
    | .queued m next => j.atCell p m next
    | .opening m a next => some (j.goOnOpening p m a next)
    | .awaiting m a due next => if due ≤ j.world.now then some (j.settle p m a next) else none
    | .asleep due next =>
      if due ≤ j.world.now then some (j.setProcess p (.running (next ())), []) else none
    | .visiting todo next =>
      match todo[choice % todo.length]? with
      | none => some (j.setProcess p (.running (next ())), [])
      | some backend =>
        some (j.visit p t.inSpan backend (todo.eraseIdx (choice % todo.length)) next, [])
    | .lingering backend todo next => j.linger p t.inSpan backend todo next
    | .ended _ => none

/-- Ends a process from outside. It leaves the cell and the pool as if it had never come. -/
def abort (j : Job ν τ) (p : ProcessId) : Job ν τ × List ProcessId :=
  let leave (j : Job ν τ) (backend : String) : Job ν τ × List ProcessId :=
    j.changeCell backend (Cell.leave p)
  let (j, woken) :=
    match j.process? p with
    | some (.queued m _) | some (.opening m _ _) | some (.awaiting m _ _ _) => leave j m.id
    | some (.lingering backend _ _) => leave j backend
    | _ => (j, [])
  match j.process? p with
  | none | some (.ended _) => (j, [])
  | some _ =>
    let (j, more) := { j with timers := j.timers.filter (·.2 ≠ p) }.finish p .cancelled
    (j, woken ++ more)

def giveSignal (j : Job ν τ) (name : String) : Job ν τ × List ProcessId :=
  let waits (t : Task ν τ) : Bool :=
    match t.process with
    | .running (.ask (.signal name') _) => name' == name
    | _ => false
  ({ j with signals := j.signals ++ [name] }, j.processesWhere waits)

end Resync.Job

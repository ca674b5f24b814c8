import Resync.Job.Interleaving

/-! # The rules of a job

An atomic step of a process is an instance of one of the rules below, which say from where
the process starts and what becomes of the job. Whoever is woken by a step is left out, as
an interleaving may let anyone go on. What holds of every interleaving is proved rule by
rule.
-/
namespace Resync

/-- The attempt is over: its end need not be waited for any longer. -/
inductive Process.Settles {ν τ : Type} (now : Nat) (m : Member) (a : Attempt)
    (next : Except Error Nat → Program ν τ) : Process ν τ → Prop
  | opening (h : a.due = none) : Settles now m a next (.opening m a next)
  | awaiting {due : Nat} (h : due ≤ now) : Settles now m a next (.awaiting m a due next)

theorem Process.Settles.unique {ν τ : Type} {now : Nat} {m m' : Member} {a a' : Attempt}
    {next next' : Except Error Nat → Program ν τ} {s : Process ν τ} (h : s.Settles now m a next)
    (h' : s.Settles now m' a' next') : m = m' ∧ a = a' ∧ next = next' := by
  cases h <;> cases h' <;> exact ⟨rfl, rfl, rfl⟩

def Process.cell? {ν τ : Type} : Process ν τ → Option String
  | queued m _ | opening m _ _ | awaiting m _ _ _ => some m.id
  | lingering backend _ _ => some backend
  | _ => none

namespace Job

variable {ν τ : Type}

@[simp] theorem setProcess_world (j : Job ν τ) (p : ProcessId) (s : Process ν τ) :
    (j.setProcess p s).world = j.world := rfl

@[simp] theorem setProcess_registry (j : Job ν τ) (p : ProcessId) (s : Process ν τ) :
    (j.setProcess p s).registry = j.registry := rfl

@[simp] theorem setProcess_opened (j : Job ν τ) (p : ProcessId) (s : Process ν τ) :
    (j.setProcess p s).opened = j.opened := rfl

@[simp] theorem setProcess_pool (j : Job ν τ) (p : ProcessId) (s : Process ν τ) :
    (j.setProcess p s).pool = j.pool := rfl

theorem process?_setProcess (j : Job ν τ) (p q : ProcessId) (s : Process ν τ) :
    (j.setProcess p s).process? q =
      if q = p then (j.process? p).map fun _ => s else j.process? q := by
  simp only [process?, setProcess, List.getElem?_modify]
  by_cases h : q = p
  · subst h
    cases h : j.tasks[q]? with
    | none => simp
    | some t => simp
  · have h' : ¬ p = q := fun e => h e.symm
    simp [h, h']

theorem length_setProcess (j : Job ν τ) (p : ProcessId) (s : Process ν τ) :
    (j.setProcess p s).tasks.length = j.tasks.length := by
  simp [setProcess]

theorem setTimer_eq (j : Job ν τ) (p : ProcessId) (due : Nat) :
    ∃ timers, j.setTimer p due = { j with timers } := by
  unfold setTimer
  split
  · exact ⟨_, rfl⟩
  · exact ⟨_, rfl⟩

@[simp] theorem setTimer_tasks (j : Job ν τ) (p : ProcessId) (due : Nat) :
    (j.setTimer p due).tasks = j.tasks := by
  obtain ⟨timers, h⟩ := j.setTimer_eq p due
  rw [h]

@[simp] theorem setTimer_registry (j : Job ν τ) (p : ProcessId) (due : Nat) :
    (j.setTimer p due).registry = j.registry := by
  obtain ⟨timers, h⟩ := j.setTimer_eq p due
  rw [h]

@[simp] theorem process?_setTimer (j : Job ν τ) (p q : ProcessId) (due : Nat) :
    (j.setTimer p due).process? q = j.process? q := by
  rw [process?, setTimer_tasks, process?]

theorem process?_of_task {j : Job ν τ} {p : ProcessId} {s : Process ν τ} {ticket : Option Nat}
    {inSpan : Bool} (ht : j.tasks[p]? = some ⟨s, ticket, inSpan⟩) : j.process? p = some s := by
  simp [process?, ht]

theorem process?_next {j : Job ν τ} {p : ProcessId} {s s' : Process ν τ} (ht : j.process? p = some s) :
    (j.setProcess p s').process? p = some s' := by
  rw [process?_setProcess, if_pos rfl, ht]
  rfl

theorem process?_timer {j : Job ν τ} {p : ProcessId} {s s' : Process ν τ} {due : Nat}
    (ht : j.process? p = some s) : ((j.setProcess p s').setTimer p due).process? p = some s' := by
  rw [process?_setTimer, process?_next ht]

theorem outcome?_eq_some {j : Job ν τ} {p : ProcessId} {o : Outcome τ} :
    j.outcome? p = some o ↔ j.process? p = some (.ended o) := by
  unfold outcome?
  constructor
  · intro h
    split at h
    · rename_i o' hp
      cases h
      exact hp
    · cases h
  · intro h
    rw [h]

def poolAfter (j : Job ν τ) (ticket : Option Nat) : Pool :=
  match ticket with
  | none => j.pool
  | some ticket =>
    match (j.pool.finish ticket).grantNext? with
    | none => j.pool.finish ticket
    | some (_, pool) => pool

theorem finish_eq {j : Job ν τ} {p : ProcessId} {t : Task ν τ} (o : Outcome τ)
    (ht : j.tasks[p]? = some t) :
    (j.finish p o).1 = { j with pool := j.poolAfter t.ticket }.setProcess p (.ended o) := by
  simp only [finish, ht, Option.bind_some]
  cases hk : t.ticket with
  | none => rfl
  | some ticket =>
    simp only [yieldPermit, setProcess_pool, poolAfter]
    cases hg : (j.pool.finish ticket).grantNext? with
    | none => rfl
    | some r => rfl

theorem access_eq {α : Type} (j : Job ν τ) (c : Nat) (f : World → Nat → Except Error α × World) :
    (j.access c f).2 = { j with world := (j.access c f).2.world } := by
  unfold access
  cases j.opened[c]? with
  | none => rfl
  | some o => rfl

theorem release_eq (j : Job ν τ) (inSpan : Bool) (b : String) (c : Nat) :
    j.release inSpan b c = { j with world := (j.release inSpan b c).world } := by
  unfold release
  cases j.opened[c]? with
  | none => rfl
  | some o => rfl

def reply? (j : Job ν τ) (inSpan : Bool) : (q : Request) → Option (q.Reply τ × World)
  | .connection m =>
    if j.registry.closed then some (.error (.registryClosed m.id), j.world) else none
  | .isClosed c =>
    let (r, j) := j.access c fun w n => w.access n Access.isClosed
    some (r, j.world)
  | .closeConnection c =>
    let (r, j) := j.access c fun w n => w.access n Access.close
    some (r, j.world)
  | .autoIncrement side c relation =>
    let (r, j) := j.access c fun w n => w.autoIncrement (j.snapshot side) n relation
    some (r, j.world)
  | .activeSet => some (j.world.active, j.world)
  | .pool => some (j.pool, j.world)
  | .termination => if j.pool.isTerminated then some ((), j.world) else none
  | .join q => (j.outcome? q).map fun o => (o, j.world)
  | .signal name => if j.signals.contains name then some ((), j.world) else none
  | .log e => some ((), j.world.report inSpan e)
  | .shutdown | .closeRegistry | .sleep _ => none

/-- What an answer that is given at once may have done to the world: nothing, or a report, or
something to one of the job's connections. -/
inductive Touched (j : Job ν τ) (inSpan : Bool) : World → Prop
  | same : Touched j inSpan j.world
  | reported {e : Log.Event} : Touched j inSpan (j.world.report inSpan e)
  | told {c : Nat} {o : Opened} (ho : j.opened[c]? = some o) :
      Touched j inSpan (j.world.access o.number Access.isClosed).2
  | closed {c : Nat} {o : Opened} (ho : j.opened[c]? = some o) :
      Touched j inSpan (j.world.access o.number Access.close).2
  | probed {c : Nat} {o : Opened} {side : Side} {relation : String} (ho : j.opened[c]? = some o) :
      Touched j inSpan (j.world.autoIncrement (j.snapshot side) o.number relation).2

theorem Touched.access {α : Type} {j : Job ν τ} {inSpan : Bool}
    {f : World → Nat → Except Error α × World}
    (hf : ∀ (c : Nat) (o : Opened), j.opened[c]? = some o → Touched j inSpan (f j.world o.number).2)
    (c : Nat) : Touched j inSpan (j.access c f).2.world := by
  unfold Job.access
  cases ho : j.opened[c]? with
  | none => exact .same
  | some o => exact hf c o ho

theorem reply?_touched {j : Job ν τ} {inSpan : Bool} {q : Request} {r : q.Reply τ} {world : World}
    (h : j.reply? inSpan q = some (r, world)) : Touched j inSpan world := by
  cases q with
  | connection m =>
    simp only [reply?] at h
    split at h
    · cases h
      exact .same
    · cases h
  | isClosed c =>
    cases h
    exact Touched.access (f := fun w n => w.access n Access.isClosed) (fun c o ho => .told ho) c
  | closeConnection c =>
    cases h
    exact Touched.access (f := fun w n => w.access n Access.close) (fun c o ho => .closed ho) c
  | autoIncrement side c relation =>
    cases h
    exact Touched.access (f := fun w n => w.autoIncrement (j.snapshot side) n relation)
      (fun c o ho => .probed ho) c
  | activeSet =>
    cases h
    exact .same
  | pool =>
    cases h
    exact .same
  | termination =>
    simp only [reply?] at h
    split at h
    · cases h
      exact .same
    · cases h
  | join q =>
    obtain ⟨o, -, ho⟩ := Option.map_eq_some_iff.mp h
    cases ho
    exact .same
  | signal name =>
    simp only [reply?] at h
    split at h
    · cases h
      exact .same
    · cases h
  | log e =>
    cases h
    exact .reported
  | shutdown => cases h
  | closeRegistry => cases h
  | sleep d => cases h

def accept (j : Job ν τ) (body : Program ν τ) : Job ν τ :=
  { j with
    pool := { j.pool with
      accepted := j.pool.accepted + 1
      waiting := j.pool.waiting ++ [j.pool.accepted] }
    tasks := j.tasks ++ [⟨.fresh body, some j.pool.accepted, false⟩] }

theorem getElem?_accept {j : Job ν τ} {p : ProcessId} {t : Task ν τ} (h : j.tasks[p]? = some t)
    (body : Program ν τ) : (j.accept body).tasks[p]? = some t := by
  rw [accept, List.getElem?_append_left (List.getElem?_eq_some_iff.mp h).1, h]

theorem task_accept {j : Job ν τ} {p : Nat} {t : Task ν τ} {body : Program ν τ}
    (h : (j.accept body).tasks[p]? = some t) :
    j.tasks[p]? = some t ∨ p = j.tasks.length ∧ t = ⟨.fresh body, some j.pool.accepted, false⟩ := by
  rw [accept, List.getElem?_append] at h
  split at h
  · exact .inl h
  · rw [List.getElem?_singleton] at h
    split at h
    · cases h
      exact .inr ⟨by omega, rfl⟩
    · cases h

/-- The rules. A process `p` in the given state, with its ticket and its place in or outside
of the span, makes the job `j` another one. -/
inductive Rule (j : Job ν τ) (p : ProcessId) (ticket : Option Nat) (inSpan : Bool) :
    Process ν τ → Job ν τ → Prop
  | start {body : Program ν τ} {k : Nat} {pool : Pool} (hk : ticket = some k)
      (hp : pool = j.pool ∧ k ∈ j.pool.active ∨ j.pool.grant? k = some pool) :
      Rule j p ticket inSpan (.fresh body) ({ j with pool }.setProcess p (.running body))
  | lineUp {body : Program ν τ} {k : Nat} {pool : Pool} (hk : ticket = some k)
      (hg : j.pool.grant? k = none) (hp : j.pool.lineUp? k = some pool) :
      Rule j p ticket inSpan (.fresh body) ({ j with pool }.setProcess p (.fresh body))
  | finish {result : τ} :
      Rule j p ticket inSpan (.running (.done result))
        ({ j with pool := j.poolAfter ticket }.setProcess p (.ended (.value result)))
  | panic :
      Rule j p ticket inSpan (.running .panic)
        ({ j with pool := j.poolAfter ticket }.setProcess p (.ended .panicked))
  | note {n : ν} {next : Program ν τ} :
      Rule j p ticket inSpan (.running (.note n next))
        ({ j with journal := j.journal ++ [(p, n)] }.setProcess p (.running next))
  | reject {body : Program ν τ} {next : Except Error ProcessId → Program ν τ}
      (h : j.pool.isShutdown = true) :
      Rule j p ticket inSpan (.running (.submit body next))
        (j.setProcess p (.running (next (.error .poolShutdown))))
  | accept {body : Program ν τ} {next : Except Error ProcessId → Program ν τ}
      (h : j.pool.isShutdown = false) :
      Rule j p ticket inSpan (.running (.submit body next))
        ((j.accept body).setProcess p (.running (next (.ok j.tasks.length))))
  | reply {q : Request} {next : q.Reply τ → Program ν τ} {r : q.Reply τ} {world : World}
      (h : j.reply? inSpan q = some (r, world)) :
      Rule j p ticket inSpan (.running (.ask q next))
        ({ j with world }.setProcess p (.running (next r)))
  | enter {m : Member} {next : Except Error Nat → Program ν τ} {registry : Registry}
      (h : j.registry.admit? m.id = some registry) :
      Rule j p ticket inSpan (.running (.ask (.connection m) next))
        ({ j with registry }.setProcess p (.admitted m next))
  | shutdown {next : Unit → Program ν τ} :
      Rule j p ticket inSpan (.running (.ask .shutdown next))
        ({ j with pool := j.pool.shutdown }.setProcess p (.running (next ())))
  | drain {next : Unit → Program ν τ} :
      Rule j p ticket inSpan (.running (.ask .closeRegistry next))
        ({ j with registry := j.registry.drain.2 }.setProcess p
          (.visiting j.registry.drain.1 next))
  | sleep {d : Nat} {next : Unit → Program ν τ} :
      Rule j p ticket inSpan (.running (.ask (.sleep d) next))
        ((j.setProcess p (.asleep (j.world.dueAfter d) next)).setTimer p (j.world.dueAfter d))
  | wake {due : Nat} {next : Unit → Program ν τ} (h : due ≤ j.world.now) :
      Rule j p ticket inSpan (.asleep due next) (j.setProcess p (.running (next ())))
  | find {m : Member} {next : Except Error Nat → Program ν τ} {c : Nat}
      (hc : j.registry.cell m.id = .ready c) :
      Rule j p ticket inSpan (.admitted m next) (j.setProcess p (.running (next (.ok c))))
  | take {m : Member} {next : Except Error Nat → Program ν τ} {c : Nat}
      (hc : j.registry.cell m.id = .ready c) :
      Rule j p ticket inSpan (.queued m next) (j.setProcess p (.running (next (.ok c))))
  | approach {m : Member} {next : Except Error Nat → Program ν τ}
      (hc : (j.registry.cell m.id).isReady = false) :
      Rule j p ticket inSpan (.admitted m next)
        ({ j with registry := j.registry.approach m.id p }.setProcess p (.queued m next))
  | begin {m : Member} {next : Except Error Nat → Program ν τ} {a : Attempt} {world : World}
      (hh : (j.registry.cell m.id).holder? = some p)
      (ha : j.world.attempt j.codec m = (.ok a, world)) :
      Rule j p ticket inSpan (.queued m next) ({ j with world }.setProcess p (.opening m a next))
  | refuse {m : Member} {next : Except Error Nat → Program ν τ} {e : Error} {world : World}
      (hh : (j.registry.cell m.id).holder? = some p)
      (ha : j.world.attempt j.codec m = (.error e, world)) :
      Rule j p ticket inSpan (.queued m next)
        ({ j with world, registry := (j.registry.change m.id Cell.pass).1 }.setProcess p
          (.running (next (.error e))))
  | await {m : Member} {a : Attempt} {due : Nat} {next : Except Error Nat → Program ν τ}
      (h : a.due = some due) :
      Rule j p ticket inSpan (.opening m a next)
        ((j.setProcess p (.awaiting m a due next)).setTimer p due)
  | fail {s : Process ν τ} {m : Member} {a : Attempt} {next : Except Error Nat → Program ν τ}
      {e : Error} {world : World} (hs : s.Settles j.world.now m a next)
      (ha : j.world.settle m a = (.error e, world)) :
      Rule j p ticket inSpan s
        ({ j with world, registry := (j.registry.change m.id Cell.pass).1 }.setProcess p
          (.running (next (.error e))))
  | fill {s : Process ν τ} {m : Member} {a : Attempt} {next : Except Error Nat → Program ν τ}
      {number : Nat} {world : World} (hs : s.Settles j.world.now m a next)
      (ha : j.world.settle m a = (.ok number, world)) :
      Rule j p ticket inSpan s
        ({ j with
            world
            opened := j.opened ++ [Opened.mk m.id number]
            registry := (j.registry.change m.id (Cell.fill j.opened.length)).1 }.setProcess p
          (.running (next (.ok j.opened.length))))
  | visitReady {todo : List String} {next : Unit → Program ν τ} {i : Nat} {b : String} {c : Nat}
      (hi : todo[i]? = some b) (hc : j.registry.cell b = .ready c) :
      Rule j p ticket inSpan (.visiting todo next)
        ((j.release inSpan b c).setProcess p (.visiting (todo.eraseIdx i) next))
  | visitFree {todo : List String} {next : Unit → Program ν τ} {i : Nat} {b : String}
      (hi : todo[i]? = some b) (hc : j.registry.cell b = .free) :
      Rule j p ticket inSpan (.visiting todo next)
        (j.setProcess p (.visiting (todo.eraseIdx i) next))
  | visitHeld {todo : List String} {next : Unit → Program ν τ} {i : Nat} {b : String}
      {holder : ProcessId} {queue : List ProcessId} (hi : todo[i]? = some b)
      (hc : j.registry.cell b = .held holder queue) :
      Rule j p ticket inSpan (.visiting todo next)
        ({ j with registry := j.registry.approach b p }.setProcess p
          (.lingering b (todo.eraseIdx i) next))
  | depart {next : Unit → Program ν τ} :
      Rule j p ticket inSpan (.visiting [] next) (j.setProcess p (.running (next ())))
  | lingerReady {b : String} {todo : List String} {next : Unit → Program ν τ} {c : Nat}
      (hc : j.registry.cell b = .ready c) :
      Rule j p ticket inSpan (.lingering b todo next)
        ((j.release inSpan b c).setProcess p (.visiting todo next))
  | lingerPass {b : String} {todo : List String} {next : Unit → Program ν τ}
      (hh : (j.registry.cell b).holder? = some p) :
      Rule j p ticket inSpan (.lingering b todo next)
        ({ j with registry := (j.registry.change b Cell.pass).1 }.setProcess p
          (.visiting todo next))

section Inversion

variable {j j' : Job ν τ} {p : ProcessId} {ticket : Option Nat} {inSpan : Bool}
  {woken : List ProcessId}

theorem start_rule {body : Program ν τ} (h : j.start p ticket body = some (j', woken)) :
    Rule j p ticket inSpan (.fresh body) j' := by
  cases hk : ticket with
  | none => simp [start, hk] at h
  | some k =>
    simp only [start, hk, Option.bind_eq_bind, Option.bind_some] at h
    split at h
    · rename_i ha
      cases h
      exact .start rfl (.inl ⟨rfl, List.contains_iff_mem.mp ha⟩)
    · split at h
      · rename_i pool hp
        cases h
        exact .start rfl (.inr hp)
      · rename_i hg
        obtain ⟨pool, hp, h⟩ := Option.bind_eq_some_iff.mp h
        cases h
        exact .lineUp rfl hg hp

theorem answer_rule {q : Request} {next : q.Reply τ → Program ν τ}
    (h : j.answer p inSpan q next = some (j', woken)) :
    Rule j p ticket inSpan (.running (.ask q next)) j' := by
  cases q with
  | connection m =>
    simp only [answer] at h
    cases ha : j.registry.admit? m.id with
    | none =>
      simp only [ha, Option.some.injEq, Prod.mk.injEq] at h
      obtain ⟨rfl, -⟩ := h
      refine .reply ?_
      have hc : j.registry.closed = true := by
        unfold Registry.admit? at ha
        split at ha
        · assumption
        · cases ha
      simp [reply?, hc]
    | some registry =>
      simp only [ha, Option.some.injEq, Prod.mk.injEq] at h
      obtain ⟨rfl, -⟩ := h
      exact .enter ha
  | isClosed c =>
    simp only [answer, Option.some.injEq, Prod.mk.injEq] at h
    obtain ⟨rfl, -⟩ := h
    rw [access_eq]
    exact .reply rfl
  | closeConnection c =>
    simp only [answer, Option.some.injEq, Prod.mk.injEq] at h
    obtain ⟨rfl, -⟩ := h
    rw [access_eq]
    exact .reply rfl
  | autoIncrement side c relation =>
    simp only [answer, Option.some.injEq, Prod.mk.injEq] at h
    obtain ⟨rfl, -⟩ := h
    rw [access_eq]
    exact .reply rfl
  | activeSet =>
    simp only [answer, Option.some.injEq, Prod.mk.injEq] at h
    obtain ⟨rfl, -⟩ := h
    exact .reply rfl
  | pool =>
    simp only [answer, Option.some.injEq, Prod.mk.injEq] at h
    obtain ⟨rfl, -⟩ := h
    exact .reply rfl
  | shutdown =>
    simp only [answer, Option.some.injEq, Prod.mk.injEq] at h
    obtain ⟨rfl, -⟩ := h
    exact .shutdown
  | termination =>
    simp only [answer] at h
    split at h
    · rename_i ht
      cases h
      exact .reply (by simp [reply?, ht])
    · cases h
  | closeRegistry =>
    simp only [answer, Option.some.injEq, Prod.mk.injEq] at h
    obtain ⟨rfl, -⟩ := h
    exact .drain
  | sleep d =>
    simp only [answer, Option.some.injEq, Prod.mk.injEq] at h
    obtain ⟨rfl, -⟩ := h
    exact .sleep
  | join q =>
    simp only [answer] at h
    cases ho : j.outcome? q with
    | none => simp [ho] at h
    | some o =>
      simp only [ho, Option.some.injEq, Prod.mk.injEq] at h
      obtain ⟨rfl, -⟩ := h
      exact .reply (by simp [reply?, ho])
  | signal name =>
    simp only [answer] at h
    split at h
    · rename_i hs
      cases h
      exact .reply (by simp only [reply?, hs, ↓reduceIte])
    · cases h
  | log e =>
    simp only [answer, Option.some.injEq, Prod.mk.injEq] at h
    obtain ⟨rfl, -⟩ := h
    exact .reply rfl

theorem advance_rule {program : Program ν τ} (ht : j.tasks[p]? = some ⟨.running program, ticket, inSpan⟩)
    (h : j.advance p inSpan program = some (j', woken)) :
    Rule j p ticket inSpan (.running program) j' := by
  cases program with
  | done result =>
    simp only [advance, Option.some.injEq] at h
    have hj : (j.finish p (.value result)).1 = j' := congrArg Prod.fst h
    rw [← hj, finish_eq _ ht]
    exact .finish
  | panic =>
    simp only [advance, Option.some.injEq] at h
    have hj : (j.finish p .panicked).1 = j' := congrArg Prod.fst h
    rw [← hj, finish_eq _ ht]
    exact .panic
  | note n next =>
    simp only [advance, Option.some.injEq, Prod.mk.injEq] at h
    obtain ⟨rfl, -⟩ := h
    exact .note
  | submit body next =>
    cases hs : j.pool.isShutdown with
    | true =>
      simp only [advance, submit, Pool.submit?, hs, ↓reduceIte, Option.some.injEq, Prod.mk.injEq] at h
      obtain ⟨rfl, -⟩ := h
      exact .reject hs
    | false =>
      simp only [advance, submit, Pool.submit?, hs, Bool.false_eq_true, ↓reduceIte, Option.some.injEq,
        Prod.mk.injEq] at h
      obtain ⟨rfl, -⟩ := h
      have hr : Rule j p ticket inSpan (.running (.submit body next)) _ := .accept hs
      simpa only [Job.accept, hs] using hr
  | ask q next => exact answer_rule h

theorem approach_rule {m : Member} {next : Except Error Nat → Program ν τ} :
    Rule j p ticket inSpan (.admitted m next) (j.approach p m next) := by
  unfold approach
  cases hc : j.registry.cell m.id with
  | ready c => exact .find hc
  | free => exact .approach (by simp [hc, Cell.isReady])
  | held holder queue => exact .approach (by simp [hc, Cell.isReady])

theorem atCell_rule {m : Member} {next : Except Error Nat → Program ν τ}
    (h : j.atCell p m next = some (j', woken)) : Rule j p ticket inSpan (.queued m next) j' := by
  unfold atCell at h
  cases hc : j.registry.cell m.id with
  | free => simp [hc] at h
  | ready c =>
    simp only [hc, Option.some.injEq, Prod.mk.injEq] at h
    obtain ⟨rfl, -⟩ := h
    exact .take hc
  | held holder queue =>
    simp only [hc] at h
    split at h
    · rename_i hp
      have hh : (j.registry.cell m.id).holder? = some p := by simp [hc, Cell.holder?, hp]
      split at h
      · rename_i e world ha
        cases h
        exact .refuse hh ha
      · rename_i a world ha
        cases h
        exact .begin hh ha
    · cases h

theorem settle_rule {s : Process ν τ} {m : Member} {a : Attempt}
    {next : Except Error Nat → Program ν τ} (hs : s.Settles j.world.now m a next) :
    Rule j p ticket inSpan s (j.settle p m a next).1 := by
  unfold settle
  split
  · rename_i e world ha
    exact .fail hs ha
  · rename_i number world ha
    exact .fill hs ha

theorem visit_rule {todo : List String} {next : Unit → Program ν τ} {i : Nat} {b : String}
    (hi : todo[i]? = some b) :
    Rule j p ticket inSpan (.visiting todo next) (j.visit p inSpan b (todo.eraseIdx i) next) := by
  unfold visit
  cases hc : j.registry.cell b with
  | ready c => exact .visitReady hi hc
  | free => exact .visitFree hi hc
  | held holder queue => exact .visitHeld hi hc

theorem linger_rule {b : String} {todo : List String} {next : Unit → Program ν τ}
    (h : j.linger p inSpan b todo next = some (j', woken)) :
    Rule j p ticket inSpan (.lingering b todo next) j' := by
  unfold linger at h
  cases hc : j.registry.cell b with
  | free => simp [hc] at h
  | ready c =>
    simp only [hc, Option.some.injEq, Prod.mk.injEq] at h
    obtain ⟨rfl, -⟩ := h
    exact .lingerReady hc
  | held holder queue =>
    simp only [hc] at h
    split at h
    · rename_i hp
      cases h
      exact .lingerPass (by simp [hc, Cell.holder?, hp])
    · cases h

/-- Every step of a process is an instance of a rule. -/
theorem step_rule {choice : Nat} (h : j.step p choice = some (j', woken)) :
    ∃ s ticket inSpan, j.tasks[p]? = some ⟨s, ticket, inSpan⟩ ∧ Rule j p ticket inSpan s j' := by
  unfold step at h
  cases ht : j.tasks[p]? with
  | none => simp [ht] at h
  | some t =>
    obtain ⟨s, ticket, inSpan⟩ := t
    simp only [ht] at h
    refine ⟨s, ticket, inSpan, rfl, ?_⟩
    cases s with
    | fresh body => exact start_rule h
    | running program => exact advance_rule ht h
    | admitted m next =>
      cases h
      exact approach_rule
    | queued m next => exact atCell_rule h
    | opening m a next =>
      simp only [goOnOpening, Option.some.injEq] at h
      cases hd : a.due with
      | none =>
        simp only [hd] at h
        rw [show j' = (j.settle p m a next).1 by rw [h]]
        exact settle_rule (.opening hd)
      | some due =>
        simp only [hd, Prod.mk.injEq] at h
        obtain ⟨rfl, -⟩ := h
        exact .await hd
    | awaiting m a due next =>
      simp only at h
      split at h
      · rename_i hd
        have hj : j' = (j.settle p m a next).1 := by rw [Option.some.inj h]
        rw [hj]
        exact settle_rule (.awaiting hd)
      · cases h
    | asleep due next =>
      simp only at h
      split at h
      · rename_i hd
        cases h
        exact .wake hd
      · cases h
    | visiting todo next =>
      simp only at h
      cases hi : todo[choice % todo.length]? with
      | none =>
        simp only [hi, Option.some.injEq, Prod.mk.injEq] at h
        obtain ⟨rfl, -⟩ := h
        cases todo with
        | nil => exact .depart
        | cons b rest =>
          have hlt := Nat.mod_lt choice (List.length_pos_of_mem (List.mem_cons_self (a := b) (l := rest)))
          rw [List.getElem?_eq_none_iff] at hi
          omega
      | some b =>
        simp only [hi, Option.some.injEq, Prod.mk.injEq] at h
        obtain ⟨rfl, -⟩ := h
        exact visit_rule hi
    | lingering b todo next => exact linger_rule h
    | ended o => cases h

theorem process?_accept {j : Job ν τ} {q : ProcessId} {t : Process ν τ} (body : Program ν τ)
    (ht : j.process? q = some t) : (j.accept body).process? q = some t := by
  obtain ⟨t', ht', rfl⟩ := Option.map_eq_some_iff.mp ht
  have hlt := (List.getElem?_eq_some_iff.mp ht').1
  have ha : (j.accept body).tasks[q]? = some t' := by
    rw [accept, List.getElem?_append_left hlt, ht']
  simp [process?, ha]

theorem Rule.not_ended {s : Process ν τ} (hr : Rule j p ticket inSpan s j') (o : Outcome τ) :
    s ≠ .ended o := by
  rintro rfl
  cases hr with
  | fail hs | fill hs => cases hs

theorem process?_congr (h : j'.tasks = j.tasks) (q : ProcessId) : j'.process? q = j.process? q := by
  rw [process?, h, process?]

/-- A step of `p` is seen at `p`, and at the task that it submits if it does. It comes to a value
only from a program that has come to it. -/
theorem Rule.tasks {s : Process ν τ} (hr : Rule j p ticket inSpan s j') :
    ∃ s', (∀ r, s' = .ended (.value r) → s = .running (.done r)) ∧
      (j'.tasks = (j.setProcess p s').tasks ∨
        ∃ body next, s = .running (.submit body next) ∧
          j'.tasks = ((j.accept body).setProcess p s').tasks) := by
  cases hr with
  | finish =>
    refine ⟨_, fun r hr => ?_, .inl rfl⟩
    cases hr
    rfl
  | accept h => exact ⟨_, by rintro r ⟨⟩, .inr ⟨_, _, rfl, rfl⟩⟩
  | sleep => exact ⟨_, by rintro r ⟨⟩, .inl (setTimer_tasks ..)⟩
  | await h => exact ⟨_, by rintro r ⟨⟩, .inl (setTimer_tasks ..)⟩
  | @visitReady todo next i b c hi hc =>
    exact ⟨.visiting (todo.eraseIdx i) next, by rintro r ⟨⟩, .inl (by rw [release_eq]; rfl)⟩
  | @lingerReady b todo next c hc =>
    exact ⟨.visiting todo next, by rintro r ⟨⟩, .inl (by rw [release_eq]; rfl)⟩
  | _ => exact ⟨_, by rintro r ⟨⟩, .inl rfl⟩

theorem Rule.others {s : Process ν τ} (hr : Rule j p ticket inSpan s j') {q : ProcessId}
    {t : Process ν τ} (hq : q ≠ p) (ht : j.process? q = some t) : j'.process? q = some t := by
  obtain ⟨s', -, h | ⟨body, next, -, h⟩⟩ := hr.tasks
  · rw [process?_congr h, process?_setProcess, if_neg hq, ht]
  · rw [process?_congr h, process?_setProcess, if_neg hq, process?_accept body ht]

theorem Rule.others_before {s : Process ν τ} (hr : Rule j p ticket inSpan s j') {q : ProcessId}
    {t : Process ν τ} (hq : q ≠ p) (ht : j'.process? q = some t) :
    j.process? q = some t ∨ ∃ body next, s = .running (.submit body next) ∧ t = .fresh body := by
  obtain ⟨s', -, h | ⟨body, next, hs, h⟩⟩ := hr.tasks
  · rw [process?_congr h, process?_setProcess, if_neg hq] at ht
    exact .inl ht
  · rw [process?_congr h, process?_setProcess, if_neg hq] at ht
    obtain ⟨t', ht', rfl⟩ := Option.map_eq_some_iff.mp ht
    rcases task_accept ht' with ht' | ⟨-, rfl⟩
    · exact .inl (by simp [process?, ht'])
    · exact .inr ⟨body, next, hs, rfl⟩

/-- A process comes to a value only by the step that ends its program. -/
theorem Rule.value {s : Process ν τ} (ht : j.tasks[p]? = some ⟨s, ticket, inSpan⟩)
    (hr : Rule j p ticket inSpan s j') {q : ProcessId} {r : τ}
    (h : j'.process? q = some (.ended (.value r))) :
    j.process? q = some (.ended (.value r)) ∨ q = p ∧ s = .running (.done r) := by
  by_cases hq : q = p
  · subst hq
    have hp := process?_of_task ht
    obtain ⟨s', hs', htasks | ⟨body, next, -, htasks⟩⟩ := hr.tasks
    · rw [process?_congr htasks, process?_next hp] at h
      exact .inr ⟨rfl, hs' r (Option.some.inj h)⟩
    · rw [process?_congr htasks, process?_next (process?_accept body hp)] at h
      exact .inr ⟨rfl, hs' r (Option.some.inj h)⟩
  · rcases hr.others_before hq h with h | ⟨body, next, -, h⟩
    · exact .inl h
    · cases h

/-- Processes are made by submitting tasks only, one at a time, and none is forgotten. -/
theorem Rule.length {s : Process ν τ} (hr : Rule j p ticket inSpan s j') :
    j'.tasks.length = j.tasks.length ∨
      j'.tasks.length = j.tasks.length + 1 ∧ ∃ body next, s = .running (.submit body next) := by
  obtain ⟨s', -, h | ⟨body, next, hs, h⟩⟩ := hr.tasks
  · rw [h]
    exact .inl (length_setProcess ..)
  · refine .inr ⟨?_, body, next, hs⟩
    rw [h, length_setProcess, Job.accept, List.length_append, List.length_singleton]

theorem Rule.length_le {s : Process ν τ} (hr : Rule j p ticket inSpan s j') :
    j.tasks.length ≤ j'.tasks.length := by
  rcases hr.length with h | ⟨h, -⟩
  · exact Nat.le_of_eq h.symm
  · rw [h]
    exact Nat.le_succ _

theorem Rule.of_settles {s : Process ν τ} {m : Member} {a : Attempt}
    {next : Except Error Nat → Program ν τ} (hr : Rule j p ticket inSpan s j')
    (hs : s.Settles j.world.now m a next) :
    (∃ e world, j.world.settle m a = (.error e, world) ∧
      j' = { j with world, registry := (j.registry.change m.id Cell.pass).1 }.setProcess p
        (.running (next (.error e)))) ∨
    ∃ number world, j.world.settle m a = (.ok number, world) ∧
      j' = { j with
          world
          opened := j.opened ++ [Opened.mk m.id number]
          registry := (j.registry.change m.id (Cell.fill j.opened.length)).1 }.setProcess p
        (.running (next (.ok j.opened.length))) := by
  cases hr with
  | fail hs' ha =>
    obtain ⟨rfl, rfl, rfl⟩ := hs.unique hs'
    exact .inl ⟨_, _, ha, rfl⟩
  | fill hs' ha =>
    obtain ⟨rfl, rfl, rfl⟩ := hs.unique hs'
    exact .inr ⟨_, _, ha, rfl⟩
  | await h =>
    cases hs with
    | opening h' =>
      rw [h] at h'
      cases h'
  | _ => cases hs

end Inversion

end Job
end Resync

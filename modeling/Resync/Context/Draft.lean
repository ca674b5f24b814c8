import Resync.Context.Basic

/-! # Making a context

The source is the first active backend, and the pool is as large as the active set. The
target's snapshot is taken first. If anything fails, what was opened is closed again. A
draft keeps account of what is taken of the allowance of the turn in which it is made.
-/
namespace Resync

structure Draft where
  world : World
  registry : Registry := {}
  opened : List Opened := []
  spent : Nat := 0

abbrev Draft.Build := ExceptT Error (StateM Draft)

namespace Draft

def act {α : Type} (f : World → Except Error α × World) : Build α := do
  let d ← get
  let (r, world) := f d.world
  set { d with world }
  r

def spend (units : Nat) : Build Unit :=
  modify fun d : Draft => { d with spent := d.spent + units }

/-- Lets time pass until `due`, which takes a unit. If it is not there yet, the turn ends, and
the unit is the first of the next turn. -/
def wait (due : Nat) : Build Unit :=
  modify fun d : Draft =>
    if d.world.now < due then { d with world := { d.world with now := due }, spent := 1 }
    else { d with spent := d.spent + 1 }

def connect (codec : Codec) (m : Member) : Build Nat := do
  spend 1
  let a ← act fun w => w.attempt codec m
  a.due.forM wait
  let number ← act fun w => w.settle m a
  modify fun d : Draft =>
    { d with
      registry := d.registry.setCell m.id (.ready d.opened.length)
      opened := d.opened ++ [⟨m.id, number⟩] }
  pure number

def connection (codec : Codec) (m : Member) : Build Nat := do
  let d ← get
  match d.registry.cell m.id with
  | .ready c =>
    match d.opened[c]? with
    | some o => pure o.number
    | none => connect codec m
  | _ => connect codec m

/-- The backend's snapshot; to come to a cache that keeps snapshots takes a unit. -/
def snapshot (codec : Codec) (m : Member) : Build Nat := do
  let number ← connection codec m
  match (← get).world.cache.strategy with
  | .none => pure ()
  | .eager => spend 1
  act fun w => w.snapshot m.id number

def close (d : Draft) (inSpan : Bool) : World :=
  d.registry.cells.pairs.foldl
    (fun w (backend, cell) =>
      match cell with
      | .ready c => (d.opened[c]?).elim w fun o => w.release inSpan backend o.number
      | _ => w) d.world

end Draft

namespace Cluster

def newContext (c : Cluster) (inSpan : Bool) (target : Member) : Except Error Context × Cluster :=
  match c.world.active.next? with
  | none => (.error (.noActiveDatabases c.id), c)
  | some source =>
    let pool := Pool.ofCapacity c.world.active.count
    let world := c.world.report inSpan
      (.contextCreated c.id source.id target.id c.world.active.ids pool.capacity)
    let build : Draft.Build (Nat × Nat) := do
      let t ← Draft.snapshot c.codec target
      let s ← Draft.snapshot c.codec source
      pure (s, t)
    match build.run.run { world := world } with
    | (.error e, d) => (.error e, { c with world := d.close inSpan })
    | (.ok (s, t), d) =>
      let snapshot : Side → Nat := fun | .source => s | .target => t
      (.ok { source, target, snapshot, registry := d.registry, opened := d.opened, pool,
             spent := d.spent },
        { c with world := d.world })

end Cluster

end Resync

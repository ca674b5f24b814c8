import Resync.Job.Context

/-! # Synchronization

A synchronization job brings a target back in line with the active set. What has to be
done is up to a strategy; the job gives it a context and, however it ends, waits for all
tasks that it has given to the pool and closes the context.
-/
namespace Resync

structure Strategy (ν : Type) where
  name : String := "custom"
  program : View → Program ν (Except Error Unit)

def Strategy.passive {ν : Type} : Strategy ν where
  name := "passive"
  program _ := .done (.ok ())

variable {ν : Type}

def completion (cluster : String) : Except Error Unit → Log.Event
  | .ok _ => .synchronized cluster
  | .error e => .synchronizationFailed cluster e

def teardown (cluster : String) (result : Except Error Unit) : Program ν (Except Error Unit) :=
  .ask .shutdown fun _ =>
    .ask .termination fun _ =>
      .ask .closeRegistry fun _ =>
        .ask .shutdown fun _ =>
          .ask (.log (completion cluster result)) fun _ =>
            .done result

def Strategy.job (s : Strategy ν) (cluster : String) (v : View) :
    Program ν (Except Error Unit) :=
  (s.program v).andThen (teardown cluster)

structure Synchronization (ν : Type) where
  /-- There is none if the strategy did not end. -/
  result : Option (Except Error Unit)
  journal : List (ProcessId × ν) := []
  context : Option Context := none
  cluster : Cluster

namespace Cluster

/-- Runs one job on `target`. The strategy starts in the turn in which its context was
made. -/
def synchronize (fuel : Nat) (c : Cluster) (target : Member) (s : Strategy ν) :
    Synchronization ν :=
  let c := c.enter (.opened ⟨c.id, target.id, s.name⟩)
  match c.newContext true target with
  | (.error e, c) => { result := some (.error e), cluster := c }
  | (.ok x, c) =>
    let c := c.enter (.sourceRecorded x.source.id)
    match x.view? c with
    | none => { result := none, context := some x, cluster := c }
    | some v =>
      let p := x.perform fuel (turnAllowance - x.spent) c true (s.job c.id v)
      { result := match p.outcome with | some (.value r) => some r | _ => none
        journal := p.journal
        context := some p.context
        cluster := p.cluster }

end Cluster
end Resync

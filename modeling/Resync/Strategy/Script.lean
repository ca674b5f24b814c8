import Resync.Job.Synchronization
import Resync.Statement.Plan

/-! # Scripted strategies

A strategy can be given as a script: a list of directives, which are carried out in order
up to the first that fails. What a directive has led to is noted, with the number of the
task that has carried it out, if it was not the strategy itself.
-/
namespace Resync.Script

inductive Action where
  | fail (e : Error)
  | connect (m : Member)
  | plan
  | probe
  | say (v : Json)
  | sleep (duration : Nat)
  | shutdown
  | pool
  | active

inductive Directive where
  | act (a : Action)
  | task (name : String) (actions : List Action)
  /-- Waits for all tasks since the last `join`. -/
  | join

inductive Note where
  | connected (m : Member) (connection : Nat) (closed : Except Error Bool)
  | planned
  | probed (answers : List (String × Except Error Bool))
  | said (v : Json)
  | slept
  | shutDown
  | pool (p : Pool)
  | active (s : ActiveSet)
  | registered (task : String)
  | submitted
  | joined
  | failed (e : Error)

structure Entry where
  owner : Option Nat
  note : Note

abbrev ScriptProgram := Program Entry (Except Error Unit)

def probeAll (connection : Nat) : List Table → List (String × Except Error Bool) →
    (List (String × Except Error Bool) → ScriptProgram) → ScriptProgram
  | [], answers, next => next answers.reverse
  | t :: rest, answers, next =>
    .ask (.autoIncrement .target connection t.dml) fun r =>
      probeAll connection rest ((t.dml, r) :: answers) next

def Action.program (v : View) (owner : Option Nat) (next : Except Error Unit → ScriptProgram) :
    Action → ScriptProgram
  | fail e => next (.error e)
  | connect m =>
    .ask (.connection m) fun
      | .error e => next (.error e)
      | .ok c =>
        .ask (.isClosed c) fun closed => .note ⟨owner, .connected m c closed⟩ (next (.ok ()))
  | plan =>
    Program.logAll (Statement.planWarnings v.sourceSnapshot v.targetSnapshot)
      (.note ⟨owner, .planned⟩ (next (.ok ())))
  | probe =>
    .ask (.connection v.target) fun
      | .error e => next (.error e)
      | .ok c =>
        probeAll c v.targetSnapshot.tables [] fun answers =>
          .note ⟨owner, .probed answers⟩ (next (.ok ()))
  | say j => .note ⟨owner, .said j⟩ (next (.ok ()))
  | sleep d => .ask (.sleep d) fun _ => .note ⟨owner, .slept⟩ (next (.ok ()))
  | shutdown => .ask .shutdown fun _ => .note ⟨owner, .shutDown⟩ (next (.ok ()))
  | pool => .ask .pool fun p => .note ⟨owner, .pool p⟩ (next (.ok ()))
  | active => .ask .activeSet fun s => .note ⟨owner, .active s⟩ (next (.ok ()))

def taskProgram (v : View) (number : Nat) : List Action → ScriptProgram
  | [] => .done (.ok ())
  | a :: rest =>
    a.program v (some number) fun
      | .error e => .note ⟨some number, .failed e⟩ (.done (.error e))
      | .ok _ => taskProgram v number rest

def joinAll (next : Except Error Unit → ScriptProgram) :
    List ProcessId → Except Error Unit → ScriptProgram
  | [], result => next result
  | p :: rest, result =>
    .ask (.join p) fun
      | .value (.error e) => joinAll next rest (result.bind fun _ => .error e)
      | _ => joinAll next rest result

/-- The program of the directives; so many tasks were registered before, and these have not
been waited for. -/
def program (v : View) : List Directive → Nat → List ProcessId → ScriptProgram
  | [], _, _ => .done (.ok ())
  | .act a :: rest, registered, pending =>
    a.program v none fun
      | .error e => .done (.error e)
      | .ok _ => program v rest registered pending
  | .task name actions :: rest, registered, pending =>
    .note ⟨none, .registered name⟩ <| .submit (taskProgram v registered actions) fun
      | .error e => .done (.error e)
      | .ok p => .note ⟨none, .submitted⟩ (program v rest (registered + 1) (pending ++ [p]))
  | .join :: rest, registered, pending =>
    joinAll
      (fun
        | .error e => .done (.error e)
        | .ok _ => .note ⟨none, .joined⟩ (program v rest registered []))
      pending (.ok ())

def strategy (directives : List Directive) : Strategy Entry where
  program v := program v directives 0 []

end Resync.Script

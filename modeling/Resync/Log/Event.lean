import Resync.Error
import Resync.Text.Json
import Resync.Text.Literal

/-! # Log events

What the library reports while it works. An event has a level, a message and named
fields; a job's events stand inside the job's span, whose source is recorded once the
job has chosen one.
-/
namespace Resync.Log

inductive Event where
  | unknownDeleteRule (constraint : String) (code : Int)
  | unknownUpdateRule (constraint : String) (code : Int)
  | closeFailed (backend : String) (error : Error)
  | stateCheckFailed (backend : String) (error : Error)
  | contextCreated (cluster source target : String) (active : List String) (workers : Nat)
  | synchronized (cluster : String)
  | synchronizationFailed (cluster : String) (error : Error)
  deriving DecidableEq, Repr

namespace Event

def level : Event → Level
  | contextCreated .. | synchronized .. => .info
  | _ => .warn

def message : Event → String
  | unknownDeleteRule .. => "Unknown delete rule"
  | unknownUpdateRule .. => "Unknown update rule"
  | closeFailed .. => "Failed to close connection"
  | stateCheckFailed .. => "Failed to check connection state"
  | contextCreated .. => "Creating synchronization context"
  | synchronized .. => "Synchronization completed"
  | synchronizationFailed .. => "Synchronization failed"

def fields : Event → List (String × Json)
  | unknownDeleteRule constraint code | unknownUpdateRule constraint code =>
    [("constraint", .str constraint), ("code", .int code)]
  | closeFailed backend error | stateCheckFailed backend error =>
    [("database", .str backend), ("error", .str error.message)]
  | contextCreated cluster source target active workers =>
    [("cluster", .str cluster), ("source_database", .str source),
      ("target_database", .str target), ("active", .str (Text.literals active)),
      ("workers", .int workers)]
  | synchronized cluster => [("cluster", .str cluster)]
  | synchronizationFailed cluster error =>
    [("cluster", .str cluster), ("error", .str error.message)]

end Event

structure Span where
  cluster : String
  target : String
  strategy : String
  deriving DecidableEq, Repr

namespace Span

def name : String := "synchronize"

def sourceField : String := "hadb.source.database"

def fields (s : Span) : List (String × Json) :=
  [("system", .str "hadb"), ("hadb.cluster.id", .str s.cluster),
    ("hadb.target.database", .str s.target), ("hadb.strategy", .str s.strategy)]

end Span

inductive Entry where
  | opened (span : Span)
  | sourceRecorded (source : String)
  | event (e : Event) (inSpan : Bool)
  deriving DecidableEq, Repr

end Resync.Log

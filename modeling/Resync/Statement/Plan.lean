import Resync.Statement.Warning

/-! # Plans

A plan pairs every table of the source with the table of the target that is written in
the same way, if the target has it.
-/
namespace Resync.Statement

open Log (Event)

def plan (source target : Snapshot) : List (Table × Option Table) :=
  source.tables.map fun t => (t, target.table? t.schema t.name)

def tableWarnings (t : Table) : List Event := t.foreignKeys.flatMap warnings

def planWarnings (source target : Snapshot) : List Event :=
  (plan source target).flatMap fun
    | (s, some t) => tableWarnings s ++ tableWarnings t
    | (_, none) => []

end Resync.Statement

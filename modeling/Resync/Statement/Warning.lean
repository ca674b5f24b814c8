import Resync.Log.Event
import Resync.Statement

/-! # Warnings about statements

A referential action without a meaning is left out of a foreign key's statement and
reported.
-/
namespace Resync.Statement

open Log (Event)

def warnings (k : ForeignKey) : List Event :=
  (if (referentialAction? k.deleteRule).isNone then
    [.unknownDeleteRule k.name k.deleteRule] else [])
  ++ (if (referentialAction? k.updateRule).isNone then
    [.unknownUpdateRule k.name k.updateRule] else [])

end Resync.Statement

import Resync.Assoc
import Resync.Connection

/-! # Filled columns

Whether a backend fills some column of a table by itself is found out by a query without
rows, whose result set is closed whatever happens. Answers are kept by the table's name;
failures are not.
-/
namespace Resync

namespace Access

def outcome {α : Type} (a : Access α) : Access (Except Error α) :=
  ExceptT.mk (Except.ok <$> a.run)

/-- Looks at the columns of a result set one by one until the backend fills one. -/
def anyAutoIncrement (set : Nat) : Access Bool := do
  (List.range (← columnCount set)).anyM (isAutoIncrement set)

def probe (relation : String) : Access Bool := do
  let set ← executeQuery (emptySelect relation)
  let found ← outcome (anyAutoIncrement set)
  closeSet set
  found

end Access

abbrev Memo := Assoc String Bool

def Memo.ask (memo : Memo) (relation : String) : Access (Bool × Memo) := do
  match memo.get? relation with
  | some found => pure (found, memo)
  | none =>
    let found ← Access.probe relation
    pure (found, memo.insert relation found)

end Resync

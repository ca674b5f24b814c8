import Resync.Snapshot.AutoIncrement
import Resync.Snapshot.Introspection

/-! # Snapshot caches

A cache hands out snapshots by number. One that keeps snapshots loads each backend once
until it is flushed; the other loads at every request. A failed load leaves the cache as
it was. Every snapshot that was ever handed out stays in use with its own memo.
-/
namespace Resync

inductive CacheStrategy where
  | none
  | eager
  deriving DecidableEq, Repr

structure LiveSnapshot where
  snapshot : Snapshot
  memo : Memo := ∅

structure Cache where
  strategy : CacheStrategy
  entries : Assoc String Nat := ∅
  /-- The snapshots handed out so far; their places are their numbers. -/
  live : List LiveSnapshot := []

namespace Cache

def get (k : Cache) (backend : String) : Access (Nat × Cache) := do
  match k.entries.get? backend with
  | some number => pure (number, k)
  | none =>
    let snapshot ← Snapshot.load
    let number := k.live.length
    let entries :=
      match k.strategy with
      | .none => k.entries
      | .eager => k.entries.insert backend number
    pure (number, { k with entries, live := k.live ++ [{ snapshot }] })

def flush (k : Cache) : Cache := { k with entries := ∅ }

def flushBackend (k : Cache) (backend : String) : Cache :=
  { k with entries := k.entries.erase backend }

def size (k : Cache) : Nat := k.entries.size

def isEmpty (k : Cache) : Bool := k.entries.isEmpty

def snapshot? (k : Cache) (number : Nat) : Option Snapshot :=
  k.live[number]?.map (·.snapshot)

/-- Whether the backend fills a column of the relation, as snapshot `number` knows it or
learns it through the connection. -/
def autoIncrement (k : Cache) (number : Nat) (relation : String) : Access (Bool × Cache) := do
  match k.live[number]? with
  | none => pure (false, k)
  | some l =>
    let (found, memo) ← l.memo.ask relation
    pure (found, { k with live := k.live.set number { l with memo } })

end Cache
end Resync

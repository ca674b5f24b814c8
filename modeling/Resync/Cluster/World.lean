import Resync.Cluster.ActiveSet
import Resync.Credential
import Resync.Log.Event
import Resync.Snapshot.Cache

/-! # Clusters and their world

The world of a cluster has the backends that can be reached, every connection that was
opened so far, the active set, the metadata cache, the log and the clock. All jobs of a
cluster share it; connections are numbered in the order in which they were opened and are
never forgotten.
-/
namespace Resync

structure Backend where
  id : String
  schema : Schema
  password : String := ""
  /-- How long it takes to open a connection. Without a delay there is no wait at all; a delay
  of zero is a wait that is over at once. -/
  delay : Option Nat := none
  refusing : Bool := false
  failClose : Bool := false
  /-- Connections do not tell whether they are closed. -/
  failState : Bool := false
  attempts : Nat := 0
  deriving DecidableEq, Repr

def Backend.connection (b : Backend) : Connection :=
  { schema := b.schema, failClose := b.failClose, failState := b.failState }

structure World where
  now : Nat := 0
  backends : Assoc String Backend
  /-- The connections with the handle that they were opened through. -/
  connections : List (String × Connection) := []
  active : ActiveSet
  cache : Cache
  log : List Log.Entry := []

structure Attempt where
  refusing : Bool
  due : Option Nat
  deriving DecidableEq, Repr

namespace World

def report (w : World) (inSpan : Bool) (e : Log.Event) : World :=
  { w with log := w.log ++ [.event e inSpan] }

def backend (w : World) (m : Member) : Backend :=
  (w.backends.get? m.handle).getD { id := m.id, schema := ⟨[]⟩ }

def setBackend (w : World) (m : Member) (b : Backend) : World :=
  { w with backends := w.backends.insert m.handle b }

def lastTime : Nat := Nat.pow 2 64 - 3

def timeAfter (w : World) (duration : Nat) : Nat := min (w.now + duration) lastTime

/-- The longest that anyone waits: thirty years of 365 days. -/
def longestWait : Nat := 30 * 365 * 24 * 60 * 60 * 1000

def dueAfter (w : World) (duration : Nat) : Nat := w.timeAfter (min duration longestWait)

/-- Begins to open a connection. A password that cannot be decoded ends the attempt. -/
def attempt (w : World) (codec : Codec) (m : Member) : Except Error Attempt × World :=
  let b := w.backend m
  let w := w.setBackend m { b with attempts := b.attempts + 1 }
  match codec.decode b.password with
  | .error fault => (.error (.codec fault), w)
  | .ok _ => (.ok ⟨b.refusing, b.delay.map w.dueAfter⟩, w)

def settle (w : World) (m : Member) (a : Attempt) : Except Error Nat × World :=
  if a.refusing then (.error (.dataAccess (.refused m.id)), w)
  else
    (.ok w.connections.length,
      { w with connections := w.connections ++ [(m.handle, (w.backend m).connection)] })

def access {α : Type} (w : World) (number : Nat) (a : Access α) : Except Error α × World :=
  match w.connections[number]? with
  | none => (.error (.dataAccess .stateUnknown), w)
  | some (handle, c) =>
    let (r, c) := Access.on c a
    (r, { w with connections := w.connections.set number (handle, c) })

def snapshot (w : World) (backend : String) (number : Nat) : Except Error Nat × World :=
  match w.access number (w.cache.get backend) with
  | (.error e, w) => (.error e, w)
  | (.ok (n, cache), w) => (.ok n, { w with cache })

def autoIncrement (w : World) (snapshot number : Nat) (relation : String) :
    Except Error Bool × World :=
  match w.access number (w.cache.autoIncrement snapshot relation) with
  | (.error e, w) => (.error e, w)
  | (.ok (found, cache), w) => (.ok found, { w with cache })

/-- Closes a connection unless it is closed; what fails is reported and otherwise ignored. -/
def release (w : World) (inSpan : Bool) (backend : String) (number : Nat) : World :=
  match w.access number Access.isClosed with
  | (.error e, w) => w.report inSpan (.stateCheckFailed backend e)
  | (.ok true, w) => w
  | (.ok false, w) =>
    match w.access number Access.close with
    | (.error e, w) => w.report inSpan (.closeFailed backend e)
    | (.ok _, w) => w

end World

structure Cluster where
  id : String
  codec : Codec
  world : World

def Cluster.enter (c : Cluster) (e : Log.Entry) : Cluster :=
  { c with world := { c.world with log := c.world.log ++ [e] } }

end Resync

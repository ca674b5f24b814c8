import Resync.Context.Draft
import Resync.Proofs.Cluster.Connections
import Resync.Proofs.Snapshot.Description

/-! # Stages of a context

A context is made in stages: a backend's password is decoded, the backend is connected to,
and its snapshot is taken. What a stage comes to is determined by the backend's script and
the cache. The lemmas run the stages on a draft.
-/
namespace Resync

namespace World

def connectFault? (w : World) (codec : Codec) (m : Member) : Option Error :=
  match codec.decode (w.backend m).password with
  | .error fault => some (.codec fault)
  | .ok _ => if (w.backend m).refusing then some (.dataAccess (.refused m.id)) else none

theorem attempt_error {w : World} {codec : Codec} {m : Member} {fault : CodecFault}
    (h : codec.decode (w.backend m).password = .error fault) :
    w.attempt codec m = (.error (.codec fault), w.attempted m) := by
  simp only [attempt, h, attempted]

theorem attempt_ok {w : World} {codec : Codec} {m : Member} {password : String}
    (h : codec.decode (w.backend m).password = .ok password) :
    ∃ due, w.attempt codec m = (.ok ⟨(w.backend m).refusing, due⟩, w.attempted m) := by
  simp only [attempt, h, attempted]
  exact ⟨_, rfl⟩

/-- What taking the backend's snapshot through a new connection comes to: its number and the
cache afterwards, or the error of loading it. -/
def loading (w : World) (m : Member) : Except Error (Nat × Cache) :=
  (Access.on (w.backend m).connection (w.cache.get m.id)).1

def stage (w : World) (codec : Codec) (m : Member) : Except Error (Nat × Cache) :=
  match w.connectFault? codec m with
  | some e => .error e
  | none => w.loading m

/-- Introspection leaves the connection as it is. -/
theorem snapshot_eq {w : World} {n : Nat} {handle : String} {k : Connection} (b : String)
    (hk : w.connections[n]? = some (handle, k)) :
    w.snapshot b n =
      match (Access.on k (w.cache.get b)).1 with
      | .error e => (.error e, w)
      | .ok (i, cache) => (.ok i, { w with cache }) := by
  have hsame : (Access.on k (w.cache.get b)).2 = k := w.cache.on_get b k
  have hself : w.connections.set n (handle, k) = w.connections := set_eq_self hk
  unfold snapshot access
  simp only [hk]
  cases h : Access.on k (w.cache.get b) with
  | mk r k' =>
    rw [h] at hsame
    cases hsame
    simp only [hself]
    cases r with
    | error e => rfl
    | ok r => rfl

end World

namespace Draft

variable {α β : Type} {codec : Codec} {m : Member} {d : Draft}

def on (d : Draft) (a : Build α) : Except Error α × Draft := a.run.run d

theorem on_pure (d : Draft) (x : α) : on d (pure x) = (.ok x, d) := rfl

theorem on_bind (d : Draft) (a : Build α) (f : α → Build β) :
    on d (a >>= f) =
      match on d a with
      | (.ok x, d') => on d' (f x)
      | (.error e, d') => (.error e, d') := by
  change (ExceptT.bind a f).run.run d = _
  simp only [on, ExceptT.run, ExceptT.bind, ExceptT.mk, StateT.run_bind]
  cases h : StateT.run a d with
  | mk r d' =>
    cases r with
    | ok x => rfl
    | error e => rfl

theorem on_get (d : Draft) : on d get = (.ok d, d) := rfl

theorem on_modify (d : Draft) (f : Draft → Draft) : on d (modify f) = (.ok (), f d) := rfl

theorem on_spend (d : Draft) (units : Nat) :
    on d (spend units) = (.ok (), { d with spent := d.spent + units }) := rfl

theorem on_set (d d' : Draft) : on d (set d') = (.ok (), d') := rfl

theorem on_result (d : Draft) (r : Except Error α) : on d (liftM r : Build α) = (r, d) := by
  cases r <;> rfl

theorem on_act (d : Draft) (f : World → Except Error α × World) :
    on d (act f) = ((f d.world).1, { d with world := (f d.world).2 }) := by
  unfold act
  rw [on_bind, on_get]
  simp only [on_bind, on_set, on_result]

def waited (now spent : Nat) : Option Nat → Nat × Nat
  | none => (now, spent)
  | some due => if now < due then (due, 1) else (now, spent + 1)

theorem on_wait (d : Draft) (due : Option Nat) :
    on d (due.forM wait) =
      (.ok (), { d with
        world := { d.world with now := (waited d.world.now d.spent due).1 }
        spent := (waited d.world.now d.spent due).2 }) := by
  cases due with
  | none => rfl
  | some due =>
    change on d (wait due) = _
    unfold wait waited
    rw [on_modify]
    by_cases h : d.world.now < due
    · simp only [if_pos h]
    · simp only [if_neg h]

def reached (d : Draft) (codec : Codec) (m : Member) : Nat × Nat :=
  match (d.world.attempt codec m).1 with
  | .error _ => (d.world.now, d.spent + 1)
  | .ok a => waited d.world.now (d.spent + 1) a.due

def opening (d : Draft) (m : Member) : Draft :=
  { d with
    world := { d.world.attempted m with
      connections := d.world.connections ++ [(m.handle, (d.world.backend m).connection)] }
    registry := d.registry.setCell m.id (.ready d.opened.length)
    opened := d.opened ++ [⟨m.id, d.world.connections.length⟩] }

theorem on_connect (codec : Codec) (m : Member) (d : Draft) :
    on d (connect codec m) =
      match d.world.connectFault? codec m with
      | some e => (.error e, { d with
          world := { d.world.attempted m with now := (d.reached codec m).1 }
          spent := (d.reached codec m).2 })
      | none => (.ok d.world.connections.length,
          { d.opening m with
            world := { (d.opening m).world with now := (d.reached codec m).1 }
            spent := (d.reached codec m).2 }) := by
  unfold connect World.connectFault? reached
  simp only [on_bind, on_spend, on_act]
  cases hc : codec.decode (d.world.backend m).password with
  | error fault =>
    rw [World.attempt_error hc]
    rfl
  | ok password =>
    obtain ⟨due, ha⟩ := World.attempt_ok hc
    rw [ha]
    simp only [on_wait, World.settle]
    by_cases hr : (d.world.backend m).refusing = true
    · simp only [if_pos hr]
      rfl
    · simp only [if_neg hr, on_modify, on_pure]
      have hb : ∀ now, (World.backend { d.world.attempted m with now } m).connection =
          (d.world.backend m).connection := by
        intro now
        change ((d.world.attempted m).backend m).connection = _
        rw [World.backend_attempted, if_pos rfl]
        rfl
      rw [hb]
      rfl

theorem on_connection_of_free (codec : Codec) (hcell : d.registry.cell m.id = .free) :
    on d (connection codec m) = on d (connect codec m) := by
  unfold connection
  rw [on_bind, on_get]
  simp only [hcell]

theorem on_connection_of_ready (codec : Codec) {c : Nat} {o : Opened}
    (hcell : d.registry.cell m.id = .ready c) (ho : d.opened[c]? = some o) :
    on d (connection codec m) = (.ok o.number, d) := by
  unfold connection
  rw [on_bind, on_get]
  simp only [hcell, ho, on_pure]

def toll : CacheStrategy → Nat
  | .none => 0
  | .eager => 1

theorem on_snapshot_of_error {e : Error} {d' : Draft} (hc : on d (connection codec m) = (.error e, d')) :
    on d (snapshot codec m) = (.error e, d') := by
  unfold snapshot
  rw [on_bind, hc]

theorem on_snapshot_of_connection {number : Nat} {d' : Draft} {handle : String} {k : Connection}
    (hc : on d (connection codec m) = (.ok number, d'))
    (hk : d'.world.connections[number]? = some (handle, k)) :
    on d (snapshot codec m) =
      match (Access.on k (d'.world.cache.get m.id)).1 with
      | .error e => (.error e, { d' with spent := d'.spent + toll d'.world.cache.strategy })
      | .ok (n, cache) =>
        (.ok n, { d' with
          world := { d'.world with cache }
          spent := d'.spent + toll d'.world.cache.strategy }) := by
  have hact : ∀ spent, on { d' with spent } (act fun w => w.snapshot m.id number) =
      match (Access.on k (d'.world.cache.get m.id)).1 with
      | .error e => (.error e, { d' with spent })
      | .ok (n, cache) => (.ok n, { d' with world := { d'.world with cache }, spent }) := by
    intro spent
    rw [on_act]
    simp only [World.snapshot_eq m.id hk]
    cases (Access.on k (d'.world.cache.get m.id)).1 with
    | error e => rfl
    | ok r => rfl
  unfold snapshot toll
  rw [on_bind, hc]
  simp only
  rw [on_bind, on_get]
  simp only
  cases d'.world.cache.strategy with
  | none => exact hact d'.spent
  | eager =>
    rw [on_bind, on_spend]
    exact hact (d'.spent + 1)

theorem on_snapshot (codec : Codec) (hcell : d.registry.cell m.id = .free) :
    ∃ now spent, on d (snapshot codec m) =
      match d.world.connectFault? codec m with
      | some e => (.error e, { d with world := { d.world.attempted m with now }, spent })
      | none =>
        match d.world.loading m with
        | .error e => (.error e, { d.opening m with world := { (d.opening m).world with now }, spent })
        | .ok (n, cache) =>
          (.ok n, { d.opening m with world := { (d.opening m).world with now, cache }, spent }) := by
  have hc := (on_connection_of_free codec hcell).trans (on_connect codec m d)
  cases hf : d.world.connectFault? codec m with
  | some e =>
    rw [hf] at hc
    exact ⟨_, _, on_snapshot_of_error hc⟩
  | none =>
    rw [hf] at hc
    have hk : (d.opening m).world.connections[d.world.connections.length]? =
        some (m.handle, (d.world.backend m).connection) := by
      simp [opening]
    exact ⟨_, _, on_snapshot_of_connection hc hk⟩

/-- The stages of a backend that shares its connection with one that is connected already. -/
theorem on_snapshot_shared (codec : Codec) {c : Nat} {o : Opened} {handle : String} {k : Connection}
    (hcell : d.registry.cell m.id = .ready c) (ho : d.opened[c]? = some o)
    (hk : d.world.connections[o.number]? = some (handle, k)) :
    ∃ spent, on d (snapshot codec m) =
      match (Access.on k (d.world.cache.get m.id)).1 with
      | .error e => (.error e, { d with spent })
      | .ok (n, cache) => (.ok n, { d with world := { d.world with cache }, spent }) :=
  ⟨_, on_snapshot_of_connection (on_connection_of_ready codec hcell ho) hk⟩

end Draft
end Resync

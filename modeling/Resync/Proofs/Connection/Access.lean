import Resync.Snapshot.Cache

/-! # What asking does to a connection

Asking a connection may leave it within a relation, whatever the answer is. Asking whether it
is closed and asking it to close do not change its schema or its ways of failing, and do not
open it again.
-/
namespace Resync

/-- The connection is still the same one, and closed if it was. -/
structure Connection.Keeps (k k' : Connection) : Prop where
  schema : k'.schema = k.schema
  failClose : k'.failClose = k.failClose
  failState : k'.failState = k.failState
  closed : k.closed = true → k'.closed = true

theorem Connection.Keeps.refl (k : Connection) : k.Keeps k := ⟨rfl, rfl, rfl, id⟩

theorem Connection.Keeps.trans {k k' k'' : Connection} (h : k.Keeps k') (h' : k'.Keeps k'') :
    k.Keeps k'' :=
  ⟨h'.schema.trans h.schema, h'.failClose.trans h.failClose, h'.failState.trans h.failState,
    fun hc => h'.closed (h.closed hc)⟩

instance : Std.Refl Connection.Keeps := ⟨Connection.Keeps.refl⟩

instance : Trans Connection.Keeps Connection.Keeps Connection.Keeps := ⟨Connection.Keeps.trans⟩

namespace Access

variable {α β : Type}

theorem on_pure (k : Connection) (x : α) : on k (pure x) = (.ok x, k) := rfl

theorem on_bind (k : Connection) (a : Access α) (f : α → Access β) :
    on k (a >>= f) =
      match on k a with
      | (.ok x, k') => on k' (f x)
      | (.error e, k') => (.error e, k') := by
  change (ExceptT.bind a f).run.run k = _
  simp only [on, ExceptT.run, ExceptT.bind, ExceptT.mk, StateT.run_bind]
  cases h : StateT.run a k with
  | mk r k' =>
    cases r with
    | ok x => rfl
    | error e => rfl

theorem on_modify (k : Connection) (f : Connection → Connection) :
    on k (modify f : Access Unit) = (.ok (), f k) := rfl

theorem on_map (k : Connection) (f : α → β) (a : Access α) :
    on k (f <$> a) = ((on k a).1.map f, (on k a).2) := by
  rw [map_eq_pure_bind, on_bind]
  obtain ⟨r, k'⟩ := on k a
  cases r with
  | ok x => rfl
  | error e => rfl

def Within (R : Connection → Connection → Prop) (a : Access α) : Prop := ∀ k, R k (on k a).2

section Closure

variable {R : Connection → Connection → Prop}

theorem within_modify {f : Connection → Connection} (hf : ∀ k, R k (f k)) :
    Within R (modify f : Access Unit) := hf

theorem Within.bind [Trans R R R] {a : Access α} {f : α → Access β} (ha : Within R a) (hf : ∀ x, Within R (f x)) :
    Within R (a >>= f) := by
  intro k
  have hk := ha k
  rw [on_bind]
  cases h : on k a with
  | mk r k' =>
    rw [h] at hk
    cases r with
    | ok x => exact Trans.trans hk (hf x k')
    | error e => exact hk

theorem within_pure [Std.Refl R] (x : α) : Within R (pure x : Access α) :=
  fun k => Std.Refl.refl k

theorem within_fail [Std.Refl R] (fault : AccessFault) : Within R (fail fault : Access α) :=
  fun k => Std.Refl.refl k

theorem within_get [Std.Refl R] : Within R (get : Access Connection) := fun k => Std.Refl.refl k

end Closure

theorem keeps_isClosed : Within Connection.Keeps isClosed := by
  refine within_get.bind fun k => ?_
  split
  · exact within_fail _
  · exact within_pure _

theorem keeps_close : Within Connection.Keeps close := by
  refine (within_modify fun k => ⟨rfl, rfl, rfl, id⟩).bind fun _ => within_get.bind fun k => ?_
  have hm : Within Connection.Keeps (modify fun k : Connection => { k with closed := true } : Access Unit) :=
    within_modify fun k => ⟨rfl, rfl, rfl, fun _ => rfl⟩
  split
  · exact (within_fail _).bind fun _ => hm
  · exact hm

end Access
end Resync

import Resync.Proofs.Job.Sweep

/-! # Who closes connections

A connection is closed, or asked to close, by a program that asks for just that, or on the way
to close the registry. All that happens otherwise leaves the connections as open as they were.
-/
namespace Resync

namespace World

/-- From the one world to the other no connection is closed or asked to close. -/
def Spares (w w' : World) : Prop :=
  ∀ (n : Nat) (handle : String) (k : Connection), w.connections[n]? = some (handle, k) →
    ∃ k' : Connection, w'.connections[n]? = some (handle, k') ∧ k'.closed = k.closed ∧ k'.closings = k.closings

variable {w w' : World}

theorem Spares.of_append {more : List (String × Connection)}
    (h : w'.connections = w.connections ++ more) : w.Spares w' := by
  intro n handle k hk
  have hlt := (List.getElem?_eq_some_iff.mp hk).1
  exact ⟨k, by rw [h, List.getElem?_append_left hlt, hk], rfl, rfl⟩

theorem Spares.of_eq (h : w'.connections = w.connections) : w.Spares w' :=
  .of_append (h.trans (List.append_nil _).symm)

theorem access_spares {α : Type} {a : Access α} (w : World) (n : Nat)
    (ha : Access.Within Connection.Queried a) : w.Spares (w.access n a).2 := by
  intro i handle k hk
  rw [access_connections]
  by_cases hi : i = n
  · subst hi
    have hlt := (List.getElem?_eq_some_iff.mp hk).1
    have hface : (Access.on k a).2.face = k.face := ha k
    have hclosed := congrArg Connection.closed hface
    have hclosings := congrArg Connection.closings hface
    simp only [hk]
    exact ⟨(Access.on k a).2, List.getElem?_set_self hlt, hclosed, hclosings⟩
  · have hi' : n ≠ i := fun e => hi e.symm
    refine ⟨k, ?_, rfl, rfl⟩
    cases w.connections[n]? with
    | none => exact hk
    | some e =>
      simp only [List.getElem?_set_ne hi']
      exact hk

theorem isClosed_spares (w : World) (n : Nat) : w.Spares (w.access n Access.isClosed).2 := by
  refine access_spares w n fun k => ?_
  rw [Access.on_isClosed]
  exact refl k

theorem autoIncrement_spares (w : World) (i n : Nat) (relation : String) :
    w.Spares (w.autoIncrement i n relation).2 := by
  have hspares := access_spares w n (Access.queried_autoIncrement w.cache i relation)
  unfold autoIncrement
  cases h : w.access n (w.cache.autoIncrement i relation) with
  | mk r w' =>
    rw [h] at hspares
    cases r with
    | error e => exact hspares
    | ok r => exact hspares

end World

namespace Job

variable {ν τ : Type} {j j' : Job ν τ} {m : Move} {p : ProcessId} {s : Process ν τ}
  {ticket : Option Nat} {inSpan : Bool}

theorem access_spares {α : Type} {f : World → Nat → Except Error α × World}
    (hf : ∀ n, j.world.Spares (f j.world n).2) (c : Nat) : j.world.Spares (j.access c f).2.world := by
  unfold Job.access
  cases j.opened[c]? with
  | none => exact .of_eq rfl
  | some o => exact hf o.number

theorem reply?_spares {q : Request} {r : q.Reply τ} {world : World}
    (h : j.reply? inSpan q = some (r, world)) (hq : ∀ c, q ≠ .closeConnection c) :
    j.world.Spares world := by
  cases q with
  | connection m =>
    simp only [reply?] at h
    split at h
    · cases h
      exact .of_eq rfl
    · cases h
  | isClosed c =>
    cases h
    exact access_spares (f := fun w n => w.access n Access.isClosed)
      (fun n => j.world.isClosed_spares n) c
  | closeConnection c => exact absurd rfl (hq c)
  | autoIncrement side c relation =>
    cases h
    exact access_spares (f := fun w n => w.autoIncrement (j.snapshot side) n relation)
      (fun n => j.world.autoIncrement_spares _ n relation) c
  | activeSet | pool | log =>
    cases h
    exact .of_eq rfl
  | termination =>
    simp only [reply?] at h
    split at h
    · cases h
      exact .of_eq rfl
    · cases h
  | join q =>
    obtain ⟨o, -, ho⟩ := Option.map_eq_some_iff.mp h
    cases ho
    exact .of_eq rfl
  | signal name =>
    simp only [reply?] at h
    split at h
    · cases h
      exact .of_eq rfl
    · cases h
  | shutdown => cases h
  | closeRegistry => cases h
  | sleep d => cases h

def Asked (j : Job ν τ) (m : Move) : Prop :=
  ∃ p k c next, m = .step p k ∧ j.process? p = some (.running (.ask (.closeConnection c) next))

theorem Rule.spares (hr : Rule j p ticket inSpan s j')
    (hs : ∀ c next, s ≠ .running (.ask (.closeConnection c) next)) (hclosing : s.closing? = none) :
    j.world.Spares j'.world := by
  cases hr with
  | @reply q next r world h =>
    refine reply?_spares h ?_
    rintro c rfl
    exact hs c next rfl
  | @begin m next a world hh ha =>
    have hw := World.attempt_world j.world j.codec m
    rw [ha] at hw
    subst hw
    exact .of_eq rfl
  | @refuse m next e world hh ha =>
    have hw := World.attempt_world j.world j.codec m
    rw [ha] at hw
    subst hw
    exact .of_eq rfl
  | fail hs' ha =>
    obtain ⟨rfl, -⟩ := World.settle_error ha
    exact .of_eq rfl
  | fill hs' ha =>
    obtain ⟨-, rfl⟩ := World.settle_ok ha
    exact .of_append rfl
  | sleep =>
    obtain ⟨timers, h⟩ := Job.setTimer_eq (j.setProcess p _) p _
    rw [h]
    exact .of_eq rfl
  | await hd =>
    obtain ⟨timers, h⟩ := Job.setTimer_eq (j.setProcess p _) p _
    rw [h]
    exact .of_eq rfl
  | visitReady | visitFree | visitHeld | depart | lingerReady | lingerPass => cases hclosing
  | _ => exact .of_eq rfl

/-- A connection is closed by a program that asks for it, or on the way to close the registry. -/
theorem Change.spares (hc : Change j m j') :
    j.Asked m ∨ (∃ p k s, m = .step p k ∧ j.process? p = some s ∧ s.closing?.isSome = true) ∨
      j.world.Spares j'.world := by
  cases hc with
  | @step p k s ticket inSpan j' ht hr =>
    have hp := process?_of_task ht
    by_cases hs : ∃ c next, s = .running (.ask (.closeConnection c) next)
    · obtain ⟨c, next, rfl⟩ := hs
      exact .inl ⟨p, k, c, next, rfl, hp⟩
    · cases hclosing : s.closing? with
      | some rest => exact .inr (.inl ⟨p, k, s, rfl, hp, by rw [hclosing]; rfl⟩)
      | none => exact .inr (.inr (hr.spares (fun c next h => hs ⟨c, next, h⟩) hclosing))
  | elapse => exact .inr (.inr (.of_eq rfl))
  | signal => exact .inr (.inr (.of_eq rfl))
  | leave ht hs => exact .inr (.inr (.of_eq rfl))
  | idle => exact .inr (.inr (.of_eq rfl))

end Job
end Resync

import Mathlib.Data.List.Nodup
import Mathlib.Data.List.Range
import Resync.Proofs.Job.Tickets

/-! # The account of a pool

Tasks are submitted to a pool, get permits and end, and the pool is shut down, in any order.
An account remembers which tasks were accepted, which have had a permit and how each has ended.
The pool itself remembers none of it, but its numbers agree with the account at all times: the
tasks that wait, those that run and those that have ended are the accepted ones.
-/
namespace Resync.Pool

inductive Event where
  | submit
  | lineUp (task : Nat)
  | grant (task : Nat)
  | finish (task : Nat) (how : Outcome Unit)
  | shutdown
  deriving DecidableEq, Repr

def Event.isProgress : Event → Bool
  | grant _ => true
  | finish _ how => how != .cancelled
  | submit | lineUp _ | shutdown => false

structure Account where
  pool : Pool
  accepted : List Nat := []
  started : List Nat := []
  ended : List (Nat × Outcome Unit) := []
  deriving DecidableEq, Repr

namespace Account

def ofCapacity (n : Nat) : Account := { pool := .ofCapacity n }

/-- The task may end so: one that still waits for a permit can only be cancelled. -/
def mayEnd (a : Account) (task : Nat) (how : Outcome Unit) : Bool :=
  a.pool.active.contains task || how == .cancelled && a.pool.waiting.contains task

def step? (a : Account) : Event → Option Account
  | .submit =>
    match a.pool.submit? with
    | none => some a
    | some (task, pool) => some { a with pool, accepted := a.accepted ++ [task] }
  | .lineUp task => (a.pool.lineUp? task).map fun pool => { a with pool }
  | .grant task =>
    (a.pool.grant? task).map fun pool => { a with pool, started := a.started ++ [task] }
  | .finish task how =>
    if a.mayEnd task how then
      some { a with pool := a.pool.finish task, ended := a.ended ++ [(task, how)] }
    else none
  | .shutdown => some { a with pool := a.pool.shutdown }

def run? (a : Account) (events : List Event) : Option Account := events.foldlM step? a

theorem run?_cons (a : Account) (e : Event) (events : List Event) :
    a.run? (e :: events) = (a.step? e).bind fun b => b.run? events := rfl

theorem run?_single {a b : Account} {e : Event} (h : a.step? e = some b) : a.run? [e] = some b := by
  rw [run?_cons, h]
  rfl

theorem run?_append (a : Account) (before after : List Event) :
    a.run? (before ++ after) = (a.run? before).bind fun b => b.run? after :=
  List.foldlM_append

theorem run?_keeps {P : Account → Prop} (hP : ∀ a e b, P a → a.step? e = some b → P b)
    {events : List Event} {a b : Account} (ha : P a) (h : a.run? events = some b) : P b := by
  induction events generalizing a with
  | nil =>
    cases h
    exact ha
  | cons e events ih =>
    rw [run?_cons] at h
    obtain ⟨c, hc, h⟩ := Option.bind_eq_some_iff.mp h
    exact ih (hP a e c ha hc) h

def gone (a : Account) : List Nat := a.ended.map Prod.fst

structure Balanced (n : Nat) (a : Account) : Prop where
  capacity : a.pool.capacity = max 1 n
  permits : a.pool.active.length + a.pool.permits = a.pool.capacity
  numbered : a.accepted = List.range a.pool.accepted
  places : (a.pool.waiting ++ a.pool.active ++ a.gone).Perm a.accepted
  line : a.pool.Lined
  once : a.started.Nodup
  begun : ∀ k ∈ a.started, k ∈ a.accepted ∧ k ∉ a.pool.waiting
  active : ∀ k ∈ a.pool.active, k ∈ a.started
  cancelled : ∀ k how, (k, how) ∈ a.ended → how = .cancelled ∨ k ∈ a.started

variable {n task : Nat} {how : Outcome Unit} {a b : Account}

theorem step?_submit_of_open (h : a.pool.isShutdown = false) : a.step? .submit = some { a with
    pool := { a.pool with
      accepted := a.pool.accepted + 1
      waiting := a.pool.waiting ++ [a.pool.accepted] }
    accepted := a.accepted ++ [a.pool.accepted] } := by
  simp [step?, submit?, h]

theorem step?_grant_of_granted {pool : Pool} (h : a.pool.grant? task = some pool) :
    a.step? (.grant task) = some { a with pool, started := a.started ++ [task] } := by
  simp only [step?, h, Option.map_some]

theorem step?_submit (h : a.step? .submit = some b) :
    a.pool.isShutdown = true ∧ b = a ∨
    a.pool.isShutdown = false ∧ b = { a with
      pool := { a.pool with
        accepted := a.pool.accepted + 1
        waiting := a.pool.waiting ++ [a.pool.accepted] }
      accepted := a.accepted ++ [a.pool.accepted] } := by
  cases hs : a.pool.isShutdown with
  | true =>
    simp only [step?, submit?, hs, ↓reduceIte] at h
    exact .inl ⟨rfl, (Option.some.inj h).symm⟩
  | false =>
    simp only [step?, submit?, hs, Bool.false_eq_true, ↓reduceIte] at h
    exact .inr ⟨rfl, (Option.some.inj h).symm.trans (by simp [hs])⟩

theorem step?_grant (h : a.step? (.grant task) = some b) :
    task ∈ a.pool.waiting ∧ 0 < a.pool.permits ∧ b = { a with
      pool := { a.pool with
        permits := a.pool.permits - 1
        waiting := a.pool.waiting.filter (· ≠ task)
        line := a.pool.line.filter (· ≠ task)
        active := a.pool.active ++ [task] }
      started := a.started ++ [task] } := by
  obtain ⟨pool, hg, rfl⟩ := Option.map_eq_some_iff.mp h
  obtain ⟨hw, rfl⟩ := grant?_eq hg
  refine ⟨hw, ?_, rfl⟩
  by_contra hp
  simp [grant?, hp] at hg

theorem step?_lineUp (h : a.step? (.lineUp task) = some b) :
    task ∈ a.pool.waiting ∧ task ∉ a.pool.line ∧
      b = { a with pool := { a.pool with line := a.pool.line ++ [task] } } := by
  obtain ⟨pool, hp, rfl⟩ := Option.map_eq_some_iff.mp h
  obtain ⟨hw, hl, rfl⟩ := lineUp?_eq hp
  exact ⟨hw, hl, rfl⟩

theorem step?_finish (h : a.step? (.finish task how) = some b) :
    (task ∈ a.pool.active ∧ b = { a with
      pool := { a.pool with
        permits := a.pool.permits + 1
        active := a.pool.active.filter (· ≠ task) }
      ended := a.ended ++ [(task, how)] }) ∨
    (task ∈ a.pool.waiting ∧ how = .cancelled ∧ b = { a with
      pool := { a.pool with
        waiting := a.pool.waiting.filter (· ≠ task)
        line := a.pool.line.filter (· ≠ task) }
      ended := a.ended ++ [(task, how)] }) := by
  cases hmay : a.mayEnd task how with
  | false => simp [step?, hmay] at h
  | true =>
    simp only [step?, hmay, ↓reduceIte] at h
    cases h
    by_cases ha : task ∈ a.pool.active
    · exact .inl ⟨ha, by simp [Pool.finish, ha]⟩
    · have hw : how = .cancelled ∧ task ∈ a.pool.waiting := by simpa [mayEnd, ha] using hmay
      exact .inr ⟨hw.2, hw.1, by simp [Pool.finish, ha]⟩

theorem perm_cons_filter {l : List Nat} (hl : l.Nodup) (ht : task ∈ l) :
    l.Perm (task :: l.filter (· ≠ task)) := by
  have he : l.erase task = l.filter (· ≠ task) := by
    rw [hl.erase_eq_filter]
    exact List.filter_congr fun q _ => by simp [bne, beq_eq_decide]
  rw [← he]
  exact List.perm_cons_erase ht

theorem perm_moved {l : List Nat} (hl : l.Nodup) (ht : task ∈ l) (before after : List Nat) :
    (before ++ l.filter (· ≠ task) ++ (after ++ [task])).Perm (before ++ l ++ after) := by
  calc before ++ l.filter (· ≠ task) ++ (after ++ [task])
      = before ++ (l.filter (· ≠ task) ++ after ++ [task]) := by simp
    List.Perm _ (before ++ ([task] ++ (l.filter (· ≠ task) ++ after))) :=
      List.Perm.append_left _ List.perm_append_comm
    _ = before ++ (task :: l.filter (· ≠ task)) ++ after := by simp
    List.Perm _ (before ++ l ++ after) :=
      ((perm_cons_filter hl ht).symm.append_left _).append_right _

theorem not_mem_filter_ne {l : List Nat} : task ∉ l.filter (· ≠ task) := by
  intro h
  simpa using (List.mem_filter.mp h).2

theorem Balanced.nodup (h : a.Balanced n) : (a.pool.waiting ++ a.pool.active ++ a.gone).Nodup := by
  rw [h.places.nodup_iff, h.numbered]
  exact List.nodup_range

theorem Balanced.nodup_waiting (h : a.Balanced n) : a.pool.waiting.Nodup :=
  (List.nodup_append.mp (List.nodup_append.mp h.nodup).1).1

theorem Balanced.nodup_active (h : a.Balanced n) : a.pool.active.Nodup :=
  (List.nodup_append.mp (List.nodup_append.mp h.nodup).1).2.1

theorem balanced_ofCapacity (n : Nat) : (ofCapacity n).Balanced n where
  capacity := rfl
  permits := Nat.zero_add _
  numbered := rfl
  places := .nil
  line := ⟨.nil, nofun⟩
  once := .nil
  begun := nofun
  active := nofun
  cancelled := nofun

theorem Balanced.submit (h : a.Balanced n) (hs : a.step? .submit = some b) : b.Balanced n := by
  obtain ⟨-, rfl⟩ | ⟨-, rfl⟩ := step?_submit hs
  · exact h
  · have hnew : a.pool.accepted ∉ a.accepted := by
      rw [h.numbered]
      simp
    constructor
    · exact h.capacity
    · exact h.permits
    · change a.accepted ++ [a.pool.accepted] = List.range (a.pool.accepted + 1)
      rw [List.range_succ, ← h.numbered]
    · calc a.pool.waiting ++ [a.pool.accepted] ++ a.pool.active ++ a.gone
          = a.pool.waiting ++ ([a.pool.accepted] ++ (a.pool.active ++ a.gone)) := by simp
        List.Perm _ (a.pool.waiting ++ (a.pool.active ++ a.gone ++ [a.pool.accepted])) :=
          List.Perm.append_left _ List.perm_append_comm
        _ = a.pool.waiting ++ a.pool.active ++ a.gone ++ [a.pool.accepted] := by simp
        List.Perm _ (a.accepted ++ [a.pool.accepted]) := h.places.append_right _
    · exact ⟨h.line.nodup, fun k hk => List.mem_append_left _ (h.line.waiting k hk)⟩
    · exact h.once
    · intro k hk
      have hold := h.begun k hk
      refine ⟨List.mem_append_left _ hold.1, fun hw => ?_⟩
      rcases List.mem_append.mp hw with hw | hw
      · exact hold.2 hw
      · rw [List.mem_singleton.mp hw] at hold
        exact hnew hold.1
    · exact h.active
    · exact h.cancelled

theorem Balanced.lineUp (h : a.Balanced n) (hs : a.step? (.lineUp task) = some b) : b.Balanced n := by
  obtain ⟨hw, hl, rfl⟩ := step?_lineUp hs
  exact ⟨h.capacity, h.permits, h.numbered, h.places, h.line.lineUp hw hl, h.once, h.begun, h.active, h.cancelled⟩

theorem Balanced.grant (h : a.Balanced n) (hs : a.step? (.grant task) = some b) : b.Balanced n := by
  obtain ⟨hw, hpermits, rfl⟩ := step?_grant hs
  have hfresh : task ∉ a.started := fun hk => (h.begun task hk).2 hw
  have haccepted : task ∈ a.accepted :=
    h.places.mem_iff.mp (List.mem_append_left _ (List.mem_append_left _ hw))
  constructor
  · exact h.capacity
  · have hbalance := h.permits
    simp only [List.length_append, List.length_singleton]
    omega
  · exact h.numbered
  · exact ((perm_moved h.nodup_waiting hw [] a.pool.active).append_right a.gone).trans h.places
  · exact h.line.leave task
  · refine List.nodup_append.mpr ⟨h.once, List.pairwise_singleton _ _, fun k hk q hq hkq => ?_⟩
    rw [hkq, List.mem_singleton.mp hq] at hk
    exact hfresh hk
  · intro k hk
    rcases List.mem_append.mp hk with hk | hk
    · have hold := h.begun k hk
      exact ⟨hold.1, fun hm => hold.2 (List.mem_filter.mp hm).1⟩
    · rw [List.mem_singleton.mp hk]
      exact ⟨haccepted, not_mem_filter_ne⟩
  · intro k hk
    exact List.mem_append.mpr ((List.mem_append.mp hk).imp_left (h.active k))
  · intro k how hk
    exact (h.cancelled k how hk).imp_right (List.mem_append_left _)

theorem Balanced.finish (h : a.Balanced n) (hs : a.step? (.finish task how) = some b) :
    b.Balanced n := by
  have hgone : ∀ c : Account, c.ended = a.ended ++ [(task, how)] → c.gone = a.gone ++ [task] := by
    intro c hc
    simp [gone, hc]
  have hcancelled : how = .cancelled ∨ task ∈ a.started →
      ∀ k how', (k, how') ∈ a.ended ++ [(task, how)] → how' = .cancelled ∨ k ∈ a.started := by
    intro hend k how' hk
    rcases List.mem_append.mp hk with hk | hk
    · exact h.cancelled k how' hk
    · cases List.mem_singleton.mp hk
      exact hend
  obtain ⟨ha, rfl⟩ | ⟨hw, rfl, rfl⟩ := step?_finish hs
  · constructor
    · exact h.capacity
    · have hbalance := h.permits
      have hlength := (perm_cons_filter h.nodup_active ha).length_eq
      simp only [List.length_cons] at hlength ⊢
      omega
    · exact h.numbered
    · rw [hgone _ rfl]
      exact (perm_moved h.nodup_active ha a.pool.waiting a.gone).trans h.places
    · exact ⟨h.line.nodup, h.line.waiting⟩
    · exact h.once
    · exact h.begun
    · exact fun k hk => h.active k (List.mem_filter.mp hk).1
    · exact hcancelled (.inr (h.active task ha))
  · constructor
    · exact h.capacity
    · exact h.permits
    · exact h.numbered
    · rw [hgone _ rfl]
      have hmoved := perm_moved h.nodup_waiting hw [] (a.pool.active ++ a.gone)
      simp only [List.nil_append, ← List.append_assoc] at hmoved ⊢
      exact hmoved.trans h.places
    · exact h.line.leave task
    · exact h.once
    · intro k hk
      have hold := h.begun k hk
      exact ⟨hold.1, fun hm => hold.2 (List.mem_filter.mp hm).1⟩
    · exact h.active
    · exact hcancelled (.inl rfl)

theorem Balanced.step {e : Event} (h : a.Balanced n) (hs : a.step? e = some b) : b.Balanced n := by
  cases e with
  | submit => exact h.submit hs
  | lineUp task => exact h.lineUp hs
  | grant task => exact h.grant hs
  | finish task how => exact h.finish hs
  | shutdown =>
    cases hs
    exact ⟨h.capacity, h.permits, h.numbered, h.places, ⟨h.line.nodup, h.line.waiting⟩, h.once, h.begun, h.active,
      h.cancelled⟩

theorem balanced_of_run {events : List Event} (h : (ofCapacity n).run? events = some a) :
    a.Balanced n :=
  run?_keeps (P := (·.Balanced n)) (fun _ _ _ hb hs => hb.step hs) (balanced_ofCapacity n) h

theorem Balanced.place {k : Nat} (h : a.Balanced n) :
    k ∈ a.accepted ↔ k ∈ a.pool.waiting ∨ k ∈ a.pool.active ∨ k ∈ a.gone := by
  rw [← h.places.mem_iff, List.append_assoc, List.mem_append, List.mem_append]

/-- How many permits have still to be given and how many tasks have still to end. -/
def left (a : Account) : Nat := 2 * a.pool.waiting.length + a.pool.active.length

/-- When the pool goes on by itself, there is one thing less to do, and no task is forgotten. -/
theorem Balanced.progress {e : Event} (h : a.Balanced n) (he : e.isProgress = true)
    (hs : a.step? e = some b) :
    b.left + 1 = a.left ∧
    ∀ k, k ∈ a.pool.waiting ∨ k ∈ a.started → k ∈ b.pool.waiting ∨ k ∈ b.started := by
  cases e with
  | submit => cases he
  | lineUp task => cases he
  | shutdown => cases he
  | grant task =>
    obtain ⟨hw, -, rfl⟩ := step?_grant hs
    have hlength := (perm_cons_filter h.nodup_waiting hw).length_eq
    constructor
    · simp only [left, List.length_append, List.length_cons, List.length_nil] at hlength ⊢
      omega
    · rintro k (hk | hk)
      · by_cases hkt : k = task
        · exact .inr (List.mem_append_right _ (List.mem_singleton.mpr hkt))
        · exact .inl (List.mem_filter.mpr ⟨hk, by simpa using hkt⟩)
      · exact .inr (List.mem_append_left _ hk)
  | finish task how =>
    obtain ⟨ha, rfl⟩ | ⟨-, rfl, -⟩ := step?_finish hs
    · have hlength := (perm_cons_filter h.nodup_active ha).length_eq
      constructor
      · simp only [left, List.length_cons] at hlength ⊢
        omega
      · exact fun k hk => hk
    · cases he

/-- A pool that cannot go on by itself has no task left: there is a permit for the first task that
waits, or a task that can end. -/
theorem Balanced.stuck (h : a.Balanced n) (hs : ∀ e : Event, e.isProgress = true → a.step? e = none) :
    a.pool.waiting = [] ∧ a.pool.active = [] := by
  have hactive : a.pool.active = [] := by
    refine List.eq_nil_iff_forall_not_mem.mpr fun task ht => ?_
    have hend := hs (.finish task (.value ())) rfl
    simp [step?, mayEnd, ht] at hend
  refine ⟨List.eq_nil_iff_forall_not_mem.mpr fun task ht => ?_, hactive⟩
  have hgrant := hs (.grant task) rfl
  have hpermits : 0 < a.pool.permits := by
    have hbalance := h.permits
    rw [h.capacity, hactive, List.length_nil] at hbalance
    omega
  simp [step?, grant?, ht, hpermits] at hgrant

theorem Balanced.drain {events : List Event} (h : a.Balanced n)
    (he : ∀ e ∈ events, e.isProgress = true) (hr : a.run? events = some b) :
    events.length + b.left = a.left ∧
    ∀ k, k ∈ a.pool.waiting ∨ k ∈ a.started → k ∈ b.pool.waiting ∨ k ∈ b.started := by
  induction events generalizing a with
  | nil =>
    cases hr
    exact ⟨Nat.zero_add _, fun _ hk => hk⟩
  | cons e events ih =>
    rw [run?_cons] at hr
    obtain ⟨c, hc, hr⟩ := Option.bind_eq_some_iff.mp hr
    obtain ⟨hleft, hkept⟩ := h.progress (he e List.mem_cons_self) hc
    obtain ⟨hleft', hkept'⟩ := ih (h.step hc) (fun e' he' => he e' (List.mem_cons_of_mem _ he')) hr
    refine ⟨?_, fun k hk => hkept' k (hkept k hk)⟩
    rw [List.length_cons]
    omega

theorem step?_shutdown {e : Event} (h : a.pool.isShutdown = true) (hs : a.step? e = some b) :
    b.pool.isShutdown = true ∧ b.accepted = a.accepted := by
  cases e with
  | submit =>
    obtain ⟨-, rfl⟩ | ⟨hopen, -⟩ := step?_submit hs
    · exact ⟨h, rfl⟩
    · rw [h] at hopen
      cases hopen
  | lineUp task =>
    obtain ⟨-, -, rfl⟩ := step?_lineUp hs
    exact ⟨h, rfl⟩
  | grant task =>
    obtain ⟨-, -, rfl⟩ := step?_grant hs
    exact ⟨h, rfl⟩
  | finish task how =>
    obtain ⟨-, rfl⟩ | ⟨-, -, rfl⟩ := step?_finish hs
    · exact ⟨h, rfl⟩
    · exact ⟨h, rfl⟩
  | shutdown =>
    cases hs
    exact ⟨rfl, rfl⟩

end Account
end Resync.Pool

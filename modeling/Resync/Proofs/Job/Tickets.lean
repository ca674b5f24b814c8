import Resync.Proofs.Job.Runs

/-! # Tasks and their tickets

Every task that the pool has accepted has a ticket of its own, and the pool lists the ticket
until the task has ended. So when a pool that is shut down lists no ticket any longer, all its
tasks have ended, and it stays so.
-/
namespace Resync

namespace Pool

def Lists (p : Pool) (k : Nat) : Prop := k ∈ p.waiting ∨ k ∈ p.active

structure Lined (p : Pool) : Prop where
  nodup : p.line.Nodup
  waiting : ∀ k ∈ p.line, k ∈ p.waiting

/-- No permit is left over while a task stands in line. -/
def Fair (p : Pool) : Prop := p.line = [] ∨ p.permits = 0

structure Idle (p : Pool) : Prop where
  isShutdown : p.isShutdown = true
  waiting : p.waiting = []
  active : p.active = []

theorem isTerminated_iff {p : Pool} : p.isTerminated = true ↔ p.Idle := by
  unfold isTerminated outstanding
  constructor
  · intro h
    rw [Bool.and_eq_true, beq_iff_eq] at h
    exact ⟨h.1, List.length_eq_zero_iff.mp (by omega), List.length_eq_zero_iff.mp (by omega)⟩
  · rintro ⟨hs, hw, ha⟩
    simp [hs, hw, ha]

section Operations

variable {p p' : Pool} {k k' : Nat}

theorem grant?_eq (h : p.grant? k = some p') :
    k ∈ p.waiting ∧ p' = { p with
      permits := p.permits - 1
      waiting := p.waiting.filter (· ≠ k)
      line := p.line.filter (· ≠ k)
      active := p.active ++ [k] } := by
  unfold grant? at h
  split at h
  · rename_i hc
    cases h
    rw [Bool.and_eq_true] at hc
    exact ⟨List.contains_iff_mem.mp hc.1, rfl⟩
  · cases h

theorem grant?_lists (h : p.grant? k = some p') (hl : p.Lists k') : p'.Lists k' := by
  obtain ⟨-, rfl⟩ := grant?_eq h
  rcases hl with hl | hl
  · by_cases hk : k' = k
    · exact .inr (List.mem_append_right _ (List.mem_singleton.mpr hk))
    · exact .inl (List.mem_filter.mpr ⟨hl, by simpa using hk⟩)
  · exact .inr (List.mem_append_left _ hl)

theorem lineUp?_eq (h : p.lineUp? k = some p') :
    k ∈ p.waiting ∧ k ∉ p.line ∧ p' = { p with line := p.line ++ [k] } := by
  unfold lineUp? at h
  split at h
  · rename_i hc
    cases h
    simpa using hc
  · cases h

theorem finish_lists (hk : k' ≠ k) (hl : p.Lists k') : (p.finish k).Lists k' := by
  unfold finish
  split
  · rcases hl with hl | hl
    · exact .inl hl
    · exact .inr (List.mem_filter.mpr ⟨hl, by simpa using hk⟩)
  · rcases hl with hl | hl
    · exact .inl (List.mem_filter.mpr ⟨hl, by simpa using hk⟩)
    · exact .inr hl

theorem grantNext?_eq {k : Nat} (h : p.grantNext? = some (k, p')) :
    p.line.head? = some k ∧ p.grant? k = some p' := by
  unfold grantNext? at h
  simp only [Option.bind_eq_bind, Option.pure_def] at h
  obtain ⟨k₁, h₁, h⟩ := Option.bind_eq_some_iff.mp h
  obtain ⟨p₁, h₂, h⟩ := Option.bind_eq_some_iff.mp h
  cases h
  exact ⟨h₁, h₂⟩

theorem permits_of_grant?_eq_none (h : p.grant? k = none) (hk : k ∈ p.waiting) : p.permits = 0 := by
  refine Classical.byContradiction fun hp => ?_
  simp [grant?, hk, Nat.pos_of_ne_zero hp] at h

theorem finish_line_of_nil (h : p.line = []) : (p.finish k).line = [] := by
  unfold finish
  split
  · exact h
  · rw [h]
    rfl

theorem finish_permits_le (p : Pool) (k : Nat) : (p.finish k).permits ≤ p.permits + 1 := by
  unfold finish
  split
  · exact Nat.le_refl _
  · exact Nat.le_succ _

theorem Fair.grant? (h : p.Fair) (hg : p.grant? k = some p') : p'.Fair := by
  obtain ⟨-, rfl⟩ := grant?_eq hg
  rcases h with hl | hp
  · exact .inl (by rw [hl]; rfl)
  · exact .inr (by rw [hp])

theorem fair_of_lineUp? (hg : p.grant? k = none) (hp : p.lineUp? k = some p') : p'.Fair := by
  obtain ⟨hw, -, rfl⟩ := lineUp?_eq hp
  have hnone : p.permits = 0 := permits_of_grant?_eq_none hg hw
  exact .inr hnone

theorem Lined.lineUp (h : p.Lined) (hw : k ∈ p.waiting) (hl : k ∉ p.line) :
    Lined { p with line := p.line ++ [k] } := by
  constructor
  · refine List.nodup_append.mpr ⟨h.nodup, List.pairwise_singleton _ _, fun k' hk' q hq he => ?_⟩
    rw [he, List.mem_singleton.mp hq] at hk'
    exact hl hk'
  · intro k' hk'
    rcases List.mem_append.mp hk' with hk' | hk'
    · exact h.waiting k' hk'
    · rwa [List.mem_singleton.mp hk']

theorem Lined.leave (h : p.Lined) (k : Nat) {permits : Nat} {active : List Nat} :
    Lined { p with
      permits
      waiting := p.waiting.filter (· ≠ k)
      line := p.line.filter (· ≠ k)
      active } := by
  refine ⟨h.nodup.filter _, fun k' hk' => ?_⟩
  obtain ⟨hl, hne⟩ := List.mem_filter.mp hk'
  exact List.mem_filter.mpr ⟨h.waiting k' hl, hne⟩

theorem Lined.finish (h : p.Lined) (k : Nat) : (p.finish k).Lined := by
  unfold Pool.finish
  split
  · exact ⟨h.nodup, h.waiting⟩
  · exact h.leave k

theorem Lined.fair_of_grantNext?_eq_none (h : p.Lined) (hg : p.grantNext? = none) : p.Fair := by
  cases hl : p.line with
  | nil => exact .inl hl
  | cons k line =>
    have hk : k ∈ p.waiting := h.waiting k (by rw [hl]; exact List.mem_cons_self)
    refine .inr (permits_of_grant?_eq_none (Option.eq_none_iff_forall_ne_some.mpr ?_) hk)
    simpa [grantNext?, hl] using hg

end Operations

end Pool

namespace Job

variable {ν τ : Type} {j j' : Job ν τ} {m : Move} {p : ProcessId} {s : Process ν τ}
  {ticket : Option Nat} {inSpan : Bool}

theorem poolAfter_cases (j : Job ν τ) (ticket : Option Nat) :
    (ticket = none ∧ j.poolAfter ticket = j.pool) ∨
    ∃ k, ticket = some k ∧ (j.poolAfter ticket = j.pool.finish k ∨
      ∃ next, (j.pool.finish k).grant? next = some (j.poolAfter ticket)) := by
  cases ticket with
  | none => exact .inl ⟨rfl, rfl⟩
  | some k =>
    refine .inr ⟨k, rfl, ?_⟩
    unfold poolAfter
    simp only
    cases hg : (j.pool.finish k).grantNext? with
    | none => exact .inl rfl
    | some r => exact .inr ⟨r.1, (Pool.grantNext?_eq hg).2⟩

theorem poolAfter_accepted (j : Job ν τ) (ticket : Option Nat) :
    (j.poolAfter ticket).accepted = j.pool.accepted := by
  have hf : ∀ k, (j.pool.finish k).accepted = j.pool.accepted := by
    intro k
    unfold Pool.finish
    split <;> rfl
  rcases j.poolAfter_cases ticket with ⟨-, h⟩ | ⟨k, -, h | ⟨next, h⟩⟩
  · rw [h]
  · rw [h, hf]
  · rw [(Pool.grant?_eq h).2]
    exact hf k

theorem poolAfter_lists {k : Nat} (hk : ticket ≠ some k) (hl : j.pool.Lists k) :
    (j.poolAfter ticket).Lists k := by
  rcases j.poolAfter_cases ticket with ⟨-, h⟩ | ⟨k', rfl, h | ⟨next, h⟩⟩
  · rw [h]
    exact hl
  · rw [h]
    exact Pool.finish_lists (fun he => hk (he ▸ rfl)) hl
  · exact Pool.grant?_lists h (Pool.finish_lists (fun he => hk (he ▸ rfl)) hl)

theorem poolAfter_idle (h : j.pool.Idle) (ticket : Option Nat) : (j.poolAfter ticket).Idle := by
  have hf : ∀ k, (j.pool.finish k).Idle := by
    intro k
    unfold Pool.finish
    split
    · exact ⟨h.isShutdown, h.waiting, by simp [h.active]⟩
    · exact ⟨h.isShutdown, by simp [h.waiting], h.active⟩
  rcases j.poolAfter_cases ticket with ⟨-, he⟩ | ⟨k, -, he | ⟨next, hg⟩⟩
  · rw [he]
    exact h
  · rw [he]
    exact hf k
  · have hm := (Pool.grant?_eq hg).1
    rw [(hf k).waiting] at hm
    cases hm

/-- Tickets are given to one task each, and listed by the pool until the task has ended. -/
structure Staffed (j : Job ν τ) : Prop where
  below : ∀ (q : ProcessId) (t : Task ν τ) (k : Nat), j.tasks[q]? = some t → t.ticket = some k →
    k < j.pool.accepted
  unique : ∀ (q q' : ProcessId) (t t' : Task ν τ) (k : Nat), j.tasks[q]? = some t →
    j.tasks[q']? = some t' → t.ticket = some k → t'.ticket = some k → q = q'
  listed : ∀ (q : ProcessId) (t : Task ν τ) (k : Nat), j.tasks[q]? = some t → t.ticket = some k →
    (∀ o, t.process ≠ .ended o) → j.pool.Lists k

theorem task_setProcess {q : ProcessId} {t : Task ν τ} {s' : Process ν τ}
    (ht : j.tasks[p]? = some ⟨s, ticket, inSpan⟩) (hq : (j.setProcess p s').tasks[q]? = some t) :
    q = p ∧ t = ⟨s', ticket, inSpan⟩ ∨ q ≠ p ∧ j.tasks[q]? = some t := by
  simp only [setProcess, List.getElem?_modify] at hq
  by_cases h : q = p
  · subst h
    simp only [ht, ↓reduceIte, Option.map_eq_map, Option.map_some, Option.some.injEq] at hq
    exact .inl ⟨rfl, hq.symm⟩
  · have h' : ¬ p = q := fun e => h e.symm
    simp only [h', ↓reduceIte, Option.map_eq_map, Option.map_id'] at hq
    exact .inr ⟨h, hq⟩

/-- A process goes on to `s'`, and the pool may stop listing its ticket if that is the end. -/
theorem Staffed.set {j₁ : Job ν τ} {s' : Process ν τ} (h : j.Staffed)
    (ht : j.tasks[p]? = some ⟨s, ticket, inSpan⟩) (hs : ∀ o, s ≠ .ended o)
    (h₁ : j₁.tasks = j.tasks) (ha : j₁.pool.accepted = j.pool.accepted)
    (hl : ∀ k, j.pool.Lists k → j₁.pool.Lists k ∨ ticket = some k ∧ ∃ o, s' = .ended o) :
    (j₁.setProcess p s').Staffed := by
  have ht₁ : j₁.tasks[p]? = some ⟨s, ticket, inSpan⟩ := by rw [h₁, ht]
  have hold : ∀ (q : ProcessId) (t : Task ν τ), (j₁.setProcess p s').tasks[q]? = some t →
      ∃ t' : Task ν τ, j.tasks[q]? = some t' ∧ t'.ticket = t.ticket := by
    intro q t hq
    rcases task_setProcess ht₁ hq with ⟨rfl, rfl⟩ | ⟨-, hq⟩
    · exact ⟨_, ht, rfl⟩
    · rw [h₁] at hq
      exact ⟨t, hq, rfl⟩
  constructor
  · intro q t k hq hk
    obtain ⟨t', hq', hk'⟩ := hold q t hq
    have hb := h.below q t' k hq' (hk'.trans hk)
    simp only [setProcess_pool]
    omega
  · intro q q' t t' k hq hq' hk hk'
    obtain ⟨u, hu, hku⟩ := hold q t hq
    obtain ⟨u', hu', hku'⟩ := hold q' t' hq'
    exact h.unique q q' u u' k hu hu' (hku.trans hk) (hku'.trans hk')
  · intro q t k hq hk hn
    rcases task_setProcess ht₁ hq with ⟨rfl, rfl⟩ | ⟨hqp, hq⟩
    · rcases hl k (h.listed q _ k ht hk hs) with hl | ⟨-, o, ho⟩
      · exact hl
      · exact absurd ho (hn o)
    · rw [h₁] at hq
      rcases hl k (h.listed q t k hq hk hn) with hl | ⟨hk', -⟩
      · exact hl
      · exact absurd (h.unique q p t _ k hq ht hk hk') hqp

theorem Staffed.accept (h : j.Staffed) (body : Program ν τ) : (j.accept body).Staffed := by
  have hcases : ∀ q t, (j.accept body).tasks[q]? = some t →
      j.tasks[q]? = some t ∨ q = j.tasks.length ∧ t.ticket = some j.pool.accepted := by
    intro q t hq
    exact (task_accept hq).imp_right fun ⟨hlast, ht⟩ => ⟨hlast, congrArg Task.ticket ht⟩
  constructor
  · intro q t k hq hk
    change k < j.pool.accepted + 1
    rcases hcases q t hq with hq | ⟨-, hq⟩
    · exact Nat.lt_succ_of_lt (h.below q t k hq hk)
    · rw [hk] at hq
      cases hq
      exact Nat.lt_succ_self _
  · intro q q' t t' k hq hq' hk hk'
    rcases hcases q t hq with ho | ⟨hlast, hn⟩
    · rcases hcases q' t' hq' with ho' | ⟨-, hn'⟩
      · exact h.unique q q' t t' k ho ho' hk hk'
      · rw [hk'] at hn'
        cases hn'
        exact absurd (h.below q t _ ho hk) (Nat.lt_irrefl _)
    · rcases hcases q' t' hq' with ho' | ⟨hlast', -⟩
      · rw [hk] at hn
        cases hn
        exact absurd (h.below q' t' _ ho' hk') (Nat.lt_irrefl _)
      · rw [hlast, hlast']
  · intro q t k hq hk hn
    rcases hcases q t hq with hq | ⟨-, hq⟩
    · rcases h.listed q t k hq hk hn with hl | hl
      · exact .inl (List.mem_append_left _ hl)
      · exact .inr hl
    · rw [hk] at hq
      cases hq
      exact .inl (List.mem_append_right _ List.mem_cons_self)

theorem Rule.staffed (ht : j.tasks[p]? = some ⟨s, ticket, inSpan⟩) (hr : Rule j p ticket inSpan s j')
    (h : j.Staffed) : j'.Staffed := by
  have hs := hr.not_ended
  have hkeep : ∀ (j₁ : Job ν τ) (s' : Process ν τ), j₁.tasks = j.tasks → j₁.pool = j.pool →
      (j₁.setProcess p s').Staffed := by
    intro j₁ s' h₁ hp
    exact h.set ht hs h₁ (by rw [hp]) fun k hk => .inl (by rw [hp]; exact hk)
  have hend : ∀ (o : Outcome τ),
      ({ j with pool := j.poolAfter ticket }.setProcess p (.ended o)).Staffed := by
    intro o
    refine h.set ht hs rfl (poolAfter_accepted j ticket) fun k hk => ?_
    by_cases hkt : ticket = some k
    · exact .inr ⟨hkt, o, rfl⟩
    · exact .inl (poolAfter_lists hkt hk)
  have htimer : ∀ (j₁ : Job ν τ) (due : Nat), j₁.Staffed → (j₁.setTimer p due).Staffed := by
    intro j₁ due h₁
    obtain ⟨timers, hj⟩ := j₁.setTimer_eq p due
    rw [hj]
    exact ⟨h₁.below, h₁.unique, h₁.listed⟩
  cases hr with
  | start hk hp =>
    rcases hp with ⟨rfl, -⟩ | hg
    · exact hkeep _ _ rfl rfl
    · refine h.set ht hs rfl ?_ fun k hk => .inl (Pool.grant?_lists hg hk)
      rw [(Pool.grant?_eq hg).2]
  | lineUp hk hg hp =>
    rw [(Pool.lineUp?_eq hp).2.2]
    exact h.set ht hs rfl rfl fun k hk => .inl hk
  | finish => exact hend _
  | panic => exact hend _
  | @accept body next _ =>
    exact (h.accept body).set (Job.getElem?_accept ht body) hs rfl rfl fun k hk => .inl hk
  | shutdown => exact h.set ht hs rfl rfl fun k hk => .inl hk
  | sleep => exact htimer _ _ (hkeep _ _ rfl rfl)
  | await hd => exact htimer _ _ (hkeep _ _ rfl rfl)
  | visitReady hi hc => exact hkeep _ _ (by rw [release_eq]) (by rw [release_eq])
  | lingerReady hc => exact hkeep _ _ (by rw [release_eq]) (by rw [release_eq])
  | _ => exact hkeep _ _ rfl rfl

theorem Change.staffed (hc : Change j m j') (h : j.Staffed) : j'.Staffed := by
  cases hc with
  | step ht hr => exact hr.staffed ht h
  | elapse => exact ⟨h.below, h.unique, h.listed⟩
  | signal => exact ⟨h.below, h.unique, h.listed⟩
  | @leave p s ticket inSpan timers ht hs =>
    refine h.set ht hs rfl (poolAfter_accepted j ticket) fun k hk => ?_
    by_cases hkt : ticket = some k
    · exact .inr ⟨hkt, _, rfl⟩
    · exact .inl (poolAfter_lists hkt hk)
  | idle => exact h

def Employed (main : ProcessId) (j : Job ν τ) : Prop :=
  ∀ (q : ProcessId) (t : Task ν τ), j.tasks[q]? = some t → q ≠ main → ∃ k, t.ticket = some k

theorem Employed.set {main : ProcessId} {s' : Process ν τ} (h : j.Employed main) :
    (j.setProcess p s').Employed main := by
  intro q t hq hne
  simp only [setProcess, List.getElem?_modify] at hq
  obtain ⟨t', ht', rfl⟩ := Option.map_eq_some_iff.mp hq
  obtain ⟨k, hk⟩ := h q t' ht' hne
  refine ⟨k, ?_⟩
  split
  · exact hk
  · exact hk

theorem Employed.accept {main : ProcessId} (h : j.Employed main) (body : Program ν τ) :
    (j.accept body).Employed main := by
  intro q t hq hne
  rcases task_accept hq with hq | ⟨-, rfl⟩
  · exact h q t hq hne
  · exact ⟨_, rfl⟩

theorem Change.employed {main : ProcessId} (hc : Change j m j') (h : j.Employed main) :
    j'.Employed main := by
  cases hc with
  | step ht hr =>
    intro q t hq
    obtain ⟨s', -, htasks | ⟨body, next, -, htasks⟩⟩ := hr.tasks
    · rw [htasks] at hq
      exact h.set q t hq
    · rw [htasks] at hq
      exact (h.accept body).set q t hq
  | elapse => exact h
  | signal => exact h
  | @leave p s ticket inSpan timers ht hs =>
    have hset : (j.setProcess p (.ended .cancelled)).Employed main := h.set
    exact hset
  | idle => exact h

def Quiet (main : ProcessId) (j : Job ν τ) : Prop :=
  ∀ q s, q ≠ main → j.process? q = some s → ∃ o, s = .ended o

theorem Staffed.quiet {main : ProcessId} (h : j.Staffed) (he : j.Employed main) (hi : j.pool.Idle) :
    j.Quiet main := by
  intro q s hq hs
  obtain ⟨t, ht, rfl⟩ := Option.map_eq_some_iff.mp hs
  obtain ⟨k, hk⟩ := he q t ht hq
  refine Classical.byContradiction fun hn => ?_
  rcases h.listed q t k ht hk fun o ho => hn ⟨o, ho⟩ with hl | hl
  · rw [hi.waiting] at hl
    cases hl
  · rw [hi.active] at hl
    cases hl

/-- When all others have ended, nothing happens at the pool or the registry but by `main`. -/
theorem Quiet.others {main : ProcessId} (h : j.Quiet main) (hc : Change j m j')
    (hm : ∀ k, m ≠ .step main k) :
    j'.Quiet main ∧ j'.opened = j.opened ∧ j'.registry.closed = j.registry.closed ∧
      (j.pool.Idle → j'.pool.Idle) := by
  cases hc with
  | @step p k s ticket inSpan j' ht hr =>
    have hp : p ≠ main := by
      rintro rfl
      exact hm k rfl
    obtain ⟨o, rfl⟩ := h p s hp (process?_of_task ht)
    cases hr with
    | fail hs | fill hs => cases hs
  | elapse => exact ⟨h, rfl, rfl, id⟩
  | signal => exact ⟨h, rfl, rfl, id⟩
  | @leave p s ticket inSpan timers ht hs =>
    by_cases hp : p = main
    · subst hp
      refine ⟨fun q t hq hqt => ?_, rfl, ?_, fun hi => poolAfter_idle hi ticket⟩
      · rw [process?_setProcess, if_neg hq] at hqt
        exact h q t hq hqt
      · cases s.cell? <;> rfl
    · obtain ⟨o, ho⟩ := h p s hp (process?_of_task ht)
      exact absurd ho (hs o)
  | idle => exact ⟨h, rfl, rfl, id⟩

end Job
end Resync

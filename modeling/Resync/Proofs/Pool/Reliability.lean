import Resync.Proofs.Pool.Account

/-! # What can be relied on at a pool

Whatever happens at a pool, in whatever order, no more tasks run than it has permits, none gets a
permit twice, none is lost when the pool is shut down, and a wait for its end is over only when
all its tasks have ended. The interleavings of a job are nothing else to its pool.
-/
namespace Resync

def Outcome.manner {τ : Type} : Outcome τ → Outcome Unit
  | value _ => .value ()
  | panicked => .panicked
  | cancelled => .cancelled

namespace Job

open Pool (Account)

variable {ν τ : Type} {n : Nat} {a b : Account} {j j₁ j' : Job ν τ} {m : Move} {p : ProcessId}
  {s s' : Process ν τ} {ticket : Option Nat} {inSpan : Bool}

structure Tells (a : Account) (ticket : Nat) (s : Process ν τ) : Prop where
  accepted : ticket ∈ a.accepted
  started : ticket ∈ a.started ∨ (∃ body, s = .fresh body) ∨ s = .ended .cancelled
  ended : ∀ how, (ticket, how) ∈ a.ended ↔ ∃ o : Outcome τ, s = .ended o ∧ o.manner = how

structure Accounted (a : Account) (j : Job ν τ) : Prop where
  pool : a.pool = j.pool
  task : ∀ k ∈ a.accepted, ∃ (q : ProcessId) (t : Task ν τ), j.tasks[q]? = some t ∧ t.ticket = some k
  tells : ∀ (q : ProcessId) (t : Task ν τ) (k : Nat), j.tasks[q]? = some t → t.ticket = some k →
    Tells a k t.process

theorem Tells.active {k : Nat} (h : Tells a k s) (hb : a.Balanced n) (hf : ∀ body, s ≠ .fresh body)
    (hn : ∀ o, s ≠ .ended o) : k ∈ a.pool.active := by
  have hstarted : k ∈ a.started := by
    rcases h.started with hk | ⟨body, hk⟩ | hk
    · exact hk
    · exact absurd hk (hf body)
    · exact absurd hk (hn _)
  have hgone : k ∉ a.gone := by
    intro hk
    obtain ⟨⟨k', how⟩, hmem, rfl⟩ := List.mem_map.mp hk
    obtain ⟨o, ho, -⟩ := (h.ended how).mp hmem
    exact hn o ho
  rcases hb.place.mp h.accepted with hk | hk | hk
  · exact absurd hk (hb.begun k hstarted).2
  · exact hk
  · exact absurd hk hgone

theorem Accounted.set (h : j.Accounted a) (ht : j.tasks[p]? = some ⟨s, ticket, inSpan⟩)
    (h₁ : j₁.tasks = j.tasks) (hpool : b.pool = j₁.pool) (haccepted : b.accepted = a.accepted)
    (hstarted : ∀ k ∈ a.started, k ∈ b.started)
    (hown : ∀ k, ticket = some k → Tells b k s')
    (hothers : ∀ k how, ticket ≠ some k → ((k, how) ∈ b.ended ↔ (k, how) ∈ a.ended))
    (hs : j.Staffed) : (j₁.setProcess p s').Accounted b := by
  have ht₁ : j₁.tasks[p]? = some ⟨s, ticket, inSpan⟩ := by rw [h₁, ht]
  constructor
  · exact hpool
  · intro k hk
    rw [haccepted] at hk
    obtain ⟨q, t, hq, hkt⟩ := h.task k hk
    rw [← h₁] at hq
    by_cases hqp : q = p
    · subst hqp
      rw [ht₁] at hq
      cases hq
      exact ⟨q, ⟨s', ticket, inSpan⟩, by simp [setProcess, ht₁], hkt⟩
    · refine ⟨q, t, ?_, hkt⟩
      simp [setProcess, Ne.symm hqp, hq]
  · intro q t k hq hk
    rcases task_setProcess ht₁ hq with ⟨rfl, rfl⟩ | ⟨hqp, hq⟩
    · exact hown k hk
    · rw [h₁] at hq
      have hold := h.tells q t k hq hk
      have hne : ticket ≠ some k := fun he => hqp (hs.unique q p t _ k hq ht hk he)
      refine ⟨haccepted ▸ hold.accepted, hold.started.imp_left (hstarted k), fun how => ?_⟩
      rw [hothers k how hne]
      exact hold.ended how

theorem Accounted.go (h : j.Accounted a) (ht : j.tasks[p]? = some ⟨s, ticket, inSpan⟩)
    (hs : j.Staffed) (hn : ∀ o, s ≠ .ended o) (hf : ∀ body, s ≠ .fresh body)
    (hn' : ∀ o, s' ≠ .ended o) (h₁ : j₁.tasks = j.tasks) (hpool : b.pool = j₁.pool)
    (ha : b = { a with pool := b.pool }) : (j₁.setProcess p s').Accounted b := by
  have haccepted : b.accepted = a.accepted := by rw [ha]
  have hstarted : b.started = a.started := by rw [ha]
  have hended : b.ended = a.ended := by rw [ha]
  refine h.set ht h₁ hpool haccepted (fun k hk => hstarted ▸ hk) (fun k hk => ?_)
    (fun k how _ => by rw [hended]) hs
  have hold := h.tells p _ k ht hk
  refine ⟨haccepted ▸ hold.accepted, ?_, fun how => ?_⟩
  · rcases hold.started with hk | ⟨body, hk⟩ | hk
    · exact .inl (hstarted ▸ hk)
    · exact absurd hk (hf body)
    · exact absurd hk (hn _)
  · rw [hended, hold.ended how]
    constructor
    · rintro ⟨o, ho, -⟩
      exact absurd ho (hn o)
    · rintro ⟨o, ho, -⟩
      exact absurd ho (hn' o)

/-- A task whose process has not ended may end. Only one that is cancelled may do so while it waits
for its permit. -/
theorem Accounted.mayEnd {k : Nat} (h : j.Accounted a)
    (ht : j.tasks[p]? = some ⟨s, some k, inSpan⟩) (hs : j.Staffed) (hb : a.Balanced n)
    (hn : ∀ o, s ≠ .ended o) {o : Outcome τ} (ho : o = .cancelled ∨ ∀ body, s ≠ .fresh body) :
    a.mayEnd k o.manner = true := by
  rcases ho with rfl | hf
  · have hl := hs.listed p _ k ht rfl hn
    rw [← h.pool] at hl
    rcases hl with hw | ha
    · simp [Account.mayEnd, Outcome.manner, hw]
    · simp [Account.mayEnd, ha]
  · have ha := (h.tells p _ k ht rfl).active hb hf hn
    simp [Account.mayEnd, ha]

theorem Tells.ending {k : Nat} {o : Outcome τ} (h : Tells a k s) (hn : ∀ o, s ≠ .ended o)
    (ho : o = .cancelled ∨ ∀ body, s ≠ .fresh body) (haccepted : b.accepted = a.accepted)
    (hstarted : ∀ k ∈ a.started, k ∈ b.started) (hended : b.ended = a.ended ++ [(k, o.manner)]) :
    Tells b k (.ended o : Process ν τ) := by
  refine ⟨haccepted ▸ h.accepted, ?_, fun how => ?_⟩
  · rcases h.started with hk | ⟨body, hbody⟩ | he
    · exact .inl (hstarted k hk)
    · rcases ho with rfl | hf
      · exact .inr (.inr rfl)
      · exact absurd hbody (hf body)
    · exact absurd he (hn _)
  · have hnot : (k, how) ∉ a.ended := by
      intro hmem
      obtain ⟨o', ho', -⟩ := (h.ended how).mp hmem
      exact hn o' ho'
    rw [hended, List.mem_append, List.mem_singleton]
    constructor
    · rintro (hmem | hmem)
      · exact absurd hmem hnot
      · cases hmem
        exact ⟨o, rfl, rfl⟩
    · rintro ⟨o', ho', rfl⟩
      cases ho'
      exact .inr rfl

theorem Accounted.ending (h : j.Accounted a) (ht : j.tasks[p]? = some ⟨s, ticket, inSpan⟩)
    (hs : j.Staffed) (hb : a.Balanced n) (hn : ∀ o, s ≠ .ended o) (o : Outcome τ)
    (ho : o = .cancelled ∨ ∀ body, s ≠ .fresh body) (h₁ : j₁.tasks = j.tasks)
    (hpool : j₁.pool = j.poolAfter ticket) :
    ∃ events b, a.run? events = some b ∧ (j₁.setProcess p (.ended o)).Accounted b := by
  cases ticket with
  | none =>
    refine ⟨[], a, rfl, h.set ht h₁ (h.pool.trans hpool.symm) rfl (fun _ hk => hk) nofun
      (fun _ _ _ => .rfl) hs⟩
  | some k =>
    have hset : ∀ b : Account, b.pool = j₁.pool → b.accepted = a.accepted →
        (∀ k ∈ a.started, k ∈ b.started) → b.ended = a.ended ++ [(k, o.manner)] →
        (j₁.setProcess p (.ended o)).Accounted b := by
      intro b hbp haccepted hstarted hended
      refine h.set ht h₁ hbp haccepted hstarted (fun k' hk' => ?_) (fun k' how hne => ?_) hs
      · cases hk'
        exact (h.tells p _ k ht rfl).ending hn ho haccepted hstarted hended
      · have hkk : k' ≠ k := fun he => hne (by rw [he])
        simp [hended, hkk]
    have hstep : a.step? (.finish k o.manner) = some
        { a with pool := a.pool.finish k, ended := a.ended ++ [(k, o.manner)] } := by
      simp [Account.step?, h.mayEnd ht hs hb hn ho]
    rcases j.poolAfter_cases (some k) with ⟨hk, -⟩ | ⟨k', hk, hafter | ⟨next, hafter⟩⟩
    · cases hk
    · cases hk
      refine ⟨_, _, Account.run?_single hstep, hset _ ?_ rfl (fun _ hk => hk) rfl⟩
      rw [hpool, hafter, h.pool]
    · cases hk
      -- the permit goes on to the next task in the same step, so there are two events
      have hgrant := hafter
      rw [← h.pool] at hgrant
      refine ⟨[.finish k o.manner, .grant next],
        { a with
          pool := j.poolAfter (some k)
          started := a.started ++ [next]
          ended := a.ended ++ [(k, o.manner)] }, ?_,
        hset _ hpool.symm rfl (fun _ hk => List.mem_append_left _ hk) rfl⟩
      rw [Account.run?_cons, hstep]
      exact Account.run?_single (Account.step?_grant_of_granted hgrant)

theorem Accounted.accept (h : j.Accounted a) (hb : a.Balanced n) (body : Program ν τ) :
    (j.accept body).Accounted { a with
      pool := { a.pool with
        accepted := a.pool.accepted + 1
        waiting := a.pool.waiting ++ [a.pool.accepted] }
      accepted := a.accepted ++ [a.pool.accepted] } := by
  have hpool := h.pool
  constructor
  · simp only [Job.accept, hpool]
  · intro k hk
    rcases List.mem_append.mp hk with hk | hk
    · obtain ⟨q, t, hq, hkt⟩ := h.task k hk
      exact ⟨q, t, Job.getElem?_accept hq body, hkt⟩
    · rw [List.mem_singleton.mp hk]
      refine ⟨j.tasks.length, ⟨.fresh body, some j.pool.accepted, false⟩, ?_, by rw [hpool]⟩
      simp [Job.accept]
  · intro q t k hq hk
    rcases Job.task_accept hq with hq | ⟨-, rfl⟩
    · have hold := h.tells q t k hq hk
      exact ⟨List.mem_append_left _ hold.accepted, hold.started, hold.ended⟩
    · cases hk
      have hnew : j.pool.accepted ∉ a.accepted := by
        rw [hb.numbered, hpool]
        simp
      refine ⟨List.mem_append_right _ (by rw [hpool]; exact List.mem_singleton_self _),
        .inr (.inl ⟨body, rfl⟩), fun how => ?_⟩
      constructor
      · intro hmem
        exact absurd (hb.place.mpr (.inr (.inr (List.mem_map_of_mem hmem)))) hnew
      · rintro ⟨o, ho, -⟩
        cases ho

theorem Accounted.lineUp {body : Program ν τ} {k : Nat} {pool : Pool} (h : j.Accounted a)
    (ht : j.tasks[p]? = some ⟨.fresh body, ticket, inSpan⟩) (hs : j.Staffed) (hk : ticket = some k)
    (hp : j.pool.lineUp? k = some pool) :
    ∃ events b, a.run? events = some b ∧ ({ j with pool }.setProcess p (.fresh body)).Accounted b := by
  have hold := h.tells p _ k ht hk
  rw [← h.pool] at hp
  refine ⟨[.lineUp k], { a with pool }, ?_, ?_⟩
  · exact Account.run?_single (by simp only [Account.step?, hp, Option.map_some])
  · refine h.set ht rfl rfl rfl (fun _ hk => hk) (fun k' hk' => ?_) (fun _ _ _ => .rfl) hs
    rw [hk] at hk'
    cases hk'
    exact ⟨hold.accepted, hold.started, hold.ended⟩

theorem Rule.account (ht : j.tasks[p]? = some ⟨s, ticket, inSpan⟩) (hr : Rule j p ticket inSpan s j')
    (hs : j.Staffed) (hb : a.Balanced n) (h : j.Accounted a) :
    ∃ events b, a.run? events = some b ∧ j'.Accounted b := by
  have hn := hr.not_ended
  have hgo : ∀ (j₁ : Job ν τ) (s' : Process ν τ), (∀ body, s ≠ .fresh body) →
      (∀ o, s' ≠ .ended o) → j₁.tasks = j.tasks → j₁.pool = j.pool →
      ∃ events b, a.run? events = some b ∧ (j₁.setProcess p s').Accounted b := by
    intro j₁ s' hf hn' h₁ hp
    exact ⟨[], a, rfl, h.go ht hs hn hf hn' h₁ (h.pool.trans hp.symm) rfl⟩
  have htimer : ∀ (j₁ : Job ν τ) (due : Nat), (∃ events b, a.run? events = some b ∧ j₁.Accounted b) →
      ∃ events b, a.run? events = some b ∧ (j₁.setTimer p due).Accounted b := by
    rintro j₁ due ⟨events, b, hrun, hacc⟩
    obtain ⟨timers, hj⟩ := j₁.setTimer_eq p due
    rw [hj]
    exact ⟨events, b, hrun, hacc.pool, hacc.task, hacc.tells⟩
  cases hr with
  | @start body k pool hk hp =>
    have hold := h.tells p _ k ht hk
    have hbegin : ∀ b : Account, b.pool = pool → b.accepted = a.accepted → b.ended = a.ended →
        (∀ k ∈ a.started, k ∈ b.started) → k ∈ b.started →
        ({ j with pool }.setProcess p (.running body)).Accounted b := by
      intro b hbp haccepted hended hstarted hkb
      refine h.set ht rfl hbp haccepted hstarted (fun k' hk' => ?_) (fun k' how _ => by rw [hended]) hs
      rw [hk] at hk'
      cases hk'
      refine ⟨haccepted ▸ hold.accepted, .inl hkb, fun how => ?_⟩
      rw [hended, hold.ended how]
      constructor
      · rintro ⟨o, ho, -⟩
        cases ho
      · rintro ⟨o, ho, -⟩
        cases ho
    rcases hp with ⟨rfl, hactive⟩ | hg
    · rw [← h.pool] at hactive
      exact ⟨[], a, rfl, hbegin a h.pool rfl rfl (fun _ hk => hk) (hb.active k hactive)⟩
    · rw [← h.pool] at hg
      exact ⟨_, _, Account.run?_single (Account.step?_grant_of_granted hg), hbegin _ rfl rfl rfl
        (fun _ hk => List.mem_append_left _ hk) (List.mem_append_right _ (List.mem_singleton_self k))⟩
  | lineUp hk hg hp => exact h.lineUp ht hs hk hp
  | finish => exact h.ending ht hs hb hn _ (.inr nofun) rfl rfl
  | panic => exact h.ending ht hs hb hn _ (.inr nofun) rfl rfl
  | @accept body next hopen =>
    have ha := Job.getElem?_accept ht body
    rw [← h.pool] at hopen
    exact ⟨[.submit], _, Account.run?_single (Account.step?_submit_of_open hopen),
      (h.accept hb body).go ha (hs.accept body) hn nofun nofun rfl (h.accept hb body).pool rfl⟩
  | shutdown =>
    refine ⟨[.shutdown], { a with pool := a.pool.shutdown }, rfl,
      h.go ht hs hn nofun nofun rfl ?_ rfl⟩
    change a.pool.shutdown = j.pool.shutdown
    rw [h.pool]
  | sleep => exact htimer _ _ (hgo _ _ nofun nofun rfl rfl)
  | await hd => exact htimer _ _ (hgo _ _ nofun nofun rfl rfl)
  | fail hset ha => exact hgo _ _ (by rintro body rfl; cases hset) nofun rfl rfl
  | fill hset ha => exact hgo _ _ (by rintro body rfl; cases hset) nofun rfl rfl
  | visitReady hi hc => exact hgo _ _ nofun nofun (by rw [release_eq]) (by rw [release_eq])
  | lingerReady hc => exact hgo _ _ nofun nofun (by rw [release_eq]) (by rw [release_eq])
  | _ => exact hgo _ _ nofun nofun rfl rfl

theorem Change.account (hc : Change j m j') (hs : j.Staffed) (hb : a.Balanced n)
    (h : j.Accounted a) : ∃ events b, a.run? events = some b ∧ j'.Accounted b := by
  cases hc with
  | step ht hr => exact hr.account ht hs hb h
  | elapse => exact ⟨[], a, rfl, h.pool, h.task, h.tells⟩
  | signal => exact ⟨[], a, rfl, h.pool, h.task, h.tells⟩
  | leave ht hn => exact h.ending ht hs hb hn .cancelled (.inl rfl) rfl rfl
  | idle => exact ⟨[], a, rfl, h⟩

theorem poolAfter_fair (hlined : j.pool.Lined) (h : j.pool.Fair) (ticket : Option Nat) :
    (j.poolAfter ticket).Fair := by
  cases ticket with
  | none => exact h
  | some k =>
    simp only [poolAfter]
    cases hg : (j.pool.finish k).grantNext? with
    | none => exact (hlined.finish k).fair_of_grantNext?_eq_none hg
    | some r =>
      obtain ⟨hhead, hgrant⟩ := Pool.grantNext?_eq hg
      have hnone : j.pool.permits = 0 := by
        refine h.resolve_left fun hempty => ?_
        rw [Pool.finish_line_of_nil hempty] at hhead
        cases hhead
      have hone := j.pool.finish_permits_le k
      refine .inr ?_
      simp only [(Pool.grant?_eq hgrant).2]
      omega

theorem Rule.fair (hr : Rule j p ticket inSpan s j') (hlined : j.pool.Lined) (h : j.pool.Fair) :
    j'.pool.Fair := by
  cases hr with
  | start hk hp =>
    rcases hp with ⟨rfl, -⟩ | hg
    · exact h
    · exact h.grant? hg
  | lineUp hk hg hp => exact Pool.fair_of_lineUp? hg hp
  | finish => exact poolAfter_fair hlined h ticket
  | panic => exact poolAfter_fair hlined h ticket
  | accept hopen => exact h
  | shutdown => exact h
  | sleep =>
    obtain ⟨timers, hj⟩ := (j.setProcess p _).setTimer_eq p _
    rw [hj]
    exact h
  | await hd =>
    obtain ⟨timers, hj⟩ := (j.setProcess p _).setTimer_eq p _
    rw [hj]
    exact h
  | visitReady hi hc =>
    rw [release_eq]
    exact h
  | lingerReady hc =>
    rw [release_eq]
    exact h
  | _ => exact h

theorem Change.fair (hc : Change j m j') (hlined : j.pool.Lined) (h : j.pool.Fair) : j'.pool.Fair := by
  cases hc with
  | step ht hr => exact hr.fair hlined h
  | elapse => exact h
  | signal => exact h
  | leave ht hn => exact poolAfter_fair hlined h _
  | idle => exact h

/-- Every interleaving of a job is a run of its pool. -/
theorem accounted_play? {j₀ : Job ν τ} {moves : List Move} (hpool : j₀.pool = .ofCapacity n)
    (hnone : ∀ t ∈ j₀.tasks, t.ticket = none) (h : j₀.play? moves = some j) :
    (∃ events a, (Account.ofCapacity n).run? events = some a ∧ j.Accounted a) ∧ j.pool.Fair := by
  have hticket : ∀ (q : ProcessId) (t : Task ν τ) (k : Nat), j₀.tasks[q]? = some t →
      t.ticket ≠ some k := by
    intro q t k hq hk
    rw [hnone t (List.mem_of_getElem? hq)] at hk
    cases hk
  have hstaffed : j₀.Staffed :=
    ⟨fun q t k hq hk => absurd hk (hticket q t k hq),
      fun q q' t t' k hq _ hk => absurd hk (hticket q t k hq),
      fun q t k hq hk => absurd hk (hticket q t k hq)⟩
  have haccounted : j₀.Accounted (.ofCapacity n) :=
    ⟨hpool.symm, nofun, fun q t k hq hk => absurd hk (hticket q t k hq)⟩
  have hfair : j₀.pool.Fair := .inl (by rw [hpool]; rfl)
  refine (play?_keeps (P := fun j => j.Staffed ∧ (∃ events a,
      (Account.ofCapacity n).run? events = some a ∧ j.Accounted a) ∧ j.pool.Fair)
    ?_ ⟨hstaffed, ⟨[], _, rfl, haccounted⟩, hfair⟩ h).2
  rintro j₁ m j₂ ⟨hs, ⟨events, a, hrun, ha⟩, hf⟩ hc
  have hbalanced := Account.balanced_of_run hrun
  obtain ⟨more, b, hmore, hb⟩ := hc.account hs hbalanced ha
  refine ⟨hc.staffed hs, ⟨events ++ more, b, ?_, hb⟩, hc.fair (ha.pool ▸ hbalanced.line) hf⟩
  rw [Account.run?_append, hrun, Option.bind_some, hmore]

end Job

namespace Pool.Account

variable {n : Nat} {a : Account}

structure Reliable (n : Nat) (a : Account) : Prop where
  capacity : a.pool.capacity = max 1 n
  permits : a.pool.permits ≤ a.pool.capacity
  running : a.pool.running + a.pool.permits = a.pool.capacity ∧
    a.pool.running = a.pool.active.length ∧ a.pool.running ≤ a.pool.capacity
  outstanding : a.pool.outstanding = (a.accepted.filter (· ∉ a.gone)).length
  /-- An accepted task waits, runs or has ended, only one of these at a time. -/
  places : (a.pool.waiting ++ a.pool.active ++ a.gone).Perm a.accepted ∧ a.accepted.Nodup
  started : a.started.Nodup ∧ (∀ k ∈ a.started, k ∈ a.accepted) ∧ ∀ k ∈ a.pool.active, k ∈ a.started
  /-- A task that has ended and never had a permit was cancelled. -/
  cancelled : ∀ k how, (k, how) ∈ a.ended → how = .cancelled ∨ k ∈ a.started
  /-- However the pool goes on by itself, it can do so only so often, and when it cannot go on any
  longer, every task that has waited has had a permit and none is outstanding. -/
  drains : ∀ events b, (∀ e : Event, e ∈ events → e.isProgress = true) → a.run? events = some b →
    events.length + b.left = a.left ∧
    ((∀ e : Event, e.isProgress = true → b.step? e = none) →
      b.pool.outstanding = 0 ∧ ∀ k ∈ a.pool.waiting, k ∈ b.started)
  refuses : a.pool.isShutdown = true → ∀ events b, a.run? events = some b →
    b.pool.submit? = none ∧ b.accepted = a.accepted
  /-- Whoever waits for the end of the pool goes on only when all tasks have ended. -/
  awaited : ∀ {ν τ : Type} (j : Job ν τ) (p : ProcessId) (inSpan : Bool) (next : Unit → Program ν τ),
    j.pool = a.pool → (j.answer p inSpan .termination next).isSome = true →
    a.pool.isShutdown = true ∧ a.pool.outstanding = 0 ∧ ∀ k ∈ a.accepted, k ∈ a.gone

theorem Balanced.outstanding (h : a.Balanced n) :
    a.pool.outstanding = (a.accepted.filter (· ∉ a.gone)).length := by
  obtain ⟨-, -, hdisjoint⟩ := List.nodup_append.mp h.nodup
  have hleft : (a.pool.waiting ++ a.pool.active).filter (· ∉ a.gone) =
      a.pool.waiting ++ a.pool.active := by
    refine List.filter_eq_self.mpr fun k hk => ?_
    exact decide_eq_true fun ho => hdisjoint k hk k ho rfl
  have hgone : a.gone.filter (· ∉ a.gone) = [] := by
    refine List.filter_eq_nil_iff.mpr fun k hk => ?_
    simpa using hk
  have hperm := h.places.filter (· ∉ a.gone)
  rw [List.filter_append, hleft, hgone, List.append_nil] at hperm
  rw [Pool.outstanding, ← List.length_append]
  exact hperm.length_eq

theorem Balanced.gone_of_idle (h : a.Balanced n) (hw : a.pool.waiting = []) (ha : a.pool.active = []) :
    ∀ k ∈ a.accepted, k ∈ a.gone := by
  intro k hk
  rcases h.place.mp hk with hm | hm | hm
  · rw [hw] at hm
    cases hm
  · rw [ha] at hm
    cases hm
  · exact hm

theorem refuses_of_run {events : List Event} {b : Account} (h : a.pool.isShutdown = true)
    (hr : a.run? events = some b) : b.pool.submit? = none ∧ b.accepted = a.accepted := by
  obtain ⟨hs, haccepted⟩ := run?_keeps
    (P := fun b => b.pool.isShutdown = true ∧ b.accepted = a.accepted)
    (fun b e c hb hc => (step?_shutdown hb.1 hc).imp_right fun ha => ha.trans hb.2) ⟨h, rfl⟩ hr
  exact ⟨by simp [submit?, hs], haccepted⟩

theorem Balanced.reliable (h : a.Balanced n) : a.Reliable n where
  capacity := h.capacity
  permits := by
    have hbalance := h.permits
    omega
  running := by
    have hbalance := h.permits
    unfold Pool.running
    omega
  outstanding := h.outstanding
  places := ⟨h.places, by rw [h.numbered]; exact List.nodup_range⟩
  started := ⟨h.once, fun k hk => (h.begun k hk).1, h.active⟩
  cancelled := h.cancelled
  drains := by
    intro events b he hr
    obtain ⟨hleft, hkept⟩ := h.drain he hr
    refine ⟨hleft, fun hstuck => ?_⟩
    have hb : b.Balanced n := run?_keeps (P := (·.Balanced n)) (fun _ _ _ hb hs => hb.step hs) h hr
    obtain ⟨hw, ha⟩ := hb.stuck hstuck
    refine ⟨by simp [Pool.outstanding, hw, ha], fun k hk => ?_⟩
    rcases hkept k (.inl hk) with hm | hm
    · rw [hw] at hm
      cases hm
    · exact hm
  refuses hs _ _ hr := refuses_of_run hs hr
  awaited := by
    intro ν τ j p inSpan next hpool hsome
    simp only [Job.answer] at hsome
    split at hsome
    · rename_i hterm
      rw [hpool, isTerminated_iff] at hterm
      have hnone : a.pool.outstanding = 0 := by
        simp [Pool.outstanding, hterm.waiting, hterm.active]
      exact ⟨hterm.isShutdown, hnone, h.gone_of_idle hterm.waiting hterm.active⟩
    · cases hsome

/-- Whatever happens at a pool, in whatever order, it can be relied on. What happens in a job is
nothing else to its pool, and a task that has begun there and not ended has a permit. As long as a
task stands in line there, all permits are in use. -/
theorem reliable_pool (n : Nat) :
    (∀ events a, (ofCapacity n).run? events = some a → a.Reliable n) ∧
    ∀ {ν τ : Type} (j₀ j : Job ν τ) (moves : List Move), j₀.pool = .ofCapacity n →
      (∀ t ∈ j₀.tasks, t.ticket = none) → j₀.play? moves = some j →
      j.pool.Fair ∧ ∃ events a, (ofCapacity n).run? events = some a ∧ j.Accounted a ∧
        ∀ (q : ProcessId) (t : Task ν τ) (k : Nat), j.tasks[q]? = some t → t.ticket = some k →
          (∀ body, t.process ≠ .fresh body) → (∀ o, t.process ≠ .ended o) → k ∈ j.pool.active := by
  refine ⟨fun events a h => (balanced_of_run h).reliable, fun j₀ j moves hpool hnone h => ?_⟩
  obtain ⟨⟨events, a, hrun, haccounted⟩, hfair⟩ := Job.accounted_play? hpool hnone h
  refine ⟨hfair, events, a, hrun, haccounted, fun q t k hq hk hf hn => ?_⟩
  rw [← haccounted.pool]
  exact (haccounted.tells q t k hq hk).active (balanced_of_run hrun) hf hn

def submitting : Job Empty Unit where
  world := { backends := ∅, active := ⟨[]⟩, cache := { strategy := .none } }
  codec := .plain
  pool := .ofCapacity 0
  tasks := [⟨.running (.submit (.done ()) fun _ => .done ()), none, false⟩]

/-- Two tasks, of which the second has to wait until the first has panicked. The pool is shut down
meanwhile and refuses a third one. -/
def taskAfterTask : List Event :=
  [.submit, .submit, .grant 0, .shutdown, .submit, .finish 0 .panicked, .grant 1,
    .finish 1 (.value ())]

theorem reliable_pool_zero :
    (∃ a, (ofCapacity 0).run? taskAfterTask = some a ∧
      a.accepted = [0, 1] ∧ a.gone = [0, 1] ∧ a.Reliable 0) ∧
    ∃ j, submitting.play? [.step 0 0, .step 1 0] = some j ∧
      ∃ events a, (ofCapacity 0).run? events = some a ∧ j.Accounted a ∧ 0 ∈ j.pool.active := by
  obtain ⟨a, ha, haccepted, hgone⟩ : ∃ a, (ofCapacity 0).run? taskAfterTask = some a ∧
      a.accepted = [0, 1] ∧ a.gone = [0, 1] := ⟨_, rfl, rfl, rfl⟩
  refine ⟨⟨a, ha, haccepted, hgone, (reliable_pool 0).1 taskAfterTask a ha⟩, _, rfl, ?_⟩
  obtain ⟨-, events, a, hrun, haccounted, hactive⟩ :=
    (reliable_pool 0).2 submitting _ [.step 0 0, .step 1 0] rfl (by simp [submitting]) rfl
  exact ⟨events, a, hrun, haccounted, hactive 1 _ 0 rfl rfl nofun nofun⟩

end Pool.Account
end Resync

import Resync.Proofs.Job.Closings
import Resync.Proofs.Job.Synchronization

/-! # Tasks come first

A job waits for the tasks of its pool before it closes anything. As long as a task has not
ended, its registry is open and the job has closed none of its connections, so no task is refused
a connection for the end of the job. Once the job has shut the pool down no task is accepted.
-/
namespace Resync

namespace Traffic

open Function (update)

variable {t t' : Traffic} {p : ProcessId} {released : Option Nat}

def Closing (t : Traffic) : Prop :=
  ∃ q todo, t.place q = .visiting todo ∨ ∃ b, t.place q = .lingering b todo

theorem Step.closing (hs : Step t p released t') (h : t.Closing → t.registry.closed = true)
    (hc : t'.Closing) : t'.registry.closed = true := by
  have hold : ∀ pl, t'.place = update t.place p pl →
      (∀ todo, pl ≠ .visiting todo) → (∀ b todo, pl ≠ .lingering b todo) → t.Closing := by
    intro pl hpl hv hl
    obtain ⟨q, todo, hq⟩ := hc
    rw [hpl] at hq
    by_cases hqp : q = p
    · subst hqp
      rw [Function.update_self] at hq
      rcases hq with hq | ⟨b, hq⟩
      · exact absurd hq (hv todo)
      · exact absurd hq (hl b todo)
    · rw [Function.update_of_ne hqp] at hq
      exact ⟨q, todo, hq⟩
  cases hs with
  | stay => exact h hc
  | drain hp => rfl
  | enter hp hr =>
    have hclosed := h (hold _ rfl nofun nofun)
    rw [(Registry.closed_admit? hr).1] at hclosed
    cases hclosed
  | take hp hr => exact h (hold _ rfl nofun nofun)
  | approach hp hr => exact h (hold _ rfl nofun nofun)
  | begin hp hh => exact h (hold _ rfl nofun nofun)
  | fail hp => exact h (hold _ rfl nofun nofun)
  | fill hp => exact h (hold _ rfl nofun nofun)
  | depart hp => exact h (hold _ rfl nofun nofun)
  | leave => exact (t.registry.closed_leave p _).trans (h (hold _ rfl nofun nofun))
  | visitReady hp hi hcell => exact h ⟨p, _, .inl hp⟩
  | visitFree hp hi hcell => exact h ⟨p, _, .inl hp⟩
  | visitHeld hp hi hcell => exact h ⟨p, _, .inl hp⟩
  | lingerReady hp hcell => exact h ⟨p, _, .inr ⟨_, hp⟩⟩
  | lingerPass hp hh => exact h ⟨p, _, .inr ⟨_, hp⟩⟩

end Traffic

namespace Job

variable {ν τ : Type} {j j' : Job ν τ} {m : Move} {p : ProcessId} {s : Process ν τ}
  {ticket : Option Nat} {inSpan : Bool} {main : ProcessId} {base : Nat}

theorem closing_of_process? (hp : j.process? p = some s) (hs : s.closing?.isSome = true) :
    j.traffic.Closing := by
  have hplace : j.place p = s.place := by simp [place, hp]
  cases s with
  | visiting todo next => exact ⟨p, todo, .inl hplace⟩
  | lingering b todo next => exact ⟨p, todo, .inr ⟨b, hplace⟩⟩
  | _ => cases hs

theorem Change.closed (hc : Change j m j') (h : j.registry.closed = true) :
    j'.registry.closed = true := by
  obtain ⟨p, released, hs⟩ := hc.traffic
  exact hs.closed h

theorem poolAfter_isShutdown (j : Job ν τ) (ticket : Option Nat) :
    (j.poolAfter ticket).isShutdown = j.pool.isShutdown := by
  have hf : ∀ k, (j.pool.finish k).isShutdown = j.pool.isShutdown := by
    intro k
    unfold Pool.finish
    split <;> rfl
  rcases j.poolAfter_cases ticket with ⟨-, h⟩ | ⟨k, -, h | ⟨next, h⟩⟩
  · rw [h]
  · rw [h, hf]
  · rw [(Pool.grant?_eq h).2]
    exact hf k

/-- Once its pool is shut down, a job gets no further processes. -/
theorem Change.isShutdown (hc : Change j m j') (h : j.pool.isShutdown = true) :
    j'.pool.isShutdown = true ∧ j'.tasks.length = j.tasks.length := by
  have hset : ∀ (j₁ : Job ν τ) (p : ProcessId) (s : Process ν τ), j₁.tasks = j.tasks →
      j₁.pool.isShutdown = true → (j₁.setProcess p s).pool.isShutdown = true ∧
        (j₁.setProcess p s).tasks.length = j.tasks.length := by
    intro j₁ p s h₁ hp
    rw [length_setProcess, h₁]
    exact ⟨hp, rfl⟩
  cases hc with
  | @step p k s ticket inSpan j' ht hr =>
    cases hr with
    | start hk hp =>
      refine hset _ _ _ rfl ?_
      rcases hp with ⟨rfl, -⟩ | hg
      · exact h
      · rw [(Pool.grant?_eq hg).2]
        exact h
    | lineUp hk hg hp =>
      rw [(Pool.lineUp?_eq hp).2.2]
      exact hset _ _ _ rfl h
    | finish => exact hset _ _ _ rfl ((poolAfter_isShutdown j ticket).trans h)
    | panic => exact hset _ _ _ rfl ((poolAfter_isShutdown j ticket).trans h)
    | accept hopen =>
      rw [h] at hopen
      cases hopen
    | shutdown => exact hset _ _ _ rfl rfl
    | sleep =>
      obtain ⟨timers, he⟩ := (j.setProcess p _).setTimer_eq p _
      rw [he]
      exact hset j p _ rfl h
    | await hd =>
      obtain ⟨timers, he⟩ := (j.setProcess p _).setTimer_eq p _
      rw [he]
      exact hset j p _ rfl h
    | visitReady hi hcell => exact hset _ _ _ (by rw [release_eq]) (by rw [release_eq]; exact h)
    | lingerReady hcell => exact hset _ _ _ (by rw [release_eq]) (by rw [release_eq]; exact h)
    | _ => exact hset _ _ _ rfl h
  | elapse => exact ⟨h, rfl⟩
  | signal => exact ⟨h, rfl⟩
  | leave ht hs => exact hset _ _ _ rfl ((poolAfter_isShutdown j _).trans h)
  | idle => exact ⟨h, rfl⟩

theorem isShutdown_play? {moves : List Move} (hj : j.play? moves = some j')
    (h : j.pool.isShutdown = true) :
    j'.pool.isShutdown = true ∧ j'.tasks.length = j.tasks.length := by
  refine play?_keeps (P := fun j' => j'.pool.isShutdown = true ∧ j'.tasks.length = j.tasks.length)
    (fun j₁ m j₂ h₁ hc => ?_) ⟨h, rfl⟩ hj
  obtain ⟨hs, hl⟩ := hc.isShutdown h₁.1
  exact ⟨hs, hl.trans h₁.2⟩

theorem Rule.not_cancelled (ht : j.tasks[p]? = some ⟨s, ticket, inSpan⟩)
    (hr : Rule j p ticket inSpan s j') : j'.process? p ≠ some (.ended .cancelled) := by
  have hp := process?_of_task ht
  have hset : ∀ (j₁ : Job ν τ) (s' : Process ν τ), j₁.process? p = some s → s' ≠ .ended .cancelled →
      (j₁.setProcess p s').process? p ≠ some (.ended .cancelled) := by
    intro j₁ s' h₁ hs' he
    rw [process?_next h₁] at he
    exact hs' (Option.some.inj he)
  cases hr with
  | accept h => exact hset _ _ (process?_accept _ hp) nofun
  | sleep =>
    rw [process?_setTimer]
    exact hset _ _ hp nofun
  | await hd =>
    rw [process?_setTimer]
    exact hset _ _ hp nofun
  | visitReady hi hc => exact hset _ _ (by rw [release_eq]; exact hp) nofun
  | lingerReady hc => exact hset _ _ (by rw [release_eq]; exact hp) nofun
  | _ => exact hset _ _ hp nofun

def Unfinished (j : Job ν τ) : Prop :=
  ∃ (q : ProcessId) (t : Task ν τ) (k : Nat), j.tasks[q]? = some t ∧ t.ticket = some k ∧
    ∀ o, t.process ≠ .ended o

/-- In the run from `j₀` the move is made in `j₁` and leads to `j₂`. -/
def Made (j₀ : Job ν τ) (moves : List Move) (j₁ : Job ν τ) (m : Move) (j₂ : Job ν τ) : Prop :=
  ∃ before after, moves = before ++ m :: after ∧ j₀.play? before = some j₁ ∧ j₁.move? m = some j₂

theorem Made.rest {j₀ j₁ j₂ : Job ν τ} {moves : List Move} (hm : j₀.Made moves j₁ m j₂)
    (h : j₀.play? moves = some j) : ∃ after, j₂.play? after = some j := by
  obtain ⟨before, after, rfl, hb, hstep⟩ := hm
  rw [play?_append, hb, Option.bind_some, play?_cons, hstep, Option.bind_some] at h
  exact ⟨after, h⟩

/-- Either the registry is open, and nobody but the main process would close it, or all tasks have
ended. -/
inductive Sealed (main : ProcessId) (j : Job ν τ) : Prop
  | early (h : j.Unclosed (· ≠ main))
  | late (hi : j.pool.Idle) (hq : j.Quiet main)

theorem Sealed.finished (h : j.Sealed main) (hs : j.Staffed) (hc : j.registry.closed = true) :
    ¬ j.Unfinished := by
  rintro ⟨q, t, k, hq, hk, hn⟩
  cases h with
  | early h =>
    rw [h.isOpen] at hc
    cases hc
  | late hi hquiet =>
    rcases hs.listed q t k hq hk hn with hl | hl
    · rw [hi.waiting] at hl
      cases hl
    · rw [hi.active] at hl
      cases hl

section Teardown

variable {cluster : String} {r : Except Error Unit} {j j' : Job ν (Except Error Unit)}
  {s : Process ν (Except Error Unit)}

theorem Winding.sealed (h : Winding cluster r main j s) (hs : s ≠ .ended .cancelled) :
    j.Sealed main := by
  cases h with
  | shutdown h => exact .early h
  | waiting h => exact .early h
  | closing ho hi hq => exact .late hi hq
  | visiting hv h => exact .late h.idle h.quiet
  | closed h => exact .late h.idle h.quiet
  | reporting h => exact .late h.idle h.quiet
  | finishing h => exact .late h.idle h.quiet
  | returned h => exact .late h.idle h.quiet
  | cancelled => exact absurd rfl hs

/-- Without the main process nobody closes the registry before all tasks have ended. -/
theorem Sealed.others (h : j.Sealed main) (hw : Winding cluster r main j s)
    (hp : j.process? main = some s) (hc : Change j m j') (hm : ∀ k, m ≠ .step main k) :
    j'.Sealed main := by
  have hlate : j.pool.Idle → j.Quiet main → j'.Sealed main := by
    intro hi hq
    obtain ⟨hq', -, -, hi'⟩ := hq.others hc hm
    exact .late (hi' hi) hq'
  have hearly : ∀ q next, q ≠ .closeRegistry → s = .running (.ask q next) →
      j.Unclosed (· ≠ main) → j'.Sealed main := by
    rintro q next hq rfl hu
    refine .early (hu.change hc fun p hpm => ?_)
    rw [Classical.not_not.mp hpm]
    exact ⟨q, next, hq, hp⟩
  cases hw with
  | shutdown hu => exact hearly .shutdown _ (by decide) rfl hu
  | waiting hu => exact hearly .termination _ (by decide) rfl hu
  | cancelled =>
    cases h with
    | late hi hq => exact hlate hi hq
    | early hu =>
      have hall : j.Unclosed fun _ => True := by
        refine ⟨hu.isOpen, fun q t _ ht => ?_⟩
        by_cases hq : q = main
        · subst hq
          rw [hp] at ht
          cases ht
          trivial
        · exact hu.asks q t hq ht
      have hall' := hall.change hc fun p hn => absurd trivial hn
      exact .early ⟨hall'.isOpen, fun q t _ ht => hall'.asks q t trivial ht⟩
  | closing ho hi hq => exact hlate hi hq
  | visiting hv h => exact hlate h.idle h.quiet
  | closed h => exact hlate h.idle h.quiet
  | reporting h => exact hlate h.idle h.quiet
  | finishing h => exact hlate h.idle h.quiet
  | returned h => exact hlate h.idle h.quiet

theorem Sealed.change (h : j.Sealed main) (hw : Winding cluster r main j s)
    (hj : j.Regular base main) (hp : j.process? main = some s) (hc : Change j m j') :
    j'.Sealed main ∧ ∃ s', j'.process? main = some s' ∧ Winding cluster r main j' s' := by
  obtain ⟨s', hs', hw'⟩ := hw.change hj hp hc
  refine ⟨?_, s', hs', hw'⟩
  by_cases hm : ∃ k, m = .step main k
  · obtain ⟨k, rfl⟩ := hm
    cases hc with
    | step ht hr =>
      refine hw'.sealed ?_
      rintro rfl
      exact hr.not_cancelled ht hs'
  · exact h.others hw hp hc fun k hk => hm ⟨k, hk⟩

theorem sealed_of_job {x : Context} {c : Cluster} {d : Draft} {v : View} {moves : List Move}
    {strategy : Strategy ν} (hd : d.Tidy base) (hr : x.registry = d.registry)
    (ho : x.opened = d.opened) (hw : c.world.connections = d.world.connections)
    (hs : (strategy.program v).Asks (· ≠ .closeRegistry))
    (h : ((x.job c).spawn (strategy.job c.id v) true).2.play? moves = some j) :
    j.Regular base 0 ∧ j.Sealed 0 := by
  refine ⟨play?_keeps (P := fun j => j.Regular base 0) (fun j m j' hj hc => hj.change hc)
    (regular_spawn hd hr ho hw (strategy.job c.id v)) h, ?_⟩
  rcases phases_of_job hd hr ho hw hs h with ⟨hu, -⟩ |
    ⟨before, k, after, j₁, r, -, -, hr₁, hu, hp, ha⟩
  · exact .early hu
  · refine (play?_keeps (P := fun j => j.Regular base 0 ∧ j.Sealed 0 ∧
        ∃ s, j.process? 0 = some s ∧ Winding c.id r 0 j s) ?_
      ⟨hr₁, .early hu, _, hp, .shutdown hu⟩ ha).2.1
    rintro j m j' ⟨hj, hsealed, s, hs, hw⟩ hc
    exact ⟨hj.change hc, hsealed.change hw hj hs hc⟩

end Teardown

structure TasksFirst (cluster : String) (j₀ : Job ν (Except Error Unit)) (moves : List Move)
    (j : Job ν (Except Error Unit)) : Prop where
  /-- While a task has not ended the registry is open, and no connection was closed but by programs
  that asked for it. -/
  kept : j.Unfinished → j.registry.closed = false ∧
    ∀ j₁ m j₂, j₀.Made moves j₁ m j₂ → j₁.Asked m ∨ j₁.world.Spares j₂.world
  admitted : ∀ (q : ProcessId) (t : Task ν (Except Error Unit)) (k : Nat) (m : Member)
    (next : Except Error Nat → Program ν (Except Error Unit)) (choice : Nat),
    j.tasks[q]? = some t → t.ticket = some k → t.process = .running (.ask (.connection m) next) →
    ∃ j', j.move? (.step q choice) = some j' ∧ j'.process? q = some (.admitted m next)
  /-- When a connection is closed and no program has asked for it, all tasks have ended. -/
  ended : ∀ j₁ m j₂, j₀.Made moves j₁ m j₂ →
    j₁.Asked m ∨ j₁.world.Spares j₂.world ∨ ¬ j₁.Unfinished
  /-- From the first step of the teardown on, every submission is rejected and makes no process. -/
  rejected : ∀ j₁ k j₂ r, j₀.Made moves j₁ (.step 0 k) j₂ →
    j₁.process? 0 = some (.running (teardown cluster r)) →
    j.pool.isShutdown = true ∧ j.tasks.length = j₂.tasks.length ∧
    ∀ (p : ProcessId) (body : Program ν (Except Error Unit))
      (next : Except Error ProcessId → Program ν (Except Error Unit)) (choice : Nat),
      j.process? p = some (.running (.submit body next)) →
      j.move? (.step p choice) = some (j.setProcess p (.running (next (.error .poolShutdown))))

section TasksFirst

variable {j₀ j₁ j₂ : Job ν τ} {moves : List Move}

/-- What closes a connection that no program asks to be closed closes the registry. -/
theorem Made.closed (hm : j₀.Made moves j₁ m j₂) (h₀ : j₀.traffic.Closing → j₀.registry.closed = true) :
    j₁.Asked m ∨ j₁.world.Spares j₂.world ∨ j₁.registry.closed = true := by
  obtain ⟨before, after, -, hb, hstep⟩ := hm
  have hclosing : j₁.traffic.Closing → j₁.registry.closed = true := by
    refine play?_keeps (P := fun j => j.traffic.Closing → j.registry.closed = true) ?_ h₀ hb
    intro j m j' hj hc
    obtain ⟨p, released, hs⟩ := hc.traffic
    exact hs.closing hj
  rcases (move?_change hstep).spares with h | ⟨p, k, s, -, hp, hs⟩ | h
  · exact .inl h
  · exact .inr (.inr (hclosing (closing_of_process? hp hs)))
  · exact .inr (.inl h)

theorem closed_play? (h : j₁.play? moves = some j₂) (hc : j₁.registry.closed = true) :
    j₂.registry.closed = true :=
  play?_keeps (P := fun j => j.registry.closed = true) (fun _ _ _ hj hc => hc.closed hj) hc h

theorem move?_connection {q : ProcessId} {t : Task ν τ} {m : Member}
    {next : Except Error Nat → Program ν τ} (hq : j.tasks[q]? = some t)
    (ht : t.process = .running (.ask (.connection m) next)) (hopen : j.registry.closed = false)
    (choice : Nat) :
    ∃ j', j.move? (.step q choice) = some j' ∧ j'.process? q = some (.admitted m next) := by
  have hp : j.process? q = some (.running (.ask (.connection m) next)) := by simp [process?, hq, ht]
  obtain ⟨registry, hr⟩ : ∃ registry, j.registry.admit? m.id = some registry := by
    simp [Registry.admit?, hopen]
  refine ⟨{ j with registry }.setProcess q (.admitted m next), ?_, process?_next hp⟩
  simp [move?, step, hq, ht, advance, answer, hr]

theorem move?_submit {body : Program ν τ} {next : Except Error ProcessId → Program ν τ}
    (hp : j.process? p = some (.running (.submit body next))) (hs : j.pool.isShutdown = true)
    (choice : Nat) :
    j.move? (.step p choice) = some (j.setProcess p (.running (next (.error .poolShutdown)))) := by
  obtain ⟨t, ht, hts⟩ := Option.map_eq_some_iff.mp hp
  simp [move?, step, ht, hts, advance, submit, Pool.submit?, hs]

theorem move?_shutdown {next : Unit → Program ν τ} {k : Nat}
    (hp : j.process? p = some (.running (.ask .shutdown next))) (h : j.move? (.step p k) = some j') :
    j'.pool.isShutdown = true := by
  obtain ⟨t, ht, hts⟩ := Option.map_eq_some_iff.mp hp
  simp only [move?, step, ht, hts, advance, answer, Option.map_some] at h
  cases h
  rfl

end TasksFirst

theorem tasksFirst_of_job {x : Context} {c : Cluster} {d : Draft} {v : View} {moves : List Move}
    {s : Strategy ν} {j : Job ν (Except Error Unit)} (hd : d.Tidy base) (hr : x.registry = d.registry)
    (ho : x.opened = d.opened) (hw : c.world.connections = d.world.connections)
    (hs : (s.program v).Asks (· ≠ .closeRegistry))
    (h : ((x.job c).spawn (s.job c.id v) true).2.play? moves = some j) :
    TasksFirst c.id ((x.job c).spawn (s.job c.id v) true).2 moves j := by
  have hstart : ((x.job c).spawn (s.job c.id v) true).2.traffic.Closing →
      ((x.job c).spawn (s.job c.id v) true).2.registry.closed = true := by
    rintro ⟨q, todo, hq⟩
    have haway := place_spawn x c (s.job c.id v) true q
    rcases hq with hq | ⟨b, hq⟩
    · cases hq.symm.trans haway
    · cases hq.symm.trans haway
  have hopen : j.Unfinished → j.registry.closed = false := by
    intro hun
    obtain ⟨hj, hsealed⟩ := sealed_of_job hd hr ho hw hs h
    exact Bool.eq_false_iff.mpr fun hc => hsealed.finished hj.staffed hc hun
  constructor
  · intro hun
    refine ⟨hopen hun, fun j₁ m j₂ hm => ?_⟩
    rcases hm.closed hstart with hask | hspares | hc
    · exact .inl hask
    · exact .inr hspares
    · obtain ⟨after, ha⟩ := hm.rest h
      have hc₂ := (move?_change hm.choose_spec.choose_spec.2.2).closed hc
      rw [closed_play? ha hc₂] at hopen
      cases hopen hun
  · intro q t k m next choice hq hk ht
    refine move?_connection hq ht (hopen ⟨q, t, k, hq, hk, fun o => ?_⟩) choice
    rw [ht]
    nofun
  · intro j₁ m j₂ hm
    rcases hm.closed hstart with hask | hspares | hc
    · exact .inl hask
    · exact .inr (.inl hspares)
    · obtain ⟨before, after, -, hb, -⟩ := hm
      obtain ⟨hj₁, hsealed⟩ := sealed_of_job hd hr ho hw hs hb
      exact .inr (.inr (hsealed.finished hj₁.staffed hc))
  · intro j₁ k j₂ r hm hp
    obtain ⟨after, ha⟩ := hm.rest h
    obtain ⟨-, -, -, -, hstep⟩ := hm
    obtain ⟨hshut, hlength⟩ := isShutdown_play? ha (move?_shutdown hp hstep)
    exact ⟨hshut, hlength, fun p body next choice hsubmit => move?_submit hsubmit hshut choice⟩

end Job

namespace Cluster

open Job

variable {ν : Type}

/-- In every interleaving of a job with a context, of which the one that happens is one, tasks come
before the teardown, unless the strategy closes the registry itself. -/
theorem tasks_first (c : Cluster) (target : Member) (s : Strategy ν) (x : Context) (c' : Cluster)
    (hn : (c.enter (.opened ⟨c.id, target.id, s.name⟩)).newContext true target = (.ok x, c')) :
    let c₁ := c'.enter (.sourceRecorded x.source.id)
    (c.world.cache.Sound → ∃ v, x.view? c₁ = some v) ∧
    ∀ v, x.view? c₁ = some v → (s.program v).Asks (· ≠ .closeRegistry) →
      (∀ fuel, ∃ moves j, ((x.job c₁).spawn (s.job c₁.id v) true).2.play? moves = some j ∧
        c.synchronize fuel target s = x.result c₁ j) ∧
      ∀ moves j, ((x.job c₁).spawn (s.job c₁.id v) true).2.play? moves = some j →
        TasksFirst c₁.id ((x.job c₁).spawn (s.job c₁.id v) true).2 moves j := by
  intro c₁
  refine ⟨fun hsound => ?_, fun v hv hs => ⟨fun fuel => ?_, fun moves j h => ?_⟩⟩
  · obtain ⟨v, hv⟩ := view_of_made (c := c.enter (.opened ⟨c.id, target.id, s.name⟩)) hsound hn
    exact ⟨v, hv⟩
  · obtain ⟨moves, hmoves⟩ := c.synchronize_interleaving target s fuel
    have hview : x.view? (c'.enter (.sourceRecorded x.source.id)) = some v := hv
    simp only [interleave, hn, hview] at hmoves
    obtain ⟨j, hj, hout⟩ := Option.map_eq_some_iff.mp hmoves
    exact ⟨moves, j, hj, hout.symm⟩
  · obtain ⟨d, hd, hreg, hop, hw, -⟩ := tidy_of_made hn
    have hconnections : c₁.world.connections = d.world.connections := by
      rw [← hw]
      rfl
    exact tasksFirst_of_job hd hreg hop hconnections hs h

/-- A strategy that leaves it to a task to connect to the third backend. -/
def delegating : Strategy Empty where
  program _ :=
    .submit (.ask (.connection ⟨"db", "db"⟩) fun _ => .done (.ok ())) fun _ => .done (.ok ())

/-- The task has begun after the pool was shut down, and its request is let in. -/
theorem tasks_first_delegating :
    ∃ x c', (withSilentBackend.enter (.opened ⟨"c", "b", "custom"⟩)).newContext true ⟨"b", "b"⟩ =
        (.ok x, c') ∧
      ∃ v, x.view? (c'.enter (.sourceRecorded x.source.id)) = some v ∧
      ∃ j, ((x.job (c'.enter (.sourceRecorded x.source.id))).spawn (delegating.job c'.id v) true).2.play?
          [.step 0 0, .step 0 0, .step 1 0] = some j ∧
        j.pool.isShutdown = true ∧ j.Unfinished ∧
        TasksFirst c'.id
          ((x.job (c'.enter (.sourceRecorded x.source.id))).spawn (delegating.job c'.id v) true).2
          [.step 0 0, .step 0 0, .step 1 0] j := by
  obtain ⟨x, c', hn, v, hv, j, hj, hshut, hun⟩ :
      ∃ x c', (withSilentBackend.enter (.opened ⟨"c", "b", "custom"⟩)).newContext true ⟨"b", "b"⟩ =
          (.ok x, c') ∧
        ∃ v, x.view? (c'.enter (.sourceRecorded x.source.id)) = some v ∧
        ∃ j, ((x.job (c'.enter (.sourceRecorded x.source.id))).spawn
            (delegating.job c'.id v) true).2.play? [.step 0 0, .step 0 0, .step 1 0] = some j ∧
          j.pool.isShutdown = true ∧ j.Unfinished :=
    ⟨_, _, rfl, _, rfl, _, rfl, rfl, 1, _, 0, rfl, rfl, nofun⟩
  exact ⟨x, c', hn, v, hv, j, hj, hshut, hun,
    ((tasks_first withSilentBackend ⟨"b", "b"⟩ delegating x c' hn).2 v hv
      (.submit (.ask (by decide) fun _ => .done) fun _ => .done)).2 _ j hj⟩

end Cluster
end Resync

import Resync.Proofs.Cluster.Connections
import Resync.Proofs.Registry.Occupancy

/-! # The traffic of a job

Every change of a job is a step of what its registry sees, so the order at the cells is kept
by every interleaving. The world has, above the connections that it had before, exactly
those that the job has opened; the others are left alone.
-/
namespace Resync.Job

open Function (update)

variable {ν τ : Type} {j j' : Job ν τ} {m : Move} {p : ProcessId} {s : Process ν τ} {ticket : Option Nat}
  {inSpan : Bool}

def place (j : Job ν τ) (p : ProcessId) : Place := ((j.process? p).map Process.place).getD .away

def traffic (j : Job ν τ) : Traffic where
  registry := j.registry
  opened := j.opened
  place := j.place

theorem place_of_task (ht : j.tasks[p]? = some ⟨s, ticket, inSpan⟩) : j.place p = s.place := by
  simp [place, process?_of_task ht]

theorem place_setProcess (ht : j.tasks[p]? = some ⟨s, ticket, inSpan⟩) (s' : Process ν τ) :
    (j.setProcess p s').place = update j.place p s'.place := by
  funext q
  unfold place
  rw [process?_setProcess]
  by_cases hq : q = p
  · subst hq
    simp [process?_of_task ht]
  · rw [if_neg hq, Function.update_of_ne hq]

theorem place_accept (j : Job ν τ) (body : Program ν τ) : (j.accept body).place = j.place := by
  funext q
  simp only [place, process?, accept]
  rcases Nat.lt_trichotomy q j.tasks.length with hq | hq | hq
  · rw [List.getElem?_append_left hq]
  · subst hq
    simp [Process.place]
  · rw [List.getElem?_eq_none (by simp; omega), List.getElem?_eq_none (by omega)]

theorem step_of {j₁ : Job ν τ} {s' : Process ν τ} {released : Option Nat}
    (ht : j.tasks[p]? = some ⟨s, ticket, inSpan⟩) (h₁ : j₁.tasks[p]? = j.tasks[p]?)
    (hp : j₁.place = j.place)
    (hs : Traffic.Step j.traffic p released ⟨j₁.registry, j₁.opened, update j.place p s'.place⟩) :
    Traffic.Step j.traffic p released (j₁.setProcess p s').traffic := by
  have he : (j₁.setProcess p s').traffic = ⟨j₁.registry, j₁.opened, update j.place p s'.place⟩ := by
    simp only [traffic, place_setProcess (h₁.trans ht), hp]
    rfl
  rw [he]
  exact hs

theorem step_stay {j₁ : Job ν τ} {s' : Process ν τ} (ht : j.tasks[p]? = some ⟨s, ticket, inSpan⟩)
    (h₁ : j₁.tasks[p]? = j.tasks[p]?) (hp : j₁.place = j.place) (hr : j₁.registry = j.registry)
    (ho : j₁.opened = j.opened) (hs : s'.place = s.place) :
    Traffic.Step j.traffic p none (j₁.setProcess p s').traffic := by
  refine step_of ht h₁ hp ?_
  rw [hr, ho, hs, ← place_of_task ht, Function.update_eq_self]
  exact .stay

theorem step_release {b : String} {c : Nat} {s' : Process ν τ}
    (ht : j.tasks[p]? = some ⟨s, ticket, inSpan⟩)
    (hs : Traffic.Step j.traffic p (some c) ⟨j.registry, j.opened, update j.place p s'.place⟩) :
    Traffic.Step j.traffic p (some c) ((j.release inSpan b c).setProcess p s').traffic := by
  rw [release_eq]
  exact step_of ht rfl rfl hs

theorem setTimer_traffic (j : Job ν τ) (p : ProcessId) (due : Nat) :
    (j.setTimer p due).traffic = j.traffic := by
  obtain ⟨timers, h⟩ := j.setTimer_eq p due
  rw [h]
  rfl

/-- Every rule is a step of the traffic; a connection that the step releases is released in
the world. -/
theorem Rule.traffic (ht : j.tasks[p]? = some ⟨s, ticket, inSpan⟩) (hr : Rule j p ticket inSpan s j') :
    ∃ released, Traffic.Step j.traffic p released j'.traffic ∧
      ∀ c, released = some c → ∃ b, j'.world = (j.release inSpan b c).world := by
  have hp := place_of_task ht
  cases hr with
  | start hk hp => exact ⟨none, step_stay ht rfl rfl rfl rfl rfl, nofun⟩
  | lineUp hk hg hp => exact ⟨none, step_stay ht rfl rfl rfl rfl rfl, nofun⟩
  | finish => exact ⟨none, step_stay ht rfl rfl rfl rfl rfl, nofun⟩
  | panic => exact ⟨none, step_stay ht rfl rfl rfl rfl rfl, nofun⟩
  | note => exact ⟨none, step_stay ht rfl rfl rfl rfl rfl, nofun⟩
  | reject h => exact ⟨none, step_stay ht rfl rfl rfl rfl rfl, nofun⟩
  | @accept body next h =>
    have ha : (j.accept body).tasks[p]? = j.tasks[p]? :=
      List.getElem?_append_left (List.getElem?_eq_some_iff.mp ht).1
    exact ⟨none, step_stay ht ha (place_accept j body) rfl rfl rfl, nofun⟩
  | reply h => exact ⟨none, step_stay ht rfl rfl rfl rfl rfl, nofun⟩
  | enter ha =>
    exact ⟨none, step_of ht rfl rfl (.enter hp ha), nofun⟩
  | shutdown => exact ⟨none, step_stay ht rfl rfl rfl rfl rfl, nofun⟩
  | drain =>
    exact ⟨none, step_of ht rfl rfl (.drain hp), nofun⟩
  | sleep =>
    rw [setTimer_traffic]
    exact ⟨none, step_stay ht rfl rfl rfl rfl rfl, nofun⟩
  | wake h => exact ⟨none, step_stay ht rfl rfl rfl rfl rfl, nofun⟩
  | find hc => exact ⟨none, step_of ht rfl rfl (.take (.inl hp) hc), nofun⟩
  | take hc => exact ⟨none, step_of ht rfl rfl (.take (.inr hp) hc), nofun⟩
  | approach hc =>
    exact ⟨none, step_of ht rfl rfl (.approach hp hc), nofun⟩
  | begin hh ha =>
    exact ⟨none, step_of ht rfl rfl (.begin hp hh), nofun⟩
  | refuse hh ha =>
    exact ⟨none, step_of ht rfl rfl (.fail (.inl ⟨hp, hh⟩)), nofun⟩
  | await h =>
    rw [setTimer_traffic]
    exact ⟨none, step_stay ht rfl rfl rfl rfl rfl, nofun⟩
  | fail hs ha =>
    exact ⟨none, step_of ht rfl rfl (.fail (.inr (hp.trans hs.place))), nofun⟩
  | fill hs ha =>
    exact ⟨none, step_of ht rfl rfl (.fill (hp.trans hs.place)), nofun⟩
  | @visitReady todo next i b c hi hc =>
    exact ⟨some c, step_release ht (.visitReady hp hi hc), fun _ hc => ⟨b, by cases hc; rfl⟩⟩
  | visitFree hi hc =>
    exact ⟨none, step_of ht rfl rfl (.visitFree hp hi hc), nofun⟩
  | visitHeld hi hc =>
    refine ⟨none, step_of ht rfl rfl (.visitHeld hp hi ?_), nofun⟩
    change (j.registry.cell _).members ≠ []
    rw [hc]
    nofun
  | depart =>
    exact ⟨none, step_of ht rfl rfl (.depart hp), nofun⟩
  | @lingerReady b todo next c hc =>
    exact ⟨some c, step_release ht (.lingerReady hp hc), fun _ hc => ⟨b, by cases hc; rfl⟩⟩
  | lingerPass hh =>
    exact ⟨none, step_of ht rfl rfl (.lingerPass hp hh), nofun⟩

theorem Change.traffic (h : Change j m j') :
    ∃ p released, Traffic.Step j.traffic p released j'.traffic := by
  cases h with
  | @step p k s ticket inSpan j' ht hr =>
    obtain ⟨released, hs, -⟩ := hr.traffic ht
    exact ⟨p, released, hs⟩
  | elapse => exact ⟨0, none, .stay⟩
  | signal => exact ⟨0, none, .stay⟩
  | @leave p s ticket inSpan timers ht hs =>
    refine ⟨p, none, step_of ht rfl rfl ?_⟩
    have hl := Traffic.Step.leave (t := j.traffic) (p := p)
    rw [show j.traffic.place p = s.place from place_of_task ht, Process.cell?_place] at hl
    exact hl
  | idle => exact ⟨0, none, .stay⟩

theorem Change.closes (h : Change j m j') (hj : j.registry.closed = false)
    (hj' : j'.registry.closed = true) :
    ∃ p k, m = .step p k ∧ ∃ next, j.process? p = some (.running (.ask .closeRegistry next)) := by
  have hno : ∀ {b : Bool}, b = false → b ≠ true := by
    rintro b rfl
    nofun
  cases h with
  | @step p k s ticket inSpan j' ht hr =>
    cases hr with
    | drain => exact ⟨p, k, rfl, _, process?_of_task ht⟩
    | enter ha => exact absurd hj' (hno (Registry.closed_admit? ha).2)
    | sleep =>
      rw [setTimer_registry] at hj'
      exact absurd hj' (hno hj)
    | await h =>
      rw [setTimer_registry] at hj'
      exact absurd hj' (hno hj)
    | visitReady hi hc =>
      rw [release_eq] at hj'
      exact absurd hj' (hno hj)
    | lingerReady hc =>
      rw [release_eq] at hj'
      exact absurd hj' (hno hj)
    | _ => exact absurd hj' (hno hj)
  | @leave p s ticket inSpan timers ht hs =>
    rw [setProcess_registry, Registry.closed_leave] at hj'
    exact absurd hj' (hno hj)
  | elapse => exact absurd hj' (hno hj)
  | signal => exact absurd hj' (hno hj)
  | idle => exact absurd hj' (hno hj)

theorem orderly_play? {moves : List Move} (hj : j.traffic.Orderly) (h : j.play? moves = some j') :
    j'.traffic.Orderly := by
  refine play?_keeps (P := fun j => j.traffic.Orderly) (fun j m j' hj hc => ?_) hj h
  obtain ⟨p, released, hs⟩ := hc.traffic
  exact hj.step hs

/-- The connections of the world above `base` are the job's, in the same order. -/
structure Linked (base : Nat) (j : Job ν τ) : Prop where
  length : j.world.connections.length = base + j.opened.length
  number : ∀ c o, j.opened[c]? = some o → o.number = base + c

variable {base : Nat}

theorem release_keeps (hl : j.Linked base) (b : String) (c : Nat) :
    World.Keeps base j.world (j.release inSpan b c).world ∧
      (j.release inSpan b c).world.connections.length = j.world.connections.length := by
  unfold release
  cases ho : j.opened[c]? with
  | none => exact ⟨.of_eq rfl rfl, rfl⟩
  | some o =>
    have hn := hl.number c o ho
    exact ⟨World.release_keeps _ inSpan b (by omega), World.length_release _ inSpan b _⟩

theorem Touched.keeps {world : World} (hl : j.Linked base) (h : Touched j inSpan world) :
    World.Keeps base j.world world ∧ world.connections.length = j.world.connections.length := by
  have hbase : ∀ (c : Nat) (o : Opened), j.opened[c]? = some o → base ≤ o.number := by
    intro c o ho
    rw [hl.number c o ho]
    exact Nat.le_add_right _ _
  cases h with
  | same => exact ⟨.of_eq rfl rfl, rfl⟩
  | reported => exact ⟨.of_eq rfl rfl, rfl⟩
  | told ho =>
    exact ⟨World.access_keeps _ Access.keeps_isClosed (hbase _ _ ho), World.length_access ..⟩
  | closed ho =>
    exact ⟨World.access_keeps _ Access.keeps_close (hbase _ _ ho), World.length_access ..⟩
  | probed ho => exact World.autoIncrement_keeps _ _ _ (hbase _ _ ho)

theorem Linked.keep {j₁ : Job ν τ} (hl : j.Linked base) (ho : j₁.opened = j.opened)
    (h : World.Keeps base j.world j₁.world ∧
      j₁.world.connections.length = j.world.connections.length) :
    j₁.Linked base ∧ World.Keeps base j.world j₁.world := by
  refine ⟨⟨?_, ?_⟩, h.1⟩
  · rw [h.2, ho]
    exact hl.length
  · rw [ho]
    exact hl.number

theorem Rule.linked (hl : j.Linked base) (hr : Rule j p ticket inSpan s j') :
    j'.Linked base ∧ World.Keeps base j.world j'.world := by
  have hself : World.Keeps base j.world j.world ∧
      j.world.connections.length = j.world.connections.length := ⟨.of_eq rfl rfl, rfl⟩
  have hset : ∀ (p : ProcessId) (due : Nat) (j₁ : Job ν τ), j₁.world = j.world → j₁.opened = j.opened →
      (j₁.setTimer p due).Linked base ∧ World.Keeps base j.world (j₁.setTimer p due).world := by
    intro p due j₁ hw ho
    obtain ⟨timers, h⟩ := j₁.setTimer_eq p due
    refine hl.keep ?_ ?_
    · rw [h]
      exact ho
    · rw [h]
      change World.Keeps base j.world j₁.world ∧ _
      rw [hw]
      exact hself
  cases hr with
  | start hk hp => exact hl.keep rfl hself
  | lineUp hk hg hp => exact hl.keep rfl hself
  | finish => exact hl.keep rfl hself
  | panic => exact hl.keep rfl hself
  | note => exact hl.keep rfl hself
  | reject h => exact hl.keep rfl hself
  | accept h => exact hl.keep rfl hself
  | reply h => exact hl.keep rfl ((reply?_touched h).keeps hl)
  | enter ha => exact hl.keep rfl hself
  | shutdown => exact hl.keep rfl hself
  | drain => exact hl.keep rfl hself
  | sleep => exact hset _ _ _ rfl rfl
  | wake h => exact hl.keep rfl hself
  | find hc => exact hl.keep rfl hself
  | take hc => exact hl.keep rfl hself
  | approach hc => exact hl.keep rfl hself
  | @begin m next a world hh ha =>
    have hw : world = (j.world.attempt j.codec m).2 := by rw [ha]
    have hk : World.Keeps base _ _ := World.attempt_keeps j.world j.codec m
    rw [World.attempt_world] at hk hw
    subst hw
    exact hl.keep rfl ⟨hk, rfl⟩
  | @refuse m next e world hh ha =>
    have hw : world = (j.world.attempt j.codec m).2 := by rw [ha]
    have hk : World.Keeps base _ _ := World.attempt_keeps j.world j.codec m
    rw [World.attempt_world] at hk hw
    subst hw
    exact hl.keep rfl ⟨hk, rfl⟩
  | await h => exact hset _ _ _ rfl rfl
  | fail hs ha =>
    obtain ⟨rfl, -⟩ := World.settle_error ha
    exact hl.keep rfl hself
  | @fill s m a next number world hs ha =>
    have hk : World.Keeps base _ _ :=
      World.settle_keeps j.world m a (by have := hl.length; omega)
    rw [ha] at hk
    obtain ⟨rfl, rfl⟩ := World.settle_ok ha
    refine ⟨⟨?_, ?_⟩, hk⟩
    · simp only [setProcess_world, setProcess_opened, List.length_append, List.length_singleton]
      have := hl.length
      omega
    · intro c o ho
      simp only [setProcess_opened] at ho
      rw [List.getElem?_append] at ho
      split at ho
      · exact hl.number c o ho
      · rw [List.getElem?_singleton] at ho
        split at ho
        · cases ho
          have := hl.length
          simp only
          omega
        · cases ho
  | @visitReady todo next i b c hi hc =>
    refine hl.keep ?_ (release_keeps hl b c)
    rw [release_eq]
    rfl
  | visitFree hi hc => exact hl.keep rfl hself
  | visitHeld hi hc => exact hl.keep rfl hself
  | depart => exact hl.keep rfl hself
  | @lingerReady b todo next c hc =>
    refine hl.keep ?_ (release_keeps hl b c)
    rw [release_eq]
    rfl
  | lingerPass hh => exact hl.keep rfl hself

theorem Change.linked (hl : j.Linked base) (h : Change j m j') :
    j'.Linked base ∧ World.Keeps base j.world j'.world := by
  cases h with
  | step ht hr => exact hr.linked hl
  | elapse => exact hl.keep rfl ⟨.of_eq rfl rfl, rfl⟩
  | signal => exact hl.keep rfl ⟨.of_eq rfl rfl, rfl⟩
  | leave ht hs => exact hl.keep rfl ⟨.of_eq rfl rfl, rfl⟩
  | idle => exact hl.keep rfl ⟨.of_eq rfl rfl, rfl⟩

theorem linked_play? {moves : List Move} (hl : j.Linked base) (h : j.play? moves = some j') :
    j'.Linked base ∧ World.Keeps base j.world j'.world := by
  refine play?_keeps (P := fun j' => j'.Linked base ∧ World.Keeps base j.world j'.world)
    (fun j₁ m j₂ hj hc => ?_) ⟨hl, .of_eq rfl rfl⟩ h
  obtain ⟨hl', hk⟩ := hc.linked hj.1
  exact ⟨hl', hj.2.trans hk⟩

def Released (j : Job ν τ) (c : Nat) : Prop :=
  ∃ o, j.opened[c]? = some o ∧ j.world.Released o.number

theorem Change.opened (h : Change j m j') : ∃ more, j'.opened = j.opened ++ more := by
  obtain ⟨p, released, hs⟩ := h.traffic
  exact hs.opened

theorem Change.released (hl : j.Linked base) (h : Change j m j') {c : Nat} (hc : j.Released c) :
    j'.Released c := by
  obtain ⟨o, ho, hr⟩ := hc
  obtain ⟨more, hm⟩ := h.opened
  have hlt := (List.getElem?_eq_some_iff.mp ho).1
  exact ⟨o, by rw [hm, List.getElem?_append_left hlt, ho], hr.keeps (h.linked hl).2⟩

end Resync.Job

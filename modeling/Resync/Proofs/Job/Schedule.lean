import Resync.Job.Schedule
import Resync.Proofs.Cluster.Connections
import Resync.Proofs.Job.Extension

/-! # Schedules are interleavings

A schedule only ever lets a process make a step or moves the clock on to a time for which a
timer was set. Such a time is to come and the clock can show it, so what a schedule makes of
a job is what one of the interleavings makes of it.
-/
namespace Resync

namespace World

variable {α : Type}

@[simp] theorem access_now (w : World) (n : Nat) (a : Access α) : (w.access n a).2.now = w.now := by
  unfold access
  cases w.connections[n]? with
  | none => rfl
  | some e => rfl

theorem autoIncrement_now (w : World) (i n : Nat) (relation : String) :
    (w.autoIncrement i n relation).2.now = w.now := by
  have h := w.access_now n (w.cache.autoIncrement i relation)
  unfold autoIncrement
  cases ha : w.access n (w.cache.autoIncrement i relation) with
  | mk r w' =>
    rw [ha] at h
    cases r with
    | error e => exact h
    | ok r => exact h

end World

def Process.due? {ν τ : Type} : Process ν τ → Option Nat
  | opening _ a _ => a.due
  | _ => none

namespace Job

variable {ν τ : Type} {j j' : Job ν τ} {p : ProcessId} {s : Process ν τ} {ticket : Option Nat}
  {inSpan : Bool}

theorem release_now (b : String) (c : Nat) : (j.release inSpan b c).world.now = j.world.now := by
  unfold release
  cases j.opened[c]? with
  | none => rfl
  | some o => exact (World.release_closes j.world inSpan b (Nat.zero_le o.number)).now

theorem Touched.now {world : World} (h : Touched j inSpan world) : world.now = j.world.now := by
  cases h with
  | same => rfl
  | reported => rfl
  | told ho => exact j.world.access_now _ _
  | closed ho => exact j.world.access_now _ _
  | probed ho => exact j.world.autoIncrement_now _ _ _

/-- The timers are set for times to come that the clock can show, and so is the end of every
attempt that has begun. -/
structure Timely (j : Job ν τ) : Prop where
  timers : ∀ e ∈ j.timers, j.world.now < e.1 ∧ e.1 ≤ World.lastTime
  due : ∀ p s due, j.process? p = some s → s.due? = some due → due ≤ World.lastTime

theorem Timely.setTimer (h : j.Timely) {due : Nat} (hd : due ≤ World.lastTime) :
    (j.setTimer p due).Timely := by
  unfold Job.setTimer
  split
  · rename_i hlt
    refine ⟨fun e he => ?_, h.due⟩
    rcases List.mem_append.mp he with he | he
    · exact h.timers e he
    · cases List.mem_singleton.mp he
      exact ⟨hlt, hd⟩
  · exact h

theorem Timely.set {j₁ : Job ν τ} {s' : Process ν τ} (h : j.Timely)
    (hs : ∀ q s, j₁.process? q = some s → q ≠ p → j.process? q = some s ∨ ∃ body, s = .fresh body)
    (hw : j₁.world.now = j.world.now) (ht : j₁.timers = j.timers)
    (hd : ∀ due, s'.due? = some due → due ≤ World.lastTime) :
    (j₁.setProcess p s').Timely := by
  constructor
  · intro e he
    rw [show (j₁.setProcess p s').timers = j.timers from ht] at he
    rw [setProcess_world, hw]
    exact h.timers e he
  · intro q t due hq hdue
    rw [process?_setProcess] at hq
    split at hq
    · obtain ⟨-, -, rfl⟩ := Option.map_eq_some_iff.mp hq
      exact hd due hdue
    · rename_i hqp
      rcases hs q _ hq hqp with hq | ⟨body, rfl⟩
      · exact h.due q t due hq hdue
      · cases hdue

theorem Rule.timely (ht : j.tasks[p]? = some ⟨s, ticket, inSpan⟩) (hr : Rule j p ticket inSpan s j')
    (h : j.Timely) : j'.Timely := by
  have hset : ∀ (j₁ : Job ν τ) (s' : Process ν τ), j₁.tasks = j.tasks →
      j₁.world.now = j.world.now → j₁.timers = j.timers →
      s'.due? = none → (j₁.setProcess p s').Timely := by
    intro j₁ s' h₁ hw ht' hs'
    refine h.set (fun q s hq _ => .inl ?_) hw ht' fun due hdue => by rw [hs'] at hdue; cases hdue
    rw [process?, h₁] at hq
    exact hq
  have hbefore := fun q t => hr.others_before (q := q) (t := t)
  cases hr with
  | @accept body next hs =>
    refine h.set (fun q s hq hqp => ?_) rfl rfl fun due hdue => by cases hdue
    rcases hbefore q s hqp (by rw [process?_setProcess, if_neg hqp]; exact hq) with hq |
      ⟨body', -, -, hq⟩
    · exact .inl hq
    · exact .inr ⟨body', hq⟩
  | reply hq => exact hset _ _ rfl ((reply?_touched hq).now) rfl rfl
  | @sleep d next =>
    have hasleep := hset j (.asleep (j.world.dueAfter d) next) rfl rfl rfl rfl
    exact hasleep.setTimer (Nat.min_le_right _ _)
  | @await m a due next hd =>
    have hawait := hset j (.awaiting m a due next) rfl rfl rfl rfl
    exact hawait.setTimer (h.due p _ due (process?_of_task ht) hd)
  | @begin m next a world hh ha =>
    have hw : world = (j.world.attempt j.codec m).2 := by rw [ha]
    refine h.set (fun q s hq _ => .inl hq) ?_ rfl ?_
    · rw [World.attempt_world] at hw
      subst hw
      rfl
    · exact fun due hd => World.due_of_attempt ha hd
  | @refuse m next e world hh ha =>
    have hw : world = (j.world.attempt j.codec m).2 := by rw [ha]
    rw [World.attempt_world] at hw
    subst hw
    exact hset _ _ rfl rfl rfl rfl
  | fail hs ha =>
    obtain ⟨rfl, -⟩ := World.settle_error ha
    exact hset _ _ rfl rfl rfl rfl
  | fill hs ha =>
    obtain ⟨-, rfl⟩ := World.settle_ok ha
    exact hset _ _ rfl rfl rfl rfl
  | visitReady hi hc =>
    exact hset _ _ (by rw [release_eq]) (release_now ..) (by rw [release_eq]) rfl
  | lingerReady hc =>
    exact hset _ _ (by rw [release_eq]) (release_now ..) (by rw [release_eq]) rfl
  | _ => exact hset _ _ rfl rfl rfl rfl

def clockAt (j : Job ν τ) (now : Nat) : Job ν τ :=
  { j with
    world := { j.world with now }
    timers := j.timers.filter fun t => now < t.1 }

theorem Timely.clockAt (h : j.Timely) (now : Nat) : (j.clockAt now).Timely := by
  refine ⟨fun e he => ?_, h.due⟩
  obtain ⟨he, hlt⟩ := List.mem_filter.mp he
  exact ⟨of_decide_eq_true hlt, (h.timers e he).2⟩

end Job

namespace Schedule

open Job

variable {ν τ : Type} {s s' : Schedule ν τ}

@[simp] theorem wake_job (s : Schedule ν τ) (ps : List ProcessId) : (s.wake ps).job = s.job := by
  induction ps generalizing s with
  | nil => rfl
  | cons p ps ih =>
    rw [wake, List.foldl_cons]
    change ((s.wakeOne p).wake ps).job = s.job
    rw [ih, wakeOne]
    split
    · rfl
    · split
      · rfl
      · rfl

@[simp] theorem beginRound_job (s : Schedule ν τ) : s.beginRound.job = s.job := by
  unfold beginRound
  simp only
  split
  · rfl
  · rfl

@[simp] theorem endRound_job (s : Schedule ν τ) : s.endRound.job = s.job := by
  simp [endRound]

theorem setClock_job (s : Schedule ν τ) (now : Nat) : (s.setClock now).job = s.job.clockAt now := by
  simp only [setClock, wake_job]
  rfl

theorem goOn_job (s : Schedule ν τ) (p : ProcessId) :
    (s.goOn p).job = s.job ∨ ∃ woken, s.job.step p 0 = some ((s.goOn p).job, woken) := by
  unfold goOn
  simp only
  split
  · exact .inl rfl
  · cases hs : s.job.step p 0 with
    | none => exact .inl rfl
    | some r =>
      obtain ⟨j, woken⟩ := r
      exact .inr ⟨woken, by simp [put]⟩

theorem idle_job (h : s.idle = some s') :
    s'.job = s.job ∨ ∃ e ∈ s.job.timers, s'.job = s.job.clockAt e.1 := by
  unfold idle at h
  split at h
  · cases h
    exact .inl s.endRound_job
  · split at h
    · obtain ⟨time, hm, rfl⟩ := Option.map_eq_some_iff.mp h
      obtain ⟨e, he, rfl⟩ := List.mem_map.mp (List.min?_mem hm)
      exact .inr ⟨e, he, by rw [beginRound_job, setClock_job]⟩
    · cases h

theorem tick_job (h : s.tick = some s') :
    s'.job = s.job ∨ (∃ p woken, s.job.step p 0 = some (s'.job, woken)) ∨
      ∃ e ∈ s.job.timers, s'.job = s.job.clockAt e.1 := by
  unfold tick at h
  split at h
  · rename_i p hp
    cases h
    rcases s.goOn_job p with hj | hj
    · exact .inl hj
    · exact .inr (.inl ⟨p, hj⟩)
  · split at h
    · cases h
      exact .inl s.endRound_job
    · split at h
      · cases h
        exact .inl rfl
      · rcases idle_job h with hj | hj
        · exact .inl hj
        · exact .inr (.inr hj)

/-- What happens in a schedule is a move of the job, or none. -/
theorem tick_move (ts : List (Nat × ProcessId)) (hs : s.job.Timely) (hj : 0 < s.job.tasks.length)
    (h : s.tick = some s') :
    s'.job.Timely ∧ 0 < s'.job.tasks.length ∧
      ∃ moves ts', Job.play? { s.job with timers := ts } moves = some { s'.job with timers := ts' } := by
  rcases tick_job h with he | ⟨p, woken, hstep⟩ | ⟨e, he, hclock⟩
  · rw [he]
    exact ⟨hs, hj, [], ts, rfl⟩
  · have hm : s.job.move? (.step p 0) = some s'.job := by rw [move?, hstep]; rfl
    obtain ⟨t, ticket, inSpan, ht, hr⟩ := step_rule hstep
    obtain ⟨ts', hts⟩ := move?_timers ts (.step p 0) hj
    refine ⟨hr.timely ht hs, Nat.lt_of_lt_of_le hj hr.length_le, [.step p 0], ts', ?_⟩
    rw [play?_cons, hts, hm]
    rfl
  · obtain ⟨hlt, hle⟩ := hs.timers e he
    have hnow : s.job.world.timeAfter (e.1 - s.job.world.now) = e.1 := by
      unfold World.timeAfter
      omega
    rw [hclock]
    refine ⟨hs.clockAt e.1, hj, [.elapse (e.1 - s.job.world.now)], ts, ?_⟩
    change some { s.job with
      timers := ts
      world := { s.job.world with now := s.job.world.timeAfter (e.1 - s.job.world.now) } } = _
    rw [hnow]
    rfl

/-- What becomes of a job in a schedule becomes of it in an interleaving. -/
theorem run_interleaving (fuel : Nat) (s : Schedule ν τ) (ts : List (Nat × ProcessId))
    (hs : s.job.Timely) (hj : 0 < s.job.tasks.length) :
    ∃ moves ts', Job.play? { s.job with timers := ts } moves =
      some { (s.run fuel).job with timers := ts' } := by
  induction fuel generalizing s ts with
  | zero => exact ⟨[], ts, rfl⟩
  | succ fuel ih =>
    rw [run]
    cases h : s.tick with
    | none => exact ⟨[], ts, rfl⟩
    | some s₁ =>
      obtain ⟨hs₁, hj₁, first, ts₁, h₁⟩ := tick_move ts hs hj h
      obtain ⟨rest, ts₂, h₂⟩ := ih s₁ ts₁ hs₁ hj₁
      exact ⟨first ++ rest, ts₂, by rw [play?_append, h₁, Option.bind_some, h₂]⟩

end Schedule
end Resync

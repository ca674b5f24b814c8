import Resync.Proofs.Cluster.Faithful
import Resync.Proofs.Job.OwnProbes
import Resync.Proofs.Job.Schedule

/-! # Faithful jobs

A job whose processes keep to their own connections keeps its world faithful, whatever the
interleaving. So a question about filled columns always comes to what a probe comes to.
-/
namespace Resync

namespace Job

variable {ν τ : Type} {j j' : Job ν τ} {m : Move} {p : ProcessId} {s : Process ν τ} {ticket : Option Nat}
  {inSpan : Bool} {catalog : String → Schema} {known : Member → Prop} {owner : Nat → Schema}
  {own : Side → String} {base : Nat}

/-- The world is faithful, the two snapshots are those of their sides, and all processes keep to
their own connections. -/
structure Faithful (catalog : String → Schema) (known : Member → Prop) (owner : Nat → Schema)
    (own : Side → String) (base : Nat) (j : Job ν τ) : Prop where
  orderly : j.traffic.Orderly
  linked : j.Linked base
  world : j.world.Faithful catalog known owner j.opened
  snapshot : ∀ side, j.snapshot side < j.world.cache.live.length ∧
    owner (j.snapshot side) = catalog (own side)
  probes : j.ProbesOwn known own

theorem Faithful.dedicated (h : j.Faithful catalog known owner own base) :
    j.world.Dedicated known base j.opened where
  length := h.linked.length
  number := h.linked.number
  backends := h.orderly.backends_nodup
  leads o ho := by
    obtain ⟨m, k, hm, hk, -⟩ := h.world.leads o ho
    exact ⟨m, k, hm, hk⟩

theorem Faithful.autoIncrement (h : j.Faithful catalog known owner own base) {side : Side} {c : Nat}
    {relation : String} {next : Except Error Bool → Program ν τ}
    (hp : j.process? p = some (.running (.ask (.autoIncrement side c relation) next))) :
    j.told side c relation = (catalog (own side)).probed relation ∧
      (j.access c fun w n => w.autoIncrement (j.snapshot side) n relation).2.world.Faithful catalog known
        owner j.opened ∧
      (j.access c fun w n => w.autoIncrement (j.snapshot side) n relation).2.world.cache.live.length =
        j.world.cache.live.length := by
  obtain ⟨n, ho⟩ : j.leads c (own side) := by
    cases h.probes p _ hp with
    | autoIncrement hc hnext => exact hc
    | ask hq hnext => exact (hq.2 _ _ _ rfl).elim
  obtain ⟨m, k, -, hk, hs⟩ := h.world.leads _ (List.mem_of_getElem? ho)
  obtain ⟨hlive, howner⟩ := h.snapshot side
  have hask := h.world.autoIncrement hlive hk (hs.trans howner.symm) relation
  rw [howner] at hask
  unfold told access
  rw [ho]
  exact hask

section Change

theorem access_faithful {α : Type} {f : World → Nat → Except Error α × World}
    (h : j.world.Faithful catalog known owner j.opened)
    (hf : ∀ n, (f j.world n).2.Faithful catalog known owner j.opened ∧
      (f j.world n).2.cache.live.length = j.world.cache.live.length) (c : Nat) :
    (j.access c f).2.world.Faithful catalog known owner j.opened ∧
      (j.access c f).2.world.cache.live.length = j.world.cache.live.length := by
  unfold access
  cases j.opened[c]? with
  | none => exact ⟨h, rfl⟩
  | some o => exact hf o.number

theorem release_faithful (h : j.world.Faithful catalog known owner j.opened) (inSpan : Bool) (b : String)
    (c : Nat) :
    (j.release inSpan b c).world.Faithful catalog known owner j.opened ∧
      (j.release inSpan b c).world.cache.live.length = j.world.cache.live.length := by
  unfold release
  cases j.opened[c]? with
  | none => exact ⟨h, rfl⟩
  | some o =>
    have hc := World.release_closes j.world inSpan b (Nat.zero_le o.number)
    exact ⟨h.release inSpan b o.number, congrArg (·.live.length) hc.cache⟩

theorem Faithful.reply (h : j.Faithful catalog known owner own base) {q : Request}
    {next : q.Reply τ → Program ν τ} {r : q.Reply τ} {world : World}
    (hp : j.process? p = some (.running (.ask q next))) (hr : j.reply? inSpan q = some (r, world)) :
    world.Faithful catalog known owner j.opened ∧
      world.cache.live.length = j.world.cache.live.length := by
  have hself : j.world.Faithful catalog known owner j.opened ∧
      j.world.cache.live.length = j.world.cache.live.length := ⟨h.world, rfl⟩
  have hasked : ∀ {α : Type} {a : Access α}, Access.Within Connection.Keeps a → ∀ n,
      (j.world.access n a).2.Faithful catalog known owner j.opened ∧
        (j.world.access n a).2.cache.live.length = j.world.cache.live.length := by
    intro α a ha n
    obtain ⟨connections, hw⟩ := j.world.access_shape n a
    exact ⟨h.world.access ha n, by rw [hw]⟩
  cases q with
  | isClosed c =>
    cases hr
    exact access_faithful (f := fun w n => w.access n Access.isClosed) h.world
      (hasked Access.keeps_isClosed) c
  | closeConnection c =>
    cases hr
    exact access_faithful (f := fun w n => w.access n Access.close) h.world
      (hasked Access.keeps_close) c
  | autoIncrement side c relation =>
    cases hr
    exact (h.autoIncrement hp).2
  | connection m =>
    simp only [reply?] at hr
    split at hr
    · cases hr
      exact hself
    · cases hr
  | activeSet =>
    cases hr
    exact hself
  | pool =>
    cases hr
    exact hself
  | termination =>
    simp only [reply?] at hr
    split at hr
    · cases hr
      exact hself
    · cases hr
  | join q =>
    obtain ⟨o, -, ho⟩ := Option.map_eq_some_iff.mp hr
    cases ho
    exact hself
  | signal name =>
    simp only [reply?] at hr
    split at hr
    · cases hr
      exact hself
    · cases hr
  | log e =>
    cases hr
    exact ⟨h.world.congr rfl rfl rfl rfl, rfl⟩
  | shutdown => cases hr
  | closeRegistry => cases hr
  | sleep d => cases hr

theorem Rule.world_faithful (ht : j.tasks[p]? = some ⟨s, ticket, inSpan⟩)
    (hr : Rule j p ticket inSpan s j') (h : j.Faithful catalog known owner own base) :
    j'.world.Faithful catalog known owner j'.opened ∧
      j'.world.cache.live.length = j.world.cache.live.length := by
  have hp := process?_of_task ht
  have hself : j.world.Faithful catalog known owner j.opened ∧
      j.world.cache.live.length = j.world.cache.live.length := ⟨h.world, rfl⟩
  have htimer : ∀ (s' : Process ν τ) (due : Nat),
      ((j.setProcess p s').setTimer p due).world.Faithful catalog known owner
          ((j.setProcess p s').setTimer p due).opened ∧
        ((j.setProcess p s').setTimer p due).world.cache.live.length = j.world.cache.live.length := by
    intro s' due
    obtain ⟨timers, htimers⟩ := (j.setProcess p s').setTimer_eq p due
    rw [htimers]
    exact hself
  cases hr with
  | reply hq => exact h.reply hp hq
  | sleep => exact htimer _ _
  | await hd => exact htimer _ _
  | @begin m next a world hh ha =>
    have hw : world = (j.world.attempt j.codec m).2 := by rw [ha]
    rw [World.attempt_world] at hw
    subst hw
    exact ⟨h.world.attempted m, rfl⟩
  | @refuse m next e world hh ha =>
    have hw : world = (j.world.attempt j.codec m).2 := by rw [ha]
    rw [World.attempt_world] at hw
    subst hw
    exact ⟨h.world.attempted m, rfl⟩
  | fail hs ha =>
    obtain ⟨rfl, -⟩ := World.settle_error ha
    exact hself
  | fill hs ha =>
    obtain ⟨rfl, rfl⟩ := World.settle_ok ha
    exact ⟨h.world.append (hs.connects (h.probes p _ hp)).1, rfl⟩
  | @visitReady todo next i b c hi hc =>
    have hw := release_faithful h.world inSpan b c
    rw [release_eq]
    exact hw
  | @lingerReady b todo next c hc =>
    have hw := release_faithful h.world inSpan b c
    rw [release_eq]
    exact hw
  | _ => exact hself

theorem Rule.snapshot (hr : Rule j p ticket inSpan s j') : j'.snapshot = j.snapshot := by
  cases hr with
  | sleep =>
    obtain ⟨timers, htimers⟩ := (j.setProcess p _).setTimer_eq p _
    rw [htimers]
    rfl
  | await hd =>
    obtain ⟨timers, htimers⟩ := (j.setProcess p _).setTimer_eq p _
    rw [htimers]
    rfl
  | visitReady hi hc =>
    rw [release_eq]
    rfl
  | lingerReady hc =>
    rw [release_eq]
    rfl
  | _ => rfl

theorem Change.faithful (hc : Change j m j') (h : j.Faithful catalog known owner own base) :
    j'.Faithful catalog known owner own base := by
  have horder : j'.traffic.Orderly := by
    obtain ⟨p, released, hs⟩ := hc.traffic
    exact h.orderly.step hs
  have hlinked := (hc.linked h.linked).1
  have hprobes := hc.probesOwn h.orderly h.probes
  cases hc with
  | step ht hr =>
    obtain ⟨hworld, hlength⟩ := hr.world_faithful ht h
    refine ⟨horder, hlinked, hworld, fun side => ?_, hprobes⟩
    rw [hlength, hr.snapshot]
    exact h.snapshot side
  | elapse => exact ⟨horder, hlinked, h.world.congr rfl rfl rfl rfl, h.snapshot, hprobes⟩
  | signal => exact ⟨horder, hlinked, h.world, h.snapshot, hprobes⟩
  | leave ht hs => exact ⟨horder, hlinked, h.world, h.snapshot, hprobes⟩
  | idle => exact ⟨horder, hlinked, h.world, h.snapshot, hprobes⟩

end Change

theorem Faithful.clockAt (h : j.Faithful catalog known owner own base) (now : Nat) :
    (j.clockAt now).Faithful catalog known owner own base :=
  ⟨h.orderly, ⟨h.linked.length, h.linked.number⟩, h.world.congr rfl rfl rfl rfl, h.snapshot, h.probes⟩

end Job

namespace Schedule

variable {ν τ : Type} {s s' : Schedule ν τ} {P : Job ν τ → Prop}

/-- What every change keeps, and the setting of the clock, is kept whatever happens in a schedule. -/
theorem tick_keeps (hchange : ∀ j m j', P j → Job.Change j m j' → P j')
    (hclock : ∀ j now, P j → P (j.clockAt now)) (h : P s.job) (hs : s.tick = some s') : P s'.job := by
  rcases tick_job hs with he | ⟨p, woken, hstep⟩ | ⟨e, -, hclocked⟩
  · rw [he]
    exact h
  · obtain ⟨t, ticket, inSpan, ht, hr⟩ := Job.step_rule hstep
    exact hchange _ _ _ h (.step (k := 0) ht hr)
  · rw [hclocked]
    exact hclock _ _ h

variable {catalog : String → Schema} {known : Member → Prop} {owner : Nat → Schema} {own : Side → String}
  {base : Nat}

theorem tick_faithful (h : s.job.Faithful catalog known owner own base) (hs : s.tick = some s') :
    s'.job.Faithful catalog known owner own base :=
  tick_keeps (P := fun j => j.Faithful catalog known owner own base) (fun _ _ _ h hc => hc.faithful h)
    (fun _ now h => h.clockAt now) h hs

end Schedule
end Resync

import Resync.Proofs.Job.Traffic

/-! # Backends that are served

Once a job has its connection to a backend, it keeps it: whatever the processes do, a request for the
backend is answered with that connection as soon as it comes to the cell, in a step that does nothing
else, and nobody makes another attempt to connect to the backend.
-/
namespace Resync

namespace Traffic

open Function (update)

/-- The registry has a connection to the backend, no other was opened to it, and nobody is opening one. -/
structure Served (t : Traffic) (c : Nat) (o : Opened) : Prop where
  ready : t.registry.cell o.backend = .ready c
  opened : t.opened[c]? = some o
  only : ∀ c' o', t.opened[c']? = some o' → o'.backend = o.backend → c' = c
  calm : ∀ p, t.place p ≠ .opening o.backend

namespace Served

variable {t t' : Traffic} {p : ProcessId} {released : Option Nat} {c : Nat} {o : Opened} {b : String}

theorem calm_update (h : t.Served c o) (p : ProcessId) {pl : Place} (hpl : pl ≠ .opening o.backend) (q : ProcessId) :
    update t.place p pl q ≠ .opening o.backend := by
  by_cases hq : q = p
  · subst hq
    rwa [Function.update_self]
  · rw [Function.update_of_ne hq]
    exact h.calm q

theorem goes {r : Registry} {pl : Place} (h : t.Served c o) (hr : r.cell o.backend = .ready c)
    (hpl : pl ≠ .opening o.backend) : Served { t with registry := r, place := update t.place p pl } c o where
  ready := hr
  opened := h.opened
  only := h.only
  calm := h.calm_update p hpl

theorem isReady (h : t.Served c o) : (t.registry.cell o.backend).isReady = true := by
  rw [h.ready]
  rfl

theorem ne_of_holder (h : t.Served c o) (hh : (t.registry.cell b).holder? = some p) : b ≠ o.backend := by
  rintro rfl
  rw [h.ready] at hh
  cases hh

theorem ne_of_opening (h : t.Served c o) (hp : t.place p = .opening b) : b ≠ o.backend := by
  rintro rfl
  exact h.calm p hp

theorem cell_change (h : t.Served c o) (hb : b ≠ o.backend) (f : Cell → Cell × List ProcessId) :
    (t.registry.change b f).1.cell o.backend = .ready c := by
  rw [Registry.cell_change, if_neg hb]
  exact h.ready

theorem cell_approach (h : t.Served c o) (hb : b ≠ o.backend) (p : ProcessId) :
    (t.registry.approach b p).cell o.backend = .ready c := by
  rw [Registry.cell_approach, if_neg hb]
  exact h.ready

theorem cell_leave (h : t.Served c o) (p : ProcessId) (b : Option String) :
    (t.registry.leave p b).cell o.backend = .ready c := by
  cases b with
  | none => exact h.ready
  | some b =>
    rw [Registry.leave, Registry.cell_change]
    split
    · rename_i hb
      rw [hb, h.ready]
      rfl
    · exact h.ready

theorem step (h : t.Served c o) (hs : Step t p released t') : t'.Served c o := by
  cases hs with
  | stay => exact h
  | enter hp hr => exact h.goes ((Registry.cell_admit? hr _).trans h.ready) nofun
  | take hp hc => exact h.goes h.ready nofun
  | @approach b hp hc =>
    have hb : b ≠ o.backend := by
      rintro rfl
      rw [h.isReady] at hc
      cases hc
    exact h.goes (h.cell_approach hb p) nofun
  | @begin b hp hh =>
    have hb := h.ne_of_holder hh
    refine h.goes h.ready ?_
    rintro ⟨⟩
    exact hb rfl
  | @fail b hp =>
    have hb : b ≠ o.backend := hp.elim (fun hp => h.ne_of_holder hp.2) h.ne_of_opening
    exact h.goes (h.cell_change hb _) nofun
  | @fill b n hp =>
    have hb := h.ne_of_opening hp
    have hlt := (List.getElem?_eq_some_iff.mp h.opened).1
    refine ⟨h.cell_change hb (Cell.fill t.opened.length), ?_, fun c' o' ho' hb' => ?_, h.calm_update p nofun⟩
    · rw [List.getElem?_append_left hlt]
      exact h.opened
    · simp only at ho'
      rw [List.getElem?_append] at ho'
      split at ho'
      · exact h.only c' o' ho' hb'
      · rw [List.getElem?_singleton] at ho'
        split at ho'
        · cases ho'
          exact absurd hb' hb
        · cases ho'
  | drain hp => exact h.goes h.ready nofun
  | visitReady hp hi hc => exact h.goes h.ready nofun
  | visitFree hp hi hc => exact h.goes h.ready nofun
  | @visitHeld todo i b hp hi hc =>
    have hb : b ≠ o.backend := by
      rintro rfl
      exact hc (Cell.members_of_isReady h.isReady)
    exact h.goes (h.cell_approach hb p) nofun
  | depart hp => exact h.goes h.ready nofun
  | lingerReady hp hc => exact h.goes h.ready nofun
  | lingerPass hp hh => exact h.goes (h.cell_change (h.ne_of_holder hh) _) nofun
  | leave => exact h.goes (h.cell_leave p _) nofun

end Served
end Traffic

namespace World

variable {w w' w'' : World} {ms : List Member} {m m' : Member}

theorem backend_congr (h : w'.backends = w.backends) (m : Member) : w'.backend m = w.backend m := by
  rw [backend, backend, h]

/-- Members with one handle are the same backend, whatever they are called. -/
theorem backend_of_handle (w : World) (h : m.handle = m'.handle) : ∃ id, w.backend m' = { w.backend m with id } := by
  rw [backend, backend, h]
  cases w.backends.get? m'.handle with
  | none => exact ⟨m'.id, rfl⟩
  | some b => exact ⟨b.id, rfl⟩

/-- What has happened to the backends is one attempt to connect to each of the members. -/
def Tried (w : World) (ms : List Member) (w' : World) : Prop :=
  ∀ m, (w'.backend m).attempts = (w.backend m).attempts + ms.countP fun m' => m'.handle = m.handle

theorem tried_of_eq (h : w'.backends = w.backends) : w.Tried [] w' := fun m => by
  rw [backend_congr h]
  rfl

theorem Tried.congr (h : w.Tried ms w') (hb : w''.backends = w'.backends) : w.Tried ms w'' := fun m => by
  rw [backend_congr hb, h m]

theorem Tried.attempted (h : w.Tried ms w') (m : Member) : w.Tried (ms ++ [m]) (w'.attempted m) := fun m' => by
  rw [backend_attempted, List.countP_append, List.countP_singleton]
  by_cases hm : m.handle = m'.handle
  · obtain ⟨id, hid⟩ := w'.backend_of_handle hm
    have hattempts : (w'.backend m).attempts = (w'.backend m').attempts := by rw [hid]
    rw [if_pos hm, if_pos (decide_eq_true hm), hattempts, h m', Nat.add_assoc]
  · rw [if_neg hm, if_neg (by simpa using hm), h m', Nat.add_zero]

end World

namespace Job

variable {ν τ : Type} {j j' : Job ν τ} {p : ProcessId} {s : Process ν τ} {ticket : Option Nat} {inSpan : Bool}
  {c : Nat} {o : Opened} {m : Member} {moves : List Move}

theorem Touched.backends {world : World} (h : Touched j inSpan world) : world.backends = j.world.backends := by
  cases h with
  | same => rfl
  | reported => rfl
  | told ho => exact World.access_backends ..
  | closed ho => exact World.access_backends ..
  | probed ho => exact World.autoIncrement_backends ..

theorem release_backends (j : Job ν τ) (inSpan : Bool) (b : String) (c : Nat) :
    (j.release inSpan b c).world.backends = j.world.backends := by
  unfold release
  cases j.opened[c]? with
  | none => rfl
  | some o => exact World.release_backends ..

/-- An attempt to connect to a backend is made only by who has the turn at its cell. -/
theorem Rule.backends (hr : Rule j p ticket inSpan s j') :
    j'.world.backends = j.world.backends ∨ ∃ m next, s = .queued m next ∧
      (j.registry.cell m.id).holder? = some p ∧ j'.world.backends = (j.world.attempted m).backends := by
  have hattempt : ∀ {m : Member} {r : Except Error Attempt} {world : World},
      j.world.attempt j.codec m = (r, world) → world.backends = (j.world.attempted m).backends := by
    intro m r world ha
    rw [← World.attempt_world j.world j.codec m, ha]
  cases hr with
  | reply h => exact .inl (reply?_touched h).backends
  | sleep =>
    obtain ⟨timers, h⟩ := setTimer_eq (j.setProcess p _) p _
    rw [h]
    exact .inl rfl
  | begin hh ha => exact .inr ⟨_, _, rfl, hh, hattempt ha⟩
  | refuse hh ha => exact .inr ⟨_, _, rfl, hh, hattempt ha⟩
  | await h =>
    obtain ⟨timers, h⟩ := setTimer_eq (j.setProcess p _) p _
    rw [h]
    exact .inl rfl
  | fail hs ha =>
    obtain ⟨rfl, -⟩ := World.settle_error ha
    exact .inl rfl
  | fill hs ha =>
    obtain ⟨-, rfl⟩ := World.settle_ok ha
    exact .inl rfl
  | visitReady hi hc => exact .inl (release_backends ..)
  | lingerReady hc => exact .inl (release_backends ..)
  | _ => exact .inl rfl

theorem Change.backends {mv : Move} (h : Change j mv j') :
    j'.world.backends = j.world.backends ∨ ∃ p m next, j.process? p = some (.queued m next) ∧
      (j.registry.cell m.id).holder? = some p ∧ j'.world.backends = (j.world.attempted m).backends := by
  cases h with
  | @step p k s ticket inSpan j' ht hr =>
    rcases hr.backends with h | ⟨m, next, rfl, hh, hb⟩
    · exact .inl h
    · exact .inr ⟨p, m, next, process?_of_task ht, hh, hb⟩
  | elapse => exact .inl rfl
  | signal => exact .inl rfl
  | leave ht hs => exact .inl rfl
  | idle => exact .inl rfl

theorem served_play? (h : j.traffic.Served c o) (hj : j.play? moves = some j') : j'.traffic.Served c o := by
  refine play?_keeps (P := fun j => j.traffic.Served c o) (fun j m j' h hc => ?_) h hj
  obtain ⟨p, released, hs⟩ := hc.traffic
  exact h.step hs

/-- Whatever attempts to connect a job makes, none is for a backend that it serves. -/
theorem tried_play? {served : List String} (h : ∀ b ∈ served, ∃ c n, j.traffic.Served c ⟨b, n⟩)
    (hj : j.play? moves = some j') : ∃ ms, (∀ m ∈ ms, m.id ∉ served) ∧ j.world.Tried ms j'.world := by
  have hkept : (∀ b ∈ served, ∃ c n, j'.traffic.Served c ⟨b, n⟩) ∧
      ∃ ms, (∀ m ∈ ms, m.id ∉ served) ∧ j.world.Tried ms j'.world := by
    refine play?_keeps (P := fun j' => (∀ b ∈ served, ∃ c n, j'.traffic.Served c ⟨b, n⟩) ∧
      ∃ ms, (∀ m ∈ ms, m.id ∉ served) ∧ j.world.Tried ms j'.world)
      (fun j₁ m j₂ hj₁ hc => ?_) ⟨h, [], nofun, World.tried_of_eq rfl⟩ hj
    obtain ⟨hserved, ms, hms, htried⟩ := hj₁
    obtain ⟨p, released, hs⟩ := hc.traffic
    refine ⟨fun b hb => ?_, ?_⟩
    · obtain ⟨c, n, hb⟩ := hserved b hb
      exact ⟨c, n, hb.step hs⟩
    · rcases hc.backends with hb | ⟨p, m, next, -, hh, hb⟩
      · exact ⟨ms, hms, htried.congr hb⟩
      · refine ⟨ms ++ [m], fun m' hm' => ?_, (htried.attempted m).congr hb⟩
        rcases List.mem_append.mp hm' with hm' | hm'
        · exact hms m' hm'
        · cases List.mem_singleton.mp hm'
          intro hid
          obtain ⟨c, n, hready⟩ := hserved _ hid
          exact hready.ne_of_holder hh rfl
  exact hkept.2

/-- A request for a backend that is served is let in, and nothing else happens. -/
theorem move?_request {next : Except Error Nat → Program ν τ} (h : j.traffic.Served c o) (hm : m.id = o.backend)
    (hopen : j.registry.closed = false) (hp : j.process? p = some (.running (.ask (.connection m) next)))
    (k : Nat) : j.move? (.step p k) = some (j.setProcess p (.admitted m next)) := by
  obtain ⟨t, ht, hts⟩ := Option.map_eq_some_iff.mp hp
  have hready : j.registry.cell m.id = .ready c := hm ▸ h.ready
  have hadmit : j.registry.admit? m.id = some j.registry := by
    have hcontains : j.registry.cells.contains m.id = true := by
      cases hg : j.registry.cells.get? m.id with
      | none =>
        rw [Registry.cell, hg] at hready
        cases hready
      | some cell =>
        rw [Assoc.contains, hg]
        rfl
    rw [Registry.admit?, if_neg (by rw [hopen]; exact Bool.false_ne_true), if_pos hcontains]
  simp [move?, step, ht, hts, advance, answer, hadmit]

/-- At the cell it has the connection that there is, and nothing else happens. -/
theorem move?_admitted {next : Except Error Nat → Program ν τ} (h : j.traffic.Served c o) (hm : m.id = o.backend)
    (hp : j.process? p = some (.admitted m next)) (k : Nat) :
    j.move? (.step p k) = some (j.setProcess p (.running (next (.ok c)))) := by
  obtain ⟨t, ht, hts⟩ := Option.map_eq_some_iff.mp hp
  have hready : j.registry.cell m.id = .ready c := hm ▸ h.ready
  simp [move?, step, ht, hts, approach, hready]

end Job
end Resync

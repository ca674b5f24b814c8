import Resync.Proofs.Job.Faithful
import Resync.Proofs.Job.Twin

/-! # Twins in lockstep

If twins are faithful to one catalog, questions about filled columns are among what is answered
alike, so the same moves are possible for both and leave twins. The same happens in their schedules,
too: the same process has the turn, is charged the same, goes on alike and wakes the same.
-/
namespace Resync

structure Probe where
  process : ProcessId
  side : Side
  connection : Nat
  relation : String
  answer : Except Error Bool

section Probes

variable {ν τ : Type}

/-- The question that process `p` is about to ask, if it is about filled columns, and its answer. -/
def Job.probe? (j : Job ν τ) (p : ProcessId) : Option Probe :=
  match j.process? p with
  | some (.running (.ask (.autoIncrement side c relation) _)) =>
    some ⟨p, side, c, relation, j.told side c relation⟩
  | _ => none

def Job.probes (j : Job ν τ) : List Move → List Probe
  | [] => []
  | m :: moves =>
    match j.move? m with
    | none => []
    | some j' =>
      match m with
      | .step p _ => (j.probe? p).toList ++ probes j' moves
      | _ => probes j' moves

/-- The questions about filled columns that are asked in a schedule, in order. A process with the
turn always comes to ask what it is about to, as that costs nothing of its allowance. -/
def Schedule.probes : Nat → Schedule ν τ → List Probe
  | 0, _ => []
  | fuel + 1, s =>
    match s.tick with
    | none => []
    | some s' => (s.current.bind s.job.probe?).toList ++ probes fuel s'

end Probes

namespace Job

variable {ν τ : Type} {base base' : Nat} {j j' : Job ν τ} {catalog : String → Schema} {known : Member → Prop}
  {owner owner' : Nat → Schema} {own : Side → String}

section Faithful

variable (h : Twin base base' j j') (hj : j.Faithful catalog known owner own base)
  (hj' : j'.Faithful catalog known owner' own base')
include h hj hj'

theorem Twin.told {p : ProcessId} {side : Side} {c : Nat} {relation : String}
    {next : Except Error Bool → Program ν τ}
    (hp : j.process? p = some (.running (.ask (.autoIncrement side c relation) next))) :
    j'.told side c relation = j.told side c relation := by
  have hp' := (h.process? p).trans hp
  rw [(hj.autoIncrement hp).1, (hj'.autoIncrement hp').1]

theorem Twin.probe? (p : ProcessId) : j'.probe? p = j.probe? p := by
  unfold Job.probe?
  rw [h.process? p]
  split
  · rename_i side c relation next hp
    rw [h.told hj hj' hp]
  · rfl

end Faithful

theorem Twin.play? (moves : List Move) (h : Twin base base' j j')
    (hj : j.Faithful catalog known owner own base) (hj' : j'.Faithful catalog known owner' own base') :
    Option.Rel (Twin base base') (j.play? moves) (j'.play? moves) ∧ j'.probes moves = j.probes moves := by
  induction moves generalizing j j' with
  | nil => exact ⟨.some h, rfl⟩
  | cons m moves ih =>
    have hmove := h.move? hj.linked hj'.linked (fun p side c relation next hp => h.told hj hj' hp) m
    have hprobe := h.probe? hj hj'
    rw [play?_cons, play?_cons]
    unfold Job.probes
    generalize hm : j.move? m = r at hmove
    generalize hm' : j'.move? m = r' at hmove
    cases hmove with
    | none => exact ⟨.none, rfl⟩
    | some h₁ =>
      obtain ⟨hplay, hprobes⟩ := ih h₁ ((move?_change hm).faithful hj) ((move?_change hm').faithful hj')
      refine ⟨hplay, ?_⟩
      cases m with
      | step p choice =>
        simp only
        rw [hprobe p, hprobes]
      | elapse d => exact hprobes
      | abort p => exact hprobes
      | signal name => exact hprobes

end Job

namespace Schedule

variable {ν τ : Type} {base base' : Nat} {s s' : Schedule ν τ}

inductive Twin (base base' : Nat) (s : Schedule ν τ) : Schedule ν τ → Prop
  | of {j : Job ν τ} (h : s.job.Twin base base' j) : Twin base base' s { s with job := j }

theorem Twin.job (h : Twin base base' s s') : s.job.Twin base base' s'.job := by
  obtain ⟨h⟩ := h
  exact h

theorem Twin.wakeOne (h : Twin base base' s s') (p : ProcessId) :
    Twin base base' (s.wakeOne p) (s'.wakeOne p) := by
  have houtcome := h.job.outcome? p
  obtain ⟨h⟩ := h
  unfold Schedule.wakeOne
  rw [houtcome]
  split
  · exact .of h
  · split
    · exact .of h
    · exact .of h

theorem Twin.wake (h : Twin base base' s s') (ps : List ProcessId) :
    Twin base base' (s.wake ps) (s'.wake ps) := by
  induction ps generalizing s s' with
  | nil => exact h
  | cons p ps ih => exact ih (h.wakeOne p)

theorem Twin.put (h : Twin base base' s s') {r r' : Job ν τ × List ProcessId}
    (hr : Job.Alike base base' r r') : Twin base base' (s.put r) (s'.put r') := by
  obtain ⟨h⟩ := h
  obtain ⟨htwin, hwoken⟩ := hr
  obtain ⟨j, woken⟩ := r
  obtain ⟨j', woken'⟩ := r'
  cases hwoken
  exact (Twin.of htwin : Twin base base' { s with job := j } _).wake woken

theorem setClock_eq (s : Schedule ν τ) (now : Nat) :
    s.setClock now = { s with job := s.job.clockAt now }.wake ((due now s.job.timers).map Prod.snd) := rfl

theorem Twin.setClock (h : Twin base base' s s') (now : Nat) :
    Twin base base' (s.setClock now) (s'.setClock now) := by
  have hclock : (s.job.clockAt now).Twin base base' (s'.job.clockAt now) := by
    obtain ⟨⟨hw, ho⟩⟩ := h
    exact .moved ⟨rfl, hw.active, hw.backend, hw.connection⟩ ho
  rw [setClock_eq, setClock_eq, h.job.timers]
  obtain ⟨h⟩ := h
  exact (Twin.of hclock : Twin base base' { s with job := s.job.clockAt now } _).wake _

theorem Twin.beginRound (h : Twin base base' s s') : Twin base base' s.beginRound s'.beginRound := by
  obtain ⟨h⟩ := h
  unfold Schedule.beginRound
  simp only
  split
  · exact .of h
  · exact .of h

theorem Twin.endRound (h : Twin base base' s s') : Twin base base' s.endRound s'.endRound := by
  obtain ⟨h⟩ := h
  exact (Twin.wake (.of h : Twin base base' { s with exhausted := [] } _) _).beginRound

theorem Twin.isPending (h : Twin base base' s s') : s'.isPending = s.isPending := by
  obtain ⟨⟨hw, ho⟩⟩ := h
  rfl

theorem Twin.idle (h : Twin base base' s s') : Option.Rel (Twin base base') s.idle s'.idle := by
  have hpending := h.isPending
  have hmain : s'.mainWoken = s.mainWoken := by
    obtain ⟨h⟩ := h
    rfl
  have hexhausted : s'.exhausted = s.exhausted := by
    obtain ⟨h⟩ := h
    rfl
  unfold Schedule.idle
  rw [hpending, hmain, hexhausted, h.job.timers]
  split
  · exact .some h.endRound
  · split
    · cases (s.job.timers.map Prod.fst).min? with
      | none => exact .none
      | some time => exact .some (h.setClock time).beginRound
    · exact .none

section Faithful

variable {catalog : String → Schema} {known : Member → Prop} {owner owner' : Nat → Schema}
  {own : Side → String} (h : Twin base base' s s') (hs : s.job.Faithful catalog known owner own base)
  (hs' : s'.job.Faithful catalog known owner' own base')

include h hs hs' in
theorem Twin.probe? : s'.current.bind s'.job.probe? = s.current.bind s.job.probe? := by
  have hcurrent : s'.current = s.current := by
    obtain ⟨h⟩ := h
    rfl
  rw [hcurrent]
  exact Option.bind_congr fun p _ => h.job.probe? hs hs' p

include h hs hs' in
theorem Twin.goOn (p : ProcessId) : Twin base base' (s.goOn p) (s'.goOn p) := by
  have hstep := h.job.step (p := p) hs.linked hs'.linked (fun side c relation next hp => h.job.told hs hs' hp) 0
  have hcharge := h.job.charge p
  have hallowance : s'.allowance = s.allowance := by
    obtain ⟨h⟩ := h
    rfl
  unfold Schedule.goOn
  simp only
  rw [hcharge, hallowance]
  split
  · obtain ⟨h⟩ := h
    exact .of h
  · generalize s.job.step p 0 = r at hstep
    generalize s'.job.step p 0 = r' at hstep
    cases hstep with
    | none =>
      obtain ⟨h⟩ := h
      exact .of h
    | some hr =>
      obtain ⟨h⟩ := h
      have hcharged : Twin base base' { s with allowance := s.allowance - (s.job.charge p).taken } _ := .of h
      exact hcharged.put hr

include h hs hs' in
theorem Twin.tick : Option.Rel (Twin base base') s.tick s'.tick := by
  have hgoOn := h.goOn hs hs'
  have hidle := h.idle
  have hend := h.endRound
  obtain ⟨h⟩ := h
  unfold Schedule.tick
  simp only
  split
  · exact .some (hgoOn _)
  · split
    · exact .some hend
    · split
      · exact .some (.of h)
      · exact hidle

end Faithful

/-- Faithful twins do the same and ask the same with the same answers, however long they run. -/
theorem Twin.run {catalog : String → Schema} {known : Member → Prop} {owner owner' : Nat → Schema}
    {own : Side → String} (fuel : Nat) (h : Twin base base' s s')
    (hs : s.job.Faithful catalog known owner own base)
    (hs' : s'.job.Faithful catalog known owner' own base') :
    Twin base base' (s.run fuel) (s'.run fuel) ∧ s'.probes fuel = s.probes fuel := by
  induction fuel generalizing s s' with
  | zero => exact ⟨h, rfl⟩
  | succ fuel ih =>
    have htick := h.tick hs hs'
    have hprobe := h.probe? hs hs'
    unfold Schedule.run Schedule.probes
    generalize hn : s.tick = r at htick
    generalize hn' : s'.tick = r' at htick
    cases htick with
    | none => exact ⟨h, rfl⟩
    | some h₁ =>
      obtain ⟨hrun, hprobes⟩ := ih h₁ (tick_faithful hs hn) (tick_faithful hs' hn')
      refine ⟨hrun, ?_⟩
      simp only
      rw [hprobe, hprobes]

end Schedule
end Resync

import Resync.Proofs.Job.Rules

/-! # Runs of a job

A move of an interleaving is a step by one of the rules, the passing of time, a signal, or
the end of a process from outside, which leaves the cell it has come to. What every such
change keeps is kept by every interleaving.
-/
namespace Resync

def Registry.leave (r : Registry) (p : ProcessId) : Option String → Registry
  | none => r
  | some b => (r.change b (Cell.leave p)).1

namespace Job

variable {ν τ : Type}

inductive Change (j : Job ν τ) : Move → Job ν τ → Prop
  | step {p : ProcessId} {k : Nat} {s : Process ν τ} {ticket : Option Nat} {inSpan : Bool}
      {j' : Job ν τ} (ht : j.tasks[p]? = some ⟨s, ticket, inSpan⟩)
      (hr : Rule j p ticket inSpan s j') : Change j (.step p k) j'
  | elapse {d : Nat} :
      Change j (.elapse d) { j with world := { j.world with now := j.world.timeAfter d } }
  | signal {name : String} : Change j (.signal name) { j with signals := j.signals ++ [name] }
  | leave {p : ProcessId} {s : Process ν τ} {ticket : Option Nat} {inSpan : Bool}
      {timers : List (Nat × ProcessId)} (ht : j.tasks[p]? = some ⟨s, ticket, inSpan⟩)
      (hs : ∀ o, s ≠ .ended o) :
      Change j (.abort p) ({ j with
        registry := j.registry.leave p s.cell?
        timers
        pool := j.poolAfter ticket }.setProcess p (.ended .cancelled))
  | idle {p : ProcessId} : Change j (.abort p) j

theorem leave_eq {j : Job ν τ} {p : ProcessId} {s : Process ν τ} {ticket : Option Nat}
    {inSpan : Bool} (ht : j.tasks[p]? = some ⟨s, ticket, inSpan⟩) (hs : ∀ o, s ≠ .ended o) :
    (j.abort p).1 = { j with
      registry := j.registry.leave p s.cell?
      timers := j.timers.filter (·.2 ≠ p)
      pool := j.poolAfter ticket }.setProcess p (.ended .cancelled) := by
  have hp : j.process? p = some s := by simp [process?, ht]
  have hf : ∀ registry, ({ j with registry, timers := j.timers.filter (·.2 ≠ p) }.finish p .cancelled).1 =
      { j with
        registry
        timers := j.timers.filter (·.2 ≠ p)
        pool := j.poolAfter ticket }.setProcess p (.ended .cancelled) := by
    intro registry
    exact finish_eq (j := { j with registry, timers := j.timers.filter (·.2 ≠ p) }) .cancelled ht
  unfold abort
  cases s with
  | ended o => exact absurd rfl (hs o)
  | queued m next =>
    have hc : (j.changeCell m.id (Cell.leave p)).1.process? p = some (.queued m next) := hp
    simp only [hp, hc]
    exact hf _
  | opening m a next =>
    have hc : (j.changeCell m.id (Cell.leave p)).1.process? p = some (.opening m a next) := hp
    simp only [hp, hc]
    exact hf _
  | awaiting m a due next =>
    have hc : (j.changeCell m.id (Cell.leave p)).1.process? p = some (.awaiting m a due next) := hp
    simp only [hp, hc]
    exact hf _
  | lingering b todo next =>
    have hc : (j.changeCell b (Cell.leave p)).1.process? p = some (.lingering b todo next) := hp
    simp only [hp, hc]
    exact hf _
  | fresh body => simp only [hp]; exact hf _
  | running program => simp only [hp]; exact hf _
  | admitted m next => simp only [hp]; exact hf _
  | asleep due next => simp only [hp]; exact hf _
  | visiting todo next => simp only [hp]; exact hf _

theorem abort_of_gone {j : Job ν τ} {p : ProcessId} (hp : ∀ s, j.process? p = some s → ∃ o, s = .ended o) :
    (j.abort p).1 = j := by
  cases h : j.process? p with
  | none => simp only [abort, h]
  | some s =>
    obtain ⟨o, rfl⟩ := hp s h
    simp only [abort, h]

theorem gone_or_task (j : Job ν τ) (p : ProcessId) :
    (∀ s, j.process? p = some s → ∃ o, s = .ended o) ∨
      ∃ s ticket inSpan, j.tasks[p]? = some ⟨s, ticket, inSpan⟩ ∧ ∀ o, s ≠ .ended o := by
  cases ht : j.tasks[p]? with
  | none => exact .inl (by simp [process?, ht])
  | some t =>
    obtain ⟨s, ticket, inSpan⟩ := t
    by_cases hs : ∃ o, s = .ended o
    · refine .inl fun s' hs' => ?_
      rw [process?_of_task ht] at hs'
      cases hs'
      exact hs
    · exact .inr ⟨s, ticket, inSpan, rfl, fun o ho => hs ⟨o, ho⟩⟩

theorem abort_change (j : Job ν τ) (p : ProcessId) : Change j (.abort p) (j.abort p).1 := by
  rcases j.gone_or_task p with hp | ⟨s, ticket, inSpan, ht, hn⟩
  · rw [abort_of_gone hp]
    exact .idle
  · rw [leave_eq ht hn]
    exact .leave ht hn

theorem move?_change {j j' : Job ν τ} {m : Move} (h : j.move? m = some j') :
    Change j m j' := by
  cases m with
  | step p choice =>
    obtain ⟨⟨j₁, woken⟩, hs, rfl⟩ := Option.map_eq_some_iff.mp h
    obtain ⟨s, ticket, inSpan, ht, hr⟩ := step_rule hs
    exact .step ht hr
  | elapse d =>
    cases h
    exact .elapse
  | abort p =>
    cases h
    exact abort_change j p
  | signal name =>
    cases h
    exact .signal

theorem play?_append (j : Job ν τ) (before after : List Move) :
    j.play? (before ++ after) = (j.play? before).bind fun j => j.play? after :=
  List.foldlM_append

@[simp] theorem play?_nil (j : Job ν τ) : j.play? [] = some j := rfl

theorem play?_cons (j : Job ν τ) (m : Move) (moves : List Move) :
    j.play? (m :: moves) = (j.move? m).bind fun j => j.play? moves := rfl

/-- What every change keeps is kept by every interleaving. -/
theorem play?_keeps {P : Job ν τ → Prop} (hP : ∀ j m j', P j → Change j m j' → P j')
    {moves : List Move} {j j' : Job ν τ} (hj : P j) (h : j.play? moves = some j') : P j' := by
  induction moves generalizing j with
  | nil =>
    cases h
    exact hj
  | cons m moves ih =>
    rw [play?_cons] at h
    obtain ⟨j₁, h₁, h₂⟩ := Option.bind_eq_some_iff.mp h
    exact ih (hP j m j₁ hj (move?_change h₁)) h₂

/-- Induction on a run that looks back: at every move, the moves before it are known. -/
theorem play?_history {P : List Move → Job ν τ → Prop} {j₀ : Job ν τ} (h₀ : P [] j₀)
    (hP : ∀ moves j m j', j₀.play? moves = some j → P moves j → Change j m j' → P (moves ++ [m]) j')
    {moves : List Move} {j : Job ν τ} (h : j₀.play? moves = some j) : P moves j := by
  suffices hgo : ∀ (rest before : List Move) (j₁ : Job ν τ), j₀.play? before = some j₁ → P before j₁ →
      j₁.play? rest = some j → P (before ++ rest) j from hgo moves [] j₀ rfl h₀ h
  intro rest
  induction rest with
  | nil =>
    intro before j₁ hb hp hr
    cases hr
    rw [List.append_nil]
    exact hp
  | cons m rest ih =>
    intro before j₁ hb hp hr
    rw [play?_cons] at hr
    obtain ⟨j₂, h₁, h₂⟩ := Option.bind_eq_some_iff.mp hr
    have hm : j₀.play? (before ++ [m]) = some j₂ := by
      rw [play?_append, hb, Option.bind_some, play?_cons, h₁]
      rfl
    have hstep := ih (before ++ [m]) j₂ hm (hP before j₁ m j₂ hb hp (move?_change h₁)) h₂
    rwa [List.append_assoc, List.singleton_append] at hstep

/-- A move leaves a process where it is, unless it is the process's own step or its end. -/
theorem Change.others {j j' : Job ν τ} {m : Move} (h : Change j m j') {q : ProcessId}
    {s : Process ν τ} (hs : j.process? q = some s) (hq : ∀ k, m ≠ .step q k) :
    j'.process? q = some s ∨ m = .abort q ∧ j'.process? q = some (.ended .cancelled) := by
  cases h with
  | @step p k s' ticket inSpan j' ht hr =>
    refine .inl (hr.others ?_ hs)
    rintro rfl
    exact hq k rfl
  | elapse => exact .inl hs
  | signal => exact .inl hs
  | @leave p s' ticket inSpan timers ht hn =>
    rw [process?_setProcess]
    by_cases hqp : q = p
    · subst hqp
      rw [if_pos rfl]
      have hp : j.process? q = some s' := by simp [process?, ht]
      exact .inr ⟨rfl, congrArg (Option.map fun _ => _) hp⟩
    · rw [if_neg hqp]
      exact .inl hs
  | idle => exact .inl hs

theorem Change.value {j j' : Job ν τ} {m : Move} (h : Change j m j') {q : ProcessId} {r : τ}
    (hq : j'.process? q = some (.ended (.value r))) :
    j.process? q = some (.ended (.value r)) ∨
      (∃ k, m = .step q k) ∧ j.process? q = some (.running (.done r)) := by
  cases h with
  | @step p k s ticket inSpan j' ht hr =>
    rcases hr.value ht hq with hq | ⟨rfl, rfl⟩
    · exact .inl hq
    · exact .inr ⟨⟨k, rfl⟩, process?_of_task ht⟩
  | elapse => exact .inl hq
  | signal => exact .inl hq
  | @leave p s ticket inSpan timers ht hs =>
    rw [process?_setProcess] at hq
    split at hq
    · obtain ⟨s', -, hs'⟩ := Option.map_eq_some_iff.mp hq
      cases hs'
    · exact .inl hq
  | idle => exact .inl hq

theorem Change.length_le {j j' : Job ν τ} {m : Move} (h : Change j m j') :
    j.tasks.length ≤ j'.tasks.length := by
  cases h with
  | step ht hr => exact hr.length_le
  | elapse => exact Nat.le_refl _
  | signal => exact Nat.le_refl _
  | leave ht hs => exact Nat.le_of_eq (length_setProcess ..).symm
  | idle => exact Nat.le_refl _

end Job
end Resync

import Resync.Job.Synchronization
import Resync.Proofs.Job.Conduct
import Resync.Proofs.Job.Sweep
import Resync.Proofs.Job.Tickets

/-! # The end of a job

When its strategy has come to a result, a job shuts the pool down, waits for all tasks,
closes the registry and reports. Nobody else closes the registry before that, and once the
tasks have ended nobody opens a connection any longer. So at the end the pool is idle and
every connection is released, whatever has happened meanwhile.
-/
namespace Resync

def Process.submission? {ν τ : Type} : Process ν τ → Option (Program ν τ)
  | running (.submit body _) => some body
  | _ => none

namespace Job

variable {ν : Type} {base : Nat} {main : ProcessId} {cluster : String} {r : Except Error Unit}

def awaitTasks (cluster : String) (r : Except Error Unit) : Unit → Program ν (Except Error Unit) :=
  fun _ => .ask .termination fun _ => .ask .closeRegistry fun _ => .ask .shutdown fun _ =>
    .ask (.log (completion cluster r)) fun _ => .done r

def afterClose (cluster : String) (r : Except Error Unit) : Unit → Program ν (Except Error Unit) :=
  fun _ => .ask .shutdown fun _ => .ask (.log (completion cluster r)) fun _ => .done r

structure Regular {τ : Type} (base : Nat) (main : ProcessId) (j : Job ν τ) : Prop where
  orderly : j.traffic.Orderly
  linked : j.Linked base
  staffed : j.Staffed
  employed : j.Employed main

theorem Regular.change {τ : Type} {j j' : Job ν τ} {m : Move} (h : j.Regular base main)
    (hc : Change j m j') : j'.Regular base main := by
  obtain ⟨p, released, hs⟩ := hc.traffic
  exact ⟨h.orderly.step hs, (hc.linked h.linked).1, hc.staffed h.staffed, hc.employed h.employed⟩

structure Unclosed {τ : Type} (among : ProcessId → Prop) (j : Job ν τ) : Prop where
  isOpen : j.registry.closed = false
  asks : j.Asks (· ≠ .closeRegistry) among

theorem Unclosed.change {τ : Type} {among : ProcessId → Prop} {j j' : Job ν τ} {m : Move}
    (h : j.Unclosed among) (hc : Change j m j')
    (hn : ∀ p, ¬ among p → ∃ q next, q ≠ .closeRegistry ∧ j.process? p = some (.running (.ask q next))) :
    j'.Unclosed among := by
  refine ⟨Bool.eq_false_iff.mpr fun hcl => ?_, hc.asks h.asks fun p body next hp hs => ?_⟩
  · obtain ⟨p, k, -, next, hp⟩ := hc.closes h.isOpen hcl
    by_cases ha : among p
    · cases h.asks p _ ha hp with
      | ask hq _ => exact hq rfl
    · obtain ⟨q, next', hq, hs⟩ := hn p ha
      rw [hp] at hs
      cases hs
      exact hq rfl
  · obtain ⟨q, next', -, hs'⟩ := hn p hp
    rw [hs'] at hs
    cases hs

/-- The tasks have ended; the cells of the given backends are left to visit. -/
structure Cleared {τ : Type} (main : ProcessId) (todo : List String) (j : Job ν τ) : Prop where
  idle : j.pool.Idle
  quiet : j.Quiet main
  swept : j.Swept (fun _ _ => False) todo

inductive Winding (cluster : String) (r : Except Error Unit) (main : ProcessId)
    (j : Job ν (Except Error Unit)) : Process ν (Except Error Unit) → Prop
  | shutdown (h : j.Unclosed (· ≠ main)) :
      Winding cluster r main j (.running (.ask .shutdown (awaitTasks cluster r)))
  | waiting (h : j.Unclosed (· ≠ main)) :
      Winding cluster r main j
        (.running (.ask .termination fun _ => .ask .closeRegistry (afterClose cluster r)))
  | closing (ho : j.registry.closed = false) (hi : j.pool.Idle) (hq : j.Quiet main) :
      Winding cluster r main j (.running (.ask .closeRegistry (afterClose cluster r)))
  | visiting {s : Process ν (Except Error Unit)} {todo : List String}
      (hs : s.closing? = some (todo, afterClose cluster r)) (h : j.Cleared main todo) :
      Winding cluster r main j s
  | closed (h : j.Cleared main []) :
      Winding cluster r main j
        (.running (.ask .shutdown fun _ => .ask (.log (completion cluster r)) fun _ => .done r))
  | reporting (h : j.Cleared main []) :
      Winding cluster r main j (.running (.ask (.log (completion cluster r)) fun _ => .done r))
  | finishing (h : j.Cleared main []) : Winding cluster r main j (.running (.done r))
  | returned (h : j.Cleared main []) : Winding cluster r main j (.ended (.value r))
  | cancelled : Winding cluster r main j (.ended .cancelled)

variable {j j' : Job ν (Except Error Unit)} {m : Move} {s : Process ν (Except Error Unit)}
  {ticket : Option Nat} {inSpan : Bool} {todo : List String}

theorem Rule.quiet (hr : Rule j main ticket inSpan s j') (h : j.Quiet main)
    (hs : s.submission? = none) : j'.Quiet main := by
  intro q t hq ht
  rcases hr.others_before hq ht with ht | ⟨body, next, hsubmit, -⟩
  · exact h q t hq ht
  · rw [hsubmit] at hs
    cases hs

theorem Cleared.own (h : j.Cleared main []) (hl : j.Linked base)
    (ht : j.tasks[main]? = some ⟨s, ticket, inSpan⟩) (hr : Rule j main ticket inSpan s j')
    (hs : s.submission? = none) (hi : j'.pool.Idle)
    (ho : j'.opened = j.opened) : j'.Cleared main [] := by
  refine ⟨hi, hr.quiet h.quiet hs, ?_⟩
  refine h.swept.change hl (.step (k := 0) ht hr) (fun _ _ => id) fun c o hlen hc => ?_
  rw [ho] at hc
  exact absurd (List.getElem?_eq_some_iff.mp hc).1 (Nat.not_lt_of_le hlen)

theorem Rule.pool_of_closing (hr : Rule j main ticket inSpan s j') (hs : s.closing?.isSome) :
    j'.pool = j.pool := by
  cases hr with
  | visitReady hi hc => rw [release_eq]; rfl
  | lingerReady hc => rw [release_eq]; rfl
  | visitFree hi hc => rfl
  | visitHeld hi hc => rfl
  | depart => rfl
  | lingerPass hh => rfl
  | fail hs' | fill hs' => cases hs' <;> cases hs
  | _ => cases hs

theorem Winding.own (h : Winding cluster r main j s) (hj : j.Regular base main)
    (ht : j.tasks[main]? = some ⟨s, ticket, inSpan⟩) (hr : Rule j main ticket inSpan s j') :
    ∃ s', j'.process? main = some s' ∧ Winding cluster r main j' s' := by
  have hp := process?_of_task ht
  have hc := Change.step (k := 0) ht hr
  have hask : ∀ q next, q ≠ .closeRegistry → s = .running (.ask q next) → ∀ p, ¬ p ≠ main →
      ∃ q next, q ≠ .closeRegistry ∧ j.process? p = some (.running (.ask q next)) := by
    rintro q next hq rfl p hpm
    rw [Classical.not_not.mp hpm]
    exact ⟨q, next, hq, hp⟩
  cases h with
  | shutdown h =>
    cases hr with
    | reply hq => cases hq
    | shutdown => exact ⟨_, process?_next hp, .waiting (h.change hc (hask .shutdown _ (by decide) rfl))⟩
    | fail hs | fill hs => cases hs
  | waiting h =>
    have hq := fun hi => hr.quiet (hj.staffed.quiet hj.employed hi) rfl
    cases hr with
    | reply hreply =>
      simp only [reply?] at hreply
      split at hreply
      · rename_i hterm
        cases hreply
        have hi := Pool.isTerminated_iff.mp hterm
        exact ⟨_, process?_next hp, .closing h.isOpen hi (hq hi)⟩
      · cases hreply
    | fail hs | fill hs => cases hs
  | closing ho hi hq =>
    have hq' := hr.quiet hq rfl
    cases hr with
    | reply hreply => cases hreply
    | drain =>
      refine ⟨_, process?_next hp, .visiting rfl ⟨hi, hq', ?_⟩⟩
      refine (swept_drain _ hj.orderly ho).change hj.linked hc (fun _ _ => id) fun c o hlen hco => ?_
      exact absurd (List.getElem?_eq_some_iff.mp hco).1 (Nat.not_lt_of_le hlen)
    | fail hs | fill hs => cases hs
  | @visiting s todo hs h =>
    have hq' := hr.quiet h.quiet (by cases s <;> first | rfl | cases hs)
    have hi := h.idle
    rw [← hr.pool_of_closing (by rw [hs]; rfl)] at hi
    obtain ⟨s', hs', ⟨todo', hcl, hsw⟩ | ⟨rfl, hsw⟩⟩ :=
      hr.sweep ht hj.orderly hj.linked hs h.swept
    · exact ⟨s', hs', .visiting hcl ⟨hi, hq', hsw⟩⟩
    · exact ⟨_, hs', .closed ⟨hi, hq', hsw⟩⟩
  | closed h =>
    have hcl := h.own hj.linked ht hr rfl
    cases hr with
    | reply hreply => cases hreply
    | shutdown =>
      have hi : j.pool.shutdown.Idle := ⟨rfl, h.idle.waiting, h.idle.active⟩
      exact ⟨_, process?_next hp, .reporting (hcl hi rfl)⟩
    | fail hs | fill hs => cases hs
  | reporting h =>
    have hcl := h.own hj.linked ht hr rfl
    cases hr with
    | reply hreply => exact ⟨_, process?_next hp, .finishing (hcl h.idle rfl)⟩
    | fail hs | fill hs => cases hs
  | finishing h =>
    have hcl := h.own hj.linked ht hr rfl
    cases hr with
    | finish => exact ⟨_, process?_next hp, .returned (hcl (poolAfter_idle h.idle ticket) rfl)⟩
    | fail hs | fill hs => cases hs
  | returned h =>
    cases hr with
    | fail hs | fill hs => cases hs
  | cancelled =>
    cases hr with
    | fail hs | fill hs => cases hs

/-- What others do meanwhile, or the end of the main process from outside. -/
theorem Winding.others (h : Winding cluster r main j s) (hj : j.Regular base main)
    (hp : j.process? main = some s) (hc : Change j m j') (hm : ∀ k, m ≠ .step main k) :
    ∃ s', j'.process? main = some s' ∧ Winding cluster r main j' s' := by
  have hask : ∀ q next, q ≠ .closeRegistry → s = .running (.ask q next) → ∀ p, ¬ p ≠ main →
      ∃ q next, q ≠ .closeRegistry ∧ j.process? p = some (.running (.ask q next)) := by
    rintro q next hq rfl p hpm
    rw [Classical.not_not.mp hpm]
    exact ⟨q, next, hq, hp⟩
  have hcleared : ∀ todo, j.Cleared main todo → j'.Cleared main todo := by
    intro todo h
    obtain ⟨hq, ho, -, hi⟩ := h.quiet.others hc hm
    refine ⟨hi h.idle, hq, ?_⟩
    refine h.swept.change hj.linked hc (fun _ _ => id) fun c o hlen hco => ?_
    rw [ho] at hco
    exact absurd (List.getElem?_eq_some_iff.mp hco).1 (Nat.not_lt_of_le hlen)
  rcases hc.others hp hm with hp' | ⟨-, hp'⟩
  · refine ⟨s, hp', ?_⟩
    cases h with
    | shutdown h => exact .shutdown (h.change hc (hask .shutdown _ (by decide) rfl))
    | waiting h => exact .waiting (h.change hc (hask .termination _ (by decide) rfl))
    | closing ho hi hq =>
      obtain ⟨hq', -, ho', hi'⟩ := hq.others hc hm
      exact .closing (ho'.trans ho) (hi' hi) hq'
    | visiting hs h => exact .visiting hs (hcleared _ h)
    | closed h => exact .closed (hcleared _ h)
    | reporting h => exact .reporting (hcleared _ h)
    | finishing h => exact .finishing (hcleared _ h)
    | returned h => exact .returned (hcleared _ h)
    | cancelled => exact .cancelled
  · exact ⟨_, hp', .cancelled⟩

theorem Winding.change (h : Winding cluster r main j s) (hj : j.Regular base main)
    (hp : j.process? main = some s) (hc : Change j m j') :
    ∃ s', j'.process? main = some s' ∧ Winding cluster r main j' s' := by
  by_cases hm : ∃ k, m = .step main k
  · obtain ⟨k, rfl⟩ := hm
    cases hc with
    | step ht hr =>
      rw [process?_of_task ht] at hp
      cases hp
      exact h.own hj ht hr
  · exact h.others hj hp hc fun k hk => hm ⟨k, hk⟩

/-- Once the main process has begun the teardown, it ends with no other value than the result,
and then all is released. -/
theorem cleared_of_play? {moves : List Move} {r' : Except Error Unit} (hj : j.Regular base main)
    (hu : j.Unclosed (· ≠ main)) (hp : j.process? main = some (.running (teardown cluster r)))
    (h : j.play? moves = some j') (hr : j'.outcome? main = some (.value r')) :
    r' = r ∧ j'.Cleared main [] ∧ j'.Linked base := by
  obtain ⟨hj', s, hs, hw⟩ := play?_keeps
    (P := fun j => j.Regular base main ∧ ∃ s, j.process? main = some s ∧ Winding cluster r main j s)
    (fun j m j' ⟨hj, s, hs, hw⟩ hc => ⟨hj.change hc, hw.change hj hs hc⟩)
    ⟨hj, _, hp, .shutdown hu⟩ h
  simp only [outcome?, hs] at hr
  cases hw with
  | visiting hcl hc => cases s <;> cases hcl <;> cases hr
  | returned hc =>
    cases hr
    exact ⟨rfl, hc, hj'.linked⟩
  | _ => cases hr

end Job
end Resync

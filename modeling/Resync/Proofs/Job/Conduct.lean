import Resync.Proofs.Job.Runs

/-! # What processes ask for

A program asks for some kinds of things only if all its parts do, and all the tasks that it
submits. Processes go on so: whatever the interleaving, no process ever asks for anything
that the programs at the start have excluded.
-/
namespace Resync

/-- The program, and every task that it submits, asks only for what `Q` allows. -/
inductive Program.Asks {ν τ : Type} (Q : Request → Prop) : Program ν τ → Prop
  | done {result : τ} : Asks Q (.done result)
  | panic : Asks Q .panic
  | note {n : ν} {next : Program ν τ} (h : Asks Q next) : Asks Q (.note n next)
  | submit {body : Program ν τ} {next : Except Error ProcessId → Program ν τ} (hb : Asks Q body)
      (h : ∀ r, Asks Q (next r)) : Asks Q (.submit body next)
  | ask {q : Request} {next : q.Reply τ → Program ν τ} (hq : Q q) (h : ∀ r, Asks Q (next r)) :
      Asks Q (.ask q next)

def Process.Asks {ν τ : Type} (Q : Request → Prop) : Process ν τ → Prop
  | fresh body => body.Asks Q
  | running program => program.Asks Q
  | admitted m next | queued m next | opening m _ next | awaiting m _ _ next =>
    Q (.connection m) ∧ ∀ r, (next r).Asks Q
  | asleep _ next => ∀ r, (next r).Asks Q
  | visiting _ next | lingering _ _ next => Q .closeRegistry ∧ ∀ r, (next r).Asks Q
  | ended _ => True

namespace Job

variable {ν τ : Type} {j j' : Job ν τ} {m : Move} {p : ProcessId} {s : Process ν τ}
  {ticket : Option Nat} {inSpan : Bool} {Q : Request → Prop}

theorem Rule.asks (ht : j.tasks[p]? = some ⟨s, ticket, inSpan⟩) (hr : Rule j p ticket inSpan s j')
    (h : s.Asks Q) : ∃ s', j'.process? p = some s' ∧ s'.Asks Q := by
  have hp := process?_of_task ht
  have hset : ∀ (j₁ : Job ν τ) (s' : Process ν τ), j₁.tasks = j.tasks → s'.Asks Q →
      ∃ s'', (j₁.setProcess p s').process? p = some s'' ∧ s''.Asks Q := by
    intro j₁ s' h₁ hs'
    exact ⟨s', process?_next (by rw [process?, h₁]; exact hp), hs'⟩
  have htimer : ∀ (j₁ : Job ν τ) (due : Nat) (s' : Process ν τ), j₁.tasks = j.tasks → s'.Asks Q →
      ∃ s'', ((j₁.setProcess p s').setTimer p due).process? p = some s'' ∧ s''.Asks Q := by
    intro j₁ due s' h₁ hs'
    rw [process?_setTimer]
    exact hset j₁ s' h₁ hs'
  cases hr with
  | start hk hp => exact hset _ _ rfl h
  | lineUp hk hg hp => exact hset _ _ rfl h
  | finish => exact hset _ _ rfl trivial
  | panic => exact hset _ _ rfl trivial
  | note =>
    cases h with
    | note h => exact hset _ _ rfl h
  | reject hs =>
    cases h with
    | submit hb h => exact hset _ _ rfl (h _)
  | @accept body next hs =>
    cases h with
    | submit hb h =>
      exact ⟨_, process?_next (process?_accept body hp), h _⟩
  | reply hq =>
    cases h with
    | ask hq h => exact hset _ _ rfl (h _)
  | enter ha =>
    cases h with
    | ask hq h => exact hset _ _ rfl ⟨hq, h⟩
  | shutdown =>
    cases h with
    | ask hq h => exact hset _ _ rfl (h _)
  | drain =>
    cases h with
    | ask hq h => exact hset _ _ rfl ⟨hq, h⟩
  | sleep =>
    cases h with
    | ask hq h => exact htimer _ _ _ rfl h
  | wake hd => exact hset _ _ rfl (h _)
  | find hc => exact hset _ _ rfl (h.2 _)
  | take hc => exact hset _ _ rfl (h.2 _)
  | approach hc => exact hset _ _ rfl h
  | begin hh ha => exact hset _ _ rfl h
  | refuse hh ha => exact hset _ _ rfl (h.2 _)
  | await hd => exact htimer _ _ _ rfl h
  | fail hs ha =>
    cases hs with
    | opening hd => exact hset _ _ rfl (h.2 _)
    | awaiting hd => exact hset _ _ rfl (h.2 _)
  | fill hs ha =>
    cases hs with
    | opening hd => exact hset _ _ rfl (h.2 _)
    | awaiting hd => exact hset _ _ rfl (h.2 _)
  | visitReady hi hc => exact hset _ _ (by rw [release_eq]) h
  | visitFree hi hc => exact hset _ _ rfl h
  | visitHeld hi hc => exact hset _ _ rfl h
  | depart => exact hset _ _ rfl (h.2 _)
  | lingerReady hc => exact hset _ _ (by rw [release_eq]) h
  | lingerPass hh => exact hset _ _ rfl h

def Asks (Q : Request → Prop) (among : ProcessId → Prop) (j : Job ν τ) : Prop :=
  ∀ q s, among q → j.process? q = some s → s.Asks Q

theorem Change.asks {among : ProcessId → Prop} (hc : Change j m j') (h : j.Asks Q among)
    (hn : ∀ p body next, ¬ among p → j.process? p ≠ some (.running (.submit body next))) :
    j'.Asks Q among := by
  intro q t hq ht
  cases hc with
  | @step p k s ticket inSpan j' htask hr =>
    have hp : j.process? p = some s := by simp [process?, htask]
    by_cases hqp : q = p
    · subst hqp
      obtain ⟨s', hs', has⟩ := hr.asks htask (h q s hq hp)
      rw [ht] at hs'
      cases hs'
      exact has
    · rcases hr.others_before hqp ht with ht' | ⟨body, next, rfl, rfl⟩
      · exact h q t hq ht'
      · by_cases hpa : among p
        · cases h p _ hpa hp with
          | submit hb h => exact hb
        · exact absurd hp (hn p body next hpa)
  | elapse => exact h q t hq ht
  | signal => exact h q t hq ht
  | @leave p s ticket inSpan timers htask hs =>
    rw [process?_setProcess] at ht
    split at ht
    · obtain ⟨s', -, rfl⟩ := Option.map_eq_some_iff.mp ht
      trivial
    · exact h q t hq ht
  | idle => exact h q t hq ht

end Job
end Resync

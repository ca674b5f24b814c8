import Mathlib.Logic.Function.Basic
import Resync.Proofs.Job.Runs

/-! # Traffic at a registry

What a registry sees of a job: its cells, the connections that were opened through it, and
where every process stands towards it. The steps below are the only ones that a job can
make of this view: being let in, coming to a cell, having the turn there, opening or failing
to open, and closing cell by cell.
-/
namespace Resync

inductive Place where
  | away
  | admitted (backend : String)
  | queued (backend : String)
  | opening (backend : String)
  | visiting (todo : List String)
  | lingering (backend : String) (todo : List String)
  deriving DecidableEq, Repr

def Place.cell? : Place → Option String
  | queued b | opening b | lingering b _ => some b
  | _ => none

def Process.place {ν τ : Type} : Process ν τ → Place
  | admitted m _ => .admitted m.id
  | queued m _ => .queued m.id
  | opening m _ _ | awaiting m _ _ _ => .opening m.id
  | visiting todo _ => .visiting todo
  | lingering b todo _ => .lingering b todo
  | _ => .away

theorem Process.cell?_place {ν τ : Type} (s : Process ν τ) : s.place.cell? = s.cell? := by
  cases s <;> rfl

theorem Process.Settles.place {ν τ : Type} {now : Nat} {m : Member} {a : Attempt}
    {next : Except Error Nat → Program ν τ} {s : Process ν τ} (h : s.Settles now m a next) :
    s.place = .opening m.id := by
  cases h <;> rfl

namespace Cell

/-- Those at a cell, in the order in which they have the turn. -/
def members : Cell → List ProcessId
  | held holder queue => holder :: queue
  | _ => []

theorem holder?_eq (c : Cell) : c.holder? = c.members.head? := by
  cases c <;> rfl

theorem members_eq_nil {c : Cell} : c.members = [] ↔ c = free ∨ c.isReady = true := by
  cases c <;> simp [members, isReady]

theorem members_of_isReady {c : Cell} (h : c.isReady = true) : c.members = [] :=
  members_eq_nil.mpr (.inr h)

theorem members_approach {c : Cell} (p : ProcessId) (h : c.isReady = false) :
    (c.approach p).members = c.members ++ [p] := by
  cases c with
  | free => rfl
  | held holder queue => rfl
  | ready c => simp [isReady] at h

theorem isReady_approach (c : Cell) (p : ProcessId) : (c.approach p).isReady = c.isReady := by
  cases c <;> rfl

theorem members_pass (c : Cell) : c.pass.1.members = c.members.tail := by
  cases c with
  | free => rfl
  | ready c => rfl
  | held holder queue =>
    cases queue with
    | nil => rfl
    | cons next queue => rfl

theorem isReady_pass (c : Cell) : c.pass.1.isReady = c.isReady := by
  cases c with
  | free => rfl
  | ready c => rfl
  | held holder queue =>
    cases queue with
    | nil => rfl
    | cons next queue => rfl

theorem fill_of_holder {c : Cell} {p : ProcessId} (n : Nat) (h : c.holder? = some p) :
    (c.fill n).1 = ready n := by
  cases c with
  | held holder queue => rfl
  | free => cases h
  | ready c => cases h

theorem members_leave (c : Cell) (p : ProcessId) (h : c.members.Nodup) :
    (c.leave p).1.members = c.members.filter (· ≠ p) := by
  cases c with
  | free => rfl
  | ready c => rfl
  | held holder queue =>
    simp only [leave]
    by_cases hp : holder = p
    · subst hp
      have hn : holder ∉ queue := (List.nodup_cons.mp h).1
      have hf : queue.filter (· ≠ holder) = queue :=
        List.filter_eq_self.mpr fun q hq => by
          have hne : q ≠ holder := fun e => hn (e ▸ hq)
          simpa using hne
      rw [if_pos rfl, members_pass]
      simpa [members] using hf.symm
    · rw [if_neg hp]
      simp [members, hp]

theorem isReady_leave (c : Cell) (p : ProcessId) : (c.leave p).1.isReady = c.isReady := by
  cases c with
  | free => rfl
  | ready c => rfl
  | held holder queue =>
    simp only [leave]
    split
    · rw [isReady_pass]
    · rfl

end Cell

namespace Registry

theorem cell_setCell (r : Registry) (b b' : String) (c : Cell) :
    (r.setCell b c).cell b' = if b = b' then c else r.cell b' := by
  simp only [cell, setCell, Assoc.get?_insert]
  split
  · rfl
  · rfl

theorem cell_change (r : Registry) (b b' : String) (f : Cell → Cell × List ProcessId) :
    (r.change b f).1.cell b' = if b = b' then (f (r.cell b)).1 else r.cell b' :=
  cell_setCell r b b' _

theorem cell_approach (r : Registry) (b b' : String) (p : ProcessId) :
    (r.approach b p).cell b' = if b = b' then (r.cell b).approach p else r.cell b' :=
  cell_setCell r b b' _

theorem cell_admit? {r r' : Registry} {b : String} (h : r.admit? b = some r') (b' : String) :
    r'.cell b' = r.cell b' := by
  unfold admit? at h
  split at h
  · cases h
  · cases h
    split
    · rfl
    · rename_i hc
      rw [cell_setCell]
      split
      · rename_i hb
        subst hb
        have hn : r.cells.get? b = none := by
          simpa [Assoc.contains] using hc
        simp [cell, hn]
      · rfl

theorem closed_admit? {r r' : Registry} {b : String} (h : r.admit? b = some r') :
    r.closed = false ∧ r'.closed = false := by
  unfold admit? at h
  split at h
  · cases h
  · rename_i hc
    have hc' : r.closed = false := Bool.eq_false_iff.mpr hc
    cases h
    split
    · exact ⟨hc', hc'⟩
    · exact ⟨hc', hc'⟩

theorem closed_leave (r : Registry) (p : ProcessId) (b : Option String) :
    (r.leave p b).closed = r.closed := by
  cases b <;> rfl

end Registry

/-- What a registry sees of a job. -/
structure Traffic where
  registry : Registry
  opened : List Opened
  place : ProcessId → Place

namespace Traffic

open Function (update)

/-- The steps of process `p`; a step may release one of the connections. -/
inductive Step (t : Traffic) (p : ProcessId) : Option Nat → Traffic → Prop
  | stay : Step t p none t
  | enter {b : String} {r : Registry} (hp : t.place p = .away) (hr : t.registry.admit? b = some r) :
      Step t p none { t with registry := r, place := update t.place p (.admitted b) }
  | take {b : String} {c : Nat} (hp : t.place p = .admitted b ∨ t.place p = .queued b)
      (hc : t.registry.cell b = .ready c) :
      Step t p none { t with place := update t.place p .away }
  | approach {b : String} (hp : t.place p = .admitted b)
      (hc : (t.registry.cell b).isReady = false) :
      Step t p none
        { t with registry := t.registry.approach b p, place := update t.place p (.queued b) }
  | begin {b : String} (hp : t.place p = .queued b)
      (hh : (t.registry.cell b).holder? = some p) :
      Step t p none { t with place := update t.place p (.opening b) }
  | fail {b : String}
      (hp : t.place p = .queued b ∧ (t.registry.cell b).holder? = some p ∨ t.place p = .opening b) :
      Step t p none
        { t with
          registry := (t.registry.change b Cell.pass).1
          place := update t.place p .away }
  | fill {b : String} {n : Nat} (hp : t.place p = .opening b) :
      Step t p none
        { registry := (t.registry.change b (Cell.fill t.opened.length)).1
          opened := t.opened ++ [⟨b, n⟩]
          place := update t.place p .away }
  | drain (hp : t.place p = .away) :
      Step t p none
        { t with
          registry := t.registry.drain.2
          place := update t.place p (.visiting t.registry.drain.1) }
  | visitReady {todo : List String} {i : Nat} {b : String} {c : Nat}
      (hp : t.place p = .visiting todo) (hi : todo[i]? = some b)
      (hc : t.registry.cell b = .ready c) :
      Step t p (some c) { t with place := update t.place p (.visiting (todo.eraseIdx i)) }
  | visitFree {todo : List String} {i : Nat} {b : String}
      (hp : t.place p = .visiting todo) (hi : todo[i]? = some b)
      (hc : t.registry.cell b = .free) :
      Step t p none { t with place := update t.place p (.visiting (todo.eraseIdx i)) }
  | visitHeld {todo : List String} {i : Nat} {b : String}
      (hp : t.place p = .visiting todo) (hi : todo[i]? = some b)
      (hc : (t.registry.cell b).members ≠ []) :
      Step t p none
        { t with
          registry := t.registry.approach b p
          place := update t.place p (.lingering b (todo.eraseIdx i)) }
  | depart (hp : t.place p = .visiting []) :
      Step t p none { t with place := update t.place p .away }
  | lingerReady {b : String} {todo : List String} {c : Nat}
      (hp : t.place p = .lingering b todo) (hc : t.registry.cell b = .ready c) :
      Step t p (some c) { t with place := update t.place p (.visiting todo) }
  | lingerPass {b : String} {todo : List String}
      (hp : t.place p = .lingering b todo) (hh : (t.registry.cell b).holder? = some p) :
      Step t p none
        { t with
          registry := (t.registry.change b Cell.pass).1
          place := update t.place p (.visiting todo) }
  | leave :
      Step t p none
        { t with
          registry := t.registry.leave p (t.place p).cell?
          place := update t.place p .away }

variable {t t' : Traffic} {p : ProcessId} {released : Option Nat}

theorem Step.opened (h : Step t p released t') : ∃ more, t'.opened = t.opened ++ more := by
  cases h with
  | fill hp => exact ⟨_, rfl⟩
  | _ => exact ⟨[], (List.append_nil _).symm⟩

theorem Step.closed (h : Step t p released t') (hc : t.registry.closed = true) :
    t'.registry.closed = true := by
  cases h with
  | enter hp hr =>
    rw [(Registry.closed_admit? hr).1] at hc
    cases hc
  | leave => exact (t.registry.closed_leave p _).trans hc
  | drain hp => rfl
  | _ => exact hc

end Traffic
end Resync

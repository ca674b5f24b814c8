import Resync.Job.Allowance
import Resync.Proofs.Cluster.Counterpart
import Resync.Proofs.Job.OwnProbes

/-! # Twins

Two jobs are twins if they differ in nothing but their worlds, which are counterparts, and in the
numbers that their connections and snapshots have there. As long as questions about filled
columns are answered alike, twins make the same steps.
-/
namespace Resync.Job

variable {ν τ : Type} {j j' : Job ν τ} {p : ProcessId} {inSpan : Bool} {base base' : Nat} {w : World}
  {o : List Opened} {n : Side → Nat}

/-- The job in another world, with other numbers for its connections and snapshots. -/
def moved (w : World) (o : List Opened) (n : Side → Nat) (j : Job ν τ) : Job ν τ :=
  { j with world := w, opened := o, snapshot := n }

inductive Twin (base base' : Nat) (j : Job ν τ) : Job ν τ → Prop
  | moved {w : World} {o : List Opened} {n : Side → Nat} (hw : j.world.Counterpart base base' w)
      (ho : o.map (·.backend) = j.opened.map (·.backend)) : Twin base base' j (j.moved w o n)

def Alike (base base' : Nat) (r r' : Job ν τ × List ProcessId) : Prop :=
  Twin base base' r.1 r'.1 ∧ r'.2 = r.2

theorem Twin.backends (h : Twin base base' j j') :
    j'.opened.map (·.backend) = j.opened.map (·.backend) := by
  obtain ⟨hw, ho⟩ := h
  exact ho

theorem Twin.found (h : Twin base base' j j') (hl : j.Linked base) (hl' : j'.Linked base') (c : Nat) :
    j.opened[c]? = none ∧ j'.opened[c]? = none ∨
      ∃ b, j.opened[c]? = some ⟨b, base + c⟩ ∧ j'.opened[c]? = some ⟨b, base' + c⟩ := by
  have hbackend : (j'.opened[c]?).map (·.backend) = (j.opened[c]?).map (·.backend) := by
    have hc := congrArg (·[c]?) h.backends
    simp only [List.getElem?_map] at hc
    exact hc
  cases hc : j.opened[c]? with
  | none =>
    rw [hc] at hbackend
    exact .inl ⟨rfl, Option.map_eq_none_iff.mp hbackend⟩
  | some e =>
    rw [hc] at hbackend
    obtain ⟨e', hc', hb⟩ := Option.map_eq_some_iff.mp hbackend
    have hb : e'.backend = e.backend := hb
    have hn := hl.number c e hc
    have hn' := hl'.number c e' hc'
    refine .inr ⟨e.backend, ?_, ?_⟩
    · rw [← hn]
    · rw [hc', ← hn', ← hb]

theorem Twin.process? (h : Twin base base' j j') (p : ProcessId) : j'.process? p = j.process? p := by
  obtain ⟨hw, ho⟩ := h
  rfl

theorem Twin.outcome? (h : Twin base base' j j') (p : ProcessId) : j'.outcome? p = j.outcome? p := by
  obtain ⟨hw, ho⟩ := h
  rfl

theorem Twin.charge (h : Twin base base' j j') (p : ProcessId) : j'.charge p = j.charge p := by
  obtain ⟨hw, ho⟩ := h
  rfl

theorem Twin.timers (h : Twin base base' j j') : j'.timers = j.timers := by
  obtain ⟨hw, ho⟩ := h
  rfl

theorem Twin.journal (h : Twin base base' j j') : j'.journal = j.journal := by
  obtain ⟨hw, ho⟩ := h
  rfl

theorem Twin.length (h : Twin base base' j j') : j'.opened.length = j.opened.length := by
  have hlength := congrArg List.length h.backends
  rw [List.length_map, List.length_map] at hlength
  exact hlength

section Step

variable (hw : j.world.Counterpart base base' w) (ho : o.map (·.backend) = j.opened.map (·.backend))
  (hl : j.Linked base) (hl' : (j.moved w o n).Linked base')

include hw ho hl hl' in
theorem access_twin {α : Type} {a : Access α} (ha : Access.Blind a) (c : Nat) :
    ((j.moved w o n).access c fun w i => w.access i a).1 = (j.access c fun w i => w.access i a).1 ∧
      Twin base base' (j.access c fun w i => w.access i a).2
        ((j.moved w o n).access c fun w i => w.access i a).2 := by
  have htwin : Twin base base' j (j.moved w o n) := .moved hw ho
  obtain ⟨hanswer, hleft⟩ := hw.access ha c
  unfold access
  rcases htwin.found hl hl' c with ⟨hc, hc'⟩ | ⟨b, hc, hc'⟩
  · rw [hc, hc']
    exact ⟨rfl, htwin⟩
  · rw [hc, hc']
    exact ⟨hanswer, .moved hleft ho⟩

include hw ho hl hl' in
/-- Whatever the answer is, a question about filled columns makes twins. -/
theorem autoIncrement_twin (side : Side) (c : Nat) (relation : String) :
    Twin base base' (j.access c fun w i => w.autoIncrement (j.snapshot side) i relation).2
      ((j.moved w o n).access c fun w i => w.autoIncrement (n side) i relation).2 := by
  have htwin : Twin base base' j (j.moved w o n) := .moved hw ho
  have hleft := hw.autoIncrement (j.snapshot side) (n side) c relation
  unfold access
  rcases htwin.found hl hl' c with ⟨hc, hc'⟩ | ⟨b, hc, hc'⟩
  · rw [hc, hc']
    exact htwin
  · rw [hc, hc']
    exact .moved hleft ho

include hw ho hl hl' in
theorem release_twin (b : String) (c : Nat) :
    Twin base base' (j.release inSpan b c) ((j.moved w o n).release inSpan b c) := by
  have htwin : Twin base base' j (j.moved w o n) := .moved hw ho
  unfold release
  rcases htwin.found hl hl' c with ⟨hc, hc'⟩ | ⟨b', hc, hc'⟩
  · rw [hc, hc']
    exact htwin
  · rw [hc, hc']
    exact .moved (hw.release inSpan b c) ho

theorem Twin.setProcess (h : Twin base base' j j') (p : ProcessId) (s : Process ν τ) :
    Twin base base' (j.setProcess p s) (j'.setProcess p s) := by
  obtain ⟨hw, ho⟩ := h
  exact .moved hw ho

theorem Twin.setTimer (h : Twin base base' j j') (p : ProcessId) (due : Nat) :
    Twin base base' (j.setTimer p due) (j'.setTimer p due) := by
  cases h with
  | @moved w o n hw ho =>
    have hnow : (j.moved w o n).world.now = j.world.now := hw.now
    unfold Job.setTimer
    rw [hnow]
    split
    · exact .moved hw ho
    · exact .moved hw ho

include hw ho in
theorem finish_twin (p : ProcessId) (out : Outcome τ) :
    Alike base base' (j.finish p out) ((j.moved w o n).finish p out) := by
  have htasks : (j.moved w o n).tasks = j.tasks := rfl
  unfold finish
  rw [htasks]
  cases (j.tasks[p]?).bind (·.ticket) with
  | none => exact ⟨.moved hw ho, rfl⟩
  | some ticket =>
    simp only [yieldPermit]
    have hpool : ((j.moved w o n).setProcess p (.ended out)).pool = (j.setProcess p (.ended out)).pool := rfl
    rw [hpool]
    cases ((j.setProcess p (.ended out)).pool.finish ticket).grantNext? with
    | none => exact ⟨.moved hw ho, rfl⟩
    | some r => exact ⟨.moved hw ho, rfl⟩

theorem Alike.reply {α : Type} {r r' : Except Error α × Job ν τ} {f : Except Error α → Program ν τ}
    (h : r'.1 = r.1 ∧ Twin base base' r.2 r'.2) (p : ProcessId) :
    Option.Rel (Alike base base') (some (r.2.setProcess p (.running (f r.1)), []))
      (some (r'.2.setProcess p (.running (f r'.1)), [])) := by
  rw [h.1]
  exact .some ⟨h.2.setProcess p _, rfl⟩

include hw ho hl hl' in
theorem answer_twin (q : Request) (next : q.Reply τ → Program ν τ)
    (hprobe : ∀ side c relation, q = .autoIncrement side c relation →
      (j.moved w o n).told side c relation = j.told side c relation) :
    Option.Rel (Alike base base') (j.answer p inSpan q next) ((j.moved w o n).answer p inSpan q next) := by
  have htwin : Twin base base' j (j.moved w o n) := .moved hw ho
  cases q with
  | connection m =>
    simp only [answer]
    have hregistry : (j.moved w o n).registry = j.registry := rfl
    rw [hregistry]
    cases j.registry.admit? m.id with
    | none => exact .some ⟨htwin.setProcess p _, rfl⟩
    | some registry => exact .some ⟨.moved hw ho, rfl⟩
  | isClosed c => exact Alike.reply (access_twin hw ho hl hl' Access.blind_isClosed c) p
  | closeConnection c => exact Alike.reply (access_twin hw ho hl hl' Access.blind_close c) p
  | autoIncrement side c relation =>
    exact Alike.reply ⟨hprobe side c relation rfl, autoIncrement_twin hw ho hl hl' side c relation⟩ p
  | activeSet =>
    have hactive : (j.moved w o n).world.active = j.world.active := hw.active
    simp only [answer]
    rw [hactive]
    exact .some ⟨htwin.setProcess p _, rfl⟩
  | pool => exact .some ⟨htwin.setProcess p _, rfl⟩
  | shutdown => exact .some ⟨.moved hw ho, rfl⟩
  | termination =>
    simp only [answer]
    have hpool : (j.moved w o n).pool = j.pool := rfl
    rw [hpool]
    split
    · exact .some ⟨htwin.setProcess p _, rfl⟩
    · exact .none
  | closeRegistry => exact .some ⟨.moved hw ho, rfl⟩
  | sleep d =>
    have hdue : (j.moved w o n).world.dueAfter d = j.world.dueAfter d := hw.dueAfter d
    simp only [answer]
    rw [hdue]
    exact .some ⟨(htwin.setProcess p _).setTimer p _, rfl⟩
  | join q =>
    simp only [answer]
    have houtcome : (j.moved w o n).outcome? q = j.outcome? q := rfl
    rw [houtcome]
    cases j.outcome? q with
    | none => exact .none
    | some out => exact .some ⟨htwin.setProcess p _, rfl⟩
  | signal name =>
    simp only [answer]
    have hsignals : (j.moved w o n).signals = j.signals := rfl
    rw [hsignals]
    split
    · exact .some ⟨htwin.setProcess p _, rfl⟩
    · exact .none
  | log e =>
    have hreport : (j.world.report inSpan e).Counterpart base base' (w.report inSpan e) :=
      ⟨hw.now, hw.active, hw.backend, hw.connection⟩
    exact .some ⟨.moved hreport ho, rfl⟩

include hw ho hl hl' in
theorem advance_twin (program : Program ν τ)
    (hprobe : ∀ side c relation next, program = .ask (.autoIncrement side c relation) next →
      (j.moved w o n).told side c relation = j.told side c relation) :
    Option.Rel (Alike base base') (j.advance p inSpan program)
      ((j.moved w o n).advance p inSpan program) := by
  have htwin : Twin base base' j (j.moved w o n) := .moved hw ho
  cases program with
  | done t => exact .some (finish_twin hw ho p _)
  | panic => exact .some (finish_twin hw ho p _)
  | note k next => exact .some ⟨.moved hw ho, rfl⟩
  | submit body next =>
    have hpool : (j.moved w o n).pool = j.pool := rfl
    simp only [advance, submit]
    rw [hpool]
    cases j.pool.submit? with
    | none => exact .some ⟨htwin.setProcess p _, rfl⟩
    | some r => exact .some ⟨.moved hw ho, rfl⟩
  | ask q next =>
    refine answer_twin hw ho hl hl' q next ?_
    rintro side c relation rfl
    exact hprobe side c relation next rfl

include hw ho in
theorem approach_twin (m : Member) (next : Except Error Nat → Program ν τ) :
    Twin base base' (j.approach p m next) ((j.moved w o n).approach p m next) := by
  have hregistry : (j.moved w o n).registry = j.registry := rfl
  unfold approach
  rw [hregistry]
  cases j.registry.cell m.id with
  | ready c => exact .moved hw ho
  | free => exact .moved hw ho
  | held holder queue => exact .moved hw ho

include hw ho in
theorem atCell_twin (m : Member) (next : Except Error Nat → Program ν τ) :
    Option.Rel (Alike base base') (j.atCell p m next) ((j.moved w o n).atCell p m next) := by
  have hregistry : (j.moved w o n).registry = j.registry := rfl
  have hcodec : (j.moved w o n).codec = j.codec := rfl
  have hworld : (j.moved w o n).world = w := rfl
  obtain ⟨hanswer, hleft⟩ := hw.attempt j.codec m
  unfold atCell
  rw [hregistry, hcodec, hworld]
  cases j.registry.cell m.id with
  | ready c => exact .some ⟨.moved hw ho, rfl⟩
  | free => exact .none
  | held holder queue =>
    simp only
    split
    · cases ha : j.world.attempt j.codec m with
      | mk r world =>
        cases ha' : w.attempt j.codec m with
        | mk r' world' =>
          rw [ha, ha'] at hanswer hleft
          cases hanswer
          cases r with
          | error e => exact .some ⟨.moved hleft ho, rfl⟩
          | ok a => exact .some ⟨.moved hleft ho, rfl⟩
    · exact .none

include hw ho hl hl' in
theorem settle_twin (m : Member) (a : Attempt) (next : Except Error Nat → Program ν τ) :
    Alike base base' (j.settle p m a next) ((j.moved w o n).settle p m a next) := by
  have hlength : o.length = j.opened.length := (Twin.moved hw ho : Twin base base' j (j.moved w o n)).length
  have hworld : (j.moved w o n).world = w := rfl
  unfold settle
  rw [hworld]
  cases hr : a.refusing with
  | true =>
    simp only [World.settle, hr, ↓reduceIte]
    exact ⟨.moved hw ho, rfl⟩
  | false =>
    have happend := hw.append m hl.length (hl'.length.trans (congrArg (base' + ·) hlength))
    have hopened : (o ++ [Opened.mk m.id w.connections.length]).map (·.backend) =
        (j.opened ++ [Opened.mk m.id j.world.connections.length]).map (·.backend) := by
      rw [List.map_append, List.map_append, ho]
      rfl
    have hconnection : (j.moved w o n).opened.length = j.opened.length := hlength
    simp only [World.settle, hr, Bool.false_eq_true, ↓reduceIte]
    rw [hconnection]
    exact ⟨.moved happend hopened, rfl⟩

include hw ho hl hl' in
theorem goOnOpening_twin (m : Member) (a : Attempt) (next : Except Error Nat → Program ν τ) :
    Alike base base' (j.goOnOpening p m a next) ((j.moved w o n).goOnOpening p m a next) := by
  have htwin : Twin base base' j (j.moved w o n) := .moved hw ho
  unfold goOnOpening
  cases a.due with
  | none => exact settle_twin hw ho hl hl' m a next
  | some due => exact ⟨(htwin.setProcess p _).setTimer p due, rfl⟩

include hw ho hl hl' in
theorem visit_twin (b : String) (todo : List String) (next : Unit → Program ν τ) :
    Twin base base' (j.visit p inSpan b todo next) ((j.moved w o n).visit p inSpan b todo next) := by
  have hregistry : (j.moved w o n).registry = j.registry := rfl
  unfold visit
  rw [hregistry]
  cases j.registry.cell b with
  | ready c => exact (release_twin hw ho hl hl' b c).setProcess p _
  | free => exact .moved hw ho
  | held holder queue => exact .moved hw ho

include hw ho hl hl' in
theorem linger_twin (b : String) (todo : List String) (next : Unit → Program ν τ) :
    Option.Rel (Alike base base') (j.linger p inSpan b todo next)
      ((j.moved w o n).linger p inSpan b todo next) := by
  have hregistry : (j.moved w o n).registry = j.registry := rfl
  unfold linger
  rw [hregistry]
  cases j.registry.cell b with
  | ready c => exact .some ⟨(release_twin hw ho hl hl' b c).setProcess p _, rfl⟩
  | free => exact .none
  | held holder queue =>
    simp only
    split
    · exact .some ⟨.moved hw ho, rfl⟩
    · exact .none

include hw ho in
theorem start_twin (ticket : Option Nat) (body : Program ν τ) :
    Option.Rel (Alike base base') (j.start p ticket body) ((j.moved w o n).start p ticket body) := by
  have hpool : (j.moved w o n).pool = j.pool := rfl
  unfold start
  rw [hpool]
  cases ticket with
  | none => exact .none
  | some k =>
    simp only [Option.bind_eq_bind, Option.bind_some]
    split
    · exact .some ⟨.moved hw ho, rfl⟩
    · cases j.pool.grant? k with
      | none =>
        cases j.pool.lineUp? k with
        | none => exact .none
        | some pool => exact .some ⟨.moved hw ho, rfl⟩
      | some pool => exact .some ⟨.moved hw ho, rfl⟩

include hw ho in
theorem abort_twin (p : ProcessId) : Twin base base' (j.abort p).1 ((j.moved w o n).abort p).1 := by
  rcases j.gone_or_task p with hp | ⟨s, ticket, inSpan, ht, hn⟩
  · rw [abort_of_gone hp, abort_of_gone (j := j.moved w o n) hp]
    exact .moved hw ho
  · rw [leave_eq ht hn, leave_eq (j := j.moved w o n) ht hn]
    exact .moved hw ho

end Step

/-- Twins make the same step, if it is no question about filled columns or the question is answered
alike. -/
theorem Twin.step (h : Twin base base' j j') (hl : j.Linked base) (hl' : j'.Linked base')
    (hprobe : ∀ side c relation next,
      j.process? p = some (.running (.ask (.autoIncrement side c relation) next)) →
      j'.told side c relation = j.told side c relation) (choice : Nat) :
    Option.Rel (Alike base base') (j.step p choice) (j'.step p choice) := by
  cases h with
  | @moved w o n hw ho =>
    have htasks : (j.moved w o n).tasks = j.tasks := rfl
    have hnow : (j.moved w o n).world.now = j.world.now := hw.now
    unfold Job.step
    rw [htasks, hnow]
    cases ht : j.tasks[p]? with
    | none => exact .none
    | some t =>
      obtain ⟨s, ticket, inSpan⟩ := t
      have hp := process?_of_task ht
      cases s with
      | fresh body => exact start_twin hw ho ticket body
      | running program =>
        refine advance_twin hw ho hl hl' program ?_
        rintro side c relation next rfl
        exact hprobe side c relation next hp
      | admitted m next => exact .some ⟨approach_twin hw ho m next, rfl⟩
      | queued m next => exact atCell_twin hw ho m next
      | opening m a next => exact .some (goOnOpening_twin hw ho hl hl' m a next)
      | awaiting m a due next =>
        simp only
        split
        · exact .some (settle_twin hw ho hl hl' m a next)
        · exact .none
      | asleep due next =>
        simp only
        split
        · exact .some ⟨.moved hw ho, rfl⟩
        · exact .none
      | visiting todo next =>
        simp only
        cases todo[choice % todo.length]? with
        | none => exact .some ⟨.moved hw ho, rfl⟩
        | some b => exact .some ⟨visit_twin hw ho hl hl' b _ next, rfl⟩
      | lingering b todo next => exact linger_twin hw ho hl hl' b todo next
      | ended out => exact .none

theorem Twin.move? (h : Twin base base' j j') (hl : j.Linked base) (hl' : j'.Linked base')
    (hprobe : ∀ p side c relation next,
      j.process? p = some (.running (.ask (.autoIncrement side c relation) next)) →
      j'.told side c relation = j.told side c relation) (m : Move) :
    Option.Rel (Twin base base') (j.move? m) (j'.move? m) := by
  cases m with
  | step p choice =>
    have hstep := h.step hl hl' (hprobe p) choice
    simp only [Job.move?]
    generalize j.step p choice = r at hstep
    generalize j'.step p choice = r' at hstep
    cases hstep with
    | none => exact .none
    | some hr => exact .some hr.1
  | elapse d =>
    cases h with
    | @moved w o n hw ho =>
      have htime : (j.moved w o n).world.timeAfter d = j.world.timeAfter d := hw.timeAfter d
      simp only [Job.move?]
      rw [htime]
      exact .some (.moved ⟨rfl, hw.active, hw.backend, hw.connection⟩ ho)
  | abort p =>
    obtain ⟨hw, ho⟩ := h
    exact .some (abort_twin hw ho p)
  | signal name =>
    obtain ⟨hw, ho⟩ := h
    exact .some (.moved hw ho)

end Resync.Job

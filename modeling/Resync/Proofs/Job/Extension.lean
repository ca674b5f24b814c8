import Resync.Proofs.Job.Runs

/-! # Programs that go on

As long as a process has not come to its result, it makes no difference what it will do then:
a job in which the process goes on with more makes the same steps as the job in which it
does not.
-/
namespace Resync

/-- A way to change a program that leaves alone all that the program does next. -/
structure Program.Frame {ν τ : Type} (F : Program ν τ → Program ν τ) : Prop where
  panic : F .panic = .panic
  note : ∀ n next, F (.note n next) = .note n (F next)
  submit : ∀ body next, F (.submit body next) = .submit body fun r => F (next r)
  ask : ∀ (q : Request) (next : q.Reply τ → Program ν τ), F (.ask q next) = .ask q fun r => F (next r)

theorem Program.frame_id {ν τ : Type} : Frame (id : Program ν τ → Program ν τ) :=
  ⟨rfl, fun _ _ => rfl, fun _ _ => rfl, fun _ _ => rfl⟩

theorem Program.frame_andThen {ν τ : Type} (f : τ → Program ν τ) :
    Frame fun p : Program ν τ => p.andThen f :=
  ⟨rfl, fun _ _ => rfl, fun _ _ => rfl, fun _ _ => rfl⟩

@[simp] theorem Program.andThen_done {ν τ : Type} (p : Program ν τ) : p.andThen .done = p := by
  induction p with
  | done t => rfl
  | panic => rfl
  | note n next ih => rw [andThen, ih]
  | submit body next _ ih => simp only [andThen, ih]
  | ask q next ih => simp only [andThen, ih]

def Process.map {ν τ : Type} (F : Program ν τ → Program ν τ) : Process ν τ → Process ν τ
  | fresh body => fresh (F body)
  | running program => running (F program)
  | admitted m next => admitted m fun r => F (next r)
  | queued m next => queued m fun r => F (next r)
  | opening m a next => opening m a fun r => F (next r)
  | awaiting m a due next => awaiting m a due fun r => F (next r)
  | asleep due next => asleep due fun r => F (next r)
  | visiting todo next => visiting todo fun r => F (next r)
  | lingering b todo next => lingering b todo fun r => F (next r)
  | ended o => ended o

theorem Process.map_id {ν τ : Type} (s : Process ν τ) : s.map id = s := by
  cases s <;> rfl

namespace Job

variable {ν τ : Type} {j j' : Job ν τ} {p q : ProcessId} {s : Process ν τ} {ticket : Option Nat}
  {inSpan : Bool} {f : τ → Program ν τ} {F : Program ν τ → Program ν τ}
  {ts : List (Nat × ProcessId)}

/-- The job in which process `q` goes on with more when it comes to its result. The timers, which
only a schedule looks at, may be others. -/
def extend (q : ProcessId) (f : τ → Program ν τ) (timers : List (Nat × ProcessId)) (j : Job ν τ) :
    Job ν τ :=
  { j with
    timers
    tasks := j.tasks.modify q fun t => { t with process := t.process.map (·.andThen f) } }

@[simp] theorem extend_world (j : Job ν τ) : (j.extend q f ts).world = j.world := rfl

@[simp] theorem extend_codec (j : Job ν τ) : (j.extend q f ts).codec = j.codec := rfl

@[simp] theorem extend_registry (j : Job ν τ) : (j.extend q f ts).registry = j.registry := rfl

@[simp] theorem extend_pool (j : Job ν τ) : (j.extend q f ts).pool = j.pool := rfl

@[simp] theorem extend_opened (j : Job ν τ) : (j.extend q f ts).opened = j.opened := rfl

@[simp] theorem extend_signals (j : Job ν τ) : (j.extend q f ts).signals = j.signals := rfl

theorem process?_extend (j : Job ν τ) (p : ProcessId) :
    (j.extend q f ts).process? p =
      if p = q then (j.process? p).map (Process.map (·.andThen f)) else j.process? p := by
  simp only [process?, extend, List.getElem?_modify]
  by_cases h : p = q
  · subst h
    cases h : j.tasks[p]? with
    | none => simp
    | some t => simp
  · have h' : ¬ q = p := fun e => h e.symm
    simp [h, h']

theorem outcome?_extend (j : Job ν τ) (p : ProcessId) : (j.extend q f ts).outcome? p = j.outcome? p := by
  simp only [outcome?, process?_extend]
  by_cases h : p = q
  · rw [if_pos h]
    cases j.process? p with
    | none => rfl
    | some s => cases s <;> rfl
  · rw [if_neg h]

theorem release_extend (j : Job ν τ) (b : String) (c : Nat) :
    (j.extend q f ts).release inSpan b c = (j.release inSpan b c).extend q f ts := by
  unfold release
  rw [extend_opened]
  cases j.opened[c]? with
  | none => rfl
  | some o => rfl

theorem access_extend {α : Type} (j : Job ν τ) (c : Nat) (g : World → Nat → Except Error α × World) :
    (j.extend q f ts).access c g = ((j.access c g).1, (j.access c g).2.extend q f ts) := by
  unfold access
  rw [extend_opened]
  cases j.opened[c]? with
  | none => rfl
  | some o => rfl

theorem setTimer_extend (ts : List (Nat × ProcessId)) (j : Job ν τ) (p : ProcessId) (due : Nat) :
    ∃ ts', (j.extend q f ts).setTimer p due = (j.setTimer p due).extend q f ts' := by
  obtain ⟨timers, h⟩ := j.setTimer_eq p due
  obtain ⟨timers', h'⟩ := (j.extend q f ts).setTimer_eq p due
  rw [h, h']
  exact ⟨timers', rfl⟩

theorem accept_extend (ts : List (Nat × ProcessId)) (j : Job ν τ) (body : Program ν τ) (hq : q < j.tasks.length) :
    (j.extend q f ts).accept body = (j.accept body).extend q f ts := by
  have ht : ∀ (g : Task ν τ → Task ν τ) (t : Task ν τ),
      (j.tasks ++ [t]).modify q g = j.tasks.modify q g ++ [t] := by
    intro g t
    have hq' : q < (j.tasks ++ [t]).length := by
      rw [List.length_append]
      exact Nat.lt_add_right _ hq
    rw [List.modify_eq_take_cons_drop hq', List.modify_eq_take_cons_drop hq]
    simp [List.getElem_append_left hq, List.take_append_of_le_length (Nat.le_of_lt hq),
      List.drop_append_of_le_length (Nat.succ_le_of_lt hq)]
  simp only [accept, extend, ht]

theorem setProcess_extend_self (j : Job ν τ) (s : Process ν τ) :
    (j.setProcess q s).extend q f ts = (j.extend q f ts).setProcess q (s.map (·.andThen f)) := by
  simp only [setProcess, extend, List.modify_modify_eq]
  rfl

theorem setProcess_extend_ne (j : Job ν τ) (s : Process ν τ) (h : p ≠ q) :
    (j.setProcess p s).extend q f ts = (j.extend q f ts).setProcess p s := by
  simp only [setProcess, extend]
  rw [List.modify_modify_ne _ _ _ h]

section Step

variable (hF : Program.Frame F)
  (hset : ∀ (ts : List (Nat × ProcessId)) (j : Job ν τ) (s : Process ν τ),
    (j.setProcess p s).extend q f ts = (j.extend q f ts).setProcess p (s.map F))
  (hq : q < j.tasks.length)

include hset in
theorem answer_extend (r : Request) (next : r.Reply τ → Program ν τ) :
    ∃ ts', ((j.extend q f ts).answer p inSpan r fun x => F (next x)).map Prod.fst =
      ((j.answer p inSpan r next).map Prod.fst).map (extend q f ts') := by
  by_cases hs : ∃ d, r = .sleep d
  · obtain ⟨d, rfl⟩ := hs
    obtain ⟨ts', h⟩ := setTimer_extend (q := q) (f := f) ts
      (j.setProcess p (.asleep (j.world.dueAfter d) next)) p (j.world.dueAfter d)
    rw [hset] at h
    exact ⟨ts', congrArg some h⟩
  refine ⟨ts, ?_⟩
  cases r with
  | connection m =>
    simp only [answer]
    rw [extend_registry]
    cases j.registry.admit? m.id with
    | none => simp only [Option.map_some, hset]; rfl
    | some registry => simp only [Option.map_some, hset]; rfl
  | isClosed c => simp only [answer, access_extend, Option.map_some, hset]; rfl
  | closeConnection c => simp only [answer, access_extend, Option.map_some, hset]; rfl
  | autoIncrement side c relation => simp only [answer, access_extend, Option.map_some, hset]; rfl
  | activeSet => simp only [answer, Option.map_some, hset]; rfl
  | pool => simp only [answer, Option.map_some, hset]; rfl
  | shutdown => simp only [answer, Option.map_some, hset]; rfl
  | termination =>
    simp only [answer]
    rw [extend_pool]
    split
    · simp only [Option.map_some, hset]; rfl
    · rfl
  | closeRegistry => simp only [answer, Option.map_some, hset]; rfl
  | sleep d => exact absurd ⟨d, rfl⟩ hs
  | join k =>
    simp only [answer, outcome?_extend]
    cases j.outcome? k with
    | none => rfl
    | some o => simp only [Option.map_some, hset]; rfl
  | signal name =>
    simp only [answer]
    rw [extend_signals]
    split
    · simp only [Option.map_some, hset]; rfl
    · rfl
  | log e => simp only [answer, Option.map_some, hset]; rfl

include hF hset hq in
theorem advance_extend {program : Program ν τ} (ht : j.tasks[p]? = some ⟨s, ticket, inSpan⟩)
    (ht' : (j.extend q f ts).tasks[p]? = some ⟨s.map F, ticket, inSpan⟩)
    (hd : ∀ t, program = .done t → F (.done t) = .done t) :
    ∃ ts', ((j.extend q f ts).advance p inSpan (F program)).map Prod.fst =
      ((j.advance p inSpan program).map Prod.fst).map (extend q f ts') := by
  have hfinish : ∀ o : Outcome τ, ((j.extend q f ts).finish p o).1 = (j.finish p o).1.extend q f ts := by
    intro o
    rw [finish_eq o ht, finish_eq o ht', hset]
    rfl
  cases program with
  | done t =>
    refine ⟨ts, ?_⟩
    rw [hd t rfl]
    simp only [advance, Option.map_some, hfinish]
  | panic =>
    refine ⟨ts, ?_⟩
    rw [hF.panic]
    simp only [advance, Option.map_some, hfinish]
  | note n next =>
    refine ⟨ts, ?_⟩
    rw [hF.note]
    simp only [advance, Option.map_some, hset]
    rfl
  | submit body next =>
    refine ⟨ts, ?_⟩
    rw [hF.submit]
    have hlen : (j.extend q f ts).tasks.length = j.tasks.length := by simp [extend]
    cases hs : j.pool.isShutdown with
    | true =>
      have hs' : (j.extend q f ts).pool.isShutdown = true := hs
      simp only [advance, submit, Pool.submit?, hs, hs', ↓reduceIte, Option.map_some, hset]
      rfl
    | false =>
      have hs' : (j.extend q f ts).pool.isShutdown = false := hs
      have ha := accept_extend (f := f) ts j body hq
      simp only [accept, hs, hs'] at ha
      simp only [advance, submit, Pool.submit?, hs, hs', Bool.false_eq_true, ↓reduceIte, Option.map_some,
        hset, hlen, ha]
      rfl
  | ask r next =>
    rw [hF.ask]
    exact answer_extend hset r next

include hset in
theorem approach_extend (m : Member) (next : Except Error Nat → Program ν τ) :
    (j.extend q f ts).approach p m (fun r => F (next r)) = (j.approach p m next).extend q f ts := by
  unfold approach
  rw [extend_registry]
  cases j.registry.cell m.id with
  | ready c => simp only [hset]; rfl
  | free => simp only [hset]; rfl
  | held holder queue => simp only [hset]; rfl

include hset in
theorem atCell_extend (m : Member) (next : Except Error Nat → Program ν τ) :
    ((j.extend q f ts).atCell p m fun r => F (next r)).map Prod.fst =
      ((j.atCell p m next).map Prod.fst).map (extend q f ts) := by
  unfold atCell
  rw [extend_registry]
  cases j.registry.cell m.id with
  | ready c => simp only [Option.map_some, hset]; rfl
  | free => rfl
  | held holder queue =>
    simp only
    split
    · rw [extend_world, extend_codec]
      cases j.world.attempt j.codec m with
      | mk r world =>
        cases r with
        | error e => simp only [Option.map_some, hset]; rfl
        | ok a => simp only [Option.map_some, hset]; rfl
    · rfl

include hset in
theorem settle_extend (m : Member) (a : Attempt) (next : Except Error Nat → Program ν τ) :
    ((j.extend q f ts).settle p m a fun r => F (next r)).1 = (j.settle p m a next).1.extend q f ts := by
  unfold settle
  rw [extend_world]
  cases j.world.settle m a with
  | mk r world =>
    cases r with
    | error e => simp only [hset]; rfl
    | ok number => simp only [hset]; rfl

include hset in
theorem visit_extend (b : String) (todo : List String) (next : Unit → Program ν τ) :
    (j.extend q f ts).visit p inSpan b todo (fun r => F (next r)) =
      (j.visit p inSpan b todo next).extend q f ts := by
  unfold visit
  rw [extend_registry]
  cases j.registry.cell b with
  | ready c => simp only [release_extend, hset]; rfl
  | free => simp only [hset]; rfl
  | held holder queue => simp only [hset]; rfl

include hset in
theorem linger_extend (b : String) (todo : List String) (next : Unit → Program ν τ) :
    ((j.extend q f ts).linger p inSpan b todo fun r => F (next r)).map Prod.fst =
      ((j.linger p inSpan b todo next).map Prod.fst).map (extend q f ts) := by
  unfold linger
  rw [extend_registry]
  cases j.registry.cell b with
  | ready c => simp only [Option.map_some, release_extend, hset]; rfl
  | free => rfl
  | held holder queue =>
    simp only
    split
    · simp only [Option.map_some, hset]; rfl
    · rfl

include hF hset hq in
theorem step_extend (k : Nat) (ht : j.tasks[p]? = some ⟨s, ticket, inSpan⟩)
    (ht' : (j.extend q f ts).tasks[p]? = some ⟨s.map F, ticket, inSpan⟩)
    (hd : ∀ t, s = .running (.done t) → F (.done t) = .done t) :
    ∃ ts', ((j.extend q f ts).step p k).map Prod.fst =
      ((j.step p k).map Prod.fst).map (extend q f ts') := by
  unfold step
  rw [ht, ht']
  cases s with
  | fresh body =>
    refine ⟨ts, ?_⟩
    simp only [Process.map, start, Option.bind_eq_bind]
    cases ticket with
    | none => rfl
    | some k =>
      simp only [Option.bind_some]
      rw [extend_pool]
      by_cases ha : j.pool.active.contains k = true
      · simp only [if_pos ha, Option.map_some, hset]
        rfl
      · simp only [if_neg ha]
        cases j.pool.grant? k with
        | none =>
          cases j.pool.lineUp? k with
          | none => rfl
          | some pool => simp only [Option.bind_some, Option.pure_def, Option.map_some, hset]; rfl
        | some pool => simp only [Option.map_some, hset]; rfl
  | running program =>
    exact advance_extend hF hset hq ht ht' fun t he => hd t (by rw [he])
  | admitted m next =>
    refine ⟨ts, ?_⟩
    simp only [Process.map, Option.map_some, approach_extend hset]
  | queued m next => exact ⟨ts, atCell_extend hset m next⟩
  | opening m a next =>
    simp only [Process.map, Option.map_some, goOnOpening]
    cases a.due with
    | none =>
      refine ⟨ts, ?_⟩
      simp only [settle_extend hset]
    | some due =>
      obtain ⟨ts', h⟩ := setTimer_extend (q := q) (f := f) ts
        (j.setProcess p (.awaiting m a due next)) p due
      rw [hset] at h
      exact ⟨ts', congrArg some h⟩
  | awaiting m a due next =>
    refine ⟨ts, ?_⟩
    simp only [Process.map]
    rw [extend_world]
    split
    · simp only [Option.map_some, settle_extend hset]
    · rfl
  | asleep due next =>
    refine ⟨ts, ?_⟩
    simp only [Process.map]
    rw [extend_world]
    split
    · simp only [Option.map_some, hset]; rfl
    · rfl
  | visiting todo next =>
    refine ⟨ts, ?_⟩
    simp only [Process.map]
    cases todo[k % todo.length]? with
    | none => simp only [Option.map_some, hset]; rfl
    | some b => simp only [Option.map_some, visit_extend hset]
  | lingering b todo next => exact ⟨ts, linger_extend hset b todo next⟩
  | ended o => exact ⟨ts, rfl⟩

include hset in
theorem abort_extend (ht : j.tasks[p]? = some ⟨s, ticket, inSpan⟩)
    (ht' : (j.extend q f ts).tasks[p]? = some ⟨s.map F, ticket, inSpan⟩) :
    ∃ ts', ((j.extend q f ts).abort p).1 = (j.abort p).1.extend q f ts' := by
  by_cases hs : ∃ o, s = .ended o
  · obtain ⟨o, rfl⟩ := hs
    have hp : j.process? p = some (.ended o) := by simp [process?, ht]
    have hp' : (j.extend q f ts).process? p = some (.ended o) := by simp [process?, ht', Process.map]
    refine ⟨ts, ?_⟩
    simp only [abort, hp, hp']
  · have hn : ∀ o, s ≠ .ended o := fun o ho => hs ⟨o, ho⟩
    have hn' : ∀ o, s.map F ≠ .ended o := by
      intro o ho
      cases s with
      | ended o => exact hn o rfl
      | _ => cases ho
    have hc : (s.map F).cell? = s.cell? := by cases s <;> rfl
    refine ⟨ts.filter (·.2 ≠ p), ?_⟩
    rw [leave_eq ht hn, leave_eq ht' hn', hset, hc]
    rfl

end Step

theorem task_extend_self (ht : j.tasks[q]? = some ⟨s, ticket, inSpan⟩) :
    (j.extend q f ts).tasks[q]? = some ⟨s.map (·.andThen f), ticket, inSpan⟩ := by
  simp [extend, ht]

theorem task_extend_ne (hp : p ≠ q) : (j.extend q f ts).tasks[p]? = j.tasks[p]? := by
  have hp' : ¬ q = p := fun e => hp e.symm
  simp [extend, hp']

theorem process?_none (ht : j.tasks[p]? = none) : j.process? p = none := by
  simp [process?, ht]

/-- A move that is not the process's step to its result has nothing to do with what comes then. -/
theorem move?_extend (ts : List (Nat × ProcessId)) {m : Move} (hq : q < j.tasks.length)
    (hd : ∀ k t, m = .step q k → j.process? q = some (.running (.done t)) → f t = .done t) :
    ∃ ts', (j.extend q f ts).move? m = (j.move? m).map (extend q f ts') := by
  have hself : ∀ (ts : List (Nat × ProcessId)) (j : Job ν τ) (s : Process ν τ),
      (j.setProcess q s).extend q f ts = (j.extend q f ts).setProcess q (s.map (·.andThen f)) :=
    fun ts j s => setProcess_extend_self j s
  have hother : ∀ p : ProcessId, p ≠ q → ∀ (ts : List (Nat × ProcessId)) (j : Job ν τ) (s : Process ν τ),
      (j.setProcess p s).extend q f ts = (j.extend q f ts).setProcess p (s.map id) := by
    intro p hp ts j s
    rw [Process.map_id, setProcess_extend_ne j s hp]
  have hne : ∀ (p : ProcessId) (s : Process ν τ) (ticket : Option Nat) (inSpan : Bool), p ≠ q →
      j.tasks[p]? = some ⟨s, ticket, inSpan⟩ →
      (j.extend q f ts).tasks[p]? = some ⟨s.map id, ticket, inSpan⟩ := by
    intro p s ticket inSpan hp ht
    rw [task_extend_ne hp, ht, Process.map_id]
  have hnone : ∀ p : ProcessId, j.tasks[p]? = none → (j.extend q f ts).tasks[p]? = none := by
    intro p ht
    have hp : p ≠ q := by
      rintro rfl
      exact absurd hq (Nat.not_lt_of_le (List.getElem?_eq_none_iff.mp ht))
    rw [task_extend_ne hp, ht]
  cases m with
  | step p k =>
    simp only [move?]
    cases ht : j.tasks[p]? with
    | none => exact ⟨ts, by simp [step, ht, hnone p ht]⟩
    | some t =>
      obtain ⟨s, ticket, inSpan⟩ := t
      by_cases hp : p = q
      · subst hp
        refine step_extend (Program.frame_andThen f) hself hq k ht (task_extend_self ht) ?_
        rintro t rfl
        exact hd k t rfl (by simp [process?, ht])
      · exact step_extend Program.frame_id (hother p hp) hq k ht (hne p s ticket inSpan hp ht) fun _ _ => rfl
  | elapse d => exact ⟨ts, rfl⟩
  | abort p =>
    simp only [move?, Option.map_some, Option.some.injEq]
    cases ht : j.tasks[p]? with
    | none => exact ⟨ts, by simp only [abort, process?_none ht, process?_none (hnone p ht)]⟩
    | some t =>
      obtain ⟨s, ticket, inSpan⟩ := t
      by_cases hp : p = q
      · subst hp
        exact abort_extend hself ht (task_extend_self ht)
      · exact abort_extend (hother p hp) ht (hne p s ticket inSpan hp ht)
  | signal name => exact ⟨ts, rfl⟩

theorem move?_timers (ts : List (Nat × ProcessId)) (m : Move) (hj : 0 < j.tasks.length) :
    ∃ ts', ({ j with timers := ts }.move? m) = (j.move? m).map fun j => { j with timers := ts' } := by
  have hdone : ∀ (ts : List (Nat × ProcessId)) (j : Job ν τ),
      j.extend 0 .done ts = { j with timers := ts } := by
    intro ts j
    have hself : (fun t : Task ν τ => { t with process := t.process.map (·.andThen .done) }) = id := by
      funext t
      simp only [Program.andThen_done]
      rw [show (fun p : Program ν τ => p) = id from rfl, Process.map_id]
      rfl
    rw [extend, hself, List.modify_id]
  obtain ⟨ts', h⟩ := move?_extend (f := .done) ts (m := m) hj fun _ _ _ _ => rfl
  refine ⟨ts', ?_⟩
  rw [← hdone, h]
  exact congrArg (fun g => (j.move? m).map g) (funext (hdone ts'))

/-- Either the process has not come to its result yet, and the moves are those of a job in which
it ends there, or it has, and the moves up to then are. -/
theorem play?_extend {moves : List Move} (hq : q < j.tasks.length)
    (hv : ∀ t, j.process? q ≠ some (.ended (.value t)))
    (h : (j.extend q f ts).play? moves = some j') :
    (∃ j₀ ts', j.play? moves = some j₀ ∧ j' = j₀.extend q f ts' ∧
      ∀ t, j₀.process? q ≠ some (.ended (.value t))) ∨
    ∃ before k after j₀ ts' t, moves = before ++ .step q k :: after ∧ j.play? before = some j₀ ∧
      j₀.process? q = some (.running (.done t)) ∧
      (j.extend q f ts).play? before = some (j₀.extend q f ts') ∧
      (j₀.extend q f ts').play? (.step q k :: after) = some j' := by
  induction moves generalizing j ts with
  | nil =>
    cases h
    exact .inl ⟨j, ts, rfl, rfl, hv⟩
  | cons m moves ih =>
    -- The two jobs part at the first step that the result itself would end.
    by_cases hd : ∃ k t, m = .step q k ∧ j.process? q = some (.running (.done t))
    · obtain ⟨k, t, rfl, ht⟩ := hd
      exact .inr ⟨[], k, moves, j, ts, t, rfl, rfl, ht, rfl, h⟩
    · obtain ⟨ts₁, he⟩ := move?_extend (f := f) ts (m := m) hq
        fun k t hm ht => absurd ⟨k, t, hm, ht⟩ hd
      rw [play?_cons, he] at h
      obtain ⟨j₁', hm', h₂⟩ := Option.bind_eq_some_iff.mp h
      obtain ⟨j₁, hm, rfl⟩ := Option.map_eq_some_iff.mp hm'
      have hq' := Nat.lt_of_lt_of_le hq (move?_change hm).length_le
      have hv' : ∀ t, j₁.process? q ≠ some (.ended (.value t)) := by
        intro t ht
        rcases (move?_change hm).value ht with ht | ⟨⟨k, hk⟩, ht⟩
        · exact hv t ht
        · exact hd ⟨k, t, hk, ht⟩
      have hplay : ∀ rest, j.play? (m :: rest) = j₁.play? rest := by
        intro rest
        rw [play?_cons, hm, Option.bind_some]
      have hplay' : ∀ rest, (j.extend q f ts).play? (m :: rest) = (j₁.extend q f ts₁).play? rest := by
        intro rest
        rw [play?_cons, he, hm, Option.map_some, Option.bind_some]
      rcases ih hq' hv' h₂ with ⟨j₀, ts', hj₀, rfl, hv₀⟩ | ⟨before, k, after, j₀, ts', t, rfl, hb, ht, hb', ha⟩
      · exact .inl ⟨j₀, ts', by rw [hplay, hj₀], rfl, hv₀⟩
      · exact .inr ⟨m :: before, k, after, j₀, ts', t, rfl, by rw [hplay, hb], ht, by rw [hplay', hb'], ha⟩

end Job
end Resync

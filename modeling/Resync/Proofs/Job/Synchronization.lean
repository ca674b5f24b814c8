import Resync.Proofs.Context.Making
import Resync.Proofs.Job.Schedule
import Resync.Proofs.Job.Teardown

/-! # Synchronizations

A synchronization is looked at in every interleaving of its job, of which its schedule is
one. If it comes to a result, that is why its context could not be made, or what its
strategy has come to on its own. Either way nothing that was opened for it is left open.
-/
namespace Resync

variable {ν : Type}

open Job

def Context.result (x : Context) (c : Cluster) (j : Job ν (Except Error Unit)) : Synchronization ν where
  result := match j.outcome? 0 with | some (.value r) => some r | _ => none
  journal := j.journal
  context := some (x.after j)
  cluster := { c with world := j.world }

theorem task_spawn {τ : Type} {x : Context} {c : Cluster} {program : Program ν τ} {inSpan : Bool} {q : ProcessId}
    {t : Task ν τ} (hq : ((x.job c).spawn program inSpan).2.tasks[q]? = some t) :
    q = 0 ∧ t = ⟨.running program, none, inSpan⟩ := by
  change [_][q]? = some t at hq
  rw [List.getElem?_singleton] at hq
  split at hq
  · cases hq
    exact ⟨by assumption, rfl⟩
  · cases hq

theorem place_spawn {τ : Type} (x : Context) (c : Cluster) (program : Program ν τ) (inSpan : Bool)
    (q : ProcessId) : ((x.job c).spawn program inSpan).2.place q = .away := by
  unfold Job.place Job.process?
  cases hq : ((x.job c).spawn program inSpan).2.tasks[q]? with
  | none => rfl
  | some t =>
    obtain ⟨-, rfl⟩ := task_spawn hq
    rfl

theorem regular_spawn {τ : Type} {x : Context} {c : Cluster} {d : Draft} {base : Nat} (hd : d.Tidy base)
    (hr : x.registry = d.registry) (ho : x.opened = d.opened) (hw : c.world.connections = d.world.connections)
    (program : Program ν τ) : ((x.job c).spawn program true).2.Regular base 0 := by
  have hreg : ((x.job c).spawn program true).2.registry = d.registry := hr
  have hop : ((x.job c).spawn program true).2.opened = d.opened := ho
  refine ⟨?_, ?_, ?_, ?_⟩
  · refine .of_away (place_spawn x c program true) (fun b => ?_) (fun b c hc => ?_) (fun c o hc => ?_)
    · rw [Job.traffic, hreg]
      exact hd.vacant b
    · rw [Job.traffic, hreg] at hc
      rw [Job.traffic, hop]
      exact hd.opened_of_ready b c hc
    · rw [Job.traffic, hop] at hc
      rw [Job.traffic, hreg]
      exact hd.ready_of_opened c o hc
  · constructor
    · rw [hop]
      exact (congrArg List.length hw).trans hd.length
    · rw [hop]
      exact hd.number
  · constructor
    · intro q t k hq hk
      obtain ⟨-, rfl⟩ := task_spawn hq
      cases hk
    · intro q q' t t' k hq hq' hk
      obtain ⟨-, rfl⟩ := task_spawn hq
      cases hk
    · intro q t k hq hk
      obtain ⟨-, rfl⟩ := task_spawn hq
      cases hk
  · intro q t hq hne
    exact absurd (task_spawn hq).1 hne

theorem timely_spawn {τ : Type} (x : Context) (c : Cluster) (program : Program ν τ) {inSpan : Bool} :
    ((x.job c).spawn program inSpan).2.Timely := by
  constructor
  · intro e he
    cases he
  · intro q t due hq hdue
    change [_][q]?.map _ = _ at hq
    rw [List.getElem?_singleton] at hq
    split at hq
    · cases hq
      cases hdue
    · cases hq

/-- The job of a strategy is that of its program, which goes on with the end of the job. -/
theorem spawn_job (x : Context) (c : Cluster) (s : Strategy ν) (cluster : String) (v : View) :
    ((x.job c).spawn (s.job cluster v) true).2 =
      ((x.job c).spawn (s.program v) true).2.extend 0 (teardown cluster) [] := rfl

/-- In a context, and with the given moves, the strategy comes to a result on its own. -/
def Strategy.ComesTo (s : Strategy ν) (x : Context) (c : Cluster) (v : View) (moves : List Move)
    (r : Except Error Unit) : Prop :=
  ∃ j, ((x.job c).spawn (s.program v) true).2.play? moves = some j ∧
    j.process? 0 = some (.running (.done r))

section Phases

variable {x : Context} {c : Cluster} {d : Draft} {base : Nat} {s : Strategy ν} {v : View}
  {moves : List Move} {j : Job ν (Except Error Unit)}

/-- How far a job has come. Up to the result of its strategy nobody would close the registry; after
it the main process is about to, and no other. -/
theorem phases_of_job (hd : d.Tidy base) (hr : x.registry = d.registry) (ho : x.opened = d.opened)
    (hw : c.world.connections = d.world.connections) (hs : (s.program v).Asks (· ≠ .closeRegistry))
    (h : ((x.job c).spawn (s.job c.id v) true).2.play? moves = some j) :
    (j.Unclosed (· ≠ 0) ∧ ∀ r, j.process? 0 ≠ some (.ended (.value r))) ∨
    ∃ (before : List Move) (k : Nat) (after : List Move) (j₁ : Job ν (Except Error Unit))
        (r : Except Error Unit),
      moves = before ++ .step 0 k :: after ∧ s.ComesTo x c v before r ∧
      j₁.Regular base 0 ∧ j₁.Unclosed (· ≠ 0) ∧
      j₁.process? 0 = some (.running (teardown c.id r)) ∧
      j₁.play? (.step 0 k :: after) = some j := by
  have hregular := regular_spawn hd hr ho hw (s.job c.id v)
  have hunclosed : ((x.job c).spawn (s.program v) true).2.Unclosed fun _ => True := by
    refine ⟨(congrArg Registry.closed hr).trans hd.closed, fun q t _ hq => ?_⟩
    change [_][q]?.map _ = _ at hq
    rw [List.getElem?_singleton] at hq
    split at hq
    · cases hq
      exact hs
    · cases hq
  have hkept : ∀ {moves : List Move} {j₀ : Job ν (Except Error Unit)} ts,
      ((x.job c).spawn (s.program v) true).2.play? moves = some j₀ →
      (j₀.extend 0 (teardown c.id) ts).Unclosed (· ≠ 0) := by
    intro moves j₀ ts h₀
    have hu : j₀.Unclosed fun _ => True :=
      play?_keeps (P := fun j => j.Unclosed fun _ => True)
        (fun j m j' hu hc => hu.change hc fun p hp => absurd trivial hp) hunclosed h₀
    refine ⟨hu.isOpen, fun q t hq hqt => ?_⟩
    rw [process?_extend, if_neg hq] at hqt
    exact hu.asks q t trivial hqt
  rw [spawn_job] at h hregular
  rcases play?_extend Nat.zero_lt_one (by rintro t ⟨⟩) h with ⟨j₀, ts, hj₀, rfl, hv⟩ |
    ⟨before, k, after, j₀, ts, t, rfl, hb, ht, hb', ha⟩
  · refine .inl ⟨hkept ts hj₀, fun r hp => hv r ?_⟩
    rw [← outcome?_eq_some, outcome?_extend] at hp
    exact outcome?_eq_some.mp hp
  · refine .inr ⟨before, k, after, j₀.extend 0 (teardown c.id) ts, t, rfl, ⟨j₀, hb, ht⟩,
      play?_keeps (P := fun j => j.Regular base 0) (fun j m j' hj hc => hj.change hc) hregular hb',
      hkept ts hb, ?_, ha⟩
    rw [process?_extend, if_pos rfl, ht]
    rfl

/-- A job that has come to a result has it from its strategy; all its tasks have ended and all its
connections are released. -/
theorem cleared_of_job {r : Except Error Unit} (hd : d.Tidy base)
    (hr : x.registry = d.registry) (ho : x.opened = d.opened)
    (hw : c.world.connections = d.world.connections) (hs : (s.program v).Asks (· ≠ .closeRegistry))
    (h : ((x.job c).spawn (s.job c.id v) true).2.play? moves = some j)
    (hj : j.outcome? 0 = some (.value r)) :
    (∃ before, before <+: moves ∧ s.ComesTo x c v before r) ∧ j.Cleared 0 [] ∧ j.Linked base ∧
      World.Keeps base c.world j.world := by
  have hkeep := (linked_play? (regular_spawn hd hr ho hw (s.job c.id v)).linked h).2
  rcases phases_of_job hd hr ho hw hs h with ⟨-, hv⟩ |
    ⟨before, k, after, j₁, t, rfl, hcomes, hr₁, hu, hp, ha⟩
  · exact absurd (outcome?_eq_some.mp hj) (hv r)
  · obtain ⟨rfl, hcleared, hlinked⟩ := cleared_of_play? hr₁ hu hp ha hj
    exact ⟨⟨before, List.prefix_append .., hcomes⟩, hcleared, hlinked, hkeep⟩

end Phases

namespace Cluster

def interleave (c : Cluster) (target : Member) (s : Strategy ν) (moves : List Move) :
    Option (Synchronization ν) :=
  let c := c.enter (.opened ⟨c.id, target.id, s.name⟩)
  match c.newContext true target with
  | (.error e, c) => some { result := some (.error e), cluster := c }
  | (.ok x, c) =>
    let c := c.enter (.sourceRecorded x.source.id)
    match x.view? c with
    | none => some { result := none, context := some x, cluster := c }
    | some v => (((x.job c).spawn (s.job c.id v) true).2.play? moves).map (x.result c)

/-- What a synchronization comes to is what it comes to in some interleaving. -/
theorem synchronize_interleaving (c : Cluster) (target : Member) (s : Strategy ν) (fuel : Nat) :
    ∃ moves, c.interleave target s moves = some (c.synchronize fuel target s) := by
  unfold interleave synchronize
  cases hn : (c.enter (.opened ⟨c.id, target.id, s.name⟩)).newContext true target with
  | mk r c' =>
    cases r with
    | error e => exact ⟨[], by simp only [hn]⟩
    | ok x =>
      simp only [hn]
      cases hv : x.view? (c'.enter (.sourceRecorded x.source.id)) with
      | none => exact ⟨[], rfl⟩
      | some v =>
        simp only [Context.perform, Job.perform]
        obtain ⟨moves, ts, h⟩ := Schedule.run_interleaving fuel
          { job := ((x.job (c'.enter (.sourceRecorded x.source.id))).spawn
              (s.job (c'.enter (.sourceRecorded x.source.id)).id v) true).2
            main := some 0
            current := some 0
            allowance := turnAllowance - x.spent } [] (timely_spawn ..) Nat.zero_lt_one
        refine ⟨moves, ?_⟩
        exact congrArg (Option.map _) h

/-- Why a synchronization has come to result `r`, by what has become of its context. -/
inductive Completed (s : Strategy ν) (moves : List Move) (out : Synchronization ν)
    (r : Except Error Unit) : Except Error Context × Cluster → Prop
  | refused {e : Error} {c : Cluster} (hr : r = .error e)
      (ho : out = { result := some r, cluster := c }) : Completed s moves out r (.error e, c)
  | ran {x x' : Context} {c : Cluster} {v : View} {before : List Move}
      (hv : x.view? (c.enter (.sourceRecorded x.source.id)) = some v) (hb : before <+: moves)
      (hs : s.ComesTo x (c.enter (.sourceRecorded x.source.id)) v before r)
      (hx : out.context = some x') (hshutdown : x'.pool.isShutdown = true)
      (hnone : x'.pool.outstanding = 0) : Completed s moves out r (.ok x, c)

/-- A synchronization comes to the error for which its context could not be made or else to its
strategy's own result, with an idle pool, and nothing that was opened for it is left open. The
strategy runs whenever the context could be made. -/
theorem synchronized (c : Cluster) (target : Member) (s : Strategy ν)
    (hs : ∀ v, (s.program v).Asks (· ≠ .closeRegistry)) :
    (∀ fuel, ∃ moves, c.interleave target s moves = some (c.synchronize fuel target s)) ∧
    (c.world.cache.Sound → ∀ x c',
      (c.enter (.opened ⟨c.id, target.id, s.name⟩)).newContext true target = (.ok x, c') →
      ∃ v, x.view? (c'.enter (.sourceRecorded x.source.id)) = some v) ∧
    ∀ moves out r, c.interleave target s moves = some out → out.result = some r →
      Completed s moves out r ((c.enter (.opened ⟨c.id, target.id, s.name⟩)).newContext true target) ∧
      ∀ n, c.world.connections.length ≤ n → n < out.cluster.world.connections.length →
        ∃ m k, out.cluster.world.connections[n]? = some (m.handle, k) ∧
          ((c.world.backend m).failState = false → (c.world.backend m).failClose = false →
            k.closed = true) := by
  refine ⟨c.synchronize_interleaving target s, ?_, ?_⟩
  · intro hsound x c' hn
    obtain ⟨v, hv⟩ := view_of_made (c := c.enter (.opened ⟨c.id, target.id, s.name⟩)) hsound hn
    exact ⟨v, hv⟩
  intro moves out r h hr
  unfold interleave at h
  cases hn : (c.enter (.opened ⟨c.id, target.id, s.name⟩)).newContext true target with
  | mk made c' =>
    simp only [hn] at h
    cases made with
    | error e =>
      cases h
      cases hr
      obtain ⟨hkeep, hreleased⟩ := released_of_error hn
      exact ⟨.refused rfl rfl, fun n hbase hlt => hkeep.closed hbase (hreleased n hbase hlt)⟩
    | ok x =>
      obtain ⟨d, hd, hreg, hop, hw, hmade⟩ := tidy_of_made hn
      simp only at h
      cases hv : x.view? (c'.enter (.sourceRecorded x.source.id)) with
      | none =>
        rw [hv] at h
        cases h
        cases hr
      | some v =>
        rw [hv] at h
        obtain ⟨j, hj, rfl⟩ := Option.map_eq_some_iff.mp h
        have ho : j.outcome? 0 = some (.value r) := by
          simp only [Context.result] at hr
          split at hr
          · rename_i ho
            cases hr
            exact ho
          · cases hr
        have hconnections : (c'.enter (.sourceRecorded x.source.id)).world.connections =
            d.world.connections := by rw [← hw]; rfl
        obtain ⟨⟨before, hb, hown⟩, hcleared, hlinked, hkeep⟩ :=
          cleared_of_job hd hreg hop hconnections (hs v) hj ho
        have hnone : j.pool.outstanding = 0 := by
          simp [Pool.outstanding, hcleared.idle.waiting, hcleared.idle.active]
        have hentered : World.Keeps c.world.connections.length c'.world
            (c'.enter (.sourceRecorded x.source.id)).world := .of_eq rfl rfl
        rw [← hw] at hmade
        refine ⟨.ran hv hb hown rfl hcleared.idle.isShutdown hnone, fun n hbase hlt => ?_⟩
        refine ((hmade.trans hentered).trans hkeep).closed hbase ?_
        have hlen : j.world.connections.length = c.world.connections.length + j.opened.length :=
          hlinked.length
        change n < j.world.connections.length at hlt
        obtain ⟨k, rfl⟩ := Nat.exists_eq_add_of_le hbase
        obtain ⟨o, ho⟩ : ∃ o, j.opened[k]? = some o := ⟨_, List.getElem?_eq_getElem (by omega)⟩
        rcases hcleared.swept k o ho with ⟨o', ho', hrel⟩ | hm | hf
        · rw [hlinked.number k o' ho'] at hrel
          exact hrel
        · cases hm
        · exact hf.elim

def withSilentBackend : Cluster where
  id := "c"
  codec := .plain
  world :=
    { backends := Assoc.ofList [("a", { id := "a", schema := ⟨[]⟩ }), ("b", { id := "b", schema := ⟨[]⟩ }),
        ("db", { id := "db", schema := ⟨[]⟩, failState := true })]
      active := ⟨[⟨"a", "a"⟩]⟩
      cache := { strategy := .eager } }

def connecting (r : Except Error Unit) : Strategy Empty where
  program _ := .ask (.connection ⟨"db", "db"⟩) fun _ => .done r

def failing : Synchronization Empty :=
  withSilentBackend.synchronize 40 ⟨"b", "b"⟩ (connecting (.error .poolShutdown))

/-- The strategy's error is the result, and the pool is idle. -/
theorem synchronized_failing :
    failing.result = some (.error .poolShutdown) ∧
    ∃ moves, Completed (connecting (.error .poolShutdown)) moves failing (.error .poolShutdown)
        ((withSilentBackend.enter (.opened ⟨"c", "b", "custom"⟩)).newContext true ⟨"b", "b"⟩) ∧
      ∀ n, 0 ≤ n → n < failing.cluster.world.connections.length →
        ∃ m k, failing.cluster.world.connections[n]? = some (m.handle, k) ∧
          ((withSilentBackend.world.backend m).failState = false →
            (withSilentBackend.world.backend m).failClose = false → k.closed = true) := by
  obtain ⟨hsome, -, hall⟩ := synchronized withSilentBackend ⟨"b", "b"⟩
    (connecting (.error .poolShutdown)) fun _ => .ask (by decide) fun _ => .done
  obtain ⟨moves, h⟩ := hsome 40
  exact ⟨rfl, moves, hall moves _ _ h rfl⟩

/-- A connection whose closing would succeed is left open if it does not tell whether it is
closed. -/
theorem open_after_synchronize :
    (withSilentBackend.synchronize 40 ⟨"b", "b"⟩ (connecting (.ok ()))).result = some (.ok ()) ∧
    ∃ k, (withSilentBackend.synchronize 40 ⟨"b", "b"⟩
        (connecting (.ok ()))).cluster.world.connections[2]? = some ("db", k) ∧
      k.failClose = false ∧ k.closed = false :=
  ⟨rfl, _, rfl, rfl, rfl⟩

end Cluster
end Resync

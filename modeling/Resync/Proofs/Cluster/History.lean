import Resync.Proofs.Context.Lockstep
import Resync.Proofs.Job.Faithful
import Resync.Proofs.Job.Synchronization

/-! # Histories of a cluster

Synchronizations, flushes and changes of the active set leave a cluster faithful, whatever they
come to, if no strategy asks a snapshot through a connection to another backend. Each job has
connections of its own: they are opened for it, one for each backend that it connects to, and no
connection that was there before is touched.
-/
namespace Resync

section Start

variable {ν τ : Type}

def View.own (v : View) : Side → String
  | .source => v.source.id
  | .target => v.target.id

/-- The strategy, whatever it sees, keeps to its own connections, and has none at first. -/
def Strategy.ProbesOwn (known : Member → Prop) (s : Strategy ν) : Prop :=
  ∀ v, known v.source → known v.target → (s.program v).ProbesOwn known v.own fun _ _ => False

def Context.schedule (x : Context) (allowance : Nat) (c : Cluster) (program : Program ν τ) :
    Schedule ν τ where
  job := ((x.job c).spawn program true).2
  main := some 0
  current := some 0
  allowance

def Cluster.start? (c : Cluster) (target : Member) (s : Strategy ν) :
    Option (View × Schedule ν (Except Error Unit)) :=
  match (c.enter (.opened ⟨c.id, target.id, s.name⟩)).newContext true target with
  | (.error _, _) => none
  | (.ok x, c) =>
    let c := c.enter (.sourceRecorded x.source.id)
    (x.view? c).map fun v => (v, x.schedule (turnAllowance - x.spent) c (s.job c.id v))

namespace Cluster

variable {c c₁ : Cluster} {target : Member} {s : Strategy ν} {x : Context} {v : View} {e : Error}

theorem start_of_error
    (h : (c.enter (.opened ⟨c.id, target.id, s.name⟩)).newContext true target = (.error e, c₁)) (fuel : Nat) :
    c.start? target s = none ∧
      c.synchronize fuel target s = { result := some (.error e), cluster := c₁ } := by
  constructor
  · unfold start?
    simp only [h]
  · unfold synchronize
    simp only [h]

/-- A synchronization is what becomes of the schedule that its job starts with. -/
theorem start_of_made
    (h : (c.enter (.opened ⟨c.id, target.id, s.name⟩)).newContext true target = (.ok x, c₁))
    (hv : x.view? (c₁.enter (.sourceRecorded x.source.id)) = some v) (fuel : Nat) :
    let c₂ := c₁.enter (.sourceRecorded x.source.id)
    let start := x.schedule (turnAllowance - x.spent) c₂ (s.job c₂.id v)
    c.start? target s = some (v, start) ∧
      c.synchronize fuel target s = x.result c₂ (start.run fuel).job := by
  unfold start? synchronize
  simp only [h, hv]
  exact ⟨rfl, rfl⟩

theorem interleave_of_error
    (h : (c.enter (.opened ⟨c.id, target.id, s.name⟩)).newContext true target = (.error e, c₁))
    (moves : List Move) :
    c.interleave target s moves = some { result := some (.error e), cluster := c₁ } := by
  unfold interleave
  simp only [h]

theorem interleave_of_made
    (h : (c.enter (.opened ⟨c.id, target.id, s.name⟩)).newContext true target = (.ok x, c₁))
    (hv : x.view? (c₁.enter (.sourceRecorded x.source.id)) = some v) (moves : List Move) :
    let c₂ := c₁.enter (.sourceRecorded x.source.id)
    c.interleave target s moves =
      ((x.schedule (turnAllowance - x.spent) c₂ (s.job c₂.id v)).job.play? moves).map (x.result c₂) := by
  unfold interleave
  simp only [h, hv]
  rfl

end Cluster

end Start

section Teardown

variable {ν : Type} {known : Member → Prop} {own : Side → String} {l : Leads}

theorem probesOwn_teardown (cluster : String) (r : Except Error Unit) (l : Leads) :
    (teardown cluster r : Program ν _).ProbesOwn known own l :=
  .ask ⟨nofun, nofun⟩ fun _ => .ask ⟨nofun, nofun⟩ fun _ => .ask ⟨nofun, nofun⟩ fun _ =>
    .ask ⟨nofun, nofun⟩ fun _ => .ask ⟨nofun, nofun⟩ fun _ => .done

theorem Strategy.ProbesOwn.job {s : Strategy ν} (h : s.ProbesOwn known) {v : View} (hs : known v.source)
    (ht : known v.target) (cluster : String) :
    (s.job cluster v).ProbesOwn known v.own fun _ _ => False :=
  (h v hs ht).andThen fun r l => probesOwn_teardown cluster r l

end Teardown

namespace Cluster

variable {ν τ : Type} {catalog : String → Schema} {known : Member → Prop} {owner : Nat → Schema}
  {base : Nat} {x : Context} {c c' : Cluster} {d : Draft} {target : Member} {s : Strategy ν}

theorem Provided.enter (h : Provided catalog known owner base x c d) (e : Log.Entry) :
    Provided catalog known owner base x (c.enter e) d := by
  obtain ⟨log, hw⟩ := h.world
  refine ⟨h.draft, h.registry, h.opened, ⟨log ++ [e], ?_⟩, h.source, h.target, h.snapshot⟩
  unfold Cluster.enter
  rw [hw]

theorem Provided.view (h : Provided catalog known owner base x c d) :
    ∃ source target, (catalog x.source.id).loaded = .ok source ∧ (catalog x.target.id).loaded = .ok target ∧
      x.view? c = some ⟨x.source, x.target, source, target⟩ := by
  obtain ⟨log, hw⟩ := h.world
  have hcache : c.world.cache = d.world.cache := by rw [hw]
  obtain ⟨hslive, hsown⟩ := h.snapshot .source
  obtain ⟨htlive, htown⟩ := h.snapshot .target
  obtain ⟨source, hs, hsource⟩ := h.draft.world.cache.snapshot? hslive
  obtain ⟨target, ht, htarget⟩ := h.draft.world.cache.snapshot? htlive
  rw [hsown] at hsource
  rw [htown] at htarget
  refine ⟨source, target, hsource, htarget, ?_⟩
  unfold Context.view?
  rw [hcache, hs, ht]
  rfl

theorem Provided.spawn (h : Provided catalog known owner base x c d) {program : Program ν τ}
    (hp : program.ProbesOwn known x.own fun _ _ => False) :
    ((x.job c).spawn program true).2.Faithful catalog known owner x.own base := by
  obtain ⟨log, hw⟩ := h.world
  have hconnections : c.world.connections = d.world.connections := by rw [hw]
  have hregular := regular_spawn h.draft.tidy h.registry h.opened hconnections program
  refine ⟨hregular.orderly, hregular.linked, ?_, fun side => ?_, fun q t hq => ?_⟩
  · change c.world.Faithful catalog known owner x.opened
    rw [hw, h.opened]
    exact h.draft.world.congr rfl rfl rfl rfl
  · change x.snapshot side < c.world.cache.live.length ∧ _
    rw [hw]
    exact h.snapshot side
  · change [_][q]?.map _ = _ at hq
    rw [List.getElem?_singleton] at hq
    split at hq
    · cases hq
      exact Program.ProbesOwn.mono hp fun _ _ => False.elim
    · cases hq

/-- What has become of a job that was faithful at its start: it is faithful still, and connections that
were there before were left alone. -/
theorem Provided.play (h : Provided catalog known owner base x c d) {program : Program ν τ}
    (hp : program.ProbesOwn known x.own fun _ _ => False) {moves : List Move} {j : Job ν τ}
    (hj : ((x.job c).spawn program true).2.play? moves = some j) :
    j.Faithful catalog known owner x.own base ∧ World.Keeps base c.world j.world := by
  refine Job.play?_keeps (P := fun j => j.Faithful catalog known owner x.own base ∧
    World.Keeps base c.world j.world) ?_ ⟨h.spawn hp, .of_eq rfl rfl⟩ hj
  rintro j m j' ⟨hj, hk⟩ hc
  exact ⟨hc.faithful hj, hk.trans (hc.linked hj.linked).2⟩

structure OwnConnections (known : Member → Prop) (c : Cluster) (out : Synchronization ν) : Prop where
  /-- No connection that was there before is touched. -/
  others : ∀ n < c.world.connections.length, out.cluster.world.connections[n]? = c.world.connections[n]?
  /-- All others were opened for the job, one for each backend that it has connected to. -/
  own : ∃ opened, (∀ x, out.context = some x → x.opened = opened) ∧
    out.cluster.world.Dedicated known c.world.connections.length opened

/-- Whatever a synchronization comes to, the cluster is faithful afterwards, and the connections were the
job's own. -/
theorem interleave_faithful (h : c.world.Faithful catalog known owner []) (ht : known target)
    (hs : s.ProbesOwn known) {moves : List Move} {out : Synchronization ν}
    (hout : c.interleave target s moves = some out) :
    (∃ owner', out.cluster.world.Faithful catalog known owner' []) ∧ c.OwnConnections known out := by
  have hentered : (c.enter (.opened ⟨c.id, target.id, s.name⟩)).world.Faithful catalog known owner [] :=
    h.congr rfl rfl rfl rfl
  cases hn : (c.enter (.opened ⟨c.id, target.id, s.name⟩)).newContext true target with
  | mk r c₁ =>
    obtain ⟨owner', d, hdraft, hcloses, hprovided⟩ := newContext_faithful hentered ht hn
    cases r with
    | error e =>
      have hclosed := hdraft.world.keeps hcloses.active hcloses.cache hcloses.backends hcloses.keeps
      rw [interleave_of_error hn] at hout
      cases hout
      exact ⟨⟨owner', hclosed.forget⟩, (released_of_error hn).1.below, d.opened, nofun,
        hdraft.dedicated hcloses⟩
    | ok x =>
      have hx := (hprovided x rfl).enter (.sourceRecorded x.source.id)
      obtain ⟨source, target', -, -, hv⟩ := hx.view
      have hprogram := hs.job (v := ⟨x.source, x.target, source, target'⟩) hx.source hx.target c₁.id
      rw [interleave_of_made hn hv] at hout
      obtain ⟨j, hplay, rfl⟩ := Option.map_eq_some_iff.mp hout
      obtain ⟨hj, hk⟩ := hx.play hprogram hplay
      obtain ⟨d', -, -, -, hw, hmaking⟩ := tidy_of_made hn
      refine ⟨⟨owner', hj.world.forget⟩, fun n hlt => ?_, _, ?_, hj.dedicated⟩
      · have hbefore : c₁.world.connections[n]? = c.world.connections[n]? := by
          rw [hw]
          exact hmaking.below n hlt
        exact (hk.below n hlt).trans hbefore
      · rintro _ ⟨⟩
        rfl

theorem synchronize_faithful (h : c.world.Faithful catalog known owner []) (ht : known target)
    (hs : s.ProbesOwn known) (fuel : Nat) :
    (∃ owner', (c.synchronize fuel target s).cluster.world.Faithful catalog known owner' []) ∧
      c.OwnConnections known (c.synchronize fuel target s) := by
  obtain ⟨moves, hmoves⟩ := c.synchronize_interleaving target s fuel
  exact interleave_faithful h ht hs hmoves

end Cluster

inductive Operation (ν : Type) where
  | synchronize (fuel : Nat) (target : Member) (s : Strategy ν)
  | interleave (target : Member) (s : Strategy ν) (moves : List Move)
  | flush
  | flushBackend (backend : String)
  | activate (m : Member)
  | deactivate (m : Member)
  | elapse (duration : Nat)

namespace Cluster

variable {ν : Type}

def operate (c : Cluster) : Operation ν → Cluster
  | .synchronize fuel target s => (c.synchronize fuel target s).cluster
  | .interleave target s moves => ((c.interleave target s moves).map (·.cluster)).getD c
  | .flush => { c with world := { c.world with cache := c.world.cache.flush } }
  | .flushBackend b => { c with world := { c.world with cache := c.world.cache.flushBackend b } }
  | .activate m => { c with world := { c.world with active := c.world.active.activate m } }
  | .deactivate m => { c with world := { c.world with active := c.world.active.deactivate m } }
  | .elapse duration => { c with world := { c.world with now := c.world.timeAfter duration } }

/-- The cluster as it would be if it were set up at this time, with the same backends and the same
active set. -/
def renewed (c : Cluster) : Cluster :=
  { c with world :=
    { now := c.world.now
      backends := c.world.backends
      active := c.world.active
      cache := { strategy := c.world.cache.strategy } } }

def used (c : Cluster) (history : List (Operation ν)) : Cluster := history.foldl operate c.renewed

end Cluster

/-- The operation is about known backends only, and its strategy keeps to its own connections. -/
def Operation.Within {ν : Type} (known : Member → Prop) : Operation ν → Prop
  | synchronize _ target s | interleave target s _ => known target ∧ s.ProbesOwn known
  | activate m => known m
  | _ => True

namespace Cluster

variable {ν : Type} {catalog : String → Schema} {known : Member → Prop} {owner : Nat → Schema} {c : Cluster}

theorem operate_faithful {op : Operation ν} (h : c.world.Faithful catalog known owner [])
    (hop : op.Within known) : ∃ owner', (c.operate op).world.Faithful catalog known owner' [] := by
  cases op with
  | synchronize fuel target s => exact (synchronize_faithful h hop.1 hop.2 fuel).1
  | interleave target s moves =>
    simp only [operate]
    cases hout : c.interleave target s moves with
    | none => exact ⟨owner, h⟩
    | some out => exact (interleave_faithful h hop.1 hop.2 hout).1
  | flush => exact ⟨owner, h.cache.flush, h.active, h.schema, nofun⟩
  | flushBackend b => exact ⟨owner, h.cache.flushBackend b, h.active, h.schema, nofun⟩
  | activate m =>
    refine ⟨owner, h.cache, fun m' hm' => ?_, h.schema, nofun⟩
    rcases List.mem_append.mp hm' with hm' | hm'
    · exact h.active m' hm'
    · cases List.mem_singleton.mp hm'
      exact hop
  | deactivate m =>
    refine ⟨owner, h.cache, fun m' hm' => ?_, h.schema, nofun⟩
    exact h.active m' (List.mem_filter.mp hm').1
  | elapse duration => exact ⟨owner, h.congr rfl rfl rfl rfl⟩

theorem renewed_faithful (ha : ∀ m ∈ c.world.active.members, known m)
    (hs : ∀ m, known m → (c.world.backend m).schema = catalog m.id) (owner : Nat → Schema) :
    c.renewed.world.Faithful catalog known owner [] :=
  ⟨Cache.faithful_new _, ha, hs, nofun⟩

theorem history_faithful {history : List (Operation ν)} (h : c.world.Faithful catalog known owner [])
    (hh : ∀ op ∈ history, op.Within known) :
    ∃ owner', (history.foldl operate c).world.Faithful catalog known owner' [] := by
  -- operations may add to the snapshots in use, so the owner is not the same throughout
  induction history generalizing c owner with
  | nil => exact ⟨owner, h⟩
  | cons op history ih =>
    obtain ⟨owner', h'⟩ := operate_faithful h (hh op List.mem_cons_self)
    exact ih h' fun op' hop' => hh op' (List.mem_cons_of_mem op hop')

end Cluster
end Resync

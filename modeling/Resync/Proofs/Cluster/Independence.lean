import Mathlib.Data.List.Nodup
import Resync.Proofs.Cluster.History
import Resync.Proofs.Job.Lockstep

/-! # Jobs do not influence each other

Jobs of one cluster share its cache, with what earlier jobs have loaded and probed, and its list
of connections. None of this is seen by a job: in a cluster with a history, it does and sees what
it would in a cluster that is set up anew with the same backends and the same active set.
-/
namespace Resync

namespace World

def Knows (w : World) (m : Member) : Prop := (w.backends.get? m.handle).map (·.id) = some m.id

instance (w : World) : DecidablePred w.Knows := fun _ => inferInstanceAs (Decidable (_ = _))

def Distinct (w : World) : Prop := (w.backends.values.map (·.id)).Nodup

instance (w : World) : Decidable w.Distinct := inferInstanceAs (Decidable (List.Nodup _))

theorem Distinct.catalog {w : World} (hd : w.Distinct) :
    ∃ catalog : String → Schema, ∀ m, w.Knows m → (w.backend m).schema = catalog m.id := by
  refine ⟨fun id => (w.backends.pairs.find? fun e => e.2.id == id).elim ⟨[]⟩ (·.2.schema), ?_⟩
  intro m hm
  obtain ⟨b, hb, hid⟩ := Option.map_eq_some_iff.mp hm
  have hmem : (m.handle, b) ∈ w.backends.pairs := (Assoc.mem_pairs ..).mpr hb
  have hids : (w.backends.pairs.map fun e => e.2.id).Nodup := by
    unfold Distinct Assoc.values at hd
    rwa [List.map_map] at hd
  simp only [backend, hb, Option.getD_some]
  cases hfound : w.backends.pairs.find? fun e => e.2.id == m.id with
  | none =>
    have hno := List.find?_eq_none.mp hfound (m.handle, b) hmem
    exact absurd (beq_iff_eq.mpr hid) hno
  | some e =>
    have hsome := List.find?_some hfound
    have he := List.inj_on_of_nodup_map hids hmem (List.mem_of_find?_eq_some hfound)
      (hid.trans (beq_iff_eq.mp hsome).symm)
    rw [← he]
    rfl

end World

namespace Cluster

variable {ν : Type} {catalog : String → Schema} {known : Member → Prop} {owner owner' : Nat → Schema}
  {c c' : Cluster} {target : Member} {s : Strategy ν}

def view? (c : Cluster) (target : Member) (s : Strategy ν) : Option View := (c.start? target s).map Prod.fst

def probes (fuel : Nat) (c : Cluster) (target : Member) (s : Strategy ν) : List Probe :=
  (c.start? target s).elim [] fun start => start.2.probes fuel

def probesOf (moves : List Move) (c : Cluster) (target : Member) (s : Strategy ν) : List Probe :=
  (c.start? target s).elim [] fun start => start.2.job.probes moves

/-- A job comes to the same in both clusters: its strategy sees the same, is told the same, takes the
same notes, connects to the same backends and comes to the same result. -/
structure SameJob (fuel : Nat) (c c' : Cluster) (target : Member) (s : Strategy ν) : Prop where
  view : c'.view? target s = c.view? target s
  probes : c'.probes fuel target s = c.probes fuel target s
  journal : (c'.synchronize fuel target s).journal = (c.synchronize fuel target s).journal
  backends : (c'.synchronize fuel target s).context.map (·.opened.map (·.backend)) =
    (c.synchronize fuel target s).context.map (·.opened.map (·.backend))
  result : (c'.synchronize fuel target s).result = (c.synchronize fuel target s).result

structure SameOutcome (out out' : Synchronization ν) : Prop where
  journal : out'.journal = out.journal
  backends : out'.context.map (·.opened.map (·.backend)) = out.context.map (·.opened.map (·.backend))
  result : out'.result = out.result

/-- The moves are possible for a job in both clusters or in none, and it comes to the same by them. -/
structure SameRun (moves : List Move) (c c' : Cluster) (target : Member) (s : Strategy ν) : Prop where
  outcome : Option.Rel SameOutcome (c.interleave target s moves) (c'.interleave target s moves)
  probes : c'.probesOf moves target s = c.probesOf moves target s

theorem Twin.enter (h : Twin c c') (e e' : Log.Entry) : Twin (c.enter e) (c'.enter e') :=
  ⟨h.id, h.codec, ⟨h.world.now, h.world.active, h.world.backend, h.world.connection⟩, h.strategy⟩

theorem schedule_twin {τ : Type} {base base' : Nat} {x x' : Context} {d d' : Draft}
    (hx : Provided catalog known owner base x c d) (hx' : Provided catalog known owner' base' x' c' d')
    (hd : Draft.Twin base base' d d') (hcodec : c'.codec = c.codec) (hpool : x'.pool = x.pool)
    (allowance : Nat) (program : Program ν τ) :
    (x.schedule allowance c program).Twin base base' (x'.schedule allowance c' program) := by
  have hregistry : x'.registry = x.registry := by rw [hx'.registry, hx.registry, hd.registry]
  have hopened : x'.opened.map (·.backend) = x.opened.map (·.backend) := by
    rw [hx'.opened, hx.opened, hd.opened]
  have hworld : c.world.Counterpart base base' c'.world := by
    obtain ⟨log, hw⟩ := hx.world
    obtain ⟨log', hw'⟩ := hx'.world
    rw [hw, hw']
    exact ⟨hd.world.now, hd.world.active, hd.world.backend, hd.world.connection⟩
  have hjob : ((x'.job c').spawn program true).2 =
      ((x.job c).spawn program true).2.moved c'.world x'.opened x'.snapshot := by
    unfold Context.job Job.spawn Job.moved
    simp only
    rw [hcodec, hregistry, hpool]
  have htwin : ((x.job c).spawn program true).2.Twin base base' ((x'.job c').spawn program true).2 := by
    rw [hjob]
    exact .moved hworld hopened
  exact .of htwin

theorem Provided.view_eq {base base' : Nat} {x x' : Context} {d d' : Draft}
    (hx : Provided catalog known owner base x c d) (hx' : Provided catalog known owner' base' x' c' d')
    (hsource : x'.source = x.source) (htarget : x'.target = x.target) :
    ∃ source target, x.view? c = some ⟨x.source, x.target, source, target⟩ ∧
      x'.view? c' = some ⟨x.source, x.target, source, target⟩ := by
  obtain ⟨source, target, hs, ht, hv⟩ := hx.view
  obtain ⟨source', target', hs', ht', hv'⟩ := hx'.view
  rw [hsource, hs] at hs'
  rw [htarget, ht] at ht'
  cases hs'
  cases ht'
  rw [hsource, htarget] at hv'
  exact ⟨source, target, hv, hv'⟩

/-- How a job starts in two clusters: it is refused a context in both, for the same reason, or goes on as
twins that are faithful. -/
inductive Started (catalog : String → Schema) (known : Member → Prop) (c c' : Cluster) (target : Member)
    (s : Strategy ν) : Prop
  | refused {e : Error} {c₁ c₁' : Cluster}
      (hn : (c.enter (.opened ⟨c.id, target.id, s.name⟩)).newContext true target = (.error e, c₁))
      (hn' : (c'.enter (.opened ⟨c'.id, target.id, s.name⟩)).newContext true target = (.error e, c₁'))
  | made {x x' : Context} {c₁ c₁' c₂ c₂' : Cluster} {v : View} {start start' : Schedule ν (Except Error Unit)}
      {base base' : Nat} {owner owner' : Nat → Schema}
      (hn : (c.enter (.opened ⟨c.id, target.id, s.name⟩)).newContext true target = (.ok x, c₁))
      (hn' : (c'.enter (.opened ⟨c'.id, target.id, s.name⟩)).newContext true target = (.ok x', c₁'))
      (hc : c₁.enter (.sourceRecorded x.source.id) = c₂) (hc' : c₁'.enter (.sourceRecorded x'.source.id) = c₂')
      (hv : x.view? c₂ = some v) (hv' : x'.view? c₂' = some v)
      (hs : x.schedule (turnAllowance - x.spent) c₂ (s.job c₂.id v) = start)
      (hs' : x'.schedule (turnAllowance - x'.spent) c₂' (s.job c₂'.id v) = start')
      (htwin : start.Twin base base' start')
      (hj : start.job.Faithful catalog known owner x.own base)
      (hj' : start'.job.Faithful catalog known owner' x.own base')

theorem Twin.started (hc : Twin c c') (h : c.world.Faithful catalog known owner [])
    (h' : c'.world.Faithful catalog known owner' []) (ht : known target) (hs : s.ProbesOwn known) :
    Started catalog known c c' target s := by
  have hentered : (c.enter (.opened ⟨c.id, target.id, s.name⟩)).world.Faithful catalog known owner [] :=
    h.congr rfl rfl rfl rfl
  have hentered' : (c'.enter (.opened ⟨c'.id, target.id, s.name⟩)).world.Faithful catalog known owner' [] :=
    h'.congr rfl rfl rfl rfl
  have htwin := hc.enter (.opened ⟨c.id, target.id, s.name⟩) (.opened ⟨c'.id, target.id, s.name⟩)
  have htogether := newContext_together htwin hentered hentered' true ht
  generalize hn : (c.enter _).newContext true target = made at htogether
  generalize hn' : (c'.enter _).newContext true target = made' at htogether
  cases htogether with
  | refused => exact .refused hn hn'
  | @made x x' c₁ c₁' d d' owner₁ owner₁' hx hx' hd hid hcodec hsource htarget hpool hspent =>
    have hx := hx.enter (.sourceRecorded x.source.id)
    have hx' := hx'.enter (.sourceRecorded x'.source.id)
    obtain ⟨source, target, hv, hv'⟩ := hx.view_eq hx' hsource htarget
    have hown : x'.own = x.own := by
      unfold Context.own
      rw [hsource, htarget]
    have hprogram : (s.job c₁.id ⟨x.source, x.target, source, target⟩).ProbesOwn known x.own
        fun _ _ => False :=
      hs.job (v := ⟨x.source, x.target, source, target⟩) hx.source hx.target c₁.id
    have hspawn := hx.spawn hprogram
    rw [← hown] at hprogram
    have hspawn' := hx'.spawn hprogram
    rw [hown] at hspawn'
    have htwin := schedule_twin hx hx' hd hcodec hpool (turnAllowance - x.spent)
      (s.job c₁.id ⟨x.source, x.target, source, target⟩)
    have hid' : (c₁'.enter (.sourceRecorded x'.source.id)).id = c₁.id := hid
    refine .made hn hn' rfl rfl hv hv' rfl ?_ htwin hspawn hspawn'
    rw [hspent, hid']

/-- A job comes to the same in faithful clusters of which it can tell no difference. -/
theorem Started.synchronize (h : Started catalog known c c' target s) (fuel : Nat) :
    SameJob fuel c c' target s := by
  cases h with
  | refused hn hn' =>
    obtain ⟨hstart, hout⟩ := start_of_error hn fuel
    obtain ⟨hstart', hout'⟩ := start_of_error hn' fuel
    constructor
    · rw [view?, view?, hstart, hstart']
    · rw [Cluster.probes, Cluster.probes, hstart, hstart']
    · rw [hout, hout']
    · rw [hout, hout']
    · rw [hout, hout']
  | made hn hn' hc hc' hv hv' hs hs' htwin hj hj' =>
    subst hc hc' hs hs'
    obtain ⟨hrun, hprobes⟩ := htwin.run fuel hj hj'
    obtain ⟨hstart, hout⟩ := start_of_made hn hv fuel
    obtain ⟨hstart', hout'⟩ := start_of_made hn' hv' fuel
    constructor
    · rw [view?, view?, hstart, hstart']
      rfl
    · rw [Cluster.probes, Cluster.probes, hstart, hstart']
      exact hprobes
    · rw [hout, hout']
      exact hrun.job.journal
    · rw [hout, hout']
      exact congrArg some hrun.job.backends
    · rw [hout, hout']
      unfold Context.result
      rw [hrun.job.outcome? 0]

/-- The same moves are possible for a job in both clusters, and it comes to the same by them. -/
theorem Started.interleave (h : Started catalog known c c' target s) (moves : List Move) :
    SameRun moves c c' target s := by
  cases h with
  | refused hn hn' =>
    obtain ⟨hstart, -⟩ := start_of_error hn 0
    obtain ⟨hstart', -⟩ := start_of_error hn' 0
    constructor
    · rw [interleave_of_error hn, interleave_of_error hn']
      exact .some ⟨rfl, rfl, rfl⟩
    · rw [probesOf, probesOf, hstart, hstart']
  | made hn hn' hc hc' hv hv' hs hs' htwin hj hj' =>
    subst hc hc' hs hs'
    obtain ⟨hplay, hprobes⟩ := htwin.job.play? moves hj hj'
    obtain ⟨hstart, -⟩ := start_of_made hn hv 0
    obtain ⟨hstart', -⟩ := start_of_made hn' hv' 0
    constructor
    · rw [interleave_of_made hn hv, interleave_of_made hn' hv']
      generalize Job.play? _ moves = r at hplay
      generalize Job.play? _ moves = r' at hplay
      cases hplay with
      | none => exact .none
      | some h =>
        refine .some ⟨h.journal, congrArg some h.backends, ?_⟩
        unfold Context.result
        rw [h.outcome? 0]
    · rw [probesOf, probesOf, hstart, hstart']
      exact hprobes

theorem renewed_twin (c : Cluster) : Twin c c.renewed where
  id := rfl
  codec := rfl
  world := by
    refine ⟨rfl, rfl, fun m => rfl, fun n => ?_⟩
    have hnone : c.world.connections[c.world.connections.length + n]? = none :=
      List.getElem?_eq_none (Nat.le_add_right ..)
    rw [hnone]
    rfl
  strategy := rfl

/-- Jobs do not influence each other: whatever has happened to a cluster, a further job comes to what it
would come to if the cluster were new, and all its connections are opened for it. This holds of its
schedule, and move by move of every interleaving. -/
theorem undisturbed {ν₀ : Type} (c : Cluster) (hd : c.world.Distinct)
    (ha : ∀ m ∈ c.world.active.members, c.world.Knows m) (history : List (Operation ν₀))
    (hh : ∀ op ∈ history, op.Within c.world.Knows) (target : Member) (ht : c.world.Knows target)
    (s : Strategy ν) (hs : s.ProbesOwn c.world.Knows) (fuel : Nat) :
    (SameJob fuel (c.used history) (c.used history).renewed target s ∧
      (c.used history).OwnConnections c.world.Knows ((c.used history).synchronize fuel target s)) ∧
    ∀ moves, SameRun moves (c.used history) (c.used history).renewed target s ∧
      ∀ out, (c.used history).interleave target s moves = some out →
        (c.used history).OwnConnections c.world.Knows out := by
  obtain ⟨catalog, hcatalog⟩ := hd.catalog
  obtain ⟨owner, hused⟩ := history_faithful (renewed_faithful ha hcatalog fun _ => ⟨[]⟩) hh
  have hnew := renewed_faithful (c := c.used history) hused.active hused.schema owner
  have hstarted := (renewed_twin (c.used history)).started hused hnew ht hs
  exact ⟨⟨hstarted.synchronize fuel, (synchronize_faithful hused ht hs fuel).2⟩, fun moves =>
    ⟨hstarted.interleave moves, fun out hout => (interleave_faithful hused ht hs hout).2⟩⟩

def filling : Cluster where
  id := "c"
  codec := .plain
  world :=
    { backends := Assoc.ofList [("a", { id := "a", schema := ⟨[]⟩ }),
        ("b", { id := "b", schema := ⟨[.autoIncrement "t" [false, true]]⟩ })]
      active := ⟨[⟨"a", "a"⟩]⟩
      cache := { strategy := .eager } }

def asking : Strategy (Except Error Bool) where
  program v := .ask (.connection v.target) fun
    | .error e => .done (.error e)
    | .ok c => .ask (.autoIncrement .target c "t") fun r => .note r (.done (.ok ()))

theorem probesOwn_asking (known : Member → Prop) : asking.ProbesOwn known := by
  intro v hs ht
  refine .connection ht (fun e => .done) fun c => ?_
  exact .autoIncrement (.inr ⟨rfl, rfl⟩) fun r => .note .done

def asked : Cluster := filling.used [.synchronize 60 ⟨"b", "b"⟩ asking, .flushBackend "a"]

/-- A second job is told the same as the first, though it need not probe. -/
theorem undisturbed_asking :
    (asked.world.cache.live.map fun l => l.memo.get? "t") = [some true, none] ∧
    (asked.synchronize 60 ⟨"b", "b"⟩ asking).journal = [(0, .ok true)] ∧
    (asked.interleave ⟨"b", "b"⟩ asking (List.replicate 13 (.step 0 0))).map (·.journal) =
      some [(0, .ok true)] ∧
    SameJob 60 asked asked.renewed ⟨"b", "b"⟩ asking ∧
    SameRun (List.replicate 13 (.step 0 0)) asked asked.renewed ⟨"b", "b"⟩ asking ∧
    asked.OwnConnections filling.world.Knows (asked.synchronize 60 ⟨"b", "b"⟩ asking) := by
  have hhistory : ∀ op ∈ [Operation.synchronize 60 ⟨"b", "b"⟩ asking, .flushBackend "a"],
      op.Within filling.world.Knows := by
    intro op hop
    rcases List.mem_cons.mp hop with rfl | hop
    · exact ⟨by decide, probesOwn_asking _⟩
    · cases List.mem_singleton.mp hop
      trivial
  obtain ⟨⟨hjob, hown⟩, hrun⟩ := undisturbed filling (by decide) (by decide) _ hhistory ⟨"b", "b"⟩ (by decide)
    asking (probesOwn_asking _) 60
  exact ⟨rfl, rfl, rfl, hjob, (hrun _).1, hown⟩

end Cluster
end Resync

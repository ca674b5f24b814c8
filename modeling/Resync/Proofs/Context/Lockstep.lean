import Resync.Proofs.Cluster.Counterpart
import Resync.Proofs.Cluster.Faithful
import Resync.Proofs.Context.Making

/-! # Drafts in lockstep

Two drafts that are made in counterparts of one world stay counterparts, stage by stage: either
both fail for the same reason, or neither does. If both caches are faithful to one catalog, this
is so for snapshots too, and both drafts come to snapshots of the same schemas, even if one of
them finds in its cache what the other has to load.
-/
namespace Resync

theorem World.Counterpart.connectFault? {base base' : Nat} {w w' : World}
    (h : w.Counterpart base base' w') (codec : Codec) (m : Member) :
    w'.connectFault? codec m = w.connectFault? codec m := by
  have hpassword : (w'.backend m).password = (w.backend m).password :=
    (congrArg Backend.password (h.backend m) :)
  have hrefusing : (w'.backend m).refusing = (w.backend m).refusing :=
    (congrArg Backend.refusing (h.backend m) :)
  unfold World.connectFault?
  rw [hpassword, hrefusing]

namespace Draft

variable {catalog : String → Schema} {known : Member → Prop} {owner owner' : Nat → Schema}
  {base base' : Nat} {d d' : Draft} {m : Member}

section Faithful

structure Faithful (catalog : String → Schema) (known : Member → Prop) (owner : Nat → Schema) (base : Nat)
    (d : Draft) : Prop where
  tidy : d.Tidy base
  world : d.world.Faithful catalog known owner d.opened

theorem Faithful.opening (h : d.Faithful catalog known owner base) (hm : known m)
    (hcell : d.registry.cell m.id = .free) : (d.opening m).Faithful catalog known owner base where
  tidy := h.tidy.opening hcell
  world := (h.world.append hm).attempted m

theorem Faithful.connection (h : d.Faithful catalog known owner base) (hm : known m) {codec : Codec}
    {r : Except Error Nat} {d₁ : Draft} (hr : on d (connection codec m) = (r, d₁)) :
    d₁.Faithful catalog known owner base ∧ d₁.world.cache = d.world.cache ∧
      ∀ number, r = .ok number →
        ∃ handle k, d₁.world.connections[number]? = some (handle, k) ∧ k.schema = catalog m.id := by
  cases hcell : d.registry.cell m.id with
  | held holder queue =>
    have hvacant := h.tidy.vacant m.id
    rw [hcell] at hvacant
    cases hvacant
  | ready c =>
    obtain ⟨n, ho⟩ := h.tidy.opened_of_ready m.id c hcell
    rw [on_connection_of_ready codec hcell ho] at hr
    cases hr
    refine ⟨h, rfl, ?_⟩
    rintro number ⟨⟩
    obtain ⟨m', k, -, hk, hschema⟩ := h.world.leads _ (List.mem_of_getElem? ho)
    exact ⟨m'.handle, k, hk, hschema⟩
  | free =>
    rw [on_connection_of_free codec hcell, on_connect] at hr
    cases hf : d.world.connectFault? codec m with
    | some e =>
      rw [hf] at hr
      cases hr
      exact ⟨⟨h.tidy.congr rfl rfl rfl, (h.world.attempted m).congr rfl rfl rfl rfl⟩, rfl, nofun⟩
    | none =>
      rw [hf] at hr
      cases hr
      have hopening := h.opening hm hcell
      refine ⟨⟨hopening.tidy.congr rfl rfl rfl, hopening.world.congr rfl rfl rfl rfl⟩, rfl, ?_⟩
      rintro number ⟨⟩
      exact ⟨m.handle, (d.world.backend m).connection, List.getElem?_concat_length, h.world.schema m hm⟩

theorem Faithful.dedicated {w : World} (h : d.Faithful catalog known owner base)
    (hc : World.Closes base d.world w) : w.Dedicated known base d.opened where
  length := hc.length.trans h.tidy.length
  number := h.tidy.number
  backends := by
    have horder : Traffic.Orderly ⟨d.registry, d.opened, fun _ => .away⟩ :=
      .of_away (fun _ => rfl) h.tidy.vacant h.tidy.opened_of_ready h.tidy.ready_of_opened
    exact horder.backends_nodup
  leads o ho := by
    obtain ⟨m, k, hm, hk, -⟩ := h.world.leads o ho
    obtain ⟨k', hk', -⟩ := hc.keeps.connection o.number m.handle k hk
    exact ⟨m, k', hm, hk'⟩

/-- What taking the snapshot of a backend leaves: if there is one, it is the backend's. -/
structure Snapped (catalog : String → Schema) (known : Member → Prop) (owner owner' : Nat → Schema)
    (base : Nat) (d : Draft) (m : Member) (r : Except Error Nat) (d' : Draft) : Prop where
  faithful : d'.Faithful catalog known owner' base
  length : d.world.cache.live.length ≤ d'.world.cache.live.length
  before : ∀ i < d.world.cache.live.length, owner' i = owner i
  own : ∀ n, r = .ok n → n < d'.world.cache.live.length ∧ owner' n = catalog m.id

theorem Faithful.snapshot (h : d.Faithful catalog known owner base) (hm : known m) {codec : Codec}
    {r : Except Error Nat} {d₁ : Draft} (hr : on d (snapshot codec m) = (r, d₁)) :
    ∃ owner', Snapped catalog known owner owner' base d m r d₁ := by
  cases hc : on d (Draft.connection codec m) with
  | mk r₀ d₀ =>
    obtain ⟨h₀, hcache, hconnection⟩ := h.connection hm hc
    cases r₀ with
    | error e =>
      rw [on_snapshot_of_error hc] at hr
      cases hr
      exact ⟨owner, h₀, Nat.le_of_eq (by rw [hcache]), fun _ _ => rfl, nofun⟩
    | ok number =>
      obtain ⟨handle, k, hk, hschema⟩ := hconnection number rfl
      have hget := h₀.world.cache.get hschema
      rw [on_snapshot_of_connection hc hk] at hr
      cases hload : (catalog m.id).loaded with
      | error e =>
        simp only [hload] at hget
        rw [hget] at hr
        cases hr
        exact ⟨owner, ⟨h₀.tidy.congr rfl rfl rfl, h₀.world⟩, Nat.le_of_eq (by rw [hcache]), fun _ _ => rfl,
          nofun⟩
      | ok s =>
        simp only [hload] at hget
        obtain ⟨n, cache, owner', hok, hhanded⟩ := hget
        rw [hok] at hr
        cases hr
        have hworld : ({ d₀.world with cache } : World).Faithful catalog known owner' d₀.opened :=
          ⟨hhanded.faithful, h₀.world.active, h₀.world.schema, h₀.world.leads⟩
        refine ⟨owner', ⟨h₀.tidy.congr rfl rfl rfl, hworld⟩, ?_, ?_, ?_⟩
        · rw [← hcache]
          exact hhanded.length
        · rw [← hcache]
          exact hhanded.before
        · rintro _ ⟨⟩
          exact ⟨hhanded.lt, hhanded.owned⟩

end Faithful

/-- The drafts show the same, but for the numbers of connections and snapshots. -/
structure Twin (base base' : Nat) (d d' : Draft) : Prop where
  world : d.world.Counterpart base base' d'.world
  registry : d'.registry = d.registry
  opened : d'.opened.map (·.backend) = d.opened.map (·.backend)
  spent : d'.spent = d.spent
  strategy : d'.world.cache.strategy = d.world.cache.strategy

def Alike {α : Type} (base base' : Nat) (r r' : Except Error α × Draft) : Prop :=
  r'.1.map (fun _ => ()) = r.1.map (fun _ => ()) ∧ Twin base base' r.2 r'.2

section Alike

variable {α β : Type}

theorem Alike.results {r r' : Except Error α} (h : Alike base base' (r, d) (r', d')) :
    (∃ e, r = .error e ∧ r' = .error e) ∨ ∃ a a', r = .ok a ∧ r' = .ok a' := by
  obtain ⟨hresult, -⟩ := h
  cases r with
  | error e =>
    cases r' with
    | error e' =>
      cases hresult
      exact .inl ⟨e, rfl, rfl⟩
    | ok a' => cases hresult
  | ok a =>
    cases r' with
    | error e' => cases hresult
    | ok a' => exact .inr ⟨a, a', rfl, rfl⟩

theorem Alike.bind {a a' : Build α} {f f' : α → Build β} (h : Alike base base' (on d a) (on d' a'))
    (hf : ∀ v v' d₁ d₁', on d a = (.ok v, d₁) → on d' a' = (.ok v', d₁') → Twin base base' d₁ d₁' →
      Alike base base' (on d₁ (f v)) (on d₁' (f' v'))) :
    Alike base base' (on d (a >>= f)) (on d' (a' >>= f')) := by
  rw [on_bind, on_bind]
  cases hr : on d a with
  | mk r d₁ =>
  cases hr' : on d' a' with
  | mk r' d₁' =>
    rw [hr, hr'] at h
    obtain ⟨e, rfl, rfl⟩ | ⟨v, v', rfl, rfl⟩ := h.results
    · exact ⟨rfl, h.2⟩
    · exact hf v v' d₁ d₁' hr hr' h.2

end Alike

theorem Twin.reached (h : Twin base base' d d') (codec : Codec) (m : Member) :
    d'.reached codec m = d.reached codec m := by
  unfold Draft.reached
  rw [(h.world.attempt codec m).1, h.world.now, h.spent]

theorem Twin.opening (h : Twin base base' d d') (ht : d.Tidy base) (ht' : d'.Tidy base') (m : Member) :
    Twin base base' (d.opening m) (d'.opening m) := by
  have hlength : d'.opened.length = d.opened.length := by
    have hl := congrArg List.length h.opened
    rw [List.length_map, List.length_map] at hl
    exact hl
  have happend := h.world.append m ht.length (ht'.length.trans (congrArg (base' + ·) hlength))
  refine ⟨happend.attempted m, ?_, ?_, h.spent, h.strategy⟩
  · unfold Draft.opening
    simp only
    rw [h.registry, hlength]
  · unfold Draft.opening
    simp only
    rw [List.map_append, List.map_append, h.opened]
    rfl

theorem Twin.connection (h : Twin base base' d d') (ht : d.Tidy base) (ht' : d'.Tidy base') (codec : Codec)
    (m : Member) : Alike base base' (on d (connection codec m)) (on d' (connection codec m)) := by
  have hregistry : d'.registry.cell m.id = d.registry.cell m.id := by rw [h.registry]
  cases hcell : d.registry.cell m.id with
  | held holder queue =>
    have hvacant := ht.vacant m.id
    rw [hcell] at hvacant
    cases hvacant
  | ready c =>
    have hcell' := hregistry.trans hcell
    obtain ⟨n, ho⟩ := ht.opened_of_ready m.id c hcell
    obtain ⟨n', ho'⟩ := ht'.opened_of_ready m.id c hcell'
    rw [on_connection_of_ready codec hcell ho, on_connection_of_ready codec hcell' ho']
    exact ⟨rfl, h⟩
  | free =>
    have hreached := h.reached codec m
    have hopening := h.opening ht ht' m
    have hattempted := h.world.attempted m
    rw [on_connection_of_free codec hcell, on_connection_of_free codec (hregistry.trans hcell), on_connect,
      on_connect, h.world.connectFault?, hreached]
    cases d.world.connectFault? codec m with
    | some e =>
      exact ⟨rfl, ⟨rfl, hattempted.active, hattempted.backend, hattempted.connection⟩, h.registry, h.opened,
        rfl, h.strategy⟩
    | none =>
      exact ⟨rfl, ⟨rfl, hopening.world.active, hopening.world.backend, hopening.world.connection⟩,
        hopening.registry, hopening.opened, rfl, h.strategy⟩

theorem Twin.snapshot (h : Twin base base' d d') (hf : d.Faithful catalog known owner base)
    (hf' : d'.Faithful catalog known owner' base') (codec : Codec) (hm : known m) :
    Alike base base' (on d (snapshot codec m)) (on d' (snapshot codec m)) := by
  have halike := h.connection hf.tidy hf'.tidy codec m
  cases hc : on d (Draft.connection codec m) with
  | mk r d₀ =>
  cases hc' : on d' (Draft.connection codec m) with
  | mk r' d₀' =>
    rw [hc, hc'] at halike
    have h₀ := halike.2
    obtain ⟨hf₀, -, hconnection⟩ := hf.connection hm hc
    obtain ⟨hf₀', -, hconnection'⟩ := hf'.connection hm hc'
    obtain ⟨e, rfl, rfl⟩ | ⟨number, number', rfl, rfl⟩ := halike.results
    · rw [on_snapshot_of_error hc, on_snapshot_of_error hc']
      exact ⟨rfl, h₀⟩
    obtain ⟨handle, k, hk, hschema⟩ := hconnection number rfl
    obtain ⟨handle', k', hk', hschema'⟩ := hconnection' number' rfl
    have hget := hf₀.world.cache.get hschema
    have hget' := hf₀'.world.cache.get hschema'
    rw [on_snapshot_of_connection hc hk, on_snapshot_of_connection hc' hk', h₀.spent, h₀.strategy]
    cases hload : (catalog m.id).loaded with
    | error e =>
      simp only [hload] at hget hget'
      rw [hget, hget']
      exact ⟨rfl, h₀.world, h₀.registry, h₀.opened, rfl, h₀.strategy⟩
    | ok s =>
      simp only [hload] at hget hget'
      obtain ⟨n, cache, o, hok, hhanded⟩ := hget
      obtain ⟨n', cache', o', hok', hhanded'⟩ := hget'
      have hstrategy : cache'.strategy = cache.strategy := by
        rw [hhanded'.strategy, hhanded.strategy, h₀.strategy]
      rw [hok, hok']
      exact ⟨rfl, ⟨h₀.world.now, h₀.world.active, h₀.world.backend, h₀.world.connection⟩, h₀.registry,
        h₀.opened, rfl, hstrategy⟩

end Draft

def Context.own (x : Context) : Side → String
  | .source => x.source.id
  | .target => x.target.id

namespace Cluster

open Draft

variable {catalog : String → Schema} {known : Member → Prop} {owner owner' : Nat → Schema}
  {base base' : Nat} {d d' : Draft} {c c' : Cluster} {target source : Member} {inSpan : Bool}

/-- The context comes from the draft, and its snapshots are those of its two backends. -/
structure Provided (catalog : String → Schema) (known : Member → Prop) (owner : Nat → Schema) (base : Nat)
    (x : Context) (c : Cluster) (d : Draft) : Prop where
  draft : d.Faithful catalog known owner base
  registry : x.registry = d.registry
  opened : x.opened = d.opened
  world : ∃ log, c.world = { d.world with log }
  source : known x.source
  target : known x.target
  snapshot : ∀ side, x.snapshot side < d.world.cache.live.length ∧
    owner (x.snapshot side) = catalog (x.own side)

theorem snapshots_faithful (h : d.Faithful catalog known owner base) (ht : known target)
    (hs : known source) {codec : Codec} {r : Except Error (Nat × Nat)} {d₁ : Draft}
    (hr : on d (do
      let t ← Draft.snapshot codec target
      let s ← Draft.snapshot codec source
      pure (s, t)) = (r, d₁)) :
    ∃ owner', d₁.Faithful catalog known owner' base ∧ ∀ s t, r = .ok (s, t) →
      (s < d₁.world.cache.live.length ∧ owner' s = catalog source.id) ∧
        t < d₁.world.cache.live.length ∧ owner' t = catalog target.id := by
  rw [on_snapshots] at hr
  cases htarget : on d (Draft.snapshot codec target) with
  | mk r₁ d' =>
    obtain ⟨owner₁, h₁⟩ := h.snapshot ht htarget
    simp only [htarget] at hr
    cases r₁ with
    | error e =>
      cases hr
      exact ⟨owner₁, h₁.faithful, nofun⟩
    | ok t =>
      obtain ⟨htlive, htown⟩ := h₁.own t rfl
      simp only at hr
      cases hsource : on d' (Draft.snapshot codec source) with
      | mk r₂ d₂ =>
        obtain ⟨owner₂, h₂⟩ := h₁.faithful.snapshot hs hsource
        simp only [hsource] at hr
        cases r₂ with
        | error e =>
          cases hr
          exact ⟨owner₂, h₂.faithful, nofun⟩
        | ok s =>
          cases hr
          refine ⟨owner₂, h₂.faithful, ?_⟩
          rintro _ _ ⟨⟩
          exact ⟨h₂.own s rfl, Nat.lt_of_lt_of_le htlive h₂.length, (h₂.before t htlive).trans htown⟩

theorem snapshots_alike (h : Draft.Twin base base' d d') (hf : d.Faithful catalog known owner base)
    (hf' : d'.Faithful catalog known owner' base') (codec : Codec) (ht : known target) (hs : known source) :
    Alike base base'
      (on d (do
        let t ← Draft.snapshot codec target
        let s ← Draft.snapshot codec source
        pure (s, t)))
      (on d' (do
        let t ← Draft.snapshot codec target
        let s ← Draft.snapshot codec source
        pure (s, t))) := by
  refine (h.snapshot hf hf' codec ht).bind fun t t' d₁ d₁' hr hr' h₁ => ?_
  obtain ⟨owner₁, hf₁⟩ := hf.snapshot ht hr
  obtain ⟨owner₁', hf₁'⟩ := hf'.snapshot ht hr'
  refine (h₁.snapshot hf₁.faithful hf₁'.faithful codec hs).bind fun s s' d₂ d₂' _ _ h₂ => ?_
  exact ⟨rfl, h₂⟩

theorem announced_faithful (h : c.world.Faithful catalog known owner []) (inSpan : Bool)
    (target source : Member) :
    Draft.Faithful catalog known owner c.world.connections.length
      { world := c.announced inSpan target source } where
  tidy := tidy_new (c.announced inSpan target source)
  world := h.congr rfl rfl rfl rfl

/-- When a context has been made, or could not be made, there is a faithful draft, of which at most the
connections have been closed. -/
theorem newContext_faithful (h : c.world.Faithful catalog known owner []) (ht : known target)
    {r : Except Error Context} {c₁ : Cluster} (hr : c.newContext inSpan target = (r, c₁)) :
    ∃ owner' d, d.Faithful catalog known owner' c.world.connections.length ∧
      World.Closes c.world.connections.length d.world c₁.world ∧
      ∀ x, r = .ok x → Provided catalog known owner' c.world.connections.length x c₁ d := by
  cases hs : c.world.active.next? with
  | none =>
    simp only [newContext, hs, Prod.mk.injEq] at hr
    obtain ⟨rfl, rfl⟩ := hr
    refine ⟨owner, { world := c.world }, ⟨tidy_new c.world, h⟩, .refl _ _, ?_⟩
    rintro x ⟨⟩
  | some source =>
    have hsource : known source := h.active source (List.mem_of_mem_head? hs)
    rw [newContext_eq c inSpan target hs] at hr
    generalize hd : on { world := c.announced inSpan target source } _ = made at hr
    obtain ⟨r', d⟩ := made
    obtain ⟨owner', hdraft, hown⟩ := snapshots_faithful (announced_faithful h inSpan target source) ht hsource hd
    cases r' with
    | error e =>
      cases hr
      refine ⟨owner', d, hdraft, (close_spec hdraft.tidy inSpan).1, ?_⟩
      rintro x ⟨⟩
    | ok n =>
      obtain ⟨s, t⟩ := n
      obtain ⟨hsown, htown⟩ := hown s t rfl
      cases hr
      refine ⟨owner', d, hdraft, .refl _ _, ?_⟩
      rintro x ⟨⟩
      refine ⟨hdraft, rfl, rfl, ⟨d.world.log, rfl⟩, hsource, ht, fun side => ?_⟩
      cases side with
      | source => exact hsown
      | target => exact htown

/-- What becomes of a context in two clusters: it cannot be made in either, for the same reason, or is
made in both, and the two show the same. -/
inductive Together (catalog : String → Schema) (known : Member → Prop) (base base' : Nat) :
    Except Error Context × Cluster → Except Error Context × Cluster → Prop
  | refused {e : Error} {c c' : Cluster} : Together catalog known base base' (.error e, c) (.error e, c')
  | made {x x' : Context} {c c' : Cluster} {d d' : Draft} {owner owner' : Nat → Schema}
      (h : Provided catalog known owner base x c d) (h' : Provided catalog known owner' base' x' c' d')
      (hd : Draft.Twin base base' d d') (hid : c'.id = c.id) (hcodec : c'.codec = c.codec)
      (hsource : x'.source = x.source) (htarget : x'.target = x.target) (hpool : x'.pool = x.pool)
      (hspent : x'.spent = x.spent) : Together catalog known base base' (.ok x, c) (.ok x', c')

/-- Two clusters of which a job can tell no difference. -/
structure Twin (c c' : Cluster) : Prop where
  id : c'.id = c.id
  codec : c'.codec = c.codec
  world : c.world.Counterpart c.world.connections.length c'.world.connections.length c'.world
  strategy : c'.world.cache.strategy = c.world.cache.strategy

theorem newContext_together (hc : Twin c c') (h : c.world.Faithful catalog known owner [])
    (h' : c'.world.Faithful catalog known owner' []) (inSpan : Bool) (ht : known target) :
    Together catalog known c.world.connections.length c'.world.connections.length
      (c.newContext inSpan target) (c'.newContext inSpan target) := by
  have hactive : c'.world.active = c.world.active := hc.world.active
  cases hs : c.world.active.next? with
  | none =>
    have hs' : c'.world.active.next? = none := by rw [hactive, hs]
    simp only [newContext, hs, hs', hc.id]
    exact .refused
  | some source =>
    have hs' : c'.world.active.next? = some source := by rw [hactive, hs]
    have hsource : known source := h.active source (List.mem_of_mem_head? hs)
    have hf := announced_faithful h inSpan target source
    have hf' := announced_faithful h' inSpan target source
    have htwin : Draft.Twin c.world.connections.length c'.world.connections.length
        { world := c.announced inSpan target source } { world := c'.announced inSpan target source } :=
      ⟨⟨hc.world.now, hactive, hc.world.backend, hc.world.connection⟩, rfl, rfl, rfl, hc.strategy⟩
    have halike := snapshots_alike htwin hf hf' c.codec ht hsource
    rw [newContext_eq c inSpan target hs, newContext_eq c' inSpan target hs', hc.codec, hactive]
    generalize hr : on { world := c.announced inSpan target source } _ = made at halike
    generalize hr' : on { world := c'.announced inSpan target source } _ = made' at halike
    obtain ⟨r, d⟩ := made
    obtain ⟨r', d'⟩ := made'
    obtain ⟨owner₁, hdraft, hown⟩ := snapshots_faithful hf ht hsource hr
    obtain ⟨owner₁', hdraft', hown'⟩ := snapshots_faithful hf' ht hsource hr'
    have hd := halike.2
    obtain ⟨e, rfl, rfl⟩ | ⟨n, n', rfl, rfl⟩ := halike.results
    · exact .refused
    obtain ⟨hsown, htown⟩ := hown n.1 n.2 rfl
    obtain ⟨hsown', htown'⟩ := hown' n'.1 n'.2 rfl
    refine .made ⟨hdraft, rfl, rfl, ⟨d.world.log, rfl⟩, hsource, ht, fun side => ?_⟩
      ⟨hdraft', rfl, rfl, ⟨d'.world.log, rfl⟩, hsource, ht, fun side => ?_⟩
      hd hc.id rfl rfl rfl rfl hd.spent
    · cases side with
      | source => exact hsown
      | target => exact htown
    · cases side with
      | source => exact hsown'
      | target => exact htown'

end Cluster
end Resync

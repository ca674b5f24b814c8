import Resync.Proofs.Context.Draft
import Resync.Proofs.Registry.Occupancy

/-! # Making a context, or nothing

A draft has in its registry what it has opened, and closing it releases all of that. When a
context cannot be made, no connection that was opened for it is left open, the source is
left alone if the target was the reason, and the cache has gained at most the target's
snapshot, and that only if it is complete.
-/
namespace Resync

namespace Draft

/-- The registry of a draft has the connections of the draft, which are the last of the world. -/
structure Tidy (base : Nat) (d : Draft) : Prop where
  length : d.world.connections.length = base + d.opened.length
  number : ∀ c o, d.opened[c]? = some o → o.number = base + c
  closed : d.registry.closed = false
  vacant : ∀ b, (d.registry.cell b).members = []
  opened_of_ready : ∀ b c, d.registry.cell b = .ready c → ∃ n, d.opened[c]? = some ⟨b, n⟩
  ready_of_opened : ∀ c o, d.opened[c]? = some o → d.registry.cell o.backend = .ready c

variable {base : Nat} {d d' : Draft} {m : Member}

theorem Tidy.congr (h : d.Tidy base) (hc : d'.world.connections = d.world.connections)
    (hr : d'.registry = d.registry) (ho : d'.opened = d.opened) : d'.Tidy base := by
  obtain ⟨h₁, h₂, h₃, h₄, h₅, h₆⟩ := h
  constructor
  · rw [hc, ho, h₁]
  · rw [ho]
    exact h₂
  · rw [hr, h₃]
  · rw [hr]
    exact h₄
  · rw [hr, ho]
    exact h₅
  · rw [hr, ho]
    exact h₆

theorem tidy_new (w : World) : ({ world := w } : Draft).Tidy w.connections.length where
  length := rfl
  number c o h := by cases h
  closed := rfl
  vacant b := rfl
  opened_of_ready b c h := by cases h
  ready_of_opened c o h := by cases h

theorem Tidy.opening (h : d.Tidy base) (hm : d.registry.cell m.id = .free) :
    (d.opening m).Tidy base := by
  have hcell : ∀ b, (d.opening m).registry.cell b =
      if m.id = b then .ready d.opened.length else d.registry.cell b :=
    fun b => Registry.cell_setCell ..
  have hlast : ∀ c o, (d.opening m).opened[c]? = some o →
      d.opened[c]? = some o ∨ c = d.opened.length ∧ o = ⟨m.id, d.world.connections.length⟩ := by
    intro c o ho
    simp only [Draft.opening] at ho
    rw [List.getElem?_append] at ho
    split at ho
    · exact .inl ho
    · rw [List.getElem?_singleton] at ho
      split at ho
      · cases ho
        exact .inr ⟨by omega, rfl⟩
      · cases ho
  constructor
  · have := h.length
    simp only [Draft.opening, List.length_append, List.length_singleton]
    omega
  · intro c o ho
    rcases hlast c o ho with ho | ⟨rfl, rfl⟩
    · exact h.number c o ho
    · exact h.length
  · exact h.closed
  · intro b
    rw [hcell]
    split
    · rfl
    · exact h.vacant b
  · intro b c hb
    rw [hcell] at hb
    split at hb
    · rename_i hm
      cases hb
      exact ⟨_, by simp [Draft.opening, hm]; rfl⟩
    · obtain ⟨n, hn⟩ := h.opened_of_ready b c hb
      have hlt := (List.getElem?_eq_some_iff.mp hn).1
      exact ⟨n, by simp only [Draft.opening, List.getElem?_append_left hlt, hn]⟩
  · intro c o ho
    rw [hcell]
    rcases hlast c o ho with ho | ⟨rfl, rfl⟩
    · have hr := h.ready_of_opened c o ho
      have hne : m.id ≠ o.backend := fun he => by
        rw [← he, hm] at hr
        cases hr
      rw [if_neg hne, hr]
    · rw [if_pos rfl]

theorem opening_keeps (hb : base ≤ d.world.connections.length) :
    World.Keeps base d.world (d.opening m).world :=
  .append hb rfl (d.world.attempted_fails m)

def closeCell (d : Draft) (inSpan : Bool) (w : World) (e : String × Cell) : World :=
  match e.2 with
  | .ready c => (d.opened[c]?).elim w fun o => w.release inSpan e.1 o.number
  | _ => w

theorem close_eq (d : Draft) (inSpan : Bool) :
    d.close inSpan = d.registry.cells.pairs.foldl (d.closeCell inSpan) d.world := rfl

theorem closeCell_closes (h : d.Tidy base) (inSpan : Bool) (w : World) (e : String × Cell) :
    World.Closes base w (d.closeCell inSpan w e) := by
  obtain ⟨b, cell⟩ := e
  cases cell with
  | free => exact .refl base w
  | held holder queue => exact .refl base w
  | ready c =>
    simp only [closeCell]
    cases ho : d.opened[c]? with
    | none => exact .refl base w
    | some o =>
      have hn := h.number c o ho
      exact World.release_closes w inSpan b (by omega)

theorem close_cells (h : d.Tidy base) (inSpan : Bool) (l : List (String × Cell)) (w : World)
    (hw : w.connections.length = d.world.connections.length) :
    World.Closes base w (l.foldl (d.closeCell inSpan) w) ∧
      ∀ b c o, (b, Cell.ready c) ∈ l → d.opened[c]? = some o →
        (l.foldl (d.closeCell inSpan) w).Released o.number := by
  induction l generalizing w with
  | nil => exact ⟨.refl base w, nofun⟩
  | cons e l ih =>
    have hc := closeCell_closes h inSpan w e
    obtain ⟨hc', hr⟩ := ih (d.closeCell inSpan w e) (hc.length.trans hw)
    refine ⟨hc.trans hc', ?_⟩
    intro b c o hm ho
    rcases List.mem_cons.mp hm with rfl | hm
    · refine World.Released.keeps ?_ hc'.keeps
      have hn := h.number c o ho
      have hlt := (List.getElem?_eq_some_iff.mp ho).1
      have := h.length
      simp only [closeCell, ho, Option.elim_some]
      exact World.release_released inSpan b (by omega)
    · exact hr b c o hm ho

theorem close_spec (h : d.Tidy base) (inSpan : Bool) :
    World.Closes base d.world (d.close inSpan) ∧
      ∀ n, base ≤ n → n < d.world.connections.length → (d.close inSpan).Released n := by
  rw [close_eq]
  obtain ⟨hc, hr⟩ := close_cells h inSpan d.registry.cells.pairs d.world rfl
  refine ⟨hc, ?_⟩
  intro n hn hlt
  have hlen := h.length
  obtain ⟨o, ho⟩ : ∃ o, d.opened[n - base]? = some o :=
    ⟨_, List.getElem?_eq_getElem (by omega)⟩
  have hnum := h.number _ o ho
  have hcell := h.ready_of_opened _ o ho
  have hmem : (o.backend, Cell.ready (n - base)) ∈ d.registry.cells.pairs := by
    rw [Assoc.mem_pairs]
    rw [Registry.cell] at hcell
    cases hg : d.registry.cells.get? o.backend with
    | none => simp [hg] at hcell
    | some cell => simpa [hg] using hcell
  have hrel := hr o.backend (n - base) o hmem ho
  rw [hnum, Nat.add_sub_cancel' hn] at hrel
  exact hrel

end Draft

namespace Cache

/-- What the cache gains by a load: the complete snapshot of the backend, if there was none. -/
theorem get_ok {cache cache' : Cache} {b : String} {k : Connection} {n : Nat}
    (h : (Access.on k (cache.get b)).1 = .ok (n, cache')) :
    (cache.entries.get? b = some n ∧ cache' = cache) ∨
    cache.entries.get? b = none ∧ n = cache.live.length ∧ ∃ s, (Access.on k Snapshot.load).1 = .ok s ∧
      cache' = { cache with
        entries := match cache.strategy with
          | .none => cache.entries
          | .eager => cache.entries.insert b cache.live.length
        live := cache.live ++ [{ snapshot := s }] } := by
  unfold get at h
  cases he : cache.entries.get? b with
  | some n' =>
    simp only [he] at h
    cases h
    exact .inl ⟨rfl, rfl⟩
  | none =>
    simp only [he] at h
    rw [Access.on_bind] at h
    cases hl : Access.on k Snapshot.load with
    | mk r k' =>
      rw [hl] at h
      cases r with
      | error e => cases h
      | ok s =>
        cases h
        exact .inr ⟨rfl, rfl, s, rfl, rfl⟩

def Sound (cache : Cache) : Prop := ∀ b n, cache.entries.get? b = some n → n < cache.live.length

theorem Sound.get {cache cache' : Cache} {b : String} {k : Connection} {n : Nat} (hs : cache.Sound)
    (h : (Access.on k (cache.get b)).1 = .ok (n, cache')) :
    cache'.Sound ∧ cache.live.length ≤ cache'.live.length ∧ n < cache'.live.length := by
  rcases get_ok h with ⟨he, rfl⟩ | ⟨-, rfl, s, -, rfl⟩
  · exact ⟨hs, Nat.le_refl _, hs b n he⟩
  · refine ⟨fun b' n' hn' => ?_, by simp, by simp⟩
    simp only [List.length_append, List.length_singleton] at hn' ⊢
    split at hn'
    · exact Nat.lt_succ_of_lt (hs b' n' hn')
    · rw [Assoc.get?_insert] at hn'
      split at hn'
      · cases hn'
        exact Nat.lt_succ_self _
      · exact Nat.lt_succ_of_lt (hs b' n' hn')

end Cache

namespace Cluster

open Draft

inductive Making (c : Cluster) (inSpan : Bool) (target : Member) (d : Draft) :
    Except Error Context × Cluster → Prop
  /-- The target was tried once, and nothing but the target. -/
  | targetFails {e : Error} (h : c.world.stage c.codec target = .error e)
      (hb : d.world.backends = (c.world.attempted target).backends)
      (hc : d.world.cache = c.world.cache) (ho : ∀ o ∈ d.opened, o.backend = target.id)
      (hh : ∀ n entry, c.world.connections.length ≤ n → d.world.connections[n]? = some entry →
        entry.1 = target.handle) :
      Making c inSpan target d (.error e, { c with world := d.close inSpan })
  | sourceFails {e : Error} {t : Nat} {cache : Cache}
      (h : c.world.stage c.codec target = .ok (t, cache)) (hc : d.world.cache = cache) :
      Making c inSpan target d (.error e, { c with world := d.close inSpan })
  | made {x : Context} (hr : x.registry = d.registry) (ho : x.opened = d.opened)
      (hp : x.pool = .ofCapacity c.world.active.count)
      (hn : c.world.cache.Sound → ∀ side, x.snapshot side < d.world.cache.live.length) :
      Making c inSpan target d (.ok x, { c with world := d.world })

theorem on_snapshots (codec : Codec) (target source : Member) (d : Draft) :
    on d (do
      let t ← snapshot codec target
      let s ← snapshot codec source
      pure (s, t)) =
    match on d (snapshot codec target) with
    | (.error e, d) => (.error e, d)
    | (.ok t, d) =>
      match on d (snapshot codec source) with
      | (.error e, d) => (.error e, d)
      | (.ok s, d) => (.ok (s, t), d) := by
  rw [on_bind]
  cases on d (snapshot codec target) with
  | mk r d =>
    cases r with
    | error e => rfl
    | ok t =>
      simp only
      rw [on_bind]
      cases on d (snapshot codec source) with
      | mk r d =>
        cases r with
        | error e => rfl
        | ok s => rfl

def announced (c : Cluster) (inSpan : Bool) (target source : Member) : World :=
  c.world.report inSpan (.contextCreated c.id source.id target.id c.world.active.ids
    (Pool.ofCapacity c.world.active.count).capacity)

theorem newContext_eq (c : Cluster) (inSpan : Bool) (target : Member) {source : Member}
    (hs : c.world.active.next? = some source) :
    c.newContext inSpan target =
      match on { world := c.announced inSpan target source } (do
        let t ← snapshot c.codec target
        let s ← snapshot c.codec source
        pure (s, t)) with
      | (.error e, d) => (.error e, { c with world := d.close inSpan })
      | (.ok (s, t), d) =>
        (.ok
          { source, target, snapshot := fun | .source => s | .target => t, registry := d.registry
            opened := d.opened, pool := .ofCapacity c.world.active.count, spent := d.spent },
          { c with world := d.world }) := by
  unfold newContext
  simp only [hs]
  rfl

theorem on_source (codec : Codec) (source : Member) {d : Draft} {base : Nat} (h : d.Tidy base)
    (hn : base ≤ d.world.connections.length) :
    ∃ r d', on d (snapshot codec source) = (r, d') ∧ d'.Tidy base ∧
      World.Keeps base d.world d'.world ∧ (∀ e, r = .error e → d'.world.cache = d.world.cache) ∧
      ∀ s, r = .ok s → ∃ k, (Access.on k (d.world.cache.get source.id)).1 = .ok (s, d'.world.cache) := by
  cases hc : d.registry.cell source.id with
  | held holder queue =>
    have hv := h.vacant source.id
    rw [hc] at hv
    cases hv
  | ready c =>
    obtain ⟨n, ho⟩ := h.opened_of_ready source.id c hc
    have hnum := h.number c _ ho
    have hlt := (List.getElem?_eq_some_iff.mp ho).1
    have hlen := h.length
    obtain ⟨⟨handle, k⟩, hk⟩ : ∃ entry, d.world.connections[n]? = some entry :=
      ⟨_, List.getElem?_eq_getElem (by simp only at hnum; omega)⟩
    obtain ⟨spent, hs⟩ := on_snapshot_shared codec hc ho hk
    rw [hs]
    cases hg : (Access.on k (d.world.cache.get source.id)).1 with
    | error e => exact ⟨_, _, rfl, h.congr rfl rfl rfl, .of_eq rfl rfl, fun _ _ => rfl, nofun⟩
    | ok r =>
      refine ⟨_, _, rfl, h.congr rfl rfl rfl, .of_eq rfl rfl, nofun, ?_⟩
      rintro s ⟨⟩
      exact ⟨k, hg⟩
  | free =>
    obtain ⟨now, spent, hs⟩ := on_snapshot codec hc
    have hopen := h.opening hc
    have hkeep : World.Keeps base d.world (d.opening source).world := opening_keeps hn
    rw [hs]
    cases d.world.connectFault? codec source with
    | some e =>
      exact ⟨_, _, rfl, h.congr rfl rfl rfl, .of_connections rfl (d.world.attempted_fails source),
        fun _ _ => rfl, nofun⟩
    | none =>
      cases hg : d.world.loading source with
      | error e =>
        exact ⟨_, _, rfl, hopen.congr rfl rfl rfl, hkeep.trans (.of_eq rfl rfl), fun _ _ => rfl, nofun⟩
      | ok r =>
        refine ⟨_, _, rfl, hopen.congr rfl rfl rfl, hkeep.trans (.of_eq rfl rfl), nofun, ?_⟩
        rintro s ⟨⟩
        exact ⟨_, hg⟩

theorem making (c : Cluster) (inSpan : Bool) (target : Member) {source : Member}
    (hs : c.world.active.next? = some source) :
    ∃ d : Draft, d.Tidy c.world.connections.length ∧
      World.Keeps c.world.connections.length c.world d.world ∧
      Making c inSpan target d (c.newContext inSpan target) := by
  rw [newContext_eq c inSpan target hs, on_snapshots]
  obtain ⟨now, spent, ht⟩ := on_snapshot (d := { world := c.announced inSpan target source })
    (m := target) c.codec rfl
  rw [ht]
  have htidy : Tidy c.world.connections.length { world := c.announced inSpan target source } :=
    tidy_new (c.announced inSpan target source)
  have hfault : (c.announced inSpan target source).connectFault? c.codec target =
      c.world.connectFault? c.codec target := rfl
  have hload : (c.announced inSpan target source).loading target = c.world.loading target := rfl
  simp only [hfault, hload]
  cases hf : c.world.connectFault? c.codec target with
  | some e =>
    have hstage : c.world.stage c.codec target = .error e := by
      simp only [World.stage, hf]
    simp only
    refine ⟨_, ?_, ?_, .targetFails hstage ?_ ?_ ?_ ?_⟩
    · exact htidy.congr rfl rfl rfl
    · exact .of_connections rfl (c.world.attempted_fails target)
    · rfl
    · rfl
    · nofun
    · intro n entry hn he
      have hlt := (List.getElem?_eq_some_iff.mp he).1
      exact absurd hlt (Nat.not_lt_of_le hn)
  | none =>
    have hopen := htidy.opening (m := target) rfl
    have hannounced : World.Keeps c.world.connections.length c.world
        (c.announced inSpan target source) := .of_eq rfl rfl
    have hkeep := hannounced.trans (opening_keeps (m := target)
      (d := { world := c.announced inSpan target source }) (Nat.le_refl c.world.connections.length))
    cases hl : c.world.loading target with
    | error e =>
      have hstage : c.world.stage c.codec target = .error e := by
        simp only [World.stage, hf, hl]
      simp only
      refine ⟨_, ?_, ?_, .targetFails hstage ?_ ?_ ?_ ?_⟩
      · exact hopen.congr rfl rfl rfl
      · exact hkeep.trans (.of_eq rfl rfl)
      · rfl
      · rfl
      · intro o ho
        cases List.mem_singleton.mp ho
        rfl
      · intro n entry hn he
        change (c.world.connections ++ _)[n]? = _ at he
        rw [List.getElem?_append_right hn, List.getElem?_singleton] at he
        split at he
        · cases he
          rfl
        · cases he
    | ok r =>
      obtain ⟨t, cache⟩ := r
      have hstage : c.world.stage c.codec target = .ok (t, cache) := by
        simp only [World.stage, hf, hl]
      simp only
      obtain ⟨r, d', hr, htidy', hkeep', hcache, hgets⟩ := on_source c.codec source
        (d := { opening { world := c.announced inSpan target source } target with
          world := { (opening { world := c.announced inSpan target source } target).world with now, cache }
          spent }) (hopen.congr rfl rfl rfl) hkeep.length
      rw [hr]
      refine ⟨d', htidy', ?_, ?_⟩
      · refine World.Keeps.trans ?_ hkeep'
        exact hkeep.trans (.of_eq rfl rfl)
      · cases r with
        | error e => exact .sourceFails hstage (hcache e rfl)
        | ok s =>
          refine .made rfl rfl rfl fun hsound side => ?_
          obtain ⟨htarget, -, ht⟩ := hsound.get hl
          obtain ⟨k, hs⟩ := hgets s rfl
          obtain ⟨-, hlen, hs⟩ := htarget.get hs
          cases side with
          | source => exact hs
          | target => exact Nat.lt_of_lt_of_le ht hlen

theorem tidy_of_made {c c' : Cluster} {inSpan : Bool} {target : Member} {x : Context}
    (h : c.newContext inSpan target = (.ok x, c')) :
    ∃ d : Draft, d.Tidy c.world.connections.length ∧ x.registry = d.registry ∧
      x.opened = d.opened ∧ c'.world = d.world ∧
      World.Keeps c.world.connections.length c.world d.world := by
  cases hs : c.world.active.next? with
  | none => simp [newContext, hs] at h
  | some source =>
    obtain ⟨d, htidy, hkeep, hmaking⟩ := c.making inSpan target hs
    rw [h] at hmaking
    cases hmaking with
    | made hr ho hp => exact ⟨d, htidy, hr, ho, rfl, hkeep⟩

theorem view_of_made {c c' : Cluster} {inSpan : Bool} {target : Member} {x : Context}
    (hsound : c.world.cache.Sound) (h : c.newContext inSpan target = (.ok x, c')) :
    ∃ v, x.view? c' = some v := by
  cases hs : c.world.active.next? with
  | none => simp [newContext, hs] at h
  | some source =>
    obtain ⟨d, -, -, hmaking⟩ := c.making inSpan target hs
    rw [h] at hmaking
    cases hmaking with
    | made hr ho hp hn =>
      have hlive := fun side => List.getElem?_eq_getElem (hn hsound side)
      simp [Context.view?, Cache.snapshot?, hlive]

/-- What was opened for a context that could not be made is released. -/
theorem released_of_error {c c' : Cluster} {inSpan : Bool} {target : Member} {e : Error}
    (h : c.newContext inSpan target = (.error e, c')) :
    World.Keeps c.world.connections.length c.world c'.world ∧
      ∀ n, c.world.connections.length ≤ n → n < c'.world.connections.length → c'.world.Released n := by
  cases hs : c.world.active.next? with
  | none =>
    simp only [newContext, hs, Prod.mk.injEq] at h
    rw [← h.2]
    exact ⟨.of_eq rfl rfl, fun n hn hlt => absurd hlt (Nat.not_lt_of_le hn)⟩
  | some source =>
    obtain ⟨d, htidy, hkeep, hmaking⟩ := c.making inSpan target hs
    rw [h] at hmaking
    obtain ⟨hcloses, hreleased⟩ := close_spec htidy inSpan
    cases hmaking with
    | targetFails =>
      exact ⟨hkeep.trans hcloses.keeps, fun n hn hlt => hreleased n hn (hcloses.length ▸ hlt)⟩
    | sourceFails =>
      exact ⟨hkeep.trans hcloses.keeps, fun n hn hlt => hreleased n hn (hcloses.length ▸ hlt)⟩

structure NothingLeft (c : Cluster) (target : Member) (c' : Cluster) : Prop where
  /-- What was opened is closed again, if its backend tells whether connections are closed and
  does not fail to close them. -/
  released : ∀ n, c.world.connections.length ≤ n → n < c'.world.connections.length →
    ∃ m k, c'.world.connections[n]? = some (m.handle, k) ∧
      ((c.world.backend m).failState = false → (c.world.backend m).failClose = false → k.closed = true)
  others : ∀ n < c.world.connections.length, c'.world.connections[n]? = c.world.connections[n]?
  inactive : c.world.active.next? = none → c' = c
  /-- If the target was the reason, it was tried once, and no other backend at all. -/
  target_only : ∀ fault, c.world.active.next? ≠ none → c.world.stage c.codec target = .error fault →
    c'.world.backends = (c.world.attempted target).backends ∧
      ∀ n entry, c.world.connections.length ≤ n → c'.world.connections[n]? = some entry →
        entry.1 = target.handle
  cache : (∀ r, c.world.stage c.codec target ≠ .ok r) ∨ c.world.active.next? = none ∨
    (c.world.cache.entries.get? target.id).isSome → c'.world.cache = c.world.cache
  /-- If it was, the cache has gained that snapshot only. -/
  loaded : ∀ r, c.world.active.next? ≠ none → c.world.stage c.codec target = .ok r →
    c.world.cache.entries.get? target.id = none →
    ∃ s, (Access.on (c.world.backend target).connection Snapshot.load).1 = .ok s ∧
      c'.world.cache = { c.world.cache with
        entries := match c.world.cache.strategy with
          | .none => c.world.cache.entries
          | .eager => c.world.cache.entries.insert target.id c.world.cache.live.length
        live := c.world.cache.live ++ [{ snapshot := s }] }

/-- A context that cannot be made leaves nothing open behind. -/
theorem nothing_left (c : Cluster) (inSpan : Bool) (target : Member) (e : Error) (c' : Cluster)
    (h : c.newContext inSpan target = (.error e, c')) : NothingLeft c target c' := by
  obtain ⟨hkeep, hreleased⟩ := released_of_error h
  have hclosed := fun n hn hlt => hkeep.closed hn (hreleased n hn hlt)
  cases hs : c.world.active.next? with
  | none =>
    have hc : c' = c := by
      simp only [newContext, hs, Prod.mk.injEq] at h
      exact h.2.symm
    subst hc
    constructor
    · exact hclosed
    · exact hkeep.below
    · exact fun _ => rfl
    · exact fun fault hne => absurd hs hne
    · exact fun _ => rfl
    · exact fun r hne => absurd hs hne
  | some source =>
    obtain ⟨d, htidy, -, hmaking⟩ := c.making inSpan target hs
    rw [h] at hmaking
    have hcloses := (close_spec htidy inSpan).1
    cases hmaking with
    | targetFails hstage hb hc ho hh =>
      refine ⟨hclosed, hkeep.below, fun hn => absurd (hs ▸ hn) nofun, ?_, ?_, ?_⟩
      · intro fault _ _
        refine ⟨hcloses.backends.trans hb, ?_⟩
        rintro n ⟨handle, k⟩ hn hentry
        have hlt := (List.getElem?_eq_some_iff.mp hentry).1
        obtain ⟨⟨handle', k'⟩, hk'⟩ : ∃ entry, d.world.connections[n]? = some entry :=
          ⟨_, List.getElem?_eq_getElem (hcloses.length ▸ hlt)⟩
        obtain ⟨k'', hk'', -⟩ := hcloses.keeps.connection n handle' k' hk'
        rw [hentry] at hk''
        cases hk''
        exact (hh n (handle, k') hn hk' : handle = target.handle)
      · exact fun _ => hcloses.cache.trans hc
      · intro r _ hr
        rw [hstage] at hr
        cases hr
    | @sourceFails e t cache hstage hc =>
      have hload : (Access.on (c.world.backend target).connection (c.world.cache.get target.id)).1 =
          .ok (t, cache) := by
        unfold World.stage at hstage
        split at hstage
        · cases hstage
        · exact hstage
      have hcache : (d.close inSpan).cache = cache := hcloses.cache.trans hc
      refine ⟨hclosed, hkeep.below, fun hn => absurd (hs ▸ hn) nofun, ?_, ?_, ?_⟩
      · intro fault _ hf
        rw [hstage] at hf
        cases hf
      · rintro (hno | hn | hsome)
        · exact absurd hstage (hno _)
        · exact absurd (hs ▸ hn) nofun
        · rcases Cache.get_ok hload with ⟨-, rfl⟩ | ⟨hnone, -⟩
          · exact hcache
          · rw [hnone] at hsome
            cases hsome
      · intro r _ _ hnone
        rcases Cache.get_ok hload with ⟨hsome, -⟩ | ⟨-, -, snapshot, hsnapshot, rfl⟩
        · rw [hnone] at hsome
          cases hsome
        · exact ⟨snapshot, hsnapshot, hcache⟩

def refusingSource : Cluster where
  id := "c"
  codec := .plain
  world :=
    { backends := Assoc.ofList [("a", { id := "a", schema := ⟨[]⟩, refusing := true }),
        ("b", { id := "b", schema := ⟨[]⟩ })]
      active := ⟨[⟨"a", "a"⟩]⟩
      cache := { strategy := .eager } }

/-- The target's connection is closed when the source refuses. -/
theorem nothing_left_refused :
    ∃ k c', refusingSource.newContext true ⟨"b", "b"⟩ = (.error (.dataAccess (.refused "a")), c') ∧
      c'.world.connections = [("b", k)] ∧ k.closed = true ∧ NothingLeft refusingSource ⟨"b", "b"⟩ c' :=
  ⟨_, _, rfl, rfl, rfl, nothing_left refusingSource true ⟨"b", "b"⟩ _ _ rfl⟩

end Cluster
end Resync

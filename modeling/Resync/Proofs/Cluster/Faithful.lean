import Resync.Proofs.Cluster.Connections
import Resync.Proofs.Snapshot.Faithful

/-! # Faithful worlds

In a faithful world the cache tells of the backends what they would tell today: backends have
the schemas of the catalog, and so do the connections to them. Nothing that a job does to the
world makes it unfaithful, as long as it probes through connections to a snapshot's own backend.
-/
namespace Resync.World

variable {catalog : String → Schema} {known : Member → Prop} {owner owner' : Nat → Schema}
  {opened : List Opened} {w w' : World} {m : Member} {n i : Nat} {handle : String} {k : Connection}

/-- The cache is faithful, the active backends are known, every known backend has the schema that the
catalog has for it, and so has each of the connections, which leads to a known backend. -/
structure Faithful (catalog : String → Schema) (known : Member → Prop) (owner : Nat → Schema)
    (opened : List Opened) (w : World) : Prop where
  cache : w.cache.Faithful catalog owner
  active : ∀ m ∈ w.active.members, known m
  schema : ∀ m, known m → (w.backend m).schema = catalog m.id
  leads : ∀ o ∈ opened, ∃ m k, (known m ∧ m.id = o.backend) ∧
    w.connections[o.number]? = some (m.handle, k) ∧ k.schema = catalog o.backend

/-- The connections from `base` on are the given ones, each to another known backend. -/
structure Dedicated (known : Member → Prop) (base : Nat) (opened : List Opened) (w : World) : Prop where
  length : w.connections.length = base + opened.length
  number : ∀ i o, opened[i]? = some o → o.number = base + i
  backends : (opened.map (·.backend)).Nodup
  leads : ∀ o ∈ opened, ∃ m k, (known m ∧ m.id = o.backend) ∧ w.connections[o.number]? = some (m.handle, k)

theorem Faithful.keeps {base : Nat} (h : w.Faithful catalog known owner opened) (ha : w'.active = w.active)
    (hc : w'.cache = w.cache) (hb : w'.backends = w.backends) (hk : Keeps base w w') :
    w'.Faithful catalog known owner opened where
  cache := by
    rw [hc]
    exact h.cache
  active := by
    rw [ha]
    exact h.active
  schema m hm := by
    rw [backend, hb]
    exact h.schema m hm
  leads o ho := by
    obtain ⟨m, k, hm, hn, hs⟩ := h.leads o ho
    obtain ⟨k', hn', hkeep⟩ := hk.connection o.number m.handle k hn
    exact ⟨m, k', hm, hn', hkeep.schema.trans hs⟩

theorem Faithful.congr (h : w.Faithful catalog known owner opened) (ha : w'.active = w.active)
    (hc : w'.cache = w.cache) (hb : w'.backends = w.backends) (hk : w'.connections = w.connections) :
    w'.Faithful catalog known owner opened :=
  h.keeps ha hc hb (.of_eq hk hb : Keeps 0 w w')

theorem Faithful.forget (h : w.Faithful catalog known owner opened) : w.Faithful catalog known owner [] :=
  ⟨h.cache, h.active, h.schema, nofun⟩

theorem Faithful.attempted (h : w.Faithful catalog known owner opened) (m : Member) :
    (w.attempted m).Faithful catalog known owner opened where
  cache := h.cache
  active := h.active
  schema m' hm' := by
    rw [← h.schema m' hm', backend_attempted]
    split
    · rename_i hm
      simp only [backend, hm]
      cases w.backends.get? m'.handle with
      | none => rfl
      | some b => rfl
    · rfl
  leads := h.leads

theorem Faithful.append (h : w.Faithful catalog known owner opened) (hm : known m) :
    { w with connections := w.connections ++ [(m.handle, (w.backend m).connection)] }.Faithful catalog known
      owner (opened ++ [Opened.mk m.id w.connections.length]) where
  cache := h.cache
  active := h.active
  schema := h.schema
  leads o ho := by
    rcases List.mem_append.mp ho with ho | ho
    · obtain ⟨m', k, hm', hk, hs⟩ := h.leads o ho
      have hlt := (List.getElem?_eq_some_iff.mp hk).1
      exact ⟨m', k, hm', (List.getElem?_append_left hlt).trans hk, hs⟩
    · cases List.mem_singleton.mp ho
      exact ⟨m, _, ⟨hm, rfl⟩, List.getElem?_concat_length, h.schema m hm⟩

theorem Faithful.release (h : w.Faithful catalog known owner opened) (inSpan : Bool) (b : String) (n : Nat) :
    (w.release inSpan b n).Faithful catalog known owner opened := by
  have hc : Closes 0 w (w.release inSpan b n) := release_closes w inSpan b (Nat.zero_le n)
  exact h.keeps hc.active hc.cache hc.backends hc.keeps

theorem access_shape {α : Type} (w : World) (n : Nat) (a : Access α) :
    ∃ connections, (w.access n a).2 = { w with connections } := by
  unfold access
  cases w.connections[n]? with
  | none => exact ⟨w.connections, rfl⟩
  | some e => exact ⟨_, rfl⟩

theorem Faithful.access {α : Type} {a : Access α} (h : w.Faithful catalog known owner opened)
    (ha : Access.Within Connection.Keeps a) (n : Nat) :
    (w.access n a).2.Faithful catalog known owner opened := by
  have hk : Keeps 0 w (w.access n a).2 := access_keeps w ha (Nat.zero_le n)
  obtain ⟨connections, hw⟩ := w.access_shape n a
  rw [hw] at hk ⊢
  exact h.keeps rfl rfl rfl hk

theorem autoIncrement_eq (hk : w.connections[n]? = some (handle, k)) (i : Nat) (relation : String) :
    w.autoIncrement i n relation =
      match Access.on k (w.cache.autoIncrement i relation) with
      | (.error e, k) => (.error e, { w with connections := w.connections.set n (handle, k) })
      | (.ok (found, cache), k) =>
        (.ok found, { w with connections := w.connections.set n (handle, k), cache }) := by
  unfold autoIncrement World.access
  simp only [hk]
  cases Access.on k (w.cache.autoIncrement i relation) with
  | mk r k' =>
    cases r with
    | error e => rfl
    | ok r => rfl

/-- Asked through a connection to its own backend, a snapshot answers as a probe would, and stays
faithful. -/
theorem Faithful.autoIncrement (h : w.Faithful catalog known owner opened) (hi : i < w.cache.live.length)
    (hk : w.connections[n]? = some (handle, k)) (hs : k.schema = owner i) (relation : String) :
    (w.autoIncrement i n relation).1 = (owner i).probed relation ∧
      (w.autoIncrement i n relation).2.Faithful catalog known owner opened ∧
      (w.autoIncrement i n relation).2.cache.live.length = w.cache.live.length := by
  obtain ⟨hanswer, hkept⟩ := h.cache.autoIncrement hi hs relation
  have hkeep : Keeps 0 w (w.autoIncrement i n relation).2 :=
    (w.autoIncrement_keeps i relation (Nat.zero_le n)).1
  rw [autoIncrement_eq hk] at hkeep ⊢
  cases ha : Access.on k (w.cache.autoIncrement i relation) with
  | mk r k' =>
    rw [ha] at hanswer hkept hkeep
    cases r with
    | error e => exact ⟨hanswer, h.keeps rfl rfl rfl hkeep, rfl⟩
    | ok r =>
      obtain ⟨found, cache⟩ := r
      obtain ⟨hfaithful, hlength, -⟩ := hkept found cache rfl
      refine ⟨hanswer, ⟨hfaithful, h.active, h.schema, fun o ho => ?_⟩, hlength⟩
      obtain ⟨m, l, hm, hl, hschema⟩ := h.leads o ho
      obtain ⟨l', hl', hkeeps⟩ := hkeep.connection o.number m.handle l hl
      exact ⟨m, l', hm, hl', hkeeps.schema.trans hschema⟩

end Resync.World

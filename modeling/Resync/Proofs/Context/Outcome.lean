import Resync.Proofs.Context.Serving

/-! # What making a context comes to

A context is made in stages, each of which has its own reason to fail: there may be no active backend,
and for the target and then for the source the password may be broken, the connection refused or a call
of the introspection scripted to fail. The first stage that fails is what making the context comes to. A
context that is made has connected once to each of its backends, and it serves them from then on.
-/
namespace Resync

def fault? {α : Type} : Except Error α → Option Error
  | .error e => some e
  | .ok _ => none

theorem fault?_eq_some {α : Type} {r : Except Error α} {e : Error} : fault? r = some e ↔ r = .error e := by
  cases r <;> simp [fault?]

theorem fault?_eq_none {α : Type} {r : Except Error α} : fault? r = none ↔ ∃ x, r = .ok x := by
  cases r <;> simp [fault?]

def firstFault? (stages : List (Option Error)) : Option Error := stages.findSome? id

theorem firstFault?_append (stages more : List (Option Error)) :
    firstFault? (stages ++ more) = (firstFault? stages).or (firstFault? more) := List.findSome?_append

theorem firstFault?_eq_none {stages : List (Option Error)} :
    firstFault? stages = none ↔ ∀ stage ∈ stages, stage = none := List.findSome?_eq_none_iff

theorem firstFault?_eq_some {stages : List (Option Error)} {e : Error} : firstFault? stages = some e ↔
    ∃ before after, stages = before ++ some e :: after ∧ ∀ stage ∈ before, stage = none := by
  rw [firstFault?, List.findSome?_eq_some_iff]
  constructor
  · rintro ⟨before, stage, after, hstages, rfl, hbefore⟩
    exact ⟨before, after, hstages, hbefore⟩
  · rintro ⟨before, after, hstages, hbefore⟩
    exact ⟨before, some e, after, hstages, rfl, hbefore⟩

namespace Cache

variable {cache cache' : Cache} {b b' : String} {k : Connection} {n : Nat}

theorem fault?_get (cache : Cache) (b : String) (k : Connection) :
    fault? (Access.on k (cache.get b)).1 =
      if (cache.entries.get? b).isSome then none else fault? k.schema.loaded := by
  unfold get
  cases cache.entries.get? b with
  | some n => rfl
  | none =>
    simp only [Option.isSome_none, Bool.false_eq_true, ↓reduceIte]
    rw [Access.on_bind, Access.on_load]
    cases k.schema.loaded with
    | error e => rfl
    | ok p => rfl

theorem get?_of_get (h : (Access.on k (cache.get b)).1 = .ok (n, cache')) (hb : b ≠ b') :
    cache'.entries.get? b' = cache.entries.get? b' := by
  rcases get_ok h with ⟨-, rfl⟩ | ⟨-, -, s, -, rfl⟩
  · rfl
  · simp only
    split
    · rfl
    · rw [Assoc.get?_insert, if_neg hb]

theorem fault?_get_again (h : (Access.on k (cache.get b)).1 = .ok (n, cache')) :
    fault? (Access.on k (cache'.get b)).1 = none := by
  rw [fault?_get]
  rcases get_ok h with ⟨hkept, rfl⟩ | ⟨-, -, s, hs, -⟩
  · rw [hkept]
    rfl
  · rw [Access.on_load] at hs
    rw [show k.schema.loaded = .ok s from hs]
    exact ite_self none

end Cache

namespace World

variable {w w' : World} {codec : Codec} {m : Member}

def decodeFault? (w : World) (codec : Codec) (m : Member) : Option Error :=
  match codec.decode (w.backend m).password with
  | .error fault => some (.codec fault)
  | .ok _ => none

def refusal? (w : World) (m : Member) : Option Error :=
  if (w.backend m).refusing then some (.dataAccess (.refused m.id)) else none

def loadFault? (w : World) (m : Member) : Option Error :=
  if (w.cache.entries.get? m.id).isSome then none else fault? (w.backend m).schema.loaded

def faults (w : World) (codec : Codec) (m : Member) : List (Option Error) :=
  [w.decodeFault? codec m, w.refusal? m, w.loadFault? m]

theorem connectFault?_eq (w : World) (codec : Codec) (m : Member) :
    w.connectFault? codec m = (w.decodeFault? codec m).or (w.refusal? m) := by
  unfold connectFault? decodeFault? refusal?
  cases codec.decode (w.backend m).password with
  | error fault => rfl
  | ok password => rfl

theorem firstFault?_faults (w : World) (codec : Codec) (m : Member) :
    firstFault? (w.faults codec m) = (w.connectFault? codec m).or (w.loadFault? m) := by
  rw [connectFault?_eq, faults]
  cases w.decodeFault? codec m with
  | some e => rfl
  | none =>
    cases w.refusal? m with
    | some e => rfl
    | none => cases w.loadFault? m <;> rfl

end World

namespace Draft

variable {w : World} {ms : List Member} {d d' : Draft} {m source target : Member} {codec : Codec} {n : Nat}

/-- The draft has connected to the members in this order, once to each, and to nobody else. -/
structure Joined (w : World) (ms : List Member) (d : Draft) : Prop where
  connections : d.world.connections = w.connections ++ ms.map fun m => (m.handle, (w.backend m).connection)
  tried : w.Tried ms d.world
  alike : ∀ m, ∃ id attempts, d.world.backend m = { w.backend m with id, attempts }
  opened : d.opened = ms.mapIdx fun i m => ⟨m.id, w.connections.length + i⟩
  ready : ∀ i m, ms[i]? = some m → d.registry.cell m.id = .ready i
  free : ∀ b, b ∉ ms.map (·.id) → d.registry.cell b = .free

namespace Joined

theorem congr (h : d.Joined w ms) (hc : d'.world.connections = d.world.connections)
    (hb : d'.world.backends = d.world.backends) (hr : d'.registry = d.registry) (ho : d'.opened = d.opened) :
    d'.Joined w ms where
  connections := hc.trans h.connections
  tried := h.tried.congr hb
  alike m := by
    rw [World.backend_congr hb]
    exact h.alike m
  opened := ho.trans h.opened
  ready := by
    rw [hr]
    exact h.ready
  free := by
    rw [hr]
    exact h.free

theorem connectFault? (h : d.Joined w ms) (codec : Codec) (m : Member) :
    d.world.connectFault? codec m = w.connectFault? codec m := by
  obtain ⟨id, attempts, hm⟩ := h.alike m
  unfold World.connectFault?
  rw [hm]

theorem connection (h : d.Joined w ms) (m : Member) : (d.world.backend m).connection = (w.backend m).connection := by
  obtain ⟨id, attempts, hm⟩ := h.alike m
  rw [hm]
  rfl

theorem opening (h : d.Joined w ms) (hm : m.id ∉ ms.map (·.id)) : (d.opening m).Joined w (ms ++ [m]) where
  connections := by
    rw [List.map_append, ← List.append_assoc, ← h.connections, List.map_singleton, ← h.connection m]
    rfl
  tried := (h.tried.attempted m).congr rfl
  alike m' := by
    change ∃ id attempts, (d.world.attempted m).backend m' = _
    obtain ⟨id, attempts, he⟩ := h.alike m'
    rw [World.backend_attempted]
    split
    · rename_i hhandle
      obtain ⟨id', attempts', hm'⟩ := h.alike m
      obtain ⟨id'', hsame⟩ := w.backend_of_handle hhandle
      rw [hm', hsame]
      exact ⟨_, _, rfl⟩
    · exact ⟨id, attempts, he⟩
  opened := by
    have hlength : d.world.connections.length = w.connections.length + ms.length := by
      rw [h.connections, List.length_append, List.length_map]
    rw [List.mapIdx_concat, ← h.opened, ← hlength]
    rfl
  ready i m' hi := by
    rw [List.getElem?_append] at hi
    change (d.registry.setCell m.id (.ready d.opened.length)).cell m'.id = _
    rw [Registry.cell_setCell]
    split at hi
    · have hmem : m'.id ∈ ms.map (·.id) := List.mem_map_of_mem (List.mem_of_getElem? hi)
      have hne : m.id ≠ m'.id := fun he => hm (he ▸ hmem)
      rw [if_neg hne]
      exact h.ready i m' hi
    · rw [List.getElem?_singleton] at hi
      split at hi
      · cases hi
        have hlength : d.opened.length = ms.length := by rw [h.opened, List.length_mapIdx]
        rw [if_pos rfl, hlength]
        congr 1
        omega
      · cases hi
  free b hb := by
    rw [List.map_append, List.mem_append, not_or, List.map_singleton, List.mem_singleton] at hb
    change (d.registry.setCell m.id (.ready d.opened.length)).cell b = _
    rw [Registry.cell_setCell, if_neg (Ne.symm hb.2)]
    exact h.free b hb.1

theorem snapshot (h : d.Joined w ms) (codec : Codec) (hm : m.id ∉ ms.map (·.id))
    (hcache : d.world.cache.entries.get? m.id = w.cache.entries.get? m.id) :
    ∃ r d', d.on (snapshot codec m) = (r, d') ∧ fault? r = firstFault? (w.faults codec m) ∧
      ∀ n, r = .ok n → d'.Joined w (ms ++ [m]) ∧
        (Access.on (w.backend m).connection (d.world.cache.get m.id)).1 = .ok (n, d'.world.cache) := by
  obtain ⟨now, spent, hs⟩ := on_snapshot codec (h.free m.id hm)
  have hfault := h.connectFault? codec m
  have hload : fault? (d.world.loading m) = w.loadFault? m := by
    rw [World.loading, h.connection, Cache.fault?_get, hcache]
    rfl
  rw [hs, World.firstFault?_faults, ← hfault, ← hload]
  cases d.world.connectFault? codec m with
  | some e => exact ⟨_, _, rfl, rfl, nofun⟩
  | none =>
    cases hl : d.world.loading m with
    | error e => exact ⟨_, _, rfl, rfl, nofun⟩
    | ok r =>
      refine ⟨_, _, rfl, rfl, ?_⟩
      rintro n ⟨⟩
      rw [World.loading, h.connection] at hl
      exact ⟨(h.opening hm).congr rfl rfl rfl rfl, hl⟩

/-- The source's stages, when the target's have been gone through. If they are the same backend, it is
connected already, and its snapshot could be had. -/
theorem snapshot_source (h : d.Joined w [target]) (codec : Codec) (source : Member)
    (ht : (Access.on (w.backend target).connection (w.cache.get target.id)).1 = .ok (n, d.world.cache)) :
    ∃ r d', d.on (Draft.snapshot codec source) = (r, d') ∧
      fault? r = firstFault? (if source.id = target.id then [w.loadFault? target] else w.faults codec source) ∧
      ∀ n, r = .ok n → d'.Joined w (if source.id = target.id then [target] else [target, source]) := by
  by_cases hid : source.id = target.id
  · have hload : w.loadFault? target = none := by
      have hget := Cache.fault?_get w.cache target.id (w.backend target).connection
      rw [ht] at hget
      exact hget.symm
    have hcell : d.registry.cell source.id = .ready 0 := hid ▸ h.ready 0 target rfl
    have hopened : d.opened[0]? = some ⟨target.id, w.connections.length⟩ := by
      rw [h.opened]
      rfl
    have hk : d.world.connections[w.connections.length]? = some (target.handle, (w.backend target).connection) := by
      rw [h.connections]
      exact List.getElem?_concat_length
    obtain ⟨spent, hs⟩ := on_snapshot_shared codec hcell hopened hk
    have hagain := Cache.fault?_get_again ht
    rw [hs, hid, if_pos rfl]
    obtain ⟨⟨n, cache⟩, hr⟩ := fault?_eq_none.mp hagain
    rw [hr]
    refine ⟨_, _, rfl, ?_, fun _ _ => ?_⟩
    · rw [hload]
      rfl
    · rw [if_pos rfl]
      exact h.congr rfl rfl rfl rfl
  · have hnot : source.id ∉ [target].map (·.id) := by simpa using hid
    obtain ⟨r, d', hr, hfault, hok⟩ := h.snapshot codec hnot (Cache.get?_of_get ht (Ne.symm hid))
    rw [if_neg hid]
    refine ⟨r, d', hr, hfault, fun n hn => ?_⟩
    rw [if_neg hid]
    exact (hok n hn).1

theorem serves (h : d.Joined w ms) {x : Context} (hr : x.registry = d.registry) (ho : x.opened = d.opened) {i : Nat}
    (hi : ms[i]? = some m) : x.Serves i ⟨m.id, w.connections.length + i⟩ where
  ready := by
    rw [hr]
    exact h.ready i m hi
  opened := by
    rw [ho, h.opened, List.getElem?_mapIdx, hi]
    rfl
  only c o hc hb := by
    rw [ho, h.opened, List.getElem?_mapIdx] at hc
    obtain ⟨m', hm', rfl⟩ := Option.map_eq_some_iff.mp hc
    have hready := h.ready c m' hm'
    rw [show m'.id = m.id from hb, h.ready i m hi] at hready
    cases hready
    rfl

end Joined
end Draft

/-- The backends that the context has connected to, in this order: one with the source's id is not
connected to again. -/
def Context.ends (x : Context) : List Member :=
  if x.source.id = x.target.id then [x.target] else [x.target, x.source]

namespace Cluster

def stages (c : Cluster) (target : Member) : List (Option Error) :=
  match c.world.active.next? with
  | none => [some (.noActiveDatabases c.id)]
  | some source =>
    c.world.faults c.codec target ++
      if source.id = target.id then [c.world.loadFault? target] else c.world.faults c.codec source

structure Prepared (c : Cluster) (target : Member) (x : Context) (c' : Cluster) : Prop where
  source : c.world.active.next? = some x.source
  target : x.target = target
  capacity : x.pool.capacity = max 1 c.world.active.count
  connections : c'.world.connections =
    c.world.connections ++ x.ends.map fun m => (m.handle, (c.world.backend m).connection)
  tried : c.world.Tried x.ends c'.world
  opened : x.opened = x.ends.mapIdx fun i m => ⟨m.id, c.world.connections.length + i⟩
  serves : ∀ i m, x.ends[i]? = some m → x.Serves i ⟨m.id, c.world.connections.length + i⟩

theorem prepared_of_joined {c : Cluster} {source target : Member} {x : Context} {d : Draft}
    (h : d.Joined c.world (if source.id = target.id then [target] else [target, source]))
    (hs : c.world.active.next? = some source) (hsource : x.source = source) (htarget : x.target = target)
    (hpool : x.pool = .ofCapacity c.world.active.count) (hr : x.registry = d.registry) (ho : x.opened = d.opened) :
    Prepared c target x { c with world := d.world } := by
  have hends : x.ends = if source.id = target.id then [target] else [target, source] := by
    rw [Context.ends, hsource, htarget]
  rw [← hends] at h
  exact {
    source := by rw [hs, hsource]
    target := htarget
    capacity := by rw [hpool]; rfl
    connections := h.connections
    tried := h.tried
    opened := ho.trans h.opened
    serves := fun i m hi => h.serves hr ho hi }

/-- Making a context comes to the first of its faults, and to a context if there is none. -/
theorem newContext_stages (c : Cluster) (inSpan : Bool) (target : Member) :
    fault? (c.newContext inSpan target).1 = firstFault? (c.stages target) ∧
      ∀ x c', c.newContext inSpan target = (.ok x, c') → Prepared c target x c' := by
  unfold stages
  cases hs : c.world.active.next? with
  | none =>
    unfold newContext
    simp only [hs]
    exact ⟨rfl, nofun⟩
  | some source =>
    rw [newContext_eq c inSpan target hs, on_snapshots, firstFault?_append]
    have hjoined : ({ world := c.announced inSpan target source } : Draft).Joined c.world [] := {
      connections := (List.append_nil _).symm
      tried := World.tried_of_eq rfl
      alike := fun m => ⟨_, _, rfl⟩
      opened := rfl
      ready := nofun
      free := fun b _ => rfl }
    obtain ⟨r, d, hr, hfault, hok⟩ := hjoined.snapshot c.codec (m := target) List.not_mem_nil rfl
    rw [hr, ← hfault]
    cases r with
    | error e => exact ⟨rfl, nofun⟩
    | ok t =>
      obtain ⟨htarget, hget⟩ := hok t rfl
      obtain ⟨r', d', hr', hfault', hok'⟩ := htarget.snapshot_source c.codec source hget
      simp only
      rw [hr', ← hfault']
      cases r' with
      | error e => exact ⟨rfl, nofun⟩
      | ok s =>
        refine ⟨rfl, ?_⟩
        rintro x c' ⟨⟩
        exact prepared_of_joined (hok' s rfl) hs rfl rfl rfl rfl rfl

/-- Making a context succeeds exactly if none of its stages fails, and otherwise comes to the error of
the first stage that does. A context that was made has the first active backend as its source and a pool
for the backends that were active, and each of its backends was connected to once, one with the source's
id not again. From then on its requests for them are answered with these connections: whatever programs
have been run in the context before, a job never makes an attempt to connect to them. -/
theorem newContext_outcome (c : Cluster) (inSpan : Bool) (target : Member) :
    ((∃ x, (c.newContext inSpan target).1 = .ok x) ↔ ∀ stage ∈ c.stages target, stage = none) ∧
    (∀ e, (c.newContext inSpan target).1 = .error e ↔ ∃ before after,
      c.stages target = before ++ some e :: after ∧ ∀ stage ∈ before, stage = none) ∧
    ∀ x c', c.newContext inSpan target = (.ok x, c') → Prepared c target x c' ∧
      ∀ x', x.Follows x' → ∀ (ν τ : Type) (now : Cluster) (program : Program ν τ) (inSpan : Bool)
        (moves : List Move) (j : Job ν τ), ((x'.job now).spawn program inSpan).2.play? moves = some j →
          (∀ i m, x.ends[i]? = some m → j.Reuses i ⟨m.id, c.world.connections.length + i⟩) ∧
          ∃ ms, (∀ m ∈ ms, m.id ≠ x.source.id ∧ m.id ≠ x.target.id) ∧ now.world.Tried ms j.world := by
  obtain ⟨hfault, hprepared⟩ := c.newContext_stages inSpan target
  refine ⟨?_, fun e => ?_, fun x c' hx => ?_⟩
  · rw [← fault?_eq_none, hfault, firstFault?_eq_none]
  · rw [← fault?_eq_some, hfault, firstFault?_eq_some]
  · have hp := hprepared x c' hx
    refine ⟨hp, fun x' hx' ν τ now program inSpan moves j hj => ⟨fun i m hi => ?_, ?_⟩⟩
    · exact hx'.reuses (hp.serves i m hi) hj
    · have hserved : ∀ b ∈ x.ends.map (·.id), ∃ i n, x.Serves i ⟨b, n⟩ := by
        intro b hb
        obtain ⟨m, hm, rfl⟩ := List.mem_map.mp hb
        obtain ⟨i, hi⟩ := List.mem_iff_getElem?.mp hm
        exact ⟨i, _, hp.serves i m hi⟩
      obtain ⟨ms, hms, htried⟩ := hx'.tried hserved hj
      have hends : x.source.id ∈ x.ends.map (·.id) ∧ x.target.id ∈ x.ends.map (·.id) := by
        unfold Context.ends
        split
        · rename_i hid
          simp [hid]
        · simp
      refine ⟨ms, fun m hm => ⟨?_, ?_⟩, htried⟩
      · intro hid
        exact hms m hm (hid ▸ hends.1)
      · intro hid
        exact hms m hm (hid ▸ hends.2)

def soundPair : Cluster where
  id := "c"
  codec := .plain
  world :=
    { backends := Assoc.ofList [("a", { id := "a", schema := ⟨[]⟩ }), ("b", { id := "b", schema := ⟨[]⟩ })]
      active := ⟨[⟨"a", "a"⟩]⟩
      cache := { strategy := .eager } }

/-- If the source refuses, that is the error, after the target's stages. If it does not, the context has
two connections, and a later program finds the source's. -/
theorem newContext_outcome_pair :
    (refusingSource.newContext true ⟨"b", "b"⟩).1 = .error (.dataAccess (.refused "a")) ∧
    ∃ x c', soundPair.newContext true ⟨"b", "b"⟩ = (.ok x, c') ∧ Prepared soundPair ⟨"b", "b"⟩ x c' ∧
      x.opened = [⟨"b", 0⟩, ⟨"a", 1⟩] ∧
      ((x.job c').spawn (.ask (.connection ⟨"a", "a"⟩) fun _ => .done () : Program Unit Unit) false).2.Reuses
        1 ⟨"a", 1⟩ := by
  obtain ⟨-, herror, -⟩ := newContext_outcome refusingSource true ⟨"b", "b"⟩
  obtain ⟨-, -, hmade⟩ := newContext_outcome soundPair true ⟨"b", "b"⟩
  refine ⟨(herror _).mpr ⟨[none, none, none, none], [none], rfl, by simp⟩, ?_⟩
  obtain ⟨hprepared, hlater⟩ := hmade _ _ rfl
  refine ⟨_, _, rfl, hprepared, rfl, ?_⟩
  exact (hlater _ .refl Unit Unit _ _ false [] _ rfl).1 1 ⟨"a", "a"⟩ rfl

end Cluster
end Resync

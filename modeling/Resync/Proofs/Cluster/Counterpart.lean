import Resync.Proofs.Cluster.Connections

/-! # Counterparts

Two worlds are counterparts if they show the same from a number of connections on: the clock, the
active set, how backends behave, and those connections in their order. What was before, how often
backends were tried, what is in the cache and what was logged may differ. Whatever is done to the
connections with corresponding numbers comes to the same and leaves counterparts.
-/
namespace Resync

/-- The backend without the count of attempts. -/
def Backend.face (b : Backend) : Backend := { b with attempts := 0 }

namespace Access

variable {α : Type} {k k' : Connection}

/-- Connections that differ in their queries only are asked alike. -/
def Blind (a : Access α) : Prop :=
  ∀ k k', k'.face = k.face → (on k' a).1 = (on k a).1 ∧ (on k' a).2.face = (on k a).2.face

theorem blind_isClosed : Blind isClosed := by
  intro k k' h
  have hstate : k'.failState = k.failState := (congrArg Connection.failState h :)
  have hclosed : k'.closed = k.closed := (congrArg Connection.closed h :)
  rw [on_isClosed, on_isClosed, hstate, hclosed]
  exact ⟨rfl, h⟩

theorem blind_close : Blind close := by
  intro k k' h
  have hclose : k'.failClose = k.failClose := (congrArg Connection.failClose h :)
  rw [on_close, on_close, hclose]
  exact ⟨rfl, congrArg Connection.shut h⟩

end Access

theorem Connection.released_face {k k' : Connection} (h : k'.face = k.face) :
    k'.released.face = k.released.face := by
  have hspared : (k'.failState || k'.closed) = (k.failState || k.closed) :=
    (congrArg (fun k : Connection => k.failState || k.closed) h :)
  unfold released
  rw [hspared]
  split
  · exact h
  · exact congrArg Connection.shut h

namespace World

/-- What an attempt begins with is determined by the backend and the clock. -/
theorem attempt_fst (w : World) (codec : Codec) (m : Member) :
    (w.attempt codec m).1 =
      match codec.decode (w.backend m).password with
      | .error fault => .error (.codec fault)
      | .ok _ => .ok ⟨(w.backend m).refusing, (w.backend m).delay.map w.dueAfter⟩ := by
  unfold World.attempt
  simp only
  cases codec.decode (w.backend m).password with
  | error fault => rfl
  | ok password => rfl

/-- The worlds show the same, from connection `base` on in the one and `base'` in the other. -/
structure Counterpart (base base' : Nat) (w w' : World) : Prop where
  now : w'.now = w.now
  active : w'.active = w.active
  backend : ∀ m, (w'.backend m).face = (w.backend m).face
  connection : ∀ c, (w'.connections[base' + c]?).map (Prod.map id Connection.face) =
    (w.connections[base + c]?).map (Prod.map id Connection.face)

namespace Counterpart

variable {base base' : Nat} {w w' : World} {m : Member} {c : Nat}

theorem found (h : Counterpart base base' w w') (c : Nat) :
    w.connections[base + c]? = none ∧ w'.connections[base' + c]? = none ∨
      ∃ handle k k', w.connections[base + c]? = some (handle, k) ∧
        w'.connections[base' + c]? = some (handle, k') ∧ k'.face = k.face := by
  have hc := h.connection c
  cases hk : w.connections[base + c]? with
  | none =>
    rw [hk] at hc
    exact .inl ⟨rfl, Option.map_eq_none_iff.mp hc⟩
  | some e =>
    rw [hk] at hc
    obtain ⟨handle, k⟩ := e
    obtain ⟨⟨handle', k'⟩, hk', he⟩ := Option.map_eq_some_iff.mp hc
    obtain ⟨rfl, hface⟩ := Prod.mk.inj he
    exact .inr ⟨handle', k, k', rfl, hk', hface⟩

theorem timeAfter (h : Counterpart base base' w w') (duration : Nat) :
    w'.timeAfter duration = w.timeAfter duration := by
  rw [World.timeAfter, h.now, World.timeAfter]

theorem dueAfter (h : Counterpart base base' w w') (duration : Nat) :
    w'.dueAfter duration = w.dueAfter duration := by
  rw [World.dueAfter, h.timeAfter, World.dueAfter]

theorem set (h : Counterpart base base' w w') {handle : String} {k k' l l' : Connection}
    (hk : w.connections[base + c]? = some (handle, k))
    (hk' : w'.connections[base' + c]? = some (handle, k')) (hl : l'.face = l.face) :
    Counterpart base base' { w with connections := w.connections.set (base + c) (handle, l) }
      { w' with connections := w'.connections.set (base' + c) (handle, l') } := by
  refine ⟨h.now, h.active, h.backend, fun i => ?_⟩
  by_cases hi : c = i
  · subst hi
    rw [List.getElem?_set_self (List.getElem?_eq_some_iff.mp hk).1,
      List.getElem?_set_self (List.getElem?_eq_some_iff.mp hk').1, Option.map_some, Option.map_some,
      Prod.map_apply, Prod.map_apply, hl]
  · rw [List.getElem?_set_ne (by omega), List.getElem?_set_ne (by omega)]
    exact h.connection i

theorem access {α : Type} {a : Access α} (h : Counterpart base base' w w') (ha : Access.Blind a) (c : Nat) :
    (w'.access (base' + c) a).1 = (w.access (base + c) a).1 ∧
      Counterpart base base' (w.access (base + c) a).2 (w'.access (base' + c) a).2 := by
  unfold World.access
  rcases h.found c with ⟨hk, hk'⟩ | ⟨handle, k, k', hk, hk', hface⟩
  · rw [hk, hk']
    exact ⟨rfl, h⟩
  · obtain ⟨hanswer, hleft⟩ := ha k k' hface
    rw [hk, hk']
    exact ⟨hanswer, h.set hk hk' hleft⟩

theorem release (h : Counterpart base base' w w') (inSpan : Bool) (b : String) (c : Nat) :
    Counterpart base base' (w.release inSpan b (base + c)) (w'.release inSpan b (base' + c)) := by
  rcases h.found c with ⟨hk, hk'⟩ | ⟨handle, k, k', hk, hk', hface⟩
  · simp only [World.release, World.access, hk, hk']
    exact ⟨h.now, h.active, h.backend, h.connection⟩
  · rw [release_eq inSpan b hk, release_eq inSpan b hk']
    exact ⟨h.now, h.active, h.backend, (h.set hk hk' (Connection.released_face hface)).connection⟩

theorem autoIncrement_connections (w : World) (i n : Nat) (relation : String) :
    ∃ cache, (w.autoIncrement i n relation).2 =
      { (w.access n (w.cache.autoIncrement i relation)).2 with cache } := by
  unfold World.autoIncrement
  cases w.access n (w.cache.autoIncrement i relation) with
  | mk r w' =>
    cases r with
    | error e => exact ⟨w'.cache, rfl⟩
    | ok r => exact ⟨r.2, rfl⟩

/-- Whether a question about filled columns is probed or remembered is not seen. -/
theorem autoIncrement (h : Counterpart base base' w w') (i i' c : Nat) (relation : String) :
    Counterpart base base' (w.autoIncrement i (base + c) relation).2
      (w'.autoIncrement i' (base' + c) relation).2 := by
  obtain ⟨cache, hw⟩ := autoIncrement_connections w i (base + c) relation
  obtain ⟨cache', hw'⟩ := autoIncrement_connections w' i' (base' + c) relation
  rw [hw, hw']
  unfold World.access
  rcases h.found c with ⟨hk, hk'⟩ | ⟨handle, k, k', hk, hk', hface⟩
  · rw [hk, hk']
    exact ⟨h.now, h.active, h.backend, h.connection⟩
  · have hq : (Access.on k _).2.face = k.face := Access.queried_autoIncrement w.cache i relation k
    have hq' : (Access.on k' _).2.face = k'.face := Access.queried_autoIncrement w'.cache i' relation k'
    rw [hk, hk']
    exact ⟨h.now, h.active, h.backend, (h.set hk hk' (hq'.trans (hface.trans hq.symm))).connection⟩

theorem attempted (h : Counterpart base base' w w') (m : Member) :
    Counterpart base base' (w.attempted m) (w'.attempted m) := by
  refine ⟨h.now, h.active, fun m' => ?_, h.connection⟩
  rw [backend_attempted, backend_attempted]
  split
  · exact h.backend m
  · exact h.backend m'

theorem attempt (h : Counterpart base base' w w') (codec : Codec) (m : Member) :
    (w'.attempt codec m).1 = (w.attempt codec m).1 ∧
      Counterpart base base' (w.attempt codec m).2 (w'.attempt codec m).2 := by
  refine ⟨?_, by rw [attempt_world, attempt_world]; exact h.attempted m⟩
  have hpassword : (w'.backend m).password = (w.backend m).password :=
    (congrArg Backend.password (h.backend m) :)
  have hrefusing : (w'.backend m).refusing = (w.backend m).refusing :=
    (congrArg Backend.refusing (h.backend m) :)
  have hdelay : (w'.backend m).delay = (w.backend m).delay := (congrArg Backend.delay (h.backend m) :)
  have hdue : w'.dueAfter = w.dueAfter := funext h.dueAfter
  rw [attempt_fst, attempt_fst, hpassword, hrefusing, hdelay, hdue]

theorem append (h : Counterpart base base' w w') (m : Member) {n : Nat}
    (hn : w.connections.length = base + n) (hn' : w'.connections.length = base' + n) :
    Counterpart base base'
      { w with connections := w.connections ++ [(m.handle, (w.backend m).connection)] }
      { w' with connections := w'.connections ++ [(m.handle, (w'.backend m).connection)] } := by
  have hnew : (w'.backend m).connection = (w.backend m).connection :=
    (congrArg Backend.connection (h.backend m) :)
  refine ⟨h.now, h.active, h.backend, fun c => ?_⟩
  rw [hnew]
  rcases Nat.lt_trichotomy c n with hc | rfl | hc
  · rw [List.getElem?_append_left (by omega), List.getElem?_append_left (by omega)]
    exact h.connection c
  · rw [List.getElem?_append_right (Nat.le_of_eq hn), List.getElem?_append_right (Nat.le_of_eq hn'), hn, hn',
      Nat.sub_self, Nat.sub_self]
  · rw [List.getElem?_eq_none (by rw [List.length_append, List.length_singleton]; omega),
      List.getElem?_eq_none (by rw [List.length_append, List.length_singleton]; omega)]

end Counterpart

end World
end Resync

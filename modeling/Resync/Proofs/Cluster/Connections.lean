import Resync.Cluster.World
import Resync.Proofs.Connection.Answers

/-! # The connections of a world

Every connection of a world stays where it is and keeps its ways of failing, and once it is
closed it stays closed. A connection is released if it is closed or cannot be: its closing
fails, or it does not tell whether it is closed. Releasing a connection makes it so and
touches no other.
-/
namespace Resync

theorem set_eq_self {α : Type} {l : List α} {n : Nat} {a : α} (h : l[n]? = some a) : l.set n a = l := by
  obtain ⟨hlt, rfl⟩ := List.getElem?_eq_some_iff.mp h
  exact List.set_getElem_self hlt

namespace Connection

def shut (k : Connection) : Connection :=
  { k with closings := k.closings + 1, closed := k.closed || !k.failClose }

/-- The connection after a registry has let go of it: it is asked to close if it tells that it
is open. -/
def released (k : Connection) : Connection :=
  if k.failState || k.closed then k else k.shut

def complaint? (k : Connection) (backend : String) : Option Log.Event :=
  if k.failState then some (.stateCheckFailed backend (.dataAccess .stateUnknown))
  else if !k.closed && k.failClose then some (.closeFailed backend (.dataAccess (.call "close")))
  else none

theorem released_of_open {k : Connection} (hs : k.failState = false) (hc : k.closed = false) :
    k.released = { k with closings := k.closings + 1, closed := !k.failClose } := by
  have hopen : (k.failState || k.closed) = false := by rw [hs, hc, Bool.or_false]
  rw [released, hopen, if_neg Bool.false_ne_true, shut, hc, Bool.false_or]

theorem released_of_spared {k : Connection} (h : k.failState = true ∨ k.closed = true) :
    k.released = k := by
  have hspared : (k.failState || k.closed) = true := (Bool.or_eq_true ..).mpr h
  rw [released, if_pos hspared]

theorem keeps_released (k : Connection) : k.Keeps k.released := by
  unfold released shut
  split
  · exact .refl k
  · exact ⟨rfl, rfl, rfl, fun hc => by simp [hc]⟩

theorem closed_released (k : Connection) :
    k.released.closed = true ∨ k.released.failClose = true ∨ k.released.failState = true := by
  by_cases h : k.failState = true ∨ k.closed = true
  · rw [released_of_spared h]
    exact h.elim (fun hs => .inr (.inr hs)) .inl
  · rw [not_or, Bool.not_eq_true, Bool.not_eq_true] at h
    rw [released_of_open h.1 h.2]
    cases hf : k.failClose with
    | true => exact .inr (.inl rfl)
    | false => exact .inl rfl

end Connection

namespace Access

theorem on_isClosed (k : Connection) :
    on k isClosed = (if k.failState then .error (.dataAccess .stateUnknown) else .ok k.closed, k) := by
  unfold isClosed
  rw [on_bind]
  change on k (if k.failState then fail .stateUnknown else pure k.closed) = _
  cases k.failState with
  | true => rfl
  | false => rfl

theorem on_close (k : Connection) :
    on k close = (if k.failClose then .error (.dataAccess (.call "close")) else .ok (), k.shut) := by
  unfold close Connection.shut
  rw [on_bind]
  change on { k with closings := k.closings + 1 } (get >>= _) = _
  rw [on_bind]
  change on { k with closings := k.closings + 1 } (if k.failClose then _ else _) = _
  cases k.failClose with
  | true =>
    rw [Bool.not_true, Bool.or_false]
    rfl
  | false =>
    rw [Bool.not_false, Bool.or_true]
    rfl

end Access

namespace World

def single (b : Backend) : World where
  backends := Assoc.ofList [(b.id, b)]
  active := ⟨[⟨b.id, b.id⟩]⟩
  cache := { strategy := .none }

/-- Connection `n` is closed, or cannot be. -/
def Released (w : World) (n : Nat) : Prop :=
  ∃ handle k, w.connections[n]? = some (handle, k) ∧
    (k.closed = true ∨ k.failClose = true ∨ k.failState = true)

/-- Every connection is still there and the same, those below `base` were left alone, and new ones
were opened through the backends, which keep their ways of failing. -/
structure Keeps (base : Nat) (w w' : World) : Prop where
  length : w.connections.length ≤ w'.connections.length
  connection : ∀ (n : Nat) (handle : String) (k : Connection), w.connections[n]? = some (handle, k) →
    ∃ k', w'.connections[n]? = some (handle, k') ∧ k.Keeps k'
  below : ∀ n < base, w'.connections[n]? = w.connections[n]?
  backend : ∀ m, (w'.backend m).failClose = (w.backend m).failClose ∧
    (w'.backend m).failState = (w.backend m).failState
  opened : ∀ (n : Nat) (handle : String) (k : Connection), w.connections.length ≤ n →
    w'.connections[n]? = some (handle, k) →
    ∃ m, m.handle = handle ∧ k.failClose = (w.backend m).failClose ∧
      k.failState = (w.backend m).failState

theorem Keeps.of_connections {base : Nat} {w w' : World} (h : w'.connections = w.connections)
    (hb : ∀ m, (w'.backend m).failClose = (w.backend m).failClose ∧
      (w'.backend m).failState = (w.backend m).failState) : Keeps base w w' where
  length := Nat.le_of_eq (by rw [h])
  connection n handle k hk := ⟨k, by rw [h]; exact hk, .refl k⟩
  below n _ := by rw [h]
  backend := hb
  opened n handle k hn hk := by
    rw [h] at hk
    exact absurd (List.getElem?_eq_some_iff.mp hk).1 (Nat.not_lt_of_le hn)

theorem Keeps.of_eq {base : Nat} {w w' : World} (h : w'.connections = w.connections)
    (hb : w'.backends = w.backends) : Keeps base w w' := by
  refine .of_connections h fun m => ?_
  rw [World.backend, hb]
  exact ⟨rfl, rfl⟩

theorem Keeps.of_length {base : Nat} {w w' : World}
    (hl : w'.connections.length = w.connections.length) (hb : w'.backends = w.backends)
    (hc : ∀ (n : Nat) (handle : String) (k : Connection), w.connections[n]? = some (handle, k) →
      ∃ k', w'.connections[n]? = some (handle, k') ∧ k.Keeps k')
    (hlow : ∀ n < base, w'.connections[n]? = w.connections[n]?) : Keeps base w w' where
  length := Nat.le_of_eq hl.symm
  connection := hc
  below := hlow
  backend m := by
    rw [World.backend, hb]
    exact ⟨rfl, rfl⟩
  opened n handle k hn hk :=
    absurd (hl ▸ (List.getElem?_eq_some_iff.mp hk).1) (Nat.not_lt_of_le hn)

theorem Keeps.append {base : Nat} {w w' : World} {m : Member} (hbase : base ≤ w.connections.length)
    (h : w'.connections = w.connections ++ [(m.handle, (w.backend m).connection)])
    (hb : ∀ m, (w'.backend m).failClose = (w.backend m).failClose ∧
      (w'.backend m).failState = (w.backend m).failState) : Keeps base w w' where
  length := by simp [h]
  connection n handle k hk := by
    have hlt := (List.getElem?_eq_some_iff.mp hk).1
    exact ⟨k, by rw [h, List.getElem?_append_left hlt, hk], .refl k⟩
  below n hn := by rw [h, List.getElem?_append_left (Nat.lt_of_lt_of_le hn hbase)]
  backend := hb
  opened n handle k hn hk := by
    rw [h, List.getElem?_append_right hn, List.getElem?_singleton] at hk
    split at hk
    · cases hk
      exact ⟨m, rfl, rfl, rfl⟩
    · cases hk

theorem Keeps.trans {base : Nat} {w w' w'' : World} (h : Keeps base w w') (h' : Keeps base w' w'') :
    Keeps base w w'' where
  length := Nat.le_trans h.length h'.length
  connection n handle k hk := by
    obtain ⟨k', hk', hkeep⟩ := h.connection n handle k hk
    obtain ⟨k'', hk'', hkeep'⟩ := h'.connection n handle k' hk'
    exact ⟨k'', hk'', hkeep.trans hkeep'⟩
  below n hn := (h'.below n hn).trans (h.below n hn)
  backend m := ⟨(h'.backend m).1.trans (h.backend m).1, (h'.backend m).2.trans (h.backend m).2⟩
  opened n handle k hn hk := by
    by_cases hlt : n < w'.connections.length
    · obtain ⟨⟨handle', k'⟩, he⟩ : ∃ e, w'.connections[n]? = some e := ⟨_, List.getElem?_eq_getElem hlt⟩
      obtain ⟨m, hm, hc, hs⟩ := h.opened n handle' k' hn he
      obtain ⟨k'', hk'', hkeep⟩ := h'.connection n handle' k' he
      rw [hk] at hk''
      cases hk''
      exact ⟨m, hm, hkeep.failClose.trans hc, hkeep.failState.trans hs⟩
    · obtain ⟨m, hm, hc, hs⟩ := h'.opened n handle k (Nat.le_of_not_lt hlt) hk
      exact ⟨m, hm, hc.trans (h.backend m).1, hs.trans (h.backend m).2⟩

theorem Released.keeps {base : Nat} {w w' : World} {n : Nat} (hr : w.Released n)
    (h : Keeps base w w') : w'.Released n := by
  obtain ⟨handle, k, hk, hr⟩ := hr
  obtain ⟨k', hk', hkeep⟩ := h.connection n handle k hk
  refine ⟨handle, k', hk', ?_⟩
  rcases hr with hr | hr | hr
  · exact .inl (hkeep.closed hr)
  · exact .inr (.inl (hkeep.failClose.trans hr))
  · exact .inr (.inr (hkeep.failState.trans hr))

/-- A connection that was opened after `w` and is released is closed, if its backend tells whether
connections are closed and does not fail to close them. -/
theorem Keeps.closed {base : Nat} {w w' : World} {n : Nat} (h : Keeps base w w')
    (hn : w.connections.length ≤ n) (hr : w'.Released n) :
    ∃ m k, w'.connections[n]? = some (m.handle, k) ∧
      ((w.backend m).failState = false → (w.backend m).failClose = false → k.closed = true) := by
  obtain ⟨handle, k, hk, hr⟩ := hr
  obtain ⟨m, rfl, hclose, hstate⟩ := h.opened n handle k hn hk
  refine ⟨m, k, hk, fun htells hcloses => ?_⟩
  rcases hr with hr | hr | hr
  · exact hr
  · rw [hclose, hcloses] at hr
    cases hr
  · rw [hstate, htells] at hr
    cases hr

section Access

variable {α : Type} {a : Access α}

theorem access_connections (w : World) (n : Nat) (a : Access α) :
    (w.access n a).2.connections =
      match w.connections[n]? with
      | none => w.connections
      | some (handle, k) => w.connections.set n (handle, (Access.on k a).2) := by
  unfold access
  cases w.connections[n]? with
  | none => rfl
  | some e => rfl

theorem access_backends (w : World) (n : Nat) (a : Access α) :
    (w.access n a).2.backends = w.backends := by
  unfold access
  cases w.connections[n]? with
  | none => rfl
  | some e => rfl

theorem length_access (w : World) (n : Nat) (a : Access α) :
    (w.access n a).2.connections.length = w.connections.length := by
  rw [access_connections]
  cases w.connections[n]? with
  | none => rfl
  | some e => simp

theorem access_keeps {base n : Nat} (w : World) (ha : Access.Within Connection.Keeps a)
    (hn : base ≤ n) : Keeps base w (w.access n a).2 := by
  refine .of_length (length_access w n a) (access_backends w n a) ?_ ?_
  · intro i handle k hk
    rw [access_connections]
    by_cases hi : i = n
    · subst hi
      have hlt := (List.getElem?_eq_some_iff.mp hk).1
      simp only [hk]
      exact ⟨(Access.on k a).2, List.getElem?_set_self hlt, ha k⟩
    · have hi' : n ≠ i := fun e => hi e.symm
      refine ⟨k, ?_, .refl k⟩
      cases w.connections[n]? with
      | none => exact hk
      | some e =>
        simp only [List.getElem?_set_ne hi']
        exact hk
  · intro i hi
    have hi' : n ≠ i := by omega
    rw [access_connections]
    cases w.connections[n]? with
    | none => rfl
    | some e => simp only [List.getElem?_set_ne hi']

end Access

theorem release_eq {w : World} {n : Nat} {handle : String} {k : Connection} (inSpan : Bool)
    (b : String) (hk : w.connections[n]? = some (handle, k)) :
    w.release inSpan b n =
      { w with
        connections := w.connections.set n (handle, k.released)
        log := w.log ++ ((k.complaint? b).map (.event · inSpan)).toList } := by
  have hself : w.connections.set n (handle, k) = w.connections := set_eq_self hk
  have hclosed : w.access n Access.isClosed =
      (if k.failState then .error (.dataAccess .stateUnknown) else .ok k.closed, w) := by
    simp only [access, hk, Access.on_isClosed, hself]
  have hclose : w.access n Access.close =
      (if k.failClose then .error (.dataAccess (.call "close")) else .ok (),
        { w with connections := w.connections.set n (handle, k.shut) }) := by
    simp only [access, hk, Access.on_close]
  unfold release Connection.released Connection.complaint?
  rw [hclosed]
  cases hs : k.failState with
  | true => simp [hself, report]
  | false =>
    cases hc : k.closed with
    | true => simp [hself]
    | false =>
      simp only [Bool.false_eq_true, ↓reduceIte, hclose]
      cases hf : k.failClose with
      | true => simp [report]
      | false => simp

theorem release_connections (w : World) (inSpan : Bool) (b : String) (n : Nat) :
    (w.release inSpan b n).connections = w.connections ∨
      ∃ handle k, w.connections[n]? = some (handle, k) ∧
        (w.release inSpan b n).connections = w.connections.set n (handle, k.released) := by
  cases hk : w.connections[n]? with
  | none =>
    left
    simp only [release, access, hk]
    rfl
  | some e =>
    obtain ⟨handle, k⟩ := e
    rw [release_eq inSpan b hk]
    exact .inr ⟨handle, k, rfl, rfl⟩

theorem length_release (w : World) (inSpan : Bool) (b : String) (n : Nat) :
    (w.release inSpan b n).connections.length = w.connections.length := by
  rcases release_connections w inSpan b n with h | ⟨handle, k, -, h⟩
  · rw [h]
  · rw [h, List.length_set]

theorem release_shape (w : World) (inSpan : Bool) (b : String) (n : Nat) :
    ∃ connections log, w.release inSpan b n = { w with connections, log } := by
  cases he : w.connections[n]? with
  | none => exact ⟨_, _, by simp only [release, access, he]; rfl⟩
  | some e =>
    obtain ⟨handle, k⟩ := e
    rw [release_eq inSpan b he]
    exact ⟨_, _, rfl⟩

theorem release_backends (w : World) (inSpan : Bool) (b : String) (n : Nat) :
    (w.release inSpan b n).backends = w.backends := by
  obtain ⟨connections, log, h⟩ := release_shape w inSpan b n
  rw [h]

theorem release_keeps {base n : Nat} (w : World) (inSpan : Bool) (b : String) (hn : base ≤ n) :
    Keeps base w (w.release inSpan b n) := by
  have hb := release_backends w inSpan b n
  rcases release_connections w inSpan b n with h | ⟨handle, k, hk, h⟩
  · exact .of_eq h hb
  · refine .of_length (length_release w inSpan b n) hb ?_ ?_
    · intro i handle' k' hk'
      rw [h]
      by_cases hi : i = n
      · subst hi
        rw [hk] at hk'
        cases hk'
        have hlt := (List.getElem?_eq_some_iff.mp hk).1
        exact ⟨k.released, List.getElem?_set_self hlt, k.keeps_released⟩
      · have hi' : n ≠ i := fun e => hi e.symm
        exact ⟨k', by rw [List.getElem?_set_ne hi']; exact hk', .refl k'⟩
    · intro i hi
      have hi' : n ≠ i := by omega
      rw [h, List.getElem?_set_ne hi']

/-- Nothing has happened but that connections were closed and events were reported. -/
structure Closes (base : Nat) (w w' : World) : Prop where
  keeps : Keeps base w w'
  length : w'.connections.length = w.connections.length
  backends : w'.backends = w.backends
  cache : w'.cache = w.cache
  active : w'.active = w.active
  now : w'.now = w.now

theorem Closes.refl (base : Nat) (w : World) : Closes base w w := ⟨.of_eq rfl rfl, rfl, rfl, rfl, rfl, rfl⟩

theorem Closes.trans {base : Nat} {w w' w'' : World} (h : Closes base w w') (h' : Closes base w' w'') :
    Closes base w w'' :=
  ⟨h.keeps.trans h'.keeps, h'.length.trans h.length, h'.backends.trans h.backends,
    h'.cache.trans h.cache, h'.active.trans h.active, h'.now.trans h.now⟩

theorem release_closes {base n : Nat} (w : World) (inSpan : Bool) (b : String) (hn : base ≤ n) :
    Closes base w (w.release inSpan b n) := by
  have hk := release_keeps w inSpan b hn
  have hl := length_release w inSpan b n
  obtain ⟨connections, log, h⟩ := release_shape w inSpan b n
  rw [h] at hk hl ⊢
  exact ⟨hk, hl, rfl, rfl, rfl, rfl⟩

theorem release_released {w : World} {n : Nat} (inSpan : Bool) (b : String)
    (hn : n < w.connections.length) : (w.release inSpan b n).Released n := by
  obtain ⟨⟨handle, k⟩, hk⟩ : ∃ e, w.connections[n]? = some e := ⟨_, List.getElem?_eq_getElem hn⟩
  rw [release_eq inSpan b hk]
  exact ⟨handle, k.released, List.getElem?_set_self hn, k.closed_released⟩

def attempted (w : World) (m : Member) : World :=
  w.setBackend m { w.backend m with attempts := (w.backend m).attempts + 1 }

theorem backend_attempted (w : World) (m m' : Member) :
    (w.attempted m).backend m' =
      if m.handle = m'.handle then
        { w.backend m with attempts := (w.backend m).attempts + 1 }
      else w.backend m' := by
  simp only [backend, attempted, setBackend, Assoc.get?_insert]
  split
  · rfl
  · rfl

/-- An attempt changes nothing but its count, at its own handle. -/
theorem attempt_world (w : World) (codec : Codec) (m : Member) :
    (w.attempt codec m).2 = w.attempted m := by
  unfold attempt attempted
  cases h : codec.decode (w.backend m).password with
  | error fault => simp only [h]
  | ok password => simp only [h]

theorem attempted_fails (w : World) (m m' : Member) :
    ((w.attempted m).backend m').failClose = (w.backend m').failClose ∧
      ((w.attempted m).backend m').failState = (w.backend m').failState := by
  rw [backend_attempted]
  split
  · rename_i hm
    simp only [backend, hm]
    cases w.backends.get? m'.handle with
    | none => exact ⟨rfl, rfl⟩
    | some b => exact ⟨rfl, rfl⟩
  · exact ⟨rfl, rfl⟩

theorem attempt_keeps {base : Nat} (w : World) (codec : Codec) (m : Member) :
    Keeps base w (w.attempt codec m).2 := by
  rw [attempt_world]
  exact .of_connections rfl (w.attempted_fails m)

theorem due_of_attempt {w w' : World} {codec : Codec} {m : Member} {a : Attempt} {due : Nat}
    (h : w.attempt codec m = (.ok a, w')) (hd : a.due = some due) : due ≤ lastTime := by
  unfold attempt at h
  cases hc : codec.decode (w.backend m).password with
  | error fault => simp [hc] at h
  | ok password =>
    simp only [hc, Prod.mk.injEq, Except.ok.injEq] at h
    obtain ⟨rfl, -⟩ := h
    obtain ⟨d, -, rfl⟩ := Option.map_eq_some_iff.mp hd
    exact Nat.min_le_right _ _

theorem settle_ok {w w' : World} {m : Member} {a : Attempt} {n : Nat}
    (h : w.settle m a = (.ok n, w')) :
    n = w.connections.length ∧
      w' = { w with connections := w.connections ++ [(m.handle, (w.backend m).connection)] } := by
  unfold settle at h
  split at h
  · cases h
  · cases h
    exact ⟨rfl, rfl⟩

theorem settle_error {w w' : World} {m : Member} {a : Attempt} {e : Error}
    (h : w.settle m a = (.error e, w')) : w' = w ∧ e = .dataAccess (.refused m.id) := by
  unfold settle at h
  split at h
  · cases h
    exact ⟨rfl, rfl⟩
  · cases h

theorem settle_keeps {base : Nat} (w : World) (m : Member) (a : Attempt)
    (hb : base ≤ w.connections.length) : Keeps base w (w.settle m a).2 := by
  unfold settle
  split
  · exact .of_eq rfl rfl
  · exact .append hb rfl fun _ => ⟨rfl, rfl⟩

theorem autoIncrement_keeps {base n : Nat} (w : World) (i : Nat) (relation : String) (hn : base ≤ n) :
    Keeps base w (w.autoIncrement i n relation).2 ∧
      (w.autoIncrement i n relation).2.connections.length = w.connections.length := by
  have hk := access_keeps w (Access.keeps_autoIncrement w.cache i relation) hn
  have hl := length_access w n (w.cache.autoIncrement i relation)
  unfold autoIncrement
  cases h : w.access n (w.cache.autoIncrement i relation) with
  | mk r w' =>
    rw [h] at hk hl
    cases r with
    | error e => exact ⟨hk, hl⟩
    | ok r => exact ⟨hk.trans (.of_eq rfl rfl), hl⟩

theorem autoIncrement_backends (w : World) (i n : Nat) (relation : String) :
    (w.autoIncrement i n relation).2.backends = w.backends := by
  have hb := access_backends w n (w.cache.autoIncrement i relation)
  unfold autoIncrement
  cases h : w.access n (w.cache.autoIncrement i relation) with
  | mk r w' =>
    rw [h] at hb
    cases r with
    | error e => exact hb
    | ok r => exact hb

end World
end Resync

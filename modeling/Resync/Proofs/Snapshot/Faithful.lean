import Mathlib.Logic.Function.Basic
import Resync.Proofs.Context.Making
import Resync.Proofs.Snapshot.Description

/-! # Faithful caches

As long as schemas do not change, what a cache has kept from earlier jobs is what the backends
would tell today. Every snapshot in use belongs to one schema: it is what loading comes to, and
its memo has answers to probes of that schema only. So a request comes to the same whether it
finds something in the cache or not.
-/
namespace Resync

structure LiveSnapshot.Of (s : Schema) (l : LiveSnapshot) : Prop where
  snapshot : s.loaded = .ok l.snapshot
  memo : ∀ relation found, l.memo.get? relation = some found → s.probed relation = .ok found

theorem LiveSnapshot.Of.learn {s : Schema} {l : LiveSnapshot} {relation : String} {found : Bool} (h : l.Of s)
    (hprobed : s.probed relation = .ok found) :
    LiveSnapshot.Of s { l with memo := l.memo.insert relation found } := by
  refine ⟨h.snapshot, fun other answer ha => ?_⟩
  rw [Assoc.get?_insert] at ha
  split at ha
  · rename_i hr
    cases ha
    rwa [← hr]
  · exact h.memo other answer ha

namespace Cache

variable {catalog : String → Schema} {owner : Nat → Schema} {k k' : Cache} {b relation : String}
  {c : Connection} {n : Nat}

/-- Every snapshot in use is its owner's, and what is kept for a backend is owned by the schema
that the catalog has for it. -/
structure Faithful (catalog : String → Schema) (owner : Nat → Schema) (k : Cache) : Prop where
  live : ∀ (n : Nat) (l : LiveSnapshot), k.live[n]? = some l → l.Of (owner n)
  entries : ∀ b n, k.entries.get? b = some n → n < k.live.length ∧ owner n = catalog b

theorem faithful_new (strategy : CacheStrategy) : Faithful catalog owner { strategy } where
  live n l h := by cases h
  entries b n h := by cases h

theorem Faithful.flush (h : k.Faithful catalog owner) : k.flush.Faithful catalog owner where
  live := h.live
  entries b n hn := by cases hn

theorem Faithful.flushBackend (h : k.Faithful catalog owner) (b : String) :
    (k.flushBackend b).Faithful catalog owner where
  live := h.live
  entries b' n hn := by
    rw [Cache.flushBackend, Assoc.get?_erase] at hn
    split at hn
    · cases hn
    · exact h.entries b' n hn

theorem Faithful.of_lt (h : k.Faithful catalog owner) (hn : n < k.live.length) :
    ∃ l, k.live[n]? = some l ∧ l.Of (owner n) :=
  ⟨_, List.getElem?_eq_getElem hn, h.live n _ (List.getElem?_eq_getElem hn)⟩

theorem Faithful.snapshot? (h : k.Faithful catalog owner) (hn : n < k.live.length) :
    ∃ s, k.snapshot? n = some s ∧ (owner n).loaded = .ok s := by
  obtain ⟨l, hl, hof⟩ := h.of_lt hn
  exact ⟨l.snapshot, by rw [Cache.snapshot?, hl, Option.map_some], hof.snapshot⟩

structure Handed (catalog : String → Schema) (owner : Nat → Schema) (k : Cache) (b : String) (n : Nat)
    (owner' : Nat → Schema) (k' : Cache) : Prop where
  faithful : k'.Faithful catalog owner'
  length : k.live.length ≤ k'.live.length
  lt : n < k'.live.length
  owned : owner' n = catalog b
  before : ∀ i < k.live.length, owner' i = owner i
  strategy : k'.strategy = k.strategy

/-- A request for a snapshot comes to what loading comes to, also if it need not load. -/
theorem Faithful.get (h : k.Faithful catalog owner) (hc : c.schema = catalog b) :
    match (catalog b).loaded with
    | .error e => (Access.on c (k.get b)).1 = .error e
    | .ok _ => ∃ n k' owner',
        (Access.on c (k.get b)).1 = .ok (n, k') ∧ Handed catalog owner k b n owner' k' := by
  unfold Cache.get
  cases hn : k.entries.get? b with
  | some n =>
    obtain ⟨hlt, howner⟩ := h.entries b n hn
    obtain ⟨l, -, hof⟩ := h.of_lt hlt
    rw [← howner, hof.snapshot]
    exact ⟨n, k, owner, rfl, h, Nat.le_refl _, hlt, howner, fun _ _ => rfl, rfl⟩
  | none =>
    simp only
    rw [Access.on_bind, Access.on_load, hc]
    cases hload : (catalog b).loaded with
    | error e => rfl
    | ok s =>
      refine ⟨k.live.length, _, Function.update owner k.live.length (catalog b), rfl, ?_⟩
      have hold : ∀ i < k.live.length,
          Function.update owner k.live.length (catalog b) i = owner i :=
        fun i hi => Function.update_of_ne (Nat.ne_of_lt hi) ..
      have hnew : Function.update owner k.live.length (catalog b) k.live.length = catalog b :=
        Function.update_self ..
      have hlength : (k.live ++ [({ snapshot := s } : LiveSnapshot)]).length = k.live.length + 1 :=
        List.length_append
      refine ⟨⟨?_, ?_⟩, ?_, ?_, hnew, hold, rfl⟩
      · intro i l hl
        rw [List.getElem?_append] at hl
        split at hl
        · rename_i hi
          rw [hold i hi]
          exact h.live i l hl
        · rename_i hi
          rw [List.getElem?_singleton] at hl
          split at hl
          · cases hl
            have he : i = k.live.length := by omega
            rw [he, hnew]
            exact ⟨hload, nofun⟩
          · cases hl
      · have hkept : ∀ b' i, k.entries.get? b' = some i →
            i < (k.live ++ [({ snapshot := s } : LiveSnapshot)]).length ∧
              Function.update owner k.live.length (catalog b) i = catalog b' := by
          intro b' i hi
          obtain ⟨hlt, howner⟩ := h.entries b' i hi
          rw [hold i hlt, hlength]
          exact ⟨Nat.lt_succ_of_lt hlt, howner⟩
        intro b' i hi
        cases hs : k.strategy with
        | none =>
          simp only [hs] at hi
          exact hkept b' i hi
        | eager =>
          simp only [hs, Assoc.get?_insert] at hi
          split at hi
          · rename_i hb
            cases hi
            rw [← hb, hlength]
            exact ⟨Nat.lt_succ_self _, hnew⟩
          · exact hkept b' i hi
      · rw [hlength]
        exact Nat.le_succ _
      · rw [hlength]
        exact Nat.lt_succ_self _

section Questions

variable {l : LiveSnapshot}

theorem on_autoIncrement_known {found : Bool} (hl : k.live[n]? = some l)
    (hm : l.memo.get? relation = some found) (c : Connection) :
    Access.on c (k.autoIncrement n relation) = (.ok (found, k), c) := by
  have hset : k.live.set n l = k.live := set_eq_self hl
  unfold Cache.autoIncrement
  rw [hl]
  simp only
  rw [Access.on_bind, Memo.on_ask_known hm]
  simp only [hset]
  rfl

theorem on_autoIncrement_unknown (hl : k.live[n]? = some l) (hm : l.memo.get? relation = none)
    (c : Connection) :
    Access.on c (k.autoIncrement n relation) =
      ((c.schema.probed relation).map fun found =>
        (found, { k with live := k.live.set n { l with memo := l.memo.insert relation found } }),
        c.probed relation) := by
  unfold Cache.autoIncrement
  rw [hl]
  simp only
  rw [Access.on_bind, Memo.on_ask_unknown hm]
  cases c.schema.probed relation with
  | error e => rfl
  | ok found => rfl

theorem Faithful.autoIncrement (h : k.Faithful catalog owner) (hn : n < k.live.length)
    (hc : c.schema = owner n) (relation : String) :
    (Access.on c (k.autoIncrement n relation)).1.map Prod.fst = (owner n).probed relation ∧
      ∀ found k', (Access.on c (k.autoIncrement n relation)).1 = .ok (found, k') →
        k'.Faithful catalog owner ∧ k'.live.length = k.live.length ∧ k'.strategy = k.strategy := by
  obtain ⟨l, hl, hof⟩ := h.of_lt hn
  cases hm : l.memo.get? relation with
  | some found =>
    rw [on_autoIncrement_known hl hm]
    refine ⟨(hof.memo relation found hm).symm, ?_⟩
    rintro found' k' ⟨⟩
    exact ⟨h, rfl, rfl⟩
  | none =>
    rw [on_autoIncrement_unknown hl hm, hc]
    cases hprobed : (owner n).probed relation with
    | error e => exact ⟨rfl, nofun⟩
    | ok found =>
      refine ⟨rfl, ?_⟩
      rintro found' k' ⟨⟩
      refine ⟨⟨?_, ?_⟩, List.length_set, rfl⟩
      · intro i l' hl'
        rw [List.getElem?_set] at hl'
        split at hl'
        · rename_i hi
          cases hl'
          rw [← hi]
          exact hof.learn hprobed
        · exact h.live i l' hl'
      · intro b i hi
        obtain ⟨hlt, howner⟩ := h.entries b i hi
        exact ⟨by rw [List.length_set]; exact hlt, howner⟩

end Questions

end Cache
end Resync

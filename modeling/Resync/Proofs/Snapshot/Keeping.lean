import Mathlib.Data.Finmap
import Resync.Proofs.Context.Making

/-! # Keeping snapshots

A cache that keeps snapshots serves any sequence of calls as a finite map from backends to
snapshots does: what is kept is handed out again without a look at the connection, what is not
kept is loaded, and a load that fails leaves no trace.
-/
namespace Resync

inductive CacheCall where
  | get (backend : String) (connection : Connection)
  | flush
  | flushBackend (backend : String)

/-- A snapshot that is handed out: its number tells it from all others, whatever its content. -/
structure Handout where
  number : Nat
  content : Option Snapshot

abbrev CacheReply := Option (Except Error Handout × Connection)

structure CacheObservation where
  reply : CacheReply
  size : Nat
  isEmpty : Bool

structure CacheService (σ : Type) where
  serve : σ → CacheCall → CacheReply × σ
  size : σ → Nat
  isEmpty : σ → Bool

namespace CacheService

variable {σ ρ : Type}

def observe (s : CacheService σ) (a : σ) (call : CacheCall) : CacheObservation :=
  ⟨(s.serve a call).1, s.size (s.serve a call).2, s.isEmpty (s.serve a call).2⟩

def after (s : CacheService σ) (a : σ) (calls : List CacheCall) : σ :=
  calls.foldl (fun a call => (s.serve a call).2) a

def observations (s : CacheService σ) (a : σ) : List CacheCall → List CacheObservation
  | [] => []
  | call :: calls => s.observe a call :: s.observations (s.serve a call).2 calls

/-- States that are related stay so, and nothing can be seen that tells them apart. -/
theorem observations_eq {s : CacheService σ} {t : CacheService ρ} {R : σ → ρ → Prop}
    (hR : ∀ a b call, R a b →
      s.observe a call = t.observe b call ∧ R (s.serve a call).2 (t.serve b call).2)
    (calls : List CacheCall) {a : σ} {b : ρ} (h : R a b) :
    s.observations a calls = t.observations b calls ∧ R (s.after a calls) (t.after b calls) := by
  induction calls generalizing a b with
  | nil => exact ⟨rfl, h⟩
  | cons call calls ih =>
    obtain ⟨hobserve, hnext⟩ := hR a b call h
    obtain ⟨hrest, hafter⟩ := ih hnext
    refine ⟨?_, hafter⟩
    rw [observations, observations, hobserve, hrest]

end CacheService

namespace Cache

variable {k : Cache} {b : String} {c : Connection}

def handout (k : Cache) (number : Nat) : Handout := ⟨number, k.snapshot? number⟩

def service : CacheService Cache where
  serve
    | k, .get b c =>
      match Access.on c (k.get b) with
      | (.ok (n, k'), c') => (some (.ok (k'.handout n), c'), k')
      | (.error e, c') => (some (.error e, c'), k)
    | k, .flush => (none, k.flush)
    | k, .flushBackend b => (none, k.flushBackend b)
  size := size
  isEmpty := isEmpty

theorem get_kept {n : Nat} (h : k.entries.get? b = some n) : k.get b = pure (n, k) := by
  simp only [get, h]

def keep (k : Cache) (b : String) (s : Snapshot) : Cache :=
  { k with
    entries := k.entries.insert b k.live.length
    live := k.live ++ [{ snapshot := s }] }

theorem on_get_missing (hk : k.strategy = .eager) (h : k.entries.get? b = none) :
    Access.on c (k.get b) =
      match Access.on c Snapshot.load with
      | (.ok s, c') => (.ok (k.live.length, k.keep b s), c')
      | (.error e, c') => (.error e, c') := by
  simp only [get, h]
  rw [Access.on_bind]
  cases Access.on c Snapshot.load with
  | mk r c' =>
    cases r with
    | error e => rfl
    | ok s =>
      simp only [keep, hk]
      rfl

theorem handout_keep_of_lt {s : Snapshot} {n : Nat} (h : n < k.live.length) :
    (k.keep b s).handout n = k.handout n := by
  simp only [handout, snapshot?, keep, List.getElem?_append_left h]

theorem handout_keep_last (s : Snapshot) :
    (k.keep b s).handout k.live.length = ⟨k.live.length, some s⟩ := by
  simp [handout, snapshot?, keep]

theorem Sound.keep (h : k.Sound) (b : String) (s : Snapshot) : (k.keep b s).Sound := by
  intro b' n hn
  have hlength : (k.keep b s).live.length = k.live.length + 1 := List.length_append
  rw [hlength]
  rw [Cache.keep, Assoc.get?_insert] at hn
  split at hn
  · cases hn
    exact Nat.lt_succ_self _
  · exact Nat.lt_succ_of_lt (h b' n hn)

theorem Sound.flushBackend (h : k.Sound) (b : String) : (k.flushBackend b).Sound := by
  intro b' n hn
  rw [Cache.flushBackend, Assoc.get?_erase] at hn
  split at hn
  · cases hn
  · exact h b' n hn

theorem sound_flush (k : Cache) : k.flush.Sound := by
  intro b n hn
  cases hn

end Cache

/-- A finite map from backends to snapshots, and how many snapshots were ever taken. -/
structure Shelf where
  kept : Finmap fun _ : String => Handout := ∅
  taken : Nat := 0

namespace Shelf

/-- A request for what is kept is served from the map, any other one by a load, whose result is
kept for that backend unless it is an error. -/
def service : CacheService Shelf where
  serve
    | s, .get b c =>
      match s.kept.lookup b with
      | some o => (some (.ok o, c), s)
      | none =>
        match Access.on c Snapshot.load with
        | (.ok content, c') =>
          let o : Handout := ⟨s.taken, some content⟩
          (some (.ok o, c'), { kept := s.kept.insert b o, taken := s.taken + 1 })
        | (.error e, c') => (some (.error e, c'), s)
    | s, .flush => (none, { s with kept := ∅ })
    | s, .flushBackend b => (none, { s with kept := s.kept.erase b })
  size s := s.kept.keys.card
  isEmpty s := decide (s.kept.keys = ∅)

structure Represents (k : Cache) (s : Shelf) : Prop where
  strategy : k.strategy = .eager
  sound : k.Sound
  taken : s.taken = k.live.length
  kept : ∀ b, s.kept.lookup b = (k.entries.get? b).map k.handout

variable {k : Cache} {s : Shelf} {b : String} {c : Connection}

theorem Represents.mem_keys (h : Represents k s) (b : String) : b ∈ s.kept.keys ↔ b ∈ k.entries.keys := by
  rw [Finmap.mem_keys, ← Finmap.lookup_isSome, h.kept, Option.isSome_map, Assoc.mem_keys,
    Option.isSome_iff_exists]

theorem Represents.size (h : Represents k s) : service.size s = k.size := by
  have hkeys : s.kept.keys = k.entries.keys.toFinset := by
    ext b
    rw [h.mem_keys, List.mem_toFinset]
  have hnodup : k.entries.keys.Nodup := k.entries.keys_nodup
  change s.kept.keys.card = k.entries.pairs.length
  rw [hkeys, List.toFinset_card_of_nodup hnodup, Assoc.keys, List.length_map]

theorem Represents.isEmpty (h : Represents k s) : service.isEmpty s = k.isEmpty := by
  have hsize : s.kept.keys.card = k.entries.pairs.length := h.size
  have hempty : s.kept.keys = ∅ ↔ k.entries.pairs.isEmpty = true := by
    rw [← Finset.card_eq_zero, hsize, List.isEmpty_iff_length_eq_zero]
  exact Bool.eq_iff_iff.mpr (decide_eq_true_iff.trans hempty)

theorem represents_new : Represents { strategy := .eager } {} where
  strategy := rfl
  sound b n hn := by cases hn
  taken := rfl
  kept b := Finmap.lookup_empty b

theorem Represents.keep (h : Represents k s) (b : String) (content : Snapshot) :
    Represents (k.keep b content)
      { kept := s.kept.insert b ⟨s.taken, some content⟩, taken := s.taken + 1 } := by
  refine ⟨h.strategy, h.sound.keep b content, ?_, ?_⟩
  · have hlength : (k.keep b content).live.length = k.live.length + 1 := List.length_append
    rw [hlength, ← h.taken]
  · intro b'
    change (s.kept.insert b ⟨s.taken, some content⟩).lookup b' =
      ((k.entries.insert b k.live.length).get? b').map (k.keep b content).handout
    rw [Assoc.get?_insert]
    by_cases hb : b = b'
    · subst hb
      rw [Finmap.lookup_insert, if_pos rfl, Option.map_some, Cache.handout_keep_last, h.taken]
    · rw [Finmap.lookup_insert_of_ne _ (Ne.symm hb), if_neg hb, h.kept]
      cases hn : k.entries.get? b' with
      | none => rfl
      | some n => rw [Option.map_some, Option.map_some, Cache.handout_keep_of_lt (h.sound b' n hn)]

theorem Represents.flush (h : Represents k s) : Represents k.flush { s with kept := ∅ } where
  strategy := h.strategy
  sound := k.sound_flush
  taken := h.taken
  kept b := Finmap.lookup_empty b

theorem Represents.flushBackend (h : Represents k s) (b : String) :
    Represents (k.flushBackend b) { s with kept := s.kept.erase b } := by
  refine ⟨h.strategy, h.sound.flushBackend b, h.taken, ?_⟩
  intro b'
  change (s.kept.erase b).lookup b' = ((k.entries.erase b).get? b').map k.handout
  rw [Assoc.get?_erase]
  by_cases hb : b = b'
  · subst hb
    rw [Finmap.lookup_erase, if_pos rfl, Option.map_none]
  · rw [Finmap.lookup_erase_ne (Ne.symm hb), if_neg hb, h.kept]

theorem Represents.serve (h : Represents k s) (call : CacheCall) :
    (Cache.service.serve k call).1 = (service.serve s call).1 ∧
      Represents (Cache.service.serve k call).2 (service.serve s call).2 := by
  cases call with
  | flush => exact ⟨rfl, h.flush⟩
  | flushBackend b => exact ⟨rfl, h.flushBackend b⟩
  | get b c =>
    have hkept := h.kept b
    cases hn : k.entries.get? b with
    | some n =>
      rw [hn, Option.map_some] at hkept
      simp only [Cache.service, service, Cache.get_kept hn, Access.on_pure, hkept]
      exact ⟨trivial, h⟩
    | none =>
      rw [hn, Option.map_none] at hkept
      simp only [Cache.service, service, Cache.on_get_missing h.strategy hn, hkept]
      cases Access.on c Snapshot.load with
      | mk r c' =>
        cases r with
        | error e => exact ⟨rfl, h⟩
        | ok content =>
          refine ⟨?_, h.keep b content⟩
          simp only [Cache.handout_keep_last, h.taken]

theorem Represents.observe (h : Represents k s) (call : CacheCall) :
    Cache.service.observe k call = service.observe s call ∧
      Represents (Cache.service.serve k call).2 (service.serve s call).2 := by
  obtain ⟨hreply, hnext⟩ := h.serve call
  refine ⟨?_, hnext⟩
  rw [CacheService.observe, CacheService.observe, hreply, hnext.size, hnext.isEmpty]
  rfl

/-- Whatever is asked of a cache that keeps snapshots, it answers as the finite map does, and is as
large at every point. What is in the map is handed out without a look at any connection. -/
theorem kept_as_map (calls : List CacheCall) :
    Cache.service.observations { strategy := .eager } calls = service.observations {} calls ∧
    ∀ b o, (service.after {} calls).kept.lookup b = some o →
      (Cache.service.after { strategy := .eager } calls).get b =
        pure (o.number, Cache.service.after { strategy := .eager } calls) := by
  obtain ⟨hobservations, hafter⟩ := CacheService.observations_eq
    (s := Cache.service) (t := service) (R := Represents) (fun k s call h => h.observe call) calls
    represents_new
  refine ⟨hobservations, ?_⟩
  intro b o ho
  rw [hafter.kept] at ho
  obtain ⟨n, hn, rfl⟩ := Option.map_eq_some_iff.mp ho
  exact Cache.get_kept hn

end Shelf
end Resync

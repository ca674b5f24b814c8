import Resync.Proofs.Snapshot.Faithful
import Resync.Proofs.Snapshot.Keeping

/-! # Caching strategies

A cache that loads at every request and one that keeps what it has loaded answer alike, as long
as every backend has one schema: what is kept is what a load would come to now, since a load
depends on nothing but the schema. They differ in how often they introspect the backends.
-/
namespace Resync

namespace CacheReply

def content : CacheReply → Option (Except Error (Option Snapshot) × Connection)
  | none => none
  | some (reply, c) => some (reply.map Handout.content, c)

end CacheReply

namespace CacheCall

def isGet : CacheCall → Bool
  | get _ _ => true
  | flush | flushBackend _ => false

def through? (b : String) : CacheCall → Option Connection
  | get b' c => if b' = b then some c else none
  | flush | flushBackend _ => none

def answer : CacheCall → Option (Except Error (Option Snapshot) × Connection)
  | get _ c => some (c.schema.loaded.map some, c)
  | flush | flushBackend _ => none

def Consistent (calls : List CacheCall) : Prop :=
  ∀ b c c', get b c ∈ calls → get b c' ∈ calls → c.schema = c'.schema

def catalog (calls : List CacheCall) (b : String) : Schema :=
  ((calls.findSome? (through? b)).map (·.schema)).getD ⟨[]⟩

theorem eq_of_through? {call : CacheCall} {b : String} {c : Connection}
    (h : call.through? b = some c) : call = get b c := by
  cases call with
  | get b' c' =>
    by_cases hb : b' = b
    · simp only [through?, hb, ↓reduceIte, Option.some.injEq] at h
      rw [hb, h]
    · simp [through?, hb] at h
  | flush => cases h
  | flushBackend b' => cases h

theorem Consistent.catalog {calls : List CacheCall} (h : Consistent calls) {b : String}
    {c : Connection} (hc : get b c ∈ calls) : c.schema = CacheCall.catalog calls b := by
  have hthrough : through? b (get b c) = some c := if_pos rfl
  unfold CacheCall.catalog
  cases hf : calls.findSome? (through? b) with
  | none =>
    rw [List.findSome?_eq_none_iff.mp hf _ hc] at hthrough
    cases hthrough
  | some c' =>
    obtain ⟨call, hcall, hthrough'⟩ := List.exists_of_findSome?_eq_some hf
    rw [eq_of_through? hthrough'] at hcall
    exact h b c c' hc hcall

end CacheCall

namespace Cache

open CacheCall (Consistent)

variable {catalog : String → Schema} {owner : Nat → Schema} {k : Cache}

def loads (k : Cache) : CacheCall → Nat
  | .get b _ => if (k.entries.get? b).isSome then 0 else 1
  | .flush | .flushBackend _ => 0

def introspections (k : Cache) : List CacheCall → Nat
  | [] => 0
  | call :: calls => k.loads call + (service.serve k call).2.introspections calls

theorem Faithful.serve (h : k.Faithful catalog owner) (call : CacheCall)
    (hc : ∀ b c, call = .get b c → c.schema = catalog b) :
    (service.serve k call).1.content = call.answer ∧
      ∃ owner', (service.serve k call).2.Faithful catalog owner' := by
  cases call with
  | flush => exact ⟨rfl, owner, h.flush⟩
  | flushBackend b => exact ⟨rfl, owner, h.flushBackend b⟩
  | get b c =>
    have hschema := hc b c rfl
    have hget := h.get (b := b) hschema
    have hleft := on_get k b c
    have hpair : Access.on c (k.get b) = ((Access.on c (k.get b)).1, c) := Prod.ext rfl hleft
    rw [← hschema] at hget
    simp only [service, CacheCall.answer]
    rw [hpair]
    cases hload : c.schema.loaded with
    | error e =>
      rw [hload] at hget
      simp only at hget
      rw [hget]
      exact ⟨rfl, owner, h⟩
    | ok s =>
      rw [hload] at hget
      obtain ⟨n, k', owner', hanswer, hk'⟩ := hget
      rw [hanswer]
      refine ⟨?_, owner', hk'.faithful⟩
      obtain ⟨s', hs', hloaded⟩ := hk'.faithful.snapshot? hk'.lt
      rw [hk'.owned, ← hschema, hload] at hloaded
      cases hloaded
      simp [CacheReply.content, handout, hs', Except.map]

theorem Faithful.answers {calls : List CacheCall} (h : k.Faithful catalog owner)
    (hc : ∀ b c, .get b c ∈ calls → c.schema = catalog b) :
    (service.observations k calls).map (·.reply.content) = calls.map CacheCall.answer := by
  induction calls generalizing k owner with
  | nil => rfl
  | cons call calls ih =>
    obtain ⟨hreply, owner', hnext⟩ := h.serve call fun b c hbc => hc b c (hbc ▸ List.mem_cons_self)
    have hrest := ih hnext fun b c hbc => hc b c (List.mem_cons_of_mem _ hbc)
    rw [CacheService.observations, List.map_cons, List.map_cons, hrest]
    exact congrArg (· :: _) hreply

theorem serve_none (hs : k.strategy = .none) (he : ∀ b, k.entries.get? b = none) (call : CacheCall) :
    (service.serve k call).2.strategy = .none ∧
      ∀ b, (service.serve k call).2.entries.get? b = none := by
  cases call with
  | flush => exact ⟨hs, fun b => rfl⟩
  | flushBackend b =>
    refine ⟨hs, fun b' => ?_⟩
    change (k.entries.erase b).get? b' = none
    rw [Assoc.get?_erase, he]
    split
    · rfl
    · rfl
  | get b c =>
    cases hload : Access.on c Snapshot.load with
    | mk r c' =>
      cases r with
      | error e =>
        have hget : Access.on c (k.get b) = (.error e, c') := by
          simp only [get, he b, hs]
          rw [Access.on_bind, hload]
        simp only [service, hget]
        exact ⟨hs, he⟩
      | ok s =>
        have hget : Access.on c (k.get b) =
            (.ok (k.live.length, { k with live := k.live ++ [{ snapshot := s }] }), c') := by
          simp only [get, he b, hs]
          rw [Access.on_bind, hload]
          rfl
        simp only [service, hget]
        exact ⟨hs, he⟩

theorem introspections_none {calls : List CacheCall} (hs : k.strategy = .none)
    (he : ∀ b, k.entries.get? b = none) : k.introspections calls = calls.countP CacheCall.isGet := by
  induction calls generalizing k with
  | nil => rfl
  | cons call calls ih =>
    obtain ⟨hs', he'⟩ := serve_none hs he call
    have hone : k.loads call = if call.isGet then 1 else 0 := by
      cases call with
      | flush => rfl
      | flushBackend b => rfl
      | get b c => simp [loads, he b, CacheCall.isGet]
    rw [introspections, List.countP_cons, ih hs' he', hone, Nat.add_comm]

theorem introspections_le (k : Cache) (calls : List CacheCall) :
    k.introspections calls ≤ calls.countP CacheCall.isGet := by
  induction calls generalizing k with
  | nil => exact Nat.le_refl _
  | cons call calls ih =>
    have hrest := ih (service.serve k call).2
    have hone : k.loads call ≤ if call.isGet then 1 else 0 := by
      cases call with
      | flush => exact Nat.le_refl _
      | flushBackend b => exact Nat.le_refl _
      | get b c =>
        simp only [loads, CacheCall.isGet, ↓reduceIte]
        split
        · exact Nat.zero_le _
        · exact Nat.le_refl _
    rw [introspections, List.countP_cons]
    omega

/-- With one schema for each backend the two kinds of caches answer every request alike, with what a
load comes to, and leave the connections alike. One of them introspects at every request, the
other one not more often. -/
theorem strategies_agree (calls : List CacheCall) (h : Consistent calls) :
    (service.observations { strategy := .none } calls).map (·.reply.content) =
        (service.observations { strategy := .eager } calls).map (·.reply.content) ∧
      (service.observations { strategy := .eager } calls).map (·.reply.content) =
        calls.map CacheCall.answer ∧
      introspections { strategy := .none } calls = calls.countP CacheCall.isGet ∧
      introspections { strategy := .eager } calls ≤ calls.countP CacheCall.isGet := by
  have hanswers : ∀ strategy, (service.observations { strategy } calls).map (·.reply.content) =
      calls.map CacheCall.answer := by
    intro strategy
    have hnew : Faithful (CacheCall.catalog calls) (fun _ => ⟨[]⟩) { strategy } := faithful_new strategy
    exact hnew.answers fun _ _ hc => h.catalog hc
  exact ⟨(hanswers .none).trans (hanswers .eager).symm, hanswers .eager,
    introspections_none rfl fun _ => rfl, introspections_le _ calls⟩

def mixedCalls : List CacheCall :=
  [.get "a" { schema := ⟨[]⟩ }, .get "a" { schema := ⟨[]⟩, closed := true }, .flush,
    .get "b" { schema := ⟨[.failOn "tables"]⟩ }]

theorem strategies_agree_mixed :
    (service.observations { strategy := .none } mixedCalls).map (·.reply.content) =
        (service.observations { strategy := .eager } mixedCalls).map (·.reply.content) ∧
      introspections { strategy := .none } mixedCalls = 3 ∧
      introspections { strategy := .eager } mixedCalls = 2 := by
  have hconsistent : Consistent mixedCalls := by
    intro b c c' hc hc'
    simp only [mixedCalls, List.mem_cons, CacheCall.get.injEq, reduceCtorEq, List.not_mem_nil,
      or_false, false_or] at hc hc'
    rcases hc with ⟨rfl, rfl⟩ | ⟨rfl, rfl⟩ | ⟨rfl, rfl⟩ <;>
      rcases hc' with ⟨hb, rfl⟩ | ⟨hb, rfl⟩ | ⟨hb, rfl⟩ <;> first | rfl | simp at hb
  exact ⟨(strategies_agree mixedCalls hconsistent).1, rfl, rfl⟩

end Cache
end Resync

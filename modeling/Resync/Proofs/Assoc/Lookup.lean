import Mathlib.Data.List.Induction
import Resync.Assoc

/-! # Look-ups in finite maps

A pair is in a map exactly if its value is found under its key. What is found in a map that was
built from a list can be read off the list: the last value of the key, or all that was gathered
under it, in its order.
-/
namespace Resync.Assoc

variable {κ α β : Type} [DecidableEq κ]

theorem mem_of_lookup {k : κ} {v : α} {l : List (κ × α)} (h : lookup k l = some v) : (k, v) ∈ l := by
  induction l with
  | nil => cases h
  | cons e l ih =>
    obtain ⟨k', v'⟩ := e
    simp only [lookup] at h
    split at h
    · rename_i hk
      cases h
      rw [hk]
      exact List.mem_cons_self
    · exact List.mem_cons_of_mem _ (ih h)

theorem lookup_of_mem {k : κ} {v : α} {l : List (κ × α)} (hl : (l.map Prod.fst).Nodup)
    (h : (k, v) ∈ l) : lookup k l = some v := by
  induction l with
  | nil => cases h
  | cons e l ih =>
    obtain ⟨k', v'⟩ := e
    rw [List.map_cons, List.nodup_cons] at hl
    simp only [lookup]
    rcases List.mem_cons.mp h with h | h
    · cases h
      rw [if_pos rfl]
    · have hm : k ∈ l.map Prod.fst := List.mem_map.mpr ⟨(k, v), h, rfl⟩
      have hk : k' ≠ k := fun he => hl.1 (he ▸ hm)
      rw [if_neg hk]
      exact ih hl.2 h

theorem mem_pairs (m : Assoc κ α) (k : κ) (v : α) : (k, v) ∈ m.pairs ↔ m.get? k = some v :=
  ⟨lookup_of_mem m.keys_nodup, mem_of_lookup⟩

theorem lookup_eq_some_iff {l : List (κ × α)} {k : κ} {v : α} : lookup k l = some v ↔
    ∃ before after, l = before ++ (k, v) :: after ∧ k ∉ before.map Prod.fst := by
  induction l with
  | nil => simp [lookup]
  | cons p l ih =>
    obtain ⟨k', v'⟩ := p
    rw [lookup]
    split
    · rename_i hk
      subst hk
      constructor
      · rintro ⟨⟩
        exact ⟨[], l, rfl, List.not_mem_nil⟩
      · rintro ⟨before, after, hsplit, hearlier⟩
        cases before with
        | nil =>
          cases hsplit
          rfl
        | cons first before =>
          cases hsplit
          exact absurd List.mem_cons_self hearlier
    · rename_i hk
      rw [ih]
      constructor
      · rintro ⟨before, after, rfl, hearlier⟩
        refine ⟨(k', v') :: before, after, rfl, ?_⟩
        rw [List.map_cons, List.mem_cons, not_or]
        exact ⟨Ne.symm hk, hearlier⟩
      · rintro ⟨before, after, hsplit, hearlier⟩
        cases before with
        | nil =>
          cases hsplit
          exact absurd rfl hk
        | cons first before =>
          cases hsplit
          exact ⟨before, after, rfl, fun h => hearlier (List.mem_cons_of_mem _ h)⟩

theorem exists_lookup {k : κ} {l : List (κ × α)} :
    (∃ v, lookup k l = some v) ↔ k ∈ l.map Prod.fst := by
  constructor
  · rintro ⟨v, hv⟩
    exact List.mem_map.mpr ⟨(k, v), mem_of_lookup hv, rfl⟩
  · intro h
    induction l with
    | nil => cases h
    | cons e l ih =>
      obtain ⟨k', v'⟩ := e
      by_cases hk : k' = k
      · exact ⟨v', by rw [lookup, if_pos hk]⟩
      · have hl : k ∈ l.map Prod.fst := (List.mem_cons.mp h).resolve_left (Ne.symm hk)
        obtain ⟨v, hv⟩ := ih hl
        exact ⟨v, by rw [lookup, if_neg hk, hv]⟩

theorem mem_keys (m : Assoc κ α) (k : κ) : k ∈ m.keys ↔ ∃ v, m.get? k = some v := exists_lookup.symm

theorem get?_ofList (l : List (κ × α)) (k : κ) : (ofList l).get? k = lookup k l.reverse := by
  induction l using List.reverseRecOn with
  | nil => rfl
  | append_singleton l p ih =>
    have hfold : ofList (l ++ [p]) = (ofList l).insert p.1 p.2 := List.foldl_append ..
    rw [hfold, get?_insert, List.reverse_concat, lookup, ih]

/-- In a map that was built from a list, a key has the value of the last pair with it. -/
theorem get?_ofList_eq_some_iff {l : List (κ × α)} {k : κ} {v : α} : (ofList l).get? k = some v ↔
    ∃ before after, l = before ++ (k, v) :: after ∧ k ∉ after.map Prod.fst := by
  rw [get?_ofList, lookup_eq_some_iff]
  constructor
  · rintro ⟨before, after, hsplit, hearlier⟩
    refine ⟨after.reverse, before.reverse, ?_, ?_⟩
    · rw [List.reverse_eq_iff.mp hsplit]
      simp
    · rwa [List.map_reverse, List.mem_reverse]
  · rintro ⟨before, after, rfl, hlater⟩
    refine ⟨after.reverse, before.reverse, ?_, ?_⟩
    · simp
    · rwa [List.map_reverse, List.mem_reverse]

theorem mem_keys_ofList (l : List (κ × α)) (k : κ) : k ∈ (ofList l).keys ↔ k ∈ l.map Prod.fst := by
  rw [mem_keys, get?_ofList, exists_lookup, List.map_reverse, List.mem_reverse]

theorem get?_gather (key : α → κ) (value : α → β) (l : List α) (k : κ) :
    (l.foldl (fun m a => m.update (key a) [] (· ++ [value a])) (empty : Assoc κ (List β))).get? k =
      if k ∈ l.map key then some ((l.filter fun a => key a = k).map value) else none := by
  induction l using List.reverseRecOn with
  | nil => rfl
  | append_singleton l a ih =>
    rw [List.foldl_append, List.foldl_cons, List.foldl_nil, update, get?_insert, List.filter_append,
      List.map_append, List.map_append]
    by_cases ha : key a = k
    · subst ha
      rw [ih]
      by_cases hl : key a ∈ l.map key
      · simp [hl]
      · have hnone : l.filter (fun b => key b = key a) = [] := by
          rw [List.filter_eq_nil_iff]
          intro b hb he
          exact hl (List.mem_map.mpr ⟨b, hb, of_decide_eq_true he⟩)
        simp [hl, hnone]
    · have hk : k ≠ key a := Ne.symm ha
      simp [ha, hk, ih]

end Resync.Assoc

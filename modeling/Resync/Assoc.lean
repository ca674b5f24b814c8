/-! # Finite maps in order of first insertion

A finite map is the list of its pairs; no key occurs twice, and that is part of the
type. A pair keeps the place where its key was first inserted, so that a walk over
the map has one order, whatever the keys are. The lemmas say what each operation does
to a look-up.
-/
namespace Resync

/-- A finite map from `κ` to `α`. -/
structure Assoc (κ α : Type) where
  pairs : List (κ × α)
  keys_nodup : (pairs.map Prod.fst).Nodup := by simp

namespace Assoc

variable {κ α β : Type}

def empty : Assoc κ α := { pairs := [] }

instance : Inhabited (Assoc κ α) := ⟨empty⟩

instance : EmptyCollection (Assoc κ α) := ⟨empty⟩

def keys (m : Assoc κ α) : List κ := m.pairs.map Prod.fst

def values (m : Assoc κ α) : List α := m.pairs.map Prod.snd

def size (m : Assoc κ α) : Nat := m.pairs.length

def isEmpty (m : Assoc κ α) : Bool := m.pairs.isEmpty

variable [DecidableEq κ]

def lookup (k : κ) : List (κ × α) → Option α
  | [] => none
  | (k', v) :: rest => if k' = k then some v else lookup k rest

def get? (m : Assoc κ α) (k : κ) : Option α := lookup k m.pairs

def contains (m : Assoc κ α) (k : κ) : Bool := (m.get? k).isSome

def place (k : κ) (v : α) : List (κ × α) → List (κ × α)
  | [] => [(k, v)]
  | (k', v') :: rest => if k' = k then (k, v) :: rest else (k', v') :: place k v rest

theorem keys_place (k : κ) (v : α) (l : List (κ × α)) :
    (place k v l).map Prod.fst =
      if k ∈ l.map Prod.fst then l.map Prod.fst else l.map Prod.fst ++ [k] := by
  induction l with
  | nil => simp [place]
  | cons p rest ih =>
    obtain ⟨k', v'⟩ := p
    by_cases h : k' = k
    · simp [place, h]
    · have h' : ¬ k = k' := fun e => h e.symm
      simp only [place, h, ↓reduceIte, List.map_cons, ih, List.mem_cons, h', false_or]
      split <;> simp

theorem nodup_place (k : κ) (v : α) (l : List (κ × α)) (h : (l.map Prod.fst).Nodup) :
    ((place k v l).map Prod.fst).Nodup := by
  rw [keys_place]
  split
  · exact h
  · rename_i hk
    rw [List.nodup_append]
    refine ⟨h, by simp, ?_⟩
    intro a ha b hb
    rw [List.mem_singleton] at hb
    subst hb
    exact fun e => hk (e ▸ ha)

def insert (m : Assoc κ α) (k : κ) (v : α) : Assoc κ α where
  pairs := place k v m.pairs
  keys_nodup := nodup_place k v m.pairs m.keys_nodup

def erase (m : Assoc κ α) (k : κ) : Assoc κ α where
  pairs := m.pairs.filter fun p => p.1 ≠ k
  keys_nodup := m.keys_nodup.sublist (List.filter_sublist.map Prod.fst)

def update (m : Assoc κ α) (k : κ) (d : α) (f : α → α) : Assoc κ α :=
  m.insert k (f ((m.get? k).getD d))

/-- The map of the pairs of `l`; the last value of a key counts. -/
def ofList (l : List (κ × α)) : Assoc κ α :=
  l.foldl (fun m p => m.insert p.1 p.2) empty

theorem lookup_place (k k' : κ) (v : α) (l : List (κ × α)) :
    lookup k' (place k v l) = if k = k' then some v else lookup k' l := by
  induction l with
  | nil => simp [place, lookup]
  | cons p rest ih =>
    obtain ⟨a, b⟩ := p
    by_cases h : a = k
    · subst h
      by_cases hk : a = k' <;> simp [place, lookup, hk]
    · by_cases hk : k = k'
      · subst hk
        simp [place, lookup, h, ih]
      · simp [place, lookup, h, ih, hk]

@[simp] theorem get?_empty (k : κ) : (empty : Assoc κ α).get? k = none := rfl

theorem get?_insert (m : Assoc κ α) (k k' : κ) (v : α) :
    (m.insert k v).get? k' = if k = k' then some v else m.get? k' :=
  lookup_place k k' v m.pairs

theorem lookup_filter_ne (k k' : κ) (l : List (κ × α)) :
    lookup k' (l.filter fun p => p.1 ≠ k) = if k = k' then none else lookup k' l := by
  induction l with
  | nil => simp [lookup]
  | cons p rest ih =>
    obtain ⟨a, b⟩ := p
    by_cases h : a = k
    · subst h
      by_cases hk : a = k'
      · simp [hk] at ih ⊢
        exact ih
      · simp [lookup, hk] at ih ⊢
        exact ih
    · by_cases hk : k = k'
      · subst hk
        simp [lookup, h] at ih ⊢
        exact ih
      · simp [lookup, h, hk] at ih ⊢
        rw [ih]

theorem get?_erase (m : Assoc κ α) (k k' : κ) :
    (m.erase k).get? k' = if k = k' then none else m.get? k' :=
  lookup_filter_ne k k' m.pairs

end Assoc
end Resync

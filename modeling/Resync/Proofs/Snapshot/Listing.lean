import Mathlib.Data.List.Induction
import Mathlib.Data.List.Nodup
import Resync.Snapshot.Listing

/-! # What a listing gathers

The walk over the rows comes to one entry for each name, in order of first occurrence, made of the
rows with this name in their order. The table of places agrees with the order of the entries at
every moment: what it has for a name is where the name's entry stands.
-/
namespace Resync.Listing

variable {ρ α : Type} {name : ρ → String} {new : ρ → α} {add : ρ → α → α} {rows : List ρ} {row : ρ}
  {x : Listing α} {e : α} {n : String}

def names (name : ρ → String) (rows : List ρ) : List String := (rows.map name).eraseDups

def named (name : ρ → String) (rows : List ρ) (n : String) : List ρ := rows.filter fun row => name row = n

def entryOf? (new : ρ → α) (add : ρ → α → α) : List ρ → Option α
  | [] => none
  | first :: rest => some ((first :: rest).foldl (fun e row => add row e) (new first))

theorem entryOf?_concat {group : List ρ} (h : entryOf? new add group = some e) :
    entryOf? new add (group ++ [row]) = some (add row e) := by
  cases group with
  | nil => cases h
  | cons first rest =>
    cases h
    simp [entryOf?]

theorem mem_names : n ∈ names name rows ↔ ∃ row ∈ rows, name row = n := by
  rw [names, List.mem_eraseDups, List.mem_map]

theorem names_concat : names name (rows ++ [row]) =
    if name row ∈ names name rows then names name rows else names name rows ++ [name row] := by
  simp only [names, List.map_append, List.map_singleton, List.eraseDups_append, List.mem_eraseDups,
    List.removeAll, List.elem_eq_contains]
  by_cases hrow : name row ∈ rows.map name
  · rw [if_pos hrow, List.filter_cons_of_neg (by simpa using hrow)]
    simp
  · rw [if_neg hrow, List.filter_cons_of_pos (by simpa using hrow)]
    simp [List.eraseDups_cons]

theorem nodup_names (name : ρ → String) (rows : List ρ) : (names name rows).Nodup := by
  induction rows using List.reverseRecOn with
  | nil => exact List.nodup_nil
  | append_singleton rows row ih =>
    rw [names_concat]
    split
    · exact ih
    · rename_i hrow
      rw [← List.concat_eq_append]
      exact List.Nodup.concat hrow ih

theorem named_concat_self : named name (rows ++ [row]) (name row) = named name rows (name row) ++ [row] := by
  simp [named]

theorem named_concat_ne (h : name row ≠ n) : named name (rows ++ [row]) n = named name rows n := by
  simp [named, h]

theorem exists_named (h : n ∈ names name rows) :
    ∃ first rest, named name rows n = first :: rest ∧ first ∈ rows ∧ name first = n := by
  obtain ⟨row, hrow, hname⟩ := mem_names.mp h
  have hmem : row ∈ named name rows n := List.mem_filter.mpr ⟨hrow, decide_eq_true hname⟩
  obtain ⟨first, rest, hgroup⟩ := List.exists_cons_of_ne_nil (List.ne_nil_of_mem hmem)
  have hfirst : first ∈ named name rows n := hgroup ▸ List.mem_cons_self
  obtain ⟨hrows, hfirstName⟩ := List.mem_filter.mp hfirst
  exact ⟨first, rest, hgroup, hrows, of_decide_eq_true hfirstName⟩

theorem named_eq_nil (h : n ∉ names name rows) : named name rows n = [] := by
  rw [named, List.filter_eq_nil_iff]
  intro row hrow hn
  exact h (mem_names.mpr ⟨row, hrow, of_decide_eq_true hn⟩)

theorem groups_perm {ns : List String} (hns : ns.Nodup) (hrows : ∀ row ∈ rows, name row ∈ ns) :
    (ns.flatMap (named name rows)).Perm rows := by
  induction ns generalizing rows with
  | nil =>
    rw [List.eq_nil_iff_forall_not_mem.mpr fun row hrow => List.not_mem_nil (hrows row hrow)]
    exact .refl _
  | cons n ns ih =>
    rw [List.nodup_cons] at hns
    have hrest := @ih (rows.filter fun row => !decide (name row = n)) hns.2 fun row hrow => by
      obtain ⟨hrow, hn⟩ := List.mem_filter.mp hrow
      exact (List.mem_cons.mp (hrows row hrow)).resolve_left (by simpa using hn)
    have hgroups : ns.flatMap (named name (rows.filter fun row => !decide (name row = n))) =
        ns.flatMap (named name rows) := by
      apply List.flatMap_congr
      intro n' hn'
      rw [named, List.filter_filter]
      apply List.filter_congr
      intro row _
      have hne : n' ≠ n := fun h => hns.1 (h ▸ hn')
      by_cases hrow : name row = n'
      · simp [hrow, hne]
      · simp [hrow]
    rw [hgroups] at hrest
    rw [List.flatMap_cons]
    exact (hrest.append_left _).trans (List.filter_append_perm _ rows)

/-- The groups of all names together have the rows: nothing is lost, and nothing is in two groups. -/
theorem named_perm (name : ρ → String) (rows : List ρ) :
    ((names name rows).flatMap (named name rows)).Perm rows :=
  groups_perm (nodup_names name rows) fun row hrow => mem_names.mpr ⟨row, hrow, rfl⟩

/-- The listing is that of the rows: its entries are made of them, and its table of places has the
place of each name. -/
structure Indexed (name : ρ → String) (new : ρ → α) (add : ρ → α → α) (rows : List ρ) (x : Listing α) :
    Prop where
  entries : x.entries.map some = (names name rows).map fun n => entryOf? new add (named name rows n)
  places : ∀ n p, x.places.get? n = some p ↔ (names name rows)[p]? = some n

namespace Indexed

theorem length (h : Indexed name new add rows x) : x.entries.length = (names name rows).length := by
  have := congrArg List.length h.entries
  rwa [List.length_map, List.length_map] at this

theorem entry_at {p : Nat} (h : Indexed name new add rows x) (hp : (names name rows)[p]? = some n) :
    ∃ e, x.entries[p]? = some e ∧ entryOf? new add (named name rows n) = some e := by
  have hentry : Option.map some x.entries[p]? = some (entryOf? new add (named name rows n)) := by
    rw [← List.getElem?_map, h.entries, List.getElem?_map, hp]
    rfl
  obtain ⟨e, he, hgroup⟩ := Option.map_eq_some_iff.mp hentry
  exact ⟨e, he, hgroup.symm⟩

theorem not_mem_names (h : Indexed name new add rows x) (hn : x.places.get? n = none) : n ∉ names name rows := by
  intro hmem
  obtain ⟨p, hp⟩ := List.mem_iff_getElem?.mp hmem
  rw [(h.places n p).mpr hp] at hn
  cases hn

/-- The place that a row's name has is in the list, and the entry there is the one of the earlier
rows with this name, or the one that the row has begun. -/
theorem locate (h : Indexed name new add rows x) (row : ρ) :
    ∃ e, (x.locate (name row) (new row)).2.entries[(x.locate (name row) (new row)).1]? = some e ∧
      (name row ∈ names name rows ∧ entryOf? new add (named name rows (name row)) = some e ∨ e = new row) := by
  unfold Listing.locate
  cases hplace : x.places.get? (name row) with
  | some p =>
    have hp := (h.places _ _).mp hplace
    obtain ⟨e, he, hgroup⟩ := h.entry_at hp
    exact ⟨e, he, .inl ⟨List.mem_of_getElem? hp, hgroup⟩⟩
  | none => exact ⟨new row, List.getElem?_concat_length, .inr rfl⟩

theorem placed {p : Nat} (h : Indexed name new add rows x) (hplace : x.places.get? (name row) = some p) :
    Indexed name new add (rows ++ [row]) { x with entries := x.entries.modify p (add row) } := by
  have hp : (names name rows)[p]? = some (name row) := (h.places _ _).mp hplace
  have hnames : names name (rows ++ [row]) = names name rows := by
    rw [names_concat, if_pos (List.mem_of_getElem? hp)]
  refine ⟨?_, by rw [hnames]; exact h.places⟩
  apply List.ext_getElem?
  intro i
  simp only [hnames, List.getElem?_map, List.getElem?_modify]
  cases hi : (names name rows)[i]? with
  | none =>
    have hlen : x.entries.length ≤ i := by
      rw [h.length]
      exact List.getElem?_eq_none_iff.mp hi
    rw [List.getElem?_eq_none hlen]
    rfl
  | some n =>
    obtain ⟨e, he, hgroup⟩ := h.entry_at hi
    rw [he]
    by_cases hpi : p = i
    · subst hpi
      rw [hp] at hi
      cases hi
      simp [named_concat_self, entryOf?_concat hgroup]
    · have hn : name row ≠ n := by
        rintro rfl
        have hlt := (List.getElem?_eq_some_iff.mp hp).1
        exact hpi ((List.getElem?_inj hlt (nodup_names name rows)).mp (hp.trans hi.symm))
      simp [hpi, named_concat_ne hn, hgroup]

theorem places_insert {p : Nat} (h : Indexed name new add rows x) (hrow : name row ∉ names name rows) :
    (x.places.insert (name row) x.entries.length).get? n = some p ↔
      (names name rows ++ [name row])[p]? = some n := by
  rw [Assoc.get?_insert, h.length, List.getElem?_append]
  by_cases hn : name row = n
  · subst hn
    have hnot : (names name rows)[p]? ≠ some (name row) := fun hp => hrow (List.mem_of_getElem? hp)
    rw [if_pos rfl, List.getElem?_singleton, Option.some.injEq]
    split
    · rename_i hlt
      exact iff_of_false (by omega) hnot
    · split
      · exact iff_of_true (by omega) rfl
      · exact iff_of_false (by omega) nofun
  · rw [if_neg hn, h.places n p]
    split
    · rfl
    · rename_i hlt
      rw [List.getElem?_eq_none (by omega), List.getElem?_singleton]
      split
      · simp [hn]
      · simp

theorem unplaced (h : Indexed name new add rows x) (hplace : x.places.get? (name row) = none) :
    Indexed name new add (rows ++ [row])
      { entries := x.entries ++ [add row (new row)]
        places := x.places.insert (name row) x.entries.length } := by
  have hrow : name row ∉ names name rows := h.not_mem_names hplace
  have hnames : names name (rows ++ [row]) = names name rows ++ [name row] := by
    rw [names_concat, if_neg hrow]
  refine ⟨?_, fun n p => by rw [hnames]; exact h.places_insert hrow⟩
  have hold : (names name rows).map (fun n => entryOf? new add (named name (rows ++ [row]) n)) =
      x.entries.map some := by
    rw [h.entries]
    apply List.map_congr_left
    intro n hn
    have hne : name row ≠ n := fun he => hrow (he ▸ hn)
    rw [named_concat_ne hne]
  simp only [hnames, List.map_append, hold, List.map_singleton, named_concat_self, named_eq_nil hrow,
    List.nil_append]
  rfl

theorem change (h : Indexed name new add rows x) (row : ρ) :
    Indexed name new add (rows ++ [row]) (x.change (name row) (new row) (add row)) := by
  unfold Listing.change Listing.locate
  cases hplace : x.places.get? (name row) with
  | some p => exact h.placed hplace
  | none =>
    have hmodify : (x.entries ++ [new row]).modify x.entries.length (add row) =
        x.entries ++ [add row (new row)] := by
      rw [List.modify_eq_take_drop]
      simp
    simp only [hmodify]
    exact h.unplaced hplace

end Indexed

theorem indexed_gather (name : ρ → String) (new : ρ → α) (add : ρ → α → α) (rows : List ρ) :
    Indexed name new add rows (gather name new add rows) := by
  induction rows using List.reverseRecOn with
  | nil => exact ⟨rfl, fun _ _ => iff_of_false nofun nofun⟩
  | append_singleton rows row ih =>
    have hfold : gather name new add (rows ++ [row]) =
        (gather name new add rows).change (name row) (new row) (add row) := List.foldl_append ..
    rw [hfold]
    exact ih.change row

theorem entries_gather (name : ρ → String) (new : ρ → α) (add : ρ → α → α) (rows : List ρ) :
    (gather name new add rows).entries =
      (names name rows).filterMap fun n => entryOf? new add (named name rows n) := by
  have h := congrArg (List.filterMap id) (indexed_gather name new add rows).entries
  rwa [List.filterMap_map, List.filterMap_map, Function.id_comp, List.filterMap_some] at h

theorem mem_entries_gather : e ∈ (gather name new add rows).entries ↔
    ∃ n ∈ names name rows, entryOf? new add (named name rows n) = some e := by
  rw [entries_gather, List.mem_filterMap]

/-- Entries that are begun with the name of their row, and keep it, have the names of the rows. -/
theorem map_entries_gather (nameOf : α → String) (hnew : ∀ row, nameOf (new row) = name row)
    (hadd : ∀ row e, nameOf (add row e) = nameOf e) (rows : List ρ) :
    (gather name new add rows).entries.map nameOf = names name rows := by
  have hfold : ∀ (group : List ρ) (e : α), nameOf (group.foldl (fun e row => add row e) e) = nameOf e := by
    intro group
    induction group with
    | nil => exact fun _ => rfl
    | cons row group ih => exact fun e => (ih (add row e)).trans (hadd row e)
  have hname : ∀ n ∈ names name rows, (entryOf? new add (named name rows n)).map nameOf = some n := by
    intro n hn
    obtain ⟨first, rest, hgroup, -, hfirst⟩ := exists_named hn
    rw [hgroup, entryOf?, Option.map_some, hfold, hnew, hfirst]
  rw [entries_gather, List.map_filterMap]
  exact (List.filterMap_congr hname).trans List.filterMap_some

end Resync.Listing

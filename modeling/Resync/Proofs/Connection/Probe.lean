import Mathlib.Data.List.Nodup
import Resync.Proofs.Assoc.Lookup
import Resync.Proofs.Connection.Answers

/-! # Probes

A probe is one query, and the result set that it is given is closed before anything is made of what was
seen in it. The relation of the query is looked for among all that the backend has; no two relations have
the same query, so it does not matter in which order they are gone through.
-/
namespace Resync

open Access (emptySelect)

namespace Schema

variable {s : Schema} {sql : String} {flags : List Bool} {order : List (String × List Bool)} {columns : List Nat}

/-- The result columns of the query, when the relations are gone through in this order. -/
def answerIn (order : List (String × List Bool)) (sql : String) : Option (List Bool) :=
  (order.find? fun entry => emptySelect entry.1 == sql).map Prod.snd

theorem answerIn_eq_some_iff (hn : (order.map Prod.fst).Nodup) :
    answerIn order sql = some flags ↔ ∃ name, emptySelect name = sql ∧ (name, flags) ∈ order := by
  rw [answerIn, Option.map_eq_some_iff]
  constructor
  · rintro ⟨⟨name, _⟩, hfind, rfl⟩
    have hname := List.find?_some hfind
    exact ⟨name, eq_of_beq hname, List.mem_of_find?_eq_some hfind⟩
  · rintro ⟨name, rfl, hmem⟩
    cases hfind : order.find? fun entry => emptySelect entry.1 == emptySelect name with
    | none =>
      have hnone := List.find?_eq_none.mp hfind _ hmem
      rw [beq_self_eq_true] at hnone
      exact absurd rfl hnone
    | some entry =>
      have hquery := List.find?_some hfind
      have hname : entry.1 = name := Access.emptySelect_inj.mp (eq_of_beq hquery)
      have hentry : entry = (name, flags) :=
        List.inj_on_of_nodup_map hn (List.mem_of_find?_eq_some hfind) hmem hname
      exact ⟨entry, rfl, congrArg Prod.snd hentry⟩

theorem answer?_eq_answerIn (s : Schema) (sql : String) :
    Access.answer? s sql = answerIn s.catalog.relations.pairs sql := by
  have hnames : s.relations.find? (fun relation => emptySelect relation == sql) =
      (s.catalog.relations.pairs.find? fun entry => emptySelect entry.1 == sql).map Prod.fst := List.find?_map ..
  rw [Access.answer?, hnames, answerIn]
  cases hfind : s.catalog.relations.pairs.find? fun entry => emptySelect entry.1 == sql with
  | none => rfl
  | some entry => exact (Assoc.mem_pairs _ _ _).mp (List.mem_of_find?_eq_some hfind)

/-- Only one relation has a given query. -/
theorem answer?_eq_some_iff : Access.answer? s sql = some flags ↔
    ∃ name, emptySelect name = sql ∧ s.relation? name = some flags := by
  rw [answer?_eq_answerIn, answerIn_eq_some_iff s.catalog.relations.keys_nodup]
  simp only [Assoc.mem_pairs]
  rfl

theorem answerIn_of_perm (h : order.Perm s.catalog.relations.pairs) (sql : String) :
    answerIn order sql = Access.answer? s sql := by
  have hn : (order.map Prod.fst).Nodup := (h.map Prod.fst).nodup_iff.mpr s.catalog.relations.keys_nodup
  apply Option.ext
  intro flags
  rw [answer?_eq_answerIn, answerIn_eq_some_iff hn, answerIn_eq_some_iff s.catalog.relations.keys_nodup]
  simp only [h.mem_iff]

theorem answer?_emptySelect (s : Schema) (relation : String) :
    Access.answer? s (emptySelect relation) = s.relation? relation := by
  apply Option.ext
  intro flags
  rw [answer?_eq_some_iff]
  constructor
  · rintro ⟨name, hname, hflags⟩
    rw [← Access.emptySelect_inj.mp hname, hflags]
  · exact fun hflags => ⟨relation, rfl, hflags⟩

theorem anyM_filled (hcalm : s.fails "is_auto_increment" = false) (hc : ∀ c ∈ columns, c < flags.length) :
    columns.anyM (s.filled flags) = .ok (columns.any fun c => flags[c]?.getD false) := by
  induction columns with
  | nil => rfl
  | cons c columns ih =>
    rw [List.forall_mem_cons] at hc
    have hlook : s.filled flags c = .ok (flags[c]?.getD false) := by
      rw [filled, hcalm, List.getElem?_eq_getElem hc.1]
      rfl
    rw [List.anyM_cons, hlook, List.any_cons]
    cases flags[c]?.getD false with
    | true => rfl
    | false => exact ih hc.2

theorem any_range (flags : List Bool) :
    ((List.range flags.length).any fun c => flags[c]?.getD false) = flags.any id := by
  rw [Bool.eq_iff_iff, List.any_eq_true, List.any_eq_true]
  constructor
  · rintro ⟨c, hc, hflag⟩
    rw [List.getElem?_eq_getElem (List.mem_range.mp hc)] at hflag
    exact ⟨_, List.getElem_mem _, hflag⟩
  · rintro ⟨flag, hmem, hflag⟩
    obtain ⟨c, hc, rfl⟩ := List.getElem_of_mem hmem
    refine ⟨c, List.mem_range.mpr hc, ?_⟩
    rw [List.getElem?_eq_getElem hc]
    exact hflag

theorem anyM_range_filled (s : Schema) (flags : List Bool) : (List.range flags.length).anyM (s.filled flags) =
    if s.fails "is_auto_increment" && !flags.isEmpty then .error (.dataAccess (.call "is_auto_increment"))
    else .ok (flags.any id) := by
  cases hcalm : s.fails "is_auto_increment" with
  | false => exact (anyM_filled hcalm fun _ => List.mem_range.mp).trans (congrArg Except.ok (any_range flags))
  | true =>
    cases flags with
    | nil => rfl
    | cons flag flags =>
      rw [List.length_cons, List.range_succ_eq_map, List.anyM_cons, filled, hcalm]
      rfl

theorem probed_eq (s : Schema) (relation : String) : s.probed relation =
    if s.fails "execute_query" then .error (.dataAccess (.call "execute_query"))
    else
      match s.relation? relation with
      | none => .error (.dataAccess (.noRelation (emptySelect relation)))
      | some flags =>
        if s.fails "is_auto_increment" && !flags.isEmpty then .error (.dataAccess (.call "is_auto_increment"))
        else .ok (flags.any id) := by
  rw [probed, answer?_emptySelect]
  cases s.relation? relation with
  | none => rfl
  | some flags => simp only [anyM_range_filled]

theorem probed_eq_ok_iff {relation : String} {found : Bool} : s.probed relation = .ok found ↔
    s.fails "execute_query" = false ∧ ∃ flags, s.relation? relation = some flags ∧
      (s.fails "is_auto_increment" = false ∨ flags = []) ∧ flags.any id = found := by
  rw [probed_eq]
  cases s.fails "execute_query" with
  | true => simp
  | false =>
    cases s.relation? relation with
    | none => simp
    | some flags =>
      cases s.fails "is_auto_increment" with
      | false => simp
      | true => cases flags <;> simp

/-- No column is asked for that is not there. -/
theorem probed_ne_columnOutOfRange (s : Schema) (relation : String) (column : Nat) :
    s.probed relation ≠ .error (.dataAccess (.columnOutOfRange column)) := by
  rw [probed_eq]
  split
  · nofun
  · split
    · nofun
    · split
      · nofun
      · nofun

end Schema

namespace Connection

theorem queries_probed (k : Connection) (relation : String) : (k.probed relation).queries =
    if k.schema.fails "execute_query" then k.queries else k.queries ++ [emptySelect relation] := by
  unfold probed
  split
  · rfl
  · cases Access.answer? k.schema (emptySelect relation) with
    | none => rfl
    | some flags => rfl

theorem openSets_probed (k : Connection) (relation : String) : (k.probed relation).openSets = k.openSets := by
  unfold probed
  split
  · rfl
  · cases Access.answer? k.schema (emptySelect relation) with
    | none => rfl
    | some flags => rfl

theorem sets_probed (k : Connection) (relation : String) :
    ∃ handed, (k.probed relation).sets = k.sets ++ handed ∧ ∀ set ∈ handed, set.closed = true := by
  unfold probed
  split
  · exact ⟨[], (List.append_nil _).symm, List.forall_mem_nil _⟩
  · cases Access.answer? k.schema (emptySelect relation) with
    | none => exact ⟨[], (List.append_nil _).symm, List.forall_mem_nil _⟩
    | some flags => exact ⟨_, rfl, List.forall_mem_singleton.mpr rfl⟩

end Connection

namespace Access

/-- A probe leaves no result set open, whatever the connection was asked before and however the probe
ends. It runs one query, unless no query can be run. It has an answer exactly if queries can be run, the
relation is one that the backend has, and its columns can be looked at or there are none; the answer is
whether one of the columns of this relation is filled, and the order in which the relations are gone
through does not matter. It never asks for a column that is not there. -/
theorem probe_releases (k : Connection) (relation : String) :
    (on k (probe relation)).2.openSets = k.openSets ∧
    (∃ handed, (on k (probe relation)).2.sets = k.sets ++ handed ∧ ∀ set ∈ handed, set.closed = true) ∧
    (on k (probe relation)).2.queries =
      (if k.schema.fails "execute_query" then k.queries else k.queries ++ [emptySelect relation]) ∧
    (∀ found, (on k (probe relation)).1 = .ok found ↔
      k.schema.fails "execute_query" = false ∧ ∃ flags, k.schema.relation? relation = some flags ∧
        (k.schema.fails "is_auto_increment" = false ∨ flags = []) ∧ flags.any id = found) ∧
    (∀ order : List (String × List Bool), order.Perm k.schema.catalog.relations.pairs →
      ∀ sql, Schema.answerIn order sql = answer? k.schema sql) ∧
    ∀ column, (on k (probe relation)).1 ≠ .error (.dataAccess (.columnOutOfRange column)) := by
  rw [on_probe]
  exact ⟨k.openSets_probed relation, k.sets_probed relation, k.queries_probed relation,
    fun _ => Schema.probed_eq_ok_iff, fun _ => Schema.answerIn_of_perm,
    k.schema.probed_ne_columnOutOfRange relation⟩

def unreadable : Connection where
  schema := ⟨[.autoIncrement "app.orders" [false, true], .autoIncrement "app.notes" [],
    .failOn "is_auto_increment"]⟩
  sets := [{ flags := [true] }, { flags := [], closed := true }]
  openSets := 1

/-- A relation without columns is answered for, and one with columns is not; either way the result sets
that were open are the ones that still are. -/
theorem probe_releases_unreadable :
    (on unreadable (probe "app.orders")).2.openSets = 1 ∧
    (∀ found, (on unreadable (probe "app.orders")).1 ≠ .ok found) ∧
    (on unreadable (probe "app.notes")).2.openSets = 1 ∧ (on unreadable (probe "app.notes")).1 = .ok false ∧
    Schema.answerIn [("app.notes", []), ("app.orders", [false, true])] (emptySelect "app.orders") =
      answer? unreadable.schema (emptySelect "app.orders") := by
  obtain ⟨hopen, -, -, hanswered, horder, -⟩ := probe_releases unreadable "app.orders"
  obtain ⟨hopen', -, -, hanswered', -⟩ := probe_releases unreadable "app.notes"
  have hpairs : unreadable.schema.catalog.relations.pairs = [("app.orders", [false, true]), ("app.notes", [])] := by
    decide
  refine ⟨hopen, fun found hfound => ?_, hopen', (hanswered' false).mpr ⟨rfl, [], rfl, .inr rfl, rfl⟩,
    horder _ ?_ _⟩
  · obtain ⟨-, flags, hflags, hread | rfl, -⟩ := (hanswered found).mp hfound
    · exact absurd hread (by decide)
    · exact absurd hflags (by decide)
  · rw [hpairs]
    exact List.Perm.swap ..

end Access
end Resync

import Resync.Proofs.Connection.Probe

/-! # What a script says about a topic

Every clause but those that make a call fail is about one topic: a setting, the list of tables, one
kind of rows of one table, or one relation. What a catalog has on a topic comes from the clauses
about it, in their order, and from no others, so two scripts that agree about a topic have the same
on it. Which calls fail does not depend on the order of the clauses at all.
-/
namespace Resync

open Identifier (CasePolicy)

inductive Topic where
  | quoteString
  | keywords
  | extraNameCharacters
  | casePolicy
  | qualification
  | selectForUpdate
  | tables
  | columns (key : TableKey)
  | primaryKeys (key : TableKey)
  | importedKeys (key : TableKey)
  | indexes (key : TableKey)
  | relation (name : String)
  deriving DecidableEq, Repr

def Topic.table? : Topic → Option TableKey
  | .columns key | .primaryKeys key | .importedKeys key | .indexes key => some key
  | _ => none

def Clause.topic? : Clause → Option Topic
  | .quoteString _ => some .quoteString
  | .keywords _ => some .keywords
  | .extraNameCharacters _ => some .extraNameCharacters
  | .casePolicy _ => some .casePolicy
  | .qualification _ _ => some .qualification
  | .selectForUpdate _ => some .selectForUpdate
  | .table _ => some .tables
  | .column s t _ => some (.columns (s, t))
  | .primaryKey s t _ _ => some (.primaryKeys (s, t))
  | .foreignKey s t _ _ _ _ _ => some (.importedKeys (s, t))
  | .importedKey s t _ => some (.importedKeys (s, t))
  | .uniqueIndex s t _ _ => some (.indexes (s, t))
  | .index s t _ => some (.indexes (s, t))
  | .autoIncrement relation _ => some (.relation relation)
  | .failOn _ => none

def Clause.table? (clause : Clause) : Option TableKey := clause.topic?.bind Topic.table?

@[reducible] def Topic.Content : Topic → Type
  | .quoteString | .extraNameCharacters => String
  | .keywords => List String
  | .casePolicy => CasePolicy
  | .qualification => Bool × Bool
  | .selectForUpdate => Bool
  | .tables => List TableRow
  | .columns _ => Option (List ColumnRow)
  | .primaryKeys _ => Option (List PrimaryKeyRow)
  | .importedKeys _ => Option (List ImportedKeyRow)
  | .indexes _ => Option (List IndexRow)
  | .relation _ => Option (List Bool)

namespace Catalog

variable {α : Type} {topic : Topic} {clause : Clause} {c c' : Catalog}

def content (c : Catalog) : (topic : Topic) → topic.Content
  | .quoteString => c.quoteString
  | .keywords => c.keywords
  | .extraNameCharacters => c.extraNameCharacters
  | .casePolicy => c.casePolicy
  | .qualification => (c.schemasInDml, c.schemasInDdl)
  | .selectForUpdate => c.selectForUpdate
  | .tables => c.tables
  | .columns key => c.columns.get? key
  | .primaryKeys key => c.primaryKeys.get? key
  | .importedKeys key => c.importedKeys.get? key
  | .indexes key => c.indexes.get? key
  | .relation name => c.relations.get? name

theorem get?_append (m : Assoc TableKey (List α)) (schema table : String) (rows : List α) (key : TableKey) :
    (append m schema table rows).get? key =
      if (schema, table) = key then some ((m.get? key).getD [] ++ rows) else m.get? key := by
  rw [append, Assoc.update, Assoc.get?_insert]
  split
  · rename_i hkey
    rw [hkey]
  · rfl

theorem get?_append_ne {m : Assoc TableKey (List α)} {schema table : String} {rows : List α} {key : TableKey}
    (h : (schema, table) ≠ key) : (append m schema table rows).get? key = m.get? key := by
  rw [get?_append, if_neg h]

theorem get?_append_congr {m m' : Assoc TableKey (List α)} {schema table : String} {rows : List α}
    (h : m.get? (schema, table) = m'.get? (schema, table)) :
    (append m schema table rows).get? (schema, table) = (append m' schema table rows).get? (schema, table) := by
  rw [get?_append, get?_append, h]

theorem content_add_of_ne (h : clause.topic? ≠ some topic) : (c.add clause).content topic = c.content topic := by
  cases clause with
  | column =>
    cases topic with
    | columns key => exact get?_append_ne fun hkey => h (congrArg (some ∘ Topic.columns) hkey)
    | _ => rfl
  | primaryKey =>
    cases topic with
    | primaryKeys key => exact get?_append_ne fun hkey => h (congrArg (some ∘ Topic.primaryKeys) hkey)
    | _ => rfl
  | foreignKey | importedKey =>
    cases topic with
    | importedKeys key => exact get?_append_ne fun hkey => h (congrArg (some ∘ Topic.importedKeys) hkey)
    | _ => rfl
  | uniqueIndex | index =>
    cases topic with
    | indexes key => exact get?_append_ne fun hkey => h (congrArg (some ∘ Topic.indexes) hkey)
    | _ => rfl
  | autoIncrement relation flags =>
    cases topic with
    | relation name =>
      have hname : relation ≠ name := fun he => h (congrArg (some ∘ Topic.relation) he)
      change (c.relations.insert relation flags).get? name = c.relations.get? name
      rw [Assoc.get?_insert, if_neg hname]
    | _ => rfl
  | _ => cases topic <;> first | rfl | exact absurd rfl h

theorem content_add (h : clause.topic? = some topic) (hc : c.content topic = c'.content topic) :
    (c.add clause).content topic = (c'.add clause).content topic := by
  cases clause with
  | table row =>
    cases h
    exact congrArg (· ++ [row]) hc
  | column | primaryKey | foreignKey | importedKey | uniqueIndex | index =>
    cases h
    exact get?_append_congr hc
  | autoIncrement relation flags =>
    cases h
    change (c.relations.insert relation flags).get? relation = (c'.relations.insert relation flags).get? relation
    rw [Assoc.get?_insert, Assoc.get?_insert, if_pos rfl, if_pos rfl]
  | failOn call => cases h
  | _ =>
    cases h
    rfl

/-- The clauses about a topic settle what is known on it. -/
theorem content_foldl (script : List Clause) (hc : c.content topic = c'.content topic) :
    (script.foldl add c).content topic =
      ((script.filter fun clause => clause.topic? = some topic).foldl add c').content topic := by
  induction script generalizing c c' with
  | nil => exact hc
  | cons clause script ih =>
    rw [List.filter_cons]
    split
    · rename_i ht
      exact ih (content_add (of_decide_eq_true ht) hc)
    · rename_i ht
      exact ih ((content_add_of_ne fun h => ht (decide_eq_true h)).trans hc)

theorem mem_failing_foldl {call : String} (script : List Clause) (c : Catalog) :
    call ∈ (script.foldl add c).failing ↔ call ∈ c.failing ∨ .failOn call ∈ script := by
  induction script generalizing c with
  | nil => simp
  | cons clause script ih =>
    rw [List.foldl_cons, ih, List.mem_cons]
    cases clause with
    | failOn failed => simp [add, or_assoc, or_left_comm]
    | _ => simp [add]

theorem mem_tables_foldl {row : TableRow} (script : List Clause) (c : Catalog) :
    row ∈ (script.foldl add c).tables ↔ row ∈ c.tables ∨ .table row ∈ script := by
  induction script generalizing c with
  | nil => simp
  | cons clause script ih =>
    rw [List.foldl_cons, ih, List.mem_cons]
    cases clause with
    | table other => simp [add, or_assoc]
    | _ => simp [add]

end Catalog

namespace Schema

variable {s s' : Schema} {topic : Topic} {key : TableKey}

theorem fails_iff {call : String} : s.fails call = true ↔ .failOn call ∈ s.script := by
  rw [Schema.fails, List.contains_iff_mem, catalog, Catalog.mem_failing_foldl]
  exact or_iff_right List.not_mem_nil

theorem mem_tableRows {row : TableRow} : row ∈ s.tableRows ↔ .table row ∈ s.script := by
  rw [tableRows, catalog, Catalog.mem_tables_foldl]
  exact or_iff_right List.not_mem_nil

/-- The clauses about the topic, in their order. -/
def about (s : Schema) (topic : Topic) : List Clause := s.script.filter fun clause => clause.topic? = some topic

/-- The clauses that do not add rows to the table, in their order. -/
def elsewhere (s : Schema) (key : TableKey) : List Clause := s.script.filter fun clause => clause.table? ≠ some key

/-- The two scripts have the same clauses, and those about one topic in the same order. -/
structure Reordered (s s' : Schema) : Prop where
  perm : s.script.Perm s'.script
  about : ∀ topic, s.about topic = s'.about topic

theorem mem_about {clause : Clause} : clause ∈ s.about topic ↔ clause ∈ s.script ∧ clause.topic? = some topic := by
  rw [about, List.mem_filter, decide_eq_true_iff]

/-- It is enough to look at the topics that the script has clauses about. -/
theorem reordered_iff : s.Reordered s' ↔ s.script.Perm s'.script ∧
    ∀ clause ∈ s.script, ∀ topic ∈ clause.topic?, s.about topic = s'.about topic := by
  refine ⟨fun h => ⟨h.perm, fun _ _ topic _ => h.about topic⟩, fun ⟨hperm, habout⟩ => ⟨hperm, fun topic => ?_⟩⟩
  have hfilter : (s.about topic).Perm (s'.about topic) := hperm.filter _
  cases hclauses : s.about topic with
  | nil =>
    rw [hclauses] at hfilter
    exact (List.nil_perm.mp hfilter).symm
  | cons clause clauses =>
    rw [← hclauses]
    have hmem : clause ∈ s.about topic := hclauses ▸ List.mem_cons_self
    obtain ⟨hscript, htopic⟩ := mem_about.mp hmem
    exact habout clause hscript topic htopic

instance : Decidable (s.Reordered s') := decidable_of_iff _ reordered_iff.symm

/-- The two scripts have the same to say on these topics, and they make the same calls fail. -/
structure AgreeOn (topics : Topic → Prop) (s s' : Schema) : Prop where
  about : ∀ topic, topics topic → s.about topic = s'.about topic
  failing : ∀ call, Clause.failOn call ∈ s.script ↔ Clause.failOn call ∈ s'.script

theorem Reordered.agreeOn (h : s.Reordered s') (topics : Topic → Prop) : AgreeOn topics s s' :=
  ⟨fun topic _ => h.about topic, fun _ => h.perm.mem_iff⟩

theorem about_elsewhere (h : topic.table? ≠ some key) :
    (s.elsewhere key).filter (fun clause => clause.topic? = some topic) = s.about topic := by
  rw [elsewhere, List.filter_filter]
  apply List.filter_congr
  intro clause _
  by_cases ht : clause.topic? = some topic
  · simp [ht, Clause.table?, h]
  · simp [ht]

theorem failOn_mem_elsewhere {call : String} : .failOn call ∈ s.elsewhere key ↔ .failOn call ∈ s.script := by
  rw [elsewhere, List.mem_filter]
  exact and_iff_left (decide_eq_true (by nofun))

theorem agreeOn_of_elsewhere (h : s.elsewhere key = s'.elsewhere key) :
    AgreeOn (fun topic => topic.table? ≠ some key) s s' where
  about topic ht := by rw [← about_elsewhere ht, h, about_elsewhere ht]
  failing call := by rw [← @failOn_mem_elsewhere s key, h, failOn_mem_elsewhere]

namespace AgreeOn

variable {topics : Topic → Prop}

theorem mono {topics' : Topic → Prop} (h : AgreeOn topics s s') (ht : ∀ topic, topics' topic → topics topic) :
    AgreeOn topics' s s' := ⟨fun topic hp => h.about topic (ht topic hp), h.failing⟩

theorem fails (h : AgreeOn topics s s') (call : String) : s.fails call = s'.fails call := by
  rw [Bool.eq_iff_iff, fails_iff, fails_iff, h.failing]

theorem content (h : AgreeOn topics s s') (ht : topics topic) :
    s.catalog.content topic = s'.catalog.content topic := by
  rw [catalog, catalog, Catalog.content_foldl s.script rfl, Catalog.content_foldl s'.script rfl]
  exact congrArg (fun script => (List.foldl Catalog.add {} script).content topic) (h.about topic ht)

section Answers

variable {schema table : String}

theorem columnRows (h : AgreeOn topics s s') (ht : topics (.columns (schema, table))) :
    s.columnRows schema table = s'.columnRows schema table := congrArg (·.getD []) (h.content ht)

theorem primaryKeyRows (h : AgreeOn topics s s') (ht : topics (.primaryKeys (schema, table))) :
    s.primaryKeyRows schema table = s'.primaryKeyRows schema table := congrArg (·.getD []) (h.content ht)

theorem importedKeyRows (h : AgreeOn topics s s') (ht : topics (.importedKeys (schema, table))) :
    s.importedKeyRows schema table = s'.importedKeyRows schema table := congrArg (·.getD []) (h.content ht)

theorem indexRows (h : AgreeOn topics s s') (ht : topics (.indexes (schema, table))) :
    s.indexRows schema table = s'.indexRows schema table := congrArg (·.getD []) (h.content ht)

theorem answer? {sql : String} (h : AgreeOn topics s s')
    (ht : ∀ name, Access.emptySelect name = sql → topics (.relation name)) :
    Access.answer? s sql = Access.answer? s' sql := by
  apply Option.ext
  intro flags
  rw [answer?_eq_some_iff, answer?_eq_some_iff]
  apply exists_congr
  intro name
  apply and_congr_right
  intro hname
  have hrelation : s.relation? name = s'.relation? name := h.content (ht name hname)
  rw [hrelation]

end Answers

end AgreeOn
end Schema
end Resync

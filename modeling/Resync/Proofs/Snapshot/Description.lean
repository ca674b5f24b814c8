import Resync.Proofs.Connection.Answers

/-! # What a snapshot describes

Taking a snapshot is a series of calls. If the schema makes none of them fail, the snapshot is a
function of the schema: every part of it is made of the rows that the schema has, one entry for
each row of a proper table.
-/
namespace Resync

open Identifier (Facts)

namespace Schema

def loaded (s : Schema) : Except Error Snapshot := (Access.on { schema := s } Snapshot.load).1

def facts (s : Schema) : Facts :=
  Facts.ofReport s.quoteString s.keywords s.extraNameCharacters s.casePolicy

def properTables (s : Schema) : List TableRow := s.tableRows.filter fun row => row.type = "TABLE"

def uniqueRows (s : Schema) (schema table : String) : List IndexRow :=
  (s.indexRows schema table).filter fun row => !row.nonUnique

def entry (s : Schema) (f : Facts) (inDml inDdl : Bool) (row : TableRow) : Table where
  schema := f.quote row.schema
  name := f.quote row.name
  dml := qualify inDml (f.quote row.schema) (f.quote row.name)
  ddl := qualify inDdl (f.quote row.schema) (f.quote row.name)
  columns := columnsOfRows f (s.columnRows row.schema row.name)
  primaryKey := primaryKeyOfRows f row.schema row.name (s.primaryKeyRows row.schema row.name)
  foreignKeys := foreignKeysOfRows f row.schema row.name (s.importedKeyRows row.schema row.name)
  uniqueConstraints := uniqueConstraintsOfRows f row.schema row.name (s.uniqueRows row.schema row.name)

def tableOf (s : Schema) (row : TableRow) : Table := s.entry s.facts s.schemasInDml s.schemasInDdl row

def described (s : Schema) : Snapshot where
  facts := s.facts
  schemas := tablesBySchema s.facts s.properTables
  tables := s.properTables.map s.tableOf
  selectForUpdate := s.selectForUpdate
  schemasInDml := s.schemasInDml
  schemasInDdl := s.schemasInDdl

def tableCalls : List String := ["columns", "primary_keys", "imported_keys", "index_info"]

def loadCalls (s : Schema) : List String :=
  ["identifier_quote_string", "sql_keywords", "extra_name_characters", "tables"] ++
    s.properTables.flatMap fun _ => tableCalls

end Schema

namespace Access

variable {f : Facts} {schema table : String}

theorem tells_facts : Tells Introspection.facts
    (fun _ => ["identifier_quote_string", "sql_keywords", "extra_name_characters"]) Schema.facts :=
  (tells_ask _ _).bind fun _ => (tells_ask _ _).bind fun _ => (tells_ask _ _).bind fun _ =>
    (tells_read _).bind fun _ => tells_pure _

theorem tells_tableRows :
    Tells Introspection.tableRows (fun _ => ["tables"]) Schema.properTables := by
  refine (tells_ask _ _).congr (fun s => rfl) (fun s => List.filter_congr fun row _ => ?_)
  simp

theorem tells_columns : Tells (Introspection.columns f schema table) (fun _ => ["columns"])
    (fun s => columnsOfRows f (s.columnRows schema table)) :=
  (tells_ask _ _).map

theorem tells_primaryKey : Tells (Introspection.primaryKey f schema table) (fun _ => ["primary_keys"])
    (fun s => primaryKeyOfRows f schema table (s.primaryKeyRows schema table)) :=
  (tells_ask _ _).map

theorem tells_foreignKeys : Tells (Introspection.foreignKeys f schema table) (fun _ => ["imported_keys"])
    (fun s => foreignKeysOfRows f schema table (s.importedKeyRows schema table)) :=
  (tells_ask _ _).map

theorem tells_uniqueConstraints :
    Tells (Introspection.uniqueConstraints f schema table) (fun _ => ["index_info"])
      (fun s => uniqueConstraintsOfRows f schema table (s.uniqueRows schema table)) :=
  (tells_ask _ _).map

theorem tells_qualifyDml : Tells (Introspection.qualifyDml schema table) (fun _ => [])
    (fun s => qualify s.schemasInDml schema table) :=
  (tells_read _).map

theorem tells_qualifyDdl : Tells (Introspection.qualifyDdl schema table) (fun _ => [])
    (fun s => qualify s.schemasInDdl schema table) :=
  (tells_read _).map

theorem tells_loadTable (inDml inDdl : Bool) (row : TableRow) :
    Tells (Snapshot.loadTable f inDml inDdl row) (fun _ => Schema.tableCalls)
      (fun s => s.entry f inDml inDdl row) :=
  tells_columns.bind fun _ => tells_primaryKey.bind fun _ => tells_foreignKeys.bind fun _ =>
    tells_uniqueConstraints.bind fun _ => tells_pure _

theorem tells_load : Tells Snapshot.load Schema.loadCalls Schema.described := by
  refine (tells_facts.bind fun _ => (tells_read _).bind fun _ => (tells_read _).bind fun _ =>
    (tells_read _).bind fun _ => tells_tableRows.bind fun rows =>
      (tells_mapM (tells_loadTable _ _) rows).bind fun _ => tells_pure _).congr
    (fun s => ?_) (fun s => rfl)
  rw [Schema.loadCalls, List.append_nil]
  rfl

/-- Every connection to a backend gives the same snapshot of it, or the same error. -/
theorem on_load (k : Connection) : on k Snapshot.load = (k.schema.loaded, k) := by
  rw [Schema.loaded, tells_load, tells_load]

end Access

theorem Cache.on_get (k : Cache) (backend : String) (c : Connection) : (Access.on c (k.get backend)).2 = c := by
  unfold Cache.get
  cases k.entries.get? backend with
  | some n => rfl
  | none =>
    simp only
    rw [Access.on_bind, Access.on_load]
    cases c.schema.loaded with
    | error e => rfl
    | ok p => rfl

namespace Schema

theorem loaded_eq_ok_iff {s : Schema} {p : Snapshot} :
    s.loaded = .ok p ↔ (∀ call ∈ s.loadCalls, s.fails call = false) ∧ s.described = p := by
  rw [loaded, Access.tells_load, reply_eq_ok_iff]

end Schema

theorem Snapshot.load_eq_ok_iff {k : Connection} {p : Snapshot} :
    (Access.on k load).1 = .ok p ↔
      (∀ call ∈ k.schema.loadCalls, k.schema.fails call = false) ∧ k.schema.described = p := by
  rw [Access.on_load, Schema.loaded_eq_ok_iff]

end Resync

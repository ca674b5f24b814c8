import Resync.Connection
import Resync.Snapshot.Basic
import Resync.Snapshot.Listing

/-! # Introspection

From catalog rows to the parts of a snapshot. Rows are grouped by the written form of
their names, in order of first appearance; what belongs to a key as a whole is taken
from its first row.
-/
namespace Resync

open Identifier (Facts)

/-- The columns by written name; of two rows with one name the last counts. -/
def columnsOfRows (f : Facts) (rows : List ColumnRow) : Assoc String Column :=
  Assoc.ofList (rows.map fun r => (f.quote r.name, ⟨f.quote r.name, r.dataType, r.typeName⟩))

def primaryKeyOfRows (f : Facts) (schema table : String) :
    List PrimaryKeyRow → Option UniqueConstraint
  | [] => none
  | first :: rest =>
    some {
      name := f.quote first.keyName
      schema := f.quote schema
      table := f.quote table
      columns := (first :: rest).map fun r => f.quote r.column }

def foreignKeyOfRow (f : Facts) (schema table : String) (row : ImportedKeyRow) : ForeignKey where
  name := f.quote row.keyName
  schema := f.quote schema
  table := f.quote table
  foreignSchema := f.quote row.foreignSchema
  foreignTable := f.quote row.foreignTable
  columns := []
  foreignColumns := []
  deleteRule := row.deleteRule
  updateRule := row.updateRule
  deferrability := row.deferrability

def foreignKeyListing (f : Facts) (schema table : String) (rows : List ImportedKeyRow) :
    Listing ForeignKey :=
  Listing.gather (fun row => f.quote row.keyName) (foreignKeyOfRow f schema table)
    (fun row key => key.push (f.quote row.column) (f.quote row.foreignColumn)) rows

def foreignKeysOfRows (f : Facts) (schema table : String) (rows : List ImportedKeyRow) :
    List ForeignKey :=
  (foreignKeyListing f schema table rows).entries

/-- The index and the column that a row names, if it describes a member of an index. -/
def IndexRow.member? (row : IndexRow) : Option (String × String) :=
  if row.type = Code.statistic then none
  else
    match row.name, row.column with
    | some name, some column => some (name, column)
    | _, _ => none

def uniqueConstraintsOfRows (f : Facts) (schema table : String) (rows : List IndexRow) :
    List UniqueConstraint :=
  (Listing.gather (fun member => f.quote member.1)
    (fun member => ⟨f.quote member.1, f.quote schema, f.quote table, []⟩)
    (fun member key => key.push member.2) (rows.filterMap IndexRow.member?)).entries

def tablesBySchema (f : Facts) (rows : List TableRow) : Assoc String (List String) :=
  rows.foldl (fun m r => m.update (f.quote r.schema) [] (· ++ [f.quote r.name])) ∅

namespace Introspection

def facts : Access Facts := do
  let quoteString ← Access.identifierQuoteString
  let keywords ← Access.sqlKeywords
  let extra ← Access.extraNameCharacters
  let policy ← Access.casePolicy
  pure (Facts.ofReport quoteString keywords extra policy)

/-- The rows of proper tables; views and the like are left out. -/
def tableRows : Access (List TableRow) := Access.tables ["TABLE"]

def tables (f : Facts) : Access (Assoc String (List String)) := do
  pure (tablesBySchema f (← tableRows))

def columns (f : Facts) (schema table : String) : Access (Assoc String Column) := do
  pure (columnsOfRows f (← Access.columns schema table))

def primaryKey (f : Facts) (schema table : String) : Access (Option UniqueConstraint) := do
  pure (primaryKeyOfRows f schema table (← Access.primaryKeys schema table))

def foreignKeys (f : Facts) (schema table : String) : Access (List ForeignKey) := do
  pure (foreignKeysOfRows f schema table (← Access.importedKeys schema table))

def uniqueConstraints (f : Facts) (schema table : String) : Access (List UniqueConstraint) := do
  pure (uniqueConstraintsOfRows f schema table (← Access.indexInfo schema table true))

def qualifyDml (schema table : String) : Access String := do
  pure (qualify (← Access.schemasInDml) schema table)

def qualifyDdl (schema table : String) : Access String := do
  pure (qualify (← Access.schemasInDdl) schema table)

end Introspection

namespace Snapshot

def loadTable (f : Facts) (inDml inDdl : Bool) (row : TableRow) : Access Table := do
  let columns ← Introspection.columns f row.schema row.name
  let primaryKey ← Introspection.primaryKey f row.schema row.name
  let foreignKeys ← Introspection.foreignKeys f row.schema row.name
  let uniqueConstraints ← Introspection.uniqueConstraints f row.schema row.name
  let schema := f.quote row.schema
  let name := f.quote row.name
  pure {
    schema, name, columns, primaryKey, foreignKeys, uniqueConstraints
    dml := qualify inDml schema name
    ddl := qualify inDdl schema name }

/-- The snapshot of the backend behind a connection; the first failing call fails it. -/
def load : Access Snapshot := do
  let facts ← Introspection.facts
  let selectForUpdate ← Access.selectForUpdate
  let schemasInDml ← Access.schemasInDml
  let schemasInDdl ← Access.schemasInDdl
  let rows ← Introspection.tableRows
  let tables ← rows.mapM (loadTable facts schemasInDml schemasInDdl)
  pure {
    facts, selectForUpdate, schemasInDml, schemasInDdl, tables
    schemas := tablesBySchema facts rows }

end Snapshot
end Resync

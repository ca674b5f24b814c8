import Resync.Assoc
import Resync.Identifier.Quoting
import Resync.Schema.Row

/-! # Scripted schemas

A backend is described by a script, a list of clauses. Its catalog is made clause by
clause: a setting is overwritten, and rows go behind those that the table has already.
Every question about the backend is answered from the catalog.
-/
namespace Resync

open Identifier (CasePolicy)

inductive Clause where
  | quoteString (s : String)
  | keywords (words : List String)
  | extraNameCharacters (s : String)
  | casePolicy (p : CasePolicy)
  | qualification (dml ddl : Bool)
  | selectForUpdate (supported : Bool)
  | table (row : TableRow)
  | column (schema table : String) (row : ColumnRow)
  | primaryKey (schema table name : String) (columns : List String)
  /-- The rows of a foreign key, one for each pair of columns: deleting cascades, updating
  is restricted, and the check cannot be deferred. -/
  | foreignKey (schema table name : String) (columns : List String)
      (foreignSchema foreignTable : String) (foreignColumns : List String)
  | importedKey (schema table : String) (row : ImportedKeyRow)
  | uniqueIndex (schema table name : String) (columns : List String)
  | index (schema table : String) (row : IndexRow)
  /-- The result columns of a query on the table expression, `true` for those that the
  backend fills by itself. -/
  | autoIncrement (relation : String) (flags : List Bool)
  | failOn (call : String)
  deriving DecidableEq, Repr

def IndexRow.statistics : IndexRow := ⟨none, Code.statistic, false, none, 0⟩

abbrev TableKey := String × String

/-- The sequence numbers of key columns are words of sixteen bits. -/
def keySeq (i : Nat) : Int := Int.bmod (i + 1 : Nat) 65536

/-- What a backend has to answer with. One without clauses folds unquoted identifiers to
lower case, takes schemas everywhere, and has no tables. -/
structure Catalog where
  quoteString : String := "\""
  keywords : List String := []
  extraNameCharacters : String := ""
  casePolicy : CasePolicy := ⟨false, true, true, false⟩
  schemasInDml : Bool := true
  schemasInDdl : Bool := true
  selectForUpdate : Bool := true
  tables : List TableRow := []
  columns : Assoc TableKey (List ColumnRow) := ∅
  primaryKeys : Assoc TableKey (List PrimaryKeyRow) := ∅
  importedKeys : Assoc TableKey (List ImportedKeyRow) := ∅
  indexes : Assoc TableKey (List IndexRow) := ∅
  relations : Assoc String (List Bool) := ∅
  failing : List String := []

namespace Catalog

def append {α : Type} (m : Assoc TableKey (List α)) (schema table : String) (rows : List α) :
    Assoc TableKey (List α) :=
  m.update (schema, table) [] (· ++ rows)

def add (c : Catalog) : Clause → Catalog
  | .quoteString q => { c with quoteString := q }
  | .keywords words => { c with keywords := words }
  | .extraNameCharacters chars => { c with extraNameCharacters := chars }
  | .casePolicy p => { c with casePolicy := p }
  | .qualification dml ddl => { c with schemasInDml := dml, schemasInDdl := ddl }
  | .selectForUpdate supported => { c with selectForUpdate := supported }
  | .table row => { c with tables := c.tables ++ [row] }
  | .column s t row => { c with columns := append c.columns s t [row] }
  | .primaryKey s t name columns =>
    { c with
      primaryKeys := append c.primaryKeys s t (columns.mapIdx fun i column => ⟨name, column, keySeq i⟩) }
  | .foreignKey s t name columns fs ft foreignColumns =>
    { c with
      importedKeys := append c.importedKeys s t
        ((columns.zip foreignColumns).mapIdx fun i (column, foreignColumn) =>
          ⟨name, fs, ft, foreignColumn, column, keySeq i, Code.restrict, Code.cascade, Code.notDeferrable⟩) }
  | .importedKey s t row => { c with importedKeys := append c.importedKeys s t [row] }
  | .uniqueIndex s t name columns =>
    { c with
      indexes := append c.indexes s t
        (columns.mapIdx fun i column => ⟨some name, Code.otherIndex, false, some column, keySeq i⟩) }
  | .index s t row => { c with indexes := append c.indexes s t [row] }
  | .autoIncrement relation flags => { c with relations := c.relations.insert relation flags }
  | .failOn call => { c with failing := call :: c.failing }

end Catalog

structure Schema where
  script : List Clause
  deriving DecidableEq, Repr

namespace Schema

def catalog (s : Schema) : Catalog := s.script.foldl Catalog.add {}

def quoteString (s : Schema) : String := s.catalog.quoteString

def keywords (s : Schema) : List String := s.catalog.keywords

def extraNameCharacters (s : Schema) : String := s.catalog.extraNameCharacters

def casePolicy (s : Schema) : CasePolicy := s.catalog.casePolicy

def schemasInDml (s : Schema) : Bool := s.catalog.schemasInDml

def schemasInDdl (s : Schema) : Bool := s.catalog.schemasInDdl

def selectForUpdate (s : Schema) : Bool := s.catalog.selectForUpdate

def tableRows (s : Schema) : List TableRow := s.catalog.tables

def columnRows (s : Schema) (schema table : String) : List ColumnRow :=
  (s.catalog.columns.get? (schema, table)).getD []

def primaryKeyRows (s : Schema) (schema table : String) : List PrimaryKeyRow :=
  (s.catalog.primaryKeys.get? (schema, table)).getD []

def importedKeyRows (s : Schema) (schema table : String) : List ImportedKeyRow :=
  (s.catalog.importedKeys.get? (schema, table)).getD []

def indexRows (s : Schema) (schema table : String) : List IndexRow :=
  (s.catalog.indexes.get? (schema, table)).getD []

def relation? (s : Schema) (name : String) : Option (List Bool) := s.catalog.relations.get? name

def relations (s : Schema) : List String := s.catalog.relations.keys

def fails (s : Schema) (call : String) : Bool := s.catalog.failing.contains call

end Schema
end Resync

import Resync.Assoc
import Resync.Identifier.Quoting

/-! # Snapshots

What is known about a backend after one look at its catalog. The names of schemas,
tables, columns and constraints are kept as they are written in statements; only the
member columns of unique constraints stay as the backend reports them.
-/
namespace Resync

structure Column where
  name : String
  dataType : Int
  nativeType : String
  deriving DecidableEq, Repr

structure UniqueConstraint where
  name : String
  schema : String
  table : String
  columns : List String
  deriving DecidableEq, Repr

def UniqueConstraint.push (key : UniqueConstraint) (column : String) : UniqueConstraint :=
  { key with columns := key.columns ++ [column] }

structure ForeignKey where
  name : String
  schema : String
  table : String
  foreignSchema : String
  foreignTable : String
  columns : List String
  /-- The referenced columns, in the order of `columns`. -/
  foreignColumns : List String
  deleteRule : Int
  updateRule : Int
  deferrability : Int
  deriving DecidableEq, Repr

def ForeignKey.push (key : ForeignKey) (column foreignColumn : String) : ForeignKey :=
  { key with
    columns := key.columns ++ [column]
    foreignColumns := key.foreignColumns ++ [foreignColumn] }

structure Table where
  schema : String
  name : String
  /-- The table's name in statements on rows. -/
  dml : String
  /-- The table's name in statements on definitions. -/
  ddl : String
  columns : Assoc String Column
  primaryKey : Option UniqueConstraint
  foreignKeys : List ForeignKey
  uniqueConstraints : List UniqueConstraint

structure Snapshot where
  facts : Identifier.Facts
  schemas : Assoc String (List String)
  tables : List Table
  selectForUpdate : Bool
  schemasInDml : Bool
  schemasInDdl : Bool

/-- A table's name, behind its schema's name if the backend takes schemas there. -/
def qualify (supported : Bool) (schema table : String) : String :=
  if supported then schema ++ "." ++ table else table

namespace Snapshot

def table? (s : Snapshot) (schema name : String) : Option Table :=
  s.tables.find? fun t => t.schema == schema && t.name == name

def qualifyDml (s : Snapshot) (schema table : String) : String :=
  qualify s.schemasInDml schema table

def qualifyDdl (s : Snapshot) (schema table : String) : String :=
  qualify s.schemasInDdl schema table

end Snapshot
end Resync

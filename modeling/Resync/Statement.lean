import Resync.Schema.Row
import Resync.Snapshot.Basic

/-! # Statements

The SQL texts by which a job changes a table and its constraints. Names are put into the
text as the snapshot has them, which is the written form except for the members of unique
constraints; tables are qualified as the snapshot's backend takes them. A code without a
meaning adds no clause.
-/
namespace Resync

def referentialAction? (code : Int) : Option String :=
  if code = Code.cascade then some "CASCADE"
  else if code = Code.restrict then some "RESTRICT"
  else if code = Code.setNull then some "SET NULL"
  else if code = Code.noAction then some "NO ACTION"
  else if code = Code.setDefault then some "SET DEFAULT"
  else none

def deferrability? (code : Int) : Option String :=
  if code = Code.initiallyDeferred then some "DEFERRABLE INITIALLY DEFERRED"
  else if code = Code.initiallyImmediate then some "DEFERRABLE INITIALLY IMMEDIATE"
  else if code = Code.notDeferrable then some "NOT DEFERRABLE"
  else none

def clause (keyword : String) (text : Option String) : String :=
  text.elim "" fun t => keyword ++ t

def nameList (names : List String) : String := "(" ++ ", ".intercalate names ++ ")"

namespace Statement

def createForeignKey (s : Snapshot) (k : ForeignKey) : String :=
  "ALTER TABLE " ++ s.qualifyDdl k.schema k.table ++ " ADD CONSTRAINT " ++ k.name
    ++ " FOREIGN KEY " ++ nameList k.columns
    ++ " REFERENCES " ++ s.qualifyDdl k.foreignSchema k.foreignTable ++ " "
    ++ nameList k.foreignColumns
    ++ clause " ON DELETE " (referentialAction? k.deleteRule)
    ++ clause " ON UPDATE " (referentialAction? k.updateRule)
    ++ clause " " (deferrability? k.deferrability)

def dropConstraint (s : Snapshot) (schema table name : String) : String :=
  "ALTER TABLE " ++ s.qualifyDdl schema table ++ " DROP CONSTRAINT " ++ name

def dropForeignKey (s : Snapshot) (k : ForeignKey) : String :=
  dropConstraint s k.schema k.table k.name

def createUnique (s : Snapshot) (k : UniqueConstraint) : String :=
  "ALTER TABLE " ++ s.qualifyDdl k.schema k.table ++ " ADD CONSTRAINT " ++ k.name
    ++ " UNIQUE " ++ nameList k.columns

def dropUnique (s : Snapshot) (k : UniqueConstraint) : String :=
  dropConstraint s k.schema k.table k.name

def truncate (t : Table) : String := "DELETE FROM " ++ t.dml

/-- Selects every row of a table, and locks them if that is wanted and supported. -/
def selectAll (s : Snapshot) (t : Table) (lock : Bool) : String :=
  "SELECT * FROM " ++ t.dml ++ (if lock && s.selectForUpdate then " FOR UPDATE" else "")

end Statement
end Resync

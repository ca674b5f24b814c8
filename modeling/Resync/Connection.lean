import Resync.Error
import Resync.Schema.Script

/-! # Connections

An open connection answers from its backend's schema and keeps account of what is asked
of it: the statements that were run, the result sets that were handed out, how many of
them are still open, how often it was asked to close, and whether it is closed.
-/
namespace Resync

open Identifier (CasePolicy)

structure ResultSet where
  flags : List Bool
  closed : Bool := false
  deriving DecidableEq, Repr

structure Connection where
  schema : Schema
  failClose : Bool := false
  failState : Bool := false
  closed : Bool := false
  closings : Nat := 0
  queries : List String := []
  /-- The result sets that were handed out, in order; their places are their numbers. -/
  sets : List ResultSet := []
  openSets : Nat := 0
  deriving DecidableEq, Repr

/-- What is asked of a connection: an answer or an error, and the connection afterwards. -/
abbrev Access := ExceptT Error (StateM Connection)

namespace Access

def fail {α : Type} (fault : AccessFault) : Access α := throw (.dataAccess fault)

def check (call : String) : Access Unit := do
  if (← get).schema.fails call then fail (.call call)

def read {α : Type} (f : Schema → α) : Access α := do
  pure (f (← get).schema)

def ask {α : Type} (call : String) (f : Schema → α) : Access α := do
  check call
  read f

def identifierQuoteString : Access String := ask "identifier_quote_string" (·.quoteString)

def sqlKeywords : Access (List String) := ask "sql_keywords" (·.keywords)

def extraNameCharacters : Access String := ask "extra_name_characters" (·.extraNameCharacters)

def casePolicy : Access CasePolicy := read (·.casePolicy)

def schemasInDml : Access Bool := read (·.schemasInDml)

def schemasInDdl : Access Bool := read (·.schemasInDdl)

def selectForUpdate : Access Bool := read (·.selectForUpdate)

def tables (types : List String) : Access (List TableRow) :=
  ask "tables" fun s => s.tableRows.filter fun row => types.contains row.type

def columns (schema table : String) : Access (List ColumnRow) :=
  ask "columns" (·.columnRows schema table)

def primaryKeys (schema table : String) : Access (List PrimaryKeyRow) :=
  ask "primary_keys" (·.primaryKeyRows schema table)

def importedKeys (schema table : String) : Access (List ImportedKeyRow) :=
  ask "imported_keys" (·.importedKeyRows schema table)

def indexInfo (schema table : String) (unique : Bool) : Access (List IndexRow) :=
  ask "index_info" fun s => (s.indexRows schema table).filter fun row => !unique || !row.nonUnique

/-- The statement that answers with the columns of a table expression and no rows. -/
def emptySelect (relation : String) : String :=
  "SELECT * FROM " ++ relation ++ " WHERE 0=1"

def answer? (s : Schema) (sql : String) : Option (List Bool) :=
  (s.relations.find? fun r => emptySelect r == sql).bind s.relation?

def executeQuery (sql : String) : Access Nat := do
  check "execute_query"
  modify fun c : Connection => { c with queries := c.queries ++ [sql] }
  let c ← get
  match answer? c.schema sql with
  | none => fail (.noRelation sql)
  | some flags =>
    modify fun c : Connection =>
      { c with sets := c.sets ++ [{ flags := flags }], openSets := c.openSets + 1 }
    pure c.sets.length

def columnCount (number : Nat) : Access Nat := do
  pure (((← get).sets[number]?).elim 0 (·.flags.length))

def isAutoIncrement (number column : Nat) : Access Bool := do
  check "is_auto_increment"
  match ((← get).sets[number]?).bind (·.flags[column]?) with
  | some b => pure b
  | none => fail (.columnOutOfRange column)

/-- Closes a result set; closing it again changes nothing. -/
def closeSet (number : Nat) : Access Unit :=
  modify fun c : Connection =>
    match c.sets[number]? with
    | some r =>
      if r.closed then c
      else
        { c with
          sets := c.sets.set number { r with closed := true }
          openSets := c.openSets - 1 }
    | none => c

def isClosed : Access Bool := do
  let c ← get
  if c.failState then fail .stateUnknown else pure c.closed

def close : Access Unit := do
  modify fun c : Connection => { c with closings := c.closings + 1 }
  if (← get).failClose then fail (.call "close")
  modify fun c : Connection => { c with closed := true }

def on {α : Type} (c : Connection) (a : Access α) : Except Error α × Connection :=
  (a.run).run c

end Access
end Resync

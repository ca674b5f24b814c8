import Resync.Statement

/-! # Altered tables

The statements about a constraint are alterations of one table: the text before the change is the
table's name, and no other name makes the same statement.
-/
namespace Resync.Statement

def alterTable (relation change : String) : String := "ALTER TABLE " ++ relation ++ change

def addUnique (k : UniqueConstraint) : String :=
  " ADD CONSTRAINT " ++ k.name ++ " UNIQUE " ++ nameList k.columns

def addForeignKey (s : Snapshot) (k : ForeignKey) : String :=
  " ADD CONSTRAINT " ++ k.name ++ " FOREIGN KEY " ++ nameList k.columns
    ++ " REFERENCES " ++ s.qualifyDdl k.foreignSchema k.foreignTable ++ " "
    ++ nameList k.foreignColumns
    ++ clause " ON DELETE " (referentialAction? k.deleteRule)
    ++ clause " ON UPDATE " (referentialAction? k.updateRule)
    ++ clause " " (deferrability? k.deferrability)

def dropNamed (name : String) : String := " DROP CONSTRAINT " ++ name

/-- The statement makes the change to this relation and to no other. -/
def Alters (sql relation change : String) : Prop :=
  ∀ other, sql = alterTable other change ↔ other = relation

theorem alters_alterTable (relation change : String) : Alters (alterTable relation change) relation change := by
  intro other
  have hsame : alterTable relation change = alterTable other change ↔ relation = other :=
    (String.append_left_inj change).trans (String.append_right_inj _)
  exact hsame.trans eq_comm

theorem createUnique_eq (s : Snapshot) (k : UniqueConstraint) :
    createUnique s k = alterTable (s.qualifyDdl k.schema k.table) (addUnique k) := by
  unfold createUnique alterTable addUnique
  simp only [← String.append_assoc]

theorem createForeignKey_eq (s : Snapshot) (k : ForeignKey) :
    createForeignKey s k = alterTable (s.qualifyDdl k.schema k.table) (addForeignKey s k) := by
  unfold createForeignKey alterTable addForeignKey
  simp only [← String.append_assoc]

theorem dropConstraint_eq (s : Snapshot) (schema table name : String) :
    dropConstraint s schema table name = alterTable (s.qualifyDdl schema table) (dropNamed name) := by
  unfold dropConstraint alterTable dropNamed
  rw [← String.append_assoc]

end Resync.Statement

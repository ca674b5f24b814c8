/-! # Catalog rows

What a backend reports about its tables, one row at a time, and the codes that it uses:
index types, referential actions and deferrability follow the usual enumeration of SQL
drivers.
-/
namespace Resync

namespace Code

/-- The index type of a row of table statistics, which describes no index. -/
def statistic : Int := 0
def otherIndex : Int := 3

def cascade : Int := 0
def restrict : Int := 1
def setNull : Int := 2
def noAction : Int := 3
def setDefault : Int := 4

def initiallyDeferred : Int := 5
def initiallyImmediate : Int := 6
def notDeferrable : Int := 7

end Code

structure TableRow where
  schema : String
  name : String
  type : String
  deriving DecidableEq, Repr

structure ColumnRow where
  name : String
  dataType : Int
  typeName : String
  deriving DecidableEq, Repr

structure PrimaryKeyRow where
  keyName : String
  column : String
  keySeq : Int
  deriving DecidableEq, Repr

structure ImportedKeyRow where
  keyName : String
  foreignSchema : String
  foreignTable : String
  foreignColumn : String
  column : String
  keySeq : Int
  updateRule : Int
  deleteRule : Int
  deferrability : Int
  deriving DecidableEq, Repr

/-- One member column of an index, or a row of table statistics. -/
structure IndexRow where
  name : Option String
  type : Int
  nonUnique : Bool
  column : Option String
  ordinal : Int
  deriving DecidableEq, Repr

end Resync

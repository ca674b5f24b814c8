/-! # TOML values

A document is a table of named values. How a table came about decides what may be added
to it later, so every table remembers its origin. Of floats and dates only the kind is
kept.
-/
namespace Resync.Toml

inductive Origin where
  | header
  /-- As the parent of a table that has a header. -/
  | parent
  /-- As the parent of a dotted key. -/
  | dotted
  | braces
  deriving DecidableEq, Repr

inductive Node where
  | text (s : String)
  | integer (n : Int)
  | float
  | boolean (b : Bool)
  | datetime
  | array (items : List Node)
  | table (origin : Origin) (members : List (String × Node))
  | tables (rows : List (List (String × Node)))

abbrev Members := List (String × Node)

/-- The members with the value of `name` changed; the change is given the value if there is
one and may refuse. -/
def Members.alter (name : String) (f : Option Node → Option Node) : Members → Option Members
  | [] => (f none).map fun v => [(name, v)]
  | (name', v) :: rest =>
    if name' = name then (f (some v)).map fun w => (name, w) :: rest
    else (Members.alter name f rest).map ((name', v) :: ·)

def Members.add (name : String) (v : Node) (ms : Members) : Option Members :=
  ms.alter name fun | none => some v | some _ => none

end Resync.Toml

/-! # JSON texts

JSON values with integers as numbers, and their compact text: no blanks, the members of
an object in the order in which the value holds them. `sorted` puts the members of every
object in the order of their names.
-/
namespace Resync

inductive Json where
  | null
  | bool (b : Bool)
  | int (n : Int)
  | str (s : String)
  | arr (items : List Json)
  | obj (members : List (String × Json))
  deriving Inhabited

namespace Json

def hexDigit (n : Nat) : Char := Nat.digitChar n

def spell (c : Char) : List Char :=
  if c = '"' then ['\\', '"']
  else if c = '\\' then ['\\', '\\']
  else if c = '\x08' then ['\\', 'b']
  else if c = '\x0c' then ['\\', 'f']
  else if c = '\n' then ['\\', 'n']
  else if c = '\r' then ['\\', 'r']
  else if c = '\t' then ['\\', 't']
  else if c.toNat < 0x20 then
    ['\\', 'u', '0', '0', hexDigit (c.toNat / 16), hexDigit (c.toNat % 16)]
  else [c]

def quoted (s : String) : String :=
  String.ofList ('"' :: s.toList.flatMap spell ++ ['"'])

mutual

def render : Json → String
  | .null => "null"
  | .bool true => "true"
  | .bool false => "false"
  | .int n => toString n
  | .str s => quoted s
  | .arr items => "[" ++ ",".intercalate (renderItems items) ++ "]"
  | .obj members => "\x7b" ++ ",".intercalate (renderMembers members) ++ "\x7d"

def renderItems : List Json → List String
  | [] => []
  | v :: rest => render v :: renderItems rest

def renderMembers : List (String × Json) → List String
  | [] => []
  | (name, v) :: rest => (quoted name ++ ":" ++ render v) :: renderMembers rest

end

def insertMember (name : String) (v : Json) : List (String × Json) → List (String × Json)
  | [] => [(name, v)]
  | (name', v') :: rest =>
    if name < name' then (name, v) :: (name', v') :: rest
    else if name = name' then (name, v) :: rest
    else (name', v') :: insertMember name v rest

mutual

def sorted : Json → Json
  | .arr items => .arr (sortedItems items)
  | .obj members => .obj (sortedMembers members)
  | v => v

def sortedItems : List Json → List Json
  | [] => []
  | v :: rest => sorted v :: sortedItems rest

def sortedMembers : List (String × Json) → List (String × Json)
  | [] => []
  | (name, v) :: rest => insertMember name (sorted v) (sortedMembers rest)

end

def ofStrings (ss : List String) : Json := .arr (ss.map .str)

/-- The text of a value, or a mark in its place if it has no JSON form. -/
def safeText : Option Json → String
  | some v => v.render
  | none => "<not serializable>"

end Json
end Resync

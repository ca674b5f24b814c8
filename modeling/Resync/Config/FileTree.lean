/-! # File trees

The files and directories of a machine by their places, and the places that paths lead to.
There are no links, so that a step up is always a step back.
-/
namespace Resync

inductive FileEntry where
  | file (bytes : List UInt8)
  | directory
  deriving DecidableEq, Repr

/-- Files and directories, by the names on the way to them from the top. Of two entries at
one place the later one counts. -/
structure FileTree where
  entries : List (List String × FileEntry)
  deriving DecidableEq, Repr

def pathLimit : Nat := 4095

def pathNames (path : String) : List String := (path.toList.splitOn '/').map String.ofList

/-- The place that one name of a path leads to. Above the top is the top. -/
def stepFrom (place : List String) (name : String) : List String :=
  if name = "" ∨ name = "." then place
  else if name = ".." then place.dropLast
  else place ++ [name]

namespace FileTree

def entry? (t : FileTree) (place : List String) : Option FileEntry :=
  if place.isEmpty then some .directory
  else
    match t.entries.reverse.lookup place with
    | some e => some e
    | none =>
      if t.entries.any fun (p, _) => place.isPrefixOf p then some .directory else none

def walk (t : FileTree) (place : List String) (name : String) : Option (List String) :=
  if t.entry? place = some .directory then some (stepFrom place name) else none

/-- The place that a path leads to from a directory, or from the top if it begins with a
slash. A path that is empty, too long or holds a zero character leads nowhere. -/
def resolve? (t : FileTree) (directory : List String) (path : String) : Option (List String) :=
  if path.isEmpty || pathLimit < path.utf8ByteSize || path.toList.contains '\x00' then none
  else (pathNames path).foldlM t.walk (if path.front = '/' then [] else directory)

/-- The tree with an entry made where the names lead, and a directory at every place on the
way. -/
def make (t : FileTree) (place : List String) (e : FileEntry) : List String → FileTree
  | [] => ⟨t.entries ++ [(place, e)]⟩
  | name :: names => make ⟨t.entries ++ [(place, .directory)]⟩ (stepFrom place name) e names

end FileTree
end Resync

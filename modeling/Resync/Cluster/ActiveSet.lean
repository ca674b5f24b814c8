/-! # Active sets

The backends of a cluster that are in service, in the order in which they were activated.
A backend is a handle with an id; several handles may share an id, and whether a backend
is active is a question about its id.
-/
namespace Resync

structure Member where
  handle : String
  id : String
  deriving DecidableEq, Repr

structure ActiveSet where
  members : List Member
  deriving DecidableEq, Repr

namespace ActiveSet

def next? (a : ActiveSet) : Option Member := a.members.head?

def ids (a : ActiveSet) : List String := a.members.map (·.id)

def count (a : ActiveSet) : Nat := a.members.length

def contains (a : ActiveSet) (m : Member) : Bool := a.members.any fun m' => m'.id == m.id

def activate (a : ActiveSet) (m : Member) : ActiveSet := ⟨a.members ++ [m]⟩

def deactivate (a : ActiveSet) (m : Member) : ActiveSet :=
  ⟨a.members.filter fun m' => m'.id ≠ m.id⟩

end ActiveSet
end Resync

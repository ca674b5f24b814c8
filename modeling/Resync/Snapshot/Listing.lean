import Resync.Assoc

/-! # Listings

Entries with names, gathered from rows in one walk. The entries stand in the order in which their
names first occur, and a table has the place of each name's entry.
-/
namespace Resync

structure Listing (α : Type) where
  entries : List α := []
  places : Assoc String Nat := ∅

namespace Listing

variable {ρ α : Type}

/-- The place of the name's entry; if there is none yet, the new one is put at the end. -/
def locate (x : Listing α) (name : String) (new : α) : Nat × Listing α :=
  match x.places.get? name with
  | some place => (place, x)
  | none =>
    (x.entries.length,
      { entries := x.entries ++ [new], places := x.places.insert name x.entries.length })

def change (x : Listing α) (name : String) (new : α) (f : α → α) : Listing α :=
  let (place, x) := x.locate name new
  { x with entries := x.entries.modify place f }

/-- Each row is added to the entry with its name, which the first such row begins. -/
def gather (name : ρ → String) (new : ρ → α) (add : ρ → α → α) (rows : List ρ) : Listing α :=
  rows.foldl (fun x row => x.change (name row) (new row) (add row)) {}

end Listing
end Resync

/-! # Pieces of a text

Texts are cut at byte offsets of their UTF-8 form. An offset inside a character stands for
the end of that character.
-/
namespace Resync.Text

def byteLength (cs : List Char) : Nat := cs.foldr (fun c n => c.utf8Size + n) 0

def afterBytes : Nat → List Char → List Char
  | 0, cs => cs
  | _ + 1, [] => []
  | n + 1, c :: cs => afterBytes (n + 1 - c.utf8Size) cs

/-- The characters that begin in the first `n` bytes. -/
def firstBytes : Nat → List Char → List Char
  | 0, _ => []
  | _ + 1, [] => []
  | n + 1, c :: cs => c :: firstBytes (n + 1 - c.utf8Size) cs

def piece (start stop : Nat) (cs : List Char) : List Char :=
  firstBytes (stop - start) (afterBytes start cs)

end Resync.Text

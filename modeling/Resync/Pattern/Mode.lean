import Resync.Text.Blank
import Resync.Text.Scan

/-! # Modes

How the text of a pattern is read. Flags change the mode up to the end of the group they
stand in; those that are behind a minus sign are taken back.
-/
namespace Resync.Pattern

structure Mode where
  /-- Blanks and comments between the parts of a pattern do not count. -/
  verbose : Bool := false
  /-- Sets hold characters of any kind, not only those of one byte. -/
  unicode : Bool := true

/-- The text behind its blanks and comments, or inside a comment; that ends with the line. -/
def dropGap (inComment : Bool) : List Char → List Char
  | [] => []
  | c :: cs =>
    if inComment then dropGap (c ≠ '\n') cs
    else if c = '#' then dropGap true cs
    else if Text.isBlank c then dropGap false cs
    else c :: cs

def gap (m : Mode) : Scan Unit := if m.verbose then modify (dropGap false) else pure ()

def flagLetters : List Char := ['i', 'm', 's', 'U', 'u', 'R', 'x']

def areFlags (cs : List Char) : Bool :=
  cs.all (fun c => c == '-' || flagLetters.contains c) && decide cs.Nodup && cs.getLast? ≠ some '-'

def setting (letter : Char) (flags : List Char) (before : Bool) : Bool :=
  if flags.contains letter then (flags.takeWhile (· ≠ '-')).contains letter else before

def Mode.change (m : Mode) (flags : List Char) : Mode where
  verbose := setting 'x' flags m.verbose
  unicode := setting 'u' flags m.unicode

end Resync.Pattern

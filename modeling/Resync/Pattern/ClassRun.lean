import Resync.Pattern.Class

/-! # Runs of a class

A pattern may say no more than that a text has characters of one class from its beginning
to its end, and one at least. Any character can be put into such a class if it is escaped
where it means something.
-/
namespace Resync.Pattern

open Scan

def metaCharacters : List Char :=
  ['\\', '.', '+', '*', '?', '(', ')', '|', '[', ']', '\x7b', '\x7d', '^', '$', '#', '&', '-', '~']

def literal (c : Char) : List Char := if metaCharacters.contains c then ['\\', c] else [c]

/-- The class that a text is a run of, from its beginning to its end. -/
def classRun : Scan Members := do
  word ['^', '[']
  let members ← bracketed {}
  word ['+', '$']
  pure members

/-- The ranges of the class that the pattern asks for runs of, if it is spelled out. -/
def runOf? (pattern : List Char) : Option (List Range) := (all? classRun pattern).bind Members.ranges

def inRanges (ranges : List Range) (c : Char) : Bool := ranges.any fun (low, high) => low ≤ c && c ≤ high

def isRun (pattern text : List Char) : Bool :=
  (runOf? pattern).any fun ranges => !text.isEmpty && text.all (inRanges ranges)

end Resync.Pattern

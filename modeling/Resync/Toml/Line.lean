import Resync.Text.Scan

/-! # Lines

What stands between the parts of a document: blanks, comments and the ends of lines.
-/
namespace Resync.Toml

def isBlank (c : Char) : Bool := c == ' ' || c == '\t'

def blanks : Scan Unit := do
  let _ ← Scan.run isBlank

def newline : Scan Unit := Scan.char '\n' <|> Scan.word ['\r', '\n']

def isControl (c : Char) : Bool := c != '\t' && (c.toNat < 0x20 || c.toNat == 0x7f)

def comment : Scan Unit := do
  Scan.char '#'
  let _ ← Scan.run fun c => !isControl c

def lineEnd : Scan Unit := do
  blanks
  let _ ← Scan.maybe comment
  newline <|> Scan.atEnd

def filler : Scan Unit := do
  blanks
  let _ ← Scan.many ((Scan.maybe comment *> newline) *> blanks)

end Resync.Toml

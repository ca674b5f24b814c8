import Resync.Pattern.Mode
import Resync.Text.Hex

/-! # Escapes

An escape stands for a character, for a set of characters or for a place between
characters. Letters and digits have escapes of their own or none; all other ASCII
characters stand for themselves behind a backslash.
-/
namespace Resync.Pattern

open Scan

inductive Part where
  | char (c : Char)
  | set
  | place
  | bound
  deriving DecidableEq, Repr

def code (m : Mode) : Nat → Nat → Scan Char
  | 0, value => charOf value
  | n + 1, value => do
    gap m
    let c ← satisfy isHexDigit
    code m n (value * 16 + hexDigitValue c)

def categories : List Char :=
  ['C', 'L', 'M', 'N', 'P', 'S', 'Z', 'c', 'l', 'm', 'n', 'p', 's', 'z']

def controls : List (Char × Char) :=
  [('a', '\x07'), ('t', '\t'), ('n', '\n'), ('v', '\x0b'), ('f', '\x0c'), ('r', '\r')]

def standsForItself (c : Char) : Bool :=
  c.toNat < 128 && !c.isAlphanum && c != '<' && c != '>'

/-- What follows a backslash. The mode decides on characters of more than one byte. -/
def escape (m : Mode) : Scan Part := do
  let c ← satisfy fun _ => true
  if standsForItself c then pure (.char c)
  else if let some control := controls.lookup c then pure (.char control)
  else
    match c with
    | 'x' => do
      let c ← code m 2 0
      if m.unicode || c.toNat < 128 then pure (.char c) else failure
    | 'u' => .char <$> code m 4 0
    | 'U' => .char <$> code m 8 0
    | 'p' | 'P' => do
      gap m
      let _ ← satisfy fun c => m.unicode && categories.contains c
      pure .set
    | 'd' | 's' | 'w' => pure .set
    | 'D' | 'S' | 'W' => if m.unicode then pure .set else failure
    | 'A' | 'z' => pure .place
    | 'b' | 'B' | '<' | '>' => pure (if m.unicode then .bound else .place)
    | _ => failure

end Resync.Pattern

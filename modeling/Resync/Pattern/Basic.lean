import Resync.Pattern.Class
import Resync.Text.AlphanumericTable
import Resync.Text.CaseTable
import Resync.Text.NumeralTable

/-! # Patterns

A pattern is a regular expression: alternatives of items one after another, with groups,
classes and repetitions, to a limited depth. `fault?` tells what is wrong with a text that
is to be one. A repetition repeats the item before it, so there has to be one; the number of
repetitions is not given in braces.
-/
namespace Resync.Pattern

open Scan

inductive Fault where
  | form
  /-- The pattern asks for the bounds of words, whose characters are of any kind. -/
  | bound
  deriving DecidableEq, Repr

structure Group where
  mode : Mode := {}
  /-- The depths of the items of this alternative, the last first; flags have none. -/
  items : List (Option Nat) := []
  others : List Nat := []

namespace Group

def add (g : Group) (depth : Nat) : Group := { g with items := some depth :: g.items }

def alternative (g : Group) : Nat := together (g.items.map (·.getD 0))

def depth (g : Group) : Nat := together (g.alternative :: g.others)

def next (g : Group) : Group := { g with items := [], others := g.alternative :: g.others }

def again? (g : Group) : Option Group :=
  match g.items with
  | some depth :: items => some { g with items := some (depth + 1) :: items }
  | _ => none

end Group

structure Progress where
  group : Group := {}
  /-- The groups around this one, the innermost first. -/
  outer : List Group := []
  names : List (List Char) := []
  bounds : Bool := false

namespace Progress

def mode (p : Progress) : Mode := p.group.mode

def add (p : Progress) (depth : Nat) : Progress := { p with group := p.group.add depth }

def enter (p : Progress) (mode : Mode) : Progress :=
  { p with group := { mode }, outer := p.group :: p.outer }

def leave? (p : Progress) : Option Progress :=
  match p.outer with
  | [] => none
  | around :: outer => some { p with group := around.add (1 + p.group.depth), outer }

end Progress

def isAlphanumeric (c : Char) : Bool := Text.inRanges Text.alphanumericRanges c.toNat

def isNameStart (c : Char) : Bool :=
  c == '_' || (isAlphanumeric c && !Text.inRanges Text.numeralRanges c.toNat)

def isNamePart (c : Char) : Bool := ['_', '.', '[', ']'].contains c || isAlphanumeric c

/-- A group with a name, up to the end of the name, which no other group has. -/
def namedGroup (p : Progress) : Scan Progress := do
  word ['?', 'P', '<'] <|> word ['?', '<']
  let name ← run (· != '>')
  char '>'
  if name.head?.any isNameStart && name.all isNamePart && !p.names.contains name then
    pure { p.enter p.mode with names := name :: p.names }
  else failure

/-- Flags: alone between parentheses for what follows, or at the beginning of a group. -/
def flagged (p : Progress) : Scan Progress := do
  char '?'
  let flags ← run fun c => c != ':' && c != ')'
  if !areFlags flags then failure
  let mode := p.mode.change flags
  if (← maybe (char ':')).isSome then pure (p.enter mode)
  else
    char ')'
    if flags.isEmpty then failure
    else pure { p with group := { p.group with mode, items := none :: p.group.items } }

def groupStart (p : Progress) : Scan Progress := do
  gap p.mode
  namedGroup p <|> flagged p <|> do
    if (← peek?) = some '?' then failure else pure (p.enter p.mode)

def item (p : Progress) : Scan Progress := do
  match ← satisfy fun _ => true with
  | '(' => groupStart p
  | ')' => p.leave?
  | '|' => pure { p with group := p.group.next }
  | '?' | '*' | '+' => do
    let group ← p.group.again?
    let _ ← maybe (char '?')
    pure { p with group }
  | '\x7b' => failure
  | '[' => do pure (p.add (1 + (← bracketed p.mode).depth))
  | '\\' => do
    let part ← escape p.mode
    pure { p.add 0 with bounds := p.bounds || part = .bound }
  | c => if c == '.' && !p.mode.unicode then failure else pure (p.add 0)

def items : Nat → Progress → Scan Progress
  | 0, _ => failure
  | fuel + 1, p => do
    gap p.mode
    if (← get).isEmpty then pure p else items fuel (← item p)

/-- Groups, classes and repetitions nest to this depth, and so do their members. -/
def depthLimit : Nat := 250

def fault? (cs : List Char) : Option Fault :=
  match items (cs.length + 1) {} cs with
  | none => some .form
  | some (p, _) =>
    if !p.outer.isEmpty || depthLimit < p.group.depth then some .form
    else if p.bounds then some .bound
    else none

end Resync.Pattern

import Resync.Pattern.Escape

/-! # Classes

A class stands between brackets: characters, ranges, sets and classes again, with
operators between them. A bracket right behind the opening one, and hyphens there or
before the closing one, stand for themselves. A class that is made of nothing but
characters and ranges is spelled out.
-/
namespace Resync.Pattern

open Scan

def Part.isMember (m : Mode) : Part → Bool
  | char c => m.unicode || c.toNat < 128
  | set => true
  | place | bound => false

def member (m : Mode) : Scan Part := do
  let part ←
    match ← satisfy fun _ => true with
    | '\\' => escape m
    | c => pure (.char c)
  if part.isMember m then pure part else failure

/-- The character behind a hyphen that tells what the hyphen is for. Where blanks and comments do
not count, it stands behind the blanks and behind a number sign, but may be inside a comment. -/
def behindHyphen (m : Mode) (cs : List Char) : Option Char :=
  if m.verbose then
    match cs.dropWhile Text.isBlank with
    | '#' :: rest => (rest.dropWhile Text.isBlank).head?
    | rest => rest.head?
  else cs.head?

def rangeSign (m : Mode) : Scan Unit := do
  char '-'
  match behindHyphen m (← get) with
  | none | some ']' | some '-' => failure
  | some _ => gap m

abbrev Range := Char × Char

def Part.range? : Part → Option Range
  | char c => some (c, c)
  | _ => none

def memberOrRange (m : Mode) : Scan (Option Range) := do
  let first ← member m
  gap m
  match ← maybe (rangeSign m) with
  | none => pure first.range?
  | some _ =>
    match first, ← member m with
    | .char low, .char high => if low ≤ high then pure (some (low, high)) else failure
    | _, _ => failure

def asciiSets : List String :=
  ["alnum", "alpha", "ascii", "blank", "cntrl", "digit", "graph", "lower", "print", "punct",
    "space", "upper", "word", "xdigit"]

def asciiSet : Scan Bool := do
  char ':'
  let complement ← maybe (char '^')
  let name ← run (· != ':')
  word [':', ']']
  if asciiSets.contains (String.ofList name) then pure complement.isSome else failure

def operator : Scan Unit := word ['&', '&'] <|> word ['-', '-'] <|> word ['~', '~']

/-- How deep parts go that stand side by side; more than one make a level of their own. -/
def together : List Nat → Nat
  | [] => 0
  | [depth] => depth
  | depths => 1 + depths.foldl max 0

structure Members where
  /-- The depths of those since the last operator. -/
  depths : List Nat := []
  /-- The depth of what is on the left of the last operator. -/
  left : Option Nat := none
  /-- The ranges that the class is made of, if it is spelled out. -/
  ranges : Option (List Range) := some []

namespace Members

def add (s : Members) (depth : Nat) (range : Option Range) : Members :=
  { s with
    depths := depth :: s.depths
    ranges := s.ranges.bind fun ranges => range.map fun range => ranges ++ [range] }

def depth (s : Members) : Nat :=
  let right := together s.depths
  s.left.elim right fun left => 1 + max left right

def operate (s : Members) : Members := { left := some s.depth, ranges := none }

def complement (s : Members) : Members := { s with ranges := none }

end Members

def classStart (m : Mode) : Scan Members := do
  gap m
  let complement ← maybe (char '^')
  if complement.isSome then
    if m.unicode then gap m else failure
  let hyphens ← many (char '-' <* gap m)
  let s : Members := if complement.isSome then Members.complement {} else {}
  if hyphens.isEmpty && (← peek?) = some ']' then
    char ']'
    gap m
    pure (s.add 0 (some (']', ']')))
  else pure (hyphens.foldl (fun s _ => s.add 0 (some ('-', '-'))) s)

/-- The rest of a class, of no more than `fuel` members, and of the classes around it; what
there is in the outermost. -/
def classRest (m : Mode) : Nat → Members → List Members → Scan Members
  | 0, _, _ => failure
  | fuel + 1, s, outer => do
    gap m
    if (← maybe (char ']')).isSome then
      match outer with
      | [] => pure s
      | around :: outer => classRest m fuel (around.add (1 + s.depth) none) outer
    else if (← maybe (char '[')).isSome then
      match ← maybe asciiSet with
      | some complement =>
        if complement && !m.unicode then failure else classRest m fuel (s.add 0 none) outer
      | none => classRest m fuel (← classStart m) (s :: outer)
    else if (← maybe operator).isSome then classRest m fuel s.operate outer
    else classRest m fuel (s.add 0 (← memberOrRange m)) outer

def bracketed (m : Mode) : Scan Members := do
  let s ← classStart m
  classRest m ((← get).length + 1) s []

end Resync.Pattern

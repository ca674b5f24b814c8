import Resync.Text.CaseTable

/-! # Lower-casing

The full lower-case form of a text. Two characters need more than their own entry in
the table: a capital sigma becomes the final sigma at the end of a word, and the capital
I with a dot above keeps its dot as a mark of its own.
-/
namespace Resync.Text

def isCased (c : Char) : Bool := inRanges casedRanges c.toNat

def isCaseIgnorable (c : Char) : Bool := inRanges caseIgnorableRanges c.toNat

def lowerSimple (c : Char) : Char :=
  let n := c.toNat
  match lowerRuns.find? fun r => r.first ≤ n && n ≤ r.last && (n - r.first) % r.step == 0 with
  | some r => Char.ofNat (r.lower + (n - r.first))
  | none => c

def meetsCased (cs : List Char) : Bool :=
  match cs.dropWhile isCaseIgnorable with
  | [] => false
  | c :: _ => isCased c

/-- The lower-case form of `c` between the characters `before` it, nearest first, and
those `after` it. -/
def lowerAt (before : List Char) (c : Char) (after : List Char) : List Char :=
  if c = 'Σ' then [if meetsCased before && !meetsCased after then 'ς' else 'σ']
  else if c = 'İ' then ['i', '\u0307']
  else [lowerSimple c]

def lowerFrom (before : List Char) : List Char → List Char
  | [] => []
  | c :: after => lowerAt before c after ++ lowerFrom (c :: before) after

def lower (s : String) : String := String.ofList (lowerFrom [] s.toList)

end Resync.Text

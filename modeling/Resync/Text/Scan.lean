/-! # Scanning

A scan takes characters off the front of a text, or fails. `many` repeats a scan until
it fails; since every scan that is repeated takes at least one character, the length of
the text bounds the repetition.
-/
namespace Resync

abbrev Scan := StateT (List Char) Option

namespace Scan

variable {α : Type}

def satisfy (f : Char → Bool) : Scan Char := do
  match ← get with
  | c :: rest => if f c then set rest *> pure c else failure
  | [] => failure

def char (c : Char) : Scan Unit := do
  let _ ← satisfy (· == c)

def word : List Char → Scan Unit
  | [] => pure ()
  | c :: cs => char c *> word cs

def run (f : Char → Bool) : Scan (List Char) := do
  let cs ← get
  set (cs.dropWhile f)
  pure (cs.takeWhile f)

def peek? : Scan (Option Char) := do
  pure (← get).head?

def atEnd : Scan Unit := do
  if !(← get).isEmpty then failure

def maybe (p : Scan α) : Scan (Option α) := (some <$> p) <|> pure none

def manyWithin (p : Scan α) : Nat → Scan (List α)
  | 0 => pure []
  | n + 1 => do
    match ← maybe p with
    | none => pure []
    | some a => return a :: (← manyWithin p n)

def many (p : Scan α) : Scan (List α) := do
  manyWithin p (← get).length

def sepBy (p : Scan α) (separator : Scan Unit) : Scan (List α) := do
  let first ← p
  let rest ← many (separator *> p)
  pure (first :: rest)

def all? (p : Scan α) (text : List Char) : Option α :=
  match p text with
  | some (a, []) => some a
  | _ => none

end Scan

end Resync

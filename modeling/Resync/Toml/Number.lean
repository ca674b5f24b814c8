import Resync.Toml.Quoted

/-! # Numbers and dates

Integers are signed words of 64 bits, in base ten or, without a sign, in base two, eight
or sixteen. A float must not be too large. A date is a day of the calendar, a time of
day, or both, then perhaps with an offset. Single underscores may stand between digits.
-/
namespace Resync.Toml

open Scan

def sign : Scan Bool := do
  match ← peek? with
  | some '-' => char '-' *> pure true
  | some '+' => char '+' *> pure false
  | _ => pure false

def digits (isDigit : Char → Bool) : Scan (List Char) :=
  (· :: ·) <$> satisfy isDigit <*> many (maybe (char '_') *> satisfy isDigit)

def valueIn (base : Nat) (ds : List Char) : Nat :=
  ds.foldl (fun n c => n * base + hexDigitValue c) 0

def wholeDigits : Scan (List Char) := do
  match ← peek? with
  | some '0' => char '0' *> pure ['0']
  | _ => digits Char.isDigit

def inRange (n : Int) : Scan Int :=
  if Int64.minValue.toInt ≤ n ∧ n ≤ Int64.maxValue.toInt then pure n else failure

def based (mark : Char) (base : Nat) (isDigit : Char → Bool) : Scan Int := do
  word ['0', mark]
  let ds ← digits isDigit
  inRange (valueIn base ds)

/-- The least number that rounds to infinity in double precision. -/
def infinityBound : Nat := Nat.pow 2 1024 - Nat.pow 2 970

def overflows (m : Nat) (e : Int) : Bool :=
  let places : Int := (Nat.toDigits 10 m).length + e
  if m = 0 || places < 309 then false
  else if 309 < places then true
  else if 0 ≤ e then infinityBound ≤ m * Nat.pow 10 e.toNat
  else infinityBound * Nat.pow 10 (-e).toNat ≤ m

def exponent : Scan Int := do
  char 'e' <|> char 'E'
  let negative ← sign
  let n := valueIn 10 (← digits Char.isDigit)
  pure (if negative then -n else n)

inductive Number where
  | integer (n : Int)
  | float
  deriving DecidableEq, Repr

def decimal : Scan Number := do
  let negative ← sign
  let whole ← wholeDigits
  let fraction ←
    if (← peek?) = some '.' then some <$> (char '.' *> digits Char.isDigit) else pure none
  let power ← if (← peek?).any (fun c => c == 'e' || c == 'E') then some <$> exponent else pure none
  match fraction, power with
  | none, none =>
    let n : Int := valueIn 10 whole
    .integer <$> inRange (if negative then -n else n)
  | _, _ =>
    let ds := fraction.getD []
    if !negative && overflows (valueIn 10 (whole ++ ds)) (power.getD 0 - ds.length) then failure
    else pure .float

def specialFloat : Scan Number := do
  let _ ← sign
  word ['i', 'n', 'f'] <|> word ['n', 'a', 'n']
  pure .float

def number : Scan Number :=
  .integer <$> based 'x' 16 isHexDigit
    <|> .integer <$> based 'o' 8 (fun c => '0' ≤ c && c ≤ '7')
    <|> .integer <$> based 'b' 2 (fun c => c == '0' || c == '1')
    <|> specialFloat
    <|> decimal

def fixedDigits : Nat → Nat → Scan Nat
  | 0, value => pure value
  | n + 1, value => do
    let c ← satisfy Char.isDigit
    fixedDigits n (value * 10 + (c.toNat - 48))

def twoDigits (low high : Nat) : Scan Nat := do
  let n ← fixedDigits 2 0
  if low ≤ n && n ≤ high then pure n else failure

def daysIn (year month : Nat) : Nat :=
  if month = 2 then
    if year % 4 = 0 && (year % 100 ≠ 0 || year % 400 = 0) then 29 else 28
  else if month = 4 || month = 6 || month = 9 || month = 11 then 30
  else 31

def date : Scan Unit := do
  let year ← fixedDigits 4 0
  char '-'
  let month ← twoDigits 1 12
  char '-'
  let _ ← twoDigits 1 (daysIn year month)

/-- A time of day; a minute may have a leap second. -/
def time : Scan Unit := do
  let _ ← twoDigits 0 23
  char ':'
  let _ ← twoDigits 0 59
  char ':'
  let _ ← twoDigits 0 60
  let _ ← maybe (char '.' *> satisfy Char.isDigit *> run Char.isDigit)

def offset : Scan Unit :=
  char 'Z' <|> char 'z' <|> do
    char '+' <|> char '-'
    let _ ← twoDigits 0 23
    char ':'
    let _ ← twoDigits 0 59

def timeOfDate : Scan Unit := do
  char 'T' <|> char 't' <|> char ' '
  time
  let _ ← maybe offset

def datetime : Scan Unit :=
  (do date; let _ ← maybe timeOfDate) <|> time

end Resync.Toml

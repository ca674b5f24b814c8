/-! # Base64

The standard alphabet with canonical padding. Encoding takes three bytes at a time to
four symbols and fills the last group with `=`. Decoding accepts the encoded texts only;
on any other it reports the first offence, with its place.
-/
namespace Resync.Base64

inductive Fault where
  | symbol (byte : UInt8) (offset : Nat)
  | lastSymbol (byte : UInt8) (offset : Nat)
  | length (n : Nat)
  | padding
  deriving DecidableEq, Repr

def Fault.message : Fault → String
  | .symbol b i => s!"Invalid symbol {b.toNat}, offset {i}."
  | .lastSymbol b i => s!"Invalid last symbol {b.toNat}, offset {i}."
  | .length n => s!"Invalid input length: {n}"
  | .padding => "Invalid padding"

def pad : UInt8 := 61

def symbol (n : Nat) : UInt8 :=
  if n < 26 then UInt8.ofNat (65 + n)
  else if n < 52 then UInt8.ofNat (97 + (n - 26))
  else if n < 62 then UInt8.ofNat (48 + (n - 52))
  else if n = 62 then 43
  else 47

def value? (b : UInt8) : Option Nat :=
  let n := b.toNat
  if 65 ≤ n ∧ n ≤ 90 then some (n - 65)
  else if 97 ≤ n ∧ n ≤ 122 then some (n - 97 + 26)
  else if 48 ≤ n ∧ n ≤ 57 then some (n - 48 + 52)
  else if n = 43 then some 62
  else if n = 47 then some 63
  else none

def encode : List UInt8 → List UInt8
  | [] => []
  | [a] => [symbol (a.toNat / 4), symbol (a.toNat % 4 * 16), pad, pad]
  | [a, b] =>
    [symbol (a.toNat / 4), symbol (a.toNat % 4 * 16 + b.toNat / 16),
      symbol (b.toNat % 16 * 4), pad]
  | a :: b :: c :: rest =>
    symbol (a.toNat / 4) :: symbol (a.toNat % 4 * 16 + b.toNat / 16) ::
      symbol (b.toNat % 16 * 4 + c.toNat / 64) :: symbol (c.toNat % 64) :: encode rest

def valueAt (offset : Nat) (b : UInt8) : Except Fault Nat :=
  match value? b with
  | some v => .ok v
  | none => .error (.symbol b offset)

/-- What has been read of the last group: its values, the last byte among them, and the
place of the first `=` with the number of them. -/
structure Tail where
  values : List Nat := []
  last : UInt8 := 0
  firstPad : Nat := 0
  pads : Nat := 0

def readTail (offset : Nat) (place : Nat) (t : Tail) : List UInt8 → Except Fault Tail
  | [] => .ok t
  | b :: rest =>
    if b = pad then
      if place < 2 then .error (.symbol b (offset + place))
      else
        readTail offset (place + 1)
          { t with firstPad := if t.pads = 0 then place else t.firstPad, pads := t.pads + 1 } rest
    else if 0 < t.pads then .error (.symbol pad (offset + t.firstPad))
    else
      match valueAt (offset + place) b with
      | .error f => .error f
      | .ok v => readTail offset (place + 1) { t with values := t.values ++ [v], last := b } rest

/-- The bytes of a last group of values, whose left-over bits have to be zero. -/
def tailBytes (offset : Nat) (t : Tail) : Except Fault (List UInt8) :=
  let spill (bytes : List UInt8) (rest : Nat) : Except Fault (List UInt8) :=
    if rest = 0 then .ok bytes else .error (.lastSymbol t.last (offset + t.values.length - 1))
  match t.values with
  | [a, b] => spill [UInt8.ofNat (a * 4 + b / 16)] (b % 16)
  | [a, b, c] => spill [UInt8.ofNat (a * 4 + b / 16), UInt8.ofNat (b % 16 * 16 + c / 4)] (c % 4)
  | [a, b, c, d] =>
    .ok [UInt8.ofNat (a * 4 + b / 16), UInt8.ofNat (b % 16 * 16 + c / 4),
      UInt8.ofNat (c % 4 * 64 + d)]
  | _ => .ok []

def decodeTail (offset : Nat) (group : List UInt8) : Except Fault (List UInt8) :=
  match readTail offset 0 {} group with
  | .error f => .error f
  | .ok t =>
    if group = [] then .ok []
    else if t.values.length < 2 then .error (.length (offset + t.values.length))
    else if t.values.length + t.pads ≠ 4 then .error .padding
    else tailBytes offset t

def decodeGroups (offset : Nat) : List UInt8 → Except Fault (List UInt8)
  | a :: b :: c :: d :: e :: rest => do
    let a ← valueAt offset a
    let b ← valueAt (offset + 1) b
    let c ← valueAt (offset + 2) c
    let d ← valueAt (offset + 3) d
    let tail ← decodeGroups (offset + 4) (e :: rest)
    .ok (UInt8.ofNat (a * 4 + b / 16) :: UInt8.ofNat (b % 16 * 16 + c / 4) ::
      UInt8.ofNat (c % 4 * 64 + d) :: tail)
  | group => decodeTail offset group

/-- The byte that stands alone after the full groups, if it can be no symbol at all. -/
def strayByte (bytes : List UInt8) : Option UInt8 :=
  if bytes.length % 4 = 1 then
    bytes.getLast?.filter fun b => b ≠ pad && (value? b).isNone
  else none

def decode (bytes : List UInt8) : Except Fault (List UInt8) :=
  match strayByte bytes with
  | some b => .error (.symbol b (bytes.length - 1))
  | none => decodeGroups 0 bytes

end Resync.Base64

import Resync.Text.Scan

/-! # Characters by number

Characters are given by their code points, in digits of base sixteen.
-/
namespace Resync

def isHexDigit (c : Char) : Bool :=
  c.isDigit || ('a' ≤ c && c ≤ 'f') || ('A' ≤ c && c ≤ 'F')

def hexDigitValue (c : Char) : Nat :=
  if c.isDigit then c.toNat - 48
  else if 'a' ≤ c then c.toNat - 87
  else c.toNat - 55

namespace Scan

def hexDigits : Nat → Nat → Scan Nat
  | 0, value => pure value
  | n + 1, value => do
    let c ← satisfy isHexDigit
    hexDigits n (value * 16 + hexDigitValue c)

def charOf (n : Nat) : Scan Char :=
  if n.isValidChar then pure (Char.ofNat n) else failure

end Scan
end Resync

import Resync.Text.CaseTable
import Resync.Text.HiddenTable

/-! # Quoted literals

A text between double quotes in which everything that could not be seen is spelled out:
the quote and the backslash are escaped, some controls have a letter, and any other
character without a visible form is given by its code point.
-/
namespace Resync.Text

def hexDigits (n : Nat) : List Char := Nat.toDigits 16 n

def spell (c : Char) : List Char :=
  if c = '"' then ['\\', '"']
  else if c = '\\' then ['\\', '\\']
  else if c = '\n' then ['\\', 'n']
  else if c = '\r' then ['\\', 'r']
  else if c = '\t' then ['\\', 't']
  else if c = '\x00' then ['\\', '0']
  else if inRanges hiddenRanges c.toNat then
    ['\\', 'u', '\x7b'] ++ hexDigits c.toNat ++ ['\x7d']
  else [c]

def literal (s : String) : String :=
  String.ofList ('"' :: s.toList.flatMap spell ++ ['"'])

def literals (ss : List String) : String :=
  "[" ++ ", ".intercalate (ss.map literal) ++ "]"

end Resync.Text

import Resync.Identifier.Reserved
import Resync.Pattern.ClassRun
import Resync.Text.Blank
import Resync.Text.LowerCase

/-! # Quoting identifiers

What a backend says about identifiers, and the decision whether one has to be written
between quotes. A quoted identifier is the identifier between two quote strings; an
identifier that begins with the quote string counts as quoted already.
-/
namespace Resync.Identifier

structure CasePolicy where
  /-- Unquoted identifiers keep their case. -/
  mixedCase : Bool
  /-- Quoted identifiers keep their case. -/
  mixedCaseQuoted : Bool
  /-- Unquoted identifiers are folded to lower case. -/
  storesLower : Bool
  /-- Unquoted identifiers are folded to upper case. -/
  storesUpper : Bool
  deriving DecidableEq, Repr

def CasePolicy.requiresQuoting (p : CasePolicy) (identifier : String) : Bool :=
  !p.mixedCase && p.mixedCaseQuoted &&
    ((p.storesLower && identifier.toList.any Char.isUpper) ||
      (p.storesUpper && identifier.toList.any Char.isLower))

/-- What bears on quoting: the quote string, the backend's own keywords, the characters
that it allows in unquoted identifiers beside letters, digits and the underscore, and its
case policy. -/
structure Facts where
  quoteString : String
  /-- In lower case, without blank ends, and none of them a standard word. -/
  keywords : List String
  extra : List Char
  policy : CasePolicy
  deriving DecidableEq, Repr

/-- The pattern of the identifiers that consist of letters, digits, underscores and the extra
characters. -/
def namePattern (extra : List Char) : List Char :=
  "^[A-Za-z0-9_".toList ++ extra.flatMap Pattern.literal ++ "]+$".toList

def normalKeyword (word : String) : String := Text.lower (Text.trim word)

namespace Facts

def ofReport (quoteString : String) (keywords : List String) (extra : String)
    (policy : CasePolicy) : Facts where
  quoteString := quoteString
  keywords := (keywords.map normalKeyword).filter fun w => w ≠ "" && !isReservedWord w
  extra := extra.toList
  policy := policy

def isReserved (f : Facts) (identifier : String) : Bool :=
  let word := Text.lower identifier
  isReservedWord word || f.keywords.contains word

def isPlain (f : Facts) (identifier : String) : Bool :=
  Pattern.isRun (namePattern f.extra) identifier.toList

def requiresQuoting (f : Facts) (identifier : String) : Bool :=
  f.isReserved identifier || !f.isPlain identifier || f.policy.requiresQuoting identifier

def isQuoted (f : Facts) (identifier : String) : Bool :=
  f.quoteString.toList.isPrefixOf identifier.toList

def wrap (f : Facts) (identifier : String) : String :=
  f.quoteString ++ identifier ++ f.quoteString

def quote (f : Facts) (identifier : String) : String :=
  if f.isQuoted identifier then identifier
  else if f.requiresQuoting identifier then f.wrap identifier
  else identifier

end Facts
end Resync.Identifier

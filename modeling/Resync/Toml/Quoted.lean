import Resync.Text.Hex
import Resync.Toml.Line

/-! # Quoted texts

Basic texts stand between double quotes and have escapes; literal texts stand between
apostrophes and have none. Three quotes open a text over several lines, which may hold
one or two quotes in a row, also right before the three that close it.
-/
namespace Resync.Toml

open Scan

def escape : Scan Char := do
  char '\\'
  match ← satisfy fun _ => true with
  | 'b' => pure '\x08'
  | 't' => pure '\t'
  | 'n' => pure '\n'
  | 'f' => pure '\x0c'
  | 'r' => pure '\r'
  | '"' => pure '"'
  | '\\' => pure '\\'
  | 'u' => hexDigits 4 0 >>= charOf
  | 'U' => hexDigits 8 0 >>= charOf
  | _ => failure

def basic : Scan (List Char) := do
  char '"'
  let text ← many (escape <|> satisfy fun c => c != '"' && c != '\\' && !isControl c)
  char '"'
  pure text

def literal : Scan (List Char) := do
  char '\''
  let text ← run fun c => c != '\'' && !isControl c
  char '\''
  pure text

def lineFeed : Scan (List Char) := newline *> pure ['\n']

/-- A backslash at the end of a line, with all blanks and line ends up to the next text. -/
def folding : Scan (List Char) := do
  char '\\'
  blanks
  newline
  let _ ← many ((do let _ ← satisfy isBlank) <|> newline)
  pure []

def innerQuotes (quote : Char) : Scan (List Char) := do
  let qs ← run (· == quote)
  if qs.length = 1 || qs.length = 2 then pure qs else failure

/-- The quotes at the end of a text over several lines: three, and what comes before. -/
def closingQuotes (quote : Char) : Scan (List Char) := do
  let qs ← run (· == quote)
  if 3 ≤ qs.length && qs.length ≤ 5 then pure (qs.drop 3) else failure

/-- A text over several lines, by its parts; a line end right behind the opening quotes
does not count. -/
def severalLines (quote : Char) (part : Scan (List Char)) : Scan (List Char) := do
  word [quote, quote, quote]
  let _ ← maybe newline
  let parts ← many (part <|> innerQuotes quote)
  let tail ← closingQuotes quote
  pure (parts.flatten ++ tail)

def basicLines : Scan (List Char) :=
  severalLines '"' (folding <|> (List.singleton <$> escape) <|> lineFeed
    <|> List.singleton <$> satisfy fun c => c != '"' && c != '\\' && !isControl c)

def literalLines : Scan (List Char) :=
  severalLines '\'' (lineFeed <|> List.singleton <$> satisfy fun c => c != '\'' && !isControl c)

def startsLines (quote : Char) : Scan Bool := do
  pure ([quote, quote, quote].isPrefixOf (← get))

def quoted : Scan String := do
  let text ←
    match ← peek? with
    | some '"' => if ← startsLines '"' then basicLines else basic
    | some '\'' => if ← startsLines '\'' then literalLines else literal
    | _ => failure
  pure (String.ofList text)

end Resync.Toml

import Resync.Toml.Node
import Resync.Toml.Number

/-! # Keys and values

Arrays and tables between braces hold values again, to a limited depth. A dotted key
names a member of nested tables, which it makes if they are not there; nothing is added to
tables between braces from outside, and a dotted key adds nothing to a table with a header.
-/
namespace Resync.Toml

open Scan

def isBareKey (c : Char) : Bool := c.isAlphanum || c == '-' || c == '_'

def simpleKey : Scan String := do
  match ← peek? with
  | some '"' => String.ofList <$> basic
  | some '\'' => String.ofList <$> literal
  | _ =>
    let cs ← run isBareKey
    if cs.isEmpty then failure else pure (String.ofList cs)

def keyLimit : Nat := 80

def key : Scan (List String) := do
  let parts ← sepBy (blanks *> simpleKey <* blanks) (char '.')
  if parts.length < keyLimit then pure parts else failure

def depthLimit : Nat := 79

/-- The change `f` made to the table at the end of a path of parent tables. Tables that are
missing are made, with `origin`; `f` is told the origin of the table it changes. -/
def descend (origin : Origin) (f : Origin → Members → Option Members) :
    Origin → List String → Members → Option Members
  | reached, [], ms => f reached ms
  | _, name :: path, ms =>
    ms.alter name fun
      | none => (descend origin f origin path []).map (.table origin)
      | some (.table kind members) =>
        if kind = .braces ∨ (kind = .header ∧ origin = .dotted) then none
        else (descend origin f kind path members).map (.table kind)
      | some (.tables rows) =>
        match rows.getLast? with
        | none => none
        | some last =>
          (descend origin f .header path last).map fun last => .tables (rows.dropLast ++ [last])
      | some _ => none

/-- The members with the value put under a key. Behind a dotted key the last parent must be
a table that dotted keys have made. -/
def assign (ms : Members) (path : List String) (v : Node) : Option Members :=
  match path.getLast? with
  | none => none
  | some name =>
    let parents := path.dropLast
    descend .dotted
      (fun reached members =>
        if !parents.isEmpty && reached ≠ .dotted then none else members.add name v)
      .header parents ms

def Members.ofEntries (start : Members) (entries : List (List String × Node)) : Option Members :=
  entries.foldlM (fun ms (path, v) => assign ms path v) start

def scalar : Scan Node := do
  match ← peek? with
  | some '"' | some '\'' => .text <$> quoted
  | some 't' => word ['t', 'r', 'u', 'e'] *> pure (.boolean true)
  | some 'f' => word ['f', 'a', 'l', 's', 'e'] *> pure (.boolean false)
  | _ =>
    (datetime *> pure .datetime) <|> do
      match ← number with
      | .integer n => pure (.integer n)
      | .float => pure .float

def value : Nat → Scan Node
  | 0 => scalar
  | depth + 1 => do
    match ← peek? with
    | some '[' => do
      char '['
      filler
      let items ← (sepBy (filler *> value depth <* filler) (char ',')
        <* maybe (char ',' *> filler)) <|> pure []
      char ']'
      pure (.array items)
    | some '\x7b' => do
      char '\x7b'
      blanks
      let entries ← sepBy (do
        let path ← key
        char '='
        blanks
        let v ← value depth
        blanks
        pure (path, v)) (char ',') <|> pure []
      char '\x7d'
      match Members.ofEntries [] entries with
      | some members => pure (.table .braces members)
      | none => failure
    | _ => scalar

end Resync.Toml

import Resync.Config.Settings
import Resync.Toml.Document

/-! # Settings from documents

A group of settings is a table, in which unknown names do not count, or an array of
values in the order of the settings. A choice is given by its name, or by a table whose
one member has that name and is empty.
-/
namespace Resync

open Toml (Node)

/-- The values that a node gives for the settings with the given names. A date is a group
without settings. -/
def groupOf (names : List String) : Node → Option (List (String × Node))
  | .table _ members => some members
  | .array items => some (names.zip items)
  | .tables rows => some (names.zip (rows.map (.table .header)))
  | .datetime => some []
  | _ => none

def setting {α : Type} (group : List (String × Node)) (name : String) (default : α)
    (f : Node → Option α) : Option α :=
  match group.lookup name with
  | none => some default
  | some v => f v

def isEmptyNode : Node → Bool
  | .table _ [] | .array [] => true
  | _ => false

def readChoice {α : Type} (names : List (String × α)) : Node → Option α
  | .text s => names.lookup s
  | .table _ [(name, v)] => if isEmptyNode v then names.lookup name else none
  | _ => none

def readText : Node → Option String
  | .text s => some s
  | _ => none

def readBool : Node → Option Bool
  | .boolean b => some b
  | _ => none

def readCache (v : Node) : Option CacheSettings := do
  let group ← groupOf ["strategy"] v
  pure { strategy := ← setting group "strategy" .eager (readChoice CacheStrategy.names) }

def readCodec (v : Node) : Option CodecSettings := do
  let group ← groupOf ["kind"] v
  pure { kind := ← setting group "kind" .plain (readChoice Codec.names) }

def readLog (v : Node) : Option LogSettings := do
  let group ← groupOf ["filter", "json"] v
  pure {
    filter := ← setting group "filter" defaultFilter readText
    json := ← setting group "json" false readBool }

def readSettings (document : Toml.Members) : Option Settings := do
  pure {
    cache := ← setting document "cache" {} readCache
    codec := ← setting document "codec" {} readCodec
    logging := ← setting document "logging" {} readLog }

abbrev Environment := List (String × String)

def environmentEntry (name value : String) : List Char := name.toList ++ '=' :: value.toList

/-- The value of a variable: what follows the name and an equality sign in an entry. So a
name that goes on behind an equality sign reaches into the value of the variable before the
sign. A name that is empty or holds a zero character names nothing. -/
def Environment.get? (env : Environment) (name : String) : Option String :=
  if name.isEmpty || name.toList.contains '\x00' then none
  else
    let front := environmentEntry name ""
    (env.map fun (n, v) => environmentEntry n v).find? front.isPrefixOf
      |>.map fun entry => String.ofList (entry.drop front.length)

/-- The name between a dollar sign with an opening brace and a closing brace. -/
def reference? (text : String) : Option String :=
  match text.toList with
  | '$' :: '\x7b' :: rest =>
    if rest.getLast? = some '\x7d' then some (String.ofList rest.dropLast) else none
  | _ => none

def resolve (env : Environment) (text : String) : Option String :=
  match reference? text with
  | some name => env.get? name
  | none => some text

def Settings.resolved (env : Environment) (s : Settings) : Settings :=
  { s with
    logging := { s.logging with filter := (resolve env s.logging.filter).getD defaultFilter } }

def Settings.parse? (env : Environment) (text : String) : Option Settings :=
  ((Toml.parse? text).bind readSettings).map (Settings.resolved env)

end Resync

import Resync.Toml.Value

/-! # Documents

A document is read line by line and then put together: the keys before the first header
go into the document's own table, the keys behind a header into the table that it names.
A header may complete a table that is only known as a parent, and nothing else that is
there already; a header in double brackets adds one more table to its list.
-/
namespace Resync.Toml

open Scan

inductive Line where
  | blank
  | entry (path : List String) (v : Node)
  | header (path : List String)
  | listHeader (path : List String)

def line : Scan Line := do
  match ← peek? with
  | none => failure
  | some '\n' | some '\r' => newline *> pure .blank
  | some '#' => lineEnd *> pure .blank
  | some '[' =>
    if ['[', '['].isPrefixOf (← get) then
      let path ← word ['[', '['] *> key <* word [']', ']']
      lineEnd *> pure (.listHeader path)
    else
      let path ← char '[' *> key <* char ']'
      lineEnd *> pure (.header path)
  | some _ =>
    let path ← key
    char '='
    blanks
    let v ← value depthLimit
    lineEnd *> pure (.entry path v)

def lines : Scan (List Line) := blanks *> many (line <* blanks)

abbrev Entries := List (List String × Node)

structure Section where
  isList : Bool
  path : List String
  entries : Entries

def sections : List Line → Entries × List Section
  | [] => ([], [])
  | l :: rest =>
    let (top, below) := sections rest
    match l with
    | .blank => (top, below)
    | .entry path v => ((path, v) :: top, below)
    | .header path => ([], ⟨false, path, top⟩ :: below)
    | .listHeader path => ([], ⟨true, path, top⟩ :: below)

def Section.change (s : Section) (before : Option Node) : Option Node :=
  match before, s.isList with
  | none, false => (Members.ofEntries [] s.entries).map (.table .header)
  | none, true => (Members.ofEntries [] s.entries).map fun ms => .tables [ms]
  | some (.table .parent members), false =>
    (Members.ofEntries members s.entries).map (.table .header)
  | some (.tables rows), true =>
    (Members.ofEntries [] s.entries).map fun ms => .tables (rows ++ [ms])
  | _, _ => none

def Section.apply (ms : Members) (s : Section) : Option Members :=
  match s.path.getLast? with
  | none => none
  | some name =>
    descend .parent (fun _ members => members.alter name s.change) .header s.path.dropLast ms

/-- The text without the mark of its encoding. -/
def withoutMark : List Char → List Char
  | '\ufeff' :: cs => cs
  | cs => cs

def parse? (text : String) : Option Members := do
  let ls ← lines.all? (withoutMark text.toList)
  let (top, below) := sections ls
  let ms ← Members.ofEntries [] top
  below.foldlM Section.apply ms

end Resync.Toml

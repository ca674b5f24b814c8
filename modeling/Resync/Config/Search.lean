import Resync.Config.FileTree
import Resync.Config.Reading
import Resync.Text.Literal
import Resync.Text.Utf8

/-! # Finding the configuration

The configuration is read from a file that is named, or else from the nearest entry with
the right name in the working directory or one of the directories above it. What is found
first is used, whether it can be read or not.
-/
namespace Resync

inductive FilePath where
  /-- A path as it was given, from the working directory. -/
  | given (text : String)
  /-- The path from the top to a place. -/
  | found (place : List String)
  deriving DecidableEq, Repr

def FilePath.text : FilePath → String
  | given s => s
  | found place => "/" ++ "/".intercalate place

def FilePath.fits (path : FilePath) : Bool := path.text.utf8ByteSize ≤ pathLimit

inductive LoadFault where
  | notFound
  | unreadable (path : FilePath)
  | unparsable (path : FilePath)
  deriving DecidableEq, Repr

def configName : String := "hadb.toml"

def LoadFault.message : LoadFault → String
  | notFound => configName ++ " not found"
  | unreadable path => "Failed to read config file: " ++ Text.literal path.text
  | unparsable path => "Failed to parse config file: " ++ Text.literal path.text

structure Host where
  tree : FileTree
  workingDirectory : List String
  environment : Environment

namespace Host

def place? (h : Host) : FilePath → Option (List String)
  | .given s => h.tree.resolve? h.workingDirectory s
  | .found place => if (FilePath.found place).fits then some place else none

def entry? (h : Host) (path : FilePath) : Option FileEntry := do
  h.tree.entry? (← h.place? path)

/-- The text of a file; there is none of a directory, or of bytes that are not UTF-8. -/
def read? (h : Host) (path : FilePath) : Option String := do
  match ← h.entry? path with
  | .directory => none
  | .file bytes =>
    match Utf8.decode bytes with
    | .ok cs => some (String.ofList cs)
    | .error _ => none

def loadFile (h : Host) (path : FilePath) : Except LoadFault Settings :=
  match h.read? path with
  | none => .error (.unreadable path)
  | some text =>
    match Settings.parse? h.environment text with
    | none => .error (.unparsable path)
    | some s => .ok s

def upwards (directory : List String) : List (List String) :=
  (List.range (directory.length + 1)).reverse.map directory.take

def findConfig? (h : Host) : Option FilePath :=
  ((upwards h.workingDirectory).map fun d => .found (d ++ [configName])).find? fun path => (h.entry? path).isSome

def load (h : Host) : Except LoadFault Settings :=
  match h.findConfig? with
  | none => .error .notFound
  | some path => h.loadFile path

end Host
end Resync

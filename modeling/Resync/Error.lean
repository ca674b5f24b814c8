import Resync.Log.Filter
import Resync.Text.Base64
import Resync.Text.Utf8

/-! # Errors

What can go wrong, by cause. The wording of every cause is in `message`; a `reported`
cause carries a text from outside the library.
-/
namespace Resync

inductive AccessFault where
  | call (name : String)
  | refused (backend : String)
  | noRelation (sql : String)
  | columnOutOfRange (column : Nat)
  | stateUnknown
  | reported (text : String)
  deriving DecidableEq, Repr

def AccessFault.message : AccessFault → String
  | .call name => "mock failure in " ++ name
  | .refused backend => "connection refused by " ++ backend
  | .noRelation sql => "no such relation in: " ++ sql
  | .columnOutOfRange column => s!"column index {column} out of range"
  | .stateUnknown => "state unknown"
  | .reported text => text

inductive CodecFault where
  | base64 (fault : Base64.Fault)
  | utf8 (fault : Utf8.Fault)
  | reported (text : String)
  deriving DecidableEq, Repr

def CodecFault.message : CodecFault → String
  | .base64 fault => "Invalid base64 value: " ++ fault.message
  | .utf8 fault => "Decoded value is not UTF-8: " ++ fault.message
  | .reported text => text

inductive ConfigFault where
  | filter (text : String) (fault : Log.Filter.Fault)
  | reported (text : String)
  deriving DecidableEq, Repr

def ConfigFault.message : ConfigFault → String
  | .filter text fault => "Invalid log filter '" ++ text ++ "': " ++ fault.message
  | .reported text => text

inductive Error where
  | noActiveDatabases (cluster : String)
  | dataAccess (fault : AccessFault)
  | config (fault : ConfigFault)
  | codec (fault : CodecFault)
  | poolShutdown
  | io (text : String)
  | registryClosed (backend : String)
  | subscriberInstalled
  | reported (text : String)
  deriving DecidableEq, Repr

namespace Error

def message : Error → String
  | .noActiveDatabases cluster => "No active databases in cluster " ++ cluster
  | .dataAccess fault => "Data access error: " ++ fault.message
  | .config fault => "Configuration error: " ++ fault.message
  | .codec fault => "Codec error: " ++ fault.message
  | .poolShutdown => "Worker pool is shut down; task rejected"
  | .io text => "IO error: " ++ text
  | .registryClosed backend => "Connection registry is closed; not opening " ++ backend
  | .subscriberInstalled =>
    "Failed to install subscriber: a global default trace dispatcher has already been set"
  | .reported text => text

def isDataAccess : Error → Bool
  | .dataAccess _ => true
  | _ => false

/-- An error read again from a wider view: its text is the context that was put around it. -/
def inContext (text : String) (_cause : Error) : Error := .reported text

end Error
end Resync

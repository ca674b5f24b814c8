import Resync.Error

/-! # Setting up the log

A filter from the environment is used if it is a filter, and the configured one
otherwise. Only one subscriber can be installed.
-/
namespace Resync.Log

def chooseFilter (environment : Option String) (configured : String) :
    Except Error (List Filter.Directive) :=
  match environment.map Filter.parse with
  | some (.ok directives) => .ok directives
  | _ =>
    match Filter.parse configured with
    | .ok directives => .ok directives
    | .error fault => .error (.config (.filter configured fault))

/-- The directives of the subscriber that is installed, if there was none before. -/
def install (installed : Bool) (environment : Option String) (configured : String) :
    Except Error (List Filter.Directive) := do
  let directives ← chooseFilter environment configured
  if installed then throw .subscriberInstalled
  pure directives

end Resync.Log

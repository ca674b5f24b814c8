import Resync.Pattern.Basic
import Resync.Text.AlphanumericTable
import Resync.Text.Blank
import Resync.Text.CaseTable
import Resync.Text.Piece

/-! # Log filters

A filter is a list of directives between commas. A directive is a level, or a target
with an optional level, or a target and a span in brackets with an optional level;
empty directives are skipped. A name that is no level is a target.

A span may have a field behind its name, perhaps with a value: a number or a pattern.

Blank characters around a directive do not count for its shape, but its parts are cut out
of the text with the blanks, at the offsets that they have in the text without them.
-/
namespace Resync.Log

inductive Level where
  | off | error | warn | info | debug | trace
  deriving DecidableEq, Repr

namespace Filter

inductive Fault where
  | directive
  | level
  | value (fault : Pattern.Fault)
  deriving DecidableEq, Repr

def Fault.message : Fault → String
  | .directive => "invalid filter directive"
  | .level =>
    "error parsing level filter: expected one of \"off\", \"error\", \"warn\", \"info\", " ++
      "\"debug\", \"trace\", or a number 0-5"
  | .value .form => "invalid field filter: error building NFA"
  | .value .bound =>
    "invalid field filter: unsupported regex feature for DFAs: cannot build DFAs for regexes " ++
      "with Unicode word boundaries; switch to ASCII word boundaries, or heuristically " ++
      "enable Unicode word boundaries or use a different regex engine"

structure Directive where
  target : Option String := none
  span : Option String := none
  level : Level := .trace
  deriving DecidableEq, Repr

def levels : List Level := [.off, .error, .warn, .info, .debug, .trace]

def levelNames : List (String × Level) :=
  [("off", .off), ("error", .error), ("warn", .warn), ("info", .info), ("debug", .debug),
    ("trace", .trace)]

def isDigits (cs : List Char) : Bool := !cs.isEmpty && cs.all Char.isDigit

def number? (cs : List Char) : Option Nat :=
  let digits := if cs.head? = some '+' then cs.drop 1 else cs
  if isDigits digits then some (digits.foldl (fun n c => n * 10 + (c.toNat - 48)) 0) else none

def level? (cs : List Char) : Option Level :=
  match number? cs with
  | some n => levels[n]?
  | none => levelNames.lookup (String.ofList (cs.map Char.toLower))

/-- The level behind the equality sign; none at all means everything. -/
def levelAfter (cs : List Char) : Except Fault Level :=
  if cs.isEmpty then .ok .trace
  else
    match level? cs with
    | some l => .ok l
    | none => .error .level

def startsTarget (c : Char) : Bool :=
  c == '-' || c == ':' || c == '_' || Text.inRanges Text.alphanumericRanges c.toNat

/-- What follows a closed bracket, from an offset of the text `whole` on: nothing, or a
level. -/
def afterSpan (whole : List Char) (offset : Nat) (d : Directive) :
    List Char → Except Fault Directive
  | [] => .ok d
  | '=' :: _ =>
    (levelAfter (Text.afterBytes (offset + 1) whole)).map fun l => { d with level := l }
  | _ => .error .directive

/-- Decimal digits, with a point among them or around them or without one. -/
def isFraction (cs : List Char) : Bool :=
  let (whole, rest) := cs.span Char.isDigit
  match rest with
  | [] => !whole.isEmpty
  | '.' :: places => places.all Char.isDigit && !(whole.isEmpty && places.isEmpty)
  | _ => false

def dropSign : List Char → List Char
  | '+' :: cs | '-' :: cs => cs
  | cs => cs

/-- A number: decimal digits, perhaps with a point and a power of ten, or one of the words
for infinity and for no number. -/
def isNumber (cs : List Char) : Bool :=
  let unsigned := dropSign cs
  let (digits, power) := unsigned.span fun c => c ≠ 'e' && c ≠ 'E'
  ["inf", "infinity", "nan"].contains (String.ofList (unsigned.map Char.toLower)) ||
    isFraction digits && (power.isEmpty || isDigits (dropSign (power.drop 1)))

/-- The value of a field: what is between the first equality sign and the next. -/
def value? (field : List Char) : Option (List Char) :=
  match field.dropWhile (· ≠ '=') with
  | [] => none
  | _ :: cs => some (cs.takeWhile (· ≠ '='))

/-- A field has no value, or one that is a number or a pattern. -/
def checkField (cs : List Char) : Except Fault Unit :=
  match (value? cs).filter (fun v => !isNumber v) with
  | none => .ok ()
  | some v => (Pattern.fault? v).elim (.ok ()) fun fault => .error (.value fault)

def inField (whole : List Char) (offset : Nat) (d : Directive) (cs : List Char) :
    Except Fault Directive :=
  let (field, rest) := cs.span (· ≠ '\x7d')
  let stop := offset + Text.byteLength field
  if field.isEmpty || rest.isEmpty then .error .directive
  else do
    checkField (Text.piece offset stop whole)
    match rest with
    | '\x7d' :: ']' :: rest => afterSpan whole (stop + 2) d rest
    | _ => .error .directive

def inSpan (whole : List Char) (offset : Nat) (d : Directive) (cs : List Char) :
    Except Fault Directive :=
  let (name, rest) := cs.span fun c => c ≠ ']' && c ≠ '\x7b'
  let stop := offset + Text.byteLength name
  let span := String.ofList (Text.piece offset stop whole)
  match rest with
  | ']' :: rest => afterSpan whole (stop + 1) { d with span := some span } rest
  | '\x7b' :: rest =>
    inField whole (stop + 1) { d with span := if name.isEmpty then none else some span } rest
  | _ => .error .directive

def levelOrTarget (name : List Char) : Directive :=
  match level? name with
  | some l => { level := l }
  | none => { target := some (String.ofList name) }

def directive (whole : List Char) : Except Fault Directive :=
  match Text.trimBlank whole with
  | [] => .error .directive
  | '[' :: cs => inSpan whole 1 {} cs
  | c :: cs =>
    if !startsTarget c then .error .directive
    else
      let (name, rest) := (c :: cs).span fun c => c ≠ '=' && c ≠ '['
      let stop := Text.byteLength name
      let target := String.ofList (Text.piece 0 stop whole)
      match rest with
      | '=' :: _ =>
        (levelAfter (Text.afterBytes (stop + 1) whole)).map fun l =>
          { target := some target, level := l }
      | '[' :: rest => inSpan whole (stop + 1) { target := some target } rest
      | _ => .ok (levelOrTarget whole)

def parts : List Char → List (List Char)
  | [] => [[]]
  | ',' :: cs => [] :: parts cs
  | c :: cs =>
    match parts cs with
    | [] => [[c]]
    | p :: ps => (c :: p) :: ps

/-- The directives of a filter, or what is wrong with the first one that is none. -/
def parse (s : String) : Except Fault (List Directive) :=
  ((parts s.toList).filter fun p => !p.isEmpty).mapM directive

end Filter
end Resync.Log

import CertRenewal.Text.Case
import CertRenewal.Text.Decimal

/-
  Log levels: numbers, of which some have names. A level is looked up by its name in any case.
  Two names are known that are no levels; asking for one of these is an error of its own.
-/

namespace CertRenewal.Logging

/-- A level; the higher, the more severe. -/
structure Level where
  value : Int
deriving DecidableEq, Repr

namespace Level

def notSet : Level := ⟨0⟩
def debug : Level := ⟨10⟩
def info : Level := ⟨20⟩
def warning : Level := ⟨30⟩
def error : Level := ⟨40⟩
def critical : Level := ⟨50⟩

/-- The names by which levels are looked up. -/
def names : List (String × Level) :=
  [("CRITICAL", critical), ("FATAL", critical), ("ERROR", error), ("WARNING", warning),
    ("WARN", warning), ("INFO", info), ("DEBUG", debug), ("NOTSET", notSet)]

/-- The name that a level without one is given. -/
def numbered (l : Level) : String := "Level " ++ String.ofList (Decimal.intDigits l.value)

/-- The name of a level in printed records. -/
def label (l : Level) : String :=
  match names.find? fun (_, m) => m == l with
  | some (name, _) => name
  | none => l.numbered

/-- The name of a level in exported records. -/
def severity (l : Level) : String :=
  if l = warning then "WARN" else if l = critical then "FATAL" else l.label

end Level

/-- Why there is no level of a name. -/
inductive LevelError where
  | unknown (name : String)
  | formatText
  | styleTable
deriving DecidableEq, Repr

namespace LevelError

/-- The names that are known and are no levels. -/
def others : List (String × LevelError) := [("BASIC_FORMAT", formatText), ("_STYLES", styleTable)]

/-- The wording of an error. -/
def message : LevelError → String
  | unknown name => "module 'logging' has no attribute '" ++ name ++ "'"
  | formatText => "Unknown level: '%(levelname)s:%(name)s:%(message)s'"
  | styleTable =>
    "Level not an integer or a valid string: \x7b'%': (<class 'logging.PercentStyle'>, " ++
      "'%(levelname)s:%(name)s:%(message)s'), '\x7b': (<class 'logging.StrFormatStyle'>, " ++
      "'\x7blevelname\x7d:\x7bname\x7d:\x7bmessage\x7d'), " ++
      "'$': (<class 'logging.StringTemplateStyle'>, " ++
      "'$\x7blevelname\x7d:$\x7bname\x7d:$\x7bmessage\x7d')\x7d"

end LevelError

/-- The level of a name in upper case. -/
def Level.ofName (name : String) : Except LevelError Level :=
  match names.lookup name with
  | some l => .ok l
  | none =>
    match LevelError.others.lookup name with
    | some e => .error e
    | none => .error (.unknown name)

end CertRenewal.Logging

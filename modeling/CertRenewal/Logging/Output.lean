import CertRenewal.Bytes
import CertRenewal.Logging.Setup
import CertRenewal.Pieces

/-
  What becomes of one record: whether a logger lets it pass, which of its text the printer
  writes, and which provider exports it.
-/

namespace CertRenewal.Logging

/-- A record for the log. -/
structure Message where
  logger : String
  level : Level
  text : String
deriving DecidableEq, Repr

/-- A record as a provider exports it. -/
structure Exported where
  body : String
  severity : String
deriving DecidableEq, Repr

/-- The logger of accesses, which has a level of its own. -/
def accessLogger : List Char := "uvicorn.access".toList

/-- Whether a logger is the access log or below it. -/
def isAccess (logger : String) : Bool :=
  logger.toList = accessLogger || (after? (accessLogger ++ ['.']) logger.toList).isSome

/-- The root logger goes by its name or by none. -/
def printedName (logger : String) : String := if logger = "" then "root" else logger

namespace State

/-- The level from which on a logger lets records pass: its own or, if it has none, the level of
the root logger. -/
def threshold (s : State) (logger : String) : Level :=
  if isAccess logger && s.accessLevel != .notSet then s.accessLevel else s.level

/-- Whether a record passes its logger. Levels that are not positive never pass. -/
def passes (s : State) (m : Message) : Bool :=
  0 < m.level.value && (s.threshold m.logger).value ≤ m.level.value

/-- What follows the time on a printed line; a line on which no mark follows it is empty. -/
def afterTime (line : List Char) : List Char :=
  match cut? " - ".toList line with
  | some (_, rest) => rest
  | none => []

/-- The lines of a printed record, without the time in front of the first. Line feeds in the
record end lines, and no other character does. -/
def printedLines (m : Message) : List String :=
  let record := "T - " ++ printedName m.logger ++ " - " ++ m.level.label ++ " - " ++ m.text
  (Pieces.splitAt '\n' record.toList).map fun l => String.ofList (afterTime l)

/-- The lines that the printer writes for a record. -/
def printed (s : State) (m : Message) : List String :=
  if s.passes m && s.handlers.any (·.isPrinter) then printedLines m else []

/-- What a provider exports for a record. -/
def exportedBy (s : State) (m : Message) (provider : Nat) : List Exported :=
  s.handlers.filterMap fun
    | .exporter level p =>
      if p = provider ∧ s.passes m ∧ level.value ≤ m.level.value then
        some ⟨m.text, m.level.severity⟩
      else none
    | _ => none

/-- What the providers made so far export for a record, each in its own list. -/
def exported (s : State) (m : Message) : List (List Exported) :=
  (List.range s.providers).map (s.exportedBy m)

end State

end CertRenewal.Logging

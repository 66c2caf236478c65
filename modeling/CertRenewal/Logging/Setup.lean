import CertRenewal.Logging.Level
import CertRenewal.Settings

/-
  Setting up the log. The root logger has a list of handlers. A set-up takes those of an earlier
  set-up away, one after another, and puts two of its own behind all others, an exporter and a
  printer; handlers that are not its own it leaves alone. A set-up that fails for its level has
  already taken the earlier handlers away; the level of the root logger is then as it was.
-/

namespace CertRenewal.Logging

/-- A handler: the exporter of a provider from a level on, a printer, or somebody else's. The
handlers of a set-up carry the number of the provider that it made. -/
inductive Handler where
  | exporter (level : Level) (provider : Nat)
  | printer (provider : Nat)
  | foreign (tag : Nat)
deriving DecidableEq, Repr

namespace Handler

/-- Whether a set-up installed the handler. -/
def isOwn : Handler → Bool
  | foreign _ => false
  | _ => true

/-- Whether the handler is a printer. -/
def isPrinter : Handler → Bool
  | printer _ => true
  | _ => false

/-- The level from which on a handler takes records. -/
def level : Handler → Level
  | exporter level _ => level
  | _ => .notSet

end Handler

/-- The state of the log: the root logger, the level of the access log, and how many providers
have been made. -/
structure State where
  handlers : List Handler
  level : Level
  accessLevel : Level
  providers : Nat
deriving DecidableEq, Repr

/-- The state before anything is set up. -/
def State.initial : State := ⟨[], .warning, .notSet, 0⟩

/-- What a set-up asks for. -/
structure Demand where
  serviceName : String
  levelName : String
deriving DecidableEq, Repr

/-- A text that counts as not given when it is empty. -/
def orElse (s : Option String) (other : String) : String :=
  match s with
  | none => other
  | some s => if s = "" then other else s

/-- What a set-up asks for where names may be left to the settings. -/
def Demand.of (settings : Settings) (name level : Option String) : Demand where
  serviceName := orElse name settings.appName
  levelName := Text.upper (orElse level settings.logLevel)

/-- The name of a service in what it exports; one without a name is called unknown. -/
def resourceName (name : String) : String := if name = "" then "unknown_service" else name

namespace State

/-- The handlers that no set-up installed. -/
def foreign (s : State) : List Handler := s.handlers.filter (!·.isOwn)

/-- The handlers that a set-up installed. -/
def own (s : State) : List Handler := s.handlers.filter (·.isOwn)

/-- Puts a handler behind all others, unless it is among them. -/
def attach (s : State) (h : Handler) : State :=
  if h ∈ s.handlers then s else { s with handlers := s.handlers ++ [h] }

/-- Takes a handler away, where it stands first; one that is not there is not missed. -/
def detach (s : State) (h : Handler) : State := { s with handlers := s.handlers.erase h }

/-- Takes the handlers of earlier set-ups away. The list changes at every step, so the walk goes
along the list as it was. -/
def clear (s : State) : State :=
  s.handlers.foldl (fun s h => if h.isOwn then s.detach h else s) s

/-- One set-up: the state after it and, when it came through, the name in its exports. -/
def setup (s : State) (d : Demand) : State × Except LevelError String :=
  let cleared := { s with providers := s.providers + 1 }.clear
  match Level.ofName d.levelName with
  | .error e => (cleared, .error e)
  | .ok level =>
    let installed := (cleared.attach (.exporter level s.providers)).attach (.printer s.providers)
    ({ installed with level := level, accessLevel := .warning },
      .ok (resourceName d.serviceName))

/-- Adds a handler of somebody else's. -/
def add (s : State) (tag : Nat) : State := s.attach (.foreign tag)

/-- Takes a handler of somebody else's away. -/
def remove (s : State) (tag : Nat) : State := s.detach (.foreign tag)

end State

end CertRenewal.Logging

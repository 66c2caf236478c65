import CertRenewal.Lifecycle.Service
import CertRenewal.Text.Case
import CertRenewal.Validation.Value

/-
  The settings of the program. Each has a name and a value that holds when nothing is given. A
  value may be given directly or by the environment, where a direct one wins. Names count in any
  case: of direct values the one whose name is spelled as here wins, else the first, and of those
  of the environment the last. All bad values are reported at once, in the order of the settings.
-/

namespace CertRenewal

open Validation

/-- The settings. -/
structure Settings where
  appName : String
  appEnv : String
  logLevel : String
  host : String
  portNumber : Int
  keySize : Int
  reserveWindowDays : Int
  signerGroups : String
  useFullName : Bool
  apiVersion : String
deriving DecidableEq, Repr

namespace Settings

/-- The settings when nothing is given. -/
def standard : Settings where
  appName := "Webhook TLS Manager"
  appEnv := "development"
  logLevel := "INFO"
  host := "0.0.0.0"
  portNumber := 8443
  keySize := 2048
  reserveWindowDays := 180
  signerGroups := "system:masters,system:authenticated"
  useFullName := false
  apiVersion := "certificates.k8s.io/v1beta1"

/-- The names of the settings, in order. -/
def names : List String :=
  ["APP_NAME", "APP_ENV", "LOG_LEVEL", "HOST", "PORT", "TLS_KEY_SIZE", "TLS_RESERVE_WINDOW_DAYS",
    "TLS_SIGNER_GROUPS", "TLS_USE_FQDN_AS_COMMON_NAME", "TLS_CSR_API_VERSION"]

/-- Where values are given: directly, or by the environment. No text among them is broken. -/
structure Sources where
  direct : List (String × Json)
  environment : List (String × String)
deriving Repr

/-- The value of a name, in any case; of several ones the first counts. -/
def lookupAnyCase {α : Type} (name : String) (values : List (String × α)) : Option α :=
  (values.find? fun (n, _) => Text.lower n == Text.lower name).map (·.2)

namespace Sources

/-- The value given for a setting. -/
def given? (s : Sources) (name : String) : Option Json :=
  match s.direct.lookup name with
  | some v => some v
  | none =>
    match lookupAnyCase name s.direct with
    | some v => some v
    | none => (lookupAnyCase name s.environment.reverse).map .text

/-- A setting by its name, its check and its value when nothing is given. -/
def read {α : Type} (s : Sources) (name : String) (check : Json → Except Problem α) (other : α) :
    Checked α :=
  match s.given? name with
  | some v => checkAt [name] check v
  | none => .good other

end Sources

/-- The settings that some sources give. -/
def load (s : Sources) : Checked Settings :=
  Settings.mk <$> s.read "APP_NAME" text standard.appName
    <*> s.read "APP_ENV" text standard.appEnv
    <*> s.read "LOG_LEVEL" text standard.logLevel
    <*> s.read "HOST" text standard.host
    <*> s.read "PORT" integer standard.portNumber
    <*> s.read "TLS_KEY_SIZE" integer standard.keySize
    <*> s.read "TLS_RESERVE_WINDOW_DAYS" integer standard.reserveWindowDays
    <*> s.read "TLS_SIGNER_GROUPS" text standard.signerGroups
    <*> s.read "TLS_USE_FQDN_AS_COMMON_NAME" flag standard.useFullName
    <*> s.read "TLS_CSR_API_VERSION" text standard.apiVersion

/-- The groups of a list that is separated by commas, without blanks around them and without the
blank ones. -/
def groupsOf (s : String) : List String :=
  ((Pieces.splitAt ',' s.toList).map (Text.trimList Text.isBlank)).filter (· ≠ []) |>.map
    String.ofList

/-- The groups that requests name. -/
def groups (s : Settings) : List String := groupsOf s.signerGroups

/-- The service that the settings describe. -/
def service (s : Settings) : Except Rotation.WindowError Lifecycle.Service := do
  let policy ← Rotation.Policy.ofSpan (.ofDays s.reserveWindowDays)
  .ok ⟨policy, ⟨s.groups, KeyUsage.all, s.apiVersion⟩, s.keySize, s.useFullName⟩

/-- The settings by name, with the list of groups. -/
def toJson (s : Settings) : Json :=
  .object
    [("APP_NAME", .text s.appName), ("APP_ENV", .text s.appEnv), ("LOG_LEVEL", .text s.logLevel),
      ("HOST", .text s.host), ("PORT", .int s.portNumber), ("TLS_KEY_SIZE", .int s.keySize),
      ("TLS_RESERVE_WINDOW_DAYS", .int s.reserveWindowDays),
      ("TLS_SIGNER_GROUPS", .text s.signerGroups),
      ("TLS_USE_FQDN_AS_COMMON_NAME", .bool s.useFullName),
      ("TLS_CSR_API_VERSION", .text s.apiVersion), ("signer_groups", .texts s.groups)]

/-! ## Launching -/

/-- What a server is launched with. -/
structure Launch where
  target : String
  host : String
  portNumber : Int
  logLevel : String
deriving DecidableEq, Repr

/-- What the server is launched with under these settings. -/
def launch (s : Settings) : Launch := ⟨"main:app", s.host, s.portNumber, Text.lower s.logLevel⟩

/-- A launch as a value. -/
def Launch.toJson (l : Launch) : Json :=
  .object
    [("target", .text l.target), ("host", .text l.host), ("port", .int l.portNumber),
      ("log_level", .text l.logLevel)]

end Settings

end CertRenewal

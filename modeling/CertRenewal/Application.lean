import CertRenewal.Api.Endpoints
import CertRenewal.Metrics

/-
  The application over its life: the log, and the service that is installed. Every start sets up
  the log anew and then the service that the settings describe. A start that fails leaves the
  service that was installed before it.
-/

namespace CertRenewal

/-- Why a start fails. -/
inductive StartError where
  | level (e : Logging.LevelError)
  | window (e : Rotation.WindowError)
deriving DecidableEq, Repr

/-- The wording of an error. -/
def StartError.message : StartError → String
  | level e => e.message
  | window e => e.message

/-- What has been set up by a start. -/
structure Started where
  service : Lifecycle.Service
  logName : String
  traceName : String
  metrics : Metrics.Setup
  setsLogFormat : Bool
deriving DecidableEq, Repr

/-- The application. -/
structure Application where
  log : Logging.State
  service : Option Lifecycle.Service
deriving DecidableEq, Repr

namespace Application

/-- The application before any start. -/
def initial : Application := ⟨.initial, none⟩

/-- Installs the service that the settings describe. -/
def install (a : Application) (s : Settings) :
    Application × Except Rotation.WindowError Lifecycle.Service :=
  match s.service with
  | .ok service => ({ a with service := some service }, .ok service)
  | .error e => (a, .error e)

/-- One start under some settings. -/
def start (a : Application) (s : Settings) : Application × Except StartError Started :=
  let (log, logged) := a.log.setup (.of s (some s.appName) none)
  match logged with
  | .error e => ({ a with log := log }, .error (.level e))
  | .ok logName =>
    match install { a with log := log } s with
    | (a, .error e) => (a, .error (.window e))
    | (a, .ok service) =>
      (a, .ok ⟨service, logName, Logging.resourceName s.appName, Metrics.setup s.appName true,
        true⟩)

/-- The answer to a request. -/
def respond (a : Application) (s : Settings) (source : Rsa.KeySource) (clock : Moment)
    (r : Api.Request) : Telemetry.Traced Api.EndpointError Api.Response :=
  Api.respond ⟨s, a.service, source, clock⟩ r

end Application

end CertRenewal

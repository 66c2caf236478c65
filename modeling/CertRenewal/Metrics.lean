import CertRenewal.Json.Value
import CertRenewal.Logging.Setup

/-
  Setting up the instruments: who reads them, and under which name of the service. One reader
  waits to be asked; the other, which is left out on demand, writes to the console at an
  interval.
-/

namespace CertRenewal.Metrics

/-- A reader of instruments. -/
inductive Reader where
  | onDemand
  | periodic (milliseconds : Nat)
deriving DecidableEq, Repr

namespace Reader

/-- The name of a reader. -/
def label : Reader → String
  | onDemand => "PrometheusMetricReader"
  | periodic _ => "PeriodicExportingMetricReader"

/-- The interval of a reader that has one. -/
def interval? : Reader → Option Nat
  | onDemand => none
  | periodic milliseconds => some milliseconds

end Reader

/-- A minute, so that the console is written to only now and then. -/
def consoleInterval : Nat := 60000

/-- The instruments as they are set up. -/
structure Setup where
  serviceName : String
  readers : List Reader
deriving DecidableEq, Repr

/-- The set-up under a name, with or without the console. -/
def setup (name : String) (console : Bool) : Setup :=
  ⟨Logging.resourceName name, .onDemand :: if console then [.periodic consoleInterval] else []⟩

end CertRenewal.Metrics

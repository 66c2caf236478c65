import CertRenewal.Lifecycle.Service

/-
  Calls to a service as values, so that one can speak of a controller's whole life: a list of
  calls, each to a service and with a source of keys of its own, and what all of them together
  tell an observer. A call that fails does not end the list.
-/

namespace CertRenewal.Lifecycle

open Telemetry Rotation

/-- A call to a service. -/
inductive Call where
  | check (pair : Option Pair) (now : Present)
  | issue (source : Rsa.KeySource) (identity : Identity) (fullName : Option Bool)
  | renew (source : Rsa.KeySource) (identity : Identity) (pair : Option Pair) (now : Present)
      (force : Bool) (fullName : Option Bool)
deriving DecidableEq, Repr

/-- What a call gives. -/
inductive Answer where
  | decision (d : Decision)
  | bundle (b : Bundle)
  | outcome (o : Outcome)
deriving DecidableEq, Repr

/-- One call. -/
def Service.perform (s : Service) : Call → Traced RenewError Answer
  | .check pair now => do
    let d ← (s.check pair now).mapError RenewError.evaluation
    pure (.decision d)
  | .issue source i fullName => do
    let b ← (s.issue source i fullName).mapError RenewError.issue
    pure (.bundle b)
  | .renew source i pair now force fullName => do
    let o ← s.renew source i pair now force fullName
    pure (.outcome o)

/-- Calls one after another, each to a service of its own. -/
def performAll (calls : List (Service × Call)) : List (Traced RenewError Answer) :=
  calls.map fun (s, c) => s.perform c

/-- What calls tell together. -/
def eventsOf (calls : List (Service × Call)) : List Event :=
  (performAll calls).flatMap Traced.events

end CertRenewal.Lifecycle

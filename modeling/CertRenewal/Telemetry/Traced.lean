import CertRenewal.Telemetry.Event

/-
  Computations that are observed: a list of events, and a value or an error. What has been told
  stays told when an error ends the computation. A span adds one event after those of its body,
  whichever way the body ends.
-/

namespace CertRenewal.Telemetry

/-- An observed computation that has ended. -/
structure Traced (ε α : Type) where
  events : List Event
  outcome : Except ε α

namespace Traced

variable {ε δ α β : Type}

/-- A value without events. -/
def done (a : α) : Traced ε α := ⟨[], .ok a⟩

/-- An error without events. -/
def fail (e : ε) : Traced ε α := ⟨[], .error e⟩

/-- One computation after another; an error ends both. -/
def andThen (x : Traced ε α) (f : α → Traced ε β) : Traced ε β :=
  match x.outcome with
  | .ok a => ⟨x.events ++ (f a).events, (f a).outcome⟩
  | .error e => ⟨x.events, .error e⟩

instance : Monad (Traced ε) where
  pure := done
  bind := andThen

/-- One event. -/
def tell (e : Event) : Traced ε Unit := ⟨[e], .ok ()⟩

/-- One log record. -/
def log (r : Record) : Traced ε Unit := tell (.log r)

/-- One sample. -/
def count (s : Sample) : Traced ε Unit := tell (.sample s)

/-- A result without events. -/
def ofExcept (x : Except ε α) : Traced ε α := ⟨[], x⟩

/-- The same computation with its error seen as another one. -/
def mapError (f : ε → δ) (x : Traced ε α) : Traced δ α := ⟨x.events, x.outcome.mapError f⟩

/-- A computation whose error is answered by some further events before it goes on. -/
def onError (x : Traced ε α) (events : ε → List Event) : Traced ε α :=
  match x.outcome with
  | .ok _ => x
  | .error e => ⟨x.events ++ events e, x.outcome⟩

/-- A computation as a span with some attributes, and further ones that its value gives. -/
def inSpan (operation : Operation) (attributes : List Attribute) (more : α → List Attribute)
    (x : Traced ε α) : Traced ε α :=
  let ended : EndedSpan :=
    match x.outcome with
    | .ok a => ⟨operation, attributes ++ more a, false⟩
    | .error _ => ⟨operation, attributes, true⟩
  ⟨x.events ++ [.spanEnded ended], x.outcome⟩

/-! ## What is told, and how it ends -/

@[simp] theorem events_pure (a : α) : (pure a : Traced ε α).events = [] := rfl

@[simp] theorem outcome_pure (a : α) : (pure a : Traced ε α).outcome = .ok a := rfl

@[simp] theorem events_fail (e : ε) : (fail e : Traced ε α).events = [] := rfl

@[simp] theorem outcome_fail (e : ε) : (fail e : Traced ε α).outcome = .error e := rfl

@[simp] theorem events_tell (e : Event) : (tell e : Traced ε Unit).events = [e] := rfl

@[simp] theorem outcome_tell (e : Event) : (tell e : Traced ε Unit).outcome = .ok () := rfl

theorem bind_of_ok {x : Traced ε α} {a : α} (f : α → Traced ε β) (h : x.outcome = .ok a) :
    x >>= f = ⟨x.events ++ (f a).events, (f a).outcome⟩ := by
  show andThen x f = _
  simp [andThen, h]

theorem bind_of_error {x : Traced ε α} {e : ε} (f : α → Traced ε β) (h : x.outcome = .error e) :
    x >>= f = ⟨x.events, .error e⟩ := by
  show andThen x f = _
  simp [andThen, h]

@[simp] theorem outcome_inSpan (operation : Operation) (attributes : List Attribute)
    (more : α → List Attribute) (x : Traced ε α) :
    (x.inSpan operation attributes more).outcome = x.outcome := rfl

end Traced

end CertRenewal.Telemetry

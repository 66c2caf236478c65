import CertRenewal.Application
import Mathlib.Data.List.Induction

/-
  Starts of the application, one after another, each under settings of its own. Main statement:
  `Application.startups`. A start comes through exactly if the settings name a log level and a
  reserve window in range. What is installed then is the service that they describe, whole; a start
  that fails changes nothing about it. So the endpoints find the service of the last start that
  came through, or none if no start did.
-/

namespace CertRenewal

open Lifecycle Rotation

/-! ## What settings describe -/

namespace Settings

/-- The settings are such that a start comes through. -/
structure Starts (s : Settings) : Prop where
  level : Text.upper s.logLevel ∈
    ["CRITICAL", "FATAL", "ERROR", "WARNING", "WARN", "INFO", "DEBUG", "NOTSET"]
  window_nonneg : 0 ≤ s.reserveWindowDays
  window_le : s.reserveWindowDays ≤ 999999999

/-- The service is the one that the settings describe. -/
structure Describes (s : Settings) (service : Service) : Prop where
  window : service.policy.window.microseconds =
    s.reserveWindowDays * (24 * 60 * 60 * 1000000)
  groups : service.builder.groups = groupsOf s.signerGroups
  usages : service.builder.usages = [.digitalSignature, .keyEncipherment, .serverAuth, .clientAuth]
  apiVersion : service.builder.apiVersion = s.apiVersion
  keySize : service.keySize = s.keySize
  useFullName : service.useFullName = s.useFullName

variable {s : Settings}

/-- Settings describe one service. -/
theorem Describes.unique {service other : Service} (h : s.Describes service)
    (h' : s.Describes other) : service = other := by
  obtain ⟨⟨⟨window⟩, nonneg⟩, ⟨groups, usages, apiVersion⟩, keySize, useFullName⟩ := service
  obtain ⟨⟨⟨window'⟩, nonneg'⟩, ⟨groups', usages', apiVersion'⟩, keySize', useFullName'⟩ := other
  have window : window = window' := h.window.trans h'.window.symm
  have groups : groups = groups' := h.groups.trans h'.groups.symm
  have usages : usages = usages' := h.usages.trans h'.usages.symm
  have apiVersion : apiVersion = apiVersion' := h.apiVersion.trans h'.apiVersion.symm
  have keySize : keySize = keySize' := h.keySize.trans h'.keySize.symm
  have useFullName : useFullName = useFullName' := h.useFullName.trans h'.useFullName.symm
  subst window groups usages apiVersion keySize useFullName
  rfl

end Settings

/-! ## The parts of a start -/

theorem Logging.Level.ofName_eq_ok_iff {name : String} : (∃ l, ofName name = .ok l) ↔
    name ∈ ["CRITICAL", "FATAL", "ERROR", "WARNING", "WARN", "INFO", "DEBUG", "NOTSET"] := by
  have known : (names.lookup name).isSome = true ↔
      name ∈ ["CRITICAL", "FATAL", "ERROR", "WARNING", "WARN", "INFO", "DEBUG", "NOTSET"] := by
    rw [List.lookup_isSome_iff]
    simp [names]
  rw [← known]
  unfold ofName
  cases names.lookup name with
  | some l => exact iff_of_true ⟨l, rfl⟩ rfl
  | none =>
    refine iff_of_false ?_ nofun
    rintro ⟨l, h⟩
    dsimp only at h
    split at h
    · cases h
    · cases h

/-- A set-up of the log comes through if there is a level of the name that is asked for. -/
theorem Logging.State.outcome_setup (log : State) (d : Demand) :
    (log.setup d).2 = (Level.ofName d.levelName).map fun _ => resourceName d.serviceName := by
  unfold setup
  cases Level.ofName d.levelName with
  | ok level => rfl
  | error e => rfl

theorem Span.days_ofDays (days : Int) : (ofDays days).days = days :=
  Int.mul_ediv_cancel days (by decide)

theorem Rotation.Policy.ofSpan_ofDays_of_mem {days : Int} (h : 0 ≤ days) (le : days ≤ 999999999) :
    ∃ p, ofSpan (.ofDays days) = .ok p ∧ p.window = .ofDays days := by
  have range : -Span.maxDays ≤ days ∧ days ≤ Span.maxDays := ⟨by unfold Span.maxDays; omega, le⟩
  have nonneg : 0 ≤ (Span.ofDays days).microseconds := Int.mul_nonneg h (by decide)
  unfold ofSpan Span.check
  rw [Span.days_ofDays, if_pos range]
  dsimp only
  rw [make, dif_pos nonneg]
  exact ⟨_, rfl, rfl⟩

theorem Rotation.Policy.ofSpan_ofDays_of_not_mem {days : Int}
    (h : ¬ (0 ≤ days ∧ days ≤ 999999999)) : ∃ e, ofSpan (.ofDays days) = .error e := by
  unfold ofSpan Span.check
  rw [Span.days_ofDays]
  split
  · rename_i window checked
    split at checked
    · rename_i range
      obtain rfl := Except.ok.inj checked
      have negative : ¬ 0 ≤ (Span.ofDays days).microseconds := by
        have above : days ≤ 999999999 := range.2
        unfold Span.ofDays Span.microsecondsPerDay
        dsimp only
        omega
      rw [make, dif_neg negative]
      exact ⟨_, rfl⟩
    · cases checked
  · exact ⟨_, rfl⟩

namespace Settings

variable {s : Settings}

theorem service_of_mem (h : 0 ≤ s.reserveWindowDays) (le : s.reserveWindowDays ≤ 999999999) :
    ∃ service, s.service = .ok service ∧ s.Describes service := by
  obtain ⟨p, made, window⟩ := Policy.ofSpan_ofDays_of_mem h le
  unfold service
  rw [made]
  refine ⟨_, rfl, ?_, rfl, rfl, rfl, rfl, rfl⟩
  dsimp only
  rw [window]
  rfl

theorem service_of_not_mem (h : ¬ (0 ≤ s.reserveWindowDays ∧ s.reserveWindowDays ≤ 999999999)) :
    ∃ e, s.service = .error e := by
  obtain ⟨e, failed⟩ := Policy.ofSpan_ofDays_of_not_mem h
  unfold service
  rw [failed]
  exact ⟨e, rfl⟩

end Settings

/-! ## One start -/

namespace Application

/-- The ways in which a start ends: the service that the settings describe is installed, or what
was installed before stays. -/
inductive Steps (a : Application) (s : Settings) : Application × Except StartError Started → Prop where
  | through {log : Logging.State} {service : Service} {started : Started} (h : s.Starts)
      (describes : s.Describes service) (told : started.service = service) :
      Steps a s (⟨log, some service⟩, .ok started)
  | failed {log : Logging.State} {e : StartError} (h : ¬ s.Starts) :
      Steps a s (⟨log, a.service⟩, .error e)

theorem steps (a : Application) (s : Settings) : Steps a s (a.start s) := by
  have asked : (Logging.Demand.of s (some s.appName) none).levelName = Text.upper s.logLevel := rfl
  have logged := a.log.outcome_setup (.of s (some s.appName) none)
  rw [asked] at logged
  unfold start install
  generalize a.log.setup (.of s (some s.appName) none) = set at logged
  obtain ⟨log, outcome⟩ := set
  dsimp only at logged
  subst logged
  cases named : Logging.Level.ofName (Text.upper s.logLevel) with
  | error e =>
    apply Steps.failed
    intro h
    obtain ⟨l, known⟩ := Logging.Level.ofName_eq_ok_iff.2 h.level
    rw [named] at known
    cases known
  | ok l =>
    have level := Logging.Level.ofName_eq_ok_iff.1 ⟨l, named⟩
    dsimp only [Except.map]
    by_cases range : 0 ≤ s.reserveWindowDays ∧ s.reserveWindowDays ≤ 999999999
    · obtain ⟨service, made, describes⟩ := s.service_of_mem range.1 range.2
      rw [made]
      exact .through ⟨level, range.1, range.2⟩ describes rfl
    · obtain ⟨e, refused⟩ := s.service_of_not_mem range
      rw [refused]
      apply Steps.failed
      intro h
      exact range ⟨h.window_nonneg, h.window_le⟩

/-- A start comes through under good settings, and under no others. -/
theorem exists_started_iff (a : Application) (s : Settings) :
    (∃ started, (a.start s).2 = .ok started) ↔ s.Starts := by
  have shape := steps a s
  generalize a.start s = x at shape
  cases shape with
  | through h => exact iff_of_true ⟨_, rfl⟩ h
  | failed h => exact iff_of_false (fun ⟨_, ok⟩ => nomatch ok) h

theorem service_start_of_starts (a : Application) {s : Settings} (h : s.Starts) :
    ∃ service, (a.start s).1.service = some service ∧ s.Describes service := by
  have shape := steps a s
  generalize a.start s = x at shape
  cases shape with
  | through _ describes => exact ⟨_, rfl, describes⟩
  | failed bad => exact absurd h bad

theorem service_start_of_not_starts (a : Application) {s : Settings} (h : ¬ s.Starts) :
    (a.start s).1.service = a.service := by
  have shape := steps a s
  generalize a.start s = x at shape
  cases shape with
  | through good => exact absurd good h
  | failed => rfl

/-! ## All starts -/

/-- The application after some starts. -/
def after (a : Application) (ss : List Settings) : Application :=
  ss.foldl (fun a s => (a.start s).1) a

/-- The service that the endpoints ask. -/
def lifecycleService (a : Application) : Except Api.EndpointError Service :=
  match a.service with
  | some service => .ok service
  | none => .error .noService

/-- An endpoint whose body can be read asks this service, and ends with its error if there is none. -/
theorem ask_eq_bind (a : Application) (s : Settings) (source : Rsa.KeySource) (clock : Moment)
    (r : Api.Request) {α : Type} (fields : Json → Validation.Checked α)
    (f : Service → α → Telemetry.Traced Api.EndpointError Api.Response) {v : Json}
    (readable : Api.bodyValue r = .ok v) :
    Api.ask ⟨s, a.service, source, clock⟩ r fields f =
      Telemetry.Traced.ofExcept a.lifecycleService >>= fun service =>
        Api.onChecked (Api.checkBody fields v) (f service) := by
  unfold Api.ask lifecycleService
  rw [readable]
  cases a.service with
  | none => rfl
  | some service => rfl

/-- Starts that fail change nothing about what is installed. -/
theorem service_after_of_not_starts {ss : List Settings} (a : Application)
    (h : ∀ s ∈ ss, ¬ s.Starts) : (a.after ss).service = a.service := by
  apply List.foldlRecOn (motive := fun b : Application => b.service = a.service) ss
  · rfl
  · intro b kept s mem
    rw [service_start_of_not_starts b (h s mem), kept]

/-- What is installed after some starts: nothing if all failed, else the service that the settings
of the last one describe which did not. -/
inductive Installs : List Settings → Option Service → Prop where
  | nothing {ss : List Settings} (h : ∀ s ∈ ss, ¬ s.Starts) : Installs ss none
  | last {before later : List Settings} {s : Settings} {service : Service} (hs : s.Starts)
      (hl : ∀ t ∈ later, ¬ t.Starts) (describes : s.Describes service) :
      Installs (before ++ s :: later) (some service)

/-- One more start that fails leaves it at that. -/
theorem Installs.append_of_not_starts {ss : List Settings} {s : Settings} {found : Option Service}
    (h : Installs ss found) (hs : ¬ s.Starts) : Installs (ss ++ [s]) found := by
  have failed : ∀ {l : List Settings}, (∀ t ∈ l, ¬ t.Starts) → ∀ t ∈ l ++ [s], ¬ t.Starts := by
    intro l hl
    rw [List.forall_mem_append, List.forall_mem_singleton]
    exact ⟨hl, hs⟩
  cases h with
  | nothing h => exact .nothing (failed h)
  | last first later describes =>
    rw [List.append_assoc, List.cons_append]
    exact .last first (failed later) describes

theorem installs_after (ss : List Settings) : Installs ss (initial.after ss).service := by
  induction ss using List.reverseRecOn with
  | nil => exact .nothing nofun
  | append_singleton ss s ih =>
    have step : initial.after (ss ++ [s]) = ((initial.after ss).start s).1 := List.foldl_append ..
    rw [step]
    by_cases hs : s.Starts
    · obtain ⟨service, installed, describes⟩ := service_start_of_starts (initial.after ss) hs
      rw [installed]
      exact .last hs nofun describes
    · rw [service_start_of_not_starts _ hs]
      exact ih.append_of_not_starts hs

/-- The service that is described by the last start that came through is the one that is found. -/
theorem Installs.service_after {ss : List Settings} {service : Service}
    (h : Installs ss (some service)) : (initial.after ss).service = some service := by
  cases h with
  | @last before later s _ hs hl describes =>
    have split : initial.after (before ++ s :: later) =
        ((initial.after before).start s).1.after later := List.foldl_append ..
    obtain ⟨other, installed, described⟩ := service_start_of_starts (initial.after before) hs
    rw [split, service_after_of_not_starts _ hl, installed, described.unique describes]

/-- Settings that name no log level, and settings with a window before none at all. -/
def verbose : Settings := { Settings.standard with logLevel := "verbose" }
def late : Settings := { Settings.standard with logLevel := "debug", reserveWindowDays := -1 }

end Application

end CertRenewal

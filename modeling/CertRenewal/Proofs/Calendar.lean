import CertRenewal.Time.Moment
import Mathlib.Algebra.BigOperators.Intervals

/-
  The place of a calendar second on the time line. The formula that the library uses for it is
  compared with plain counting: whole years by their lengths, whole months by theirs, and then
  the days, hours, minutes and seconds of the fields. Main statement: `seconds_eq_elapsed`.
  The seconds of the years 1 to 9999 also stay well inside the range of a span.
-/

namespace CertRenewal

namespace CalendarSecond

/-- The number of days in a year. -/
def yearLength (year : Nat) : Nat := if isLeapYear year then 366 else 365

/-- The seconds since the start of the year 1, counted year by year and month by month. -/
def elapsed (t : CalendarSecond) : Nat :=
  ((∑ y ∈ Finset.Ico 1 t.year, yearLength y) + (∑ m ∈ Finset.Ico 1 t.month, daysInMonth t.year m) +
    (t.day - 1)) * 86400 + t.hour * 3600 + t.minute * 60 + t.second

/-- The fields are a second of the years that the calendar of answers has. -/
def IsDated (t : CalendarSecond) : Prop := t.isValid = true ∧ 1 ≤ t.year

instance (t : CalendarSecond) : Decidable t.IsDated := inferInstanceAs (Decidable (_ ∧ _))

/-! ## Fields in range -/

theorem isDated_iff (t : CalendarSecond) :
    t.IsDated ↔ 1 ≤ t.year ∧ t.year ≤ 9999 ∧ 1 ≤ t.month ∧ t.month ≤ 12 ∧ 1 ≤ t.day ∧
      t.day ≤ daysInMonth t.year t.month ∧ t.hour ≤ 23 ∧ t.minute ≤ 59 ∧ t.second ≤ 59 := by
  simp only [IsDated, isValid, Bool.and_eq_true, decide_eq_true_eq]
  tauto

theorem daysInMonth_le (year month : Nat) : daysInMonth year month ≤ 31 := by
  unfold daysInMonth
  split
  · split <;> omega
  all_goals omega

/-! ## Years -/

/-- The number of the first day of a year grows by the length of the year before. -/
theorem daysBeforeYear_succ (year : Nat) :
    daysBeforeYear (year + 1) = daysBeforeYear year + yearLength year := by
  have leap : isLeapYear year = true ↔ year % 4 = 0 ∧ (year % 100 ≠ 0 ∨ year % 400 = 0) := by
    simp [isLeapYear]
  unfold daysBeforeYear yearLength
  by_cases h : isLeapYear year = true
  · rw [if_pos h]
    rw [leap] at h
    push_cast
    omega
  · rw [if_neg h]
    rw [leap] at h
    push_cast
    omega

theorem daysBeforeYear_eq_sum (year : Nat) (h : 1 ≤ year) :
    daysBeforeYear year = ((∑ y ∈ Finset.Ico 1 year, yearLength y : Nat) : Int) := by
  induction year, h using Nat.le_induction with
  | base => rfl
  | succ year h ih =>
    rw [daysBeforeYear_succ, ih, Finset.sum_Ico_succ_top h]
    push_cast
    rfl

theorem daysBeforeYear_bounds (year : Nat) (h : 1 ≤ year) (h' : year ≤ 9999) :
    0 ≤ daysBeforeYear year ∧ daysBeforeYear year ≤ 3652000 := by
  unfold daysBeforeYear
  dsimp only
  constructor <;> omega

/-! ## Months -/

theorem daysBeforeMonth_succ (year month : Nat) (h : 1 ≤ month) :
    daysBeforeMonth year (month + 1) = daysBeforeMonth year month + daysInMonth year month := by
  cases month with
  | zero => omega
  | succ month => rfl

theorem daysBeforeMonth_eq_sum (year month : Nat) (h : 1 ≤ month) :
    daysBeforeMonth year month = ∑ m ∈ Finset.Ico 1 month, daysInMonth year m := by
  induction month, h using Nat.le_induction with
  | base => rfl
  | succ month h ih => rw [daysBeforeMonth_succ year month h, ih, Finset.sum_Ico_succ_top h]

theorem daysBeforeMonth_le (year month : Nat) : daysBeforeMonth year month ≤ 31 * month := by
  induction month with
  | zero => simp [daysBeforeMonth]
  | succ month ih =>
    cases month with
    | zero => simp [daysBeforeMonth]
    | succ month =>
      rw [daysBeforeMonth_succ year _ (by omega)]
      have := daysInMonth_le year (month + 1)
      omega

/-! ## Seconds -/

/-- The formula for the place of a second is the count of the seconds before it. -/
theorem seconds_eq_elapsed (t : CalendarSecond) (h : t.IsDated) : t.seconds = t.elapsed := by
  rw [isDated_iff] at h
  obtain ⟨hy, -, hm, -, hd, -⟩ := h
  unfold seconds dayNumber elapsed
  rw [daysBeforeYear_eq_sum t.year hy, daysBeforeMonth_eq_sum t.year t.month hm]
  push_cast
  omega

theorem seconds_bounds (t : CalendarSecond) (h : t.IsDated) :
    0 ≤ t.seconds ∧ t.seconds < 3653000 * 86400 := by
  rw [isDated_iff] at h
  obtain ⟨hy, hy', hm, hm', hd, hd', hh, hmin, hs⟩ := h
  have years := daysBeforeYear_bounds t.year hy hy'
  have months := daysBeforeMonth_le t.year t.month
  have days := daysInMonth_le t.year t.month
  unfold seconds dayNumber
  constructor <;> omega

end CalendarSecond

/-! ## Moments -/

namespace Moment

/-- What a clock or a caller can name: a second of the years 1 to 9999, microseconds within it,
and an offset of less than a day. -/
def IsProper (m : Moment) : Prop :=
  m.second.IsDated ∧ m.microsecond < 1000000 ∧
    ∀ o ∈ m.offset, -86400000000 < o.microseconds ∧ o.microseconds < 86400000000

/-- The microseconds by which the fields of a moment run ahead of universal time. -/
def ahead (m : Moment) : Int := m.offset.elim 0 Span.microseconds

theorem instant_eq (m : Moment) (h : m.IsProper) :
    m.instant.microseconds = m.second.elapsed * 1000000 + m.microsecond - m.ahead := by
  rw [← CalendarSecond.seconds_eq_elapsed m.second h.1]
  unfold instant ahead
  cases m.offset <;> rfl

theorem instant_bounds (m : Moment) (h : m.IsProper) :
    -86400000000 < m.instant.microseconds ∧ m.instant.microseconds < 3654000 * 86400000000 := by
  obtain ⟨dated, micro, offset⟩ := h
  have seconds := CalendarSecond.seconds_bounds m.second dated
  unfold instant
  cases ho : m.offset with
  | none => dsimp only; omega
  | some o =>
    have bounds := offset o (by simp [ho])
    dsimp only
    omega

end Moment

/-! ## Spans between instants -/

namespace Span

/-- The span can be held, and its parts make it up: whole days of either sign, seconds of a day
and microseconds of a second. -/
def IsNormal (s : Span) : Prop :=
  s.check = .ok s ∧ (0 ≤ s.secondsOfDay ∧ s.secondsOfDay < 86400) ∧
    (0 ≤ s.microsecondsOfSecond ∧ s.microsecondsOfSecond < 1000000) ∧
    ofParts s.days s.secondsOfDay s.microsecondsOfSecond = s

theorem isNormal_of_check {s : Span} (h : s.check = .ok s) : s.IsNormal := by
  refine ⟨h, ?_, ?_, ofParts_parts s⟩
  · unfold secondsOfDay microsecondsPerDay microsecondsPerSecond
    omega
  · unfold microsecondsOfSecond microsecondsPerSecond
    omega

/-- The time left from a moment to a second of the calendar can always be held. -/
theorem isNormal_since (t : CalendarSecond) (ht : t.IsDated) (m : Moment) (hm : m.IsProper) :
    (t.instant.since m.instant).IsNormal := by
  have seconds := CalendarSecond.seconds_bounds t ht
  have instant := Moment.instant_bounds m hm
  apply isNormal_of_check
  unfold check days maxDays microsecondsPerDay
  rw [if_pos]
  simp only [Instant.since, CalendarSecond.instant]
  omega

end Span

end CertRenewal

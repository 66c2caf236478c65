import CertRenewal.Api.Endpoints
import CertRenewal.Proofs.CertificateParts
import CertRenewal.Proofs.Decisions
import CertRenewal.Proofs.Events
import Mathlib.Data.String.Basic

/-
  The calendar as decisions use it. One second later by the clock, with a carry through minute,
  hour, day, month and year, is one second more on the time line, through every month and leap
  year; and seconds come in the order of their fields, which is also the order of the texts that
  stand for them. Main statement: `check_follows_calendar`, on the checks of readable certificates.
-/

namespace CertRenewal

/-! ## Lists in order -/

section Order

variable {α : Type} [LinearOrder α]

/-- Lists that begin with parts of one length are in the order of these parts, or else of what
follows them. -/
theorem append_lt_append_iff {l m : List α} (size : l.length = m.length) {x y : List α} :
    l ++ x < m ++ y ↔ l < m ∨ l = m ∧ x < y := by
  induction l generalizing m with
  | nil =>
    obtain rfl : m = [] := List.length_eq_zero_iff.1 size.symm
    simp
  | cons a l ih =>
    cases m with
    | nil => cases size
    | cons b m =>
      rw [List.cons_append, List.cons_append, List.cons_lt_cons_iff, List.cons_lt_cons_iff,
        ih (Nat.succ.inj size), List.cons.injEq]
      tauto

/-- What is in the order of something else is equal where the other thing is. -/
theorem eq_iff_of_lt_iff {β : Type} [LinearOrder β] {a b : α} {c d : β} (less : a < b ↔ c < d)
    (more : b < a ↔ d < c) : a = b ↔ c = d := by
  rw [le_antisymm_iff, le_antisymm_iff, ← not_lt, ← not_lt, ← not_lt, ← not_lt, less, more]

end Order

namespace Decimal

theorem padded_inj {width a b : Nat} (ha : a < 10 ^ width) (hb : b < 10 ^ width) :
    padded width a = padded width b ↔ a = b := by
  constructor
  · intro same
    have value := congrArg value same
    rwa [value_padded, value_padded, Nat.mod_eq_of_lt ha, Nat.mod_eq_of_lt hb] at value
  · rintro rfl
    rfl

theorem digit_lt_iff {a b : Nat} (ha : a < 10) (hb : b < 10) : digit a < digit b ↔ a < b := by
  have digits : ∀ a b : Fin 10, digit a < digit b ↔ a.val < b.val := by decide
  exact digits ⟨a, ha⟩ ⟨b, hb⟩

/-- Texts of numbers at one width are in the order of the numbers. -/
theorem padded_lt_iff {width a b : Nat} (ha : a < 10 ^ width) (hb : b < 10 ^ width) :
    padded width a < padded width b ↔ a < b := by
  induction width generalizing a b with
  | zero =>
    obtain rfl : a = 0 := by simpa using ha
    obtain rfl : b = 0 := by simpa using hb
    simp
  | succ width ih =>
    rw [Nat.pow_succ] at ha hb
    have high_a : a / 10 < 10 ^ width := by omega
    have high_b : b / 10 < 10 ^ width := by omega
    rw [padded, padded, append_lt_append_iff (by rw [length_padded, length_padded]),
      ih high_a high_b, padded_inj high_a high_b, List.cons_lt_cons_iff,
      digit_lt_iff (by omega) (by omega)]
    simp only [List.not_lt_nil, and_false, or_false]
    omega

/-- A number at a fixed width decides the order before anything that follows it. -/
theorem padded_cons_lt_iff {width a b : Nat} (ha : a < 10 ^ width) (hb : b < 10 ^ width)
    {mark : Char} {x y : List Char} :
    padded width a ++ mark :: x < padded width b ++ mark :: y ↔ a < b ∨ a = b ∧ x < y := by
  rw [append_lt_append_iff (by rw [length_padded, length_padded]), padded_lt_iff ha hb,
    padded_inj ha hb, List.cons_lt_cons_iff]
  simp only [lt_irrefl, true_and, false_or]

end Decimal

namespace CalendarSecond

/-! ## The order of the fields -/

/-- The fields, from the year to the second. -/
def fields (t : CalendarSecond) : List Nat :=
  [t.year, t.month, t.day, t.hour, t.minute, t.second]

theorem fields_inj {t u : CalendarSecond} : t.fields = u.fields ↔ t = u := by
  cases t
  cases u
  simp [fields]

variable {t u : CalendarSecond}

/-- Texts of times are in the order of the fields. -/
theorem isoText_lt_iff (ht : t.IsDated) (hu : u.IsDated) :
    t.isoText < u.isoText ↔ t.fields < u.fields := by
  have days_t := daysInMonth_le t.year t.month
  have days_u := daysInMonth_le u.year u.month
  rw [isDated_iff] at ht hu
  have year : ∀ {n}, n ≤ 9999 → n < 10 ^ 4 := by omega
  have two : ∀ {n}, n ≤ 99 → n < 10 ^ 2 := by omega
  have zone : "+00:00".toList = '+' :: "00:00".toList := by decide
  rw [String.lt_iff_toList_lt, isoText, isoText, zone]
  simp only [String.toList_ofList, isoChars, List.append_assoc, List.cons_append]
  rw [Decimal.padded_cons_lt_iff (year (by omega)) (year (by omega)),
    Decimal.padded_cons_lt_iff (two (by omega)) (two (by omega)),
    Decimal.padded_cons_lt_iff (two (by omega)) (two (by omega)),
    Decimal.padded_cons_lt_iff (two (by omega)) (two (by omega)),
    Decimal.padded_cons_lt_iff (two (by omega)) (two (by omega)),
    Decimal.padded_cons_lt_iff (two (by omega)) (two (by omega))]
  simp only [fields, List.cons_lt_cons_iff, lt_irrefl]

/-! ## The order on the time line -/

/-- A number below another year's number leaves room for the whole year. -/
theorem daysBeforeYear_add_le {year later : Nat} (h : year < later) :
    daysBeforeYear year + yearLength year ≤ daysBeforeYear later := by
  induction later, h using Nat.le_induction with
  | base => rw [daysBeforeYear_succ]
  | succ later h ih =>
    rw [daysBeforeYear_succ]
    omega

theorem daysBeforeMonth_add_le (year : Nat) {month later : Nat} (positive : 1 ≤ month)
    (h : month < later) :
    daysBeforeMonth year month + daysInMonth year month ≤ daysBeforeMonth year later := by
  induction later, h using Nat.le_induction with
  | base => rw [daysBeforeMonth_succ year month positive]
  | succ later h ih =>
    rw [daysBeforeMonth_succ year later (by omega)]
    omega

/-- The months make up the year. -/
theorem daysBeforeMonth_thirteen (year : Nat) : daysBeforeMonth year 13 = yearLength year := by
  simp only [daysBeforeMonth, daysInMonth, yearLength]
  split <;> rfl

theorem dayNumber_lt (ht : t.IsDated) (hu : u.IsDated)
    (h : [t.year, t.month, t.day] < [u.year, u.month, u.day]) : t.dayNumber < u.dayNumber := by
  rw [isDated_iff] at ht hu
  obtain ⟨-, -, month_t, month_t', day_t, day_t', -⟩ := ht
  obtain ⟨-, -, month_u, month_u', day_u, day_u', -⟩ := hu
  simp only [List.cons_lt_cons_iff, List.not_lt_nil, and_false, or_false] at h
  unfold dayNumber
  rcases h with year | ⟨year, month | ⟨month, day⟩⟩
  · have years := daysBeforeYear_add_le year
    have months := daysBeforeMonth_add_le t.year month_t (Nat.lt_succ_of_le month_t')
    rw [daysBeforeMonth_thirteen] at months
    omega
  · have months := daysBeforeMonth_add_le t.year month_t month
    rw [← year]
    omega
  · rw [← year, ← month]
    omega

theorem seconds_lt (ht : t.IsDated) (hu : u.IsDated) (h : t.fields < u.fields) :
    t.seconds < u.seconds := by
  have parts := (append_lt_append_iff (l := [t.year, t.month, t.day])
    (m := [u.year, u.month, u.day]) rfl).1 h
  have days := dayNumber_lt ht hu
  rw [isDated_iff] at ht hu
  unfold seconds
  rcases parts with date | ⟨date, time⟩
  · have days := days date
    omega
  · have days : t.dayNumber = u.dayNumber := by
      simp only [List.cons.injEq, and_true] at date
      obtain ⟨year, month, day⟩ := date
      rw [dayNumber, dayNumber, year, month, day]
    simp only [List.cons_lt_cons_iff, List.not_lt_nil, and_false, or_false] at time
    omega

/-- Seconds follow each other on the time line in the order of their fields. -/
theorem seconds_lt_iff (ht : t.IsDated) (hu : u.IsDated) :
    t.seconds < u.seconds ↔ t.fields < u.fields := by
  refine ⟨fun h => ?_, seconds_lt ht hu⟩
  rcases lt_trichotomy t.fields u.fields with before | same | behind
  · exact before
  · rw [fields_inj.1 same] at h
    exact absurd h (lt_irrefl _)
  · exact absurd (h.trans (seconds_lt hu ht behind)) (lt_irrefl _)

theorem seconds_inj (ht : t.IsDated) (hu : u.IsDated) : t.seconds = u.seconds ↔ t = u := by
  rw [← fields_inj]
  exact eq_iff_of_lt_iff (seconds_lt_iff ht hu) (seconds_lt_iff hu ht)

theorem isoText_inj (ht : t.IsDated) (hu : u.IsDated) : t.isoText = u.isoText ↔ t = u := by
  rw [← fields_inj]
  exact eq_iff_of_lt_iff (isoText_lt_iff ht hu) (isoText_lt_iff hu ht)

theorem instant_inj (ht : t.IsDated) (hu : u.IsDated) : t.instant = u.instant ↔ t = u := by
  rw [← seconds_inj ht hu, instant, instant, Instant.mk.injEq]
  omega

/-! ## The next second -/

/-- The days of a month. Every fourth year has a longer February, but of the full centuries only
every fourth. -/
def monthLength (year month : Nat) : Nat :=
  if month = 2 then
    if 4 ∣ year ∧ (¬ 100 ∣ year ∨ 400 ∣ year) then 29 else 28
  else if month = 4 ∨ month = 6 ∨ month = 9 ∨ month = 11 then 30
  else 31

/-- The second that follows in the calendar. What is full begins anew and is carried. -/
def next (t : CalendarSecond) : CalendarSecond :=
  if t.second < 59 then { t with second := t.second + 1 }
  else if t.minute < 59 then { t with minute := t.minute + 1, second := 0 }
  else if t.hour < 23 then { t with hour := t.hour + 1, minute := 0, second := 0 }
  else if t.day < monthLength t.year t.month then ⟨t.year, t.month, t.day + 1, 0, 0, 0⟩
  else if t.month < 12 then ⟨t.year, t.month + 1, 1, 0, 0, 0⟩
  else ⟨t.year + 1, 1, 1, 0, 0, 0⟩

/-- The last second of the year 9999. -/
def last : CalendarSecond := ⟨9999, 12, 31, 23, 59, 59⟩

/-- The fields are those of a second of some year, be it one with more than four digits. -/
structure IsRegular (t : CalendarSecond) : Prop where
  month : 1 ≤ t.month ∧ t.month ≤ 12
  day : 1 ≤ t.day ∧ t.day ≤ monthLength t.year t.month
  hour : t.hour ≤ 23
  minute : t.minute ≤ 59
  second : t.second ≤ 59

theorem daysInMonth_eq (year month : Nat) : daysInMonth year month = monthLength year month := by
  have leap : isLeapYear year = true ↔ 4 ∣ year ∧ (¬ 100 ∣ year ∨ 400 ∣ year) := by
    simp [isLeapYear, Nat.dvd_iff_mod_eq_zero]
  unfold daysInMonth monthLength
  split
  · simp [leap]
  all_goals simp_all

theorem isDated_iff_isRegular : t.IsDated ↔ t.IsRegular ∧ 1 ≤ t.year ∧ t.year ≤ 9999 := by
  rw [isDated_iff, daysInMonth_eq]
  constructor
  · rintro ⟨year, year', month, month', day, day', hour, minute, second⟩
    exact ⟨⟨⟨month, month'⟩, ⟨day, day'⟩, hour, minute, second⟩, year, year'⟩
  · rintro ⟨⟨⟨month, month'⟩, ⟨day, day'⟩, hour, minute, second⟩, year, year'⟩
    exact ⟨year, year', month, month', day, day', hour, minute, second⟩

theorem monthLength_pos (year month : Nat) : 1 ≤ monthLength year month := by
  unfold monthLength
  split
  · split <;> decide
  · split <;> decide

theorem isRegular_next (h : t.IsRegular) : t.next.IsRegular := by
  obtain ⟨⟨month, month'⟩, ⟨day, day'⟩, hour, minute, second⟩ := h
  have zero : ∀ {n : Nat}, 0 ≤ n := Nat.zero_le _
  unfold next
  split
  · exact ⟨⟨month, month'⟩, ⟨day, day'⟩, hour, minute, by dsimp only; omega⟩
  split
  · exact ⟨⟨month, month'⟩, ⟨day, day'⟩, hour, by dsimp only; omega, zero⟩
  split
  · exact ⟨⟨month, month'⟩, ⟨day, day'⟩, by dsimp only; omega, zero, zero⟩
  split
  · rename_i more
    exact ⟨⟨month, month'⟩, ⟨Nat.succ_pos _, more⟩, zero, zero, zero⟩
  split
  · rename_i more
    exact ⟨⟨Nat.succ_pos _, more⟩, ⟨le_rfl, monthLength_pos _ _⟩, zero, zero, zero⟩
  · exact ⟨⟨le_rfl, Nat.succ_pos 11⟩, ⟨le_rfl, monthLength_pos _ _⟩, zero, zero, zero⟩

/-- Where the calendar goes on by a second, so does the time line. -/
theorem seconds_next (h : t.IsRegular) : t.next.seconds = t.seconds + 1 := by
  obtain ⟨⟨month, month'⟩, ⟨day, day'⟩, hour, minute, second⟩ := h
  have days := daysBeforeMonth_succ t.year t.month month
  rw [daysInMonth_eq] at days
  unfold next
  split
  · simp only [seconds, dayNumber]
    omega
  split
  · simp only [seconds, dayNumber]
    omega
  split
  · simp only [seconds, dayNumber]
    omega
  split
  · simp only [seconds, dayNumber]
    omega
  rename_i full
  split
  · simp only [seconds, dayNumber]
    omega
  · -- The last month is full, and with it the year.
    have december : t.month = 12 := by omega
    have years := daysBeforeYear_succ t.year
    have months : daysBeforeMonth t.year (12 + 1) = yearLength t.year :=
      daysBeforeMonth_thirteen t.year
    have first : daysBeforeMonth (t.year + 1) 1 = 0 := rfl
    rw [december] at days day' full
    simp only [seconds, dayNumber, december]
    omega

/-- A new year begins behind a second with all other fields full. -/
theorem year_next (t : CalendarSecond) :
    t.next.year = t.year ∨
      t.next.year = t.year + 1 ∧ 12 ≤ t.month ∧ monthLength t.year t.month ≤ t.day ∧
        23 ≤ t.hour ∧ 59 ≤ t.minute ∧ 59 ≤ t.second := by
  unfold next
  repeat' split
  all_goals first | exact .inl rfl | exact .inr ⟨rfl, by omega⟩

theorem year_next_le (h : t.IsDated) (more : t ≠ last) : t.next.year ≤ 9999 := by
  obtain ⟨⟨⟨-, month'⟩, ⟨-, day'⟩, hour', minute', second'⟩, -, year⟩ := isDated_iff_isRegular.1 h
  rcases year_next t with same | ⟨new, month, day, hour, minute, second⟩
  · omega
  · have room : t.year ≠ 9999 := by
      intro full
      have december : t.month = 12 := by omega
      have length : monthLength t.year t.month = 31 := by rw [full, december]; decide
      rw [length] at day day'
      apply more
      rw [← fields_inj, fields, full, december, show t.day = 31 by omega, show t.hour = 23 by omega,
        show t.minute = 59 by omega, show t.second = 59 by omega]
      rfl
    omega

/-- Every second of the years 1 to 9999 but the last is followed by one of these years, and no
second of them lies between the two. -/
theorem isDated_next (h : t.IsDated) (more : t ≠ last) :
    t.next.IsDated ∧ ∀ v : CalendarSecond, v.IsDated → t.fields < v.fields →
      ¬ v.fields < t.next.fields := by
  obtain ⟨regular, year, -⟩ := isDated_iff_isRegular.1 h
  have positive : 1 ≤ t.next.year := by
    rcases year_next t with same | ⟨new, -⟩ <;> omega
  have dated : t.next.IsDated :=
    isDated_iff_isRegular.2 ⟨isRegular_next regular, positive, year_next_le h more⟩
  refine ⟨dated, fun v hv after before => ?_⟩
  rw [← seconds_lt_iff h hv] at after
  rw [← seconds_lt_iff hv dated, seconds_next regular] at before
  omega

end CalendarSecond

/-! ## The next microsecond -/

namespace Moment

/-- The moment one microsecond later, by the fields and at the same offset. -/
def tick (m : Moment) : Moment :=
  if m.microsecond < 999999 then { m with microsecond := m.microsecond + 1 }
  else { m with second := m.second.next, microsecond := 0 }

/-- The fields are those of a moment of some year. -/
def IsRegular (m : Moment) : Prop := m.second.IsRegular ∧ m.microsecond < 1000000

variable {m : Moment}

theorem IsProper.isRegular (h : m.IsProper) : m.IsRegular :=
  ⟨(CalendarSecond.isDated_iff_isRegular.1 h.1).1, h.2.1⟩

theorem isRegular_tick (h : m.IsRegular) : m.tick.IsRegular := by
  unfold tick
  split
  · rename_i more
    exact ⟨h.1, Nat.succ_lt_succ more⟩
  · exact ⟨CalendarSecond.isRegular_next h.1, Nat.succ_pos 999999⟩

theorem instant_tick (h : m.IsRegular) :
    m.tick.instant.microseconds = m.instant.microseconds + 1 := by
  obtain ⟨second, micro⟩ := h
  have later := CalendarSecond.seconds_next second
  unfold tick
  split
  · simp only [instant]
    omega
  · simp only [instant, later]
    omega

/-- As many microseconds later by the fields are as many on the time line. -/
theorem instant_iterate_tick (h : m.IsRegular) (k : Nat) :
    (tick^[k] m).instant.microseconds = m.instant.microseconds + k := by
  induction k generalizing m with
  | zero => simp
  | succ k ih =>
    rw [Function.iterate_succ_apply, ih (isRegular_tick h), instant_tick h]
    omega

end Moment

/-! ## Decisions -/

open Rotation Telemetry

namespace Lifecycle.Service

/-- The check of a pair comes to a decision with a time left, and gives the end of the certificate
as a text, in the answer as in the log. -/
def Tells (s : Service) (pair : Pair) (now : Present) (left : Span) (text : String) : Prop :=
  ∃ d, (s.check (some pair) now).outcome = .ok d ∧ d.remaining = some left ∧
    (Api.decisionFields d).lookup "not_after" = some (.text text) ∧
    .log (.rotationChecked d) ∈ (s.check (some pair) now).events ∧
    (Record.rotationChecked d).fields.lookup "not_after" = some (.text text)

/-- A decision that was reached is in the log. -/
theorem log_mem_check {s : Service} {pair : Option Pair} {now : Present} {d : Decision}
    (h : (s.check pair now).outcome = .ok d) :
    .log (.rotationChecked d) ∈ (s.check pair now).events := by
  have shape := s.checks pair now
  generalize s.check pair now = x at shape h
  cases shape with
  | decided =>
    obtain rfl := Except.ok.inj h
    simp [toldDecision]
  | unreadable =>
    obtain rfl := Except.ok.inj h
    simp [toldDecision]
  | undecided => cases h

theorem tells_of_expiration (s : Service) {pair : Pair} {t : CalendarSecond} {now : Present}
    {i : Instant} (ends : Certificate.expiration pair.certificate = .ok t)
    (told : now.instant? = some i) : s.Tells pair now (t.instant.since i) t.isoText := by
  have reached : (s.check (some pair) now).outcome = .ok (s.policy.compare t i) := by
    rw [outcome_check]
    exact Policy.outcome_evaluate_dated ends told
  refine ⟨s.policy.compare t i, reached, ?_, ?_, log_mem_check reached, ?_⟩ <;>
  · unfold Policy.compare
    dsimp only
    split <;> rfl

/-- Of two readable certificates one has more time left exactly if it ends later by the fields of
the calendar, and exactly if its end is the greater one as a text; to the next second in the
calendar it is one second more. Where the present is later by some microseconds, on the time line
or by its fields, as many less are left. -/
theorem check_follows_calendar (s : Service) (a b : Pair) (t u : CalendarSecond) (now : Present)
    (i : Instant) (end_a : Certificate.expiration a.certificate = .ok t)
    (end_b : Certificate.expiration b.certificate = .ok u) (told : now.instant? = some i) :
    ∃ left right : Span, s.Tells a now left t.isoText ∧ s.Tells b now right u.isoText ∧
      (u = t.next → right.microseconds = left.microseconds + 1000000) ∧
      (left < right ↔ t.fields < u.fields) ∧ (t.isoText < u.isoText ↔ t.fields < u.fields) ∧
      (left = right ↔ t.instant = u.instant) ∧ (t.fields = u.fields ↔ t.instant = u.instant) ∧
      (t.isoText = u.isoText ↔ t.instant = u.instant) ∧
      (∀ (k : Int) (later : Present), later.instant? = some ⟨i.microseconds + k⟩ →
        s.Tells a later ⟨left.microseconds - k⟩ t.isoText) ∧
      ∀ (m : Moment) (k : Nat) (later : Present), m.IsProper → m.instant = i →
        later.instant? = some (Moment.tick^[k] m).instant →
        s.Tells a later ⟨left.microseconds - k⟩ t.isoText := by
  have dated_t := Certificate.isDated_of_expiration end_a
  have dated_u := Certificate.isDated_of_expiration end_b
  have instants := CalendarSecond.instant_inj dated_t dated_u
  have moved : ∀ (k : Int) (later : Present), later.instant? = some ⟨i.microseconds + k⟩ →
      s.Tells a later ⟨(t.instant.since i).microseconds - k⟩ t.isoText := by
    intro k later shows_later
    have less : t.instant.since ⟨i.microseconds + k⟩ =
        ⟨(t.instant.since i).microseconds - k⟩ := by
      simp only [Instant.since, Span.mk.injEq]
      omega
    rw [← less]
    exact s.tells_of_expiration end_a shows_later
  refine ⟨t.instant.since i, u.instant.since i, s.tells_of_expiration end_a told,
    s.tells_of_expiration end_b told, ?_, ?_, CalendarSecond.isoText_lt_iff dated_t dated_u, ?_, ?_,
    ?_, moved, ?_⟩
  · rintro rfl
    have next := CalendarSecond.seconds_next (CalendarSecond.isDated_iff_isRegular.1 dated_t).1
    simp only [Instant.since, CalendarSecond.instant, next]
    omega
  · rw [← CalendarSecond.seconds_lt_iff dated_t dated_u]
    show t.seconds * 1000000 - i.microseconds < u.seconds * 1000000 - i.microseconds ↔ _
    omega
  · rw [instants, ← CalendarSecond.seconds_inj dated_t dated_u]
    simp only [Instant.since, CalendarSecond.instant, Span.mk.injEq]
    omega
  · rw [CalendarSecond.fields_inj, instants]
  · rw [CalendarSecond.isoText_inj dated_t dated_u, instants]
  · intro m k later proper same shows_later
    refine moved k later ?_
    rw [shows_later, ← same, ← Moment.instant_iterate_tick proper.isRegular]

/-- A pair whose certificate ends at the given time. -/
def pairUntil (t : Certificate.Timestamp) : Pair :=
  ⟨Pem.write (Certificate.block (Certificate.sample 2 t).encode), []⟩

/-- The last second of the year 999 and the first of the year 1000, which needs no padding. -/
theorem check_follows_calendar_pairUntil :
    ∃ left right : Span,
      Service.standard.Tells (pairUntil ⟨.long, ⟨999, 12, 31, 23, 59, 59⟩⟩)
        (.named ⟨⟨2026, 12, 31, 23, 59, 59⟩, 999999, none⟩) left "0999-12-31T23:59:59+00:00" ∧
      Service.standard.Tells (pairUntil ⟨.long, ⟨1000, 1, 1, 0, 0, 0⟩⟩)
        (.named ⟨⟨2026, 12, 31, 23, 59, 59⟩, 999999, none⟩) right "1000-01-01T00:00:00+00:00" ∧
      right.microseconds = left.microseconds + 1000000 ∧
      "0999-12-31T23:59:59+00:00" < "1000-01-01T00:00:00+00:00" ∧
      Service.standard.Tells (pairUntil ⟨.long, ⟨999, 12, 31, 23, 59, 59⟩⟩)
        (.named ⟨⟨2027, 1, 1, 0, 0, 0⟩, 0, none⟩) ⟨left.microseconds - 1⟩
        "0999-12-31T23:59:59+00:00" := by
  have ends : ∀ t : Certificate.Timestamp,
      Certificate.decode? (Certificate.sample 2 t).encode = some (Certificate.sample 2 t) →
      t.second.year ≠ 0 → Certificate.expiration (pairUntil t).certificate = .ok t.second := by
    intro t decoded year
    have held : Certificate.Holds (pairUntil t).certificate (Certificate.sample 2 t) :=
      (Certificate.holds_write_iff _ _).2 decoded
    rw [Certificate.expiration_of_holds held, if_pos (.inr rfl)]
    exact if_neg year
  have proper : Moment.IsProper ⟨⟨2026, 12, 31, 23, 59, 59⟩, 999999, none⟩ :=
    ⟨by decide, by decide, by simp⟩
  obtain ⟨left, right, earlier, later, next, -, texts, -, -, -, -, moved⟩ :=
    check_follows_calendar .standard _ _ _ _ (.named ⟨⟨2026, 12, 31, 23, 59, 59⟩, 999999, none⟩) _
      (ends ⟨.long, ⟨999, 12, 31, 23, 59, 59⟩⟩ (by decide +kernel) (by decide))
      (ends ⟨.long, ⟨1000, 1, 1, 0, 0, 0⟩⟩ (by decide +kernel) (by decide)) rfl
  exact ⟨left, right, earlier, later, next rfl, texts.2 (by decide),
    moved _ 1 (.named ⟨⟨2027, 1, 1, 0, 0, 0⟩, 0, none⟩) proper rfl (by decide)⟩

end Lifecycle.Service

end CertRenewal

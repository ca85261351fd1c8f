import TaskTwin.Schedule.TimeZones

/-!
# Occurrences of a schedule

The next occurrence of a daily or a weekly schedule after an instant.  Dates are
advanced with the calendar of the time zone; the end date is read in UTC.
-/

namespace TaskTwin.Schedule

open Text

structure LocalTime where
  hour : Nat
  minute : Nat
  deriving DecidableEq, Repr

def LocalTime.millis (time : LocalTime) : Int :=
  time.hour * oneHourMs + time.minute * oneMinuteMs

/-- `LocalTimeSchema`. -/
def LocalTime.parses (time : LocalTime) : Bool :=
  time.hour < 24 && time.minute < 60

/-- `LocalDateSchema`, which accepts days that a month does not have. -/
def parsesLocalDate (date : CivilDate) : Bool :=
  0 ≤ date.year && date.year ≤ 9999 && 1 ≤ date.month && date.month ≤ 12 &&
    1 ≤ date.day && date.day ≤ 31

/-- Dates that are written with leading zeros compare like texts. -/
def endsAfterStart (startDate : CivilDate) (endDate : Option CivilDate) : Bool :=
  endDate.all fun endDate =>
    parsesLocalDate endDate && decide (startDate.NotAfter endDate)

structure DailyScheduleDefinition where
  startDate : CivilDate
  endDate : Option CivilDate
  time : LocalTime
  intervalDays : Nat
  deriving DecidableEq, Repr

/-- `DailyScheduleDefinitionSchema`. -/
def DailyScheduleDefinition.parses (definition : DailyScheduleDefinition) :
    Bool :=
  parsesLocalDate definition.startDate && definition.time.parses &&
    1 ≤ definition.intervalDays && definition.intervalDays ≤ 365 &&
    endsAfterStart definition.startDate definition.endDate

structure WeeklyScheduleDefinition where
  startDate : CivilDate
  endDate : Option CivilDate
  time : LocalTime
  weekdays : List Nat
  intervalWeeks : Nat
  deriving DecidableEq, Repr

/-- `WeeklyScheduleDefinitionSchema`, which sorts the weekdays. -/
def WeeklyScheduleDefinition.parses (definition : WeeklyScheduleDefinition) :
    Bool :=
  parsesLocalDate definition.startDate && definition.time.parses &&
    definition.weekdays != [] &&
    decide (definition.weekdays.Pairwise (· < ·)) &&
    definition.weekdays.all (fun weekday => 1 ≤ weekday && weekday ≤ 7) &&
    1 ≤ definition.intervalWeeks && definition.intervalWeeks ≤ 52 &&
    endsAfterStart definition.startDate definition.endDate

/--
The calendar of a time zone, over instants.  Units that are out of range give
an invalid date, which compares as neither before nor after another.
-/
structure Luxon where
  zone : Zone
  /-- `DateTime.fromObject({ year, month, day }, { zone: 'utc' })`. -/
  utcFromObject : CivilDate → Option Int
  startOfDay : Int → Int
  startOfWeek : Int → Int
  /-- `Math.floor(later.diff(earlier, 'days').days)`. -/
  daysBetween : Int → Int → Int
  weeksBetween : Int → Int → Int
  plusDays : Int → Int → Int
  plusWeeks : Int → Int → Int
  /-- `set({ hour, minute, second: 0, millisecond: 0 })`. -/
  setTime : Int → LocalTime → Int
  setWeekday : Int → Nat → LocalTime → Int

inductive SkipReason where
  | nonexistentLocalTime
  | repeatedLocalTime
  | pastStartDate
  | pastEndDate
  deriving DecidableEq, Repr

/-- `OccurrenceResult` and `SkippedOccurrence`. -/
inductive OccurrenceOutcome where
  | scheduled (scheduledInstant startDeadline : Int)
  | skipped (reason : SkipReason)
  /-- A date string or a unit is invalid. -/
  | threw
  deriving DecidableEq, Repr

def scheduledAt (maxStartDelaySeconds : Nat) (instant : Int) :
    OccurrenceOutcome :=
  .scheduled instant (instant + maxStartDelaySeconds * 1000)

/-- `endDate && instant > endDate`, of the date that `parseEndDate` returns. -/
def Luxon.isPastEnd
    (luxon : Luxon)
    (endDate : Option CivilDate)
    (instant : Int) :
    Bool :=
  endDate.any fun endDate =>
    (luxon.utcFromObject endDate).any fun endInstant => endInstant < instant

/-- The local time of a schedule on a date. -/
def LocalTime.on (time : LocalTime) (date : CivilDate) : LocalDateTime :=
  { date, hour := time.hour, minute := time.minute }

/-- The first day of the schedule that does not begin before an instant. -/
def Luxon.candidateDay
    (luxon : Luxon)
    (anchor after : Int)
    (intervalDays : Nat) :
    Int :=
  let candidateLocal := luxon.startOfDay after
  let anchorLocal := luxon.startOfDay anchor
  if candidateLocal < anchorLocal then anchorLocal
  else
    let daysSinceAnchor := luxon.daysBetween candidateLocal anchorLocal
    let remainder := daysSinceAnchor.tmod intervalDays
    let candidateLocal :=
      luxon.plusDays anchorLocal (daysSinceAnchor - remainder)
    if candidateLocal < after then luxon.plusDays candidateLocal intervalDays
    else candidateLocal

/-- `nextDailyOccurrence`, with as many calls of itself as there is fuel for. -/
def nextDailyOccurrence
    (luxon : Luxon)
    (maxStartDelaySeconds : Nat) :
    Nat → DailyScheduleDefinition → Int → Option OccurrenceOutcome
  | 0, _, _ => none
  | fuel + 1, definition, after =>
      match localDateTimeToUtc luxon.zone
          (definition.time.on definition.startDate) with
      | .nonexistent =>
          -- `advanceLocalDate`; an invalid date is written as no date
          match luxon.zone.fromObject
              { date := definition.startDate, hour := 0, minute := 0 } with
          | none => some .threw
          | some start =>
              nextDailyOccurrence luxon maxStartDelaySeconds fuel
                { definition with
                  startDate :=
                    (luxon.zone.wallClock (luxon.plusDays start 1)).date }
                after
      | .repeated anchor
      | .unambiguous anchor =>
          let candidateLocal :=
            luxon.candidateDay anchor after definition.intervalDays
          if luxon.isPastEnd definition.endDate candidateLocal then
            some (.skipped .pastEndDate)
          else
            let occurrenceLocal := luxon.setTime candidateLocal definition.time
            if occurrenceLocal ≤ after then
              nextDailyOccurrence luxon maxStartDelaySeconds fuel definition
                (occurrenceLocal + 1)
            else
              match localDateTimeToUtc luxon.zone
                  (definition.time.on
                    (luxon.zone.wallClock occurrenceLocal).date) with
              | .nonexistent =>
                  nextDailyOccurrence luxon maxStartDelaySeconds fuel definition
                    (occurrenceLocal + oneHourMs)
              | .repeated instant
              | .unambiguous instant =>
                  some (scheduledAt maxStartDelaySeconds instant)

/-- What a weekday of a week answers; none to go on with the next. -/
def Luxon.weekdayOutcome
    (luxon : Luxon)
    (maxStartDelaySeconds : Nat)
    (definition : WeeklyScheduleDefinition)
    (startInTz after currentWeekStart : Int)
    (weekday : Nat) :
    Option OccurrenceOutcome :=
  let candidateDate :=
    luxon.setWeekday currentWeekStart weekday definition.time
  if candidateDate < startInTz then none
  else if luxon.isPastEnd definition.endDate candidateDate then
    some (.skipped .pastEndDate)
  else if candidateDate ≤ after then none
  else
    match localDateTimeToUtc luxon.zone
        (definition.time.on (luxon.zone.wallClock candidateDate).date) with
    | .nonexistent => none
    | .repeated instant
    | .unambiguous instant => some (scheduledAt maxStartDelaySeconds instant)

/-- The loop over the weeks, for a number of weeks. -/
def Luxon.searchWeeks
    (luxon : Luxon)
    (maxStartDelaySeconds : Nat)
    (definition : WeeklyScheduleDefinition)
    (startInTz after : Int) :
    Nat → Int → OccurrenceOutcome
  | 0, _ => .skipped .pastEndDate
  | weeks + 1, currentWeekStart =>
      match definition.weekdays.findSome? fun weekday =>
          luxon.weekdayOutcome maxStartDelaySeconds definition startInTz after
            currentWeekStart weekday with
      | some outcome => outcome
      | none =>
          luxon.searchWeeks maxStartDelaySeconds definition startInTz after weeks
            (luxon.plusWeeks currentWeekStart definition.intervalWeeks)

/-- `52 * 3`. -/
def maxSearchWeeks : Nat := 156

/-- Weekdays are parsed in their order, so sorting them changes nothing. -/
def nextWeeklyOccurrence
    (luxon : Luxon)
    (definition : WeeklyScheduleDefinition)
    (after : Int)
    (maxStartDelaySeconds : Nat) :
    OccurrenceOutcome :=
  match luxon.zone.fromObject
      { date := definition.startDate, hour := 0, minute := 0 } with
  | none =>
      -- an invalid start makes every candidate invalid, and its year no number
      .threw
  | some startInTz =>
      let afterDay := luxon.startOfDay after
      let searchDate :=
        if afterDay < startInTz then luxon.startOfDay startInTz else afterDay
      let anchorWeekStart := luxon.startOfWeek startInTz
      let weeksSinceAnchor :=
        luxon.weeksBetween (luxon.startOfWeek searchDate) anchorWeekStart
      let weeksRemainder := weeksSinceAnchor.tmod definition.intervalWeeks
      luxon.searchWeeks maxStartDelaySeconds definition startInTz after
        maxSearchWeeks
        (luxon.plusWeeks anchorWeekStart (weeksSinceAnchor - weeksRemainder))

/-- How the calendar of a time zone answers when its offset never changes. -/
structure Luxon.HasFixedOffset (luxon : Luxon) (offset : Int) : Prop where
  withinDay : -oneDayMs < offset ∧ offset < oneDayMs
  isOffset : ∀ instant, luxon.zone.offset instant = offset
  fromObject :
    ∀ requested : LocalDateTime,
      requested.hour < 24 →
        requested.minute < 60 →
          luxon.zone.fromObject requested =
            if requested.date.exists then
              some (requested.clock.millis - offset)
            else
              none
  utcFromObject :
    ∀ date : CivilDate,
      luxon.utcFromObject date =
        if date.exists then some (date.days * oneDayMs) else none
  startOfDay :
    ∀ instant,
      luxon.startOfDay instant =
        (instant + offset) / oneDayMs * oneDayMs - offset
  startOfWeek :
    ∀ instant,
      luxon.startOfWeek instant =
        mondayOf ((instant + offset) / oneDayMs) * oneDayMs - offset
  daysBetween :
    ∀ later earlier,
      luxon.daysBetween later earlier = (later - earlier) / oneDayMs
  weeksBetween :
    ∀ later earlier,
      luxon.weeksBetween later earlier = (later - earlier) / (7 * oneDayMs)
  plusDays :
    ∀ instant days, luxon.plusDays instant days = instant + days * oneDayMs
  plusWeeks :
    ∀ instant weeks,
      luxon.plusWeeks instant weeks = instant + weeks * (7 * oneDayMs)
  setTime :
    ∀ instant (time : LocalTime),
      luxon.setTime instant time =
        (instant + offset) / oneDayMs * oneDayMs + time.millis - offset
  setWeekday :
    ∀ instant (weekday : Nat) (time : LocalTime),
      luxon.setWeekday instant weekday time =
        (mondayOf ((instant + offset) / oneDayMs) + (weekday - 1)) * oneDayMs +
            time.millis -
          offset

/-- The instant of a local time on a day. -/
def instantOn (offset : Int) (time : LocalTime) (day : Int) : Int :=
  day * oneDayMs + time.millis - offset

/-- Midnight of a day, on the clocks of the zone. -/
def midnightOn (offset day : Int) : Int := day * oneDayMs - offset

variable {luxon : Luxon} {offset : Int}

theorem LocalTime.parses_bounds
    {time : LocalTime}
    (parses : time.parses = true) :
    time.hour < 24 ∧ time.minute < 60 := by
  simpa [LocalTime.parses] using parses

theorem LocalTime.millis_bounds
    {time : LocalTime}
    (parses : time.parses = true) :
    0 ≤ time.millis ∧ time.millis < oneDayMs := by
  simp only [LocalTime.parses, Bool.and_eq_true, decide_eq_true_eq] at parses
  simp only [millis, oneHourMs, oneMinuteMs, oneDayMs]
  omega

theorem LocalTime.on_millis (time : LocalTime) (date : CivilDate) :
    (time.on date).clock.millis = date.days * oneDayMs + time.millis := by
  simp only [WallClock.millis, LocalDateTime.clock, on, millis]
  omega

theorem WallClock.ofMillis_date
    {day time : Int}
    (isTime : 0 ≤ time ∧ time < oneDayMs) :
    (WallClock.ofMillis (day * oneDayMs + time)).date =
      CivilDate.ofDays day := by
  have isDay : (day * oneDayMs + time) / oneDayMs = day := by
    simp only [oneDayMs] at isTime ⊢
    omega
  simp only [ofMillis, isDay]

/-- A clock shows what it is set to. -/
theorem WallClock.ofMillis_clock
    {requested : LocalDateTime}
    (isDate : requested.date.exists = true)
    (isTime : requested.hour < 24 ∧ requested.minute < 60) :
    WallClock.ofMillis requested.clock.millis = requested.clock := by
  have isMillis :
      requested.clock.millis =
        requested.date.days * oneDayMs +
          (requested.hour * oneHourMs + requested.minute * oneMinuteMs) := by
    simp only [millis, LocalDateTime.clock]
    omega
  have within :
      (0 : Int) ≤ requested.hour * oneHourMs + requested.minute * oneMinuteMs ∧
        requested.hour * oneHourMs + requested.minute * oneMinuteMs <
          oneDayMs := by
    simp only [oneDayMs, oneHourMs, oneMinuteMs]
    omega
  have isDay : requested.clock.millis / oneDayMs = requested.date.days := by
    rw [isMillis]
    simp only [oneDayMs] at within ⊢
    omega
  have ofDay :
      requested.clock.millis % oneDayMs =
        requested.hour * oneHourMs + requested.minute * oneMinuteMs := by
    rw [isMillis]
    simp only [oneDayMs] at within ⊢
    omega
  have inHour : (0 : Int) ≤ requested.minute * oneMinuteMs ∧
      requested.minute * oneMinuteMs < oneHourMs := by
    simp only [oneHourMs, oneMinuteMs]
    omega
  have isHour :
      (requested.hour * oneHourMs + requested.minute * oneMinuteMs) /
          oneHourMs =
        requested.hour := by
    rw [add_comm, Int.add_mul_ediv_right _ _ (by decide),
      Int.ediv_eq_zero_of_lt inHour.1 inHour.2, zero_add]
  have ofHour :
      (requested.hour * oneHourMs + requested.minute * oneMinuteMs) %
          oneHourMs =
        requested.minute * oneMinuteMs := by
    rw [add_comm, Int.add_mul_emod_self_right,
      Int.emod_eq_of_lt inHour.1 inHour.2]
  have isMinute :
      requested.minute * oneMinuteMs / oneMinuteMs = requested.minute :=
    Int.mul_ediv_cancel _ (by decide)
  have isWhole :
      (requested.hour * oneHourMs + requested.minute * oneMinuteMs) =
        (requested.hour * 60 + requested.minute) * oneMinuteMs := by
    simp only [oneHourMs, oneMinuteMs]
    ring
  have noSeconds :
      (requested.hour * oneHourMs + requested.minute * oneMinuteMs) %
          oneMinuteMs =
        0 := by
    rw [isWhole]
    exact Int.mul_emod_left _ _
  have noMillis :
      (requested.hour * oneHourMs + requested.minute * oneMinuteMs) % 1000 =
        0 := by
    rw [isWhole, oneMinuteMs]
    omega
  simp only [ofMillis, isDay, ofDay, isHour, ofHour, isMinute, noSeconds,
    noMillis, CivilDate.ofDays_of_exists isDate]
  simp [LocalDateTime.clock]

/-- Where the offset is fixed, a local time has one instant if its date has. -/
theorem Luxon.HasFixedOffset.localDateTimeToUtc
    (fixed : luxon.HasFixedOffset offset)
    {requested : LocalDateTime}
    (isTime : requested.hour < 24 ∧ requested.minute < 60) :
    localDateTimeToUtc luxon.zone requested =
      if requested.date.exists then
        .unambiguous (requested.clock.millis - offset)
      else
        .nonexistent := by
  have answer := fixed.fromObject requested isTime.1 isTime.2
  by_cases isDate : requested.date.exists = true
  · rw [if_pos isDate] at answer ⊢
    have mapsTo :
        luxon.zone.MapsTo (requested.clock.millis - offset) requested := by
      rw [Zone.MapsTo, Zone.wallClock, fixed.isOffset, sub_add_cancel]
      exact WallClock.ofMillis_clock isDate isTime
    refine (localDateTimeToUtc_found answer mapsTo).2 ?_
    rw [Zone.SetBackByAnHour, fixed.isOffset, fixed.isOffset]
    simp only [oneHourMs, oneMinuteMs]
    omega
  · rw [if_neg isDate] at answer ⊢
    simp [TaskTwin.Schedule.localDateTimeToUtc, answer]

/-- The instant of a local time on a date. -/
theorem Luxon.HasFixedOffset.localTimeOn
    (fixed : luxon.HasFixedOffset offset)
    {time : LocalTime}
    {date : CivilDate}
    (isTime : time.parses = true)
    (isDate : date.exists = true) :
    TaskTwin.Schedule.localDateTimeToUtc luxon.zone (time.on date) =
      .unambiguous (instantOn offset time date.days) := by
  have isRequested : (time.on date).date.exists = true := isDate
  rw [fixed.localDateTimeToUtc (LocalTime.parses_bounds isTime),
    if_pos isRequested, LocalTime.on_millis, instantOn]

/-- The end date is compared if there is such a day. -/
theorem Luxon.HasFixedOffset.isPastEnd
    (fixed : luxon.HasFixedOffset offset)
    {endDate : Option CivilDate}
    {instant : Int} :
    luxon.isPastEnd endDate instant = true ↔
      ∃ date ∈ endDate,
        date.exists = true ∧ date.days * oneDayMs < instant := by
  cases endDate with
  | none => simp [Luxon.isPastEnd]
  | some date =>
      simp only [Luxon.isPastEnd, fixed.utcFromObject, Option.any_some,
        Option.mem_def, Option.some.injEq, exists_eq_left']
      by_cases isDate : date.exists = true
      · simp [isDate]
      · simp [isDate]

/-- A day is not later than the end date. -/
def WithinEnd (endDate : Option CivilDate) (day : Int) : Prop :=
  ∀ date ∈ endDate, (CivilDate.ofDays day).NotAfter date

/-- What a search for the least instant after another should answer. -/
def AnswersLeast
    (maxStartDelaySeconds : Nat)
    (isDue : Int → Prop)
    (instantOf : Int → Int)
    (outcome : OccurrenceOutcome) :
    Prop :=
  (∃ day,
    isDue day ∧ (∀ other, isDue other → instantOf day ≤ instantOf other) ∧
      outcome = scheduledAt maxStartDelaySeconds (instantOf day)) ∨
    (∀ day, ¬isDue day) ∧ outcome = .skipped .pastEndDate

/-- Days before one within the schedule are within the schedule. -/
theorem WithinEnd.mono
    {endDate : Option CivilDate}
    {day day' : Int}
    (within : WithinEnd endDate day')
    (notLater : day ≤ day') :
    WithinEnd endDate day := by
  intro date isEnd
  exact (CivilDate.ofDays_notAfter notLater).trans (within date isEnd)

theorem instantOn_le_iff
    {time : LocalTime}
    {day day' : Int} :
    instantOn offset time day ≤ instantOn offset time day' ↔ day ≤ day' := by
  simp only [instantOn, oneDayMs]
  omega

theorem instantOn_inj
    {time : LocalTime}
    {day day' : Int}
    (same : instantOn offset time day = instantOn offset time day') :
    day = day' :=
  le_antisymm (instantOn_le_iff.mp same.le) (instantOn_le_iff.mp same.ge)

theorem scheduledAt_inj
    {maxStartDelaySeconds : Nat}
    {instant instant' : Int}
    (same :
      scheduledAt maxStartDelaySeconds instant =
        scheduledAt maxStartDelaySeconds instant') :
    instant = instant' :=
  (OccurrenceOutcome.scheduled.inj same).1

/-- The calendar of a zone whose clocks are always as far ahead of UTC. -/
def fixedOffsetLuxon (offset : Int) : Luxon where
  zone :=
    { offset := fun _ => offset
      fromObject := fun requested =>
        if requested.date.exists ∧ requested.hour < 24 ∧
            requested.minute < 60 then
          some (requested.clock.millis - offset)
        else
          none }
  utcFromObject date :=
    if date.exists then some (date.days * oneDayMs) else none
  startOfDay instant := (instant + offset) / oneDayMs * oneDayMs - offset
  startOfWeek instant :=
    mondayOf ((instant + offset) / oneDayMs) * oneDayMs - offset
  daysBetween later earlier := (later - earlier) / oneDayMs
  weeksBetween later earlier := (later - earlier) / (7 * oneDayMs)
  plusDays instant days := instant + days * oneDayMs
  plusWeeks instant weeks := instant + weeks * (7 * oneDayMs)
  setTime instant time :=
    (instant + offset) / oneDayMs * oneDayMs + time.millis - offset
  setWeekday instant weekday time :=
    (mondayOf ((instant + offset) / oneDayMs) + (weekday - 1)) * oneDayMs +
        time.millis -
      offset

theorem fixedOffsetLuxon_hasFixedOffset
    (withinDay : -oneDayMs < offset ∧ offset < oneDayMs) :
    (fixedOffsetLuxon offset).HasFixedOffset offset where
  withinDay := withinDay
  isOffset _ := rfl
  fromObject requested isHour isMinute := by
    simp only [fixedOffsetLuxon, isHour, isMinute, and_true]
  utcFromObject _ := rfl
  startOfDay _ := rfl
  startOfWeek _ := rfl
  daysBetween _ _ := rfl
  weeksBetween _ _ := rfl
  plusDays _ _ := rfl
  plusWeeks _ _ := rfl
  setTime _ _ := rfl
  setWeekday _ _ _ := rfl

end TaskTwin.Schedule

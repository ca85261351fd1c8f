import TaskTwin.Text.Timestamp

/-!
# Local times

A time zone says how far its clocks are ahead at every instant.  A local time
that is skipped has no instant, and one that is repeated has several; which of
them is meant is found out by looking at the clock an hour later.
-/

namespace TaskTwin.Schedule

open Text

/-- `ONE_HOUR_MS`. -/
def oneHourMs : Int := 3600000

def oneMinuteMs : Int := 60000

def oneDayMs : Int := 86400000

/-- What a clock shows, with the date. -/
structure WallClock where
  date : CivilDate
  hour : Nat
  minute : Nat
  second : Nat
  millisecond : Nat
  deriving DecidableEq, Repr

/-- The clock after some milliseconds since the start of 1970. -/
def WallClock.ofMillis (milliseconds : Int) : WallClock :=
  let time := milliseconds % oneDayMs
  { date := CivilDate.ofDays (milliseconds / oneDayMs)
    hour := (time / oneHourMs).toNat
    minute := (time % oneHourMs / oneMinuteMs).toNat
    second := (time % oneMinuteMs / 1000).toNat
    millisecond := (time % 1000).toNat }

/-- A wall-clock time to the minute. -/
structure LocalDateTime where
  date : CivilDate
  hour : Nat
  minute : Nat
  deriving DecidableEq, Repr

/-- The clock at the start of the minute. -/
def LocalDateTime.clock (requested : LocalDateTime) : WallClock :=
  { date := requested.date
    hour := requested.hour
    minute := requested.minute
    second := 0
    millisecond := 0 }

/-- The fields that are compared. -/
def WallClock.shows (clock : WallClock) (requested : LocalDateTime) : Bool :=
  clock.date == requested.date && clock.hour == requested.hour &&
    clock.minute == requested.minute

/-- A time zone, and how `DateTime.fromObject` answers in it. -/
structure Zone where
  /-- How far the clocks are ahead of UTC at an instant. -/
  offset : Int → Int
  /-- The instant, unless the units are out of range. -/
  fromObject : LocalDateTime → Option Int

def Zone.wallClock (zone : Zone) (instant : Int) : WallClock :=
  WallClock.ofMillis (instant + zone.offset instant)

/-- The clock of the zone shows the start of the minute at an instant. -/
def Zone.MapsTo
    (zone : Zone)
    (instant : Int)
    (requested : LocalDateTime) :
    Prop :=
  zone.wallClock instant = requested.clock

instance (zone : Zone) (instant : Int) (requested : LocalDateTime) :
    Decidable (zone.MapsTo instant requested) :=
  inferInstanceAs (Decidable (_ = _))

/-- `fromObject` answers with one of the instants if there are any. -/
def Zone.FindsInstants (zone : Zone) : Prop :=
  ∀ requested instant,
    zone.MapsTo instant requested →
      ∃ primary,
        zone.fromObject requested = some primary ∧
          zone.MapsTo primary requested

inductive DstOutcome where
  | nonexistent
  | repeated (instant : Int)
  | unambiguous (instant : Int)
  deriving DecidableEq, Repr

def localDateTimeToUtc
    (zone : Zone)
    (requested : LocalDateTime) :
    DstOutcome :=
  match zone.fromObject requested with
  | none => .nonexistent
  | some primary =>
      if !(zone.wallClock primary).shows requested then .nonexistent
      else if (zone.wallClock (primary + oneHourMs)).shows requested then
        .repeated primary
      else
        .unambiguous primary

theorem shows_clock (requested : LocalDateTime) :
    requested.clock.shows requested = true := by
  simp [WallClock.shows, LocalDateTime.clock]

variable
  {zone : Zone}
  {requested : LocalDateTime}
  {instant : Int}

theorem Zone.MapsTo.shows
    (mapsTo : zone.MapsTo instant requested) :
    (zone.wallClock instant).shows requested = true := by
  rw [show zone.wallClock instant = requested.clock from mapsTo]
  exact shows_clock requested

/-- The milliseconds that a clock shows. -/
def WallClock.millis (clock : WallClock) : Int :=
  clock.date.days * oneDayMs + clock.hour * oneHourMs +
    clock.minute * oneMinuteMs + clock.second * 1000 + clock.millisecond

theorem WallClock.millis_ofMillis (milliseconds : Int) :
    (WallClock.ofMillis milliseconds).millis = milliseconds := by
  simp only [millis, ofMillis, (CivilDate.ofDays_days _).1, oneDayMs, oneHourMs,
    oneMinuteMs]
  omega

theorem WallClock.ofMillis_bounds (milliseconds : Int) :
    (WallClock.ofMillis milliseconds).date.exists = true ∧
      (WallClock.ofMillis milliseconds).hour < 24 ∧
        (WallClock.ofMillis milliseconds).minute < 60 := by
  refine ⟨CivilDate.ofDays_exists _, ?_, ?_⟩
  · simp only [ofMillis, oneDayMs, oneHourMs]
    omega
  · simp only [ofMillis, oneDayMs, oneHourMs, oneMinuteMs]
    omega

/-- A clock that shows a minute shows a moment within it. -/
theorem WallClock.shows_ofMillis
    {milliseconds : Int}
    (isDate : requested.date.exists = true)
    (isTime : requested.hour < 24 ∧ requested.minute < 60) :
    (WallClock.ofMillis milliseconds).shows requested = true ↔
      requested.clock.millis ≤ milliseconds ∧
        milliseconds < requested.clock.millis + oneMinuteMs := by
  have readBack := WallClock.millis_ofMillis milliseconds
  have isMillis :
      requested.clock.millis =
        requested.date.days * oneDayMs + requested.hour * oneHourMs +
          requested.minute * oneMinuteMs := by
    simp [LocalDateTime.clock, millis]
  rw [isMillis]
  simp only [WallClock.shows, Bool.and_eq_true, beq_iff_eq]
  constructor
  · rintro ⟨⟨sameDate, sameHour⟩, sameMinute⟩
    simp only [ofMillis, oneDayMs, oneHourMs, oneMinuteMs]
      at sameDate sameHour sameMinute ⊢
    have sameDays := (CivilDate.ofDays_days (milliseconds / 86400000)).1
    rw [sameDate] at sameDays
    omega
  · intro within
    have sameDay : milliseconds / oneDayMs = requested.date.days := by
      simp only [oneDayMs, oneHourMs, oneMinuteMs] at within ⊢
      omega
    have ofDay :
        requested.hour * oneHourMs + requested.minute * oneMinuteMs ≤
            milliseconds % oneDayMs ∧
          milliseconds % oneDayMs <
            requested.hour * oneHourMs + requested.minute * oneMinuteMs +
              oneMinuteMs := by
      simp only [oneDayMs, oneHourMs, oneMinuteMs] at within sameDay ⊢
      omega
    simp only [ofMillis, sameDay, CivilDate.ofDays_of_exists isDate, true_and]
    generalize milliseconds % oneDayMs = time at ofDay
    simp only [oneHourMs, oneMinuteMs] at ofDay ⊢
    constructor
    · omega
    · omega

/-- An hour later the clocks were set back by as much. -/
def Zone.SetBackByAnHour (zone : Zone) (instant : Int) : Prop :=
  0 ≤ zone.offset (instant + oneHourMs) + oneHourMs - zone.offset instant ∧
    zone.offset (instant + oneHourMs) + oneHourMs - zone.offset instant <
      oneMinuteMs

instance (zone : Zone) (instant : Int) :
    Decidable (zone.SetBackByAnHour instant) :=
  inferInstanceAs (Decidable (_ ∧ _))

/-- The probe tells whether the clocks were set back by an hour. -/
theorem Zone.MapsTo.shows_later
    (mapsTo : zone.MapsTo instant requested) :
    (zone.wallClock (instant + oneHourMs)).shows requested = true ↔
      zone.SetBackByAnHour instant := by
  have isClock : WallClock.ofMillis (instant + zone.offset instant) =
      requested.clock :=
    mapsTo
  have bounds := WallClock.ofMillis_bounds (instant + zone.offset instant)
  have isLocal := WallClock.millis_ofMillis (instant + zone.offset instant)
  rw [isClock] at bounds isLocal
  rw [Zone.wallClock, WallClock.shows_ofMillis bounds.1 bounds.2, isLocal,
    Zone.SetBackByAnHour]
  constructor
  · intro within
    omega
  · intro setBack
    omega

/-- A local time that is found is repeated or unambiguous. -/
theorem localDateTimeToUtc_found
    {primary : Int}
    (found : zone.fromObject requested = some primary)
    (mapsTo : zone.MapsTo primary requested) :
    (zone.SetBackByAnHour primary →
        localDateTimeToUtc zone requested = .repeated primary) ∧
      (¬zone.SetBackByAnHour primary →
        localDateTimeToUtc zone requested = .unambiguous primary) := by
  simp only [localDateTimeToUtc, found, mapsTo.shows, Bool.not_true,
    Bool.false_eq_true, if_false]
  constructor
  · intro setBack
    rw [if_pos (mapsTo.shows_later.mpr setBack)]
  · intro notSetBack
    rw [if_neg fun shows => notSetBack (mapsTo.shows_later.mp shows)]

/-- Times are told apart by how many instants they have. -/
structure ClassificationLaw (zone : Zone) (requested : LocalDateTime) :
    Prop where
  nonexistent :
    localDateTimeToUtc zone requested = .nonexistent ↔
      ∀ instant, ¬zone.MapsTo instant requested
  repeated :
    (∃ instant, localDateTimeToUtc zone requested = .repeated instant) ↔
      ∃ instant instant',
        zone.MapsTo instant requested ∧ zone.MapsTo instant' requested ∧
          instant ≠ instant'
  earliest :
    ∀ instant,
      localDateTimeToUtc zone requested = .repeated instant →
        zone.MapsTo instant requested ∧
          ∀ instant', zone.MapsTo instant' requested → instant ≤ instant'

/-- Times are only repeated an hour later, and `fromObject` takes the first. -/
structure RepeatsByTheHour (zone : Zone) (requested : LocalDateTime) :
    Prop where
  skipped :
    (∀ instant, ¬zone.MapsTo instant requested) →
      ∀ primary,
        zone.fromObject requested = some primary →
          (zone.wallClock primary).shows requested = false
  single :
    ∀ instant,
      zone.MapsTo instant requested →
        (∀ instant', zone.MapsTo instant' requested → instant' = instant) →
          ¬zone.SetBackByAnHour instant
  several :
    ∀ instant instant',
      zone.MapsTo instant requested →
        zone.MapsTo instant' requested →
          instant ≠ instant' →
            ∃ primary,
              zone.fromObject requested = some primary ∧
                zone.SetBackByAnHour primary ∧
                  ∀ other, zone.MapsTo other requested → primary ≤ other

theorem localDateTimeToUtc_eq_nonexistent :
    localDateTimeToUtc zone requested = .nonexistent ↔
      ∀ primary,
        zone.fromObject requested = some primary →
          (zone.wallClock primary).shows requested = false := by
  rw [localDateTimeToUtc]
  cases zone.fromObject requested with
  | none => simp
  | some primary =>
      simp only [Option.some.injEq, forall_eq']
      cases (zone.wallClock primary).shows requested with
      | false => simp
      | true =>
          cases (zone.wallClock (primary + oneHourMs)).shows requested with
          | false => simp
          | true => simp

/-- A local time without an instant is not answered with one. -/
theorem not_repeated_of_nonexistent
    (nonexistent : localDateTimeToUtc zone requested = .nonexistent) :
    ¬∃ instant, localDateTimeToUtc zone requested = .repeated instant := by
  rintro ⟨instant, repeated⟩
  rw [nonexistent] at repeated
  cases repeated

/--
Local times are told apart exactly where times are repeated by the hour and
`fromObject` answers with the first of their instants.
-/
theorem classificationLaw_iff
    (finds : zone.FindsInstants) :
    ClassificationLaw zone requested ↔ RepeatsByTheHour zone requested := by
  constructor
  · intro law
    refine { skipped := ?_, single := ?_, several := ?_ }
    · intro noInstant
      exact localDateTimeToUtc_eq_nonexistent.mp
        (law.nonexistent.mpr noInstant)
    · intro instant mapsTo only setBack
      obtain ⟨primary, found, mapsToPrimary⟩ := finds requested instant mapsTo
      obtain rfl := only primary mapsToPrimary
      have repeated := (localDateTimeToUtc_found found mapsToPrimary).1 setBack
      obtain ⟨first, second, mapsFirst, mapsSecond, differ⟩ :=
        law.repeated.mp ⟨_, repeated⟩
      exact differ ((only first mapsFirst).trans (only second mapsSecond).symm)
    · intro instant instant' mapsTo mapsTo' differ
      obtain ⟨primary, found, mapsToPrimary⟩ := finds requested instant mapsTo
      obtain ⟨answer, repeated⟩ :=
        law.repeated.mpr ⟨instant, instant', mapsTo, mapsTo', differ⟩
      have outcomes := localDateTimeToUtc_found found mapsToPrimary
      by_cases setBack : zone.SetBackByAnHour primary
      · exact ⟨primary, found, setBack,
          (law.earliest primary (outcomes.1 setBack)).2⟩
      · rw [outcomes.2 setBack] at repeated
        cases repeated
  · intro byTheHour
    by_cases hasInstant : ∃ instant, zone.MapsTo instant requested
    · obtain ⟨instant, mapsTo⟩ := hasInstant
      obtain ⟨primary, found, mapsToPrimary⟩ := finds requested instant mapsTo
      have outcomes := localDateTimeToUtc_found found mapsToPrimary
      by_cases several :
          ∃ other, zone.MapsTo other requested ∧ other ≠ primary
      · obtain ⟨other, mapsToOther, differs⟩ := several
        obtain ⟨primary', found', setBack, isFirst⟩ :=
          byTheHour.several other primary mapsToOther mapsToPrimary differs
        obtain rfl := Option.some.inj (found.symm.trans found')
        have repeated := outcomes.1 setBack
        refine { nonexistent := ?_, repeated := ?_, earliest := ?_ }
        · rw [repeated]
          simp only [reduceCtorEq, false_iff, not_forall, not_not]
          exact ⟨primary, mapsToPrimary⟩
        · exact ⟨fun _ => ⟨other, primary, mapsToOther, mapsToPrimary, differs⟩,
            fun _ => ⟨primary, repeated⟩⟩
        · intro answer isAnswer
          rw [repeated] at isAnswer
          obtain rfl := DstOutcome.repeated.inj isAnswer
          exact ⟨mapsToPrimary, isFirst⟩
      · have only : ∀ other, zone.MapsTo other requested → other = primary := by
          intro other mapsToOther
          by_contra differs
          exact several ⟨other, mapsToOther, differs⟩
        have unambiguous :=
          outcomes.2 (byTheHour.single primary mapsToPrimary only)
        refine { nonexistent := ?_, repeated := ?_, earliest := ?_ }
        · rw [unambiguous]
          simp only [reduceCtorEq, false_iff, not_forall, not_not]
          exact ⟨primary, mapsToPrimary⟩
        · rw [unambiguous]
          constructor
          · rintro ⟨answer, isAnswer⟩
            cases isAnswer
          · rintro ⟨first, second, mapsFirst, mapsSecond, differ⟩
            exact absurd
              ((only first mapsFirst).trans (only second mapsSecond).symm)
              differ
        · intro answer isAnswer
          rw [unambiguous] at isAnswer
          cases isAnswer
    · have noInstant : ∀ instant, ¬zone.MapsTo instant requested :=
        fun instant mapsTo => hasInstant ⟨instant, mapsTo⟩
      have nonexistent :=
        localDateTimeToUtc_eq_nonexistent.mpr (byTheHour.skipped noInstant)
      refine { nonexistent := ?_, repeated := ?_, earliest := ?_ }
      · exact ⟨fun _ => noInstant, fun _ => nonexistent⟩
      · constructor
        · exact fun repeated =>
            absurd repeated (not_repeated_of_nonexistent nonexistent)
        · rintro ⟨first, -, mapsFirst, -⟩
          exact absurd mapsFirst (noInstant first)
      · intro answer isAnswer
        exact absurd ⟨answer, isAnswer⟩
          (not_repeated_of_nonexistent nonexistent)

/-- A zone whose clocks are set back at the start of 1970. -/
def setBackZone (step : Nat) : Zone where
  offset instant := if instant < 0 then step else 0
  fromObject requested :=
    if requested.date.exists ∧ requested.hour < 24 ∧ requested.minute < 60 then
      if requested.clock.millis < step then
        some (requested.clock.millis - step)
      else
        some requested.clock.millis
    else
      none

theorem Zone.MapsTo.isLocal
    (mapsTo : zone.MapsTo instant requested) :
    instant + zone.offset instant = requested.clock.millis := by
  rw [← WallClock.millis_ofMillis (instant + zone.offset instant)]
  exact congrArg WallClock.millis mapsTo

theorem setBackZone_findsInstants (step : Nat) :
    (setBackZone step).FindsInstants := by
  intro requested instant mapsTo
  have isClock :
      WallClock.ofMillis (instant + (setBackZone step).offset instant) =
        requested.clock :=
    mapsTo
  have bounds :=
    WallClock.ofMillis_bounds (instant + (setBackZone step).offset instant)
  rw [isClock] at bounds
  rw [mapsTo.isLocal] at isClock
  have inRange :
      requested.date.exists = true ∧ requested.hour < 24 ∧
        requested.minute < 60 :=
    bounds
  simp only [setBackZone, if_pos inRange]
  by_cases early : requested.clock.millis < step
  · refine ⟨_, if_pos early, ?_⟩
    have before : requested.clock.millis - (step : Int) < 0 := by omega
    simp only [Zone.MapsTo, Zone.wallClock, if_pos before, sub_add_cancel]
    exact isClock
  · refine ⟨_, if_neg early, ?_⟩
    have notBefore : ¬requested.clock.millis < 0 := by omega
    simp only [Zone.MapsTo, Zone.wallClock, if_neg notBefore, add_zero]
    exact isClock

/-- Ten past midnight, on the first of January 1970. -/
def exampleTime : LocalDateTime :=
  { date := { year := 1970, month := 1, day := 1 }, hour := 0, minute := 10 }

theorem classificationLaw_iff_exampleTime :
    ClassificationLaw (setBackZone 3600000) exampleTime := by
  have isMillis : exampleTime.clock.millis = 600000 := by decide +kernel
  have isPrimary :
      (setBackZone 3600000).fromObject exampleTime = some (-3000000) := by
    decide +kernel
  have mapsToPrimary : (setBackZone 3600000).MapsTo (-3000000) exampleTime := by
    decide +kernel
  have mapsToLater : (setBackZone 3600000).MapsTo 600000 exampleTime := by
    decide +kernel
  refine (classificationLaw_iff (setBackZone_findsInstants 3600000)).mpr
    { skipped := ?_, single := ?_, several := ?_ }
  · intro noInstant
    exact absurd mapsToPrimary (noInstant _)
  · intro instant mapsTo only
    have same := (only _ mapsToPrimary).trans (only _ mapsToLater).symm
    cases same
  · intro instant instant' mapsTo mapsTo' differ
    refine ⟨_, isPrimary, by decide, ?_⟩
    intro other mapsToOther
    have isLocal := mapsToOther.isLocal
    rw [isMillis] at isLocal
    simp only [setBackZone] at isLocal
    split at isLocal <;> omega

/-- Where clocks are set back by half an hour, a repeated time is not seen. -/
theorem setBackZone_notClassificationLaw :
    (setBackZone 1800000).FindsInstants ∧
      ¬ClassificationLaw (setBackZone 1800000) exampleTime := by
  refine ⟨setBackZone_findsInstants 1800000, ?_⟩
  intro law
  have unambiguous :
      localDateTimeToUtc (setBackZone 1800000) exampleTime =
        .unambiguous (-1200000) := by
    decide +kernel
  obtain ⟨instant, repeated⟩ :=
    law.repeated.mpr
      ⟨-1200000, 600000, by decide +kernel, by decide +kernel, by decide⟩
  rw [unambiguous] at repeated
  cases repeated

end TaskTwin.Schedule

import TaskTwin.Schedule.Occurrences

/-!
# The next daily occurrence

In a zone with a fixed offset the dates of a daily schedule are a grid of days.
The occurrence that is found is the first one on a day that has not begun yet.
-/

namespace TaskTwin.Schedule

open Text

/-- A day that is a number of intervals after the start date. -/
def DailyScheduleDefinition.OnGrid
    (definition : DailyScheduleDefinition)
    (day : Int) :
    Prop :=
  definition.startDate.exists = true ∧
    ∃ steps : Nat,
      day = definition.startDate.days + steps * (definition.intervalDays : Int)

def DailyScheduleDefinition.IsScheduled
    (definition : DailyScheduleDefinition)
    (day : Int) :
    Prop :=
  definition.OnGrid day ∧ WithinEnd definition.endDate day

def DailyScheduleDefinition.IsDue
    (definition : DailyScheduleDefinition)
    (offset after day : Int) :
    Prop :=
  definition.IsScheduled day ∧ after < instantOn offset definition.time day

/-- The least instant is found, with two calls. -/
def DailyLaw
    (luxon : Luxon)
    (offset : Int)
    (maxStartDelaySeconds : Nat)
    (definition : DailyScheduleDefinition)
    (after : Int) :
    Prop :=
  ∀ fuel,
    2 ≤ fuel →
      ∃ outcome,
        nextDailyOccurrence luxon maxStartDelaySeconds fuel definition after =
            some outcome ∧
          AnswersLeast maxStartDelaySeconds (definition.IsDue offset after)
            (instantOn offset definition.time) outcome

/--
No occurrence is still to come on the day of an instant, unless it is midnight;
and of the occurrences that are due one is on a day that begins no later than
the end date does in UTC.
-/
structure IsFoundDaily
    (offset : Int)
    (definition : DailyScheduleDefinition)
    (after : Int) :
    Prop where
  startExists : definition.startDate.exists = true
  notToday :
    ∀ day,
      definition.IsScheduled day →
        midnightOn offset day < after →
          instantOn offset definition.time day ≤ after
  beginsBeforeEnd :
    ∀ date ∈ definition.endDate,
      date.exists = true →
        ∀ day,
          definition.IsDue offset after day →
            ∃ earlier,
              definition.IsDue offset after earlier ∧
                midnightOn offset earlier ≤ date.days * oneDayMs
  endExists :
    ∀ date ∈ definition.endDate,
      date.exists = false → ∃ day, definition.IsDue offset after day

variable
  {luxon : Luxon}
  {offset after : Int}
  {maxStartDelaySeconds : Nat}
  {definition : DailyScheduleDefinition}

/-- The first day of the grid that does not begin before a local time. -/
def firstDay (start interval localTime : Int) : Int :=
  let today := localTime / oneDayMs
  if today < start then start
  else
    let aligned := start + (today - start - (today - start) % interval)
    if aligned * oneDayMs < localTime then aligned + interval else aligned

/-- The day that is found is on the grid, has not begun, and is the first. -/
structure IsFirstDay (start interval localTime day : Int) : Prop where
  onGrid : ∃ steps : Nat, day = start + steps * interval
  notBegun : localTime ≤ day * oneDayMs
  isFirst :
    ∀ steps : Nat,
      localTime ≤ (start + steps * interval) * oneDayMs →
        day ≤ start + steps * interval

theorem firstDay_isFirstDay
    {start interval : Int}
    (isPositive : 0 < interval)
    (localTime : Int) :
    IsFirstDay start interval localTime (firstDay start interval localTime) := by
  have today :
      localTime / oneDayMs * oneDayMs ≤ localTime ∧
        localTime < (localTime / oneDayMs + 1) * oneDayMs := by
    simp only [oneDayMs]
    omega
  unfold firstDay
  dsimp only
  generalize localTime / oneDayMs = day at today
  by_cases early : day < start
  · rw [if_pos early]
    refine { onGrid := ⟨0, by simp⟩, notBegun := ?_, isFirst := ?_ }
    · simp only [oneDayMs] at today ⊢
      omega
    · intro steps notBegun
      have forward : 0 ≤ (steps : Int) * interval := by positivity
      omega
  · rw [if_neg early]
    have isAligned : (day - start) % interval < interval ∧
        0 ≤ (day - start) % interval :=
      ⟨Int.emod_lt_of_pos _ isPositive, Int.emod_nonneg _ isPositive.ne'⟩
    have isSteps :
        start + (day - start - (day - start) % interval) =
          start + (day - start) / interval * interval := by
      have parts := Int.mul_ediv_add_emod (day - start) interval
      rw [mul_comm] at parts
      omega
    have stepsNonneg : 0 ≤ (day - start) / interval :=
      Int.ediv_nonneg (by omega) isPositive.le
    obtain ⟨steps, isNat⟩ := Int.eq_ofNat_of_zero_le stepsNonneg
    have later :
        day < start + (day - start) / interval * interval + interval := by
      omega
    have notAfter :
        start + (day - start) / interval * interval ≤ day := by
      omega
    rw [isSteps, isNat] at *
    split
    case isTrue begun =>
      refine { onGrid := ⟨steps + 1, ?_⟩, notBegun := ?_, isFirst := ?_ }
      · push_cast
        ring
      · simp only [oneDayMs] at today begun ⊢
        omega
      · intro steps' notBegun
        have further : steps < steps' := by
          by_contra notFurther
          have fewer : (steps' : Int) * interval ≤ steps * interval :=
            mul_le_mul_of_nonneg_right (by omega) isPositive.le
          simp only [oneDayMs] at begun notBegun
          omega
        have atLeast : ((steps : Int) + 1) * interval ≤ steps' * interval :=
          mul_le_mul_of_nonneg_right (by omega) isPositive.le
        rw [add_mul, one_mul] at atLeast
        omega
    case isFalse notBegun =>
      refine { onGrid := ⟨steps, rfl⟩, notBegun := by omega, isFirst := ?_ }
      intro steps' notBegun'
      simp only [oneDayMs] at today notBegun notBegun'
      by_contra earlier
      omega

theorem DailyScheduleDefinition.parses_time
    (parses : definition.parses = true) :
    definition.time.parses = true ∧ 0 < (definition.intervalDays : Int) := by
  simp only [DailyScheduleDefinition.parses, Bool.and_eq_true,
    decide_eq_true_eq] at parses
  obtain ⟨⟨⟨⟨-, isTime⟩, isPositive⟩, -⟩, -⟩ := parses
  exact ⟨isTime, by omega⟩

/-- The candidate is the first day of the grid that has not begun. -/
theorem Luxon.HasFixedOffset.candidateDay
    (fixed : luxon.HasFixedOffset offset)
    {time : LocalTime}
    (isTime : time.parses = true)
    (start : Int)
    (intervalDays : Nat) :
    luxon.candidateDay (instantOn offset time start) after intervalDays =
      midnightOn offset (firstDay start intervalDays (after + offset)) := by
  have withinDay := LocalTime.millis_bounds isTime
  have anchorDay :
      (instantOn offset time start + offset) / oneDayMs = start := by
    simp only [instantOn, oneDayMs] at withinDay ⊢
    omega
  simp only [Luxon.candidateDay, firstDay, fixed.startOfDay, fixed.daysBetween,
    fixed.plusDays, anchorDay, midnightOn]
  generalize (after + offset) / oneDayMs = today
  have between :
      (today * oneDayMs - offset - (start * oneDayMs - offset)) / oneDayMs =
        today - start := by
    simp only [oneDayMs]
    omega
  have before :
      today * oneDayMs - offset < start * oneDayMs - offset ↔ today < start := by
    simp only [oneDayMs]
    omega
  rw [between]
  by_cases early : today < start
  · rw [if_pos (before.mpr early), if_pos early]
  · rw [if_neg (fun less => early (before.mp less)), if_neg early,
      Int.tmod_eq_emod_of_nonneg (by omega : 0 ≤ today - start)]
    generalize today - start - (today - start) % (intervalDays : Int) = steps
    have aligned :
        start * oneDayMs - offset + steps * oneDayMs =
          (start + steps) * oneDayMs - offset := by
      ring
    have begun :
        (start + steps) * oneDayMs - offset < after ↔
          (start + steps) * oneDayMs < after + offset := by
      omega
    rw [aligned]
    by_cases isBegun : (start + steps) * oneDayMs < after + offset
    · rw [if_pos (begun.mpr isBegun), if_pos isBegun]
      ring
    · rw [if_neg (fun less => isBegun (begun.mp less)), if_neg isBegun]

/-- One call of the function. -/
theorem nextDailyOccurrence_step
    (fixed : luxon.HasFixedOffset offset)
    (parses : definition.parses = true)
    (startExists : definition.startDate.exists = true)
    {day : Int}
    (isDay :
      firstDay definition.startDate.days definition.intervalDays
          (after + offset) =
        day)
    (fuel : Nat) :
    nextDailyOccurrence luxon maxStartDelaySeconds (fuel + 1) definition after =
      if luxon.isPastEnd definition.endDate (midnightOn offset day) then
        some (.skipped .pastEndDate)
      else if instantOn offset definition.time day ≤ after then
        nextDailyOccurrence luxon maxStartDelaySeconds fuel definition
          (instantOn offset definition.time day + 1)
      else
        some
          (scheduledAt maxStartDelaySeconds
            (instantOn offset definition.time day)) := by
  obtain ⟨isTime, -⟩ := DailyScheduleDefinition.parses_time parses
  have withinDay := LocalTime.millis_bounds isTime
  have onStart := fixed.localTimeOn isTime startExists
  have isOccurrence :
      luxon.setTime (midnightOn offset day) definition.time =
        instantOn offset definition.time day := by
    have isMidnight : (midnightOn offset day + offset) / oneDayMs = day := by
      simp only [midnightOn, oneDayMs]
      omega
    rw [fixed.setTime, isMidnight, instantOn]
  have isDate :
      (luxon.zone.wallClock (instantOn offset definition.time day)).date =
        CivilDate.ofDays day := by
    rw [Zone.wallClock, fixed.isOffset, instantOn, sub_add_cancel]
    exact WallClock.ofMillis_date withinDay
  have onDay := fixed.localTimeOn isTime (CivilDate.ofDays_exists day)
  rw [(CivilDate.ofDays_days day).1] at onDay
  rw [nextDailyOccurrence, onStart]
  dsimp only
  rw [fixed.candidateDay isTime, isDay, isOccurrence, isDate, onDay]

/-- The day whose occurrence is answered, if the schedule has not ended. -/
structure IsFoundDay
    (definition : DailyScheduleDefinition)
    (offset after day : Int) :
    Prop where
  onGrid : definition.OnGrid day
  notBegun : after ≤ midnightOn offset day
  isLater : after < instantOn offset definition.time day
  isFirst :
    ∀ other,
      definition.OnGrid other →
        after ≤ midnightOn offset other →
          after < instantOn offset definition.time other → day ≤ other

theorem isFoundDay_of_later
    (startExists : definition.startDate.exists = true)
    {day : Int}
    (isFirstDay :
      IsFirstDay definition.startDate.days definition.intervalDays
        (after + offset) day)
    (isLater : after < instantOn offset definition.time day) :
    IsFoundDay definition offset after day where
  onGrid := ⟨startExists, isFirstDay.onGrid⟩
  notBegun := by
    have notBegun := isFirstDay.notBegun
    rw [midnightOn]
    omega
  isLater := isLater
  isFirst other onGrid notBegun _ := by
    obtain ⟨-, steps, rfl⟩ := onGrid
    refine isFirstDay.isFirst steps ?_
    rw [midnightOn] at notBegun
    omega

/-- What is answered, with two calls at most. -/
theorem nextDailyOccurrence_found
    (fixed : luxon.HasFixedOffset offset)
    (parses : definition.parses = true)
    (startExists : definition.startDate.exists = true) :
    ∃ day,
      IsFoundDay definition offset after day ∧
        ∀ fuel,
          2 ≤ fuel →
            nextDailyOccurrence luxon maxStartDelaySeconds fuel definition
                after =
              some
                (if luxon.isPastEnd definition.endDate
                    (midnightOn offset day) then
                  .skipped .pastEndDate
                else
                  scheduledAt maxStartDelaySeconds
                    (instantOn offset definition.time day)) := by
  obtain ⟨isTime, isPositive⟩ := DailyScheduleDefinition.parses_time parses
  have withinDay := LocalTime.millis_bounds isTime
  have isFirstDay :=
    @firstDay_isFirstDay definition.startDate.days _ isPositive (after + offset)
  generalize isDay :
    firstDay definition.startDate.days definition.intervalDays
      (after + offset) = day at isFirstDay
  have step :=
    @nextDailyOccurrence_step _ _ _ maxStartDelaySeconds _ fixed parses
      startExists _ isDay
  by_cases isLater : after < instantOn offset definition.time day
  · refine ⟨day, isFoundDay_of_later startExists isFirstDay isLater, ?_⟩
    intro fuel enough
    obtain ⟨fuel, rfl⟩ := Nat.exists_eq_add_of_le' (by omega : 1 ≤ fuel)
    rw [step fuel, if_neg (not_le.mpr isLater), apply_ite some]
  -- the occurrence is at midnight and just then: the next day is found
  have notLater := not_lt.mp isLater
  have notBegun := isFirstDay.notBegun
  have isMidnight :
      instantOn offset definition.time day = after ∧
        after + offset = day * oneDayMs ∧ definition.time.millis = 0 := by
    rw [instantOn] at notLater ⊢
    omega
  have isNextDay :=
    @firstDay_isFirstDay definition.startDate.days _ isPositive
      (after + 1 + offset)
  generalize isDay' :
    firstDay definition.startDate.days definition.intervalDays
      (after + 1 + offset) = day' at isNextDay
  have step' :=
    @nextDailyOccurrence_step _ _ _ maxStartDelaySeconds _ fixed parses
      startExists _ isDay'
  have notBegun' := isNextDay.notBegun
  have isLater' : after + 1 < instantOn offset definition.time day' := by
    simp only [instantOn, oneDayMs] at isMidnight notBegun' ⊢
    omega
  have foundAfter := isFoundDay_of_later startExists isNextDay isLater'
  have found : IsFoundDay definition offset after day' :=
    { onGrid := foundAfter.onGrid
      notBegun := by
        have := foundAfter.notBegun
        omega
      isLater := by omega
      isFirst := by
        intro other onGrid _ isLater
        have isMidnightOf :
            instantOn offset definition.time other =
              midnightOn offset other := by
          rw [instantOn, midnightOn, isMidnight.2.2, add_zero]
        by_cases isNow : instantOn offset definition.time other = after + 1
        · simp only [instantOn, oneDayMs] at isMidnight isNow
          omega
        · exact foundAfter.isFirst other onGrid (by omega) (by omega) }
  refine ⟨day', found, ?_⟩
  intro fuel enough
  obtain ⟨fuel, rfl⟩ := Nat.exists_eq_add_of_le' enough
  have endsLater :
      luxon.isPastEnd definition.endDate (midnightOn offset day) = true →
        luxon.isPastEnd definition.endDate (midnightOn offset day') = true := by
    rw [fixed.isPastEnd, fixed.isPastEnd]
    rintro ⟨date, isEnd, isDate, past⟩
    refine ⟨date, isEnd, isDate, past.trans ?_⟩
    simp only [midnightOn, oneDayMs] at isMidnight notBegun' ⊢
    omega
  rw [step (fuel + 1), isMidnight.1, if_pos le_rfl, step' fuel,
    if_neg (not_le.mpr isLater')]
  by_cases past :
      luxon.isPastEnd definition.endDate (midnightOn offset day) = true
  · rw [if_pos past, if_pos (endsLater past)]
  · rw [if_neg past, apply_ite some]

/-- A day that is found answers for every day that has not begun. -/
theorem IsFoundDay.le_of_isDue
    {day other : Int}
    (found : IsFoundDay definition offset after day)
    (notToday :
      ∀ day,
        definition.IsScheduled day →
          midnightOn offset day < after →
            instantOn offset definition.time day ≤ after)
    (isDue : definition.IsDue offset after other) :
    day ≤ other := by
  refine found.isFirst other isDue.1.1 ?_ isDue.2
  by_contra begun
  exact absurd (notToday other isDue.1 (not_le.mp begun)) (not_le.mpr isDue.2)

/-- A schedule ends before a day that is later than its end date. -/
theorem Luxon.HasFixedOffset.isPastEnd_midnight
    (fixed : luxon.HasFixedOffset offset)
    {date : CivilDate}
    {day : Int}
    (isDate : date.exists = true)
    (isLater : ¬(CivilDate.ofDays day).NotAfter date) :
    date.days * oneDayMs < midnightOn offset day := by
  have withinDay := fixed.withinDay
  rw [CivilDate.ofDays_notAfter_iff isDate] at isLater
  simp only [midnightOn, oneDayMs] at withinDay ⊢
  omega

/--
The least instant is found exactly where the start date exists, none is still
to come on a day that has begun, and the end date cuts off none.
-/
theorem dailyLaw_iff
    (fixed : luxon.HasFixedOffset offset)
    (parses : definition.parses = true) :
    DailyLaw luxon offset maxStartDelaySeconds definition after ↔
      IsFoundDaily offset definition after := by
  constructor
  · intro law
    have startExists : definition.startDate.exists = true := by
      by_contra missing
      obtain ⟨outcome, answered, answers⟩ := law 2 le_rfl
      have isTime := LocalTime.parses_bounds
        (DailyScheduleDefinition.parses_time parses).1
      have isMissing : definition.startDate.exists = false :=
        Bool.not_eq_true _ ▸ missing
      have noStart :
          luxon.zone.fromObject
              { date := definition.startDate, hour := 0, minute := 0 } =
            none := by
        rw [fixed.fromObject _ (Nat.succ_pos 23) (Nat.succ_pos 59),
          if_neg missing]
      rw [nextDailyOccurrence, fixed.localDateTimeToUtc isTime] at answered
      simp only [LocalTime.on, isMissing, Bool.false_eq_true, if_false, noStart,
        Option.some.injEq] at answered
      obtain ⟨day, isDue, -, -⟩ | ⟨-, isSkipped⟩ := answers
      · exact missing isDue.1.1.1
      · rw [← answered] at isSkipped
        cases isSkipped
    obtain ⟨day, found, answered⟩ :=
      @nextDailyOccurrence_found _ _ after maxStartDelaySeconds _ fixed parses
        startExists
    obtain ⟨outcome, isOutcome, answers⟩ := law 2 le_rfl
    rw [answered 2 le_rfl] at isOutcome
    have leastIsFound :
        ∀ due,
          definition.IsDue offset after due →
            definition.IsDue offset after day ∧ day ≤ due ∧
              luxon.isPastEnd definition.endDate (midnightOn offset day) =
                false := by
      intro due isDue
      obtain ⟨least, isLeast, isFirst, rfl⟩ | ⟨noneDue, -⟩ := answers
      · split at isOutcome
        · cases Option.some.inj isOutcome
        · rename_i notPast
          have same :=
            instantOn_inj (scheduledAt_inj (Option.some.inj isOutcome))
          rw [same]
          exact ⟨isLeast, instantOn_le_iff.mp (isFirst due isDue), by
            rw [← same]
            simpa using notPast⟩
      · exact absurd isDue (noneDue due)
    refine
      { startExists
        notToday := ?_
        beginsBeforeEnd := ?_
        endExists := ?_ }
    · intro other isScheduled begun
      by_contra toCome
      have isDue : definition.IsDue offset after other :=
        ⟨isScheduled, not_le.mp toCome⟩
      obtain ⟨-, notLater, -⟩ := leastIsFound other isDue
      have notBegun := found.notBegun
      simp only [midnightOn, oneDayMs] at begun notBegun
      omega
    · intro date isEnd isDate due isDue
      obtain ⟨isDueDay, -, notPast⟩ := leastIsFound due isDue
      refine ⟨day, isDueDay, ?_⟩
      by_contra past
      have isPast := fixed.isPastEnd.mpr ⟨date, isEnd, isDate, not_le.mp past⟩
      rw [isPast] at notPast
      cases notPast
    · intro date isEnd missing
      have notPast :
          ¬luxon.isPastEnd definition.endDate (midnightOn offset day) =
            true := by
        rw [fixed.isPastEnd]
        rintro ⟨date', isEnd', isDate', -⟩
        rw [Option.mem_def.mp isEnd] at isEnd'
        rw [← Option.some.inj isEnd', missing] at isDate'
        cases isDate'
      rw [if_neg notPast] at isOutcome
      obtain ⟨least, isLeast, -, -⟩ | ⟨-, rfl⟩ := answers
      · exact ⟨least, isLeast⟩
      · cases Option.some.inj isOutcome
  · intro isFound fuel enough
    obtain ⟨day, found, answered⟩ :=
      @nextDailyOccurrence_found _ _ after maxStartDelaySeconds _ fixed parses
        isFound.startExists
    refine ⟨_, answered fuel enough, ?_⟩
    by_cases hasDue : ∃ due, definition.IsDue offset after due
    · obtain ⟨due, isDue⟩ := hasDue
      have isFirst :
          ∀ other, definition.IsDue offset after other → day ≤ other :=
        fun other => found.le_of_isDue isFound.notToday
      have within := isDue.1.2.mono (isFirst due isDue)
      have notPast :
          ¬luxon.isPastEnd definition.endDate (midnightOn offset day) =
            true := by
        rw [fixed.isPastEnd]
        rintro ⟨date, isEnd, isDate, past⟩
        obtain ⟨earlier, isDueEarlier, begins⟩ :=
          isFound.beginsBeforeEnd date isEnd isDate due isDue
        have notLater := isFirst earlier isDueEarlier
        simp only [midnightOn, oneDayMs] at past begins
        omega
      rw [if_neg notPast]
      exact Or.inl ⟨day, ⟨⟨found.onGrid, within⟩, found.isLater⟩,
        fun other isDueOther =>
          instantOn_le_iff.mpr (isFirst other isDueOther), rfl⟩
    · have noneDue : ∀ due, ¬definition.IsDue offset after due :=
        fun due isDue => hasDue ⟨due, isDue⟩
      have notWithin : ¬WithinEnd definition.endDate day := fun within =>
        noneDue day ⟨⟨found.onGrid, within⟩, found.isLater⟩
      simp only [WithinEnd, not_forall] at notWithin
      obtain ⟨date, isEnd, isLater⟩ := notWithin
      have isDate : date.exists = true := by
        by_contra missing
        exact hasDue (isFound.endExists date isEnd (by simpa using missing))
      have past :=
        fixed.isPastEnd.mpr
          ⟨date, isEnd, isDate, fixed.isPastEnd_midnight isDate isLater⟩
      rw [if_pos past]
      exact Or.inr ⟨noneDue, rfl⟩

/-- Nine o'clock on every day of 2024 and after, in UTC. -/
def exampleDaily : DailyScheduleDefinition :=
  { startDate := { year := 2024, month := 1, day := 1 }
    endDate := none
    time := { hour := 9, minute := 0 }
    intervalDays := 1 }

theorem exampleDaily_start :
    exampleDaily.startDate.exists = true ∧
      exampleDaily.startDate.days = 19723 := by
  decide +kernel

theorem exampleDaily_time :
    exampleDaily.parses = true ∧ exampleDaily.time.millis = 32400000 := by
  decide +kernel

/-- On the day before the schedule starts, its first occurrence is found. -/
theorem dailyLaw_iff_exampleDaily :
    DailyLaw (fixedOffsetLuxon 0) 0 300 exampleDaily (19722 * oneDayMs) := by
  refine (dailyLaw_iff (fixedOffsetLuxon_hasFixedOffset (by decide))
    exampleDaily_time.1).mpr
    { startExists := exampleDaily_start.1
      notToday := ?_
      beginsBeforeEnd := ?_
      endExists := ?_ }
  · rintro day ⟨⟨-, steps, rfl⟩, -⟩ begun
    rw [exampleDaily_start.2] at begun
    simp only [midnightOn, oneDayMs, exampleDaily] at begun
    omega
  · intro date isEnd
    cases isEnd
  · intro date isEnd
    cases isEnd

/-- At eight o'clock the occurrence of the same day is passed over. -/
theorem exampleDaily_notDailyLaw :
    ¬DailyLaw (fixedOffsetLuxon 0) 0 300 exampleDaily
      (19889 * oneDayMs + 8 * oneHourMs) := by
  intro law
  obtain ⟨outcome, answered, answers⟩ := law 2 le_rfl
  have nextDay :
      nextDailyOccurrence (fixedOffsetLuxon 0) 300 2 exampleDaily
          (19889 * oneDayMs + 8 * oneHourMs) =
        some (scheduledAt 300 (19890 * oneDayMs + 9 * oneHourMs)) := by
    decide +kernel
  have isDue :
      exampleDaily.IsDue 0 (19889 * oneDayMs + 8 * oneHourMs) 19889 := by
    refine ⟨⟨⟨exampleDaily_start.1, 166, ?_⟩, ?_⟩, ?_⟩
    · rw [exampleDaily_start.2]
      rfl
    · intro date isEnd
      cases isEnd
    · rw [instantOn, exampleDaily_time.2]
      decide
  rw [nextDay] at answered
  obtain ⟨day, -, isFirst, isOutcome⟩ | ⟨noneDue, -⟩ := answers
  · have notLater := isFirst 19889 isDue
    rw [← Option.some.inj answered] at isOutcome
    rw [← scheduledAt_inj isOutcome, instantOn, exampleDaily_time.2]
      at notLater
    revert notLater
    decide
  · exact noneDue 19889 isDue

end TaskTwin.Schedule

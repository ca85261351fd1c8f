import Mathlib.Data.Finset.Max
import TaskTwin.Schedule.Occurrences

/-!
# The next weekly occurrence

The dates of a weekly schedule are gone through week by week and, within a
week, weekday by weekday.  The first one that is later than an instant is
answered, unless its instant is later than midnight UTC of the end date.
-/

namespace TaskTwin.Schedule

open Text

/-- The weeks from the week of one day to the week of another. -/
def weeksFrom (start day : Int) : Int :=
  (mondayOf day - mondayOf start) / 7

/-- A selected weekday of a week that is a number of intervals later. -/
structure WeeklyScheduleDefinition.OnGrid
    (definition : WeeklyScheduleDefinition)
    (day : Int) :
    Prop where
  startExists : definition.startDate.exists = true
  isSelected : ∃ weekday ∈ definition.weekdays, weekdayOf day = weekday
  isAligned :
    (definition.intervalWeeks : Int) ∣ weeksFrom definition.startDate.days day
  notBefore : definition.startDate.days ≤ day

def WeeklyScheduleDefinition.IsDue
    (definition : WeeklyScheduleDefinition)
    (offset after day : Int) :
    Prop :=
  definition.OnGrid day ∧ WithinEnd definition.endDate day ∧
    after < instantOn offset definition.time day

/-- The least instant is found. -/
def WeeklyLaw
    (luxon : Luxon)
    (offset : Int)
    (maxStartDelaySeconds : Nat)
    (definition : WeeklyScheduleDefinition)
    (after : Int) :
    Prop :=
  AnswersLeast maxStartDelaySeconds (definition.IsDue offset after)
    (instantOn offset definition.time)
    (nextWeeklyOccurrence luxon definition after maxStartDelaySeconds)

/-- Of the occurrences that are due, one is no later than the end date in UTC. -/
structure IsFoundWeekly
    (offset : Int)
    (definition : WeeklyScheduleDefinition)
    (after : Int) :
    Prop where
  startExists : definition.startDate.exists = true
  isBeforeEnd :
    ∀ date ∈ definition.endDate,
      date.exists = true →
        ∀ day,
          definition.IsDue offset after day →
            ∃ earlier,
              definition.IsDue offset after earlier ∧
                instantOn offset definition.time earlier ≤
                  date.days * oneDayMs
  endExists :
    ∀ date ∈ definition.endDate,
      date.exists = false → ∃ day, definition.IsDue offset after day

variable
  {luxon : Luxon}
  {offset after : Int}
  {maxStartDelaySeconds : Nat}
  {definition : WeeklyScheduleDefinition}

/-- What the schema says of a definition. -/
structure WeeklyScheduleDefinition.IsValid
    (definition : WeeklyScheduleDefinition) :
    Prop where
  isTime : definition.time.parses = true
  hasWeekday : definition.weekdays ≠ []
  ascending : definition.weekdays.Pairwise (· < ·)
  areWeekdays : ∀ weekday ∈ definition.weekdays, 1 ≤ weekday ∧ weekday ≤ 7
  isPositive : 0 < definition.intervalWeeks

theorem WeeklyScheduleDefinition.isValid_of_parses
    (parses : definition.parses = true) :
    definition.IsValid := by
  simp only [WeeklyScheduleDefinition.parses, Bool.and_eq_true,
    decide_eq_true_eq, List.all_eq_true, bne_iff_ne] at parses
  obtain ⟨⟨⟨⟨⟨⟨⟨-, isTime⟩, hasWeekday⟩, ascending⟩, areWeekdays⟩, isPositive⟩,
    -⟩, -⟩ := parses
  exact
    { isTime
      hasWeekday
      ascending
      areWeekdays
      isPositive := by omega }

/-- The day of a weekday in the week of a Monday. -/
def dayOfWeek (monday : Int) (weekday : Nat) : Int := monday + (weekday - 1)

/-- What a weekday answers: nothing, the end, or its occurrence. -/
def dayOutcome
    (luxon : Luxon)
    (offset : Int)
    (maxStartDelaySeconds : Nat)
    (definition : WeeklyScheduleDefinition)
    (after day : Int) :
    Option OccurrenceOutcome :=
  if day < definition.startDate.days then none
  else if luxon.isPastEnd definition.endDate
      (instantOn offset definition.time day) then
    some (.skipped .pastEndDate)
  else if instantOn offset definition.time day ≤ after then none
  else
    some
      (scheduledAt maxStartDelaySeconds (instantOn offset definition.time day))

theorem mondayOf_monday {monday : Int} (isMonday : mondayOf monday = monday) :
    ∀ weeks, mondayOf (monday + 7 * weeks) = monday + 7 * weeks := by
  intro weeks
  rw [mondayOf_weeks, isMonday]

theorem Luxon.HasFixedOffset.weekdayOutcome
    (fixed : luxon.HasFixedOffset offset)
    (isTime : definition.time.parses = true)
    {monday : Int}
    (isMonday : mondayOf monday = monday)
    (weekday : Nat) :
    luxon.weekdayOutcome maxStartDelaySeconds definition
        (midnightOn offset definition.startDate.days) after
        (midnightOn offset monday) weekday =
      dayOutcome luxon offset maxStartDelaySeconds definition after
        (dayOfWeek monday weekday) := by
  have withinDay := LocalTime.millis_bounds isTime
  have isMidnight : (midnightOn offset monday + offset) / oneDayMs = monday := by
    simp only [midnightOn, oneDayMs]
    omega
  have isCandidate :
      luxon.setWeekday (midnightOn offset monday) weekday definition.time =
        instantOn offset definition.time (dayOfWeek monday weekday) := by
    rw [fixed.setWeekday, isMidnight, isMonday, instantOn, dayOfWeek]
  generalize dayOfWeek monday weekday = day at isCandidate
  have isDate :
      (luxon.zone.wallClock (instantOn offset definition.time day)).date =
        CivilDate.ofDays day := by
    rw [Zone.wallClock, fixed.isOffset, instantOn, sub_add_cancel]
    exact WallClock.ofMillis_date withinDay
  have onDay := fixed.localTimeOn isTime (CivilDate.ofDays_exists day)
  rw [(CivilDate.ofDays_days day).1] at onDay
  have beforeStart :
      instantOn offset definition.time day <
          midnightOn offset definition.startDate.days ↔
        day < definition.startDate.days := by
    simp only [instantOn, midnightOn, oneDayMs] at withinDay ⊢
    omega
  rw [Luxon.weekdayOutcome, isCandidate, isDate, onDay, dayOutcome]
  by_cases early : day < definition.startDate.days
  · rw [if_pos (beforeStart.mpr early), if_pos early]
  · rw [if_neg fun less => early (beforeStart.mp less), if_neg early]

/-- The days of a number of weeks, in the order of the search. -/
def searchedDays (definition : WeeklyScheduleDefinition) :
    Nat → Int → List Int
  | 0, _ => []
  | weeks + 1, monday =>
      definition.weekdays.map (dayOfWeek monday) ++
        searchedDays definition weeks
          (monday + 7 * (definition.intervalWeeks : Int))

/-- The search answers what the first of its days answers that does. -/
theorem Luxon.HasFixedOffset.searchWeeks
    (fixed : luxon.HasFixedOffset offset)
    (isTime : definition.time.parses = true)
    {monday : Int}
    (isMonday : mondayOf monday = monday)
    (weeks : Nat) :
    luxon.searchWeeks maxStartDelaySeconds definition
        (midnightOn offset definition.startDate.days) after weeks
        (midnightOn offset monday) =
      ((searchedDays definition weeks monday).findSome?
          (dayOutcome luxon offset maxStartDelaySeconds definition
            after)).getD
        (.skipped .pastEndDate) := by
  induction weeks generalizing monday with
  | zero => rfl
  | succ weeks inductionHypothesis =>
      have nextWeek :
          luxon.plusWeeks (midnightOn offset monday) definition.intervalWeeks =
            midnightOn offset
              (monday + 7 * (definition.intervalWeeks : Int)) := by
        rw [fixed.plusWeeks, midnightOn, midnightOn]
        ring
      simp only [Luxon.searchWeeks, searchedDays, List.findSome?_append,
        List.findSome?_map, Function.comp_def, nextWeek,
        inductionHypothesis (mondayOf_monday isMonday _),
        fixed.weekdayOutcome isTime isMonday]
      cases definition.weekdays.findSome? fun weekday =>
        dayOutcome luxon offset maxStartDelaySeconds definition after
          (dayOfWeek monday weekday) with
      | none => rfl
      | some outcome => rfl

theorem mem_searchedDays
    {weeks : Nat}
    {monday day : Int} :
    day ∈ searchedDays definition weeks monday ↔
      ∃ week < weeks,
        ∃ weekday ∈ definition.weekdays,
          day =
            dayOfWeek
              (monday + 7 * ((week : Int) * definition.intervalWeeks))
              weekday := by
  induction weeks generalizing monday with
  | zero => simp [searchedDays]
  | succ weeks inductionHypothesis =>
      rw [searchedDays, List.mem_append, List.mem_map, inductionHypothesis]
      constructor
      · rintro (⟨weekday, isSelected, rfl⟩ |
          ⟨week, isWeek, weekday, isSelected, rfl⟩)
        · exact ⟨0, by omega, weekday, isSelected, by simp⟩
        · refine ⟨week + 1, by omega, weekday, isSelected, ?_⟩
          congr 1
          push_cast
          ring
      · rintro ⟨week, isWeek, weekday, isSelected, rfl⟩
        cases week with
        | zero => exact Or.inl ⟨weekday, isSelected, by simp⟩
        | succ week =>
            refine Or.inr ⟨week, by omega, weekday, isSelected, ?_⟩
            congr 1
            push_cast
            ring

theorem dayOfWeek_bounds
    (monday : Int)
    {weekday : Nat}
    (isWeekday : 1 ≤ weekday ∧ weekday ≤ 7) :
    monday ≤ dayOfWeek monday weekday ∧ dayOfWeek monday weekday < monday + 7 := by
  rw [dayOfWeek]
  omega

/-- The search goes forward. -/
theorem pairwise_searchedDays
    (isValid : definition.IsValid)
    (weeks : Nat)
    (monday : Int) :
    (searchedDays definition weeks monday).Pairwise (· < ·) := by
  induction weeks generalizing monday with
  | zero => exact List.Pairwise.nil
  | succ weeks inductionHypothesis =>
      rw [searchedDays, List.pairwise_append]
      refine ⟨?_, inductionHypothesis _, ?_⟩
      · rw [List.pairwise_map]
        refine isValid.ascending.imp ?_
        intro first second less
        simp only [dayOfWeek]
        omega
      · intro day listed later isLater
        obtain ⟨weekday, isSelected, rfl⟩ := List.mem_map.mp listed
        obtain ⟨week, -, weekday', isSelected', rfl⟩ :=
          mem_searchedDays.mp isLater
        have before :=
          dayOfWeek_bounds monday
            (isValid.areWeekdays weekday isSelected)
        have after :=
          dayOfWeek_bounds
            (monday + 7 * (definition.intervalWeeks : Int) +
              7 * ((week : Int) * definition.intervalWeeks))
            (isValid.areWeekdays weekday' isSelected')
        have isPositive := isValid.isPositive
        have forward : 0 ≤ (week : Int) * definition.intervalWeeks := by
          positivity
        omega

/-- The first day that is later than an instant decides the search. -/
theorem findSome_dayOutcome
    (fixed : luxon.HasFixedOffset offset)
    {days : List Int}
    {day : Int}
    (ascending : days.Pairwise (· < ·))
    (listed : day ∈ days)
    (notBefore : definition.startDate.days ≤ day)
    (isLater : after < instantOn offset definition.time day)
    (isFirst :
      ∀ other ∈ days,
        definition.startDate.days ≤ other →
          after < instantOn offset definition.time other → day ≤ other) :
    days.findSome?
        (dayOutcome luxon offset maxStartDelaySeconds definition after) =
      some
        (if luxon.isPastEnd definition.endDate
            (instantOn offset definition.time day) then
          .skipped .pastEndDate
        else
          scheduledAt maxStartDelaySeconds
            (instantOn offset definition.time day)) := by
  induction days with
  | nil => cases listed
  | cons other rest inductionHypothesis =>
      obtain ⟨before, ascendingRest⟩ := List.pairwise_cons.mp ascending
      have notLater : other ≤ day := by
        rcases List.mem_cons.mp listed with rfl | later
        · exact le_rfl
        · exact (before day later).le
      have further :
          day ≠ other →
            dayOutcome luxon offset maxStartDelaySeconds definition after
                other =
              none →
              (other :: rest).findSome?
                  (dayOutcome luxon offset maxStartDelaySeconds definition
                    after) =
                some
                  (if luxon.isPastEnd definition.endDate
                      (instantOn offset definition.time day) then
                    .skipped .pastEndDate
                  else
                    scheduledAt maxStartDelaySeconds
                      (instantOn offset definition.time day)) := by
        intro differs isNone
        rw [List.findSome?_cons, isNone]
        exact inductionHypothesis ascendingRest
          ((List.mem_cons.mp listed).resolve_left differs)
          fun item isItem => isFirst item (List.mem_cons_of_mem _ isItem)
      by_cases early : other < definition.startDate.days
      · exact further (by omega) (by rw [dayOutcome, if_pos early])
      by_cases past :
          luxon.isPastEnd definition.endDate
              (instantOn offset definition.time other) =
            true
      · -- what comes after the end date is past it, too
        have pastDay :
            luxon.isPastEnd definition.endDate
                (instantOn offset definition.time day) =
              true := by
          rw [fixed.isPastEnd] at past ⊢
          obtain ⟨date, isEnd, isDate, isPast⟩ := past
          exact ⟨date, isEnd, isDate,
            isPast.trans_le (instantOn_le_iff.mpr notLater)⟩
        rw [List.findSome?_cons, dayOutcome, if_neg early, if_pos past,
          if_pos pastDay]
      by_cases isOver : instantOn offset definition.time other ≤ after
      · have differs : day ≠ other := by
          rintro rfl
          omega
        exact further differs
          (by rw [dayOutcome, if_neg early, if_neg past, if_pos isOver])
      · obtain rfl : day = other :=
          le_antisymm
            (isFirst other List.mem_cons_self (not_lt.mp early)
              (not_le.mp isOver))
            notLater
        rw [List.findSome?_cons, dayOutcome, if_neg early, if_neg past,
          if_neg isOver, if_neg past]

/-- The Monday of the last aligned week that does not begin after a day. -/
def alignedMonday (start interval day : Int) : Int :=
  mondayOf start + 7 * (weeksFrom start day - weeksFrom start day % interval)

theorem mondayOf_eq (start day : Int) :
    mondayOf day = mondayOf start + 7 * weeksFrom start day := by
  have isMultiple := mondayOf_sub_mod day start
  rw [weeksFrom]
  omega

theorem mondayOf_alignedMonday (start interval day : Int) :
    mondayOf (alignedMonday start interval day) =
      alignedMonday start interval day := by
  have isMonday : mondayOf (mondayOf start) = mondayOf start := by
    unfold mondayOf
    omega
  exact mondayOf_monday isMonday _

theorem weeksFrom_alignedMonday (start interval day weeks : Int) :
    weeksFrom start (alignedMonday start interval day + 7 * weeks) =
      weeksFrom start day - weeksFrom start day % interval + weeks := by
  have isMonday :=
    mondayOf_monday (mondayOf_alignedMonday start interval day) weeks
  rw [weeksFrom, isMonday, alignedMonday]
  omega

/-- An aligned week that is not earlier is some intervals later. -/
theorem exists_aligned
    {start interval day other : Int}
    (isPositive : 0 < interval)
    (isAligned : interval ∣ weeksFrom start other)
    (notEarlier : day ≤ other) :
    ∃ week : Nat,
      mondayOf other =
        alignedMonday start interval day + 7 * ((week : Int) * interval) := by
  have notEarlierWeek : weeksFrom start day ≤ weeksFrom start other := by
    have mono := mondayOf_mono notEarlier
    rw [mondayOf_eq start day, mondayOf_eq start other] at mono
    omega
  have isAligned' :
      interval ∣ weeksFrom start day - weeksFrom start day % interval :=
    Int.dvd_self_sub_emod
  obtain ⟨steps, isSteps⟩ := Int.dvd_sub isAligned isAligned'
  have remainder := Int.emod_nonneg (weeksFrom start day) isPositive.ne'
  have forward : 0 ≤ steps := by
    by_contra backward
    have negative : interval * steps < 0 :=
      mul_neg_of_pos_of_neg isPositive (not_le.mp backward)
    omega
  obtain ⟨week, rfl⟩ := Int.eq_ofNat_of_zero_le forward
  refine ⟨week, ?_⟩
  rw [mondayOf_eq start other, alignedMonday, mul_comm (week : Int), ← isSteps]
  ring

/-- The day whose occurrence is answered, if the schedule has not ended. -/
structure IsFoundWeekday
    (definition : WeeklyScheduleDefinition)
    (offset after day : Int) :
    Prop where
  onGrid : definition.OnGrid day
  isLater : after < instantOn offset definition.time day
  isFirst :
    ∀ other,
      definition.OnGrid other →
        after < instantOn offset definition.time other → day ≤ other

/-- The days that are searched are on the grid. -/
theorem onGrid_of_mem_searchedDays
    (isValid : definition.IsValid)
    (startExists : definition.startDate.exists = true)
    {weeks : Nat}
    {searchDay day : Int}
    (listed :
      day ∈
        searchedDays definition weeks
          (alignedMonday definition.startDate.days definition.intervalWeeks
            searchDay))
    (notBefore : definition.startDate.days ≤ day) :
    definition.OnGrid day := by
  obtain ⟨week, -, weekday, isSelected, rfl⟩ := mem_searchedDays.mp listed
  have isWeekday := isValid.areWeekdays weekday isSelected
  have isMonday :=
    mondayOf_monday
      (mondayOf_alignedMonday definition.startDate.days
        definition.intervalWeeks searchDay)
      ((week : Int) * definition.intervalWeeks)
  have ofMonday :=
    @weekday_of_monday
      (alignedMonday definition.startDate.days definition.intervalWeeks searchDay +
        7 * ((week : Int) * definition.intervalWeeks))
      weekday (by omega)
  rw [isMonday] at ofMonday
  refine
    { startExists
      isSelected := ⟨weekday, isSelected, ofMonday.2⟩
      isAligned := ?_
      notBefore }
  have sameWeek :
      weeksFrom definition.startDate.days
          (dayOfWeek
            (alignedMonday definition.startDate.days definition.intervalWeeks
                searchDay +
              7 * ((week : Int) * definition.intervalWeeks))
            weekday) =
        weeksFrom definition.startDate.days
          (alignedMonday definition.startDate.days definition.intervalWeeks
              searchDay +
            7 * ((week : Int) * definition.intervalWeeks)) := by
    rw [weeksFrom, weeksFrom, dayOfWeek, ofMonday.1, isMonday]
  rw [sameWeek, weeksFrom_alignedMonday]
  exact Int.dvd_add Int.dvd_self_sub_emod (Dvd.intro_left _ rfl)

/-- There is a first day that is later than an instant, within two weeks. -/
theorem exists_foundWeekday
    (isValid : definition.IsValid)
    (startExists : definition.startDate.exists = true) :
    ∃ day ∈
        searchedDays definition maxSearchWeeks
          (alignedMonday definition.startDate.days definition.intervalWeeks
            (max ((after + offset) / oneDayMs) definition.startDate.days)),
      IsFoundWeekday definition offset after day := by
  have withinDay := LocalTime.millis_bounds isValid.isTime
  have isPositive : 0 < (definition.intervalWeeks : Int) := by
    have := isValid.isPositive
    omega
  have laterThanToday :
      ∀ day,
        after < instantOn offset definition.time day →
          (after + offset) / oneDayMs ≤ day := by
    intro day isLater
    simp only [instantOn, oneDayMs] at withinDay isLater ⊢
    omega
  have laterThanDay :
      ∀ day,
        (after + offset) / oneDayMs < day →
          after < instantOn offset definition.time day := by
    intro day isLater
    simp only [instantOn, oneDayMs] at withinDay isLater ⊢
    omega
  generalize (after + offset) / oneDayMs = today at *
  generalize isSearchDay : max today definition.startDate.days = searchDay
  generalize isFirstMonday :
    alignedMonday definition.startDate.days definition.intervalWeeks searchDay =
      monday
  -- the first weekday of the second week that is searched is later
  obtain ⟨weekday, isSelected⟩ := List.exists_mem_of_ne_nil _ isValid.hasWeekday
  have isWeekday := isValid.areWeekdays weekday isSelected
  generalize isCandidate :
    dayOfWeek (monday + 7 * (((1 : Nat) : Int) * definition.intervalWeeks))
      weekday = candidate
  have bounds :=
    dayOfWeek_bounds
      (monday + 7 * (((1 : Nat) : Int) * definition.intervalWeeks)) isWeekday
  rw [isCandidate] at bounds
  have afterSearchDay : searchDay < candidate := by
    have ofWeek := mondayOf_eq definition.startDate.days searchDay
    have remainder :=
      Int.emod_lt_of_pos (weeksFrom definition.startDate.days searchDay)
        isPositive
    rw [alignedMonday] at isFirstMonday
    have inWeek : searchDay < mondayOf searchDay + 7 := by
      unfold mondayOf
      omega
    omega
  have isListed :
      candidate ∈ searchedDays definition maxSearchWeeks monday :=
    mem_searchedDays.mpr
      ⟨1, by decide, weekday, isSelected, isCandidate.symm⟩
  have candidateFits :
      definition.startDate.days ≤ candidate ∧
        after < instantOn offset definition.time candidate :=
    ⟨by omega, laterThanDay candidate (by omega)⟩
  -- of the days that are searched, one is the first that is later
  obtain ⟨day, isDay, isLeast⟩ :=
    ((searchedDays definition maxSearchWeeks monday).toFinset.filter fun day =>
        definition.startDate.days ≤ day ∧
          after < instantOn offset definition.time day).exists_min_image id
      ⟨candidate, Finset.mem_filter.mpr
        ⟨List.mem_toFinset.mpr isListed, candidateFits⟩⟩
  rw [Finset.mem_filter, List.mem_toFinset] at isDay
  obtain ⟨listed, notBefore, isLater⟩ := isDay
  have leastOf :
      ∀ other ∈ searchedDays definition maxSearchWeeks monday,
        definition.startDate.days ≤ other →
          after < instantOn offset definition.time other → day ≤ other :=
    fun other isOther notBefore isLater =>
      isLeast other (Finset.mem_filter.mpr
        ⟨List.mem_toFinset.mpr isOther, notBefore, isLater⟩)
  refine ⟨day, listed, ?_⟩
  refine { onGrid := ?_, isLater, isFirst := ?_ }
  · rw [← isFirstMonday] at listed
    exact onGrid_of_mem_searchedDays isValid startExists listed notBefore
  · intro other onGrid isLaterOther
    have notEarlier : searchDay ≤ other := by
      have := laterThanToday other isLaterOther
      have := onGrid.notBefore
      omega
    obtain ⟨week, isMonday⟩ :=
      exists_aligned isPositive onGrid.isAligned notEarlier
    obtain ⟨otherWeekday, isSelected', isWeekday'⟩ := onGrid.isSelected
    have isOther := mondayOf_add_weekday other
    rw [isFirstMonday] at isMonday
    by_cases soon : week < maxSearchWeeks
    · refine leastOf other (mem_searchedDays.mpr
        ⟨week, soon, otherWeekday, isSelected', ?_⟩) onGrid.notBefore
        isLaterOther
      rw [dayOfWeek, ← isMonday, ← isWeekday', isOther]
    · -- weeks that are not searched come after the second one
      have beforeCandidate := leastOf candidate isListed candidateFits.1
        candidateFits.2
      have fartherWeek :
          2 * (definition.intervalWeeks : Int) ≤
            week * definition.intervalWeeks :=
        mul_le_mul_of_nonneg_right
          (by rw [maxSearchWeeks] at soon; omega) isPositive.le
      have weekdayBounds := weekdayOf_bounds other
      push_cast at bounds
      omega

/-- What is answered. -/
theorem nextWeeklyOccurrence_found
    (fixed : luxon.HasFixedOffset offset)
    (isValid : definition.IsValid)
    (startExists : definition.startDate.exists = true) :
    ∃ day,
      IsFoundWeekday definition offset after day ∧
        nextWeeklyOccurrence luxon definition after maxStartDelaySeconds =
          if luxon.isPastEnd definition.endDate
              (instantOn offset definition.time day) then
            .skipped .pastEndDate
          else
            scheduledAt maxStartDelaySeconds
              (instantOn offset definition.time day) := by
  obtain ⟨day, listed, found⟩ :=
    @exists_foundWeekday offset after _ isValid startExists
  refine ⟨day, found, ?_⟩
  have isPositive : 0 < (definition.intervalWeeks : Int) := by
    have := isValid.isPositive
    omega
  have isStart :
      luxon.zone.fromObject
          { date := definition.startDate, hour := 0, minute := 0 } =
        some (midnightOn offset definition.startDate.days) := by
    rw [fixed.fromObject _ (Nat.succ_pos 23) (Nat.succ_pos 59),
      if_pos startExists, midnightOn]
    simp [WallClock.millis, LocalDateTime.clock]
  have dayOfMidnight :
      ∀ day, (midnightOn offset day + offset) / oneDayMs = day := by
    intro day
    simp only [midnightOn, oneDayMs]
    omega
  have isSearchDate :
      (if luxon.startOfDay after <
          midnightOn offset definition.startDate.days then
        luxon.startOfDay (midnightOn offset definition.startDate.days)
      else
        luxon.startOfDay after) =
        midnightOn offset
          (max ((after + offset) / oneDayMs) definition.startDate.days) := by
    have startOfDay :
        ∀ instant,
          luxon.startOfDay instant =
            midnightOn offset ((instant + offset) / oneDayMs) :=
      fixed.startOfDay
    have midnight_lt :
        ∀ day day', midnightOn offset day < midnightOn offset day' ↔ day < day' := by
      intro day day'
      simp only [midnightOn, oneDayMs]
      omega
    rw [startOfDay, startOfDay, dayOfMidnight]
    by_cases early : (after + offset) / oneDayMs < definition.startDate.days
    · rw [if_pos ((midnight_lt _ _).mpr early), max_eq_right early.le]
    · rw [if_neg fun less => early ((midnight_lt _ _).mp less),
        max_eq_left (not_lt.mp early)]
  have startOfWeek :
      ∀ day,
        luxon.startOfWeek (midnightOn offset day) =
          midnightOn offset (mondayOf day) := by
    intro day
    rw [fixed.startOfWeek, dayOfMidnight, midnightOn]
  have weeksBetween :
      ∀ day,
        luxon.weeksBetween (midnightOn offset (mondayOf day))
            (midnightOn offset (mondayOf definition.startDate.days)) =
          weeksFrom definition.startDate.days day := by
    intro day
    rw [fixed.weeksBetween, weeksFrom]
    simp only [midnightOn, oneDayMs]
    omega
  have notEarlier :
      0 ≤
        weeksFrom definition.startDate.days
          (max ((after + offset) / oneDayMs) definition.startDate.days) := by
    have mono := mondayOf_mono
      (le_max_right ((after + offset) / oneDayMs) definition.startDate.days)
    rw [weeksFrom]
    omega
  have firstWeek :
      luxon.plusWeeks (midnightOn offset (mondayOf definition.startDate.days))
          (weeksFrom definition.startDate.days
              (max ((after + offset) / oneDayMs) definition.startDate.days) -
            (weeksFrom definition.startDate.days
                (max ((after + offset) / oneDayMs)
                  definition.startDate.days)).tmod
              definition.intervalWeeks) =
        midnightOn offset
          (alignedMonday definition.startDate.days definition.intervalWeeks
            (max ((after + offset) / oneDayMs) definition.startDate.days)) := by
    rw [Int.tmod_eq_emod_of_nonneg notEarlier, fixed.plusWeeks, alignedMonday,
      midnightOn, midnightOn]
    ring
  simp only [nextWeeklyOccurrence, isStart, isSearchDate, startOfWeek,
    weeksBetween, firstWeek,
    fixed.searchWeeks isValid.isTime (mondayOf_alignedMonday _ _ _)]
  rw [findSome_dayOutcome fixed (pairwise_searchedDays isValid _ _) listed
    found.onGrid.notBefore found.isLater]
  · rfl
  · intro other isOther notBefore isLater
    exact found.isFirst other
      (onGrid_of_mem_searchedDays isValid startExists isOther notBefore) isLater

/-- A day after the end date is past it. -/
theorem Luxon.HasFixedOffset.isPastEnd_instantOn
    (fixed : luxon.HasFixedOffset offset)
    {date : CivilDate}
    {day : Int}
    {time : LocalTime}
    (isTime : time.parses = true)
    (isDate : date.exists = true)
    (isLater : ¬(CivilDate.ofDays day).NotAfter date) :
    date.days * oneDayMs < instantOn offset time day := by
  have withinDay := fixed.withinDay
  have isMillis := LocalTime.millis_bounds isTime
  rw [CivilDate.ofDays_notAfter_iff isDate] at isLater
  simp only [instantOn, oneDayMs] at withinDay ⊢
  omega

/-- A start date that no month has is answered by an error. -/
theorem nextWeeklyOccurrence_missing
    (fixed : luxon.HasFixedOffset offset)
    (missing : ¬definition.startDate.exists = true) :
    nextWeeklyOccurrence luxon definition after maxStartDelaySeconds =
      .threw := by
  have noStart :
      luxon.zone.fromObject
          { date := definition.startDate, hour := 0, minute := 0 } =
        none := by
    rw [fixed.fromObject _ (Nat.succ_pos 23) (Nat.succ_pos 59),
      if_neg missing]
  simp only [nextWeeklyOccurrence, noStart]

/--
The least instant is found exactly where the start date exists and one of the
occurrences that are due is not cut off by the midnight of the end date.
-/
theorem weeklyLaw_iff
    (fixed : luxon.HasFixedOffset offset)
    (parses : definition.parses = true) :
    WeeklyLaw luxon offset maxStartDelaySeconds definition after ↔
      IsFoundWeekly offset definition after := by
  have isValid := WeeklyScheduleDefinition.isValid_of_parses parses
  constructor
  · intro answers
    have startExists : definition.startDate.exists = true := by
      by_contra missing
      rw [WeeklyLaw, nextWeeklyOccurrence_missing fixed missing] at answers
      obtain ⟨day, isDue, -, -⟩ | ⟨-, isSkipped⟩ := answers
      · exact missing isDue.1.startExists
      · cases isSkipped
    obtain ⟨day, found, answered⟩ :=
      @nextWeeklyOccurrence_found _ _ after maxStartDelaySeconds _ fixed isValid
        startExists
    rw [WeeklyLaw, answered] at answers
    refine { startExists, isBeforeEnd := ?_, endExists := ?_ }
    · intro date isEnd isDate due isDue
      obtain ⟨least, isLeast, -, isOutcome⟩ | ⟨noneDue, -⟩ := answers
      · split at isOutcome
        · cases isOutcome
        · rename_i notPast
          refine ⟨least, isLeast, ?_⟩
          rw [← scheduledAt_inj isOutcome]
          by_contra past
          exact notPast
            (fixed.isPastEnd.mpr ⟨date, isEnd, isDate, not_le.mp past⟩)
      · exact absurd isDue (noneDue due)
    · intro date isEnd missing
      have notPast :
          ¬luxon.isPastEnd definition.endDate
              (instantOn offset definition.time day) =
            true := by
        rw [fixed.isPastEnd]
        rintro ⟨date', isEnd', isDate', -⟩
        rw [Option.mem_def.mp isEnd] at isEnd'
        rw [← Option.some.inj isEnd', missing] at isDate'
        cases isDate'
      rw [if_neg notPast] at answers
      obtain ⟨least, isLeast, -, -⟩ | ⟨-, isSkipped⟩ := answers
      · exact ⟨least, isLeast⟩
      · cases isSkipped
  · intro isFound
    obtain ⟨day, found, answered⟩ :=
      @nextWeeklyOccurrence_found _ _ after maxStartDelaySeconds _ fixed isValid
        isFound.startExists
    rw [WeeklyLaw, answered]
    have isFirst :
        ∀ other, definition.IsDue offset after other → day ≤ other :=
      fun other isDue => found.isFirst other isDue.1 isDue.2.2
    by_cases hasDue : ∃ due, definition.IsDue offset after due
    · obtain ⟨due, isDue⟩ := hasDue
      have notPast :
          ¬luxon.isPastEnd definition.endDate
              (instantOn offset definition.time day) =
            true := by
        rw [fixed.isPastEnd]
        rintro ⟨date, isEnd, isDate, past⟩
        obtain ⟨earlier, isDueEarlier, isBefore⟩ :=
          isFound.isBeforeEnd date isEnd isDate due isDue
        have notLater :=
          (@instantOn_le_iff offset definition.time _ _).mpr
            (isFirst earlier isDueEarlier)
        omega
      rw [if_neg notPast]
      exact Or.inl
        ⟨day, ⟨found.onGrid, isDue.2.1.mono (isFirst due isDue), found.isLater⟩,
          fun other isDueOther =>
            instantOn_le_iff.mpr (isFirst other isDueOther), rfl⟩
    · have noneDue : ∀ due, ¬definition.IsDue offset after due :=
        fun due isDue => hasDue ⟨due, isDue⟩
      have notWithin : ¬WithinEnd definition.endDate day := fun within =>
        noneDue day ⟨found.onGrid, within, found.isLater⟩
      simp only [WithinEnd, not_forall] at notWithin
      obtain ⟨date, isEnd, isLater⟩ := notWithin
      have isDate : date.exists = true := by
        by_contra missing
        exact hasDue (isFound.endExists date isEnd (by simpa using missing))
      have past :=
        fixed.isPastEnd.mpr
          ⟨date, isEnd, isDate,
            fixed.isPastEnd_instantOn isValid.isTime isDate isLater⟩
      rw [if_pos past]
      exact Or.inr ⟨noneDue, rfl⟩

/-- Nine o'clock on two Mondays of June 2024; the second is the end date. -/
def exampleWeekly : WeeklyScheduleDefinition :=
  { startDate := { year := 2024, month := 6, day := 3 }
    endDate := some { year := 2024, month := 6, day := 10 }
    time := { hour := 9, minute := 0 }
    weekdays := [1]
    intervalWeeks := 1 }

theorem exampleWeekly_start :
    exampleWeekly.startDate.exists = true ∧
      exampleWeekly.startDate.days = 19877 := by
  decide +kernel

theorem exampleWeekly_time :
    exampleWeekly.parses = true ∧ exampleWeekly.time.millis = 32400000 := by
  decide +kernel

/-- Both Mondays are due while they are to come. -/
theorem exampleWeekly_isDue
    {after day : Int}
    (isMonday : day = 19877 ∨ day = 19884)
    (isLater : after < day * oneDayMs + 9 * oneHourMs) :
    exampleWeekly.IsDue 0 after day := by
  refine ⟨?_, ?_, ?_⟩
  · refine
      { startExists := exampleWeekly_start.1
        isSelected := ⟨1, List.mem_singleton_self 1, ?_⟩
        isAligned := ?_
        notBefore := ?_ }
    · rcases isMonday with rfl | rfl <;> decide
    · exact Int.one_dvd _
    · rw [exampleWeekly_start.2]
      omega
  · intro date isEnd
    obtain rfl := Option.some.inj (Option.mem_def.mp isEnd)
    rcases isMonday with rfl | rfl <;> decide +kernel
  · rw [instantOn, exampleWeekly_time.2]
    simp only [oneDayMs, oneHourMs] at isLater ⊢
    omega

/-- On the day before the schedule starts, its first Monday is found. -/
theorem weeklyLaw_iff_exampleWeekly :
    WeeklyLaw (fixedOffsetLuxon 0) 0 300 exampleWeekly (19876 * oneDayMs) := by
  refine (weeklyLaw_iff (fixedOffsetLuxon_hasFixedOffset (by decide))
    exampleWeekly_time.1).mpr
    { startExists := exampleWeekly_start.1
      isBeforeEnd := ?_
      endExists := ?_ }
  · intro date isEnd _ _ _
    obtain rfl := Option.some.inj (Option.mem_def.mp isEnd)
    refine ⟨19877, exampleWeekly_isDue (Or.inl rfl) (by decide), ?_⟩
    rw [instantOn, exampleWeekly_time.2]
    decide +kernel
  · intro date isEnd missing
    obtain rfl := Option.some.inj (Option.mem_def.mp isEnd)
    exact absurd missing (by decide +kernel)

/-- After the first Monday the second is due, but the schedule has ended. -/
theorem exampleWeekly_notWeeklyLaw :
    ¬WeeklyLaw (fixedOffsetLuxon 0) 0 300 exampleWeekly (19878 * oneDayMs) := by
  intro answers
  have hasEnded :
      nextWeeklyOccurrence (fixedOffsetLuxon 0) exampleWeekly
          (19878 * oneDayMs) 300 =
        .skipped .pastEndDate := by
    decide +kernel
  rw [WeeklyLaw, hasEnded] at answers
  obtain ⟨day, -, -, isScheduled⟩ | ⟨noneDue, -⟩ := answers
  · cases isScheduled
  · exact noneDue 19884 (exampleWeekly_isDue (Or.inr rfl) (by decide))

end TaskTwin.Schedule

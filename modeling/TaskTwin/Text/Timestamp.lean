import TaskTwin.Text.CodeUnit

/-!
# Time values

Dates of ECMAScript are milliseconds since the start of 1970, and
`toISOString` writes them in the proleptic Gregorian calendar.  Reading such
a text gives the time value back.
-/

namespace TaskTwin.Text

/-- The days from the start of 1970 to the first of March of a year. -/
def daysBeforeMarch (year : Int) : Int :=
  365 * year + year / 4 - year / 100 + year / 400 - 719468

/-- A year that begins in March, and the days that passed in it. -/
structure MarchDate where
  year : Int
  day : Nat
  deriving DecidableEq, Repr

/-- The years of a day, counted in cycles of 400, 100, 4 and 1 years. -/
def MarchDate.ofDays (days : Int) : MarchDate :=
  let era := (days + 719468) / 146097
  let dayOfEra := (days + 719468) % 146097
  let century := min (dayOfEra / 36524) 3
  let dayOfCentury := dayOfEra - century * 36524
  let cycle := dayOfCentury / 1461
  let dayOfCycle := dayOfCentury % 1461
  let yearOfCycle := min (dayOfCycle / 365) 3
  { year := era * 400 + century * 100 + cycle * 4 + yearOfCycle
    day := (dayOfCycle - yearOfCycle * 365).toNat }

theorem daysBeforeMarch_cycles
    {era century cycle yearOfCycle : Int}
    (isCentury : 0 ≤ century ∧ century ≤ 3)
    (isCycle : 0 ≤ cycle ∧ cycle ≤ 24)
    (isYear : 0 ≤ yearOfCycle ∧ yearOfCycle ≤ 3) :
    daysBeforeMarch (era * 400 + century * 100 + cycle * 4 + yearOfCycle) =
      era * 146097 + century * 36524 + cycle * 1461 + yearOfCycle * 365 -
        719468 := by
  have fours :
      (era * 400 + century * 100 + cycle * 4 + yearOfCycle) / 4 =
        era * 100 + century * 25 + cycle := by
    omega
  have hundreds :
      (era * 400 + century * 100 + cycle * 4 + yearOfCycle) / 100 =
        era * 4 + century := by
    omega
  have eras :
      (era * 400 + century * 100 + cycle * 4 + yearOfCycle) / 400 = era := by
    omega
  rw [daysBeforeMarch, fours, hundreds, eras]
  omega

/-- The days are found again. -/
theorem MarchDate.ofDays_days (days : Int) :
    daysBeforeMarch (MarchDate.ofDays days).year +
          (MarchDate.ofDays days).day =
        days ∧
      (MarchDate.ofDays days).day ≤ 365 := by
  unfold MarchDate.ofDays
  dsimp only
  have isDayOfEra :
      0 ≤ (days + 719468) % 146097 ∧ (days + 719468) % 146097 < 146097 := by
    omega
  have isDays :
      days =
        (days + 719468) / 146097 * 146097 + (days + 719468) % 146097 -
          719468 := by
    omega
  generalize (days + 719468) / 146097 = era at *
  generalize (days + 719468) % 146097 = dayOfEra at *
  have isCentury :
      0 ≤ min (dayOfEra / 36524) 3 ∧ min (dayOfEra / 36524) 3 ≤ 3 := by
    omega
  have isDayOfCentury :
      0 ≤ dayOfEra - min (dayOfEra / 36524) 3 * 36524 ∧
        dayOfEra - min (dayOfEra / 36524) 3 * 36524 ≤ 36524 := by
    omega
  have split :
      dayOfEra =
        min (dayOfEra / 36524) 3 * 36524 +
          (dayOfEra - min (dayOfEra / 36524) 3 * 36524) := by
    omega
  generalize dayOfEra - min (dayOfEra / 36524) 3 * 36524 = dayOfCentury at *
  generalize min (dayOfEra / 36524) 3 = century at *
  have isCycle : 0 ≤ dayOfCentury / 1461 ∧ dayOfCentury / 1461 ≤ 24 := by
    omega
  have isYear :
      0 ≤ min (dayOfCentury % 1461 / 365) 3 ∧
        min (dayOfCentury % 1461 / 365) 3 ≤ 3 := by
    omega
  rw [daysBeforeMarch_cycles isCentury isCycle isYear]
  omega

structure CivilDate where
  year : Int
  month : Nat
  day : Nat
  deriving DecidableEq, Repr

/-- The month of a date, counted from March. -/
def CivilDate.monthFromMarch (date : CivilDate) : Nat :=
  if date.month ≤ 2 then date.month + 9 else date.month - 3

/-- The days from the start of 1970 to a date. -/
def CivilDate.days (date : CivilDate) : Int :=
  daysBeforeMarch (if date.month ≤ 2 then date.year - 1 else date.year) +
    ((153 * date.monthFromMarch + 2) / 5 + date.day - 1 : Nat)

def MarchDate.civil (date : MarchDate) : CivilDate :=
  let fromMarch := (5 * date.day + 2) / 153
  let day := date.day - (153 * fromMarch + 2) / 5 + 1
  if fromMarch < 10 then
    { year := date.year, month := fromMarch + 3, day }
  else
    { year := date.year + 1, month := fromMarch - 9, day }

def CivilDate.ofDays (days : Int) : CivilDate :=
  (MarchDate.ofDays days).civil

theorem MarchDate.civil_days
    {date : MarchDate}
    (inYear : date.day ≤ 365) :
    date.civil.days = daysBeforeMarch date.year + date.day ∧
      1 ≤ date.civil.month ∧ date.civil.month ≤ 12 ∧
      1 ≤ date.civil.day ∧ date.civil.day ≤ 31 := by
  have isMonth : (5 * date.day + 2) / 153 ≤ 11 := by omega
  have isDay :
      (153 * ((5 * date.day + 2) / 153) + 2) / 5 ≤ date.day ∧
        date.day - (153 * ((5 * date.day + 2) / 153) + 2) / 5 ≤ 30 := by
    omega
  unfold MarchDate.civil
  dsimp only
  generalize (5 * date.day + 2) / 153 = fromMarch at *
  by_cases sameYear : fromMarch < 10
  · have late : ¬fromMarch + 3 ≤ 2 := by omega
    simp only [sameYear, ↓reduceIte, CivilDate.days,
      CivilDate.monthFromMarch, late, Nat.add_sub_cancel]
    omega
  · have early : fromMarch - 9 ≤ 2 := by omega
    have isMonth : fromMarch - 9 + 9 = fromMarch := by omega
    simp only [sameYear, ↓reduceIte, CivilDate.days,
      CivilDate.monthFromMarch, early, isMonth, Int.add_sub_cancel]
    omega

theorem CivilDate.ofDays_days (days : Int) :
    (CivilDate.ofDays days).days = days ∧
      1 ≤ (CivilDate.ofDays days).month ∧
      (CivilDate.ofDays days).month ≤ 12 ∧
      1 ≤ (CivilDate.ofDays days).day ∧
      (CivilDate.ofDays days).day ≤ 31 := by
  obtain ⟨isDays, inYear⟩ := MarchDate.ofDays_days days
  have civil := MarchDate.civil_days inYear
  rw [isDays] at civil
  exact civil

/-- The largest time value. -/
def maxTime : Int := 8640000000000000

/-- A finite time value of a date. -/
structure TimeValue where
  milliseconds : Int
  inRange : -maxTime ≤ milliseconds ∧ milliseconds ≤ maxTime
  deriving DecidableEq, Repr

/-- `TimeClip`. -/
def timeClip (milliseconds : Int) : Option TimeValue :=
  if inRange : -maxTime ≤ milliseconds ∧ milliseconds ≤ maxTime then
    some { milliseconds, inRange }
  else
    none

def yearText (year : Int) : JsString :=
  if 0 ≤ year ∧ year ≤ 9999 then paddedText 4 year.toNat
  else
    (if year < 0 then unit '-' else unit '+') :: paddedText 6 year.natAbs

/-- `Date.prototype.toISOString`. -/
def TimeValue.toISOString (time : TimeValue) : JsString :=
  let date := CivilDate.ofDays (time.milliseconds / 86400000)
  let ofDay := (time.milliseconds % 86400000).toNat
  yearText date.year ++ unit '-' ::
    (paddedText 2 date.month ++ unit '-' ::
      (paddedText 2 date.day ++ unit 'T' ::
        (paddedText 2 (ofDay / 3600000) ++ unit ':' ::
          (paddedText 2 (ofDay / 60000 % 60) ++ unit ':' ::
            (paddedText 2 (ofDay / 1000 % 60) ++ unit '.' ::
              (paddedText 3 (ofDay % 1000) ++ [unit 'Z']))))))

/-- A number of a fixed width at the start of a text. -/
def readDigits
    (width : Nat)
    (text : JsString) :
    Option (Nat × JsString) :=
  let digits := text.take width
  if digits.length = width ∧ digits.all CodeUnit.isDigit then
    some (decimalValue digits, text.drop width)
  else
    none

/-- A symbol at the start of a text. -/
def expect
    (symbol : CodeUnit) :
    JsString → Option JsString
  | [] => none
  | first :: rest => if first = symbol then some rest else none

/-- Four digits, or six behind a sign; zero has no negative sign. -/
def readYear (text : JsString) : Option (Int × JsString) :=
  match text with
  | [] => none
  | sign :: rest =>
      if sign = unit '+' then
        (readDigits 6 rest).map fun (year, rest) => ((year : Int), rest)
      else if sign = unit '-' then
        (readDigits 6 rest).bind fun (year, rest) =>
          if year = 0 then none else some (-(year : Int), rest)
      else
        (readDigits 4 text).map fun (year, rest) => ((year : Int), rest)

/-- A date that the calendar has. -/
def CivilDate.exists (date : CivilDate) : Bool :=
  CivilDate.ofDays date.days == date

/-- A number of a fixed width with a symbol behind it. -/
def readField
    (width : Nat)
    (symbol : CodeUnit)
    (text : JsString) :
    Option (Nat × JsString) :=
  (readDigits width text).bind fun (number, rest) =>
    (expect symbol rest).map fun rest => (number, rest)

/-- The milliseconds of a text in the format of `toISOString`. -/
def readISOString (text : JsString) : Option Int :=
  (readYear text).bind fun (year, text) =>
  (expect (unit '-') text).bind fun text =>
  (readField 2 (unit '-') text).bind fun (month, text) =>
  (readField 2 (unit 'T') text).bind fun (day, text) =>
  (readField 2 (unit ':') text).bind fun (hour, text) =>
  (readField 2 (unit ':') text).bind fun (minute, text) =>
  (readField 2 (unit '.') text).bind fun (second, text) =>
  (readField 3 (unit 'Z') text).bind fun (millisecond, text) =>
    let date : CivilDate := { year, month, day }
    if text = [] ∧ date.exists ∧ hour < 24 ∧ minute < 60 ∧ second < 60 then
      some
        (date.days * 86400000 +
          (hour * 3600000 + minute * 60000 + second * 1000 +
            millisecond : Nat))
    else
      none

/--
`Date.parse`.  Other formats than that of `toISOString` are left to the
implementation.
-/
def dateParse
    (parseOther : JsString → Option TimeValue)
    (text : JsString) :
    Option TimeValue :=
  match readISOString text with
  | some milliseconds => timeClip milliseconds
  | none => parseOther text

@[simp] theorem readDigits_padded
    {width number : Nat}
    (fits : number < 10 ^ width)
    (rest : JsString) :
    readDigits width (paddedText width number ++ rest) =
      some (number, rest) := by
  have length := paddedText_length width number
  have digits := paddedText_isDigit width number
  simp only [readDigits, List.take_left' length, List.drop_left' length,
    length, decimalValue_paddedText fits, true_and, List.all_eq_true]
  rw [if_pos digits]

@[simp] theorem expect_same
    (symbol : CodeUnit)
    (rest : JsString) :
    expect symbol (symbol :: rest) = some rest := by
  simp [expect]

theorem readField_padded
    {width number : Nat}
    (fits : number < 10 ^ width)
    (symbol : CodeUnit)
    (rest : JsString) :
    readField width symbol (paddedText width number ++ symbol :: rest) =
      some (number, rest) := by
  simp [readField, fits]

theorem readYear_yearText
    {year : Int}
    (small : -999999 ≤ year ∧ year ≤ 999999)
    (rest : JsString) :
    readYear (yearText year ++ rest) = some (year, rest) := by
  unfold yearText
  split
  case isTrue short =>
    have fits : year.toNat < 10 ^ 4 := by omega
    have read := readDigits_padded fits rest
    obtain ⟨first, later, isText⟩ :=
      List.exists_cons_of_length_eq_add_one (paddedText_length 4 year.toNat)
    have isDigit : CodeUnit.isDigit first = true :=
      paddedText_isDigit 4 year.toNat first (by simp [isText])
    have notPlus : first ≠ unit '+' := by rintro rfl; cases isDigit
    have notMinus : first ≠ unit '-' := by rintro rfl; cases isDigit
    rw [isText, List.cons_append] at read ⊢
    simp only [readYear, notPlus, notMinus, ↓reduceIte, read,
      Option.map_some, Option.some.injEq, Prod.mk.injEq, and_true]
    omega
  case isFalse long =>
    have fits : year.natAbs < 10 ^ 6 := by omega
    have read := readDigits_padded fits rest
    by_cases negative : year < 0
    · have notPlus : unit '-' ≠ unit '+' := by decide
      have notZero : year.natAbs ≠ 0 := by omega
      simp only [negative, ↓reduceIte, List.cons_append, readYear, notPlus,
        read, Option.bind_some, notZero, Option.some.injEq, Prod.mk.injEq,
        and_true]
      omega
    · simp only [negative, ↓reduceIte, List.cons_append, readYear, read,
        Option.map_some, Option.some.injEq, Prod.mk.injEq, and_true]
      omega

/-- The years of time values have at most six digits. -/
theorem CivilDate.year_small
    {days : Int}
    (small : -100000000 ≤ days ∧ days ≤ 100000000) :
    -999999 ≤ (CivilDate.ofDays days).year ∧
      (CivilDate.ofDays days).year ≤ 999999 := by
  obtain ⟨isDays, inYear⟩ := MarchDate.ofDays_days days
  have marchYear :
      -999998 ≤ (MarchDate.ofDays days).year ∧
        (MarchDate.ofDays days).year ≤ 999998 := by
    unfold daysBeforeMarch at isDays
    omega
  unfold CivilDate.ofDays MarchDate.civil
  dsimp only
  split <;> dsimp only <;> omega

theorem readISOString_toISOString (time : TimeValue) :
    readISOString time.toISOString = some time.milliseconds := by
  have inRange := time.inRange
  unfold maxTime at inRange
  have isTime :
      time.milliseconds =
        time.milliseconds / 86400000 * 86400000 +
          ((time.milliseconds % 86400000).toNat : Int) := by
    omega
  have ofDay : (time.milliseconds % 86400000).toNat < 86400000 := by omega
  have isDays :
      -100000000 ≤ time.milliseconds / 86400000 ∧
        time.milliseconds / 86400000 ≤ 100000000 := by
    omega
  unfold TimeValue.toISOString
  dsimp only
  generalize time.milliseconds / 86400000 = days at *
  generalize (time.milliseconds % 86400000).toNat = rest at *
  obtain ⟨sameDays, _, isMonth, _, isDay⟩ := CivilDate.ofDays_days days
  have year := CivilDate.year_small isDays
  have isKnown : (CivilDate.ofDays days).exists = true := by
    simp [CivilDate.exists, sameDays]
  have hour : rest / 3600000 < 24 := by omega
  have minute : rest / 60000 % 60 < 60 := by omega
  have second : rest / 1000 % 60 < 60 := by omega
  have millisecond : rest % 1000 < 10 ^ 3 := by omega
  have isRest :
      rest / 3600000 * 3600000 + rest / 60000 % 60 * 60000 +
          rest / 1000 % 60 * 1000 + rest % 1000 =
        rest := by
    omega
  have month' : (CivilDate.ofDays days).month < 10 ^ 2 := by omega
  have day' : (CivilDate.ofDays days).day < 10 ^ 2 := by omega
  have hour' : rest / 3600000 < 10 ^ 2 := by omega
  have minute' : rest / 60000 % 60 < 10 ^ 2 := by omega
  have second' : rest / 1000 % 60 < 10 ^ 2 := by omega
  unfold readISOString
  rw [readYear_yearText year, Option.bind_some]
  dsimp only
  rw [expect_same, Option.bind_some, readField_padded month',
    Option.bind_some]
  dsimp only
  rw [readField_padded day', Option.bind_some]
  dsimp only
  rw [readField_padded hour', Option.bind_some]
  dsimp only
  rw [readField_padded minute', Option.bind_some]
  dsimp only
  rw [readField_padded second', Option.bind_some]
  dsimp only
  rw [readField_padded millisecond, Option.bind_some]
  simp only [isKnown, hour, minute, second, and_self, ↓reduceIte, isRest,
    sameDays]
  rw [← isTime]

/-- Reading what was written. -/
theorem dateParse_toISOString
    (parseOther : JsString → Option TimeValue)
    (time : TimeValue) :
    dateParse parseOther time.toISOString = some time := by
  rw [dateParse, readISOString_toISOString]
  dsimp only
  rw [timeClip, dif_pos time.inRange]

end TaskTwin.Text

namespace TaskTwin.Text

/-- The order of dates that are written with their year first. -/
def CivilDate.NotAfter (first second : CivilDate) : Prop :=
  first.year < second.year ∨
    first.year = second.year ∧
      (first.month < second.month ∨
        first.month = second.month ∧ first.day ≤ second.day)

instance (first second : CivilDate) : Decidable (first.NotAfter second) :=
  inferInstanceAs (Decidable (_ ∨ _))

theorem CivilDate.NotAfter.antisymm
    {first second : CivilDate}
    (before : first.NotAfter second)
    (after : second.NotAfter first) :
    first = second := by
  obtain ⟨year, month, day⟩ := first
  obtain ⟨year', month', day'⟩ := second
  simp only [NotAfter] at before after
  simp only [CivilDate.mk.injEq]
  omega

theorem CivilDate.NotAfter.trans
    {first second third : CivilDate}
    (before : first.NotAfter second)
    (after : second.NotAfter third) :
    first.NotAfter third := by
  simp only [NotAfter] at before after ⊢
  omega

theorem CivilDate.ofDays_exists (days : Int) :
    (CivilDate.ofDays days).exists = true := by
  rw [CivilDate.exists, (CivilDate.ofDays_days days).1, beq_self_eq_true]

theorem CivilDate.ofDays_of_exists
    {date : CivilDate}
    (isDate : date.exists = true) :
    CivilDate.ofDays date.days = date :=
  beq_iff_eq.mp isDate

/-- The year that follows may begin a cycle, a century or an era. -/
theorem lt_nextYear
    {days era century cycle yearOfCycle dayOfCycle : Int}
    (isDays :
      days =
        era * 146097 + century * 36524 + cycle * 1461 + dayOfCycle - 719468)
    (isCentury : 0 ≤ century ∧ century ≤ 3)
    (isCycle : 0 ≤ cycle ∧ cycle ≤ 24)
    (inCentury : cycle = 24 → century < 3 → dayOfCycle < 1460)
    (isYear : 0 ≤ yearOfCycle ∧ yearOfCycle ≤ 3)
    (inCycle : dayOfCycle < 1461)
    (inYear : yearOfCycle < 3 → dayOfCycle < yearOfCycle * 365 + 365) :
    days <
      daysBeforeMarch
        (era * 400 + century * 100 + cycle * 4 + yearOfCycle + 1) := by
  by_cases isYearOfCycle : yearOfCycle < 3
  · have begins :=
      @daysBeforeMarch_cycles era century cycle (yearOfCycle + 1) isCentury
        isCycle (by omega)
    have inYear := inYear isYearOfCycle
    rw [← add_assoc] at begins
    omega
  have isLastYear : yearOfCycle = 3 := by omega
  by_cases isCycleOfCentury : cycle < 24
  · have begins :=
      @daysBeforeMarch_cycles era century (cycle + 1) 0 isCentury (by omega)
        (by omega)
    have same :
        era * 400 + century * 100 + (cycle + 1) * 4 + 0 =
          era * 400 + century * 100 + cycle * 4 + yearOfCycle + 1 := by
      omega
    rw [same] at begins
    omega
  have isLastCycle : cycle = 24 := by omega
  by_cases isCenturyOfEra : century < 3
  · have begins :=
      @daysBeforeMarch_cycles era (century + 1) 0 0 (by omega) (by omega)
        (by omega)
    have same :
        era * 400 + (century + 1) * 100 + 0 * 4 + 0 =
          era * 400 + century * 100 + cycle * 4 + yearOfCycle + 1 := by
      omega
    have inCentury := inCentury isLastCycle isCenturyOfEra
    rw [same] at begins
    omega
  · have begins :=
      @daysBeforeMarch_cycles (era + 1) 0 0 0 (by omega) (by omega) (by omega)
    have same :
        (era + 1) * 400 + 0 * 100 + 0 * 4 + 0 =
          era * 400 + century * 100 + cycle * 4 + yearOfCycle + 1 := by
      omega
    rw [same] at begins
    omega

/-- A day is before the next year begins. -/
theorem MarchDate.ofDays_lt (days : Int) :
    days < daysBeforeMarch ((MarchDate.ofDays days).year + 1) := by
  unfold MarchDate.ofDays
  dsimp only
  have isDays :
      days =
        (days + 719468) / 146097 * 146097 + (days + 719468) % 146097 -
          719468 := by
    omega
  have isDayOfEra :
      0 ≤ (days + 719468) % 146097 ∧ (days + 719468) % 146097 < 146097 := by
    omega
  generalize (days + 719468) / 146097 = era at *
  generalize (days + 719468) % 146097 = dayOfEra at *
  have isCentury :
      0 ≤ min (dayOfEra / 36524) 3 ∧ min (dayOfEra / 36524) 3 ≤ 3 := by
    omega
  have isDayOfCentury :
      0 ≤ dayOfEra - min (dayOfEra / 36524) 3 * 36524 ∧
        dayOfEra - min (dayOfEra / 36524) 3 * 36524 ≤ 36524 ∧
        (min (dayOfEra / 36524) 3 < 3 →
          dayOfEra - min (dayOfEra / 36524) 3 * 36524 ≤ 36523) := by
    omega
  have split :
      dayOfEra =
        min (dayOfEra / 36524) 3 * 36524 +
          (dayOfEra - min (dayOfEra / 36524) 3 * 36524) := by
    omega
  generalize dayOfEra - min (dayOfEra / 36524) 3 * 36524 = dayOfCentury at *
  generalize min (dayOfEra / 36524) 3 = century at *
  have isCycle : 0 ≤ dayOfCentury / 1461 ∧ dayOfCentury / 1461 ≤ 24 := by
    omega
  have isDayOfCycle :
      dayOfCentury = dayOfCentury / 1461 * 1461 + dayOfCentury % 1461 ∧
        0 ≤ dayOfCentury % 1461 ∧ dayOfCentury % 1461 < 1461 := by
    omega
  generalize dayOfCentury / 1461 = cycle at *
  generalize dayOfCentury % 1461 = dayOfCycle at *
  have isYear :
      0 ≤ min (dayOfCycle / 365) 3 ∧ min (dayOfCycle / 365) 3 ≤ 3 ∧
        dayOfCycle < min (dayOfCycle / 365) 3 * 365 + 366 ∧
        (min (dayOfCycle / 365) 3 < 3 →
          dayOfCycle < min (dayOfCycle / 365) 3 * 365 + 365) := by
    omega
  generalize min (dayOfCycle / 365) 3 = yearOfCycle at *
  exact
    lt_nextYear (by omega) isCentury isCycle (by omega)
      ⟨isYear.1, isYear.2.1⟩ isDayOfCycle.2.2 isYear.2.2.2

/-- Later days have later dates. -/
theorem CivilDate.ofDays_notAfter
    {days days' : Int}
    (notLater : days ≤ days') :
    (CivilDate.ofDays days).NotAfter (CivilDate.ofDays days') := by
  have isDays := MarchDate.ofDays_days days
  have isDays' := MarchDate.ofDays_days days'
  have inYear := MarchDate.ofDays_lt days
  have inYear' := MarchDate.ofDays_lt days'
  unfold CivilDate.ofDays
  generalize MarchDate.ofDays days = date at *
  generalize MarchDate.ofDays days' = date' at *
  have sameOrEarlier :
      date.year < date'.year ∨
        date.year = date'.year ∧ date.day ≤ date'.day := by
    have monotone : date'.year + 1 ≤ date.year →
        daysBeforeMarch (date'.year + 1) ≤ daysBeforeMarch date.year := by
      intro later
      unfold daysBeforeMarch
      omega
    by_cases later : date'.year + 1 ≤ date.year
    · have := monotone later
      omega
    · by_cases same : date.year = date'.year
      · rw [same] at isDays
        omega
      · omega
  unfold MarchDate.civil CivilDate.NotAfter
  dsimp only
  split <;> split <;> dsimp only <;> omega

/-- The order of dates is the order of their days. -/
theorem CivilDate.ofDays_notAfter_iff
    {days : Int}
    {date : CivilDate}
    (isDate : date.exists = true) :
    (CivilDate.ofDays days).NotAfter date ↔ days ≤ date.days := by
  constructor
  · intro notAfter
    by_contra later
    have earlier := CivilDate.ofDays_notAfter (not_le.mp later).le
    rw [CivilDate.ofDays_of_exists isDate] at earlier
    have same := notAfter.antisymm earlier
    have sameDays := congrArg CivilDate.days same
    rw [(CivilDate.ofDays_days days).1] at sameDays
    exact later sameDays.le
  · intro notLater
    have notAfter := CivilDate.ofDays_notAfter notLater
    rwa [CivilDate.ofDays_of_exists isDate] at notAfter

/-- The Monday of the week of a day. -/
def mondayOf (day : Int) : Int := day - (day + 3) % 7

/-- Mondays are 1 and Sundays are 7. -/
def weekdayOf (day : Int) : Int := (day + 3) % 7 + 1

theorem mondayOf_add_weekday (day : Int) :
    mondayOf day + (weekdayOf day - 1) = day := by
  unfold mondayOf weekdayOf
  omega

theorem weekdayOf_bounds (day : Int) :
    1 ≤ weekdayOf day ∧ weekdayOf day ≤ 7 := by
  unfold weekdayOf
  omega

/-- The day of a week that has a weekday. -/
theorem weekday_of_monday
    {day weekday : Int}
    (isWeekday : 1 ≤ weekday ∧ weekday ≤ 7) :
    mondayOf (mondayOf day + (weekday - 1)) = mondayOf day ∧
      weekdayOf (mondayOf day + (weekday - 1)) = weekday := by
  unfold mondayOf weekdayOf
  omega

theorem mondayOf_weeks (day weeks : Int) :
    mondayOf (day + 7 * weeks) = mondayOf day + 7 * weeks := by
  unfold mondayOf
  omega

theorem mondayOf_mono
    {day day' : Int}
    (notLater : day ≤ day') :
    mondayOf day ≤ mondayOf day' := by
  unfold mondayOf
  omega

/-- Weeks are seven days apart. -/
theorem mondayOf_sub_mod (day day' : Int) :
    (mondayOf day - mondayOf day') % 7 = 0 := by
  unfold mondayOf
  omega

end TaskTwin.Text

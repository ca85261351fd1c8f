import TaskTwin.Text.CodeUnit

/-!
# How numbers are written

A finite number is given by the shortest decimal digits that denote it, as
`Number::toString` of ECMAScript determines them.  The written form denotes
these digits again, so different magnitudes are written differently.
-/

namespace TaskTwin.Text

/-- A magnitude `significand * 10 ^ exponent` in its shortest form. -/
structure Decimal where
  significand : Nat
  exponent : Int
  shortest :
    significand % 10 ≠ 0 ∨ (significand = 0 ∧ exponent = 0)
  deriving DecidableEq, Repr

def Decimal.zero : Decimal :=
  { significand := 0, exponent := 0, shortest := Or.inr ⟨rfl, rfl⟩ }

theorem Decimal.zero_unique
    {magnitude : Decimal}
    (isZero : magnitude.significand = 0) :
    magnitude = .zero := by
  cases magnitude with
  | mk significand exponent shortest =>
      cases isZero
      rcases shortest with notZero | ⟨_, rfl⟩
      · exact absurd rfl notZero
      · rfl

inductive JsNumber where
  | finite (negative : Bool) (magnitude : Decimal)
  | infinite (negative : Bool)
  | notANumber
  deriving DecidableEq, Repr

/-- Zeros are equal, whatever their sign. -/
def JsNumber.SameValueZero (first second : JsNumber) : Prop :=
  first = second ∨
    ∃ negative negative' magnitude,
      first = .finite negative magnitude ∧
        second = .finite negative' magnitude ∧
        magnitude.significand = 0

/-- `Number::toString` of a positive magnitude. -/
def Decimal.text (magnitude : Decimal) : JsString :=
  let digits := decimalText magnitude.significand
  let point := magnitude.exponent + digits.length
  if 0 ≤ magnitude.exponent ∧ point ≤ 21 then
    digits ++ List.replicate magnitude.exponent.toNat (unit '0')
  else if 0 < point ∧ point ≤ 21 then
    digits.take point.toNat ++ unit '.' :: digits.drop point.toNat
  else if -6 < point ∧ point ≤ 0 then
    unit '0' :: unit '.' ::
      (List.replicate (-point).toNat (unit '0') ++ digits)
  else
    let exponent := point - 1
    let sign := if exponent < 0 then unit '-' else unit '+'
    let fraction :=
      if digits.length = 1 then [] else unit '.' :: digits.drop 1
    digits.take 1 ++ fraction ++
      unit 'e' :: sign :: decimalText exponent.natAbs

/-- `Number::toString` of a finite number. -/
def finiteText
    (negative : Bool)
    (magnitude : Decimal) :
    JsString :=
  if magnitude.significand = 0 then [unit '0']
  else if negative then unit '-' :: magnitude.text
  else magnitude.text

/-- The symbols that numbers are written with. -/
def CodeUnit.isNumeric (symbol : CodeUnit) : Bool :=
  CodeUnit.isDigit symbol || symbol == unit '-' || symbol == unit '+' ||
    symbol == unit '.' || symbol == unit 'e'

/-- The number behind the sign of an exponent. -/
def readExponent : JsString → Int
  | [] => 0
  | sign :: digits =>
      if sign = unit '-' then -(decimalValue digits : Int)
      else decimalValue digits

/-- A significand and an exponent that a numeral denotes. -/
def readNumeral (text : JsString) : Nat × Int :=
  let mantissa := text.takeWhile (· ≠ unit 'e')
  let exponent := (text.dropWhile (· ≠ unit 'e')).drop 1
  let whole := mantissa.takeWhile (· ≠ unit '.')
  let fraction := (mantissa.dropWhile (· ≠ unit '.')).drop 1
  (decimalValue (whole ++ fraction),
    readExponent exponent - fraction.length)

/-- A reading that denotes a magnitude. -/
def Decimal.Denotes (magnitude : Decimal) (reading : Nat × Int) : Prop :=
  ∃ zeros : Nat,
    reading.1 = magnitude.significand * 10 ^ zeros ∧
      reading.2 = magnitude.exponent - zeros

/-- Digits are neither points nor marks of an exponent. -/
theorem isDigit_ne
    {symbol : CodeUnit}
    (isDigit : CodeUnit.isDigit symbol = true) :
    symbol ≠ unit '.' ∧ symbol ≠ unit 'e' := by
  constructor <;> rintro rfl <;> cases isDigit

theorem readNumeral_digits
    {text : JsString}
    (digits : ∀ symbol ∈ text, CodeUnit.isDigit symbol = true) :
    readNumeral text = (decimalValue text, 0) := by
  have noMark : ∀ symbol ∈ text, decide (symbol ≠ unit 'e') = true := by
    intro symbol listed
    simpa using (isDigit_ne (digits symbol listed)).2
  have noPoint : ∀ symbol ∈ text, decide (symbol ≠ unit '.') = true := by
    intro symbol listed
    simpa using (isDigit_ne (digits symbol listed)).1
  simp only [readNumeral, List.takeWhile_eq_self_iff.mpr noMark,
    List.dropWhile_eq_nil_iff.mpr noMark,
    List.takeWhile_eq_self_iff.mpr noPoint,
    List.dropWhile_eq_nil_iff.mpr noPoint]
  simp [readExponent]

theorem readNumeral_pointed
    {whole fraction : JsString}
    (isWhole : ∀ symbol ∈ whole, CodeUnit.isDigit symbol = true)
    (isFraction : ∀ symbol ∈ fraction, CodeUnit.isDigit symbol = true) :
    readNumeral (whole ++ unit '.' :: fraction) =
      (decimalValue (whole ++ fraction), -(fraction.length : Int)) := by
  have noMark :
      ∀ symbol ∈ whole ++ unit '.' :: fraction,
        decide (symbol ≠ unit 'e') = true := by
    intro symbol listed
    rcases List.mem_append.mp listed with inWhole | inRest
    · simpa using (isDigit_ne (isWhole symbol inWhole)).2
    · rcases List.mem_cons.mp inRest with rfl | inFraction
      · decide
      · simpa using (isDigit_ne (isFraction symbol inFraction)).2
  have noPoint : ∀ symbol ∈ whole, decide (symbol ≠ unit '.') = true := by
    intro symbol listed
    simpa using (isDigit_ne (isWhole symbol listed)).1
  simp only [readNumeral, List.takeWhile_eq_self_iff.mpr noMark,
    List.dropWhile_eq_nil_iff.mpr noMark,
    List.takeWhile_append_of_pos noPoint, List.dropWhile_append_of_pos noPoint]
  simp [readExponent, List.takeWhile, List.dropWhile]

/-- A mantissa with an exponent behind it. -/
theorem readNumeral_scaled
    {mantissa : JsString}
    {number : Nat}
    {scale : Int}
    (noMark : ∀ symbol ∈ mantissa, symbol ≠ unit 'e')
    (isMantissa : readNumeral mantissa = (number, scale))
    (exponent : JsString) :
    readNumeral (mantissa ++ unit 'e' :: exponent) =
      (number, readExponent exponent + scale) := by
  have unmarked :
      ∀ symbol ∈ mantissa, decide (symbol ≠ unit 'e') = true := by
    intro symbol listed
    simpa using noMark symbol listed
  simp only [readNumeral, List.takeWhile_eq_self_iff.mpr unmarked,
    List.dropWhile_eq_nil_iff.mpr unmarked, List.drop_nil, readExponent,
    Prod.mk.injEq] at isMantissa
  simp only [readNumeral, List.takeWhile_append_of_pos unmarked,
    List.dropWhile_append_of_pos unmarked]
  rw [← isMantissa.1, ← isMantissa.2]
  simp [List.takeWhile, List.dropWhile]
  omega

/-- Factors of ten are found in one way only. -/
theorem significand_unique
    {first second zeros zeros' : Nat}
    (firstShort : first % 10 ≠ 0)
    (secondShort : second % 10 ≠ 0)
    (sameNumber : first * 10 ^ zeros = second * 10 ^ zeros') :
    first = second ∧ zeros = zeros' := by
  have positive (count : Nat) : 0 < 10 ^ count := Nat.pow_pos (by omega)
  rcases Nat.lt_trichotomy zeros zeros' with less | rfl | more
  · obtain ⟨extra, rfl⟩ := Nat.exists_eq_add_of_lt less
    have isMultiple : first = second * 10 ^ extra * 10 := by
      apply Nat.eq_of_mul_eq_mul_right (positive zeros)
      rw [sameNumber]
      ring
    omega
  · exact ⟨Nat.eq_of_mul_eq_mul_right (positive zeros) sameNumber, rfl⟩
  · obtain ⟨extra, rfl⟩ := Nat.exists_eq_add_of_lt more
    have isMultiple : second = first * 10 ^ extra * 10 := by
      apply Nat.eq_of_mul_eq_mul_right (positive zeros')
      rw [← sameNumber]
      ring
    omega

/-- A reading denotes at most one magnitude. -/
theorem Decimal.Denotes.unique
    {first second : Decimal}
    {reading : Nat × Int}
    (isFirst : first.Denotes reading)
    (isSecond : second.Denotes reading) :
    first = second := by
  obtain ⟨zeros, firstNumber, firstExponent⟩ := isFirst
  obtain ⟨zeros', secondNumber, secondExponent⟩ := isSecond
  have positive (count : Nat) : 10 ^ count ≠ 0 := by
    exact Nat.ne_of_gt (Nat.pow_pos (by omega))
  have sameNumber :
      first.significand * 10 ^ zeros = second.significand * 10 ^ zeros' := by
    rw [← firstNumber, secondNumber]
  cases first with
  | mk significand exponent shortest =>
      cases second with
      | mk significand' exponent' shortest' =>
          rcases shortest with short | ⟨rfl, rfl⟩ <;>
            rcases shortest' with short' | ⟨rfl, rfl⟩
          · obtain ⟨rfl, rfl⟩ := significand_unique short short' sameNumber
            have sameExponent : exponent = exponent' := by
              simp only at firstExponent secondExponent
              omega
            simp [sameExponent]
          · simp only [Nat.zero_mul, Nat.mul_eq_zero, positive, or_false]
              at sameNumber
            simp [sameNumber] at short
          · simp only [Nat.zero_mul, zero_eq_mul, positive, or_false]
              at sameNumber
            simp [sameNumber] at short'
          · rfl

theorem readExponent_signed (exponent : Int) :
    readExponent
        ((if exponent < 0 then unit '-' else unit '+') ::
          decimalText exponent.natAbs) =
      exponent := by
  by_cases negative : exponent < 0
  · simp only [negative, ↓reduceIte, readExponent, decimalValue_decimalText]
    omega
  · have isPlus : unit '+' ≠ unit '-' := by decide
    simp only [negative, ↓reduceIte, readExponent, decimalValue_decimalText,
      isPlus]
    omega

/-- What is written denotes the magnitude. -/
theorem Decimal.text_denotes
    {magnitude : Decimal}
    (positive : 0 < magnitude.significand) :
    magnitude.Denotes (readNumeral magnitude.text) := by
  have isDigit := decimalText_isDigit magnitude.significand
  have isValue := decimalValue_decimalText magnitude.significand
  have nonEmpty := List.length_pos_of_ne_nil (decimalText_ne_nil positive)
  have takes (count : Nat) :
      ∀ symbol ∈ (decimalText magnitude.significand).take count,
        CodeUnit.isDigit symbol = true :=
    fun symbol listed => isDigit symbol (List.mem_of_mem_take listed)
  have drops (count : Nat) :
      ∀ symbol ∈ (decimalText magnitude.significand).drop count,
        CodeUnit.isDigit symbol = true :=
    fun symbol listed => isDigit symbol (List.mem_of_mem_drop listed)
  have zeros (count : Nat) :
      ∀ symbol ∈ List.replicate count (unit '0'),
        CodeUnit.isDigit symbol = true := by
    intro symbol listed
    rw [(List.mem_replicate.mp listed).2]
    decide
  unfold Decimal.text
  generalize decimalText magnitude.significand = digits at *
  dsimp only
  split
  case isTrue plain =>
    rw [readNumeral_digits]
    · refine ⟨magnitude.exponent.toNat, ?_, ?_⟩
      · rw [decimalValue_trailingZeros, isValue]
      · dsimp only
        omega
    · intro symbol listed
      rcases List.mem_append.mp listed with isOwn | isZero
      · exact isDigit symbol isOwn
      · exact zeros _ symbol isZero
  case isFalse notPlain =>
    split
    case isTrue pointed =>
      rw [readNumeral_pointed (takes _) (drops _)]
      refine ⟨0, ?_, ?_⟩
      · simp [isValue]
      · simp only [List.length_drop]
        omega
    case isFalse notPointed =>
      split
      case isTrue small =>
        have leading :
            unit '0' :: unit '.' ::
                (List.replicate (-(magnitude.exponent + digits.length)).toNat
                  (unit '0') ++ digits) =
              List.replicate 1 (unit '0') ++ unit '.' ::
                (List.replicate (-(magnitude.exponent + digits.length)).toNat
                  (unit '0') ++ digits) :=
          rfl
        rw [leading, readNumeral_pointed (zeros 1)]
        · refine ⟨0, ?_, ?_⟩
          · rw [decimalValue_leadingZeros, decimalValue_leadingZeros, isValue,
              Nat.pow_zero, Nat.mul_one]
          · simp only [List.length_append, List.length_replicate]
            omega
        · intro symbol listed
          rcases List.mem_append.mp listed with isZero | isOwn
          · exact zeros _ symbol isZero
          · exact isDigit symbol isOwn
      case isFalse notSmall =>
        have noMark : ∀ symbol ∈ digits, symbol ≠ unit 'e' :=
          fun symbol listed => (isDigit_ne (isDigit symbol listed)).2
        by_cases single : digits.length = 1
        · have whole : digits.take 1 = digits :=
            List.take_of_length_le (by omega)
          simp only [single, ↓reduceIte, List.append_nil, whole]
          rw [readNumeral_scaled noMark (readNumeral_digits isDigit),
            readExponent_signed]
          refine ⟨0, by simp [isValue], ?_⟩
          dsimp only
          omega
        · have mantissa := readNumeral_pointed (takes 1) (drops 1)
          rw [List.take_append_drop, isValue] at mantissa
          simp only [single, ↓reduceIte]
          rw [readNumeral_scaled ?_ mantissa, readExponent_signed]
          · refine ⟨0, by simp, ?_⟩
            simp only [List.length_drop]
            omega
          · intro symbol listed
            rcases List.mem_append.mp listed with isFirst | inRest
            · exact noMark symbol (List.mem_of_mem_take isFirst)
            · rcases List.mem_cons.mp inRest with rfl | isLater
              · decide
              · exact noMark symbol (List.mem_of_mem_drop isLater)

theorem Decimal.text_injective
    {first second : Decimal}
    (firstPositive : 0 < first.significand)
    (secondPositive : 0 < second.significand)
    (sameText : first.text = second.text) :
    first = second := by
  have isFirst := Decimal.text_denotes firstPositive
  rw [sameText] at isFirst
  exact isFirst.unique (Decimal.text_denotes secondPositive)

theorem isNumeric_of_isDigit
    {symbol : CodeUnit}
    (isDigit : CodeUnit.isDigit symbol = true) :
    CodeUnit.isNumeric symbol = true := by
  simp [CodeUnit.isNumeric, isDigit]

/-- A positive magnitude begins with a digit. -/
theorem Decimal.text_begins
    {magnitude : Decimal}
    (positive : 0 < magnitude.significand) :
    ∃ symbol rest,
      magnitude.text = symbol :: rest ∧ CodeUnit.isDigit symbol = true := by
  obtain ⟨symbol, digits, isDigits⟩ :=
    List.exists_cons_of_ne_nil (decimalText_ne_nil positive)
  have isDigit : CodeUnit.isDigit symbol = true :=
    decimalText_isDigit magnitude.significand symbol (by simp [isDigits])
  unfold Decimal.text
  rw [isDigits]
  dsimp only
  split
  case isTrue plain => exact ⟨symbol, _, rfl, isDigit⟩
  case isFalse notPlain =>
    split
    case isTrue pointed =>
      have positive :
          (magnitude.exponent + (symbol :: digits).length).toNat ≠ 0 := by
        omega
      obtain ⟨count, isCount⟩ := Nat.exists_eq_succ_of_ne_zero positive
      rw [isCount]
      exact ⟨symbol, _, rfl, isDigit⟩
    case isFalse notPointed =>
      split
      case isTrue small => exact ⟨unit '0', _, rfl, by decide⟩
      case isFalse notSmall => exact ⟨symbol, _, rfl, isDigit⟩

theorem Decimal.text_isNumeric
    (magnitude : Decimal) :
    ∀ symbol ∈ magnitude.text, CodeUnit.isNumeric symbol = true := by
  have isNumeric (number : Nat) :
      ∀ symbol ∈ decimalText number, CodeUnit.isNumeric symbol = true :=
    fun symbol listed =>
      isNumeric_of_isDigit (decimalText_isDigit number symbol listed)
  have zeros (count : Nat) :
      ∀ symbol ∈ List.replicate count (unit '0'),
        CodeUnit.isNumeric symbol = true := by
    intro symbol listed
    rw [(List.mem_replicate.mp listed).2]
    decide
  have zero : CodeUnit.isNumeric (unit '0') = true := by decide
  have point : CodeUnit.isNumeric (unit '.') = true := by decide
  have mark : CodeUnit.isNumeric (unit 'e') = true := by decide
  have signs (negative : Prop) [Decidable negative] :
      CodeUnit.isNumeric (if negative then unit '-' else unit '+') = true := by
    split <;> decide
  have takes (count : Nat) :
      ∀ symbol ∈ (decimalText magnitude.significand).take count,
        CodeUnit.isNumeric symbol = true :=
    fun symbol listed => isNumeric _ symbol (List.mem_of_mem_take listed)
  have drops (count : Nat) :
      ∀ symbol ∈ (decimalText magnitude.significand).drop count,
        CodeUnit.isNumeric symbol = true :=
    fun symbol listed => isNumeric _ symbol (List.mem_of_mem_drop listed)
  unfold Decimal.text
  dsimp only
  split
  · exact List.forall_mem_append.mpr ⟨isNumeric _, zeros _⟩
  · split
    · exact List.forall_mem_append.mpr
        ⟨takes _, List.forall_mem_cons.mpr ⟨point, drops _⟩⟩
    · split
      · exact List.forall_mem_cons.mpr ⟨zero, List.forall_mem_cons.mpr
          ⟨point, List.forall_mem_append.mpr ⟨zeros _, isNumeric _⟩⟩⟩
      · refine List.forall_mem_append.mpr ⟨List.forall_mem_append.mpr
          ⟨takes 1, ?_⟩, List.forall_mem_cons.mpr ⟨mark,
            List.forall_mem_cons.mpr ⟨signs _, isNumeric _⟩⟩⟩
        split
        · simp
        · exact List.forall_mem_cons.mpr ⟨point, drops 1⟩

theorem finiteText_isNumeric
    (negative : Bool)
    (magnitude : Decimal) :
    ∀ symbol ∈ finiteText negative magnitude,
      CodeUnit.isNumeric symbol = true := by
  have isNumeric := magnitude.text_isNumeric
  unfold finiteText
  split
  · have zero : CodeUnit.isNumeric (unit '0') = true := by decide
    simpa using zero
  · split
    · exact List.forall_mem_cons.mpr ⟨by decide, isNumeric⟩
    · exact isNumeric

/-- A number begins with a digit or with its sign. -/
theorem finiteText_begins
    (negative : Bool)
    (magnitude : Decimal) :
    ∃ symbol rest,
      finiteText negative magnitude = symbol :: rest ∧
        (CodeUnit.isDigit symbol = true ∨ symbol = unit '-') := by
  unfold finiteText
  split
  case isTrue isZero => exact ⟨unit '0', [], rfl, Or.inl (by decide)⟩
  case isFalse notZero =>
    obtain ⟨symbol, rest, isText, isDigit⟩ :=
      Decimal.text_begins (Nat.pos_of_ne_zero notZero)
    split
    · exact ⟨unit '-', magnitude.text, rfl, Or.inr rfl⟩
    · exact ⟨symbol, rest, isText, Or.inl isDigit⟩

/-- Zero is written like no other magnitude. -/
theorem Decimal.text_ne_zero
    {magnitude : Decimal}
    (positive : 0 < magnitude.significand) :
    magnitude.text ≠ [unit '0'] := by
  intro isZero
  obtain ⟨zeros, isNumber, _⟩ := Decimal.text_denotes positive
  have reading : (readNumeral [unit '0']).1 = 0 := by decide
  rw [isZero, reading] at isNumber
  have notZero : magnitude.significand * 10 ^ zeros ≠ 0 :=
    Nat.mul_ne_zero (Nat.ne_of_gt positive)
      (Nat.ne_of_gt (Nat.pow_pos (by omega)))
  exact notZero isNumber.symm

theorem finiteText_injective
    {negative negative' : Bool}
    {magnitude magnitude' : Decimal}
    (sameText :
      finiteText negative magnitude = finiteText negative' magnitude') :
    JsNumber.SameValueZero (.finite negative magnitude)
      (.finite negative' magnitude') := by
  have unsigned {magnitude : Decimal} (positive : 0 < magnitude.significand) :
      ∀ rest, magnitude.text ≠ unit '-' :: rest := by
    intro rest isSigned
    obtain ⟨symbol, others, isText, isDigit⟩ := Decimal.text_begins positive
    rw [isText, List.cons.injEq] at isSigned
    rw [isSigned.1] at isDigit
    cases isDigit
  by_cases isZero : magnitude.significand = 0 <;>
    by_cases isZero' : magnitude'.significand = 0
  · rw [Decimal.zero_unique isZero, Decimal.zero_unique isZero']
    exact Or.inr ⟨negative, negative', _, rfl, rfl, rfl⟩
  · have positive := Nat.pos_of_ne_zero isZero'
    simp only [finiteText, isZero, isZero', ↓reduceIte] at sameText
    split at sameText
    · cases sameText
    · exact absurd sameText.symm (Decimal.text_ne_zero positive)
  · have positive := Nat.pos_of_ne_zero isZero
    simp only [finiteText, isZero, isZero', ↓reduceIte] at sameText
    split at sameText
    · cases sameText
    · exact absurd sameText (Decimal.text_ne_zero positive)
  · have positive := Nat.pos_of_ne_zero isZero
    have positive' := Nat.pos_of_ne_zero isZero'
    simp only [finiteText, isZero, isZero', ↓reduceIte] at sameText
    cases negative <;> cases negative' <;>
      simp only [Bool.false_eq_true, ↓reduceIte, List.cons.injEq, true_and]
        at sameText
    · exact Or.inl
        (by rw [Decimal.text_injective positive positive' sameText])
    · exact absurd sameText (unsigned positive _)
    · exact absurd sameText.symm (unsigned positive' _)
    · exact Or.inl
        (by rw [Decimal.text_injective positive positive' sameText])

end TaskTwin.Text

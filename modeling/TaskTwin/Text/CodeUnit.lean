import Mathlib.Data.List.Forall2
import Mathlib.Data.List.Lex
import Mathlib.Data.List.TakeWhile
import Mathlib.Data.Nat.Digits.Defs
import Mathlib.Order.Fin.Basic

/-!
# Writings that can be read in one way only

A writer maps values to texts over some alphabet.  It can be read when a text
that begins with a written value determines that value, up to a relation, and
what follows it.  The rules below build such writers from smaller ones.
-/

namespace TaskTwin.Text

variable
    {Symbol Value : Type*}
    {write : Value → List Symbol}
    {same : Value → Value → Prop}
    {stops : List Symbol → Prop}

/--
A text that begins with the writing of a value, and stops there, begins with
the writing of no other value.
-/
def Readable
    (write : Value → List Symbol)
    (same : Value → Value → Prop)
    (stops : List Symbol → Prop)
    (value : Value) :
    Prop :=
  ∀ other rest rest',
    stops rest →
    stops rest' →
    write value ++ rest = write other ++ rest' →
    same value other ∧ rest = rest'

/-- Two whole texts. -/
theorem Readable.whole
    {value other : Value}
    (readable : Readable write same stops value)
    (atEnd : stops [])
    (sameText : write value = write other) :
    same value other := by
  have sameTexts : write value ++ [] = write other ++ [] := by rw [sameText]
  exact (readable other [] [] atEnd atEnd sameTexts).1

/-- A text that does not go on with a symbol of a class. -/
def StopsClass (isIn : Symbol → Bool) (rest : List Symbol) : Prop :=
  ∀ symbol ∈ rest.head?, isIn symbol = false

theorem takeWhile_append_of_stops
    {isIn : Symbol → Bool}
    {text rest : List Symbol}
    (inside : ∀ symbol ∈ text, isIn symbol = true)
    (stop : StopsClass isIn rest) :
    (text ++ rest).takeWhile isIn = text := by
  rw [List.takeWhile_append_of_pos inside]
  cases rest with
  | nil => simp
  | cons symbol rest =>
      have outside : isIn symbol = false := stop symbol rfl
      simp [List.takeWhile, outside]

/-- An injective writer over a class, where the class stops. -/
theorem Readable.ofClass
    {isIn : Symbol → Bool}
    {value : Value}
    (inside : ∀ other, ∀ symbol ∈ write other, isIn symbol = true)
    (injective : ∀ other, write value = write other → same value other) :
    Readable write same (StopsClass isIn) value := by
  intro other rest rest' stop stop' sameText
  have sameWriting : write value = write other := by
    rw [← takeWhile_append_of_stops (inside value) stop, sameText,
      takeWhile_append_of_stops (inside other) stop']
  rw [sameWriting] at sameText
  exact ⟨injective other sameWriting, List.append_cancel_left sameText⟩

/-- Later items of a list, each behind a separator. -/
def writeTail
    (write : Value → List Symbol)
    (separator : Symbol)
    (values : List Value) :
    List Symbol :=
  values.flatMap fun value => separator :: write value

theorem intercalate_cons
    (separator : Symbol)
    (value : Value)
    (values : List Value) :
    List.intercalate [separator] ((value :: values).map write) =
      write value ++ writeTail write separator values := by
  induction values generalizing value with
  | nil => simp [writeTail]
  | cons next values inductionHypothesis =>
      have rest := inductionHypothesis next
      simp only [List.map_cons] at rest ⊢
      rw [List.intercalate_cons_cons, rest]
      simp [writeTail]

section Lists

variable
    {separator closer : Symbol}
    (different : separator ≠ closer)
    (stopsSeparator : ∀ rest, stops (separator :: rest))
    (stopsCloser : ∀ rest, stops (closer :: rest))

include different stopsSeparator stopsCloser

theorem writeTail_readable
    {values others : List Value}
    {rest rest' : List Symbol}
    (readable : ∀ value ∈ values, Readable write same stops value)
    (sameText :
      writeTail write separator values ++ closer :: rest =
        writeTail write separator others ++ closer :: rest') :
    List.Forall₂ same values others ∧ rest = rest' := by
  -- Whatever follows an item begins with a separator or with the closer.
  have stopsTail
      (values : List Value)
      (rest : List Symbol) :
      stops (writeTail write separator values ++ closer :: rest) := by
    cases values with
    | nil => exact stopsCloser rest
    | cons value values => exact stopsSeparator _
  induction values generalizing others with
  | nil =>
      cases others with
      | nil => exact ⟨.nil, List.tail_eq_of_cons_eq sameText⟩
      | cons other others =>
          simp only [writeTail, List.flatMap_nil, List.nil_append,
            List.flatMap_cons, List.cons_append, List.cons.injEq] at sameText
          exact absurd sameText.1.symm different
  | cons value values inductionHypothesis =>
      cases others with
      | nil =>
          simp only [writeTail, List.flatMap_nil, List.nil_append,
            List.flatMap_cons, List.cons_append, List.cons.injEq] at sameText
          exact absurd sameText.1 different
      | cons other others =>
          have split :
              write value ++
                  (writeTail write separator values ++ closer :: rest) =
                write other ++
                  (writeTail write separator others ++ closer :: rest') := by
            simpa [writeTail] using sameText
          have first :=
            readable value List.mem_cons_self other _ _ (stopsTail values rest)
              (stopsTail others rest') split
          have later :=
            inductionHypothesis
              (fun value listed =>
                readable value (List.mem_cons_of_mem _ listed))
              first.2
          exact ⟨.cons first.1 later.1, later.2⟩

/-- Lists whose items never begin with the closer. -/
theorem intercalate_readable
    {values others : List Value}
    {rest rest' : List Symbol}
    (begins :
      ∀ value, ∃ symbol text, write value = symbol :: text ∧ symbol ≠ closer)
    (readable : ∀ value ∈ values, Readable write same stops value)
    (sameText :
      List.intercalate [separator] (values.map write) ++ closer :: rest =
        List.intercalate [separator] (others.map write) ++ closer :: rest') :
    List.Forall₂ same values others ∧ rest = rest' := by
  cases values with
  | nil =>
      cases others with
      | nil =>
          simp only [List.map_nil, List.intercalate_nil, List.nil_append]
            at sameText
          exact ⟨.nil, List.tail_eq_of_cons_eq sameText⟩
      | cons other others =>
          obtain ⟨symbol, text, isText, isOther⟩ := begins other
          rw [intercalate_cons, isText] at sameText
          simp only [List.map_nil, List.intercalate_nil, List.nil_append,
            List.cons_append, List.cons.injEq] at sameText
          exact absurd sameText.1.symm isOther
  | cons value values =>
      cases others with
      | nil =>
          obtain ⟨symbol, text, isText, isOther⟩ := begins value
          rw [intercalate_cons, isText] at sameText
          simp only [List.map_nil, List.intercalate_nil, List.nil_append,
            List.cons_append, List.cons.injEq] at sameText
          exact absurd sameText.1 isOther
      | cons other others =>
          rw [intercalate_cons, intercalate_cons] at sameText
          have sameTail :
              writeTail write separator (value :: values) ++ closer :: rest =
                writeTail write separator (other :: others) ++
                  closer :: rest' := by
            simpa [writeTail] using sameText
          exact writeTail_readable different stopsSeparator stopsCloser
            readable sameTail

end Lists

end TaskTwin.Text

/-!
## Strings of code units

A string of ECMAScript is a sequence of UTF-16 code units, which need not be
well-formed Unicode.  Strings are compared code unit by code unit.
-/

namespace TaskTwin.Text

abbrev CodeUnit := Fin 0x10000

instance neZero_codeUnits : NeZero 0x10000 := ⟨by decide⟩

abbrev JsString := List CodeUnit

instance lawfulBEq_jsString : LawfulBEq JsString := inferInstance

/-- The code unit of a character of the basic plane. -/
def unit (character : Char) : CodeUnit := Fin.ofNat _ character.toNat

/-- The code units of a character. -/
def characterUnits (character : Char) : JsString :=
  let code := character.toNat
  if code < 0x10000 then [Fin.ofNat _ code]
  else
    [Fin.ofNat _ (0xD800 + (code - 0x10000) / 0x400),
      Fin.ofNat _ (0xDC00 + (code - 0x10000) % 0x400)]

def octets (text : String) : List UInt8 := text.toByteArray.data.toList

/-- The code units of a text; those of an ASCII text are its octets. -/
def js (text : String) : JsString :=
  if (octets text).all fun octet => decide (octet.toNat < 128) then
    (octets text).map fun octet => Fin.ofNat _ octet.toNat
  else
    text.toList.flatMap characterUnits

theorem octets_eq (text : String) :
    octets text = text.toList.flatMap String.utf8EncodeChar := by
  conv_lhs => rw [← String.ofList_toList (s := text)]
  simp [octets, String.ofList, List.utf8Encode, List.data_toByteArray]

/-- A character whose octets are ASCII is encoded as one octet. -/
theorem utf8EncodeChar_ascii
    {character : Char}
    (isAscii :
      ∀ octet ∈ String.utf8EncodeChar character, octet.toNat < 128) :
    character.toNat < 128 ∧
      String.utf8EncodeChar character = [UInt8.ofNat character.toNat] := by
  change character.val.toNat < 128 ∧
    String.utf8EncodeChar character = [UInt8.ofNat character.val.toNat]
  unfold String.utf8EncodeChar at isAscii ⊢
  by_cases isOne : character.val.toNat ≤ 0x7f
  · simp only [isOne, ↓reduceIte, and_true]
    omega
  · simp only [isOne, ↓reduceIte] at isAscii
    split at isAscii
    · have first := isAscii _ List.mem_cons_self
      rw [UInt8.toNat_ofNat'] at first
      omega
    · split at isAscii
      · have first := isAscii _ List.mem_cons_self
        rw [UInt8.toNat_ofNat'] at first
        omega
      · have first := isAscii _ List.mem_cons_self
        rw [UInt8.toNat_ofNat'] at first
        omega

/-- The code units of a text are those of its characters. -/
theorem js_eq (text : String) :
    js text = text.toList.flatMap characterUnits := by
  unfold js
  split
  case isFalse => rfl
  case isTrue isAscii =>
    rw [octets_eq, List.map_flatMap]
    rw [octets_eq] at isAscii
    have octetsAscii := List.all_eq_true.mp isAscii
    refine List.flatMap_congr ?_
    intro character listed
    obtain ⟨isSmall, isOctet⟩ :=
      utf8EncodeChar_ascii fun octet isOctet => by
        simpa using
          octetsAscii octet (List.mem_flatMap.mpr ⟨_, listed, isOctet⟩)
    rw [isOctet]
    have below : character.toNat < 0x10000 := by omega
    have same : (UInt8.ofNat character.toNat).toNat = character.toNat := by
      rw [UInt8.toNat_ofNat']
      omega
    simp [characterUnits, below, same]

/-- A code unit between two characters. -/
def CodeUnit.within
    (first last : Char)
    (symbol : CodeUnit) :
    Bool :=
  unit first ≤ symbol && symbol ≤ unit last

def CodeUnit.isDigit (symbol : CodeUnit) : Bool :=
  CodeUnit.within '0' '9' symbol

def CodeUnit.isLower (symbol : CodeUnit) : Bool :=
  CodeUnit.within 'a' 'z' symbol

def CodeUnit.isUpper (symbol : CodeUnit) : Bool :=
  CodeUnit.within 'A' 'Z' symbol

/-- The digits of lower-case hexadecimal. -/
def CodeUnit.isLowerHex (symbol : CodeUnit) : Bool :=
  CodeUnit.isDigit symbol || CodeUnit.within 'a' 'f' symbol

def CodeUnit.isHex (symbol : CodeUnit) : Bool :=
  CodeUnit.isLowerHex symbol || CodeUnit.within 'A' 'F' symbol

/-- The symbol of a decimal digit. -/
def digitUnit (digit : Nat) : CodeUnit := Fin.ofNat _ (48 + digit)

/-- The number that a decimal symbol stands for. -/
def digitValue (symbol : CodeUnit) : Nat := symbol.val - 48

theorem digitValue_digitUnit
    {digit : Nat}
    (isDigit : digit < 10) :
    digitValue (digitUnit digit) = digit := by
  have small : 48 + digit < 0x10000 := by omega
  simp [digitValue, digitUnit, Fin.ofNat, Nat.mod_eq_of_lt small]

theorem isDigit_digitUnit
    {digit : Nat}
    (isDigit : digit < 10) :
    CodeUnit.isDigit (digitUnit digit) = true := by
  have every : ∀ digit < 10, CodeUnit.isDigit (digitUnit digit) = true := by
    decide
  exact every digit isDigit

/-- What a sequence of decimal symbols stands for. -/
def decimalValue (text : JsString) : Nat :=
  text.foldl (fun value symbol => 10 * value + digitValue symbol) 0

theorem decimalValue_append
    (text : JsString)
    (symbol : CodeUnit) :
    decimalValue (text ++ [symbol]) =
      10 * decimalValue text + digitValue symbol := by
  simp [decimalValue]

/-- The decimal symbols of a number, without leading zeros. -/
def decimalText (number : Nat) : JsString :=
  (Nat.digits 10 number).reverse.map digitUnit

theorem decimalText_step
    {number : Nat}
    (positive : 0 < number) :
    decimalText number =
      decimalText (number / 10) ++ [digitUnit (number % 10)] := by
  rw [decimalText, Nat.digits_def' (by omega) positive]
  simp [decimalText]

@[simp] theorem decimalText_zero : decimalText 0 = [] := by
  simp [decimalText]

theorem decimalValue_decimalText (number : Nat) :
    decimalValue (decimalText number) = number := by
  induction number using Nat.strongRecOn with
  | ind number inductionHypothesis =>
      rcases Nat.eq_zero_or_pos number with rfl | positive
      · simp [decimalValue]
      · have smaller : number / 10 < number := by omega
        have digit : number % 10 < 10 := Nat.mod_lt _ (by omega)
        rw [decimalText_step positive, decimalValue_append,
          inductionHypothesis _ smaller, digitValue_digitUnit digit]
        omega

theorem decimalText_isDigit (number : Nat) :
    ∀ symbol ∈ decimalText number, CodeUnit.isDigit symbol = true := by
  intro symbol listed
  obtain ⟨digit, isDigit, rfl⟩ := List.mem_map.mp listed
  exact isDigit_digitUnit
    (Nat.digits_lt_base (by omega) (List.mem_reverse.mp isDigit))

theorem decimalText_ne_nil
    {number : Nat}
    (positive : 0 < number) :
    decimalText number ≠ [] := by
  rw [decimalText_step positive]
  simp

/-- Leading zeros add nothing. -/
theorem decimalValue_leadingZeros
    (count : Nat)
    (text : JsString) :
    decimalValue (List.replicate count (unit '0') ++ text) =
      decimalValue text := by
  induction count with
  | zero => simp
  | succ count inductionHypothesis =>
      have isZero : digitValue (unit '0') = 0 := by decide
      rw [List.replicate_succ, List.cons_append, decimalValue,
        List.foldl_cons, isZero]
      exact inductionHypothesis

/-- Trailing zeros multiply by powers of ten. -/
theorem decimalValue_trailingZeros
    (text : JsString)
    (count : Nat) :
    decimalValue (text ++ List.replicate count (unit '0')) =
      decimalValue text * 10 ^ count := by
  induction count with
  | zero => simp
  | succ count inductionHypothesis =>
      have isZero : digitValue (unit '0') = 0 := by decide
      rw [List.replicate_succ', ← List.append_assoc, decimalValue_append,
        inductionHypothesis, isZero, Nat.pow_succ, Nat.add_zero,
        Nat.mul_left_comm, Nat.mul_comm 10]

/-- The last decimal digits of a number, as many as the width says. -/
def paddedText : Nat → Nat → JsString
  | 0, _ => []
  | width + 1, number =>
      paddedText width (number / 10) ++ [digitUnit (number % 10)]

theorem paddedText_length
    (width number : Nat) :
    (paddedText width number).length = width := by
  induction width generalizing number with
  | zero => rfl
  | succ width inductionHypothesis =>
      simp [paddedText, inductionHypothesis]

theorem decimalValue_paddedText
    {width number : Nat}
    (fits : number < 10 ^ width) :
    decimalValue (paddedText width number) = number := by
  induction width generalizing number with
  | zero =>
      have isZero : number = 0 := by simpa using fits
      subst isZero
      rfl
  | succ width inductionHypothesis =>
      have smaller : number / 10 < 10 ^ width := by
        rw [Nat.pow_succ] at fits
        omega
      have digit : number % 10 < 10 := Nat.mod_lt _ (by omega)
      rw [paddedText, decimalValue_append, inductionHypothesis smaller,
        digitValue_digitUnit digit]
      omega

theorem paddedText_isDigit
    (width number : Nat) :
    ∀ symbol ∈ paddedText width number, CodeUnit.isDigit symbol = true := by
  induction width generalizing number with
  | zero => simp [paddedText]
  | succ width inductionHypothesis =>
      intro symbol listed
      rcases List.mem_append.mp listed with earlier | isLast
      · exact inductionHypothesis (number / 10) symbol earlier
      · rw [List.mem_singleton.mp isLast]
        exact isDigit_digitUnit (Nat.mod_lt _ (by omega))

end TaskTwin.Text

import Mathlib.Data.List.DropRight
import TaskTwin.Collection.Canonical
import TaskTwin.Text.JsValue
import TaskTwin.Text.Runs

/-!
# Schemas over unknown values

A schema accepts some values and says what is read from each.  The schemas of
the repository are strict objects whose fields are drawn from the kinds below.
-/

namespace TaskTwin.Schema

open Text

abbrev ValueSchema := JsValue → Option JsValue

/-- A text whose first and later symbols are drawn from two classes. -/
def beginsAndContinues
    (begins continues : CodeUnit → Bool)
    (text : JsString) :
    Bool :=
  match text with
  | [] => false
  | first :: rest => begins first && rest.all continues

def isAlphanumeric (symbol : CodeUnit) : Bool :=
  CodeUnit.isDigit symbol || CodeUnit.isLower symbol ||
    CodeUnit.isUpper symbol

/-- Whether the length of a text is between two bounds. -/
def hasLength
    (minimum maximum : Nat)
    (text : JsString) :
    Bool :=
  minimum ≤ text.length && text.length ≤ maximum

/-- `^[A-Za-z0-9][A-Za-z0-9_.:-]*$`. -/
def isReference (text : JsString) : Bool :=
  beginsAndContinues isAlphanumeric
    (fun symbol =>
      isAlphanumeric symbol || symbol == unit '_' || symbol == unit '.' ||
        symbol == unit ':' || symbol == unit '-')
    text

/-- `^[0-9a-f]{64}$`. -/
def isSha256Hex (text : JsString) : Bool :=
  text.length == 64 && text.all CodeUnit.isLowerHex

/-- Hexadecimal digits in groups, with hyphens between the groups. -/
def isHexGroups : List Nat → JsString → Bool
  | [], text => text.isEmpty
  | [width], text => text.length == width && text.all CodeUnit.isHex
  | width :: widths, text =>
      (text.take width).length == width &&
        (text.take width).all CodeUnit.isHex &&
        (text.drop width).head? == some (unit '-') &&
        isHexGroups widths (text.drop (width + 1))

/-- `z.string().uuid()`: a version from 1 to 8, or all zeros, or all ones. -/
def isUuid (text : JsString) : Bool :=
  (isHexGroups [8, 4, 4, 4, 12] text &&
      text[14]?.any (CodeUnit.within '1' '8') &&
      text[19]?.any fun symbol =>
        symbol == unit '8' || symbol == unit '9' || symbol == unit 'a' ||
          symbol == unit 'b' || symbol == unit 'A' || symbol == unit 'B') ||
    text == js "00000000-0000-0000-0000-000000000000" ||
    text == js "ffffffff-ffff-ffff-ffff-ffffffffffff"

/-- The days of a month in a year that is written with four digits. -/
def daysOfMonth (year month : Nat) : Nat :=
  if month = 2 then
    if year % 4 = 0 ∧ (year % 100 ≠ 0 ∨ year % 400 = 0) then 29 else 28
  else if month = 4 ∨ month = 6 ∨ month = 9 ∨ month = 11 then 30
  else 31

/-- `Z`, or a sign with hours and minutes. -/
def isOffset (text : JsString) : Bool :=
  text == [unit 'Z'] ||
    match text with
    | [] => false
    | sign :: rest =>
        (sign == unit '+' || sign == unit '-') &&
          match readField 2 (unit ':') rest with
          | some (hour, rest) =>
              match readDigits 2 rest with
              | some (minute, rest) =>
                  hour < 24 && minute < 60 && rest.isEmpty
              | none => false
          | none => false

/-- Seconds, perhaps with a fraction, in front of an offset. -/
def isSecondsAndOffset (text : JsString) : Bool :=
  isOffset text ||
    match (expect (unit ':') text).bind (readDigits 2) with
    | some (second, rest) =>
        second < 60 &&
          (isOffset rest ||
            match expect (unit '.') rest with
            | some fraction =>
                fraction.head?.any CodeUnit.isDigit &&
                  isOffset (fraction.dropWhile CodeUnit.isDigit)
            | none => false)
    | none => false

/-- `z.string().datetime({ offset: true })`. -/
def isDateTime (text : JsString) : Bool :=
  match readField 4 (unit '-') text with
  | none => false
  | some (year, rest) =>
      match readField 2 (unit '-') rest with
      | none => false
      | some (month, rest) =>
          match readField 2 (unit 'T') rest with
          | none => false
          | some (day, rest) =>
              match readField 2 (unit ':') rest with
              | none => false
              | some (hour, rest) =>
                  match readDigits 2 rest with
                  | none => false
                  | some (minute, rest) =>
                      1 ≤ month && month ≤ 12 && 1 ≤ day &&
                        day ≤ daysOfMonth year month && hour < 24 &&
                        minute < 60 && isSecondsAndOffset rest

/-- White space and line terminators. -/
def isBlank (symbol : CodeUnit) : Bool :=
  let code := symbol.val
  (9 ≤ code && code ≤ 13) || code == 0x20 || code == 0xA0 ||
    code == 0x1680 || (0x2000 ≤ code && code ≤ 0x200A) ||
    code == 0x2028 || code == 0x2029 || code == 0x202F ||
    code == 0x205F || code == 0x3000 || code == 0xFEFF

/-- `String.prototype.trim`. -/
def trimText (text : JsString) : JsString :=
  ((text.dropWhile isBlank).reverse.dropWhile isBlank).reverse

/-- What is trimmed has nothing more to trim. -/
theorem trimText_trimText (text : JsString) :
    trimText (trimText text) = trimText text := by
  have isPrefix : trimText text <+: text.dropWhile isBlank :=
    List.rdropWhile_prefix isBlank _
  have noBlankFirst :
      (trimText text).dropWhile isBlank = trimText text := by
    obtain ⟨rest, isRest⟩ := isPrefix
    cases isTrimmed : trimText text with
    | nil => rfl
    | cons first later =>
        have notBlank := List.head?_dropWhile_not isBlank text
        rw [← isRest, isTrimmed, List.cons_append, List.head?_cons] at notBlank
        simp [notBlank]
  have noBlankLast :
      (trimText text).rdropWhile isBlank = trimText text :=
    List.rdropWhile_idempotent isBlank _
  calc
    trimText (trimText text)
        = ((trimText text).dropWhile isBlank).rdropWhile isBlank := rfl
    _ = trimText text := by rw [noBlankFirst, noBlankLast]

/-- A string that passes a check. -/
def stringWhere (check : JsString → Bool) : ValueSchema
  | .string text => if check text then some (.string text) else none
  | _ => none

/-- `z.string().trim().min(minimum).max(maximum)`. -/
def trimmed (minimum maximum : Nat) : ValueSchema
  | .string text =>
      if hasLength minimum maximum (trimText text) then
        some (.string (trimText text))
      else
        none
  | _ => none

/-- `z.enum` and `z.literal` of strings. -/
def oneOf (texts : List String) : ValueSchema :=
  stringWhere fun text => texts.any fun option => js option == text

def uuid : ValueSchema := stringWhere isUuid

/-- The whole number that a number is. -/
def wholeNumber : JsNumber → Option Int
  | .finite negative magnitude =>
      if 0 ≤ magnitude.exponent then
        let size : Int :=
          (magnitude.significand * 10 ^ magnitude.exponent.toNat : Nat)
        some (if negative then -size else size)
      else
        none
  | _ => none

/-- `Number.MAX_SAFE_INTEGER`. -/
def maxSafeInteger : Int := 9007199254740991

/-- `z.number().int().min(minimum).max(maximum)`, where whole is safe. -/
def integer (minimum maximum : Int) : ValueSchema
  | .number value =>
      match wholeNumber value with
      | some whole =>
          if minimum ≤ whole ∧ whole ≤ maximum ∧
              -maxSafeInteger ≤ whole ∧ whole ≤ maxSafeInteger then
            some (.number value)
          else
            none
      | none => none
  | _ => none

def boolean : ValueSchema
  | .boolean value => some (.boolean value)
  | _ => none

def nullable (schema : ValueSchema) : ValueSchema
  | .null => some .null
  | value => schema value

/-- A field of a strict object. -/
structure Field where
  name : String
  isOptional : Bool
  schema : ValueSchema

def required (name : String) (schema : ValueSchema) : Field :=
  { name, isOptional := false, schema }

def optional (name : String) (schema : ValueSchema) : Field :=
  { name, isOptional := true, schema }

/-- What is read from one field; nothing is when it is absent. -/
def Field.parse
    (field : Field)
    (fields : List (JsString × JsValue)) :
    Option (List (JsString × JsValue)) :=
  match fields.lookup (js field.name) with
  | none =>
      if field.isOptional then some []
      else (field.schema .undefined).map fun value => [(js field.name, value)]
  | some .undefined =>
      if field.isOptional then some [(js field.name, .undefined)]
      else (field.schema .undefined).map fun value => [(js field.name, value)]
  | some value =>
      (field.schema value).map fun value => [(js field.name, value)]

/-- `z.object(shape).strict()`. -/
def strictObject (shape : List Field) : ValueSchema
  | .object fields =>
      if fields.all fun field => shape.any fun own => js own.name == field.1 then
        (shape.mapM fun field : Field => field.parse fields).map fun parsed =>
          .object parsed.flatten
      else
        none
  | _ => none

variable
  {shape : List Field}
  {fields : List (JsString × JsValue)}
  {value : JsValue}

/-- A strict object parses when each of its fields does. -/
theorem strictObject_field
    (parsed : strictObject shape (.object fields) = some value)
    {field : Field}
    (listed : field ∈ shape) :
    ∃ read, field.parse fields = some read := by
  simp only [strictObject, Option.ite_none_right_eq_some,
    Option.map_eq_some_iff] at parsed
  obtain ⟨-, reads, isRead, -⟩ := parsed
  have readEach := Collection.mapM_eq_some_iff.mp isRead
  clear isRead
  induction readEach with
  | nil => cases listed
  | cons isFirst _ inductionHypothesis =>
      rcases List.mem_cons.mp listed with rfl | later
      · exact ⟨_, isFirst⟩
      · exact inductionHypothesis later

/-- A field is read under its own name only. -/
theorem Field.lookup_parse
    {field : Field}
    {fields reads : List (JsString × JsValue)}
    (isRead : field.parse fields = some reads)
    {key : JsString}
    (otherKey : key ≠ js field.name) :
    reads.lookup key = none := by
  have notKey : (key == js field.name) = false := by simpa using otherKey
  unfold Field.parse at isRead
  split at isRead
  case h_1 absent =>
    split at isRead
    case isTrue =>
      cases isRead
      rfl
    case isFalse =>
      obtain ⟨value, -, rfl⟩ := Option.map_eq_some_iff.mp isRead
      simp [List.lookup_cons, notKey]
  case h_2 isUndefined =>
    split at isRead
    case isTrue =>
      cases isRead
      simp [List.lookup_cons, notKey]
    case isFalse =>
      obtain ⟨value, -, rfl⟩ := Option.map_eq_some_iff.mp isRead
      simp [List.lookup_cons, notKey]
  case h_3 raw isThere =>
    obtain ⟨value, -, rfl⟩ := Option.map_eq_some_iff.mp isRead
    simp [List.lookup_cons, notKey]

/-- Fields with other names are not found under a name. -/
theorem lookup_flatten_of_otherNames
    {reads : List (List (JsString × JsValue))}
    (readEach :
      List.Forall₂ (fun field read => Field.parse field fields = some read)
        shape reads)
    {key : JsString}
    (otherNames : ∀ field ∈ shape, key ≠ js field.name) :
    reads.flatten.lookup key = none := by
  induction readEach with
  | nil => rfl
  | cons isFirst _ inductionHypothesis =>
      rw [List.flatten_cons, List.lookup_append,
        Field.lookup_parse isFirst (otherNames _ List.mem_cons_self),
        inductionHypothesis fun field listed =>
          otherNames field (List.mem_cons_of_mem _ listed)]
      rfl

/-- In what a strict object parses to, a field is found as it was read. -/
theorem strictObject_lookup
    (parsed : strictObject shape (.object fields) = some value)
    (distinct : (shape.map fun field => js field.name).Nodup)
    {field : Field}
    (listed : field ∈ shape) :
    ∃ own read,
      value = .object own ∧
        field.parse fields = some read ∧
        own.lookup (js field.name) = read.lookup (js field.name) := by
  simp only [strictObject, Option.ite_none_right_eq_some,
    Option.map_eq_some_iff] at parsed
  obtain ⟨-, reads, isRead, isValue⟩ := parsed
  have readEach := Collection.mapM_eq_some_iff.mp isRead
  suffices found :
      ∃ read,
        field.parse fields = some read ∧
          reads.flatten.lookup (js field.name) =
            read.lookup (js field.name) by
    obtain ⟨read, isField, isFound⟩ := found
    exact ⟨reads.flatten, read, isValue.symm, isField, isFound⟩
  clear isRead isValue
  induction readEach with
  | nil => cases listed
  | cons isFirst others inductionHypothesis =>
      obtain ⟨firstDiffers, distinct'⟩ := List.nodup_cons.mp distinct
      rcases List.mem_cons.mp listed with rfl | later
      · refine ⟨_, isFirst, ?_⟩
        have notLater :=
          lookup_flatten_of_otherNames others fun other isOther same =>
            firstDiffers
              (List.mem_map.mpr ⟨other, isOther, same.symm⟩)
        rw [List.flatten_cons, List.lookup_append, notLater, Option.or_none]
      · obtain ⟨read, isField, isFound⟩ := inductionHypothesis distinct' later
        refine ⟨read, isField, ?_⟩
        have otherName : js field.name ≠ js _ := fun same =>
          firstDiffers (List.mem_map.mpr ⟨field, later, same⟩)
        rw [List.flatten_cons, List.lookup_append,
          Field.lookup_parse isFirst otherName, isFound]
        rfl

/-- A field that is there is found as its schema reads it. -/
theorem strictObject_value
    (parsed : strictObject shape (.object fields) = some value)
    (distinct : (shape.map fun field => js field.name).Nodup)
    {field : Field}
    (listed : field ∈ shape)
    {raw : JsValue}
    (isThere : fields.lookup (js field.name) = some raw)
    (isDefined : raw ≠ .undefined) :
    ∃ own read,
      value = .object own ∧
        field.schema raw = some read ∧
        own.lookup (js field.name) = some read := by
  obtain ⟨own, reads, isObject, isRead, isFound⟩ :=
    strictObject_lookup parsed distinct listed
  unfold Field.parse at isRead
  rw [isThere] at isRead
  split at isRead
  case h_1 absent => cases absent
  case h_2 isUndefined => exact absurd (Option.some.inj isUndefined) isDefined
  case h_3 other isOther =>
    obtain rfl := Option.some.inj isOther
    obtain ⟨read, isValue, rfl⟩ := Option.map_eq_some_iff.mp isRead
    exact ⟨own, read, isObject, isValue, isFound.trans (by simp)⟩

/-- A field that may be absent, and is, is not found. -/
theorem strictObject_absent
    (parsed : strictObject shape (.object fields) = some value)
    (distinct : (shape.map fun field => js field.name).Nodup)
    {name : String}
    {schema : ValueSchema}
    (listed : optional name schema ∈ shape)
    (absent : fields.lookup (js name) = none) :
    ∃ own, value = .object own ∧ own.lookup (js name) = none := by
  obtain ⟨own, reads, isObject, isRead, isFound⟩ :=
    strictObject_lookup parsed distinct listed
  refine ⟨own, isObject, isFound.trans ?_⟩
  unfold Field.parse optional at isRead
  dsimp only at isRead
  rw [absent] at isRead
  cases isRead
  rfl

theorem stringWhere_eq_some
    {check : JsString → Bool}
    {text : JsString}
    {read : JsValue}
    (isRead : stringWhere check (.string text) = some read) :
    read = .string text := by
  obtain ⟨-, isString⟩ := Option.ite_none_right_eq_some.mp isRead
  exact (Option.some.inj isString).symm

/-- A string that a field asks for is found as it is. -/
theorem strictObject_text
    (parsed : strictObject shape (.object fields) = some value)
    (distinct : (shape.map fun field => js field.name).Nodup)
    (name : String)
    {isOptional : Bool}
    {check : JsString → Bool}
    (listed : ⟨name, isOptional, stringWhere check⟩ ∈ shape)
    {text : JsString}
    (isText : fields.lookup (js name) = some (.string text)) :
    ∃ own, value = .object own ∧ own.lookup (js name) = some (.string text) := by
  obtain ⟨own, read, isObject, isRead, isFound⟩ :=
    strictObject_value parsed distinct listed isText JsValue.noConfusion
  rw [stringWhere_eq_some isRead] at isFound
  exact ⟨own, isObject, isFound⟩

end TaskTwin.Schema

/-!
## Patterns of strings

A class that ignores the case ignores it for the basic alphabet only, as the
language does for patterns without the Unicode flag.
-/

namespace TaskTwin.Patterns

open Text Schema
open Pattern

abbrev SymbolPattern := Pattern CodeUnit

def isLetter (symbol : CodeUnit) : Bool :=
  CodeUnit.isLower symbol || CodeUnit.isUpper symbol

/-- `\w`. -/
def inWord (symbol : CodeUnit) : Bool :=
  isLetter symbol || CodeUnit.isDigit symbol || symbol == unit '_'

/-- `[A-Za-z0-9_-]`. -/
def inIdentifier (symbol : CodeUnit) : Bool :=
  inWord symbol || symbol == unit '-'

def isLineEnd (symbol : CodeUnit) : Bool :=
  symbol.val == 10 || symbol.val == 13 || symbol.val == 0x2028 ||
    symbol.val == 0x2029

/-- The small letter of a capital of the basic alphabet. -/
def small (symbol : CodeUnit) : CodeUnit :=
  if CodeUnit.isUpper symbol then symbol + 32 else symbol

def digit : SymbolPattern := .symbol CodeUnit.isDigit

def blank : SymbolPattern := .symbol isBlank

def notBlank : SymbolPattern := .symbol fun symbol => !isBlank symbol

/-- `.`. -/
def any : SymbolPattern := .symbol fun symbol => !isLineEnd symbol

def hex : SymbolPattern := .symbol CodeUnit.isHex

/-- One of the symbols of a text. -/
def symbolOf (symbols : String) : SymbolPattern :=
  .symbol fun symbol => (js symbols).contains symbol

/-- A text as it stands. -/
def literal (text : String) : SymbolPattern :=
  .sequence ((js text).map fun expected => .symbol (· == expected))

/-- A text of small letters, whatever the case. -/
def anyCase (text : String) : SymbolPattern :=
  .sequence
    ((js text).map fun expected =>
      .symbol fun symbol => small symbol == expected)

def boundary : SymbolPattern := .atBoundary inWord

/-- The start of the text, or one symbol of a kind. -/
def startOr (accepts : CodeUnit → Bool) : SymbolPattern :=
  .either .atStart (.symbol accepts)

/-- The end of the text, or one symbol of a kind. -/
def endOr (accepts : CodeUnit → Bool) : SymbolPattern :=
  .either .atEnd (.symbol accepts)

/-- `(?=.*x)`. -/
def somewhere (body : SymbolPattern) : SymbolPattern :=
  .ahead (.followed (atLeast 0 any) body)

end TaskTwin.Patterns

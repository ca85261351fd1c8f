import Mathlib.Data.List.Sort
import TaskTwin.Text.JsValue
import TaskTwin.Text.Quotation

/-!
# Canonical JSON

A value is serialized with the keys of every object in the order of their code
units.  Two values have the same text only if they are the same JSON value.
-/

namespace TaskTwin.Audit

open Text

/-- A field of an object, with the text of its value. -/
def writeField (field : JsString × JsString) : JsString :=
  quote field.1 ++ unit ':' :: field.2

mutual

/-- `serialize`. -/
def serialize : Json → JsString
  | .null => js "null"
  | .boolean value => if value then js "true" else js "false"
  | .number negative magnitude => finiteText negative magnitude
  | .string text => quote text
  | .array items =>
      unit '[' ::
        (List.intercalate [unit ','] (serializeItems items) ++ [unit ']'])
  | .object fields =>
      let sorted :=
        (serializeFields fields).insertionSort fun first second =>
          first.1 ≤ second.1
      unit '{' ::
        (List.intercalate [unit ','] (sorted.map writeField) ++ [unit '}'])

def serializeItems : List Json → List JsString
  | [] => []
  | item :: items => serialize item :: serializeItems items

def serializeFields : List (JsString × Json) → List (JsString × JsString)
  | [] => []
  | (key, value) :: fields => (key, serialize value) :: serializeFields fields

end

/-- `serializeCanonicalJson`; a value that is not JSON is a `TypeError`. -/
def serializeCanonicalJson (value : JsValue) : Option JsString :=
  value.toJson.map serialize

/-- `normalizeAuditTimestamp`, for a string. -/
def normalizeAuditTimestamp
    (parseOther : JsString → Option TimeValue)
    (text : JsString) :
    Option JsString :=
  (dateParse parseOther text).map TimeValue.toISOString

/-- What was normalized is normal. -/
theorem normalizeAuditTimestamp_normal
    {parseOther : JsString → Option TimeValue}
    {text normal : JsString}
    (isNormal : normalizeAuditTimestamp parseOther text = some normal) :
    normalizeAuditTimestamp parseOther normal = some normal := by
  unfold normalizeAuditTimestamp at isNormal
  obtain ⟨time, _, rfl⟩ := Option.map_eq_some_iff.mp isNormal
  rw [normalizeAuditTimestamp, dateParse_toISOString, Option.map_some]

theorem serializeItems_eq (items : List Json) :
    serializeItems items = items.map serialize := by
  induction items with
  | nil => rfl
  | cons item items inductionHypothesis =>
      rw [serializeItems, inductionHypothesis, List.map_cons]

theorem serializeFields_eq (fields : List (JsString × Json)) :
    serializeFields fields =
      fields.map fun field => (field.1, serialize field.2) := by
  induction fields with
  | nil => rfl
  | cons field fields inductionHypothesis =>
      obtain ⟨key, value⟩ := field
      rw [serializeFields, inductionHypothesis, List.map_cons]

/-- The fields of an object in the order of their keys. -/
def sortedFields (fields : List (JsString × Json)) : List (JsString × Json) :=
  fields.insertionSort fun first second => first.1 ≤ second.1

/-- The text of a field. -/
def serializeField (field : JsString × Json) : JsString :=
  writeField (field.1, serialize field.2)

theorem serialize_object (fields : List (JsString × Json)) :
    serialize (.object fields) =
      unit '{' ::
        (List.intercalate [unit ','] ((sortedFields fields).map serializeField) ++
          [unit '}']) := by
  have sorted :=
    List.map_insertionSort
      (r := fun first second : JsString × Json => first.1 ≤ second.1)
      (s := fun first second : JsString × JsString => first.1 ≤ second.1)
      (fun field => (field.1, serialize field.2)) fields
      (fun _ _ _ _ => Iff.rfl)
  rw [serialize, serializeFields_eq, ← sorted, List.map_map]
  rfl

/-- What the first symbol of a text tells about the value. -/
def kindOfSymbol (symbol : CodeUnit) : Nat :=
  if symbol = unit 'n' then 0
  else if symbol = unit 't' then 1
  else if symbol = unit 'f' then 2
  else if symbol = unit '"' then 4
  else if symbol = unit '[' then 5
  else if symbol = unit '{' then 6
  else if symbol = unit ']' then 7
  else 3

def kindOf : Json → Nat
  | .null => 0
  | .boolean value => if value then 1 else 2
  | .number .. => 3
  | .string _ => 4
  | .array _ => 5
  | .object _ => 6

theorem kindOfSymbol_digit
    {symbol : CodeUnit}
    (isDigit : CodeUnit.isDigit symbol = true) :
    kindOfSymbol symbol = 3 := by
  have notMark (mark : CodeUnit) (isMark : CodeUnit.isDigit mark = false) :
      symbol ≠ mark := by
    rintro rfl
    rw [isDigit] at isMark
    cases isMark
  simp only [kindOfSymbol, notMark (unit 'n') (by decide),
    notMark (unit 't') (by decide), notMark (unit 'f') (by decide),
    notMark (unit '"') (by decide), notMark (unit '[') (by decide),
    notMark (unit '{') (by decide), notMark (unit ']') (by decide),
    ↓reduceIte]

theorem serialize_begins (value : Json) :
    ∃ symbol text,
      serialize value = symbol :: text ∧
        kindOfSymbol symbol = kindOf value := by
  cases value with
  | null => exact ⟨unit 'n', js "ull", by decide, by decide⟩
  | boolean value =>
      cases value with
      | false => exact ⟨unit 'f', js "alse", by decide, by decide⟩
      | true => exact ⟨unit 't', js "rue", by decide, by decide⟩
  | number negative magnitude =>
      obtain ⟨symbol, text, isText, isDigit | isSign⟩ :=
        finiteText_begins negative magnitude
      · exact ⟨symbol, text, by rw [serialize, isText],
          kindOfSymbol_digit isDigit⟩
      · exact ⟨symbol, text, by rw [serialize, isText],
          by rw [isSign]; rfl⟩
  | string text => exact ⟨unit '"', _, by rw [serialize]; rfl, rfl⟩
  | array items => exact ⟨unit '[', _, by rw [serialize], rfl⟩
  | object fields => exact ⟨unit '{', _, by rw [serialize], rfl⟩

/-- Values that are written with the same kind of first symbol. -/
inductive SameKind : Json → Json → Prop where
  | null : SameKind .null .null
  | boolean (value : Bool) : SameKind (.boolean value) (.boolean value)
  | number (negative negative' : Bool) (magnitude magnitude' : Decimal) :
      SameKind (.number negative magnitude) (.number negative' magnitude')
  | string (text text' : JsString) : SameKind (.string text) (.string text')
  | array (items items' : List Json) : SameKind (.array items) (.array items')
  | object (fields fields' : List (JsString × Json)) :
      SameKind (.object fields) (.object fields')

theorem SameKind.ofKinds
    {first second : Json}
    (same : kindOf first = kindOf second) :
    SameKind first second := by
  cases first <;> cases second
  case boolean.boolean value value' =>
    cases value <;> cases value' <;> first | exact .boolean _ | cases same
  all_goals simp only [kindOf] at same
  all_goals first | constructor | cases same | (split at same <;> cases same)

/-- Texts that begin with two values begin with values of one kind. -/
theorem SameKind.ofTexts
    {first second : Json}
    {rest rest' : JsString}
    (sameText : serialize first ++ rest = serialize second ++ rest') :
    SameKind first second := by
  obtain ⟨symbol, text, isText, isKind⟩ := serialize_begins first
  obtain ⟨symbol', text', isText', isKind'⟩ := serialize_begins second
  rw [isText, isText', List.cons_append, List.cons_append,
    List.cons.injEq] at sameText
  apply SameKind.ofKinds
  rw [← isKind, sameText.1, isKind']

/-- No value begins with a closing bracket. -/
theorem serialize_begins_open (value : Json) :
    ∃ symbol text,
      serialize value = symbol :: text ∧ symbol ≠ unit ']' := by
  obtain ⟨symbol, text, isText, isKind⟩ := serialize_begins value
  refine ⟨symbol, text, isText, ?_⟩
  rintro rfl
  have closing : kindOfSymbol (unit ']') = 7 := by decide
  have isSeven : kindOf value = 7 := by rw [← isKind, closing]
  cases value with
  | boolean value => cases value <;> cases isSeven
  | _ => cases isSeven

/-- Texts in which a number would have ended. -/
abbrev Delimited : JsString → Prop := StopsClass CodeUnit.isNumeric

theorem delimited_of_symbol
    {symbol : CodeUnit}
    (notNumeric : CodeUnit.isNumeric symbol = false)
    (rest : JsString) :
    Delimited (symbol :: rest) := by
  intro first isFirst
  cases isFirst
  exact notNumeric

theorem delimited_comma (rest : JsString) : Delimited (unit ',' :: rest) :=
  delimited_of_symbol (by decide) rest

theorem delimited_bracket (rest : JsString) : Delimited (unit ']' :: rest) :=
  delimited_of_symbol (by decide) rest

theorem delimited_brace (rest : JsString) : Delimited (unit '}' :: rest) :=
  delimited_of_symbol (by decide) rest

/-- Fields with the same key and the same value. -/
def SameField (first second : JsString × Json) : Prop :=
  first.1 = second.1 ∧ first.2.Same second.2

theorem serializeField_readable
    {field : JsString × Json}
    (readable : Readable serialize Json.Same Delimited field.2) :
    Readable serializeField SameField Delimited field := by
  intro other rest rest' stop stop' sameText
  simp only [serializeField, writeField, List.append_assoc, List.cons_append]
    at sameText
  obtain ⟨sameKey, sameRest⟩ :=
    quote_readable field.1 other.1 _ _ trivial trivial sameText
  have sameValues := List.tail_eq_of_cons_eq sameRest
  obtain ⟨sameValue, sameRest⟩ :=
    readable other.2 rest rest' stop stop' sameValues
  exact ⟨⟨sameKey, sameValue⟩, sameRest⟩

/-- Objects whose sorted fields are the same are the same. -/
theorem sameObject_of_sorted
    {fields fields' : List (JsString × Json)}
    (same :
      List.Forall₂ SameField (sortedFields fields) (sortedFields fields')) :
    Json.Same (.object fields) (.object fields') := by
  have order : fields.Perm (sortedFields fields) :=
    (List.perm_insertionSort _ fields).symm
  have order' : fields'.Perm (sortedFields fields') :=
    (List.perm_insertionSort _ fields').symm
  refine Json.Same.object order order' ?_ ?_
  · have keys := List.Forall₂.imp (fun _ _ same => same.1) same
    have mapped :=
      List.forall₂_map_left_iff.mpr (List.forall₂_map_right_iff.mpr keys)
    rwa [List.forall₂_eq_eq_eq] at mapped
  · have values := List.Forall₂.imp (fun _ _ same => same.2) same
    exact List.forall₂_map_left_iff.mpr
      (List.forall₂_map_right_iff.mpr values)

/-- A text that begins with a value begins with no other one. -/
theorem serialize_readable (value : Json) :
    Readable serialize Json.Same Delimited value := by
  have differ : unit ',' ≠ unit ']' ∧ unit ',' ≠ unit '}' := by decide
  induction value using Json.induct with
  | null =>
      intro other rest rest' _ _ sameText
      cases SameKind.ofTexts sameText
      exact ⟨.null, List.append_cancel_left sameText⟩
  | boolean value =>
      intro other rest rest' _ _ sameText
      cases SameKind.ofTexts sameText
      exact ⟨.boolean value, List.append_cancel_left sameText⟩
  | number negative magnitude =>
      intro other rest rest' stop stop' sameText
      cases SameKind.ofTexts sameText with
      | number _ negative' _ magnitude' =>
          have readable :
              Readable
                (fun number : Bool × Decimal => finiteText number.1 number.2)
                (fun number number' =>
                  JsNumber.SameValueZero (.finite number.1 number.2)
                    (.finite number'.1 number'.2))
                Delimited (negative, magnitude) :=
            .ofClass (fun number => finiteText_isNumeric number.1 number.2)
              (fun _ same => finiteText_injective same)
          rw [serialize, serialize] at sameText
          have read :=
            readable (negative', magnitude') rest rest' stop stop' sameText
          exact ⟨.number read.1, read.2⟩
  | string text =>
      intro other rest rest' _ _ sameText
      cases SameKind.ofTexts sameText with
      | string _ text' =>
          rw [serialize, serialize] at sameText
          obtain ⟨rfl, sameRest⟩ :=
            quote_readable text text' rest rest' trivial trivial sameText
          exact ⟨.string text, sameRest⟩
  | array items inductionHypothesis =>
      intro other rest rest' _ _ sameText
      cases SameKind.ofTexts sameText with
      | array _ items' =>
          rw [serialize, serialize, serializeItems_eq, serializeItems_eq]
            at sameText
          simp only [List.cons_append, List.append_assoc, List.nil_append,
            List.cons.injEq, true_and] at sameText
          have read :=
            intercalate_readable differ.1 delimited_comma delimited_bracket
              serialize_begins_open inductionHypothesis sameText
          exact ⟨.array read.1, read.2⟩
  | object fields inductionHypothesis =>
      intro other rest rest' _ _ sameText
      cases SameKind.ofTexts sameText with
      | object _ fields' =>
          rw [serialize_object, serialize_object] at sameText
          simp only [List.cons_append, List.append_assoc, List.nil_append,
            List.cons.injEq, true_and] at sameText
          have begins (field : JsString × Json) :
              ∃ symbol text,
                serializeField field = symbol :: text ∧ symbol ≠ unit '}' :=
            ⟨unit '"', _, rfl, by decide⟩
          have readable :
              ∀ field ∈ sortedFields fields,
                Readable serializeField SameField Delimited field := by
            intro field listed
            have isField : field ∈ fields :=
              (List.perm_insertionSort _ fields).mem_iff.mp listed
            exact serializeField_readable (inductionHypothesis field isField)
          have read :=
            intercalate_readable differ.2 delimited_comma delimited_brace
              begins readable sameText
          exact ⟨sameObject_of_sorted read.1, read.2⟩

/-- Values with the same text are the same. -/
theorem serialize_injective
    {first second : Json}
    (sameText : serialize first = serialize second) :
    first.Same second := by
  have atEnd : Delimited [] := by
    intro symbol isFirst
    cases isFirst
  exact (serialize_readable first).whole atEnd sameText

end TaskTwin.Audit

import Mathlib.Data.List.Nodup
import TaskTwin.Text.Number
import TaskTwin.Text.Timestamp

/-!
# JSON values

The order of the fields of an object means nothing, and neither does the sign
of zero.
-/

namespace TaskTwin.Text

inductive Json where
  | null
  | boolean (value : Bool)
  | number (negative : Bool) (magnitude : Decimal)
  | string (text : JsString)
  | array (items : List Json)
  | object (fields : List (JsString × Json))

/-- Induction over the items and the fields of a value. -/
theorem Json.induct
    {motive : Json → Prop}
    (null : motive .null)
    (boolean : ∀ value, motive (.boolean value))
    (number : ∀ negative magnitude, motive (.number negative magnitude))
    (string : ∀ text, motive (.string text))
    (array :
      ∀ items, (∀ item ∈ items, motive item) → motive (.array items))
    (object :
      ∀ fields,
        (∀ field ∈ fields, motive field.2) → motive (.object fields))
    (value : Json) :
    motive value := by
  refine @Json.rec motive
    (fun items => ∀ item ∈ items, motive item)
    (fun fields => ∀ field ∈ fields, motive field.2)
    (fun field => motive field.2)
    null boolean number string array object ?_ ?_ ?_ ?_ ?_ value
  · simp
  · intro item items isItem areItems
    exact List.forall_mem_cons.mpr ⟨isItem, areItems⟩
  · simp
  · intro field fields isField areFields
    exact List.forall_mem_cons.mpr ⟨isField, areFields⟩
  · intro key value isValue
    exact isValue

/-- Values that differ in the order of fields and the signs of zeros only. -/
inductive Json.Same : Json → Json → Prop where
  | null : Json.Same .null .null
  | boolean (value : Bool) : Json.Same (.boolean value) (.boolean value)
  | number
      {negative negative' : Bool}
      {magnitude magnitude' : Decimal}
      (same :
        JsNumber.SameValueZero (.finite negative magnitude)
          (.finite negative' magnitude')) :
      Json.Same (.number negative magnitude) (.number negative' magnitude')
  | string (text : JsString) : Json.Same (.string text) (.string text)
  | array
      {items items' : List Json}
      (same : List.Forall₂ Json.Same items items') :
      Json.Same (.array items) (.array items')
  | object
      {fields fields' ordered ordered' : List (JsString × Json)}
      (order : fields.Perm ordered)
      (order' : fields'.Perm ordered')
      (sameKeys : ordered.map Prod.fst = ordered'.map Prod.fst)
      (same :
        List.Forall₂ Json.Same (ordered.map Prod.snd)
          (ordered'.map Prod.snd)) :
      Json.Same (.object fields) (.object fields')

theorem Json.sameString
    {first second : JsString}
    (same : Json.Same (.string first) (.string second)) :
    first = second := by
  cases same
  rfl

variable {fields fields' : List (JsString × Json)}

/-- A value found in both objects under one key is the same. -/
theorem Json.sameField
    (key : JsString)
    {value value' : Json}
    (same : Json.Same (.object fields) (.object fields'))
    (isField : (key, value) ∈ fields)
    (isField' : (key, value') ∈ fields')
    (distinct : (fields'.map Prod.fst).Nodup) :
    value.Same value' := by
  cases same with
  | @object _ _ ordered ordered' order order' sameKeys same =>
      have listed : (key, value) ∈ ordered := order.mem_iff.mp isField
      obtain ⟨position, inside, atPosition⟩ := List.mem_iff_getElem.mp listed
      have sameLength : ordered.length = ordered'.length := by
        simpa using congrArg List.length sameKeys
      have inside' : position < ordered'.length := sameLength ▸ inside
      have sameKey : ordered'[position].1 = key := by
        have atKeys :
            (ordered.map Prod.fst)[position]? =
              (ordered'.map Prod.fst)[position]? := by
          rw [sameKeys]
        simpa [inside, inside', atPosition, eq_comm] using atKeys
      have sameValue : value.Same ordered'[position].2 := by
        have atValues :=
          (List.forall₂_iff_get.mp same).2 position (by simpa using inside)
            (by simpa using inside')
        simpa [atPosition] using atValues
      have distinctOrdered : (ordered'.map Prod.fst).Nodup :=
        (order'.map Prod.fst).nodup_iff.mp distinct
      have listed' : (key, value') ∈ ordered' := order'.mem_iff.mp isField'
      have found : (key, ordered'[position].2) ∈ ordered' := by
        rw [← sameKey]
        exact List.getElem_mem inside'
      have unique : ordered'[position].2 = value' := by
        have injective := List.inj_on_of_nodup_map distinctOrdered
        exact congrArg Prod.snd (injective found listed' rfl)
      rwa [unique] at sameValue

theorem lookup_eq_some_iff
    {fields : List (JsString × Json)}
    (distinct : (fields.map Prod.fst).Nodup)
    {key : JsString}
    {value : Json} :
    fields.lookup key = some value ↔ (key, value) ∈ fields := by
  induction fields with
  | nil => simp
  | cons field fields inductionHypothesis =>
      rw [List.map_cons, List.nodup_cons] at distinct
      obtain ⟨other, otherValue⟩ := field
      rw [List.lookup_cons, List.mem_cons]
      by_cases isKey : key = other
      · subst isKey
        have notLater : (key, value) ∉ fields := by
          intro listed
          exact distinct.1 (List.mem_map.mpr ⟨_, listed, rfl⟩)
        simp [notLater, eq_comm]
      · have notKey : (key == other) = false := by simpa using isKey
        simp [notKey, isKey, inductionHypothesis distinct.2]

/-- What objects that are the same have under a key. -/
theorem Json.sameLookup
    (same : Json.Same (.object fields) (.object fields'))
    (distinct : (fields.map Prod.fst).Nodup)
    (distinct' : (fields'.map Prod.fst).Nodup)
    (key : JsString) :
    Option.Rel Json.Same (fields.lookup key) (fields'.lookup key) := by
  have sameKeys : key ∈ fields.map Prod.fst ↔ key ∈ fields'.map Prod.fst := by
    cases same with
    | object order order' sameKeys same =>
        rw [(order.map Prod.fst).mem_iff, sameKeys,
          (order'.map Prod.fst).mem_iff]
  have found {fields : List (JsString × Json)}
      (distinct : (fields.map Prod.fst).Nodup)
      (isKey : key ∈ fields.map Prod.fst) :
      ∃ value, (key, value) ∈ fields ∧ fields.lookup key = some value := by
    obtain ⟨⟨_, value⟩, isField, rfl⟩ := List.mem_map.mp isKey
    exact ⟨value, isField, (lookup_eq_some_iff distinct).mpr isField⟩
  have notFound {fields : List (JsString × Json)}
      (notKey : key ∉ fields.map Prod.fst) :
      fields.lookup key = none := by
    rw [List.lookup_eq_none_iff]
    intro field isField
    by_contra isFound
    have isKey : key = field.1 := by simpa using isFound
    exact notKey (List.mem_map.mpr ⟨field, isField, isKey.symm⟩)
  by_cases isKey : key ∈ fields.map Prod.fst
  · obtain ⟨value, isField, isFound⟩ := found distinct isKey
    obtain ⟨value', isField', isFound'⟩ := found distinct' (sameKeys.mp isKey)
    rw [isFound, isFound']
    exact .some (Json.sameField _ same isField isField' distinct')
  · rw [notFound isKey, notFound (mt sameKeys.mpr isKey)]
    exact .none

/-- Objects that are the same have as many fields. -/
theorem Json.sameFieldCount
    (same : Json.Same (.object fields) (.object fields')) :
    fields.length = fields'.length := by
  cases same with
  | object order order' sameKeys same =>
      have sameLength := congrArg List.length sameKeys
      rw [List.length_map, List.length_map] at sameLength
      rw [order.length_eq, order'.length_eq, sameLength]

end TaskTwin.Text

/-!
## Unknown values

What a function of the source may be given where its parameter is `unknown`.
Values are trees; an object that contains itself is not among them.
-/

namespace TaskTwin.Text

inductive JsValue where
  | undefined
  | null
  | boolean (value : Bool)
  | number (value : JsNumber)
  | string (text : JsString)
  | date (time : Option TimeValue)
  | array (items : List JsValue)
  | object (fields : List (JsString × JsValue))
  /-- A function, a symbol, a big integer or an instance of a class. -/
  | other

namespace JsValue

mutual

/-- The JSON value that a value is, when it consists of JSON only. -/
def toJson : JsValue → Option Json
  | .undefined => none
  | .null => some .null
  | .boolean value => some (.boolean value)
  | .number (.finite negative magnitude) => some (.number negative magnitude)
  | .number _ => none
  | .string text => some (.string text)
  | .date _ => none
  | .array items => (itemsToJson items).map .array
  | .object fields => (fieldsToJson fields).map .object
  | .other => none

def itemsToJson : List JsValue → Option (List Json)
  | [] => some []
  | item :: items =>
      match toJson item, itemsToJson items with
      | some item, some items => some (item :: items)
      | _, _ => none

def fieldsToJson :
    List (JsString × JsValue) → Option (List (JsString × Json))
  | [] => some []
  | (key, value) :: fields =>
      match toJson value, fieldsToJson fields with
      | some value, some fields => some ((key, value) :: fields)
      | _, _ => none

end

/-- A property of an object; an absent one is `undefined`. -/
def get
    (fields : List (JsString × JsValue))
    (key : JsString) :
    JsValue :=
  (fields.lookup key).getD .undefined

def isUndefined : JsValue → Bool
  | .undefined => true
  | _ => false

end JsValue

/-- Divide by ten as long as no digit is lost. -/
def stripZeros : Nat → Nat → Nat × Nat
  | 0, number => (number, 0)
  | fuel + 1, number =>
      if number % 10 = 0 then
        let (significand, zeros) := stripZeros fuel (number / 10)
        (significand, zeros + 1)
      else
        (number, 0)

theorem stripZeros_value (fuel number : Nat) :
    (stripZeros fuel number).1 * 10 ^ (stripZeros fuel number).2 = number := by
  induction fuel generalizing number with
  | zero => simp [stripZeros]
  | succ fuel inductionHypothesis =>
      rw [stripZeros]
      split
      case isTrue isMultiple =>
        have smaller := inductionHypothesis (number / 10)
        dsimp only
        rw [Nat.pow_succ, ← Nat.mul_assoc, smaller]
        omega
      case isFalse notMultiple => simp

theorem stripZeros_shortest
    {fuel number : Nat}
    (positive : 0 < number)
    (enough : number ≤ fuel) :
    (stripZeros fuel number).1 % 10 ≠ 0 := by
  induction fuel generalizing number with
  | zero => omega
  | succ fuel inductionHypothesis =>
      rw [stripZeros]
      split
      case isTrue isMultiple =>
        exact inductionHypothesis (by omega) (by omega)
      case isFalse notMultiple => exact notMultiple

/-- The magnitude of a whole number. -/
def Decimal.ofNat (number : Nat) : Decimal :=
  if isZero : number = 0 then .zero
  else
    { significand := (stripZeros number number).1
      exponent := (stripZeros number number).2
      shortest :=
        Or.inl
          (stripZeros_shortest (Nat.pos_of_ne_zero isZero)
            (Nat.le_refl number)) }

theorem Decimal.ofNat_value (number : Nat) :
    (Decimal.ofNat number).significand *
        10 ^ (Decimal.ofNat number).exponent.toNat =
      number := by
  unfold Decimal.ofNat
  split
  case isTrue isZero => simp [Decimal.zero, isZero]
  case isFalse notZero => simpa using stripZeros_value number number

theorem Decimal.ofNat_injective
    {first second : Nat}
    (same : Decimal.ofNat first = Decimal.ofNat second) :
    first = second := by
  rw [← Decimal.ofNat_value first, same, Decimal.ofNat_value second]

/-- A whole number as a JSON value. -/
def Json.integer (number : Int) : Json :=
  .number (number < 0) (Decimal.ofNat number.natAbs)

theorem Json.integer_injective
    {first second : Int}
    (same : Json.Same (.integer first) (.integer second)) :
    first = second := by
  unfold Json.integer at same
  cases same with
  | number same =>
      rcases same with isSame | ⟨_, _, magnitude, isFirst, isSecond, isZero⟩
      · simp only [JsNumber.finite.injEq, decide_eq_decide] at isSame
        have sameMagnitude := Decimal.ofNat_injective isSame.2
        omega
      · simp only [JsNumber.finite.injEq] at isFirst isSecond
        have firstZero := Decimal.ofNat_value first.natAbs
        have secondZero := Decimal.ofNat_value second.natAbs
        rw [isFirst.2, isZero, Nat.zero_mul] at firstZero
        rw [isSecond.2, isZero, Nat.zero_mul] at secondZero
        omega

end TaskTwin.Text

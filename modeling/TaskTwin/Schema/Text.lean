import Mathlib.Algebra.GroupWithZero.Nat

/-!
# Strings as the schemas see them

Lengths count UTF-16 code units, and trimming removes the white space and
line terminators of ECMAScript.  The checks below are the string rules that
the schemas of the repository are built from.
-/

namespace TaskTwin.Schema

/-- `String.prototype.length`. -/
def utf16Length (text : String) : Nat :=
  (text.toList.map fun character =>
    if character.toNat < 0x10000 then 1 else 2).sum

/-- White space and line terminators of ECMAScript. -/
def isWhiteSpace (character : Char) : Bool :=
  let code := character.toNat
  (9 ≤ code && code ≤ 13) || code == 0x20 || code == 0xA0 ||
    code == 0x1680 || (0x2000 ≤ code && code ≤ 0x200A) ||
    code == 0x2028 || code == 0x2029 || code == 0x202F ||
    code == 0x205F || code == 0x3000 || code == 0xFEFF

/-- `String.prototype.trim`. -/
def trim (text : String) : String :=
  let withoutLeading := text.toList.dropWhile isWhiteSpace
  String.ofList (withoutLeading.reverse.dropWhile isWhiteSpace).reverse

/-- A text without white space is trimmed. -/
theorem trim_ofList
    {letters : List Char}
    (visible : ∀ letter ∈ letters, isWhiteSpace letter = false) :
    trim (String.ofList letters) = String.ofList letters := by
  have keeps
      (letters : List Char)
      (visible : ∀ letter ∈ letters, isWhiteSpace letter = false) :
      letters.dropWhile isWhiteSpace = letters := by
    cases letters with
    | nil => rfl
    | cons letter rest =>
        rw [List.dropWhile_cons_of_neg]
        simp [visible letter List.mem_cons_self]
  rw [trim, String.toList_ofList, keeps letters visible, keeps,
    List.reverse_reverse]
  intro letter listed
  exact visible letter (List.mem_reverse.mp listed)

/-- `z.string().trim().min(1)`. -/
def isNonEmptyTrimmed (text : String) : Bool :=
  1 ≤ utf16Length (trim text)

/-- `z.string().trim().min(1).max(maximum)`. -/
def isTrimmedWithin
    (maximum : Nat)
    (text : String) :
    Bool :=
  isNonEmptyTrimmed text && utf16Length (trim text) ≤ maximum

def isAsciiLetter (character : Char) : Bool :=
  ('A' ≤ character && character ≤ 'Z') || ('a' ≤ character && character ≤ 'z')

def isAsciiDigit (character : Char) : Bool :=
  '0' ≤ character && character ≤ '9'

/-- A text whose first and later characters are drawn from two classes. -/
def startsAndContinues
    (starts continues : Char → Bool)
    (text : String) :
    Bool :=
  match text.toList with
  | [] => false
  | first :: rest => starts first && rest.all continues

/-- The pattern of `IdentifierSchema`. -/
def isIdentifierText (text : String) : Bool :=
  startsAndContinues
    (fun character => isAsciiLetter character || character == '_')
    (fun character =>
      isAsciiLetter character || isAsciiDigit character || character == '_')
    text

/-- A parsed `NonEmptyStringSchema` value: trimmed and not empty. -/
structure NonEmptyString where
  text : String
  trimmed : trim text = text
  nonEmpty : isNonEmptyTrimmed text = true
  deriving DecidableEq, Repr

theorem NonEmptyString.isTrimmedWithin_iff
    (value : NonEmptyString)
    (maximum : Nat) :
    isTrimmedWithin maximum value.text = true ↔
      utf16Length value.text ≤ maximum := by
  simp [isTrimmedWithin, value.nonEmpty, value.trimmed]

/-- A parsed `IdentifierSchema` value. -/
structure Identifier where
  text : String
  short : utf16Length text ≤ 128
  pattern : isIdentifierText text = true
  deriving DecidableEq, Repr

theorem not_isWhiteSpace_of_isIdentifier
    {character : Char}
    (isPart :
      (isAsciiLetter character || isAsciiDigit character ||
        character == '_') = true) :
    isWhiteSpace character = false := by
  simp only [isAsciiLetter, isAsciiDigit, Bool.or_eq_true, Bool.and_eq_true,
    decide_eq_true_eq, beq_iff_eq] at isPart
  have bounds :
      (0x30 ≤ character.toNat ∧ character.toNat ≤ 0x7A) := by
    rcases isPart with ((isUpper | isLower) | isDigit) | rfl
    · exact
        ⟨Nat.le_trans (by decide) isUpper.1,
          Nat.le_trans isUpper.2 (by decide)⟩
    · exact
        ⟨Nat.le_trans (by decide) isLower.1,
          Nat.le_trans isLower.2 (by decide)⟩
    · exact
        ⟨Nat.le_trans (by decide) isDigit.1,
          Nat.le_trans isDigit.2 (by decide)⟩
    · decide
  simp only [isWhiteSpace, Bool.or_eq_false_iff, Bool.and_eq_false_iff,
    decide_eq_false_iff_not, beq_eq_false_iff_ne, ne_eq]
  omega

/-- An identifier has nothing to trim. -/
theorem Identifier.trim_text (name : Identifier) :
    trim name.text = name.text := by
  have pattern := name.pattern
  rw [isIdentifierText, startsAndContinues] at pattern
  split at pattern
  case h_1 => cases pattern
  case h_2 first rest isText =>
    simp only [Bool.and_eq_true, List.all_eq_true] at pattern
    have visible :
        ∀ letter ∈ first :: rest, isWhiteSpace letter = false := by
      intro letter listed
      apply not_isWhiteSpace_of_isIdentifier
      rcases List.mem_cons.mp listed with rfl | later
      · have isFirst := pattern.1
        simp only [Bool.or_eq_true] at isFirst ⊢
        exact isFirst.imp_left Or.inl
      · exact pattern.2 letter later
    have same := trim_ofList visible
    rwa [← isText, String.ofList_toList] at same

/-- An identifier that `z.string().uuid()` accepts. -/
structure Uuid where
  value : Nat
  deriving DecidableEq, Repr

/-- A number whose schema bounds it from both sides. -/
structure BoundedNat (minimum maximum : Nat) where
  value : Nat
  atLeast : minimum ≤ value
  atMost : value ≤ maximum
  deriving DecidableEq, Repr

end TaskTwin.Schema

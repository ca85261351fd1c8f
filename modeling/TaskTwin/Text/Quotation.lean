import TaskTwin.Text.CodeUnit

/-!
# Quoted strings

`JSON.stringify` writes a string between quotation marks.  It escapes the
marks, control characters and surrogates without a partner, and a reader gets
the string back.
-/

namespace TaskTwin.Text

def CodeUnit.isLeadingSurrogate (symbol : CodeUnit) : Bool :=
  0xD800 ≤ symbol.val && symbol.val < 0xDC00

def CodeUnit.isTrailingSurrogate (symbol : CodeUnit) : Bool :=
  0xDC00 ≤ symbol.val && symbol.val < 0xE000

def CodeUnit.isSurrogate (symbol : CodeUnit) : Bool :=
  CodeUnit.isLeadingSurrogate symbol || CodeUnit.isTrailingSurrogate symbol

/-- The symbol of a hexadecimal digit. -/
def hexUnit (digit : Nat) : CodeUnit :=
  if digit < 10 then Fin.ofNat _ (48 + digit) else Fin.ofNat _ (87 + digit)

def hexValue (symbol : CodeUnit) : Nat :=
  if symbol.val < 58 then symbol.val - 48 else symbol.val - 87

/-- The escape of a code unit by its number. -/
def unicodeEscape (symbol : CodeUnit) : JsString :=
  [unit '\\', unit 'u', hexUnit (symbol.val / 4096 % 16),
    hexUnit (symbol.val / 256 % 16), hexUnit (symbol.val / 16 % 16),
    hexUnit (symbol.val % 16)]

/-- The letter that a symbol is escaped with. -/
def escapeLetter (symbol : CodeUnit) : Option CodeUnit :=
  if symbol.val = 8 then some (unit 'b')
  else if symbol.val = 9 then some (unit 't')
  else if symbol.val = 10 then some (unit 'n')
  else if symbol.val = 12 then some (unit 'f')
  else if symbol.val = 13 then some (unit 'r')
  else if symbol = unit '"' then some (unit '"')
  else if symbol = unit '\\' then some (unit '\\')
  else none

/-- One code unit of a quoted string. -/
def quoteUnit
    (alone : Bool)
    (symbol : CodeUnit) :
    JsString :=
  match escapeLetter symbol with
  | some letter => [unit '\\', letter]
  | none =>
      if symbol.val < 0x20 || alone then unicodeEscape symbol else [symbol]

/-- The code units of a string, where the first may complete a pair. -/
def quoteUnits : Bool → JsString → JsString
  | _, [] => []
  | completes, symbol :: rest =>
      let opens :=
        CodeUnit.isLeadingSurrogate symbol &&
          rest.head?.any CodeUnit.isTrailingSurrogate
      let alone := CodeUnit.isSurrogate symbol && !opens && !completes
      quoteUnit alone symbol ++ quoteUnits opens rest

/-- `JSON.stringify` of a string. -/
def quote (text : JsString) : JsString :=
  unit '"' :: (quoteUnits false text ++ [unit '"'])

/-- The symbol behind a letter. -/
def unescapeLetter (letter : CodeUnit) : CodeUnit :=
  if letter = unit 'b' then 8
  else if letter = unit 't' then 9
  else if letter = unit 'n' then 10
  else if letter = unit 'f' then 12
  else if letter = unit 'r' then 13
  else letter

/-- The string up to the closing mark, and what follows it. -/
def readQuoted : JsString → Option (JsString × JsString)
  | [] => none
  | symbol :: rest =>
      if symbol = unit '"' then some ([], rest)
      else if symbol = unit '\\' then
        match rest with
        | [] => none
        | letter :: rest =>
            if letter = unit 'u' then
              match rest with
              | first :: second :: third :: fourth :: rest =>
                  let code :=
                    4096 * hexValue first + 256 * hexValue second +
                      16 * hexValue third + hexValue fourth
                  (readQuoted rest).map fun (text, rest) =>
                    (Fin.ofNat _ code :: text, rest)
              | _ => none
            else
              (readQuoted rest).map fun (text, rest) =>
                (unescapeLetter letter :: text, rest)
      else
        (readQuoted rest).map fun (text, rest) => (symbol :: text, rest)

@[simp] theorem readQuoted_closed (rest : JsString) :
    readQuoted (unit '"' :: rest) = some ([], rest) := by
  rw [readQuoted.eq_def]
  simp

theorem readQuoted_plain
    {symbol : CodeUnit}
    (notQuote : symbol ≠ unit '"')
    (notBackslash : symbol ≠ unit '\\')
    (rest : JsString) :
    readQuoted (symbol :: rest) =
      (readQuoted rest).map fun (text, rest) => (symbol :: text, rest) := by
  rw [readQuoted.eq_def]
  simp only [notQuote, notBackslash, ↓reduceIte]

theorem readQuoted_escaped
    {letter : CodeUnit}
    (notNumber : letter ≠ unit 'u')
    (rest : JsString) :
    readQuoted (unit '\\' :: letter :: rest) =
      (readQuoted rest).map fun (text, rest) =>
        (unescapeLetter letter :: text, rest) := by
  have notQuote : unit '\\' ≠ unit '"' := by decide
  rw [readQuoted.eq_def]
  simp only [notQuote, notNumber, ↓reduceIte]

theorem hexValue_hexUnit
    {digit : Nat}
    (isDigit : digit < 16) :
    hexValue (hexUnit digit) = digit := by
  have every : ∀ digit < 16, hexValue (hexUnit digit) = digit := by decide
  exact every digit isDigit

theorem readQuoted_unicodeEscape
    (symbol : CodeUnit)
    (rest : JsString) :
    readQuoted (unicodeEscape symbol ++ rest) =
      (readQuoted rest).map fun (text, rest) => (symbol :: text, rest) := by
  have notMark : unit '\\' ≠ unit '"' := by decide
  have digit (number : Nat) : number % 16 < 16 := Nat.mod_lt _ (by omega)
  have isCode :
      4096 * (symbol.val / 4096 % 16) + 256 * (symbol.val / 256 % 16) +
          16 * (symbol.val / 16 % 16) + symbol.val % 16 =
        symbol.val := by
    have bounded := symbol.isLt
    omega
  have sameUnit : Fin.ofNat 0x10000 symbol.val = symbol := by
    apply Fin.ext
    exact Nat.mod_eq_of_lt symbol.isLt
  simp only [unicodeEscape, List.cons_append, List.nil_append, readQuoted,
    notMark, ↓reduceIte, hexValue_hexUnit (digit _), isCode, sameUnit]

/-- Letters of escapes lead back to their symbols. -/
theorem escapeLetter_some
    {symbol letter : CodeUnit}
    (escapes : escapeLetter symbol = some letter) :
    letter ≠ unit 'u' ∧ unescapeLetter letter = symbol := by
  unfold escapeLetter at escapes
  split at escapes
  case isTrue isSymbol =>
    cases escapes
    exact ⟨by decide, Fin.ext isSymbol.symm⟩
  split at escapes
  case isTrue isSymbol =>
    cases escapes
    exact ⟨by decide, Fin.ext isSymbol.symm⟩
  split at escapes
  case isTrue isSymbol =>
    cases escapes
    exact ⟨by decide, Fin.ext isSymbol.symm⟩
  split at escapes
  case isTrue isSymbol =>
    cases escapes
    exact ⟨by decide, Fin.ext isSymbol.symm⟩
  split at escapes
  case isTrue isSymbol =>
    cases escapes
    exact ⟨by decide, Fin.ext isSymbol.symm⟩
  split at escapes
  case isTrue isSymbol =>
    cases escapes
    exact ⟨by decide, by rw [isSymbol]; decide⟩
  split at escapes
  case isTrue isSymbol =>
    cases escapes
    exact ⟨by decide, by rw [isSymbol]; decide⟩
  cases escapes

theorem escapeLetter_none
    {symbol : CodeUnit}
    (plain : escapeLetter symbol = none) :
    symbol ≠ unit '"' ∧ symbol ≠ unit '\\' := by
  constructor <;> rintro rfl <;> revert plain <;> decide

theorem readQuoted_quoteUnit
    (alone : Bool)
    (symbol : CodeUnit)
    (rest : JsString) :
    readQuoted (quoteUnit alone symbol ++ rest) =
      (readQuoted rest).map fun (text, rest) => (symbol :: text, rest) := by
  unfold quoteUnit
  cases escapes : escapeLetter symbol with
  | some letter =>
      obtain ⟨notNumber, isSymbol⟩ := escapeLetter_some escapes
      rw [List.cons_append, List.cons_append, List.nil_append,
        readQuoted_escaped notNumber, isSymbol]
  | none =>
      obtain ⟨notQuote, notBackslash⟩ := escapeLetter_none escapes
      dsimp only
      split
      · exact readQuoted_unicodeEscape symbol rest
      · exact readQuoted_plain notQuote notBackslash rest

theorem readQuoted_quoteUnits
    (completes : Bool)
    (text rest : JsString) :
    readQuoted (quoteUnits completes text ++ unit '"' :: rest) =
      some (text, rest) := by
  induction text generalizing completes with
  | nil => exact readQuoted_closed rest
  | cons symbol text inductionHypothesis =>
      rw [quoteUnits, List.append_assoc, readQuoted_quoteUnit,
        inductionHypothesis]
      rfl

/-- A quoted string is read in one way, whatever follows. -/
theorem quote_readable
    (text : JsString) :
    Readable quote Eq (fun _ => True) text := by
  intro other rest rest' _ _ sameText
  simp only [quote, List.cons_append, List.append_assoc, List.nil_append,
    List.cons.injEq, true_and] at sameText
  have read := readQuoted_quoteUnits false text rest
  rw [sameText, readQuoted_quoteUnits] at read
  cases read
  exact ⟨rfl, rfl⟩

end TaskTwin.Text

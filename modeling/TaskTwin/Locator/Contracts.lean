import TaskTwin.Schema.Unknown
import TaskTwin.Text.Quotation
import TaskTwin.Workflow.Extraction

/-!
# Heuristics of locators

Identifiers that look generated make bad locators, and texts that look
personal make none at all.
-/

namespace TaskTwin.Locator

open Text Schema Patterns
open Pattern

inductive IdentifierRisk where
  | uuid
  | timestamp
  | hash
  | numericSuffix
  | frameworkGenerated
  | randomLooking
  deriving DecidableEq, Repr

/--
`(?:^|[^0-9a-f])\{?[0-9a-f]{8}-[0-9a-f]{4}-[1-8][0-9a-f]{3}-[89ab][0-9a-f]{3}-`
`[0-9a-f]{12}\}?(?:$|[^0-9a-f])`, in any case.
-/
def uuidPattern : SymbolPattern :=
  .sequence
    [startOr (!CodeUnit.isHex ·), optional (literal "\x7b"), exactly 8 hex,
      literal "-", exactly 4 hex, literal "-",
      .symbol (CodeUnit.within '1' '8'), exactly 3 hex, literal "-",
      symbolOf "89abAB", exactly 3 hex, literal "-", exactly 12 hex,
      optional (literal "\x7d"), endOr (!CodeUnit.isHex ·)]

/-- `^\d{10}(?:\d{3})?$`. -/
def epochPattern : SymbolPattern :=
  .sequence
    [.atStart, exactly 10 digit, optional (exactly 3 digit), .atEnd]

/-- `-`, `_` and `:`. -/
def isSeparator (symbol : CodeUnit) : Bool :=
  (js "-_:").contains symbol

/-- `(?:^|[-_:])20\d{2}(?:[-_:]?\d{2}){2,5}(?:$|[-_:])`. -/
def datePattern : SymbolPattern :=
  .sequence
    [startOr isSeparator, literal "20", exactly 2 digit,
      between 2 5
        (.followed (optional (.symbol isSeparator)) (exactly 2 digit)),
      endOr isSeparator]

/-- `^[0-9a-f]{16,}$`, in any case. -/
def hexHashPattern : SymbolPattern :=
  .sequence [.atStart, atLeast 16 hex, .atEnd]

/-- `^(?=.*[a-z])(?=.*\d)[a-z0-9_-]{24,}$`, in any case. -/
def tokenHashPattern : SymbolPattern :=
  .sequence
    [.atStart, somewhere (.symbol isLetter), somewhere digit,
      atLeast 24 (.symbol inIdentifier), .atEnd]

/-- `(?:[-_:]|\D)\d{4,}$`. -/
def numericSuffixPattern : SymbolPattern :=
  .sequence
    [.either (.symbol isSeparator) (.symbol (!CodeUnit.isDigit ·)),
      atLeast 4 digit, .atEnd]

/--
`^(?::r\d+:|ember\d+|(?:mat|mui|cdk|headlessui|radix)[-_:].*\d+|ng-\d+)`
or `_ng(?:content|host)-`, in any case.
-/
def frameworkPattern : SymbolPattern :=
  .either
    (.followed .atStart
      (.oneOf
        [.sequence [anyCase ":r", atLeast 1 digit, literal ":"],
          .followed (anyCase "ember") (atLeast 1 digit),
          .sequence
            [.oneOf
                [anyCase "mat", anyCase "mui", anyCase "cdk",
                  anyCase "headlessui", anyCase "radix"],
              .symbol isSeparator, atLeast 0 any, atLeast 1 digit],
          .followed (anyCase "ng-") (atLeast 1 digit)]))
    (.sequence
      [anyCase "_ng", .either (anyCase "content") (anyCase "host"),
        literal "-"])

/-- `^(?=.*[a-z])(?=.*[A-Z])(?=.*\d)[A-Za-z0-9]{12,}$`. -/
def randomPattern : SymbolPattern :=
  .sequence
    [.atStart, somewhere (.symbol CodeUnit.isLower),
      somewhere (.symbol CodeUnit.isUpper), somewhere digit,
      atLeast 12 (.symbol isAlphanumeric), .atEnd]

/-- Whether the text of an identifier carries a risk. -/
def IdentifierRisk.isIn (text : JsString) : IdentifierRisk → Bool
  | .uuid => uuidPattern.test text
  | .timestamp => epochPattern.test text || datePattern.test text
  | .hash => hexHashPattern.test text || tokenHashPattern.test text
  | .numericSuffix => numericSuffixPattern.test text
  | .frameworkGenerated => frameworkPattern.test text
  | .randomLooking => randomPattern.test text

/-- The risks in the order in which they are looked for. -/
def identifierRisks : List IdentifierRisk :=
  [.uuid, .timestamp, .hash, .numericSuffix, .frameworkGenerated,
    .randomLooking]

def detectIdentifierRisks (value : JsString) : List IdentifierRisk :=
  identifierRisks.filter (IdentifierRisk.isIn (trimText value))

/-- `\.([A-Za-z_][A-Za-z0-9_-]*)`. -/
def classTokenPattern : SymbolPattern :=
  .sequence
    [literal ".",
      .symbol fun symbol => isLetter symbol || symbol == unit '_',
      atLeast 0 (.symbol inIdentifier)]

/-- `^(?:css|sc|jsx|styled)-[a-z0-9]{5,}$`, in any case. -/
def generatedClassPattern : SymbolPattern :=
  .sequence
    [.atStart,
      .oneOf
        [anyCase "css", anyCase "sc", anyCase "jsx", anyCase "styled"],
      literal "-",
      atLeast 5 (.symbol isAlphanumeric), .atEnd]

def looksLikeGeneratedClass (selector : JsString) : Bool :=
  (classTokenPattern.matched selector).any fun token =>
    let value := token.drop 1
    !(detectIdentifierRisks value).isEmpty || generatedClassPattern.test value

/-- `:(?:nth-child|nth-of-type)\s*\(`, in any case. -/
def positionPattern : SymbolPattern :=
  .sequence
    [literal ":", .either (anyCase "nth-child") (anyCase "nth-of-type"),
      atLeast 0 blank, literal "("]

def cssUsesPosition (selector : JsString) : Bool :=
  positionPattern.test selector

/-- `\[[^\]]*]`. -/
def attributePattern : SymbolPattern :=
  .sequence
    [literal "[", atLeast 0 (.symbol (· != unit ']')), literal "]"]

/-- `\([^)]*\)`. -/
def argumentPattern : SymbolPattern :=
  .sequence
    [literal "(", atLeast 0 (.symbol (· != unit ')')), literal ")"]

/-- `\s*>\s*|\s+`. -/
def combinatorPattern : SymbolPattern :=
  .either
    (.sequence [atLeast 0 blank, literal ">", atLeast 0 blank])
    (atLeast 1 blank)

def getCssDepth (selector : JsString) : Nat :=
  let normalized :=
    argumentPattern.replaceAll (fun _ => [])
      (attributePattern.replaceAll (fun _ => []) selector)
  let parts := (combinatorPattern.split normalized).map trimText
  (parts.filter fun part => !part.isEmpty).length

/-- `^\s*(?:\/|xpath\s*=)`, in any case. -/
def xpathPattern : SymbolPattern :=
  .sequence
    [.atStart, atLeast 0 blank,
      .either (literal "/")
        (.sequence [anyCase "xpath", atLeast 0 blank, literal "="])]

/-- `value.replace(/\s+/g, ' ').trim()`. -/
def normalizeBlanks (value : JsString) : JsString :=
  trimText ((atLeast 1 blank).replaceAll (fun _ => js " ") value)

/-- `[^\s@]+`. -/
def addressPart : SymbolPattern :=
  atLeast 1
    (.symbol fun symbol => !isBlank symbol && symbol != unit '@')

/-- `\b[^\s@]+@[^\s@]+\.[^\s@]+\b`. -/
def emailPattern : SymbolPattern :=
  .sequence
    [boundary, addressPart, literal "@", addressPart, literal ".",
      addressPart, boundary]

/-- `\b(?:https?:\/\/|www\.)\S+`, in any case. -/
def urlPattern : SymbolPattern :=
  .sequence
    [boundary,
      .either
        (.sequence
          [anyCase "http", optional (anyCase "s"), literal "://"])
        (anyCase "www."),
      atLeast 1 notBlank]

/-- `^\d{4,8}$`. -/
def oneTimeCodePattern : SymbolPattern :=
  .sequence [.atStart, between 4 8 digit, .atEnd]

/-- `(?:\d[\s-]?){13,19}`. -/
def longNumberPattern : SymbolPattern :=
  between 13 19
    (.followed digit
      (optional
        (.symbol fun symbol => isBlank symbol || symbol == unit '-')))

/-- `^(?=.*[A-Za-z])(?=.*\d)[A-Za-z0-9_-]{20,}$`. -/
def tokenPattern : SymbolPattern :=
  .sequence
    [.atStart, somewhere (.symbol isLetter), somewhere digit,
      atLeast 20 (.symbol inIdentifier), .atEnd]

def isLikelySensitiveText (value : JsString) : Bool :=
  let normalized := normalizeBlanks value
  emailPattern.test normalized || urlPattern.test normalized ||
    oneTimeCodePattern.test normalized ||
    longNumberPattern.test normalized || tokenPattern.test normalized

end TaskTwin.Locator

namespace TaskTwin.Locator

open Text Schema
open TaskTwin.Workflow (TestIdAttribute LocatorKind)

/-- A locator before its texts are checked. -/
inductive ElementLocator where
  | testId (value : JsString) (testIdAttribute : Option TestIdAttribute)
  | role (role : JsString) (name : Option JsString) (exact : Option Bool)
  | label (value : JsString) (exact : Option Bool)
  | text (value : JsString) (exact : Option Bool)
  | placeholder (value : JsString) (exact : Option Bool)
  | css (selector : JsString)
  deriving DecidableEq, Repr

def ElementLocator.kind : ElementLocator → LocatorKind
  | .testId .. => .testId
  | .role .. => .role
  | .label .. => .label
  | .text .. => .text
  | .placeholder .. => .placeholder
  | .css .. => .css

/-- `NonEmptyStringSchema`. -/
def parseNonEmpty (text : JsString) : Option JsString :=
  if (trimText text).isEmpty then none else some (trimText text)

/-- `ElementLocatorSchema`. -/
def parseElementLocator : ElementLocator → Option ElementLocator
  | .testId value testIdAttribute =>
      (parseNonEmpty value).map (.testId · testIdAttribute)
  | .role role none exact =>
      (parseNonEmpty role).map (.role · none exact)
  | .role role (some name) exact => do
      let role ← parseNonEmpty role
      let name ← parseNonEmpty name
      return .role role (some name) exact
  | .label value exact => (parseNonEmpty value).map (.label · exact)
  | .text value exact => (parseNonEmpty value).map (.text · exact)
  | .placeholder value exact =>
      (parseNonEmpty value).map (.placeholder · exact)
  | .css selector => (parseNonEmpty selector).map .css

/-- `getLocatorString`, which the repository has as `locatorValue`. -/
def locatorValue : ElementLocator → JsString
  | .testId value _ => value
  | .role role name _ => name.getD role
  | .label value _ => value
  | .text value _ => value
  | .placeholder value _ => value
  | .css selector => selector

def testIdAttributeText : TestIdAttribute → String
  | .dataTestid => "data-testid"
  | .dataTest => "data-test"
  | .dataCy => "data-cy"
  | .dataQa => "data-qa"

/-- `JSON.stringify` of an object, where the values are written already. -/
def stringifyObject (fields : List (String × JsString)) : JsString :=
  js "\x7b" ++
    List.intercalate (js ",")
      (fields.map fun field => quote (js field.1) ++ js ":" ++ field.2) ++
    js "\x7d"

def stringifyBool (value : Bool) : JsString :=
  if value then js "true" else js "false"

def canonicalizeLocator : ElementLocator → JsString
  | .testId value testIdAttribute =>
      stringifyObject
        [("kind", quote (js "testId")),
          ("attribute",
            quote
              (js (testIdAttributeText (testIdAttribute.getD .dataTestid)))),
          ("value", quote value)]
  | .role role name exact =>
      stringifyObject
        [("kind", quote (js "role")), ("role", quote role),
          ("name", (name.map quote).getD (js "null")),
          ("exact", stringifyBool (exact.getD false))]
  | .label value exact =>
      stringifyObject
        [("kind", quote (js "label")), ("value", quote value),
          ("exact", stringifyBool (exact.getD false))]
  | .text value exact =>
      stringifyObject
        [("kind", quote (js "text")), ("value", quote value),
          ("exact", stringifyBool (exact.getD false))]
  | .placeholder value exact =>
      stringifyObject
        [("kind", quote (js "placeholder")), ("value", quote value),
          ("exact", stringifyBool (exact.getD false))]
  | .css selector =>
      stringifyObject
        [("kind", quote (js "css")), ("selector", quote selector)]

def maxLocatorCandidates : Nat := 32

def maxLocatorFallbacks : Nat := 4

def maxLocatorValueLength : Nat := 160

def maxTestIdLength : Nat := 80

def maxVisibleTextLength : Nat := 80

def maxCssSelectorLength : Nat := 256

/-- The maximum that `validateLocatorBounds` applies. -/
def ElementLocator.maximum (locator : ElementLocator) : Nat :=
  match locator.kind with
  | .css => maxCssSelectorLength
  | .testId => maxTestIdLength
  | .text => maxVisibleTextLength
  | _ => maxLocatorValueLength

/-- `validateLocatorBounds` adds no issue. -/
def hasLocatorBounds (locator : ElementLocator) : Bool :=
  let value := locatorValue locator
  value.length ≤ locator.maximum &&
    !(locator.kind == .css && xpathPattern.test value)

inductive LocatorSource where
  | testId
  | role
  | label
  | stableId
  | placeholder
  | stableName
  | text
  | css
  deriving DecidableEq, Repr

/-- `SOURCE_LOCATOR_KINDS`. -/
def LocatorSource.locatorKind : LocatorSource → LocatorKind
  | .testId => .testId
  | .role => .role
  | .label => .label
  | .stableId => .css
  | .placeholder => .placeholder
  | .stableName => .css
  | .text => .text
  | .css => .css

structure LocatorObservation where
  locator : ElementLocator
  source : LocatorSource
  matchCount : Nat
  stabilityValue : JsString
  deriving DecidableEq, Repr

/-- `LocatorObservationSchema`. -/
def parseLocatorObservation
    (observation : LocatorObservation) :
    Option LocatorObservation := do
  let locator ← parseElementLocator observation.locator
  let stabilityValue := trimText observation.stabilityValue
  guard (hasLength 1 maxLocatorValueLength stabilityValue)
  guard (hasLocatorBounds locator)
  guard (observation.source.locatorKind = locator.kind)
  return { observation with locator, stabilityValue }

inductive LocatorReasonCode where
  | uniqueMatch
  | strongTestId
  | accessibleRole
  | associatedLabel
  | stableId
  | placeholder
  | stableName
  | uniqueText
  | cssFallback
  | shortValue
  | dynamicUuid
  | dynamicTimestamp
  | dynamicHash
  | dynamicNumericSuffix
  | frameworkGenerated
  | randomLooking
  | positionalCss
  | deepCss
  | generatedClass
  deriving DecidableEq, Repr

/-- `LOCATOR_REASON_MESSAGES`. -/
def LocatorReasonCode.message : LocatorReasonCode → String
  | .uniqueMatch => "Matches exactly one element."
  | .strongTestId => "Uses an allowlisted test identifier."
  | .accessibleRole => "Uses a reliable role and accessible name."
  | .associatedLabel => "Uses an associated form-control label."
  | .stableId => "Uses an identifier that appears stable."
  | .placeholder => "Uses a bounded placeholder."
  | .stableName => "Uses a name attribute that appears stable."
  | .uniqueText => "Uses short unique visible text."
  | .cssFallback => "Uses a bounded semantic CSS fallback."
  | .shortValue => "Uses a short normalized locator value."
  | .dynamicUuid => "The identifier resembles a UUID."
  | .dynamicTimestamp => "The identifier resembles a timestamp."
  | .dynamicHash => "The identifier resembles a generated hash."
  | .dynamicNumericSuffix => "The identifier has a generated numeric suffix."
  | .frameworkGenerated =>
      "The identifier resembles a framework-generated value."
  | .randomLooking => "The identifier resembles a random session value."
  | .positionalCss => "The CSS selector uses positional matching."
  | .deepCss => "The CSS selector uses a deeper ancestry chain."
  | .generatedClass =>
      "The CSS selector contains a generated-looking class."

structure LocatorReason where
  code : LocatorReasonCode
  message : String
  deriving DecidableEq, Repr

/-- `reason`. -/
def LocatorReason.of (code : LocatorReasonCode) : LocatorReason :=
  { code, message := code.message }

/-- The match count of a candidate is one. -/
structure LocatorCandidate where
  locator : ElementLocator
  score : Int
  source : LocatorSource
  reasons : List LocatorReason
  deriving DecidableEq, Repr

/-- `SOURCE_REASON_CODES`. -/
def LocatorSource.reasonCode : LocatorSource → LocatorReasonCode
  | .testId => .strongTestId
  | .role => .accessibleRole
  | .label => .associatedLabel
  | .stableId => .stableId
  | .placeholder => .placeholder
  | .stableName => .stableName
  | .text => .uniqueText
  | .css => .cssFallback

def LocatorCandidate.hasReason
    (candidate : LocatorCandidate)
    (code : LocatorReasonCode) :
    Bool :=
  candidate.reasons.any fun reason => reason.code == code

def maxLocatorReasons : Nat := 12

/-- `LocatorCandidateSchema`. -/
def parseLocatorCandidate
    (candidate : LocatorCandidate) :
    Option LocatorCandidate := do
  let locator ← parseElementLocator candidate.locator
  guard (0 ≤ candidate.score ∧ candidate.score ≤ 100)
  guard
    (1 ≤ candidate.reasons.length ∧
      candidate.reasons.length ≤ maxLocatorReasons)
  guard
    (candidate.reasons.all fun reason =>
      reason.message == reason.code.message)
  guard (hasLocatorBounds locator)
  guard (candidate.source.locatorKind = locator.kind)
  guard (candidate.hasReason candidate.source.reasonCode)
  guard (candidate.hasReason .uniqueMatch)
  return { candidate with locator }

inductive LocatorConfidence where
  | high
  | medium
  | low
  deriving DecidableEq, Repr

structure LocatorBundle where
  primary : LocatorCandidate
  fallbacks : List LocatorCandidate
  confidence : LocatorConfidence
  generatedAt : JsString
  deriving DecidableEq, Repr

def LocatorBundle.candidates (bundle : LocatorBundle) :
    List LocatorCandidate :=
  bundle.primary :: bundle.fallbacks

/-- Scores do not ascend. -/
def scoresDescend (candidates : List LocatorCandidate) : Bool :=
  (candidates.zip candidates.tail).all fun pair => pair.2.score ≤ pair.1.score

/-- `LocatorBundleSchema`. -/
def parseLocatorBundle (bundle : LocatorBundle) : Option LocatorBundle := do
  let primary ← parseLocatorCandidate bundle.primary
  let fallbacks ← bundle.fallbacks.mapM parseLocatorCandidate
  guard (fallbacks.length ≤ maxLocatorFallbacks)
  guard (isDateTime bundle.generatedAt)
  guard
    ((primary :: fallbacks).map fun candidate =>
      canonicalizeLocator candidate.locator).Nodup
  guard (scoresDescend (primary :: fallbacks))
  return { bundle with primary, fallbacks }

end TaskTwin.Locator

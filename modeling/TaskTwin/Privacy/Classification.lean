import TaskTwin.Schema.Unknown

/-!
# Classification of elements

The metadata of an element tells how sensitive its value is, and what may be
done with it.
-/

namespace TaskTwin.Privacy

open Text Schema Patterns
open Pattern

/-- What the runtime knows about Unicode. -/
structure Unicode where
  /-- `text.normalize('NFKD').replace(/\p{M}/gu, '')`. -/
  decompose : JsString → JsString
  toLowerCase : JsString → JsString

/-- `[a-z0-9.!#$%&\x27*+/=?^_`{|}~-]`, in any case. -/
def mailboxSymbol : SymbolPattern :=
  .symbol fun symbol =>
    isAlphanumeric symbol ||
      (js ".!#$%&\x27*+/=?^_\x60\x7b|\x7d~-").contains symbol

/-- `[a-z0-9-]`, in any case. -/
def hostSymbol : SymbolPattern :=
  .symbol fun symbol => isAlphanumeric symbol || symbol == unit '-'

/-- `\b[mailbox]+@[a-z0-9-]+(?:\.[a-z0-9-]+)+\b`, in any case. -/
def emailPattern : SymbolPattern :=
  .sequence
    [boundary, atLeast 1 mailboxSymbol, literal "@", atLeast 1 hostSymbol,
      atLeast 1 (.followed (literal ".") (atLeast 1 hostSymbol)), boundary]

/-- `(?:^|[^\w])(?:\+?\d[\s().-]?){9,15}(?:$|[^\w])`. -/
def phonePattern : SymbolPattern :=
  .sequence
    [startOr (!inWord ·),
      between 9 15
        (.sequence
          [optional (literal "+"), digit,
            optional
              (.symbol fun symbol =>
                isBlank symbol || (js "().-").contains symbol)]),
      endOr (!inWord ·)]

/-- `(?:^|[^\d])\d{12,19}(?:$|[^\d])`. -/
def longNumberPattern : SymbolPattern :=
  .sequence
    [startOr (!CodeUnit.isDigit ·), between 12 19 digit,
      endOr (!CodeUnit.isDigit ·)]

/-- `\b\d{6}\b`. -/
def otpPattern : SymbolPattern :=
  .sequence [boundary, exactly 6 digit, boundary]

/-- `[:=]\s*` behind blanks. -/
def assignment : SymbolPattern :=
  .sequence [atLeast 0 blank, symbolOf ":=", atLeast 0 blank]

/--
`\b(?:bearer\s+|api[_ -]?key\s*[:=]\s*|token\s*[:=]\s*)[a-z0-9._~+/=-]{8,}\b`,
in any case.
-/
def tokenPattern : SymbolPattern :=
  .sequence
    [boundary,
      .oneOf
        [.followed (anyCase "bearer") (atLeast 1 blank),
          .sequence
            [anyCase "api", optional (symbolOf "_ -"), anyCase "key",
              assignment],
          .followed (anyCase "token") assignment],
      atLeast 8
        (.symbol fun symbol =>
          isAlphanumeric symbol || (js "._~+/=-").contains symbol),
      boundary]

/--
`\b[0-9a-f]{8}-[0-9a-f]{4}-[1-5][0-9a-f]{3}-[89ab][0-9a-f]{3}-[0-9a-f]{12}\b`,
in any case.
-/
def uuidPattern : SymbolPattern :=
  .sequence
    [boundary, exactly 8 hex, literal "-", exactly 4 hex, literal "-",
      .symbol (CodeUnit.within '1' '5'), exactly 3 hex, literal "-",
      symbolOf "89abAB", exactly 3 hex, literal "-", exactly 12 hex,
      boundary]

inductive SensitiveLiteralKind where
  | personal
  | authentication
  | financialOrIdentity
  deriving DecidableEq, Repr

/-- Whether literals of a kind are in a text without identifiers. -/
def SensitiveLiteralKind.isIn (text : JsString) :
    SensitiveLiteralKind → Bool
  | .personal => emailPattern.test text || phonePattern.test text
  | .authentication => otpPattern.test text || tokenPattern.test text
  | .financialOrIdentity => longNumberPattern.test text

def detectSensitiveLiteralKinds (value : JsString) :
    List SensitiveLiteralKind :=
  let normalized := uuidPattern.replaceAll (fun _ => []) (trimText value)
  [.personal, .authentication, .financialOrIdentity].filter
    (SensitiveLiteralKind.isIn normalized)

def containsSensitiveLiteral (value : JsString) : Bool :=
  !(detectSensitiveLiteralKinds value).isEmpty

inductive Sensitivity where
  | isPublic
  | general
  | personal
  | authentication
  | financial
  | identity
  | health
  | unknownSensitive
  deriving DecidableEq, Repr

inductive PrivacyPolicy where
  | allow
  | mask
  | block
  deriving DecidableEq, Repr

inductive PrivacyConfidence where
  | high
  | medium
  | low
  deriving DecidableEq, Repr

inductive PrivacyRuleId where
  | authPasswordType
  | authAutocomplete
  | authMetadata
  | financialAutocomplete
  | financialMetadata
  | identityMetadata
  | healthMetadata
  | personalInputType
  | personalAutocomplete
  | personalMetadata
  | unknownSensitiveMetadata
  | sensitiveMetadataLiteral
  | publicSemanticElement
  | generalNoSensitiveSignal
  deriving DecidableEq, Repr

/-- The sensitivity whose prefix the text of a rule begins with. -/
def PrivacyRuleId.sensitivity : PrivacyRuleId → Sensitivity
  | .authPasswordType => .authentication
  | .authAutocomplete => .authentication
  | .authMetadata => .authentication
  | .financialAutocomplete => .financial
  | .financialMetadata => .financial
  | .identityMetadata => .identity
  | .healthMetadata => .health
  | .personalInputType => .personal
  | .personalAutocomplete => .personal
  | .personalMetadata => .personal
  | .unknownSensitiveMetadata => .unknownSensitive
  | .sensitiveMetadataLiteral => .unknownSensitive
  | .publicSemanticElement => .isPublic
  | .generalNoSensitiveSignal => .general

structure PrivacyClassificationInput where
  tagName : JsString
  inputType : Option JsString
  autocomplete : Option JsString
  name : Option JsString
  id : Option JsString
  labelText : Option JsString
  accessibleName : Option JsString
  placeholder : Option JsString
  role : Option JsString
  deriving DecidableEq, Repr

def maxPrivacyMetadataLength : Nat := 160

/-- `BoundedMetadataSchema.nullable()`. -/
def parseMetadata : Option JsString → Option (Option JsString)
  | none => some none
  | some text =>
      if hasLength 1 maxPrivacyMetadataLength (trimText text) then
        some (some (trimText text))
      else
        none

/-- `^[a-z][a-z0-9-]*$`. -/
def isTagName (text : JsString) : Bool :=
  beginsAndContinues CodeUnit.isLower
    (fun symbol =>
      CodeUnit.isLower symbol || CodeUnit.isDigit symbol ||
        symbol == unit '-')
    text

/-- `PrivacyClassificationInputSchema`. -/
def parseClassificationInput
    (input : PrivacyClassificationInput) :
    Option PrivacyClassificationInput := do
  let tagName := trimText input.tagName
  guard (hasLength 1 32 tagName && isTagName tagName)
  let inputType ← parseMetadata input.inputType
  let autocomplete ← parseMetadata input.autocomplete
  let name ← parseMetadata input.name
  let id ← parseMetadata input.id
  let labelText ← parseMetadata input.labelText
  let accessibleName ← parseMetadata input.accessibleName
  let placeholder ← parseMetadata input.placeholder
  let role ← parseMetadata input.role
  some
    { tagName, inputType, autocomplete, name, id, labelText, accessibleName
      placeholder, role }

/-- `SENSITIVITY_REASONS`. -/
def Sensitivity.reason : Sensitivity → String
  | .isPublic => "Element metadata describes a public interaction."
  | .general => "No supported sensitive metadata rule matched."
  | .personal => "Deterministic personal metadata rules matched."
  | .authentication => "Deterministic authentication metadata rules matched."
  | .financial => "Deterministic financial metadata rules matched."
  | .identity => "Deterministic identity metadata rules matched."
  | .health => "Deterministic health metadata rules matched."
  | .unknownSensitive =>
      "Deterministic unknown-sensitive metadata rules matched."

structure PrivacyDecision where
  sensitivity : Sensitivity
  policy : PrivacyPolicy
  confidence : PrivacyConfidence
  matchedRules : List PrivacyRuleId
  reasons : List String
  deriving DecidableEq, Repr

/-- The policies that a sensitivity admits. -/
def Sensitivity.admits (policy : PrivacyPolicy) : Sensitivity → Bool
  | .authentication => policy == .block
  | .financial => policy == .block
  | .identity => policy == .block
  | .health => policy == .block
  | .unknownSensitive => policy == .mask
  | .isPublic => policy == .allow
  | .general => policy == .allow
  | .personal => policy == .allow || policy == .mask

def maxPrivacyRules : Nat := 16

/-- `PrivacyDecisionSchema` adds no issue. -/
def isPrivacyDecision (decision : PrivacyDecision) : Bool :=
  decide (1 ≤ decision.matchedRules.length) &&
    decide (decision.matchedRules.length ≤ maxPrivacyRules) &&
    decision.sensitivity.admits decision.policy &&
    (decision.matchedRules.all fun rule =>
      rule.sensitivity == decision.sensitivity) &&
    decision.reasons == [decision.sensitivity.reason]

inductive MetadataField where
  | inputType
  | autocomplete
  | name
  | id
  | labelText
  | accessibleName
  | placeholder
  | role
  deriving DecidableEq, Repr

/-- `ALL_METADATA_FIELDS`. -/
def allMetadataFields : List MetadataField :=
  [.inputType, .autocomplete, .name, .id, .labelText, .accessibleName,
    .placeholder, .role]

def PrivacyClassificationInput.get
    (input : PrivacyClassificationInput) :
    MetadataField → Option JsString
  | .inputType => input.inputType
  | .autocomplete => input.autocomplete
  | .name => input.name
  | .id => input.id
  | .labelText => input.labelText
  | .accessibleName => input.accessibleName
  | .placeholder => input.placeholder
  | .role => input.role

structure PrivacyRule where
  id : PrivacyRuleId
  sensitivity : Sensitivity
  confidence : PrivacyConfidence
  fields : Option (List MetadataField) := none
  terms : List String
  deriving Repr

/-- `PRIVACY_RULES`. -/
def privacyRules : List PrivacyRule :=
  [{ id := .authPasswordType
     sensitivity := .authentication
     confidence := .high
     fields := some [.inputType]
     terms := ["password"] },
    { id := .authAutocomplete
      sensitivity := .authentication
      confidence := .high
      fields := some [.autocomplete]
      terms := ["current password", "new password", "one time code"] },
    { id := .authMetadata
      sensitivity := .authentication
      confidence := .medium
      terms :=
        ["password", "passcode", "one time code", "verification code", "otp",
          "access token", "auth token", "mat khau", "ma xac thuc",
          "ma otp"] },
    { id := .financialAutocomplete
      sensitivity := .financial
      confidence := .high
      fields := some [.autocomplete]
      terms := ["cc number", "cc csc"] },
    { id := .financialMetadata
      sensitivity := .financial
      confidence := .medium
      terms :=
        ["card number", "credit card", "debit card", "card security code",
          "cvv", "cvc", "bank account", "account number", "routing number",
          "so the", "ma cvv", "tai khoan ngan hang"] },
    { id := .identityMetadata
      sensitivity := .identity
      confidence := .medium
      terms :=
        ["passport", "national id", "citizen id", "citizen identification",
          "tax id", "tax number", "student id", "ho chieu", "can cuoc",
          "cccd", "cmnd", "ma so thue"] },
    { id := .healthMetadata
      sensitivity := .health
      confidence := .medium
      terms :=
        ["medical", "health", "diagnosis", "medication", "patient",
          "symptom", "insurance health", "benh an", "chan doan",
          "thuoc dieu tri", "suc khoe"] },
    { id := .personalInputType
      sensitivity := .personal
      confidence := .high
      fields := some [.inputType]
      terms := ["email", "tel"] },
    { id := .personalAutocomplete
      sensitivity := .personal
      confidence := .high
      fields := some [.autocomplete]
      terms :=
        ["email", "tel", "street address", "address line1", "address line2",
          "name", "given name", "family name", "bday"] },
    { id := .personalMetadata
      sensitivity := .personal
      confidence := .medium
      terms :=
        ["email", "phone", "telephone", "street address", "postal address",
          "full name", "date of birth", "dob", "thu dien tu",
          "so dien thoai", "dia chi", "ho ten", "ngay sinh"] },
    { id := .unknownSensitiveMetadata
      sensitivity := .unknownSensitive
      confidence := .low
      terms := ["secret", "credential", "private key", "token", "bi mat"] }]

/-- `SENSITIVITY_PRIORITY`. -/
def sensitivityPriority : List Sensitivity :=
  [.authentication, .financial, .identity, .health, .personal,
    .unknownSensitive, .general, .isPublic]

variable (unicode : Unicode)

/-- `([a-z0-9])([A-Z])`. -/
def wordStartPattern : SymbolPattern :=
  .followed
    (.symbol fun symbol =>
      CodeUnit.isLower symbol || CodeUnit.isDigit symbol)
    (.symbol CodeUnit.isUpper)

/-- The two symbols with a blank between them. -/
def separateWords (symbols : JsString) : JsString :=
  symbols.take 1 ++ js " " ++ symbols.drop 1

/-- `đ` of either case. -/
def isStrokeD (symbol : CodeUnit) : Bool :=
  symbol.val == 0x110 || symbol.val == 0x111

def normalize (value : JsString) : JsString :=
  let separated := wordStartPattern.replaceAll separateWords value
  let plain :=
    (unicode.decompose separated).map fun symbol =>
      if isStrokeD symbol then unit 'd' else symbol
  let words :=
    (atLeast 1
      (.symbol fun symbol =>
        !(CodeUnit.isLower symbol ||
          CodeUnit.isDigit symbol))).replaceAll
      (fun _ => js " ") (unicode.toLowerCase plain)
  trimText words

/-- `text.includes(part)`. -/
def includes (text part : JsString) : Bool :=
  text.tails.any part.isPrefixOf

def matchesRule
    (input : PrivacyClassificationInput)
    (rule : PrivacyRule) :
    Bool :=
  (rule.fields.getD allMetadataFields).any fun field =>
    (input.get field).any fun value =>
      rule.terms.any fun term =>
        includes (normalize unicode value) (normalize unicode (js term))

def confidenceRank : PrivacyConfidence → Nat
  | .high => 3
  | .medium => 2
  | .low => 1

/-- The more confident of the two, and the first of two alike. -/
def moreConfident
    (current : PrivacyConfidence)
    (rule : PrivacyRule) :
    PrivacyConfidence :=
  if confidenceRank current < confidenceRank rule.confidence then
    rule.confidence
  else
    current

structure Classification where
  sensitivity : Sensitivity
  confidence : PrivacyConfidence
  rules : List PrivacyRuleId

/-- What the rules of one sensitivity say when one of them matches. -/
def classifyAs
    (found : List PrivacyRule)
    (sensitivity : Sensitivity) :
    Option Classification :=
  let selected := found.filter fun rule => rule.sensitivity == sensitivity
  if selected.isEmpty then none
  else
    some
      { sensitivity
        confidence := selected.foldl moreConfident .low
        rules := selected.map PrivacyRule.id }

def classifyBase (input : PrivacyClassificationInput) : Classification :=
  match
    sensitivityPriority.findSome?
      (classifyAs (privacyRules.filter (matchesRule unicode input)))
  with
  | some classification => classification
  | none =>
      if allMetadataFields.any fun field =>
          (input.get field).any containsSensitiveLiteral then
        { sensitivity := .unknownSensitive
          confidence := .medium
          rules := [.sensitiveMetadataLiteral] }
      else
        let isPublic :=
          input.tagName = js "button" ∨ input.tagName = js "a" ∨
            input.role = some (js "button") ∨ input.role = some (js "link")
        { sensitivity := if isPublic then .isPublic else .general
          confidence := if isPublic then .high else .medium
          rules := [] }

/-- The policy for personal data, which settings choose. -/
structure PrivacySettings where
  personalDataPolicy : PrivacyPolicy
  isChoice : personalDataPolicy ≠ .block

theorem maskPersonalData_isChoice : PrivacyPolicy.mask ≠ .block := by
  decide

/-- `DEFAULT_PRIVACY_SETTINGS`. -/
def defaultPrivacySettings : PrivacySettings :=
  { personalDataPolicy := .mask
    isChoice := maskPersonalData_isChoice }

def resolvePrivacyPolicy
    (settings : PrivacySettings) :
    Sensitivity → PrivacyPolicy
  | .authentication => .block
  | .financial => .block
  | .identity => .block
  | .health => .block
  | .personal => settings.personalDataPolicy
  | .unknownSensitive => .mask
  | .isPublic => .allow
  | .general => .allow

/-- The rules of a classification, or the one that stands for none. -/
def Classification.matchedRules
    (classification : Classification) :
    List PrivacyRuleId :=
  if classification.rules.isEmpty then
    if classification.sensitivity = .isPublic then [.publicSemanticElement]
    else [.generalNoSensitiveSignal]
  else
    classification.rules

/-- The reason that is given for a sensitivity. -/
def classificationReason : Sensitivity → String
  | .isPublic => "Element metadata describes a public interaction."
  | .general => "No supported sensitive metadata rule matched."
  | sensitivity => sensitivity.reason

/-- `none` when an argument or the result does not parse. -/
def classifyPrivacy
    (rawInput : PrivacyClassificationInput)
    (settings : PrivacySettings) :
    Option PrivacyDecision := do
  let input ← parseClassificationInput rawInput
  let classification := classifyBase unicode input
  let decision :=
    { sensitivity := classification.sensitivity
      policy := resolvePrivacyPolicy settings classification.sensitivity
      confidence := classification.confidence
      matchedRules := classification.matchedRules
      reasons := [classificationReason classification.sensitivity] }
  guard (isPrivacyDecision decision)
  return decision

end TaskTwin.Privacy

import TaskTwin.Locator.Contracts
import TaskTwin.Privacy.Classification

/-!
# Elements of a recorded page

What the recorder reads of an element, once for the privacy decision and once
for the snapshot that is stored with the event.
-/

namespace TaskTwin.Capture

open Text Schema Patterns Privacy
open TaskTwin.Locator (normalizeBlanks)
open TaskTwin.Workflow (TestIdAttribute)

/-- The types of `HTMLInputElement`. -/
inductive InputType where
  | button
  | checkbox
  | color
  | date
  | datetimeLocal
  | email
  | file
  | hidden
  | image
  | month
  | number
  | password
  | radio
  | range
  | reset
  | search
  | submit
  | tel
  | text
  | time
  | url
  | week
  deriving DecidableEq, Repr

def InputType.name : InputType → String
  | .button => "button"
  | .checkbox => "checkbox"
  | .color => "color"
  | .date => "date"
  | .datetimeLocal => "datetime-local"
  | .email => "email"
  | .file => "file"
  | .hidden => "hidden"
  | .image => "image"
  | .month => "month"
  | .number => "number"
  | .password => "password"
  | .radio => "radio"
  | .range => "range"
  | .reset => "reset"
  | .search => "search"
  | .submit => "submit"
  | .tel => "tel"
  | .text => "text"
  | .time => "time"
  | .url => "url"
  | .week => "week"

inductive ElementInterface where
  | input (type : InputType) (value : JsString) (checked disabled : Bool)
  | select
      (multiple : Bool)
      (value : JsString)
      (selectedLabel : Option JsString)
  | textArea
  | button (disabled : Bool)
  /-- Another element, which is one of HTML or not. -/
  | other (isHtml : Bool)
  deriving DecidableEq, Repr

structure PageElement where
  interface : ElementInterface
  tagName : JsString
  getAttribute : String → Option JsString
  /-- The text of `labels.item(0)`. -/
  firstLabel : Option JsString
  /-- The text of `closest('label')`. -/
  closestLabel : Option JsString
  textContent : JsString
  /-- The text of `ownerDocument.getElementById`. -/
  elementText : JsString → Option JsString

variable (unicode : Unicode)

def PageElement.isInput (element : PageElement) : Bool :=
  match element.interface with
  | .input .. => true
  | _ => false

/-- An input or a select element. -/
def PageElement.isValueControl (element : PageElement) : Bool :=
  match element.interface with
  | .input .. => true
  | .select .. => true
  | _ => false

/-- An element with labels that the privacy decision reads. -/
def PageElement.isLabelled (element : PageElement) : Bool :=
  match element.interface with
  | .input .. => true
  | .select .. => true
  | .textArea => true
  | _ => false

/-- `element.tagName.toLowerCase()`. -/
def PageElement.lowerTagName (element : PageElement) : JsString :=
  unicode.toLowerCase element.tagName

/-- A property that reflects an attribute, such as `element.id`. -/
def PageElement.reflected
    (element : PageElement)
    (name : String) :
    JsString :=
  (element.getAttribute name).getD []

/-- `normalize` and `normalizeText`. -/
def normalizeText (maximum : Nat) (value : JsString) : Option JsString :=
  if (normalizeBlanks value).isEmpty then none
  else some ((normalizeBlanks value).take maximum)

def sanitizePersistedText
    (maximum : Nat)
    (value : Option JsString) :
    Option JsString :=
  value.bind fun value =>
    if (normalizeBlanks value).isEmpty ||
        containsSensitiveLiteral (normalizeBlanks value) then
      none
    else some ((normalizeBlanks value).take maximum)

def normalizePersistedText (maximum : Nat) (value : JsString) : Option JsString :=
  sanitizePersistedText maximum (normalizeText maximum value)

def maxTargetMetadataLength : Nat := 160

def maxTextPreviewLength : Nat := 120

/-- `labelledBy.split(/\s+/)`. -/
def splitIds (labelledBy : JsString) : List JsString :=
  (Pattern.atLeast 1 blank).split labelledBy

/-- The texts of the elements with some identifiers, `join(' ')`. -/
def joinTexts (element : PageElement) (ids : List JsString) : JsString :=
  (js " ").intercalate (ids.map fun id => (element.elementText id).getD [])

def associatedLabelText (element : PageElement) : Option JsString :=
  if element.isLabelled then
    element.firstLabel.bind (normalizeText maxPrivacyMetadataLength)
  else none

/-- `ariaLabelledText`, of the first eight references. -/
def ariaLabelledText (element : PageElement) : Option JsString :=
  (element.getAttribute "aria-labelledby").bind fun labelledBy =>
    normalizeText maxPrivacyMetadataLength
      (joinTexts element ((splitIds labelledBy).take 8))

def implicitRole (element : PageElement) : Option JsString :=
  match (element.getAttribute "role").bind
      (normalizeText maxPrivacyMetadataLength) with
  | some explicit => some explicit
  | none =>
      match element.interface with
      | .button _ => some (js "button")
      | .select .. => some (js "combobox")
      | .textArea => some (js "textbox")
      | .input type .. =>
          if type = .checkbox then some (js "checkbox")
          else if type = .radio then some (js "radio")
          else if type ∈ [.button, .image, .reset, .submit] then
            some (js "button")
          else some (js "textbox")
      | .other _ => none

def accessibleName (element : PageElement) : Option JsString :=
  ((element.getAttribute "aria-label").bind
      (normalizeText maxPrivacyMetadataLength)).or
    ((ariaLabelledText element).or
      ((associatedLabelText element).or
        (if (element.getAttribute "data-tasktwin-privacy-sensitive").isSome then
          normalizeText maxPrivacyMetadataLength element.textContent
        else none)))

def inputType (element : PageElement) : Option JsString :=
  match element.interface with
  | .input type .. => some (js type.name)
  | .textArea => some (js "textarea")
  | .select .. => some (js "select")
  | _ => none

/-- `none` when the metadata does not parse. -/
def createPrivacyClassificationInput
    (element : PageElement) :
    Option PrivacyClassificationInput :=
  let metadata name :=
    (element.getAttribute name).bind (normalizeText maxPrivacyMetadataLength)
  parseClassificationInput
    { tagName := element.lowerTagName unicode
      inputType := inputType element
      autocomplete := metadata "autocomplete"
      name := metadata "name"
      id := metadata "id"
      labelText := associatedLabelText element
      accessibleName := accessibleName element
      placeholder :=
        match element.interface with
        | .input .. =>
            normalizeText maxPrivacyMetadataLength
              (element.reflected "placeholder")
        | .textArea =>
            normalizeText maxPrivacyMetadataLength
              (element.reflected "placeholder")
        | _ => none
      role := implicitRole element }

structure RecordingTargetSnapshot where
  tagName : JsString
  inputType : Option JsString
  role : Option JsString
  id : Option JsString
  name : Option JsString
  labelText : Option JsString
  accessibleName : Option JsString
  placeholder : Option JsString
  textPreview : Option JsString
  testIdCandidates : List (TestIdAttribute × JsString)
  deriving DecidableEq, Repr

/-- A trimmed text of bounded length. -/
def parseBounded (maximum : Nat) (text : JsString) : Option JsString :=
  if hasLength 1 maximum (trimText text) then some (trimText text) else none

/-- The same, or `null`. -/
def parseNullable
    (maximum : Nat) :
    Option JsString → Option (Option JsString)
  | none => some none
  | some text => (parseBounded maximum text).map some

/-- `RecordingTargetSnapshotSchema`. -/
def parseTargetSnapshot
    (target : RecordingTargetSnapshot) :
    Option RecordingTargetSnapshot := do
  let tagName := trimText target.tagName
  guard (hasLength 1 32 tagName && isTagName tagName)
  let inputType ← parseNullable maxTargetMetadataLength target.inputType
  let role ← parseNullable maxTargetMetadataLength target.role
  let id ← parseNullable maxTargetMetadataLength target.id
  let name ← parseNullable maxTargetMetadataLength target.name
  let labelText ← parseNullable maxTargetMetadataLength target.labelText
  let accessibleName ←
    parseNullable maxTargetMetadataLength target.accessibleName
  let placeholder ← parseNullable maxTargetMetadataLength target.placeholder
  let textPreview ← parseNullable maxTextPreviewLength target.textPreview
  let testIdCandidates ← target.testIdCandidates.mapM fun candidate =>
    (parseBounded maxTargetMetadataLength candidate.2).map (candidate.1, ·)
  guard (testIdCandidates.length ≤ 4)
  some
    { tagName, inputType, role, id, name, labelText, accessibleName
      placeholder, textPreview, testIdCandidates }

/-- `getLabelText`. -/
def getLabelText (element : PageElement) : Option JsString :=
  match if element.isValueControl then element.firstLabel else none with
  | some label => normalizeText maxTargetMetadataLength label
  | none =>
      element.closestLabel.bind (normalizeText maxTargetMetadataLength)

def getAriaLabelledText (element : PageElement) : Option JsString :=
  (element.getAttribute "aria-labelledby").bind fun labelledBy =>
    normalizeText maxTargetMetadataLength
      (joinTexts element (splitIds labelledBy))

/-- The label that a snapshot has. -/
def snapshotLabel (element : PageElement) : Option JsString :=
  sanitizePersistedText maxTargetMetadataLength (getLabelText element)

def snapshotPlaceholder (element : PageElement) : Option JsString :=
  if element.isInput then
    normalizePersistedText maxTargetMetadataLength
      (element.reflected "placeholder")
  else none

def snapshotTextPreview (element : PageElement) : Option JsString :=
  if element.isValueControl then none
  else normalizePersistedText maxTextPreviewLength element.textContent

/-- The accessible name that a snapshot has. -/
def snapshotName (element : PageElement) : Option JsString :=
  (normalizePersistedText maxTargetMetadataLength
      (element.reflected "aria-label")).or
    ((sanitizePersistedText maxTargetMetadataLength
        (getAriaLabelledText element)).or
      ((snapshotLabel element).or
        ((snapshotPlaceholder element).or (snapshotTextPreview element))))

def testIdAttributes : List (TestIdAttribute × String) :=
  [(.dataTestid, "data-testid"), (.dataTest, "data-test"),
    (.dataCy, "data-cy"), (.dataQa, "data-qa")]

/-- `none` when the snapshot does not parse. -/
def createTargetSnapshot
    (element : PageElement) :
    Option RecordingTargetSnapshot :=
  let metadata name :=
    normalizePersistedText maxTargetMetadataLength (element.reflected name)
  parseTargetSnapshot
    { tagName := element.lowerTagName unicode
      inputType :=
        match element.interface with
        | .input type .. =>
            normalizeText maxTargetMetadataLength (js type.name)
        | _ => none
      role := metadata "role"
      id := metadata "id"
      name := metadata "name"
      labelText := snapshotLabel element
      accessibleName := snapshotName element
      placeholder := snapshotPlaceholder element
      textPreview := snapshotTextPreview element
      testIdCandidates :=
        testIdAttributes.filterMap fun (testIdAttribute, name) =>
          (metadata name).map (testIdAttribute, ·) }

end TaskTwin.Capture

namespace TaskTwin.Capture

open Text Schema Privacy
open TaskTwin.Locator (normalizeBlanks LocatorBundle ElementLocator
  parseLocatorBundle)

def maxInputValueLength : Nat := 2048

def maxControlValueLength : Nat := 512

/-- What is stored under a policy. -/
inductive Captured (Content : Type) where
  | allow (content : Content)
  | mask
  | block
  deriving DecidableEq, Repr

def Captured.policy
    {Content : Type} :
    Captured Content → PrivacyPolicy
  | .allow _ => .allow
  | .mask => .mask
  | .block => .block

structure CapturedText where
  value : JsString
  truncated : Bool
  deriving DecidableEq, Repr

structure CapturedSelection where
  value : JsString
  label : JsString
  truncated : Bool
  deriving DecidableEq, Repr

/-- A radio button is checked when it is captured. -/
structure CapturedRadio where
  value : Option JsString
  truncated : Bool
  deriving DecidableEq, Repr

inductive EventPayload where
  | click
  | textInput (content : Captured CapturedText)
  | select (content : Captured CapturedSelection)
  | checkbox (checked : Captured Bool)
  | radio (content : Captured CapturedRadio)
  deriving DecidableEq, Repr

/-- `boundedControlValue`. -/
def boundedControlValue (value : JsString) : CapturedText :=
  { value := (normalizeBlanks value).take maxControlValueLength
    truncated := maxControlValueLength < (normalizeBlanks value).length }

def sanitizeCapturedValue
    (value : JsString)
    (decision : PrivacyDecision)
    (maximum : Nat) :
    Captured CapturedText :=
  match decision.policy with
  | .block => .block
  | .mask => .mask
  | .allow =>
      .allow
        { value := value.take maximum
          truncated := maximum < value.length }

def selectPayload
    (value : JsString)
    (selectedLabel : Option JsString)
    (decision : PrivacyDecision) :
    Captured CapturedSelection :=
  let bounded := boundedControlValue value
  let label := boundedControlValue (selectedLabel.getD [])
  let sanitizedValue :=
    sanitizeCapturedValue bounded.value decision maxControlValueLength
  let sanitizedLabel :=
    sanitizeCapturedValue label.value decision maxControlValueLength
  match sanitizedValue, sanitizedLabel with
  | .allow sanitizedValue, .allow sanitizedLabel =>
      .allow
        { value := sanitizedValue.value
          label := sanitizedLabel.value
          truncated :=
            bounded.truncated || label.truncated || sanitizedValue.truncated ||
              sanitizedLabel.truncated }
  | _, _ => if decision.policy = .mask then .mask else .block

def checkboxPayload (checked : Bool) (decision : PrivacyDecision) : Captured Bool :=
  match decision.policy with
  | .allow => .allow checked
  | .mask => .mask
  | .block => .block

def radioPayload
    (value : JsString)
    (decision : PrivacyDecision) :
    Captured CapturedRadio :=
  let bounded := boundedControlValue value
  match
    sanitizeCapturedValue bounded.value decision maxControlValueLength with
  | .allow sanitized =>
      .allow
        { value :=
            if sanitized.value.isEmpty then none else some sanitized.value
          truncated := bounded.truncated || sanitized.truncated }
  | .mask => .mask
  | .block => .block

inductive PageEvent where
  /-- A click, whose target may belong to a control that `change` is for. -/
  | click (onChangeControl : Bool)
  | input
  | change
  deriving DecidableEq, Repr

/-- `SUPPORTED_TEXT_INPUT_TYPES`. -/
def supportedTextInputTypes : List InputType :=
  [.email, .number, .password, .search, .tel, .text, .url]

variable (unicode : Unicode)

/-- `button, a[href], input, [role="button"], [role="link"]`. -/
def isActionSelected (element : PageElement) : Bool :=
  element.lowerTagName unicode == js "button" ||
    (element.lowerTagName unicode == js "a" &&
      (element.getAttribute "href").isSome) ||
    element.lowerTagName unicode == js "input" ||
    element.getAttribute "role" == some (js "button") ||
    element.getAttribute "role" == some (js "link")

/-- `findActionableElement` takes the element. -/
def isActionable (element : PageElement) : Bool :=
  isActionSelected unicode element &&
    element.getAttribute "aria-disabled" != some (js "true") &&
    match element.interface with
    | .button disabled => !disabled
    | .input type _ _ disabled =>
        decide (type ∈ [.button, .image, .reset, .submit]) && !disabled
    | .other isHtml => isHtml
    | _ => true

/-- The payload for an event; `none` when the recorder does not handle it. -/
def capturePayload
    (event : PageEvent)
    (element : PageElement)
    (decision : PrivacyDecision) :
    Option EventPayload :=
  match event with
  | .click onChangeControl =>
      if onChangeControl || !isActionable unicode element then none
      else some .click
  | .input =>
      match element.interface with
      | .input type value _ _ =>
          if type ∈ supportedTextInputTypes then
            some
              (.textInput
                (sanitizeCapturedValue value decision maxInputValueLength))
          else none
      | _ => none
  | .change =>
      match element.interface with
      | .select multiple value selectedLabel =>
          if multiple then none
          else some (.select (selectPayload value selectedLabel decision))
      | .input .checkbox _ checked _ =>
          some (.checkbox (checkboxPayload checked decision))
      | .input .radio value checked _ =>
          if checked then some (.radio (radioPayload value decision)) else none
      | _ => none

/-- The recorder builds a candidate for the event. -/
def isHandled (event : PageEvent) (element : PageElement) : Bool :=
  match event with
  | .click onChangeControl => !onChangeControl && isActionable unicode element
  | .input =>
      match element.interface with
      | .input type .. => decide (type ∈ supportedTextInputTypes)
      | _ => false
  | .change =>
      match element.interface with
      | .select multiple .. => !multiple
      | .input .checkbox .. => true
      | .input .radio _ checked _ => checked
      | _ => false

structure RecordingEventCandidate where
  occurredAt : JsString
  target : RecordingTargetSnapshot
  locatorBundle : LocatorBundle
  privacyDecision : PrivacyDecision
  payload : EventPayload

def decidePrivacy
    (element : PageElement)
    (settings : PrivacySettings) :
    Option PrivacyDecision :=
  (createPrivacyClassificationInput unicode element).bind fun input =>
    classifyPrivacy unicode input settings

/-- What `RecordingEventCandidateSchema.parse` is called with. -/
def captureCandidate
    (event : PageEvent)
    (element : PageElement)
    (occurredAt : JsString)
    (locatorBundle : LocatorBundle)
    (settings : PrivacySettings) :
    Option RecordingEventCandidate := do
  let privacyDecision ← decidePrivacy unicode element settings
  let payload ← capturePayload unicode event element privacyDecision
  let target ← createTargetSnapshot unicode element
  return { occurredAt, target, locatorBundle, privacyDecision, payload }

def locatorTextValues : ElementLocator → List JsString
  | .testId value _ => [value]
  | .role role name _ => role :: name.toList
  | .label value _ => [value]
  | .text value _ => [value]
  | .placeholder value _ => [value]
  | .css selector => [selector]

def sensitivityText : Sensitivity → String
  | .isPublic => "public"
  | .general => "general"
  | .personal => "personal"
  | .authentication => "authentication"
  | .financial => "financial"
  | .identity => "identity"
  | .health => "health"
  | .unknownSensitive => "unknown-sensitive"

def policyText : PrivacyPolicy → String
  | .allow => "allow"
  | .mask => "mask"
  | .block => "block"

/-- The issues that `validatePrivacyPolicy` adds. -/
inductive CandidateIssue where
  | requiredPolicy (sensitivity : Sensitivity) (policy : PrivacyPolicy)
  | allowPolicy (sensitivity : Sensitivity)
  | personalPolicy
  | payloadPolicy
  | weakerSensitivity
  | weakerPolicy
  | hardLiteral
  | personalLiteral
  | targetLiteral
  | locatorLiteral
  deriving DecidableEq, Repr

def CandidateIssue.path : CandidateIssue → List String
  | .requiredPolicy .. => ["privacyDecision", "policy"]
  | .allowPolicy _ => ["privacyDecision", "policy"]
  | .personalPolicy => ["privacyDecision", "policy"]
  | .payloadPolicy => ["payload", "capturePolicy"]
  | .weakerSensitivity => ["privacyDecision", "sensitivity"]
  | .weakerPolicy => ["privacyDecision", "policy"]
  | .hardLiteral => ["payload"]
  | .personalLiteral => ["payload"]
  | .targetLiteral => ["target"]
  | .locatorLiteral => ["locatorBundle"]

def CandidateIssue.message : CandidateIssue → String
  | .requiredPolicy sensitivity policy =>
      "The " ++ sensitivityText sensitivity ++ " sensitivity requires the " ++
        policyText policy ++ " policy."
  | .allowPolicy sensitivity =>
      "The " ++ sensitivityText sensitivity ++
        " sensitivity requires the allow policy."
  | .personalPolicy => "Personal data may only use the allow or mask policy."
  | .payloadPolicy => "Payload policy must match the privacy decision."
  | .weakerSensitivity =>
      "Declared sensitivity must not weaken deterministic target " ++
        "classification."
  | .weakerPolicy =>
      "Declared policy must not weaken deterministic target classification."
  | .hardLiteral =>
      "Allowed payloads must not contain authentication, financial, or " ++
        "identity literals."
  | .personalLiteral =>
      "Personal literals require an explicit personal allow decision."
  | .targetLiteral => "Target metadata must not contain a sensitive literal."
  | .locatorLiteral => "Locator metadata must not contain a sensitive literal."

/-- The policy that a declared sensitivity requires. -/
def requiredPolicy : Sensitivity → Option PrivacyPolicy
  | .authentication => some .block
  | .financial => some .block
  | .identity => some .block
  | .health => some .block
  | .unknownSensitive => some .mask
  | _ => none

/-- A public or a general element. -/
def isOrdinary (sensitivity : Sensitivity) : Bool :=
  sensitivity == .isPublic || sensitivity == .general

/-- The policy of the payload; `none` for a click. -/
def EventPayload.policy? : EventPayload → Option PrivacyPolicy
  | .click => none
  | .textInput content => some content.policy
  | .select content => some content.policy
  | .checkbox checked => some checked.policy
  | .radio content => some content.policy

/-- `allowedPayloadValues`. -/
def EventPayload.allowedValues : EventPayload → List JsString
  | .textInput (.allow content) => [content.value]
  | .select (.allow content) => [content.value, content.label]
  | .radio (.allow content) => content.value.toList
  | _ => []

/-- The metadata of a snapshot that the schema classifies. -/
def targetClassificationInput
    (target : RecordingTargetSnapshot) :
    PrivacyClassificationInput :=
  { tagName := target.tagName
    inputType := target.inputType
    autocomplete := none
    name := target.name
    id := target.id
    labelText := target.labelText
    accessibleName := target.accessibleName
    placeholder := target.placeholder
    role := target.role }

def policyRank : PrivacyPolicy → Nat
  | .allow => 0
  | .mask => 1
  | .block => 2

/-- The texts of a snapshot that must not have sensitive literals. -/
def targetValues (target : RecordingTargetSnapshot) : List JsString :=
  [target.id, target.name, target.labelText, target.accessibleName,
      target.placeholder, target.textPreview].reduceOption ++
    target.testIdCandidates.map Prod.snd

/-- `none` when the classification of the target throws. -/
def validatePrivacyPolicy
    (candidate : RecordingEventCandidate) :
    Option (List CandidateIssue) := do
  let { sensitivity, policy, .. } := candidate.privacyDecision
  let requiredIssues :=
    match requiredPolicy sensitivity with
    | some required =>
        if policy ≠ required then [.requiredPolicy sensitivity required] else []
    | none => []
  let allowIssues :=
    if isOrdinary sensitivity && policy != .allow then
      [.allowPolicy sensitivity]
    else []
  let personalIssues :=
    if sensitivity = .personal ∧ policy ≠ .allow ∧ policy ≠ .mask then
      [.personalPolicy]
    else []
  let payloadIssues :=
    if candidate.payload ≠ .click ∧
        candidate.payload.policy? ≠ some policy then
      [.payloadPolicy]
    else []
  let independentlyClassifiedTarget ←
    classifyPrivacy unicode (targetClassificationInput candidate.target)
      defaultPrivacySettings
  let independentlyRequiredPolicy :=
    (requiredPolicy independentlyClassifiedTarget.sensitivity).getD .allow
  let sensitivityIssues :=
    if !isOrdinary independentlyClassifiedTarget.sensitivity &&
        isOrdinary sensitivity then
      [.weakerSensitivity]
    else []
  let policyIssues :=
    if policyRank policy < policyRank independentlyRequiredPolicy then
      [.weakerPolicy]
    else []
  let literalKinds :=
    candidate.payload.allowedValues.flatMap detectSensitiveLiteralKinds
  let hardIssues :=
    if .authentication ∈ literalKinds ∨ .financialOrIdentity ∈ literalKinds then
      [.hardLiteral]
    else []
  let literalIssues :=
    if .personal ∈ literalKinds ∧
        (sensitivity ≠ .personal ∨ policy ≠ .allow) then
      [.personalLiteral]
    else []
  let targetIssues :=
    if (targetValues candidate.target).any containsSensitiveLiteral then
      [.targetLiteral]
    else []
  let locatorIssues :=
    if (candidate.locatorBundle.candidates.flatMap fun candidate =>
          locatorTextValues candidate.locator).any containsSensitiveLiteral then
      [.locatorLiteral]
    else []
  return requiredIssues ++ allowIssues ++ personalIssues ++ payloadIssues ++
    sensitivityIssues ++ policyIssues ++ hardIssues ++ literalIssues ++
    targetIssues ++ locatorIssues

/-- The issues of a candidate whose parts parse. -/
def candidateIssues
    (candidate : RecordingEventCandidate) :
    Option (List CandidateIssue) := do
  guard (isDateTime candidate.occurredAt)
  let target ← parseTargetSnapshot candidate.target
  let locatorBundle ← parseLocatorBundle candidate.locatorBundle
  guard (isPrivacyDecision candidate.privacyDecision)
  validatePrivacyPolicy unicode { candidate with target, locatorBundle }

/--
The schema rejects a candidate because the decision is weaker than what the
snapshot calls for.
-/
def IsRejectedAsWeaker (candidate : RecordingEventCandidate) : Prop :=
  ∃ issues,
    candidateIssues unicode candidate = some issues ∧
      (.weakerSensitivity ∈ issues ∨ .weakerPolicy ∈ issues)

end TaskTwin.Capture

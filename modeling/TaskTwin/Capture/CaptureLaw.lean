import TaskTwin.Capture.Metadata
import TaskTwin.Privacy.Signals

/-!
# Capture and schema

The recorder decides on what it reads of an element, the schema of candidates
on what the snapshot has of it.  The schema finds a decision too weak where the
snapshot has a label or a name that the recorder did not read, or lacks what
made an element personal.
-/

namespace TaskTwin.Capture

open Text Schema Privacy
open TaskTwin.Locator (LocatorBundle parseLocatorBundle)

/-- A decision is weaker than what a sensitivity calls for. -/
def IsWeaker
    (settings : PrivacySettings)
    (declared required : Sensitivity) :
    Prop :=
  (isOrdinary required = false ∧ isOrdinary declared = true) ∨
    policyRank (resolvePrivacyPolicy settings declared) <
      policyRank ((requiredPolicy required).getD .allow)

theorem isWeaker_iff
    {settings : PrivacySettings}
    {declared required : Sensitivity} :
    IsWeaker settings declared required ↔
      (required ∈ blockedSensitivities ∧ declared ∉ blockedSensitivities) ∨
        (isOrdinary required = false ∧ isOrdinary declared = true) ∨
        (required = .unknownSensitive ∧ declared = .personal ∧
          settings.personalDataPolicy = .allow) := by
  have isChoice := settings.isChoice
  unfold IsWeaker
  cases isPolicy : settings.personalDataPolicy with
  | block => exact absurd isPolicy isChoice
  | allow =>
      cases required <;> cases declared <;>
        simp [blockedSensitivities, isOrdinary, policyRank,
          resolvePrivacyPolicy, requiredPolicy, isPolicy]
  | mask =>
      cases required <;> cases declared <;>
        simp [blockedSensitivities, isOrdinary, policyRank,
          resolvePrivacyPolicy, requiredPolicy, isPolicy]

variable (unicode : Unicode)

/-- The issues of the schema say whether a decision is weaker. -/
theorem validatePrivacyPolicy_weaker_iff
    (candidate : RecordingEventCandidate)
    {settings : PrivacySettings}
    (isResolved :
      candidate.privacyDecision.policy =
        resolvePrivacyPolicy settings candidate.privacyDecision.sensitivity)
    (isParsed :
      parseClassificationInput (targetClassificationInput candidate.target) =
        some (targetClassificationInput candidate.target)) :
    (∃ issues,
      validatePrivacyPolicy unicode candidate = some issues ∧
        (.weakerSensitivity ∈ issues ∨ .weakerPolicy ∈ issues)) ↔
      IsWeaker settings candidate.privacyDecision.sensitivity
        (classifyBase unicode
          (targetClassificationInput candidate.target)).sensitivity := by
  obtain ⟨classified, isClassified, isSensitivity, -, -⟩ :=
    classifyPrivacy_of_parse unicode isParsed defaultPrivacySettings
  rw [← isSensitivity]
  unfold validatePrivacyPolicy IsWeaker
  rw [← isResolved]
  simp only [isClassified, Option.pure_def, Option.bind_eq_bind,
    Option.bind_some, Option.some.injEq, exists_eq_left', List.mem_append,
    List.mem_ite_nil_right]
  cases requiredPolicy candidate.privacyDecision.sensitivity with
  | none => simp
  | some required =>
      by_cases isRequired : candidate.privacyDecision.policy ≠ required
      · simp [isRequired]
      · simp [isRequired]

variable {unicode}

/-- A decision on some metadata, against a snapshot without literals. -/
theorem isWeaker_metadata_iff
    {settings : PrivacySettings}
    {captured stored : PrivacyClassificationInput}
    (harmless : hasSensitiveLiteral stored = false) :
    IsWeaker settings (classifyBase unicode captured).sensitivity
        (classifyBase unicode stored).sensitivity ↔
      (speaksOfBlocked unicode stored = true ∧
          speaksOfBlocked unicode captured = false) ∨
        (isUnremarkable unicode stored = false ∧
          isUnremarkable unicode captured = true) ∨
        (settings.personalDataPolicy = .allow ∧
          speaksOf unicode stored .unknownSensitive = true ∧
          speaksOf unicode stored .personal = false ∧
          speaksOfBlocked unicode captured = false ∧
          speaksOf unicode captured .personal = true) := by
  have sameOrdinary (input : PrivacyClassificationInput) :
      isOrdinary (classifyBase unicode input).sensitivity =
        isUnremarkable unicode input := by
    rw [Bool.eq_iff_iff, ← ordinary_iff, isOrdinary, Bool.or_eq_true,
      beq_iff_eq, beq_iff_eq]
  rw [isWeaker_iff, mem_blocked_iff, mem_blocked_iff, sameOrdinary,
    sameOrdinary, eq_unknownSensitive_iff, eq_personal_iff, harmless]
  cases speaksOfBlocked unicode stored with
  | false => simp [and_comm, and_assoc, and_left_comm]
  | true =>
      cases speaksOfBlocked unicode captured with
      | false => simp
      | true => simp

/-- A text in which a rule for all metadata finds one of its terms. -/
def ruleFinds
    (unicode : Unicode)
    (rule : PrivacyRule)
    (text : JsString) :
    Bool :=
  rule.fields.isNone &&
    rule.terms.any fun term =>
      includes (normalize unicode text) (normalize unicode (js term))

/-- The texts of a snapshot that the recorder may not have read. -/
def addedTexts (element : PageElement) : List JsString :=
  (snapshotLabel element).toList ++ (snapshotName element).toList

theorem harmless_inputType
    (element : PageElement)
    (value : JsString)
    (isType : snapshotInputType element = some value) :
    containsSensitiveLiteral value = false := by
  unfold snapshotInputType at isType
  split at isType
  case h_2 => cases isType
  case h_1 type _ _ _ _ =>
    rw [← Option.some.inj isType]
    cases type <;> decide +kernel

variable (unicode) in
theorem hasSensitiveLiteral_snapshotMetadata (element : PageElement) :
    hasSensitiveLiteral (snapshotMetadata unicode element) = false := by
  rw [hasSensitiveLiteral, List.any_eq_false]
  intro field _ isLiteral
  obtain ⟨value, isValue, literal⟩ := (Option.any_eq_true _ _).mp isLiteral
  have isHarmless : containsSensitiveLiteral value = false := by
    cases field with
    | inputType => exact harmless_inputType element value isValue
    | autocomplete => cases isValue
    | name => exact (keptAll_attribute element "name").harmless value isValue
    | id => exact (keptAll_attribute element "id").harmless value isValue
    | labelText => exact (keptAll_label element).harmless value isValue
    | accessibleName => exact (keptAll_name element).harmless value isValue
    | placeholder => exact (keptAll_placeholder element).harmless value isValue
    | role => exact (keptAll_attribute element "role").harmless value isValue
  rw [isHarmless] at literal
  cases literal

variable {element : PageElement} {value : JsString} {rule : PrivacyRule}

theorem readAttribute_of_kept
    {name : String}
    {value : JsString}
    (isKept : keptAttribute element name = some value) :
    readAttribute element name = some value :=
  (Option.filter_eq_some_iff.mp isKept).1

theorem get_placeholder
    (isStored : snapshotPlaceholder element = some value) :
    (capturedMetadata unicode element).placeholder = some value := by
  unfold snapshotPlaceholder PageElement.isInput at isStored
  unfold capturedMetadata
  cases isInterface : element.interface with
  | input type given checked disabled =>
      rw [isInterface, if_pos rfl,
        normalizePersistedText_eq positive_maxTargetMetadataLength] at isStored
      exact (Option.filter_eq_some_iff.mp isStored).1
  | _ =>
      rw [isInterface, if_neg Bool.false_ne_true] at isStored
      cases isStored

theorem get_role
    (isStored : keptAttribute element "role" = some value) :
    (capturedMetadata unicode element).role = some value := by
  obtain ⟨explicit, isExplicit, rfl⟩ :=
    Option.map_eq_some_iff.mp (readAttribute_of_kept isStored)
  have isRole : implicitRole element = some explicit := by
    rw [implicitRole, isExplicit]
  exact congrArg (Option.map trimText) isRole

/-- Other texts of the snapshot are texts that the recorder has read. -/
theorem get_capturedMetadata
    {field : MetadataField}
    (isOther : field ≠ .labelText ∧ field ≠ .accessibleName)
    {value : JsString}
    (isStored : (snapshotMetadata unicode element).get field = some value) :
    (capturedMetadata unicode element).get field = some value := by
  cases field with
  | inputType =>
      have isType : snapshotInputType element = some value := isStored
      have isTypeToo : inputType element = some value := by
        unfold snapshotInputType at isType
        unfold inputType
        cases isInterface : element.interface with
        | input type given checked disabled =>
            rw [isInterface] at isType
            exact isType
        | _ =>
            rw [isInterface] at isType
            cases isType
      exact isTypeToo
  | autocomplete => cases isStored
  | name => exact readAttribute_of_kept isStored
  | id => exact readAttribute_of_kept isStored
  | labelText => exact absurd rfl isOther.1
  | accessibleName => exact absurd rfl isOther.2
  | placeholder => exact get_placeholder isStored
  | role => exact get_role isStored

/-- A rule with fields of its own is not about labels and names. -/
theorem fields_of_rule
    (isRule : rule ∈ privacyRules)
    {field : MetadataField}
    (isRead : field ∈ rule.fields.getD allMetadataFields)
    (isAdded : field = .labelText ∨ field = .accessibleName) :
    rule.fields.isNone = true := by
  have ofRule :
      ∀ rule ∈ privacyRules, ∀ fields ∈ rule.fields,
        .labelText ∉ fields ∧ .accessibleName ∉ fields := by
    decide
  cases isFields : rule.fields with
  | none => rfl
  | some fields =>
      obtain ⟨noLabel, noName⟩ := ofRule rule isRule fields isFields
      rw [isFields, Option.getD_some] at isRead
      rcases isAdded with rfl | rfl
      · exact absurd isRead noLabel
      · exact absurd isRead noName

/-- What a rule finds in a snapshot, it finds in an added text or before. -/
theorem matchesRule_snapshotMetadata
    (isRule : rule ∈ privacyRules)
    (isMatch :
      matchesRule unicode (snapshotMetadata unicode element) rule = true) :
    matchesRule unicode (capturedMetadata unicode element) rule = true ∨
      ∃ text ∈ addedTexts element, ruleFinds unicode rule text = true := by
  obtain ⟨field, isRead, isFound⟩ := List.any_eq_true.mp isMatch
  obtain ⟨value, isStored, isTerm⟩ := (Option.any_eq_true _ _).mp isFound
  by_cases isAdded : field = .labelText ∨ field = .accessibleName
  · right
    refine ⟨value, ?_, ?_⟩
    · rcases isAdded with rfl | rfl
      · exact List.mem_append_left _ (Option.mem_toList.mpr isStored)
      · exact List.mem_append_right _ (Option.mem_toList.mpr isStored)
    · rw [ruleFinds, fields_of_rule isRule isRead isAdded, isTerm]
      rfl
  · left
    apply List.any_eq_true.mpr
    refine ⟨field, isRead, ?_⟩
    rw [get_capturedMetadata (not_or.mp isAdded) isStored, Option.any_some]
    exact isTerm

theorem matchesRule_of_addedText
    {text : JsString}
    (isAdded : text ∈ addedTexts element)
    (isFound : ruleFinds unicode rule text = true) :
    matchesRule unicode (snapshotMetadata unicode element) rule = true := by
  obtain ⟨forAll, isTerm⟩ := (Bool.and_eq_true _ _).mp isFound
  have allFields : rule.fields = none := by simpa using forAll
  apply List.any_eq_true.mpr
  rcases List.mem_append.mp isAdded with isLabel | isName
  · refine ⟨.labelText, by simp [allFields, allMetadataFields], ?_⟩
    have isStored : snapshotLabel element = some text :=
      Option.mem_toList.mp isLabel
    exact (congrArg (Option.any _) isStored).trans isTerm
  · refine ⟨.accessibleName, by simp [allFields, allMetadataFields], ?_⟩
    have isStored : snapshotName element = some text :=
      Option.mem_toList.mp isName
    exact (congrArg (Option.any _) isStored).trans isTerm

variable (unicode)

/--
What the recorder read of an element calls for as much as the label and the
name of the snapshot do, and what it read alone does not make it personal.
-/
structure CaptureCovers
    (element : PageElement)
    (settings : PrivacySettings) :
    Prop where
  blocked :
    ∀ rule ∈ privacyRules, rule.sensitivity ∈ blockedSensitivities →
      ∀ text ∈ addedTexts element, ruleFinds unicode rule text = true →
        speaksOfBlocked unicode (capturedMetadata unicode element) = true
  noticed :
    ∀ rule ∈ privacyRules,
      rule.sensitivity ∈ [.personal, .unknownSensitive] →
      ∀ text ∈ addedTexts element, ruleFinds unicode rule text = true →
        isUnremarkable unicode (capturedMetadata unicode element) = false
  masked :
    settings.personalDataPolicy = .allow →
    speaksOf unicode (capturedMetadata unicode element) .personal = true →
    speaksOf unicode (snapshotMetadata unicode element) .unknownSensitive =
      true →
    speaksOfBlocked unicode (capturedMetadata unicode element) = true ∨
      speaksOf unicode (snapshotMetadata unicode element) .personal = true

variable {unicode}

theorem speaksOf_iff
    {input : PrivacyClassificationInput}
    {sensitivity : Sensitivity} :
    speaksOf unicode input sensitivity = true ↔
      ∃ rule ∈ privacyRules,
        rule.sensitivity = sensitivity ∧ matchesRule unicode input rule = true := by
  simp [speaksOf, and_comm]

theorem speaksOfBlocked_iff {input : PrivacyClassificationInput} :
    speaksOfBlocked unicode input = true ↔
      ∃ rule ∈ privacyRules,
        rule.sensitivity ∈ blockedSensitivities ∧
          matchesRule unicode input rule = true := by
  rw [speaksOfBlocked, List.any_eq_true]
  constructor
  · rintro ⟨sensitivity, isBlocked, speaks⟩
    obtain ⟨rule, isRule, rfl, isMatch⟩ := speaksOf_iff.mp speaks
    exact ⟨rule, isRule, isBlocked, isMatch⟩
  · rintro ⟨rule, isRule, isBlocked, isMatch⟩
    exact
      ⟨rule.sensitivity, isBlocked,
        speaksOf_iff.mpr ⟨rule, isRule, rfl, isMatch⟩⟩

/-- What is remarkable speaks of something, or has a sensitive literal. -/
theorem isUnremarkable_eq_false_iff {input : PrivacyClassificationInput} :
    isUnremarkable unicode input = false ↔
      speaksOfBlocked unicode input = true ∨
        (∃ rule ∈ privacyRules,
          rule.sensitivity ∈ [.personal, .unknownSensitive] ∧
            matchesRule unicode input rule = true) ∨
        hasSensitiveLiteral input = true := by
  have ofRules :
      (∃ rule ∈ privacyRules,
          rule.sensitivity ∈ [.personal, .unknownSensitive] ∧
            matchesRule unicode input rule = true) ↔
        speaksOf unicode input .personal = true ∨
          speaksOf unicode input .unknownSensitive = true := by
    rw [speaksOf_iff, speaksOf_iff, ← exists_or]
    apply exists_congr
    intro rule
    simp only [List.mem_cons, List.not_mem_nil, or_false]
    tauto
  rw [ofRules]
  simp only [isUnremarkable, Bool.and_eq_false_iff, Bool.not_eq_false']
  tauto

/-- The decision on an element is not weaker exactly if the texts are covered. -/
theorem not_isWeaker_iff
    {element : PageElement}
    {settings : PrivacySettings} :
    ¬IsWeaker settings
        (classifyBase unicode (capturedMetadata unicode element)).sensitivity
        (classifyBase unicode (snapshotMetadata unicode element)).sensitivity ↔
      CaptureCovers unicode element settings := by
  have harmless := hasSensitiveLiteral_snapshotMetadata unicode element
  rw [isWeaker_metadata_iff harmless]
  constructor
  · intro notWeaker
    obtain ⟨notBlocked, notWeaker⟩ := not_or.mp notWeaker
    obtain ⟨notNoticed, notMasked⟩ := not_or.mp notWeaker
    constructor
    case blocked =>
      intro rule isRule isBlocked text isAdded isFound
      by_contra silent
      apply notBlocked
      refine ⟨?_, by simpa using silent⟩
      rw [speaksOfBlocked_iff]
      exact
        ⟨rule, isRule, isBlocked, matchesRule_of_addedText isAdded isFound⟩
    case noticed =>
      intro rule isRule isSensitive text isAdded isFound
      by_contra unremarkable
      apply notNoticed
      refine ⟨?_, by simpa using unremarkable⟩
      rw [isUnremarkable_eq_false_iff]
      exact
        Or.inr (Or.inl
          ⟨rule, isRule, isSensitive, matchesRule_of_addedText isAdded isFound⟩)
    case masked =>
      intro isAllowed isPersonal isUnknown
      by_contra notCovered
      obtain ⟨silent, notPersonal⟩ := not_or.mp notCovered
      exact
        notMasked
          ⟨isAllowed, isUnknown, by simpa using notPersonal,
            by simpa using silent, isPersonal⟩
  · rintro covers (⟨blocked, silent⟩ | ⟨remarkable, unremarkable⟩ |
      ⟨isAllowed, isUnknown, notPersonal, silent, isPersonal⟩)
    · obtain ⟨rule, isRule, isBlocked, isMatch⟩ := speaksOfBlocked_iff.mp blocked
      have speaks :
          speaksOfBlocked unicode (capturedMetadata unicode element) = true := by
        rcases matchesRule_snapshotMetadata isRule isMatch with
          isRead | ⟨text, isAdded, isFound⟩
        · exact speaksOfBlocked_iff.mpr ⟨rule, isRule, isBlocked, isRead⟩
        · exact covers.blocked rule isRule isBlocked text isAdded isFound
      rw [silent] at speaks
      cases speaks
    · have notUnremarkable :
          isUnremarkable unicode (capturedMetadata unicode element) = false := by
        rcases isUnremarkable_eq_false_iff.mp remarkable with
          blocked | ⟨rule, isRule, isSensitive, isMatch⟩ | literal
        · obtain ⟨rule, isRule, isBlocked, isMatch⟩ :=
            speaksOfBlocked_iff.mp blocked
          rw [isUnremarkable_eq_false_iff]
          left
          rcases matchesRule_snapshotMetadata isRule isMatch with
            isRead | ⟨text, isAdded, isFound⟩
          · exact speaksOfBlocked_iff.mpr ⟨rule, isRule, isBlocked, isRead⟩
          · exact covers.blocked rule isRule isBlocked text isAdded isFound
        · rcases matchesRule_snapshotMetadata isRule isMatch with
            isRead | ⟨text, isAdded, isFound⟩
          · rw [isUnremarkable_eq_false_iff]
            exact Or.inr (Or.inl ⟨rule, isRule, isSensitive, isRead⟩)
          · exact covers.noticed rule isRule isSensitive text isAdded isFound
        · rw [harmless] at literal
          cases literal
      rw [unremarkable] at notUnremarkable
      cases notUnremarkable
    · rcases covers.masked isAllowed isPersonal isUnknown with
        blocked | personal
      · rw [silent] at blocked
        cases blocked
      · rw [notPersonal] at personal
        cases personal

theorem isSome_capturePayload
    {event : PageEvent}
    {element : PageElement}
    (decision : PrivacyDecision) :
    (capturePayload unicode event element decision).isSome =
      isHandled unicode event element := by
  cases event with
  | click onChangeControl =>
      cases onChangeControl <;>
        cases actionable : isActionable unicode element <;>
        simp [capturePayload, isHandled, actionable]
  | input =>
      cases isInterface : element.interface with
      | input type value checked disabled =>
          by_cases isText : type ∈ supportedTextInputTypes
          · simp [capturePayload, isHandled, isInterface, isText]
          · simp [capturePayload, isHandled, isInterface, isText]
      | _ => simp [capturePayload, isHandled, isInterface]
  | change =>
      cases isInterface : element.interface with
      | select multiple value selectedLabel =>
          cases multiple <;> simp [capturePayload, isHandled, isInterface]
      | input type value checked disabled =>
          cases type <;> cases checked <;>
            simp [capturePayload, isHandled, isInterface]
      | _ => simp [capturePayload, isHandled, isInterface]

/-- What a candidate of an element has. -/
structure IsCandidate
    (unicode : Unicode)
    (element : PageElement)
    (occurredAt : JsString)
    (locatorBundle : LocatorBundle)
    (settings : PrivacySettings)
    (candidate : RecordingEventCandidate) :
    Prop where
  occurredAt : candidate.occurredAt = occurredAt
  locatorBundle : candidate.locatorBundle = locatorBundle
  target : candidate.target = capturedTarget unicode element
  sensitivity :
    candidate.privacyDecision.sensitivity =
      (classifyBase unicode (capturedMetadata unicode element)).sensitivity
  policy :
    candidate.privacyDecision.policy =
      resolvePrivacyPolicy settings candidate.privacyDecision.sensitivity
  isDecision : isPrivacyDecision candidate.privacyDecision = true

variable
  {event : PageEvent}
  {element : PageElement}
  {occurredAt : JsString}
  {locatorBundle : LocatorBundle}
  {settings : PrivacySettings}

variable (settings) in
theorem decidePrivacy_spec
    (isTagged : isAcceptedTag (element.lowerTagName unicode) = true) :
    ∃ decision,
      decidePrivacy unicode element settings = some decision ∧
        decision.sensitivity =
          (classifyBase unicode (capturedMetadata unicode element)).sensitivity ∧
        decision.policy = resolvePrivacyPolicy settings decision.sensitivity ∧
        isPrivacyDecision decision = true := by
  have isCaptured :
      createPrivacyClassificationInput unicode element =
        some (capturedMetadata unicode element) := by
    rw [createPrivacyClassificationInput_eq, if_pos isTagged]
  rw [decidePrivacy, isCaptured, Option.bind_some]
  exact
    classifyPrivacy_of_parse unicode
      (parseClassificationInput_parsed isCaptured) settings

variable (occurredAt locatorBundle settings) in
/-- A candidate is built of a handled element with a tag that is accepted. -/
theorem captureCandidate_spec
    (handled : isHandled unicode event element = true)
    (isTagged : isAcceptedTag (element.lowerTagName unicode) = true) :
    ∃ candidate,
      captureCandidate unicode event element occurredAt locatorBundle settings =
          some candidate ∧
        IsCandidate unicode element occurredAt locatorBundle settings
          candidate := by
  obtain ⟨decision, isDecided, isSensitivity, isPolicy, isDecision⟩ :=
    decidePrivacy_spec settings isTagged
  rw [← isSome_capturePayload decision, Option.isSome_iff_exists] at handled
  obtain ⟨payload, isPayload⟩ := handled
  have isTarget :
      createTargetSnapshot unicode element =
        some (capturedTarget unicode element) := by
    rw [createTargetSnapshot_eq, if_pos isTagged]
  refine
    ⟨{ occurredAt
       target := capturedTarget unicode element
       locatorBundle
       privacyDecision := decision
       payload },
      ?_, ?_⟩
  · simp only [captureCandidate, isDecided, isPayload, isTarget,
      Option.pure_def, Option.bind_eq_bind, Option.bind_some]
  · exact ⟨rfl, rfl, rfl, isSensitivity, isPolicy, isDecision⟩

theorem handled_of_captureCandidate
    {candidate : RecordingEventCandidate}
    (isBuilt :
      captureCandidate unicode event element occurredAt locatorBundle settings =
        some candidate) :
    isHandled unicode event element = true ∧
      isAcceptedTag (element.lowerTagName unicode) = true := by
  simp only [captureCandidate, Option.pure_def, Option.bind_eq_bind,
    Option.bind_eq_some_iff] at isBuilt
  obtain ⟨decision, -, payload, isPayload, target, isTarget, -⟩ := isBuilt
  constructor
  · rw [← isSome_capturePayload decision, isPayload, Option.isSome_some]
  · rw [createTargetSnapshot_eq] at isTarget
    by_contra notTagged
    rw [if_neg notTagged] at isTarget
    cases isTarget

/-- What the schema needs to get to the classification of a candidate. -/
theorem isRejectedAsWeaker_iff
    {candidate : RecordingEventCandidate}
    (isTagged : isAcceptedTag (element.lowerTagName unicode) = true)
    (isCandidate :
      IsCandidate unicode element occurredAt locatorBundle settings candidate) :
    IsRejectedAsWeaker unicode candidate ↔
      isDateTime occurredAt = true ∧
        (parseLocatorBundle locatorBundle).isSome = true ∧
        ¬CaptureCovers unicode element settings := by
  obtain ⟨isTime, isBundle, isTarget, isSensitivity, isPolicy, isDecision⟩ :=
    isCandidate
  have isParsedTarget :
      parseTargetSnapshot candidate.target = some candidate.target := by
    rw [isTarget]
    exact parse_capturedTarget unicode isTagged
  rw [← not_isWeaker_iff, not_not, IsRejectedAsWeaker, candidateIssues,
    isParsedTarget, isTime, isBundle, isDecision]
  by_cases dated : isDateTime occurredAt = true
  · cases isParsedBundle : parseLocatorBundle locatorBundle with
    | none => simp [dated]
    | some parsedBundle =>
        have classified :=
          validatePrivacyPolicy_weaker_iff unicode
            { candidate with locatorBundle := parsedBundle } isPolicy
            (by
              rw [isTarget]
              exact parse_snapshotMetadata unicode isTagged)
        simp only [isSensitivity, isTarget] at classified
        simp only [dated, guard_true, Option.pure_def, Option.bind_eq_bind,
          Option.bind_some, Option.isSome_some, true_and, isTarget]
        exact classified
  · simp [dated, guard, failure]

variable (unicode event element occurredAt locatorBundle settings)

/-- The schema does not find the candidate of an event too weak. -/
def AcceptsCapture : Prop :=
  ∀ candidate,
    captureCandidate unicode event element occurredAt locatorBundle settings =
      some candidate →
    ¬IsRejectedAsWeaker unicode candidate

/-- The schema finds no candidate of the recorder too weak. -/
def CaptureLaw : Prop :=
  ∀ (unicode : Unicode) (event : PageEvent) (element : PageElement)
    (occurredAt : JsString) (locatorBundle : LocatorBundle)
    (settings : PrivacySettings),
    AcceptsCapture unicode event element occurredAt locatorBundle settings

variable {unicode event element occurredAt locatorBundle settings}

theorem covers_of_accepts
    (accepts :
      AcceptsCapture unicode event element occurredAt locatorBundle settings)
    (handled : isHandled unicode event element = true)
    (isTagged : isAcceptedTag (element.lowerTagName unicode) = true)
    (dated : isDateTime occurredAt = true)
    (isBundle : (parseLocatorBundle locatorBundle).isSome = true) :
    CaptureCovers unicode element settings := by
  obtain ⟨candidate, isBuilt, isCandidate⟩ :=
    captureCandidate_spec occurredAt locatorBundle settings handled isTagged
  by_contra notCovered
  apply accepts candidate isBuilt
  rw [isRejectedAsWeaker_iff isTagged isCandidate]
  exact ⟨dated, isBundle, notCovered⟩

variable (unicode event element occurredAt locatorBundle settings)

/-- The schema agrees with the recorder exactly if the texts are covered. -/
theorem capture_accepts_iff :
    AcceptsCapture unicode event element occurredAt locatorBundle settings ↔
      (isHandled unicode event element = true →
        isAcceptedTag (element.lowerTagName unicode) = true →
        isDateTime occurredAt = true →
        (parseLocatorBundle locatorBundle).isSome = true →
        CaptureCovers unicode element settings) := by
  constructor
  · exact covers_of_accepts
  · intro covers candidate isBuilt
    obtain ⟨handled, isTagged⟩ := handled_of_captureCandidate isBuilt
    obtain ⟨same, isSame, isCandidate⟩ :=
      captureCandidate_spec occurredAt locatorBundle settings handled isTagged
    obtain rfl := Option.some.inj (isBuilt.symm.trans isSame)
    rw [isRejectedAsWeaker_iff isTagged isCandidate]
    rintro ⟨dated, isBundle, notCovered⟩
    exact notCovered (covers handled isTagged dated isBundle)

/-- ASCII letters are made small. -/
def asciiUnicode : Unicode :=
  { decompose := id
    toLowerCase :=
      List.map fun symbol =>
        if CodeUnit.isUpper symbol then symbol + 32 else symbol }

/-- `<a href>Forgot password?</a>`. -/
def passwordLink : PageElement :=
  { interface := .other true
    tagName := js "A"
    getAttribute := fun name => if name = "href" then some [] else none
    firstLabel := none
    closestLabel := none
    textContent := js "Forgot password?"
    elementText := fun _ => none }

def passwordLinkBundle : LocatorBundle :=
  { primary :=
      { locator := .css (js "a")
        score := 50
        source := .css
        reasons := [.of .cssFallback, .of .uniqueMatch] }
    fallbacks := []
    confidence := .low
    generatedAt := js "2026-01-01T00:00:00Z" }

/-- The recorder does not read the text that the schema finds. -/
theorem not_captureLaw : ¬CaptureLaw := by
  intro law
  have isHandled : isHandled asciiUnicode (.click false) passwordLink = true := by
    decide +kernel
  have isTagged :
      isAcceptedTag (passwordLink.lowerTagName asciiUnicode) = true := by
    decide +kernel
  have dated : isDateTime (js "2026-01-01T00:00:00Z") = true := by
    decide +kernel
  have isBundle : (parseLocatorBundle passwordLinkBundle).isSome = true := by
    decide +kernel
  have covers :
      CaptureCovers asciiUnicode passwordLink defaultPrivacySettings :=
    covers_of_accepts
      (law asciiUnicode (.click false) passwordLink
        (js "2026-01-01T00:00:00Z") passwordLinkBundle defaultPrivacySettings)
      isHandled isTagged dated isBundle
  have isFound :
      privacyRules.any (fun rule =>
        decide (rule.sensitivity ∈ blockedSensitivities) &&
          (addedTexts passwordLink).any (ruleFinds asciiUnicode rule)) =
        true := by
    decide +kernel
  have silent :
      speaksOfBlocked asciiUnicode
          (capturedMetadata asciiUnicode passwordLink) =
        false := by
    decide +kernel
  obtain ⟨rule, isRule, isFound⟩ := List.any_eq_true.mp isFound
  obtain ⟨isBlocked, isFound⟩ := (Bool.and_eq_true _ _).mp isFound
  obtain ⟨text, isAdded, isFound⟩ := List.any_eq_true.mp isFound
  have speaks :=
    covers.blocked rule isRule (of_decide_eq_true isBlocked) text isAdded
      isFound
  rw [silent] at speaks
  cases speaks

end TaskTwin.Capture

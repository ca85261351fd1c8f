import TaskTwin.Privacy.Classification

/-!
# What metadata speaks of

The sensitivity of an element is the first in the order of priority that a rule
finds in its metadata, or what a sensitive literal or the role of the element
says.
-/

namespace TaskTwin.Privacy

open Text Schema

variable (unicode : Unicode)

/-- A rule of the sensitivity matches the metadata. -/
def speaksOf
    (input : PrivacyClassificationInput)
    (sensitivity : Sensitivity) :
    Bool :=
  privacyRules.any fun rule =>
    matchesRule unicode input rule && rule.sensitivity == sensitivity

/-- A sensitive literal is in the metadata. -/
def hasSensitiveLiteral (input : PrivacyClassificationInput) : Bool :=
  allMetadataFields.any fun field =>
    (input.get field).any containsSensitiveLiteral

/-- The sensitivities whose values are blocked. -/
def blockedSensitivities : List Sensitivity :=
  [.authentication, .financial, .identity, .health]

def speaksOfBlocked (input : PrivacyClassificationInput) : Bool :=
  blockedSensitivities.any (speaksOf unicode input)

/-- Nothing in the metadata is sensitive. -/
def isUnremarkable (input : PrivacyClassificationInput) : Bool :=
  !speaksOfBlocked unicode input && !speaksOf unicode input .personal &&
    !speaksOf unicode input .unknownSensitive && !hasSensitiveLiteral input

variable {unicode} {input : PrivacyClassificationInput}

theorem classifyAs_eq_none_iff {sensitivity : Sensitivity} :
    classifyAs (privacyRules.filter (matchesRule unicode input)) sensitivity =
        none ↔
      speaksOf unicode input sensitivity = false := by
  rw [classifyAs, speaksOf]
  split
  case isTrue isEmpty =>
    rw [List.isEmpty_iff, List.filter_filter, List.filter_eq_nil_iff] at isEmpty
    simpa [List.any_eq_false, and_comm] using isEmpty
  case isFalse isFound =>
    rw [List.isEmpty_iff, List.filter_filter, List.filter_eq_nil_iff] at isFound
    simpa [List.any_eq_false, and_comm] using isFound

theorem sensitivity_classifyAs
    {found : List PrivacyRule}
    {sensitivity : Sensitivity}
    {classification : Classification}
    (classified : classifyAs found sensitivity = some classification) :
    classification.sensitivity = sensitivity := by
  simp only [classifyAs] at classified
  split at classified
  case isTrue => cases classified
  case isFalse => rw [← Option.some.inj classified]

/-- No rule makes an element public or general. -/
theorem speaksOf_ordinary
    {sensitivity : Sensitivity}
    (isOrdinary : sensitivity = .general ∨ sensitivity = .isPublic) :
    speaksOf unicode input sensitivity = false := by
  have noRule : ∀ rule ∈ privacyRules, (rule.sensitivity == sensitivity) = false := by
    rcases isOrdinary with rfl | rfl <;> decide
  rw [speaksOf, List.any_eq_false]
  intro rule isRule
  rw [noRule rule isRule, Bool.and_false]
  exact Bool.false_ne_true

/-- The sensitivity of metadata, by what it speaks of. -/
theorem sensitivity_classifyBase :
    (classifyBase unicode input).sensitivity =
      match sensitivityPriority.find? (speaksOf unicode input) with
      | some sensitivity => sensitivity
      | none =>
          if hasSensitiveLiteral input then .unknownSensitive
          else if input.tagName = js "button" ∨ input.tagName = js "a" ∨
              input.role = some (js "button") ∨
              input.role = some (js "link") then
            .isPublic
          else .general := by
  have finds (priorities : List Sensitivity) :
      (priorities.findSome?
          (classifyAs (privacyRules.filter (matchesRule unicode input)))).map
          Classification.sensitivity =
        priorities.find? (speaksOf unicode input) := by
    induction priorities with
    | nil => rfl
    | cons sensitivity priorities inductionHypothesis =>
        rw [List.findSome?_cons, List.find?_cons]
        cases classified :
            classifyAs (privacyRules.filter (matchesRule unicode input))
              sensitivity with
        | none =>
            rw [classifyAs_eq_none_iff.mp classified]
            exact inductionHypothesis
        | some classification =>
            have speaks : speaksOf unicode input sensitivity = true := by
              by_contra silent
              rw [classifyAs_eq_none_iff.mpr (by simpa using silent)]
                at classified
              cases classified
            rw [speaks]
            exact congrArg some (sensitivity_classifyAs classified)
  rw [← finds, classifyBase]
  cases sensitivityPriority.findSome?
      (classifyAs (privacyRules.filter (matchesRule unicode input))) with
  | some classification => rfl
  | none =>
      rw [Option.map_none]
      dsimp only
      split
      case isTrue isLiteral => exact (if_pos isLiteral).symm
      case isFalse noLiteral => exact (if_neg noLiteral).symm

variable (unicode input) in
/-- The sensitivity in order of priority, by what the metadata speaks of. -/
theorem sensitivity_spec :
    (speaksOfBlocked unicode input = true ∧
        (classifyBase unicode input).sensitivity ∈ blockedSensitivities) ∨
      (speaksOfBlocked unicode input = false ∧
        speaksOf unicode input .personal = true ∧
        (classifyBase unicode input).sensitivity = .personal) ∨
      (speaksOfBlocked unicode input = false ∧
        speaksOf unicode input .personal = false ∧
        (speaksOf unicode input .unknownSensitive = true ∨
          hasSensitiveLiteral input = true) ∧
        (classifyBase unicode input).sensitivity = .unknownSensitive) ∨
      (isUnremarkable unicode input = true ∧
        ((classifyBase unicode input).sensitivity = .isPublic ∨
          (classifyBase unicode input).sensitivity = .general)) := by
  have general : speaksOf unicode input .general = false :=
    speaksOf_ordinary (Or.inl rfl)
  have isPublic : speaksOf unicode input .isPublic = false :=
    speaksOf_ordinary (Or.inr rfl)
  rw [isUnremarkable, speaksOfBlocked, sensitivity_classifyBase,
    sensitivityPriority]
  cases isAuthentication : speaksOf unicode input .authentication with
  | true => simp [isAuthentication, blockedSensitivities]
  | false =>
    cases isFinancial : speaksOf unicode input .financial with
    | true =>
        simp [isAuthentication, isFinancial,
          blockedSensitivities]
    | false =>
      cases isIdentity : speaksOf unicode input .identity with
      | true =>
          simp [isAuthentication, isFinancial, isIdentity,
            blockedSensitivities]
      | false =>
        cases isHealth : speaksOf unicode input .health with
        | true =>
            simp [isAuthentication, isFinancial, isIdentity,
              isHealth, blockedSensitivities]
        | false =>
          cases isPersonal : speaksOf unicode input .personal with
          | true =>
              simp [isAuthentication, isFinancial, isIdentity, isHealth,
                isPersonal, blockedSensitivities]
          | false =>
            cases isUnknown : speaksOf unicode input .unknownSensitive with
            | true =>
                simp [isAuthentication, isFinancial, isIdentity, isHealth,
                  isPersonal, isUnknown, blockedSensitivities]
            | false =>
              cases isLiteral : hasSensitiveLiteral input with
              | true =>
                  simp [isAuthentication, isFinancial, isIdentity, isHealth,
                    isPersonal, isUnknown, general, isPublic,
                    blockedSensitivities]
              | false =>
                  simp only [List.find?_cons, isAuthentication, isFinancial,
                    isIdentity, isHealth, isPersonal, isUnknown, general,
                    isPublic, List.find?_nil, Bool.false_eq_true,
                    if_false, blockedSensitivities]
                  refine Or.inr (Or.inr (Or.inr ⟨by simp [isAuthentication,
                    isFinancial, isIdentity, isHealth], ?_⟩))
                  split_ifs
                  · exact Or.inl rfl
                  · exact Or.inr rfl

theorem mem_blocked_iff :
    (classifyBase unicode input).sensitivity ∈ blockedSensitivities ↔
      speaksOfBlocked unicode input = true := by
  rcases sensitivity_spec unicode input with
    ⟨blocked, isBlocked⟩ | ⟨notBlocked, -, isPersonal⟩ |
      ⟨notBlocked, -, -, isUnknown⟩ | ⟨unremarkable, isOrdinary⟩
  · simp [blocked, isBlocked]
  · simp [notBlocked, isPersonal, blockedSensitivities]
  · simp [notBlocked, isUnknown, blockedSensitivities]
  · simp only [isUnremarkable, Bool.and_eq_true, Bool.not_eq_true']
      at unremarkable
    rcases isOrdinary with isOrdinary | isOrdinary <;>
      simp [unremarkable, isOrdinary, blockedSensitivities]

theorem eq_personal_iff :
    (classifyBase unicode input).sensitivity = .personal ↔
      speaksOfBlocked unicode input = false ∧
        speaksOf unicode input .personal = true := by
  rcases sensitivity_spec unicode input with
    ⟨blocked, isBlocked⟩ | ⟨notBlocked, personal, isPersonal⟩ |
      ⟨notBlocked, notPersonal, -, isUnknown⟩ | ⟨unremarkable, isOrdinary⟩
  · have notPersonal : (classifyBase unicode input).sensitivity ≠ .personal := by
      intro isPersonal
      rw [isPersonal] at isBlocked
      exact absurd isBlocked (by decide)
    simp [blocked, notPersonal]
  · simp [notBlocked, personal, isPersonal]
  · simp [notBlocked, notPersonal, isUnknown]
  · simp only [isUnremarkable, Bool.and_eq_true, Bool.not_eq_true']
      at unremarkable
    rcases isOrdinary with isOrdinary | isOrdinary <;>
      simp [unremarkable, isOrdinary]

theorem eq_unknownSensitive_iff :
    (classifyBase unicode input).sensitivity = .unknownSensitive ↔
      speaksOfBlocked unicode input = false ∧
        speaksOf unicode input .personal = false ∧
        (speaksOf unicode input .unknownSensitive = true ∨
          hasSensitiveLiteral input = true) := by
  rcases sensitivity_spec unicode input with
    ⟨blocked, isBlocked⟩ | ⟨notBlocked, personal, isPersonal⟩ |
      ⟨notBlocked, notPersonal, signal, isUnknown⟩ | ⟨unremarkable, isOrdinary⟩
  · have notUnknown :
        (classifyBase unicode input).sensitivity ≠ .unknownSensitive := by
      intro isUnknown
      rw [isUnknown] at isBlocked
      exact absurd isBlocked (by decide)
    simp [blocked, notUnknown]
  · simp [personal, isPersonal]
  · simp [notBlocked, notPersonal, signal, isUnknown]
  · simp only [isUnremarkable, Bool.and_eq_true, Bool.not_eq_true']
      at unremarkable
    rcases isOrdinary with isOrdinary | isOrdinary <;>
      simp [unremarkable, isOrdinary]

/-- What is public or general is unremarkable. -/
theorem ordinary_iff :
    (classifyBase unicode input).sensitivity = .isPublic ∨
        (classifyBase unicode input).sensitivity = .general ↔
      isUnremarkable unicode input = true := by
  rcases sensitivity_spec unicode input with
    ⟨blocked, isBlocked⟩ | ⟨-, personal, isPersonal⟩ |
      ⟨-, -, signal, isUnknown⟩ | ⟨unremarkable, isOrdinary⟩
  · have notOrdinary :
        ¬((classifyBase unicode input).sensitivity = .isPublic ∨
          (classifyBase unicode input).sensitivity = .general) := by
      rintro (isOrdinary | isOrdinary) <;>
      · rw [isOrdinary] at isBlocked
        exact absurd isBlocked (by decide)
    simp only [notOrdinary, isUnremarkable, blocked]
    simp
  · simp [isUnremarkable, personal, isPersonal]
  · rcases signal with unknown | literal
    · simp [isUnremarkable, unknown, isUnknown]
    · simp [isUnremarkable, literal, isUnknown]
  · simp [unremarkable, isOrdinary]

/-- The rules that a classification names are of its sensitivity. -/
structure NamesRules (classification : Classification) : Prop where
  nonEmpty : 1 ≤ classification.matchedRules.length
  few : classification.matchedRules.length ≤ maxPrivacyRules
  sameSensitivity :
    ∀ rule ∈ classification.matchedRules,
      rule.sensitivity = classification.sensitivity

theorem namesRules_classifyAs
    {found : List PrivacyRule}
    (isFound : found.Sublist privacyRules)
    {sensitivity : Sensitivity}
    {classification : Classification}
    (classified : classifyAs found sensitivity = some classification) :
    NamesRules classification := by
  have sameSensitivity := sensitivity_classifyAs classified
  simp only [classifyAs] at classified
  split at classified
  case isTrue => cases classified
  case isFalse nonEmpty =>
    obtain rfl := Option.some.inj classified
    have selected :
        (found.filter fun rule => rule.sensitivity == sensitivity).Sublist
          privacyRules :=
      List.filter_sublist.trans isFound
    have areRules :
        ((found.filter fun rule => rule.sensitivity == sensitivity).map
          PrivacyRule.id).isEmpty = false := by
      rw [List.isEmpty_map]
      simpa using nonEmpty
    constructor
    case nonEmpty =>
      rw [Classification.matchedRules, if_neg (by simp [areRules])]
      exact List.length_pos_of_ne_nil (List.isEmpty_eq_false_iff.mp areRules)
    case few =>
      rw [Classification.matchedRules, if_neg (by simp [areRules])]
      rw [List.length_map]
      exact selected.length_le.trans (by decide)
    case sameSensitivity =>
      rw [Classification.matchedRules, if_neg (by simp [areRules])]
      intro id isId
      obtain ⟨rule, isSelected, rfl⟩ := List.mem_map.mp isId
      have ofRule :
          ∀ rule ∈ privacyRules, rule.id.sensitivity = rule.sensitivity := by
        decide
      rw [ofRule rule (selected.subset isSelected)]
      simpa using (List.mem_filter.mp isSelected).2

theorem namesRules_classifyBase :
    NamesRules (classifyBase unicode input) := by
  unfold classifyBase
  split
  case h_1 classification isFirst =>
    obtain ⟨sensitivity, -, classified⟩ :=
      List.exists_of_findSome?_eq_some isFirst
    exact namesRules_classifyAs List.filter_sublist classified
  case h_2 =>
    split
    case isTrue => constructor <;> decide
    case isFalse =>
      dsimp only
      split_ifs
      · constructor <;> decide
      · constructor <;> decide

theorem parseMetadata_parsed
    {text parsed : Option JsString}
    (isParsed : parseMetadata text = some parsed) :
    parseMetadata parsed = some parsed := by
  cases text with
  | none =>
      obtain rfl := Option.some.inj isParsed
      rfl
  | some text =>
      rw [parseMetadata] at isParsed
      split at isParsed
      case isFalse => cases isParsed
      case isTrue bounded =>
        obtain rfl := Option.some.inj isParsed
        rw [parseMetadata, trimText_trimText, if_pos bounded]

/-- What the schema has read, it reads as it is. -/
theorem parseClassificationInput_parsed
    {rawInput : PrivacyClassificationInput}
    (isParsed : parseClassificationInput rawInput = some input) :
    parseClassificationInput input = some input := by
  by_cases isTag :
      (hasLength 1 32 (trimText rawInput.tagName) &&
        isTagName (trimText rawInput.tagName)) = true
  · simp only [parseClassificationInput, isTag, guard_true, Option.pure_def,
      Option.bind_eq_bind, Option.bind_some, Option.bind_eq_some_iff]
      at isParsed
    obtain ⟨inputType, isType, autocomplete, isAutocomplete, name, isName, id,
      isId, labelText, isLabel, accessibleName, isAccessible, placeholder,
      isPlaceholder, role, isRole, isParsed⟩ := isParsed
    obtain rfl := Option.some.inj isParsed
    simp only [parseClassificationInput, trimText_trimText, isTag, guard_true,
      parseMetadata_parsed isType, parseMetadata_parsed isAutocomplete,
      parseMetadata_parsed isName, parseMetadata_parsed isId,
      parseMetadata_parsed isLabel, parseMetadata_parsed isAccessible,
      parseMetadata_parsed isPlaceholder, parseMetadata_parsed isRole,
      Option.pure_def, Option.bind_eq_bind, Option.bind_some]
  · simp [parseClassificationInput, isTag, guard, failure] at isParsed

variable (unicode) in
/-- A decision on metadata that parses. -/
theorem classifyPrivacy_of_parse
    {rawInput : PrivacyClassificationInput}
    (isParsed : parseClassificationInput rawInput = some input)
    (settings : PrivacySettings) :
    ∃ decision,
      classifyPrivacy unicode rawInput settings = some decision ∧
        decision.sensitivity = (classifyBase unicode input).sensitivity ∧
        decision.policy = resolvePrivacyPolicy settings decision.sensitivity ∧
        isPrivacyDecision decision = true := by
  have names : NamesRules (classifyBase unicode input) :=
    namesRules_classifyBase
  have admitted (sensitivity : Sensitivity) :
      sensitivity.admits (resolvePrivacyPolicy settings sensitivity) = true := by
    have isChoice := settings.isChoice
    cases sensitivity <;> try rfl
    cases isPolicy : settings.personalDataPolicy with
    | allow => simp [resolvePrivacyPolicy, Sensitivity.admits, isPolicy]
    | mask => simp [resolvePrivacyPolicy, Sensitivity.admits, isPolicy]
    | block => exact absurd isPolicy isChoice
  have reasons (sensitivity : Sensitivity) :
      classificationReason sensitivity = sensitivity.reason := by
    cases sensitivity <;> rfl
  have isDecision :
      isPrivacyDecision
          { sensitivity := (classifyBase unicode input).sensitivity
            policy :=
              resolvePrivacyPolicy settings
                (classifyBase unicode input).sensitivity
            confidence := (classifyBase unicode input).confidence
            matchedRules := (classifyBase unicode input).matchedRules
            reasons :=
              [classificationReason
                (classifyBase unicode input).sensitivity] } =
        true := by
    simp only [isPrivacyDecision, names.nonEmpty, names.few, admitted, reasons,
      decide_true, Bool.and_true, Bool.true_and, beq_self_eq_true,
      List.all_eq_true, beq_iff_eq]
    exact names.sameSensitivity
  refine ⟨_, ?_, rfl, rfl, isDecision⟩
  simp only [classifyPrivacy, isParsed, isDecision, guard_true,
    Option.pure_def, Option.bind_eq_bind, Option.bind_some]

end TaskTwin.Privacy

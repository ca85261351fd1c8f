import TaskTwin.Capture.Candidates

/-!
# The metadata that is classified

What the schemas read of the metadata of an element: for the privacy decision,
and for the snapshot that the schema of candidates classifies again.
-/

namespace TaskTwin.Capture

open Text Schema Privacy
open TaskTwin.Locator (normalizeBlanks)

theorem normalizeBlanks_eq (value : JsString) :
    normalizeBlanks value = trimText (collapseRuns isBlank (unit ' ') value) := by
  have isSpace : js " " = [unit ' '] := by decide +kernel
  rw [normalizeBlanks, isSpace]
  exact congrArg trimText (Pattern.replaceAll_runs (unit ' ') value)

theorem trimText_part (text : JsString) : trimText text <:+: text :=
  (List.rdropWhile_prefix isBlank _).isInfix.trans
    (List.dropWhile_suffix isBlank).isInfix

/-- A part of a normalized text has no more than ends to trim. -/
theorem normalizeBlanks_of_part
    {value part : JsString}
    (isPart : part <:+: normalizeBlanks value) :
    normalizeBlanks part = trimText part := by
  rw [normalizeBlanks_eq]
  rw [normalizeBlanks_eq] at isPart
  exact
    congrArg trimText
      (collapseRuns_part (isPart.trans (trimText_part _)))

/-- A text that begins with a symbol keeps the symbol. -/
theorem trimText_ne_nil
    {symbol : CodeUnit}
    {rest : JsString}
    (notBlank : isBlank symbol = false) :
    trimText (symbol :: rest) ≠ [] := by
  have kept : (symbol :: rest).dropWhile isBlank = symbol :: rest := by
    rw [List.dropWhile_cons_of_neg (by simp [notBlank])]
  intro isNil
  rw [trimText, kept, ← List.rdropWhile, List.rdropWhile_eq_nil_iff] at isNil
  have isBlankHere := isNil symbol List.mem_cons_self
  rw [notBlank] at isBlankHere
  cases isBlankHere

/-- What is trimmed begins with a symbol that is not blank. -/
theorem notBlank_of_trimText
    {text rest : JsString}
    {symbol : CodeUnit}
    (isTrimmed : trimText text = symbol :: rest) :
    isBlank symbol = false := by
  have isPrefix : trimText text <+: text.dropWhile isBlank :=
    List.rdropWhile_prefix isBlank _
  obtain ⟨later, isRest⟩ := isPrefix
  have notBlank := List.head?_dropWhile_not isBlank text
  rw [← isRest, isTrimmed, List.cons_append, List.head?_cons] at notBlank
  simpa using notBlank

/-- A text that a schema for bounded texts reads as it is. -/
structure Settled (maximum : Nat) (text : JsString) : Prop where
  trimmed : trimText text = text
  nonEmpty : text ≠ []
  short : text.length ≤ maximum

theorem Settled.mono
    {maximum maximum' : Nat}
    {text : JsString}
    (settled : Settled maximum text)
    (below : maximum ≤ maximum') :
    Settled maximum' text :=
  ⟨settled.trimmed, settled.nonEmpty, settled.short.trans below⟩

variable {maximum : Nat} {text : JsString}

theorem settled_trimText_of_normalizeText
    (positive : 0 < maximum)
    {value text : JsString}
    (isText : normalizeText maximum value = some text) :
    Settled maximum (trimText text) ∧ normalizeBlanks text = trimText text := by
  unfold normalizeText at isText
  split at isText
  case isTrue => cases isText
  case isFalse nonEmpty =>
    obtain rfl := Option.some.inj isText
    constructor
    · constructor
      case trimmed => exact trimText_trimText _
      case nonEmpty =>
        cases isNormal : normalizeBlanks value with
        | nil => simp [isNormal] at nonEmpty
        | cons symbol rest =>
            obtain ⟨bound, rfl⟩ :=
              Nat.exists_eq_add_one_of_ne_zero positive.ne'
            rw [List.take_succ_cons]
            exact trimText_ne_nil (notBlank_of_trimText isNormal)
      case short =>
        refine (trimText_part _).length_le.trans ?_
        exact List.length_take_le _ _
    · exact normalizeBlanks_of_part (List.take_prefix _ _).isInfix

/-- What is kept of a text: nothing if it has a sensitive literal. -/
def keptText (text : Option JsString) : Option JsString :=
  (text.map trimText).filter fun text => !containsSensitiveLiteral text

theorem sanitizePersistedText_normalizeText
    (positive : 0 < maximum)
    (value : JsString) :
    sanitizePersistedText maximum (normalizeText maximum value) =
      keptText (normalizeText maximum value) := by
  cases isText : normalizeText maximum value with
  | none => rfl
  | some text =>
      obtain ⟨settled, isNormal⟩ :=
        settled_trimText_of_normalizeText positive isText
      have nonEmpty : (trimText text).isEmpty = false := by
        rw [List.isEmpty_eq_false_iff]
        exact settled.nonEmpty
      rw [keptText, Option.map_some, sanitizePersistedText, Option.bind_some,
        isNormal, nonEmpty, Bool.false_or, List.take_of_length_le settled.short]
      cases isLiteral : containsSensitiveLiteral (trimText text) with
      | true => simp [Option.filter, isLiteral]
      | false => simp [Option.filter, isLiteral]

/-- Every text that there is, is read as it is. -/
def SettledAll (maximum : Nat) (text : Option JsString) : Prop :=
  ∀ value ∈ text, Settled maximum value

theorem settledAll_none (maximum : Nat) : SettledAll maximum none := by
  intro value isValue
  cases isValue

theorem settledAll_some
    (settled : Settled maximum text) :
    SettledAll maximum (some text) := by
  intro value isValue
  rw [Option.mem_some_iff] at isValue
  exact isValue ▸ settled

theorem settledAll_normalizeText
    (positive : 0 < maximum)
    (value : JsString) :
    SettledAll maximum ((normalizeText maximum value).map trimText) := by
  intro text isText
  obtain ⟨normal, isNormal, rfl⟩ := Option.map_eq_some_iff.mp isText
  exact (settled_trimText_of_normalizeText positive isNormal).1

theorem settledAll_bind_normalizeText
    (positive : 0 < maximum)
    (value : Option JsString) :
    SettledAll maximum ((value.bind (normalizeText maximum)).map trimText) := by
  cases value with
  | none => exact settledAll_none _
  | some value => exact settledAll_normalizeText positive value

theorem hasLength_of_settled
    (settled : Settled maximum text) :
    hasLength 1 maximum (trimText text) = true := by
  have positive : 0 < text.length := List.length_pos_of_ne_nil settled.nonEmpty
  rw [settled.trimmed, hasLength, Bool.and_eq_true, decide_eq_true_eq,
    decide_eq_true_eq]
  exact ⟨positive, settled.short⟩

theorem parseNullable_of_settled
    {text : Option JsString}
    (settled : SettledAll maximum text) :
    parseNullable maximum text = some text := by
  cases text with
  | none => rfl
  | some value =>
      have isSettled := settled value rfl
      rw [parseNullable, parseBounded, if_pos (hasLength_of_settled isSettled),
        isSettled.trimmed]
      rfl

theorem parseMetadata_of_settled
    {text : Option JsString}
    (settled : SettledAll maxPrivacyMetadataLength text) :
    parseMetadata text = some text := by
  cases text with
  | none => rfl
  | some value =>
      have isSettled := settled value rfl
      rw [parseMetadata, if_pos (hasLength_of_settled isSettled),
        isSettled.trimmed]

/-- What the schema reads of a text that it has to trim. -/
theorem parseMetadata_of_settled_trim
    {text : Option JsString}
    (settled : SettledAll maxPrivacyMetadataLength (text.map trimText)) :
    parseMetadata text = some (text.map trimText) := by
  cases text with
  | none => rfl
  | some value =>
      have isSettled := settled (trimText value) rfl
      have bounded := hasLength_of_settled isSettled
      rw [isSettled.trimmed] at bounded
      rw [parseMetadata, if_pos bounded]
      rfl

theorem SettledAll.or_trim
    {first second : Option JsString}
    (isFirst : SettledAll maximum (first.map trimText))
    (isSecond : SettledAll maximum (second.map trimText)) :
    SettledAll maximum ((first.or second).map trimText) := by
  cases first with
  | none => exact isSecond
  | some value => exact isFirst

variable (unicode : Unicode)

/-- A tag name that the schemas accept. -/
def isAcceptedTag (tagName : JsString) : Bool :=
  hasLength 1 32 (trimText tagName) && isTagName (trimText tagName)

/-- What the schema reads of a metadata attribute. -/
def readAttribute (element : PageElement) (name : String) : Option JsString :=
  ((element.getAttribute name).bind
    (normalizeText maxPrivacyMetadataLength)).map trimText

/-- The metadata that the privacy decision classifies. -/
def capturedMetadata (element : PageElement) : PrivacyClassificationInput :=
  { tagName := trimText (element.lowerTagName unicode)
    inputType := inputType element
    autocomplete := readAttribute element "autocomplete"
    name := readAttribute element "name"
    id := readAttribute element "id"
    labelText := (associatedLabelText element).map trimText
    accessibleName := (accessibleName element).map trimText
    placeholder :=
      match element.interface with
      | .input .. =>
          (normalizeText maxPrivacyMetadataLength
            (element.reflected "placeholder")).map trimText
      | .textArea =>
          (normalizeText maxPrivacyMetadataLength
            (element.reflected "placeholder")).map trimText
      | _ => none
    role := (implicitRole element).map trimText }

theorem positive_maxPrivacyMetadataLength : 0 < maxPrivacyMetadataLength := by
  decide

theorem InputType.settled (type : InputType) :
    Settled maxPrivacyMetadataLength (js type.name) := by
  cases type <;> constructor <;> decide +kernel

theorem settled_names
    {name : JsString}
    (isName :
      name ∈
        [js "button", js "combobox", js "textbox", js "checkbox", js "radio",
          js "textarea", js "select"]) :
    Settled maxPrivacyMetadataLength name := by
  have all :
      ∀ name ∈
        [js "button", js "combobox", js "textbox", js "checkbox", js "radio",
          js "textarea", js "select"],
        trimText name = name ∧ name ≠ [] ∧
          name.length ≤ maxPrivacyMetadataLength := by
    decide +kernel
  obtain ⟨trimmed, nonEmpty, short⟩ := all name isName
  exact ⟨trimmed, nonEmpty, short⟩

theorem settled_inputType (element : PageElement) :
    SettledAll maxPrivacyMetadataLength (inputType element) := by
  unfold inputType
  cases element.interface with
  | input type value checked disabled => exact settledAll_some type.settled
  | textArea => exact settledAll_some (settled_names (by simp))
  | select multiple value selectedLabel =>
      exact settledAll_some (settled_names (by simp))
  | button disabled => exact settledAll_none _
  | other isHtml => exact settledAll_none _

theorem settled_associatedLabelText (element : PageElement) :
    SettledAll maxPrivacyMetadataLength
      ((associatedLabelText element).map trimText) := by
  unfold associatedLabelText
  split
  case isTrue =>
    exact settledAll_bind_normalizeText positive_maxPrivacyMetadataLength _
  case isFalse => exact settledAll_none _

theorem settled_ariaLabelledText (element : PageElement) :
    SettledAll maxPrivacyMetadataLength
      ((ariaLabelledText element).map trimText) := by
  unfold ariaLabelledText
  cases element.getAttribute "aria-labelledby" with
  | none => exact settledAll_none _
  | some labelledBy =>
      rw [Option.bind_some]
      exact settledAll_normalizeText positive_maxPrivacyMetadataLength _

theorem settled_accessibleName (element : PageElement) :
    SettledAll maxPrivacyMetadataLength
      ((accessibleName element).map trimText) := by
  have positive := positive_maxPrivacyMetadataLength
  unfold accessibleName
  apply SettledAll.or_trim (settledAll_bind_normalizeText positive _)
  apply SettledAll.or_trim (settled_ariaLabelledText element)
  apply SettledAll.or_trim (settled_associatedLabelText element)
  split
  case isTrue => exact settledAll_normalizeText positive _
  case isFalse => exact settledAll_none _

/-- A role is the one of the attribute or one that goes with the element. -/
theorem implicitRole_cases (element : PageElement) :
    (∃ explicit,
      (element.getAttribute "role").bind
          (normalizeText maxPrivacyMetadataLength) =
        some explicit ∧
      implicitRole element = some explicit) ∨
      implicitRole element = none ∨
      ∃ name ∈
        [js "button", js "combobox", js "textbox", js "checkbox", js "radio",
          js "textarea", js "select"],
        implicitRole element = some name := by
  unfold implicitRole
  cases (element.getAttribute "role").bind
      (normalizeText maxPrivacyMetadataLength) with
  | some explicit => exact Or.inl ⟨explicit, rfl, rfl⟩
  | none =>
      right
      cases element.interface with
      | button disabled => exact Or.inr ⟨_, by simp, rfl⟩
      | select multiple value selectedLabel => exact Or.inr ⟨_, by simp, rfl⟩
      | textArea => exact Or.inr ⟨_, by simp, rfl⟩
      | input type value checked disabled =>
          right
          dsimp only
          split_ifs
          · exact ⟨_, by simp, rfl⟩
          · exact ⟨_, by simp, rfl⟩
          · exact ⟨_, by simp, rfl⟩
          · exact ⟨_, by simp, rfl⟩
      | other isHtml => exact Or.inl rfl

theorem settled_implicitRole (element : PageElement) :
    SettledAll maxPrivacyMetadataLength
      ((implicitRole element).map trimText) := by
  rcases implicitRole_cases element with
    ⟨explicit, isExplicit, isRole⟩ | isNone | ⟨name, isName, isRole⟩
  · rw [isRole, ← isExplicit]
    exact settledAll_bind_normalizeText positive_maxPrivacyMetadataLength _
  · rw [isNone]
    exact settledAll_none _
  · have settled := settled_names isName
    rw [isRole, Option.map_some, settled.trimmed]
    exact settledAll_some settled

theorem parse_readAttribute (element : PageElement) (name : String) :
    parseMetadata
        ((element.getAttribute name).bind
          (normalizeText maxPrivacyMetadataLength)) =
      some (readAttribute element name) :=
  parseMetadata_of_settled_trim
    (settledAll_bind_normalizeText positive_maxPrivacyMetadataLength _)

theorem parse_normalizeText (value : JsString) :
    parseMetadata (normalizeText maxPrivacyMetadataLength value) =
      some ((normalizeText maxPrivacyMetadataLength value).map trimText) :=
  parseMetadata_of_settled_trim
    (settledAll_normalizeText positive_maxPrivacyMetadataLength value)

theorem createPrivacyClassificationInput_eq (element : PageElement) :
    createPrivacyClassificationInput unicode element =
      if isAcceptedTag (element.lowerTagName unicode) then
        some (capturedMetadata unicode element)
      else none := by
  unfold createPrivacyClassificationInput parseClassificationInput
    capturedMetadata
  by_cases isTagged : isAcceptedTag (element.lowerTagName unicode) = true
  · have isGuarded := isTagged
    unfold isAcceptedTag at isGuarded
    simp only [isTagged, isGuarded, guard_true, if_true,
      parseMetadata_of_settled (settled_inputType element),
      parse_readAttribute,
      parseMetadata_of_settled_trim (settled_associatedLabelText element),
      parseMetadata_of_settled_trim (settled_accessibleName element),
      parseMetadata_of_settled_trim (settled_implicitRole element),
      Option.pure_def, Option.bind_eq_bind, Option.bind_some]
    cases element.interface with
    | input type value checked disabled =>
        simp only [parse_normalizeText, Option.bind_some]
    | textArea => simp only [parse_normalizeText, Option.bind_some]
    | select multiple value selectedLabel => rfl
    | button disabled => rfl
    | other isHtml => rfl
  · have isGuarded := isTagged
    unfold isAcceptedTag at isGuarded
    simp [isTagged, isGuarded, guard, failure]

/-- What a snapshot keeps of an attribute. -/
def keptAttribute (element : PageElement) (name : String) : Option JsString :=
  (readAttribute element name).filter fun text =>
    !containsSensitiveLiteral text

variable {maximum : Nat}

theorem normalizePersistedText_eq
    (positive : 0 < maximum)
    (value : JsString) :
    normalizePersistedText maximum value =
      keptText (normalizeText maximum value) :=
  sanitizePersistedText_normalizeText positive value

theorem normalizePersistedText_reflected
    (element : PageElement)
    (name : String) :
    normalizePersistedText maxTargetMetadataLength (element.reflected name) =
      keptAttribute element name := by
  rw [normalizePersistedText_eq (by decide), keptText, keptAttribute,
    readAttribute, PageElement.reflected]
  cases element.getAttribute name with
  | some value => rfl
  | none =>
      have isNil : normalizeBlanks [] = [] := by
        rw [normalizeBlanks_eq]
        rfl
      rw [Option.getD_none, normalizeText, isNil]
      rfl

/-- The texts of a snapshot are read as they are. -/
structure SettledTarget (target : RecordingTargetSnapshot) : Prop where
  inputType : SettledAll maxTargetMetadataLength target.inputType
  role : SettledAll maxTargetMetadataLength target.role
  id : SettledAll maxTargetMetadataLength target.id
  name : SettledAll maxTargetMetadataLength target.name
  labelText : SettledAll maxTargetMetadataLength target.labelText
  accessibleName : SettledAll maxTargetMetadataLength target.accessibleName
  placeholder : SettledAll maxTargetMetadataLength target.placeholder
  textPreview : SettledAll maxTextPreviewLength target.textPreview
  testIds :
    ∀ candidate ∈ target.testIdCandidates,
      Settled maxTargetMetadataLength candidate.2
  fewTestIds : target.testIdCandidates.length ≤ 4

theorem SettledTarget.parse
    {target : RecordingTargetSnapshot}
    (settled : SettledTarget target) :
    parseTargetSnapshot target =
      if isAcceptedTag target.tagName then
        some { target with tagName := trimText target.tagName }
      else none := by
  have areTestIds :
      (target.testIdCandidates.mapM fun candidate =>
          (parseBounded maxTargetMetadataLength candidate.2).map
            (candidate.1, ·)) =
        some target.testIdCandidates := by
    apply Collection.mapM_of_fixed
    intro candidate isCandidate
    have isSettled := settled.testIds candidate isCandidate
    rw [parseBounded, if_pos (hasLength_of_settled isSettled),
      isSettled.trimmed]
    rfl
  unfold parseTargetSnapshot isAcceptedTag
  by_cases isTagged :
      (hasLength 1 32 (trimText target.tagName) &&
        isTagName (trimText target.tagName)) = true
  · simp only [isTagged, guard_true, if_true, areTestIds, settled.fewTestIds,
      parseNullable_of_settled settled.inputType,
      parseNullable_of_settled settled.role,
      parseNullable_of_settled settled.id,
      parseNullable_of_settled settled.name,
      parseNullable_of_settled settled.labelText,
      parseNullable_of_settled settled.accessibleName,
      parseNullable_of_settled settled.placeholder,
      parseNullable_of_settled settled.textPreview, Option.pure_def,
      Option.bind_eq_bind, Option.bind_some]
  · simp [isTagged, guard, failure]

/-- The metadata of a settled snapshot is read as it is. -/
theorem SettledTarget.parse_classificationInput
    {target : RecordingTargetSnapshot}
    (settled : SettledTarget target)
    (isTagged : isAcceptedTag target.tagName = true)
    (isTrimmed : trimText target.tagName = target.tagName) :
    parseClassificationInput (targetClassificationInput target) =
      some (targetClassificationInput target) := by
  unfold isAcceptedTag at isTagged
  rw [isTrimmed] at isTagged
  unfold parseClassificationInput targetClassificationInput
  simp only [isTrimmed, isTagged, guard_true,
    parseMetadata_of_settled settled.inputType,
    parseMetadata_of_settled settled.role,
    parseMetadata_of_settled settled.id,
    parseMetadata_of_settled settled.name,
    parseMetadata_of_settled settled.labelText,
    parseMetadata_of_settled settled.accessibleName,
    parseMetadata_of_settled settled.placeholder,
    parseMetadata_of_settled (settledAll_none _), Option.pure_def,
    Option.bind_eq_bind, Option.bind_some]

/-- Every text that is kept is read as it is, and has no sensitive literal. -/
structure KeptAll (maximum : Nat) (text : Option JsString) : Prop where
  settled : SettledAll maximum text
  harmless : ∀ value ∈ text, containsSensitiveLiteral value = false

theorem keptAll_none (maximum : Nat) : KeptAll maximum none where
  settled := settledAll_none maximum
  harmless value isValue := by cases isValue

theorem KeptAll.or
    {first second : Option JsString}
    (isFirst : KeptAll maximum first)
    (isSecond : KeptAll maximum second) :
    KeptAll maximum (first.or second) := by
  cases first with
  | none => exact isSecond
  | some value => exact isFirst

theorem KeptAll.mono
    {maximum maximum' : Nat}
    {text : Option JsString}
    (kept : KeptAll maximum text)
    (below : maximum ≤ maximum') :
    KeptAll maximum' text where
  settled value isValue := (kept.settled value isValue).mono below
  harmless := kept.harmless

theorem keptAll_filter
    {text : Option JsString}
    (settled : SettledAll maximum text) :
    KeptAll maximum (text.filter fun text => !containsSensitiveLiteral text) where
  settled value isValue :=
    settled value (Option.filter_eq_some_iff.mp isValue).1
  harmless value isValue := by
    have isHarmless := (Option.filter_eq_some_iff.mp isValue).2
    simpa using isHarmless

theorem keptAll_sanitize
    (positive : 0 < maximum)
    (value : JsString) :
    KeptAll maximum
      (sanitizePersistedText maximum (normalizeText maximum value)) := by
  rw [sanitizePersistedText_normalizeText positive]
  exact keptAll_filter (settledAll_normalizeText positive value)

theorem keptAll_attribute (element : PageElement) (name : String) :
    KeptAll maxTargetMetadataLength (keptAttribute element name) :=
  keptAll_filter
    (settledAll_bind_normalizeText positive_maxPrivacyMetadataLength _)

theorem positive_maxTargetMetadataLength : 0 < maxTargetMetadataLength := by
  decide

theorem keptAll_label (element : PageElement) :
    KeptAll maxTargetMetadataLength (snapshotLabel element) := by
  unfold snapshotLabel getLabelText
  split
  case h_1 label _ => exact keptAll_sanitize positive_maxTargetMetadataLength label
  case h_2 =>
    cases element.closestLabel with
    | none => exact keptAll_none _
    | some label =>
        exact keptAll_sanitize positive_maxTargetMetadataLength label

theorem keptAll_placeholder (element : PageElement) :
    KeptAll maxTargetMetadataLength (snapshotPlaceholder element) := by
  unfold snapshotPlaceholder
  split
  case isTrue => exact keptAll_sanitize positive_maxTargetMetadataLength _
  case isFalse => exact keptAll_none _

theorem keptAll_textPreview (element : PageElement) :
    KeptAll maxTextPreviewLength (snapshotTextPreview element) := by
  unfold snapshotTextPreview
  split
  case isTrue => exact keptAll_none _
  case isFalse => exact keptAll_sanitize (by decide) _

theorem keptAll_name (element : PageElement) :
    KeptAll maxTargetMetadataLength (snapshotName element) := by
  have positive := positive_maxTargetMetadataLength
  unfold snapshotName
  apply KeptAll.or (keptAll_sanitize positive _)
  apply KeptAll.or
  case isFirst =>
    unfold getAriaLabelledText
    cases element.getAttribute "aria-labelledby" with
    | none => exact keptAll_none _
    | some labelledBy =>
        rw [Option.bind_some]
        exact keptAll_sanitize positive _
  case isSecond =>
    apply KeptAll.or (keptAll_label element)
    apply KeptAll.or (keptAll_placeholder element)
    exact (keptAll_textPreview element).mono (by decide)

/-- The type of an input element. -/
def snapshotInputType (element : PageElement) : Option JsString :=
  match element.interface with
  | .input type .. => some (js type.name)
  | _ => none

/-- The snapshot that is stored for an element. -/
def capturedTarget (element : PageElement) : RecordingTargetSnapshot :=
  { tagName := trimText (element.lowerTagName unicode)
    inputType := snapshotInputType element
    role := keptAttribute element "role"
    id := keptAttribute element "id"
    name := keptAttribute element "name"
    labelText := snapshotLabel element
    accessibleName := snapshotName element
    placeholder := snapshotPlaceholder element
    textPreview := snapshotTextPreview element
    testIdCandidates :=
      testIdAttributes.filterMap fun (testIdAttribute, name) =>
        (keptAttribute element name).map (testIdAttribute, ·) }

/-- The metadata that the schema of candidates classifies. -/
def snapshotMetadata (element : PageElement) : PrivacyClassificationInput :=
  targetClassificationInput (capturedTarget unicode element)

theorem normalizeText_inputType (type : InputType) :
    normalizeText maxTargetMetadataLength (js type.name) =
      some (js type.name) := by
  rw [normalizeText, normalizeBlanks_eq]
  cases type <;> decide +kernel

theorem settled_capturedTarget (element : PageElement) :
    SettledTarget (capturedTarget unicode element) := by
  constructor
  case inputType =>
    unfold capturedTarget snapshotInputType
    cases element.interface with
    | input type value checked disabled => exact settledAll_some type.settled
    | _ => exact settledAll_none _
  case role => exact (keptAll_attribute element "role").settled
  case id => exact (keptAll_attribute element "id").settled
  case name => exact (keptAll_attribute element "name").settled
  case labelText => exact (keptAll_label element).settled
  case accessibleName => exact (keptAll_name element).settled
  case placeholder => exact (keptAll_placeholder element).settled
  case textPreview => exact (keptAll_textPreview element).settled
  case testIds =>
    intro candidate isCandidate
    obtain ⟨⟨testIdAttribute, name⟩, -, isKept⟩ :=
      List.mem_filterMap.mp isCandidate
    obtain ⟨value, isValue, rfl⟩ := Option.map_eq_some_iff.mp isKept
    exact (keptAll_attribute element name).settled value isValue
  case fewTestIds => exact List.length_filterMap_le _ _

theorem createTargetSnapshot_eq (element : PageElement) :
    createTargetSnapshot unicode element =
      if isAcceptedTag (element.lowerTagName unicode) then
        some (capturedTarget unicode element)
      else none := by
  have settled := settled_capturedTarget unicode element
  have isSnapshot :
      createTargetSnapshot unicode element =
        parseTargetSnapshot
          { capturedTarget unicode element with
            tagName := element.lowerTagName unicode } := by
    unfold createTargetSnapshot capturedTarget snapshotInputType
    simp only [normalizePersistedText_reflected]
    cases element.interface with
    | input type value checked disabled =>
        simp only [normalizeText_inputType]
    | _ => rfl
  rw [isSnapshot, SettledTarget.parse]
  · rfl
  · exact { settled with }

/-- The schema of candidates reads the snapshot as it is. -/
theorem parse_capturedTarget
    {element : PageElement}
    (isTagged : isAcceptedTag (element.lowerTagName unicode) = true) :
    parseTargetSnapshot (capturedTarget unicode element) =
      some (capturedTarget unicode element) := by
  have isTrimmed :
      trimText (capturedTarget unicode element).tagName =
        (capturedTarget unicode element).tagName :=
    trimText_trimText _
  have isTaggedToo :
      isAcceptedTag (capturedTarget unicode element).tagName = true := by
    rw [isAcceptedTag, isTrimmed]
    exact isTagged
  rw [(settled_capturedTarget unicode element).parse, if_pos isTaggedToo,
    isTrimmed]

theorem parse_snapshotMetadata
    {element : PageElement}
    (isTagged : isAcceptedTag (element.lowerTagName unicode) = true) :
    parseClassificationInput (snapshotMetadata unicode element) =
      some (snapshotMetadata unicode element) := by
  have isTrimmed :
      trimText (capturedTarget unicode element).tagName =
        (capturedTarget unicode element).tagName :=
    trimText_trimText _
  apply (settled_capturedTarget unicode element).parse_classificationInput
  · rw [isAcceptedTag, isTrimmed]
    exact isTagged
  · exact isTrimmed

end TaskTwin.Capture

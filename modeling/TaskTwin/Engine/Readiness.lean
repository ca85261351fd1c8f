import Mathlib.Data.List.Dedup
import TaskTwin.Engine.RuntimeInputs
import TaskTwin.Workflow.AnalysisBounds
import TaskTwin.Workflow.Verification

/-!
# Origins and navigation

The origins that a run may visit are normalized before they are used, and an
address may be visited when its origin is one of them.
-/

namespace TaskTwin.Engine

open Text Schema
open TaskTwin.Policy (Url isVisible)

/-- `new URL(text)`, with what is documented about the origins of addresses. -/
structure UrlParser where
  /-- `none` when the constructor throws. -/
  parseUrl : JsString → Option Url
  empty_throws : parseUrl [] = none
  origin_stable :
    ∀ text url,
      parseUrl text = some url →
      url.isHttp = true →
      ∃ again,
        parseUrl url.origin = some again ∧
          again.isBareOrigin = true ∧
          again.origin = url.origin
  origin_visible :
    ∀ text url,
      parseUrl text = some url →
      url.isHttp = true →
      ∀ symbol ∈ url.origin, isVisible symbol = true

variable (parseUrl : JsString → Option Url)

/-- One turn of the loop of `normalizeAllowedOrigins`. -/
def addNormalizedOrigin
    (normalized : List JsString)
    (value : JsString) :
    Except ExecutionErrorCode (List JsString) :=
  match parseUrl value with
  | none => .error .invalidExecutionRequest
  | some url =>
      if url.isBareOrigin = false then .error .invalidExecutionRequest
      else if url.origin ∈ normalized then .error .invalidExecutionRequest
      else .ok (normalized ++ [url.origin])

def normalizeAllowedOrigins
    (values : List JsString) :
    Except ExecutionErrorCode (List JsString) :=
  values.foldlM (addNormalizedOrigin parseUrl) []

def validateNavigationUrl
    (value : JsString)
    (allowedOrigins : List JsString) :
    Except ExecutionErrorCode Url :=
  match parseUrl value with
  | none => .error .invalidNavigationUrl
  | some url =>
      if url.isHttp = false then .error .unsafeUrlScheme
      else if url.username ≠ [] ∨ url.password ≠ [] then
        .error .invalidNavigationUrl
      else if url.origin ∉ allowedOrigins then .error .originNotAllowed
      else .ok url

def maxAllowedOrigins : Nat := 32

def maxAllowedOriginLength : Nat := 512

/-- `AllowedOriginSchema`. -/
def parseAllowedOrigin (value : JsString) : Option JsString :=
  let trimmed := trimText value
  if hasLength 1 maxAllowedOriginLength trimmed then some trimmed else none

/-- `AllowedOriginsSchema`. -/
def parseAllowedOrigins (values : List JsString) : Option (List JsString) :=
  if 0 < values.length ∧ values.length ≤ maxAllowedOrigins then
    values.mapM parseAllowedOrigin
  else
    none

variable {parseUrl}

theorem validateNavigationUrl_eq_ok
    {value : JsString}
    {allowedOrigins : List JsString}
    {url : Url} :
    validateNavigationUrl parseUrl value allowedOrigins = .ok url ↔
      parseUrl value = some url ∧ url.isHttp = true ∧
        (url.username = [] ∧ url.password = []) ∧
        url.origin ∈ allowedOrigins := by
  rw [validateNavigationUrl]
  cases parsed : parseUrl value with
  | none => simp
  | some other =>
      dsimp only
      split
      case isTrue notHttp =>
        constructor
        · intro isOk
          cases isOk
        · rintro ⟨isUrl, isHttp, -⟩
          rw [← Option.some.inj isUrl, notHttp] at isHttp
          cases isHttp
      case isFalse isHttp =>
        split
        case isTrue hasCredentials =>
          constructor
          · intro isOk
            cases isOk
          · rintro ⟨isUrl, -, noCredentials, -⟩
            rw [Option.some.inj isUrl] at hasCredentials
            simp [noCredentials] at hasCredentials
        case isFalse noCredentials =>
          split
          case isTrue notAllowed =>
            constructor
            · intro isOk
              cases isOk
            · rintro ⟨isUrl, -, -, isAllowed⟩
              rw [Option.some.inj isUrl] at notAllowed
              exact absurd isAllowed notAllowed
          case isFalse isAllowed =>
            simp only [not_or, not_not] at noCredentials isAllowed
            constructor
            · intro isOk
              rw [← Except.ok.inj isOk]
              exact
                ⟨rfl, Bool.eq_true_of_not_eq_false isHttp, noCredentials,
                  isAllowed⟩
            · intro accepted
              rw [Option.some.inj accepted.1]

theorem addNormalizedOrigin_eq_ok
    {normalized normalized' : List JsString}
    {value : JsString} :
    addNormalizedOrigin parseUrl normalized value = .ok normalized' ↔
      ∃ url,
        parseUrl value = some url ∧ url.isBareOrigin = true ∧
          url.origin ∉ normalized ∧
          normalized' = normalized ++ [url.origin] := by
  rw [addNormalizedOrigin]
  cases parsed : parseUrl value with
  | none =>
      constructor
      · intro isOk
        cases isOk
      · rintro ⟨url, isUrl, -⟩
        cases isUrl
  | some url =>
      dsimp only
      by_cases isBare : url.isBareOrigin = true
      · by_cases isNew : url.origin ∈ normalized
        · simp [isBare, isNew]
        · rw [if_neg (by simp [isBare]), if_neg isNew]
          constructor
          · intro isOk
            exact ⟨url, rfl, isBare, isNew, (Except.ok.inj isOk).symm⟩
          · rintro ⟨other, isUrl, -, -, isResult⟩
            rw [isResult, Option.some.inj isUrl]
      · simp [isBare]

/-- Origins that are their own normal form stay as they are. -/
theorem foldlM_addNormalizedOrigin
    {values normalized : List JsString}
    (distinct : (normalized ++ values).Nodup)
    (stable :
      ∀ value ∈ values,
        ∃ url,
          parseUrl value = some url ∧ url.isBareOrigin = true ∧
            url.origin = value) :
    values.foldlM (addNormalizedOrigin parseUrl) normalized =
      .ok (normalized ++ values) := by
  induction values generalizing normalized with
  | nil => simp [pure, Except.pure]
  | cons value values inductionHypothesis =>
      obtain ⟨url, parsed, isBare, isOrigin⟩ :=
        stable value List.mem_cons_self
      have isNew : value ∉ normalized := by
        intro listed
        exact
          (List.nodup_append.mp distinct).2.2 value listed value
            List.mem_cons_self rfl
      have added :
          addNormalizedOrigin parseUrl normalized value =
            .ok (normalized ++ [value]) := by
        apply addNormalizedOrigin_eq_ok.mpr
        refine ⟨url, parsed, isBare, ?_, ?_⟩
        · rw [isOrigin]
          exact isNew
        · rw [isOrigin]
      rw [List.foldlM_cons, added]
      have distinctAfter : ((normalized ++ [value]) ++ values).Nodup := by
        rw [List.append_assoc, List.singleton_append]
        exact distinct
      have others :=
        inductionHypothesis distinctAfter fun other listed =>
          stable other (List.mem_cons_of_mem _ listed)
      rw [List.append_assoc, List.singleton_append] at others
      exact others

theorem normalizeAllowedOrigins_of_stable
    {values : List JsString}
    (distinct : values.Nodup)
    (stable :
      ∀ value ∈ values,
        ∃ url,
          parseUrl value = some url ∧ url.isBareOrigin = true ∧
            url.origin = value) :
    normalizeAllowedOrigins parseUrl values = .ok values := by
  have normalized :=
    @foldlM_addNormalizedOrigin parseUrl values [] distinct stable
  exact normalized

theorem normalizeAllowedOrigins_singleton
    {value : JsString}
    {normalized : List JsString} :
    normalizeAllowedOrigins parseUrl [value] = .ok normalized ↔
      ∃ url,
        parseUrl value = some url ∧ url.isBareOrigin = true ∧
          normalized = [url.origin] := by
  have oneTurn :
      normalizeAllowedOrigins parseUrl [value] =
        addNormalizedOrigin parseUrl [] value := by
    rw [normalizeAllowedOrigins, List.foldlM_cons]
    exact bind_pure _
  rw [oneTurn, addNormalizedOrigin_eq_ok]
  simp

/-- A text of visible symbols has nothing to trim. -/
theorem trimText_of_visible
    {text : JsString}
    (visible : ∀ symbol ∈ text, isVisible symbol = true) :
    trimText text = text := by
  have notBlank : ∀ symbol ∈ text, isBlank symbol = false := by
    intro symbol listed
    have bounds : (unit '!').val = 33 ∧ (unit '~').val = 126 := by decide
    have isVisible := visible symbol listed
    simp only [Policy.isVisible, CodeUnit.within, Bool.and_eq_true,
      decide_eq_true_eq, Fin.le_def] at isVisible
    simp only [isBlank, Bool.or_eq_false_iff, Bool.and_eq_false_iff,
      decide_eq_false_iff_not, beq_eq_false_iff_ne]
    omega
  have nothingFirst : ∀ symbols : JsString,
      (∀ symbol ∈ symbols, isBlank symbol = false) →
        symbols.dropWhile isBlank = symbols := by
    intro symbols areNotBlank
    cases symbols with
    | nil => rfl
    | cons first rest =>
        rw [List.dropWhile_cons_of_neg]
        simp [areNotBlank first List.mem_cons_self]
  rw [trimText, nothingFirst text notBlank, nothingFirst, List.reverse_reverse]
  intro symbol listed
  exact notBlank symbol (List.mem_reverse.mp listed)

end TaskTwin.Engine

/-! ## Run readiness -/

namespace TaskTwin.Engine

open Text Schema Workflow
open TaskTwin.Policy (Url)

inductive RunReadinessIssueCode where
  | workflowVersionNotPublished
  | invalidWorkflowDefinition
  | runtimeInputRequired
  | secretResolutionUnavailable
  | fileInputUnavailable
  | unsupportedStepType
  | firstStepMustNavigate
  | navigationUrlMustBeLiteral
  | invalidNavigationUrl
  | noAllowedOrigin
  | runnerCapabilityUnavailable
  deriving DecidableEq, Repr

structure RunReadinessIssue where
  code : RunReadinessIssueCode
  message : String
  /-- The identifier and the index of the step. -/
  step : Option (NonEmptyString × Nat)
  deriving DecidableEq, Repr

/-- What the analysis can find, each with its code and its message. -/
inductive Finding where
  | invalidDefinition
  | notPublished
  | invalidInputReferences
  | invalidVerificationRule
  | invalidDataFlow
  | invalidApprovalGate
  | variableUsed
  | secretRequired
  | fileVariable
  | inputRequired
  | firstStep
  | unsupportedStep
  | urlNotLiteral
  | unsafeUrl
  | noOrigin
  deriving DecidableEq, Repr

def Finding.code : Finding → RunReadinessIssueCode
  | .invalidDefinition => .invalidWorkflowDefinition
  | .notPublished => .workflowVersionNotPublished
  | .invalidInputReferences => .invalidWorkflowDefinition
  | .invalidVerificationRule => .invalidWorkflowDefinition
  | .invalidDataFlow => .invalidWorkflowDefinition
  | .invalidApprovalGate => .invalidWorkflowDefinition
  | .variableUsed => .runtimeInputRequired
  | .secretRequired => .secretResolutionUnavailable
  | .fileVariable => .fileInputUnavailable
  | .inputRequired => .runtimeInputRequired
  | .firstStep => .firstStepMustNavigate
  | .unsupportedStep => .unsupportedStepType
  | .urlNotLiteral => .navigationUrlMustBeLiteral
  | .unsafeUrl => .invalidNavigationUrl
  | .noOrigin => .noAllowedOrigin

def Finding.message : Finding → String
  | .invalidDefinition => "The workflow definition is invalid."
  | .notPublished => "Only a published workflow version can run."
  | .invalidInputReferences => "The workflow has invalid input references."
  | .invalidVerificationRule =>
      "The workflow contains an invalid verification rule."
  | .invalidDataFlow => "The workflow contains an invalid output data flow."
  | .invalidApprovalGate => "The workflow contains an invalid approval gate."
  | .variableUsed => "Runtime variable delivery is unavailable."
  | .secretRequired => "Secret resolution is unavailable."
  | .fileVariable => "File input delivery is unavailable."
  | .inputRequired => "The workflow requires runtime input delivery."
  | .firstStep => "The first executable step must be Navigate."
  | .unsupportedStep =>
      "The workflow contains an unsupported execution step."
  | .urlNotLiteral =>
      "Navigate requires a literal URL for persisted dispatch."
  | .unsafeUrl => "Navigate contains an unsafe or invalid URL."
  | .noOrigin => "The workflow does not provide a safe allowed origin."

/-- `issue`. -/
def Finding.issue
    (finding : Finding)
    (step : Option (NonEmptyString × Nat)) :
    RunReadinessIssue :=
  { code := finding.code, message := finding.message, step }

/-- An issue that is pushed when a condition holds. -/
def reportIf (condition : Bool) (finding : Finding) : List RunReadinessIssue :=
  if condition then [finding.issue none] else []

structure WorkflowRunReadinessReport where
  ready : Bool
  allowedOrigins : List JsString
  issues : List RunReadinessIssue
  deriving DecidableEq, Repr

def maxReportedOrigins : Nat := 32

def maxReportedOriginLength : Nat := 512

def maxReadinessMessageLength : Nat := 240

/-- `WorkflowRunReadinessReportSchema`. -/
def WorkflowRunReadinessReport.parses
    (parser : UrlParser)
    (report : WorkflowRunReadinessReport) :
    Bool :=
  report.allowedOrigins.length ≤ maxReportedOrigins &&
    report.allowedOrigins.all (fun origin =>
      (parser.parseUrl origin).isSome &&
        origin.length ≤ maxReportedOriginLength) &&
    report.issues.all fun issue =>
      isTrimmedWithin maxReadinessMessageLength issue.message

/-- The issues without repetitions of a code at one place. -/
def uniqueIssues (issues : List RunReadinessIssue) : List RunReadinessIssue :=
  (issues.zipIdx.filter fun placed =>
      issues.findIdx? (fun candidate =>
          candidate.code = placed.1.code ∧ candidate.step = placed.1.step) =
        some placed.2).map
    Prod.fst

/-- `SUPPORTED_STEPS`. -/
def supportedSteps : List WorkflowStepType :=
  [.navigate, .click, .fill, .select, .setChecked, .wait, .verify, .extract,
    .approval]

variable (parser : UrlParser)

/-- The origin that is pushed for an address, unless a check throws. -/
def navigationOrigin (value : String) : Option JsString := do
  let url ← parser.parseUrl (js value)
  let normalized ←
    (normalizeAllowedOrigins parser.parseUrl [url.origin]).toOption
  let _ ←
    (validateNavigationUrl parser.parseUrl (js value) normalized).toOption
  normalized.head?

/-- What the loop over the steps pushes for one of them. -/
def navigationFindings
    (step : WorkflowStep)
    (index : Nat) :
    List RunReadinessIssue × List JsString :=
  let report (finding : Finding) : List RunReadinessIssue × List JsString :=
    ([finding.issue (some (step.id, index))], [])
  if !supportedSteps.contains step.type then report .unsupportedStep
  else
    match step.action with
    | .navigate (.literal (.string value)) =>
        match navigationOrigin parser value with
        | some origin => ([], [origin])
        | none => report .unsafeUrl
    | .navigate _ => report .urlNotLiteral
    | _ => ([], [])

/-- The loop over the steps. -/
def stepFindings
    (workflow : WorkflowDefinition) :
    List RunReadinessIssue × List JsString :=
  let found :=
    workflow.steps.zipIdx.map fun placed =>
      navigationFindings parser placed.1 placed.2
  (found.flatMap Prod.fst, found.flatMap Prod.snd)

/-- `[...new Set(origins)]`, in the order of the first occurrences. -/
def distinctOrigins (origins : List JsString) : List JsString :=
  origins.reverse.dedup.reverse

theorem emptyValues_namesUnique :
    (([] : RuntimeValueRecord).map Prod.fst).Nodup :=
  List.nodup_nil

/-- `{ schemaVersion: 1, values: {} }`. -/
def emptyInputs : WorkflowRunInputSubmission :=
  { values := [], namesUnique := emptyValues_namesUnique }

def isFileVariableNeeded (item : WorkflowVariableAnalysis) : Bool :=
  item.variableIs.valueType == .file &&
    (item.variableIs.required || 0 < item.usageCount)

/-- The issues before the loop over the steps. -/
def workflowIssues
    (workflow : WorkflowDefinition)
    (extraction : WorkflowExtractionAnalysis)
    (approvals : WorkflowApprovalAnalysis) :
    List RunReadinessIssue :=
  let analysis := analyzeWorkflowInputs workflow
  reportIf (workflow.status != .published) .notPublished ++
    reportIf analysis.hasBlockingIssues .invalidInputReferences ++
    reportIf
      (!(analyzeWorkflowVerifications parser.parseUrl workflow).issues.isEmpty)
      .invalidVerificationRule ++
    reportIf extraction.hasBlockingIssues .invalidDataFlow ++
    reportIf approvals.hasBlockingIssues .invalidApprovalGate ++
    reportIf (analysis.variableAnalyses.any fun item => 0 < item.usageCount)
      .variableUsed ++
    reportIf (!analysis.secretRequirements.isEmpty) .secretRequired ++
    reportIf (analysis.variableAnalyses.any isFileVariableNeeded)
      .fileVariable ++
    reportIf (!(validateWorkflowRunInputs workflow emptyInputs).summary.valid)
      .inputRequired ++
    reportIf (workflow.steps.head?.map WorkflowStep.type != some .navigate)
      .firstStep

/-- The report about a definition, before its schema. -/
def readinessOf
    (workflow : WorkflowDefinition)
    (extraction : WorkflowExtractionAnalysis)
    (approvals : WorkflowApprovalAnalysis) :
    WorkflowRunReadinessReport :=
  let found := stepFindings parser workflow
  let allowedOrigins := distinctOrigins found.2
  let issues :=
    workflowIssues parser workflow extraction approvals ++ found.1 ++
      reportIf allowedOrigins.isEmpty .noOrigin
  { ready := (uniqueIssues issues).isEmpty
    allowedOrigins
    issues := uniqueIssues issues }

def invalidDefinitionReport : WorkflowRunReadinessReport :=
  { ready := false
    allowedOrigins := []
    issues := [Finding.invalidDefinition.issue none] }

/-- `WorkflowRunReadinessReportSchema.parse`; `none` when it throws. -/
def WorkflowRunReadinessReport.parse
    (report : WorkflowRunReadinessReport) :
    Option WorkflowRunReadinessReport :=
  if report.parses parser then some report else none

/--
`analyzeWorkflowRunReadiness`, of the definition that the input is parsed to;
`none` when it throws.
-/
def analyzeWorkflowRunReadiness
    (input : Option WorkflowDefinition) :
    Option WorkflowRunReadinessReport :=
  match input with
  | none => invalidDefinitionReport.parse parser
  | some workflow => do
      let extraction ← analyzeWorkflowExtraction workflow
      let approvals ← analyzeWorkflowApprovals workflow
      (readinessOf parser workflow extraction approvals).parse parser

/-- `AllowedOriginsSchema` and `normalizeAllowedOrigins`. -/
def prepareAllowedOrigins
    (values : List JsString) :
    Except ExecutionErrorCode (List JsString) :=
  match parseAllowedOrigins values with
  | none => .error .invalidExecutionRequest
  | some origins => normalizeAllowedOrigins parser.parseUrl origins

/-- The verdict of a check that may refuse. -/
def refusalOf {α : Type} : Except ExecutionErrorCode α →
    Option ExecutionErrorCode
  | .error code => some code
  | .ok _ => none

/-- The checks of an adapter, under the origins that a run may visit. -/
def adapterChecks
    (supportedStepTypes : List WorkflowStepType)
    (validateStep : WorkflowStep → Option EngineError)
    (allowedOrigins : List JsString) :
    StepChecks :=
  { supportedStepTypes
    validateStep
    validateNavigationUrl := fun value =>
      (refusalOf
        (validateNavigationUrl parser.parseUrl (js value)
          allowedOrigins)).map thrown
    isVerificationUrl := isVerificationUrl parser.parseUrl
    isVerificationText }

/-- A request without runtime values, as the preflight reads it. -/
def preflightRequest
    (workflow : WorkflowDefinition)
    (options : WorkflowEngineExecutionOptions)
    (allowedOrigins : List JsString)
    (supportedStepTypes : List WorkflowStepType)
    (validateStep : WorkflowStep → Option EngineError) :
    RuntimeRequest :=
  let prepared := prepareAllowedOrigins parser allowedOrigins
  { workflow
    options := some options
    submission := some emptyInputs
    externalResolver := none
    envelopeValid := true
    verificationsHaveIssues :=
      !(analyzeWorkflowVerifications parser.parseUrl workflow).issues.isEmpty
    allowedOrigins := refusalOf prepared
    checks :=
      adapterChecks parser supportedStepTypes validateStep
        (prepared.toOption.getD []) }

end TaskTwin.Engine

/-!
## Ready workflows pass the preflight
-/

namespace TaskTwin.Engine

open Text Schema Workflow
open TaskTwin.Policy (Url isVisible)

variable {parser : UrlParser}

theorem toOption_eq_some
    {ε α : Type}
    {outcome : Except ε α}
    {value : α} :
    outcome.toOption = some value ↔ outcome = .ok value := by
  cases outcome <;> simp [Except.toOption]

theorem navigationOrigin_eq_some
    {value : String}
    {origin : JsString} :
    navigationOrigin parser value = some origin ↔
      ∃ url,
        parser.parseUrl (js value) = some url ∧ url.isHttp = true ∧
          (url.username = [] ∧ url.password = []) ∧ url.origin = origin := by
  simp only [navigationOrigin, Option.bind_eq_bind, Option.bind_eq_some_iff,
    toOption_eq_some, normalizeAllowedOrigins_singleton,
    validateNavigationUrl_eq_ok]
  constructor
  · rintro ⟨url, parsed, normalized, ⟨again, -, -, rfl⟩, other, accepted,
      isHead⟩
    obtain ⟨isOther, isHttp, noCredentials, isListed⟩ := accepted
    obtain rfl := Option.some.inj (parsed.symm.trans isOther)
    refine ⟨url, parsed, isHttp, noCredentials, ?_⟩
    rw [List.mem_singleton.mp isListed]
    exact Option.some.inj isHead
  · rintro ⟨url, parsed, isHttp, noCredentials, rfl⟩
    obtain ⟨again, isAgain, isBare, sameOrigin⟩ :=
      parser.origin_stable _ url parsed isHttp
    refine
      ⟨url, parsed, [again.origin], ⟨again, isAgain, isBare, rfl⟩, url,
        ⟨parsed, isHttp, noCredentials, ?_⟩, ?_⟩
    · rw [sameOrigin]
      exact List.mem_singleton_self _
    · rw [sameOrigin]
      rfl

/-- What is known about an origin that was pushed. -/
structure IsOrigin (parser : UrlParser) (origin : JsString) : Prop where
  stable :
    ∃ url,
      parser.parseUrl origin = some url ∧ url.isBareOrigin = true ∧
        url.origin = origin
  visible : ∀ symbol ∈ origin, isVisible symbol = true

theorem isOrigin_of_navigationOrigin
    {value : String}
    {origin : JsString}
    (pushed : navigationOrigin parser value = some origin) :
    IsOrigin parser origin := by
  obtain ⟨url, parsed, isHttp, -, rfl⟩ := navigationOrigin_eq_some.mp pushed
  exact
    { stable := parser.origin_stable _ url parsed isHttp
      visible := parser.origin_visible _ url parsed isHttp }

theorem IsOrigin.ne_nil
    {origin : JsString}
    (isOrigin : IsOrigin parser origin) :
    origin ≠ [] := by
  obtain ⟨url, parsed, -, -⟩ := isOrigin.stable
  intro isEmpty
  rw [isEmpty, parser.empty_throws] at parsed
  cases parsed

/-- The steps that push an origin. -/
theorem mem_snd_navigationFindings
    {step : WorkflowStep}
    {index : Nat}
    {origin : JsString} :
    origin ∈ (navigationFindings parser step index).2 ↔
      ∃ value,
        step.action = .navigate (.literal (.string value)) ∧
          navigationOrigin parser value = some origin := by
  have isSupported : supportedSteps.contains step.type = true := by
    cases step.type <;> rfl
  simp only [navigationFindings, isSupported, Bool.not_true,
    Bool.false_eq_true, if_false]
  split
  case h_1 value isNavigate =>
    split
    case h_1 pushed isPushed => simp [isNavigate, isPushed, eq_comm]
    case h_2 notPushed => simp [isNavigate, notPushed]
  case h_2 url notText isNavigate =>
    constructor
    · intro listed
      cases listed
    · rintro ⟨value, isText, -⟩
      rw [isNavigate] at isText
      cases isText
      exact absurd rfl (notText value)
  case h_3 notText notNavigate =>
    constructor
    · intro listed
      cases listed
    · rintro ⟨value, isText, -⟩
      exact absurd isText (notText value)

theorem mem_stepFindings_origins
    {workflow : WorkflowDefinition}
    {origin : JsString} :
    origin ∈ (stepFindings parser workflow).2 ↔
      ∃ step ∈ workflow.steps, ∃ value,
        step.action = .navigate (.literal (.string value)) ∧
          navigationOrigin parser value = some origin := by
  simp only [stepFindings, List.mem_flatMap, List.mem_map]
  constructor
  · rintro ⟨found, ⟨placed, isPlaced, rfl⟩, listed⟩
    obtain ⟨value, isNavigate, pushed⟩ :=
      mem_snd_navigationFindings.mp listed
    have isStep := List.mem_zipIdx_iff_getElem?.mp isPlaced
    exact
      ⟨placed.1, List.mem_of_getElem? isStep, value, isNavigate, pushed⟩
  · rintro ⟨step, isStep, value, isNavigate, pushed⟩
    obtain ⟨index, atIndex⟩ := List.mem_iff_getElem?.mp isStep
    exact
      ⟨_, ⟨(step, index), List.mem_zipIdx_iff_getElem?.mpr atIndex, rfl⟩,
        mem_snd_navigationFindings.mpr ⟨value, isNavigate, pushed⟩⟩

/-- The distinct origins of the addresses that can be visited. -/
def visitedOrigins
    (parser : UrlParser)
    (workflow : WorkflowDefinition) :
    List JsString :=
  distinctOrigins (stepFindings parser workflow).2

theorem mem_distinctOrigins
    {origins : List JsString}
    {origin : JsString} :
    origin ∈ distinctOrigins origins ↔ origin ∈ origins := by
  simp [distinctOrigins]

theorem nodup_distinctOrigins (origins : List JsString) :
    (distinctOrigins origins).Nodup :=
  List.nodup_reverse.mpr (List.nodup_dedup _)

theorem isOrigin_of_visited
    {workflow : WorkflowDefinition}
    {origin : JsString}
    (visited : origin ∈ visitedOrigins parser workflow) :
    IsOrigin parser origin := by
  obtain ⟨step, -, value, -, pushed⟩ :=
    mem_stepFindings_origins.mp (mem_distinctOrigins.mp visited)
  exact isOrigin_of_navigationOrigin pushed

/-- Every message is one of the analysis. -/
def IsFinding (issue : RunReadinessIssue) : Prop :=
  ∃ finding step, issue = Finding.issue finding step

theorem message_isTrimmedWithin (finding : Finding) :
    isTrimmedWithin maxReadinessMessageLength finding.message = true := by
  cases finding <;> decide +kernel

theorem isFinding_reportIf
    {condition : Bool}
    {finding : Finding}
    {issue : RunReadinessIssue}
    (listed : issue ∈ reportIf condition finding) :
    IsFinding issue := by
  rw [reportIf] at listed
  split at listed
  case isTrue holds =>
    exact ⟨finding, none, List.mem_singleton.mp listed⟩
  case isFalse fails => cases listed

theorem isFinding_navigationFindings
    {step : WorkflowStep}
    {index : Nat}
    {issue : RunReadinessIssue}
    (listed : issue ∈ (navigationFindings parser step index).1) :
    IsFinding issue := by
  simp only [navigationFindings] at listed
  split at listed
  · exact ⟨_, _, List.mem_singleton.mp listed⟩
  · split at listed
    · split at listed
      · cases listed
      · exact ⟨_, _, List.mem_singleton.mp listed⟩
    · exact ⟨_, _, List.mem_singleton.mp listed⟩
    · cases listed

theorem mem_of_uniqueIssues
    {issues : List RunReadinessIssue}
    {issue : RunReadinessIssue}
    (listed : issue ∈ uniqueIssues issues) :
    issue ∈ issues := by
  obtain ⟨placed, isPlaced, rfl⟩ := List.mem_map.mp listed
  have isListed :=
    List.mem_zipIdx_iff_getElem?.mp (List.mem_filter.mp isPlaced).1
  exact List.mem_of_getElem? isListed

/-- The first issue is never a repetition. -/
theorem uniqueIssues_eq_nil
    {issues : List RunReadinessIssue} :
    uniqueIssues issues = [] ↔ issues = [] := by
  constructor
  · intro noIssue
    cases issues with
    | nil => rfl
    | cons first rest =>
        have isUnique : first ∈ uniqueIssues (first :: rest) := by
          apply List.mem_map.mpr
          refine ⟨(first, 0), List.mem_filter.mpr ⟨?_, ?_⟩, rfl⟩
          · exact List.mem_zipIdx_iff_getElem?.mpr rfl
          · simp [List.findIdx?_cons]
        rw [noIssue] at isUnique
        cases isUnique
  · intro isEmpty
    rw [isEmpty]
    rfl

/-- The workflows whose report stays within the bounds of the schemas. -/
structure ReportFits
    (parser : UrlParser)
    (workflow : WorkflowDefinition) :
    Prop where
  /-- Steps that produce or read an output have short identifiers. -/
  dataFlow :
    ∀ step ∈ workflow.steps,
      step.InDataFlow → NonEmptyString.IsShort step.id
  /-- So have approval steps and the steps behind them. -/
  gates :
    ∀ index step,
      workflow.steps[index]? = some step →
        AtGate workflow index step → NonEmptyString.IsShort step.id
  fewGates : (approvalBindings workflow).length ≤ maxApprovalIssues
  fewOrigins : (visitedOrigins parser workflow).length ≤ maxReportedOrigins
  shortOrigins :
    ∀ origin ∈ visitedOrigins parser workflow,
      origin.length ≤ maxReportedOriginLength

variable {workflow : WorkflowDefinition}

theorem isFinding_workflowIssues
    {extraction : WorkflowExtractionAnalysis}
    {approvals : WorkflowApprovalAnalysis}
    {issue : RunReadinessIssue}
    (listed :
      issue ∈ workflowIssues parser workflow extraction approvals) :
    IsFinding issue := by
  simp only [workflowIssues, List.mem_append] at listed
  rcases listed with ((((((((isIssue | isIssue) | isIssue) | isIssue) |
    isIssue) | isIssue) | isIssue) | isIssue) | isIssue) | isIssue
  all_goals exact isFinding_reportIf isIssue

theorem readinessOf_parses_iff
    {extraction : WorkflowExtractionAnalysis}
    {approvals : WorkflowApprovalAnalysis} :
    (readinessOf parser workflow extraction approvals).parses parser = true ↔
      (visitedOrigins parser workflow).length ≤ maxReportedOrigins ∧
        ∀ origin ∈ visitedOrigins parser workflow,
          origin.length ≤ maxReportedOriginLength := by
  have messages :
      ∀ issue ∈ (readinessOf parser workflow extraction approvals).issues,
        isTrimmedWithin maxReadinessMessageLength issue.message = true := by
    intro issue listed
    have isIssue := mem_of_uniqueIssues listed
    have isFinding : IsFinding issue := by
      rcases List.mem_append.mp isIssue with earlier | isLast
      · rcases List.mem_append.mp earlier with isFirst | isStep
        · exact isFinding_workflowIssues isFirst
        · simp only [stepFindings, List.mem_flatMap, List.mem_map] at isStep
          obtain ⟨found, ⟨placed, -, rfl⟩, isFound⟩ := isStep
          exact isFinding_navigationFindings isFound
      · exact isFinding_reportIf isLast
    obtain ⟨finding, step, rfl⟩ := isFinding
    exact message_isTrimmedWithin finding
  have origins :
      (readinessOf parser workflow extraction approvals).allowedOrigins =
        visitedOrigins parser workflow :=
    rfl
  simp only [WorkflowRunReadinessReport.parses, Bool.and_eq_true,
    List.all_eq_true, decide_eq_true_eq, origins]
  constructor
  · rintro ⟨⟨few, short⟩, -⟩
    exact ⟨few, fun origin listed => (short origin listed).2⟩
  · rintro ⟨few, short⟩
    refine ⟨⟨few, ?_⟩, messages⟩
    intro origin listed
    obtain ⟨url, parsed, -, -⟩ := (isOrigin_of_visited listed).stable
    exact ⟨by rw [parsed]; rfl, short origin listed⟩

theorem invalidDefinitionReport_parses :
    invalidDefinitionReport.parse parser = some invalidDefinitionReport := by
  have parses : invalidDefinitionReport.parses parser = true := by
    simp only [WorkflowRunReadinessReport.parses, invalidDefinitionReport,
      List.length_nil, List.all_nil, List.all_cons, Bool.and_true,
      Finding.issue, message_isTrimmedWithin]
    rfl
  rw [WorkflowRunReadinessReport.parse, if_pos parses]

theorem analyzeWorkflowRunReadiness_eq_some
    {report : WorkflowRunReadinessReport} :
    analyzeWorkflowRunReadiness parser (some workflow) = some report ↔
      ∃ extraction approvals,
        analyzeWorkflowExtraction workflow = some extraction ∧
          analyzeWorkflowApprovals workflow = some approvals ∧
          (readinessOf parser workflow extraction approvals).parses parser =
            true ∧
          readinessOf parser workflow extraction approvals = report := by
  simp [analyzeWorkflowRunReadiness, Option.bind_eq_some_iff,
    WorkflowRunReadinessReport.parse, Option.ite_none_right_eq_some]

/-- The report about a definition is returned when it fits its schemas. -/
theorem analyzeWorkflowRunReadiness_isSome_iff
    {workflow : WorkflowDefinition} :
    (∃ report,
        analyzeWorkflowRunReadiness parser (some workflow) = some report) ↔
      ReportFits parser workflow := by
  simp only [analyzeWorkflowRunReadiness_eq_some]
  constructor
  · rintro ⟨report, extraction, approvals, isExtraction, isApprovals, parses,
      -⟩
    have extracted : (analyzeWorkflowExtraction workflow).isSome = true := by
      rw [isExtraction]
      rfl
    have approved : (analyzeWorkflowApprovals workflow).isSome = true := by
      rw [isApprovals]
      rfl
    obtain ⟨gates, fewGates⟩ := short_of_analyzeWorkflowApprovals approved
    obtain ⟨fewOrigins, shortOrigins⟩ := readinessOf_parses_iff.mp parses
    exact
      { dataFlow := fun step isStep inDataFlow =>
          short_of_analyzeWorkflowExtraction extracted isStep inDataFlow
        gates, fewGates, fewOrigins, shortOrigins }
  · intro fits
    obtain ⟨extraction, isExtraction⟩ :=
      Option.isSome_iff_exists.mp
        (analyzeWorkflowExtraction_isSome_of_short fits.dataFlow)
    obtain ⟨approvals, isApprovals⟩ :=
      Option.isSome_iff_exists.mp
        (analyzeWorkflowApprovals_isSome_of_short fits.gates fits.fewGates)
    have parses :
        (readinessOf parser workflow extraction approvals).parses parser =
          true :=
      readinessOf_parses_iff.mpr ⟨fits.fewOrigins, fits.shortOrigins⟩
    exact
      ⟨_, extraction, approvals, isExtraction, isApprovals, parses, rfl⟩

end TaskTwin.Engine

import TaskTwin.Policy.CanonicalJson
import TaskTwin.Workflow.Approval

/-!
# Evaluation of workflows

What a policy says about every step of a workflow.  The policy is brought into
canonical form first, and nothing else of it is looked at.
-/

namespace TaskTwin.Policy

open Text Schema Workflow Collection

def PolicyRiskLevel.strength : PolicyRiskLevel → Nat
  | .low => 0
  | .medium => 1
  | .high => 2
  | .critical => 3

def PolicyDecision.strength : PolicyDecision → Nat
  | .allow => 0
  | .requireApproval => 1
  | .deny => 2

def strongerRisk (left right : PolicyRiskLevel) : PolicyRiskLevel :=
  if right.strength ≤ left.strength then left else right

def strongerDecision (left right : PolicyDecision) : PolicyDecision :=
  if right.strength ≤ left.strength then left else right

def riskAtLeast (value threshold : PolicyRiskLevel) : Bool :=
  threshold.strength ≤ value.strength

def clickIntent : ClickActionIntent → WorkflowActionIntent
  | .changeState => .changeState
  | .submit => .submit
  | .send => .send
  | .delete => .delete
  | .purchase => .purchase
  | .permissionChange => .permissionChange
  | .unknown => .unknown

def deriveActionIntent (step : WorkflowStep) : WorkflowActionIntent :=
  match step.action with
  | .wait .. | .extract .. | .verify .. => .read
  | .navigate .. => .navigate
  | .fill .. => .enterData
  | .select .. | .setChecked .. => .changeState
  | .approval .. => .approvalGate
  | .click _ actionIntent => (actionIntent.map clickIntent).getD .unknown

def baseRiskForIntent
    (intent : WorkflowActionIntent)
    (unknownRisk : PolicyRiskLevel) :
    PolicyRiskLevel :=
  match intent with
  | .read | .navigate | .approvalGate => .low
  | .enterData | .changeState => .medium
  | .submit | .send => .high
  | .delete | .purchase | .permissionChange => .critical
  | .unknown => unknownRisk

inductive PolicyIssueCode where
  | unknownActionIntent
  | highRiskAction
  | multipleWorkflowOrigins
  | unsafeUrlScheme
  | urlCredentialsDenied
  | originInvalid
  | httpOriginDenied
  | originBlocked
  | originNotAllowed
  | actionDenied
  | approvalRequiredMissing
  | approvalBindingInvalid
  deriving DecidableEq, Repr

def PolicyIssueCode.text : PolicyIssueCode → String
  | .unknownActionIntent => "POLICY_UNKNOWN_ACTION_INTENT"
  | .highRiskAction => "POLICY_HIGH_RISK_ACTION"
  | .multipleWorkflowOrigins => "POLICY_MULTIPLE_WORKFLOW_ORIGINS"
  | .unsafeUrlScheme => "POLICY_UNSAFE_URL_SCHEME"
  | .urlCredentialsDenied => "POLICY_URL_CREDENTIALS_DENIED"
  | .originInvalid => "POLICY_ORIGIN_INVALID"
  | .httpOriginDenied => "POLICY_HTTP_ORIGIN_DENIED"
  | .originBlocked => "POLICY_ORIGIN_BLOCKED"
  | .originNotAllowed => "POLICY_ORIGIN_NOT_ALLOWED"
  | .actionDenied => "POLICY_ACTION_DENIED"
  | .approvalRequiredMissing => "POLICY_APPROVAL_REQUIRED_MISSING"
  | .approvalBindingInvalid => "POLICY_APPROVAL_BINDING_INVALID"

inductive IssueSeverity where
  | blocking
  | warning
  deriving DecidableEq, Repr

structure PolicyEvaluationIssue where
  code : PolicyIssueCode
  severity : IssueSeverity
  stepId : Option NonEmptyString
  stepIndex : Option Nat
  ruleId : Option JsString
  deriving DecidableEq, Repr

/-- `issue(code, severity, step, stepIndex)`. -/
def stepIssue
    (code : PolicyIssueCode)
    (severity : IssueSeverity)
    (step : Option WorkflowStep)
    (stepIndex : Option Nat) :
    PolicyEvaluationIssue :=
  { code
    severity
    stepId := step.map WorkflowStep.id
    stepIndex
    ruleId := none }

variable (platform : Platform)

/-- `compareIssues(left, right) <= 0`. -/
def issueNotAfter (left right : PolicyEvaluationIssue) : Bool :=
  let leftIndex : Int := (left.stepIndex.map Int.ofNat).getD (-1)
  let rightIndex : Int := (right.stepIndex.map Int.ofNat).getD (-1)
  let leftCode := js left.code.text
  let rightCode := js right.code.text
  if leftIndex ≠ rightIndex then leftIndex < rightIndex
  else if platform.notAfter leftCode rightCode &&
      platform.notAfter rightCode leftCode then
    platform.notAfter (left.ruleId.getD []) (right.ruleId.getD [])
  else
    platform.notAfter leftCode rightCode

structure OriginFact where
  origin : Option JsString
  safe : Bool
  loopback : Bool
  error : Option PolicyIssueCode
  deriving DecidableEq, Repr

def isLoopbackHostname (hostname : JsString) : Bool :=
  [js "localhost", js "127.0.0.1", js "[::1]"].contains
    (platform.toLowerCase hostname)

def inspectUrlOrigin (value : JsString) : OriginFact :=
  let refused (error : PolicyIssueCode) : OriginFact :=
    { origin := none, safe := false, loopback := false, error := some error }
  match platform.parseUrl value with
  | none => refused .originInvalid
  | some url =>
      if !url.username.isEmpty || !url.password.isEmpty then
        refused .urlCredentialsDenied
      else if !url.isHttp then refused .unsafeUrlScheme
      else
        { origin := some url.origin
          safe := true
          loopback := isLoopbackHostname platform url.hostname
          error := none }

/-- `originMatchesPattern`; a pattern that is not valid matches nothing, where
the code would throw. -/
def originMatchesPattern
    (originInput : JsString)
    (pattern : OriginPattern) :
    Bool :=
  match normalizeCanonicalOrigin platform originInput with
  | none => false
  | some origin =>
      match pattern with
      | .exact patternOrigin =>
          some origin == normalizeCanonicalOrigin platform patternOrigin
      | .httpsSubdomains patternDomain includeApex =>
          match platform.parseUrl origin,
              normalizeHttpsDomain platform patternDomain with
          | some url, some domain =>
              let hostname := platform.toLowerCase url.hostname
              url.protocol == js "https:" && url.port.isEmpty &&
                ((includeApex && hostname == domain) ||
                  (unit '.' :: domain).isSuffixOf hostname)
          | _, _ => false

def workflowDeclaredOrigins (workflow : WorkflowDefinition) : List JsString :=
  uniqueSorted platform (fun origin => origin)
    (workflow.steps.filterMap fun step =>
      match step.action with
      | .navigate (.literal (.string url)) =>
          let fact := inspectUrlOrigin platform (js url)
          if fact.safe then fact.origin else none
      | _ => none)

structure OriginDecision where
  decision : PolicyDecision
  origin : Option JsString
  code : Option PolicyIssueCode
  deriving DecidableEq, Repr

def originDecision
    (policy : WorkspaceExecutionPolicyDefinition)
    (declaredOrigins : List JsString)
    (urlValue : JsString) :
    OriginDecision :=
  let fact := inspectUrlOrigin platform urlValue
  match fact.safe, fact.origin with
  | true, some origin =>
      let isHttp :=
        (platform.parseUrl origin).any fun url => url.protocol == js "http:"
      if isHttp && (!fact.loopback || !policy.allowLoopbackHttp) then
        { decision := .deny
          origin := some origin
          code := some .httpOriginDenied }
      else if policy.blockedOrigins.any
          (originMatchesPattern platform origin) then
        { decision := .deny, origin := some origin, code := some .originBlocked }
      else
        let allowed :=
          match policy.mode with
          | .workflowDeclaredOrigins => declaredOrigins.contains origin
          | .explicitAllowlist =>
              policy.allowedOrigins.any (originMatchesPattern platform origin)
        if allowed then
          { decision := .allow, origin := some origin, code := none }
        else
          { decision := .deny
            origin := some origin
            code := some .originNotAllowed }
  | _, _ =>
      { decision := .deny
        origin := none
        code := some (fact.error.getD .originInvalid) }

def ruleMatches
    (rule : ActionPolicyRule)
    (step : WorkflowStep)
    (intent : WorkflowActionIntent)
    (origin : Option JsString) :
    Bool :=
  rule.stepTypes.all (·.contains step.type) &&
    rule.actionIntents.all (·.contains intent) &&
    rule.origins.all fun patterns =>
      origin.any fun origin =>
        patterns.any (originMatchesPattern platform origin)

def approvalRequired
    (policy : WorkspaceExecutionPolicyDefinition)
    (risk : PolicyRiskLevel) :
    Bool :=
  match policy.threshold with
  | .highOrAbove => riskAtLeast risk .high
  | .criticalOnly => risk == .critical

structure StepPolicyEvaluation where
  stepId : NonEmptyString
  stepIndex : Nat
  stepType : WorkflowStepType
  actionIntent : WorkflowActionIntent
  risk : PolicyRiskLevel
  decision : PolicyDecision
  matchedRuleIds : List JsString
  approvalRequired : Bool
  approvalSatisfied : Bool
  issues : List PolicyEvaluationIssue
  deriving DecidableEq, Repr

/-- What the address of a step says: its decision, its origin and its issues.
Steps that do not navigate stay at the current origin. -/
def addressOf
    (policy : WorkspaceExecutionPolicyDefinition)
    (declaredOrigins : List JsString)
    (step : WorkflowStep)
    (currentOrigin : Option JsString) :
    OriginDecision :=
  match step.action with
  | .navigate (.literal (.string url)) =>
      originDecision platform policy declaredOrigins (js url)
  | .navigate _ =>
      { decision := .deny, origin := none, code := some .originInvalid }
  | _ => { decision := .allow, origin := currentOrigin, code := none }

def evaluateStep
    (policy : WorkspaceExecutionPolicyDefinition)
    (declaredOrigins : List JsString)
    (bindings : List ApprovalBinding)
    (step : WorkflowStep)
    (stepIndex : Nat)
    (currentOrigin : Option JsString) :
    StepPolicyEvaluation × Option JsString :=
  let issue (code : PolicyIssueCode) (severity : IssueSeverity) :=
    stepIssue code severity (some step) (some stepIndex)
  let intent := deriveActionIntent step
  let address := addressOf platform policy declaredOrigins step currentOrigin
  let matchedRules :=
    policy.rules.filter fun rule =>
      ruleMatches platform rule step intent address.origin
  let risk :=
    (matchedRules.filterMap ActionPolicyRule.minimumRisk).foldl strongerRisk
      (baseRiskForIntent intent policy.unknownActionRisk)
  let ruleDecision :=
    (matchedRules.filterMap ActionPolicyRule.decision).foldl strongerDecision
      (strongerDecision .allow address.decision)
  let decision :=
    if risk = .critical then
      strongerDecision ruleDecision
        (match policy.criticalActionBehavior with
        | .deny => .deny
        | .requireApproval => .requireApproval)
    else if approvalRequired policy risk then
      strongerDecision ruleDecision .requireApproval
    else
      ruleDecision
  let requiresApproval := decision == .requireApproval
  let satisfied :=
    requiresApproval &&
      bindings.any fun binding =>
        binding.approvalStepIndex + 1 == stepIndex &&
          binding.gatedStepIndex == stepIndex
  let issues :=
    (if intent = .unknown then [issue .unknownActionIntent .warning] else []) ++
      (address.code.map fun code => issue code .blocking).toList ++
      (if riskAtLeast risk .high then [issue .highRiskAction .warning]
        else []) ++
      (if decision = .deny then [issue .actionDenied .blocking]
        else if requiresApproval && !satisfied then
          [issue .approvalRequiredMissing .blocking]
        else [])
  ({ stepId := step.id
     stepIndex
     stepType := step.type
     actionIntent := intent
     risk
     decision
     matchedRuleIds :=
       (matchedRules.map ActionPolicyRule.id).mergeSort platform.notAfter
     approvalRequired := requiresApproval
     approvalSatisfied := satisfied
     issues := issues.mergeSort (issueNotAfter platform) },
    address.origin)

/-- The steps in order, each at the origin that the one before it left. -/
def evaluateSteps
    (policy : WorkspaceExecutionPolicyDefinition)
    (declaredOrigins : List JsString)
    (bindings : List ApprovalBinding) :
    List (WorkflowStep × Nat) → Option JsString → List StepPolicyEvaluation
  | [], _ => []
  | (step, stepIndex) :: steps, currentOrigin =>
      let (result, nextOrigin) :=
        evaluateStep platform policy declaredOrigins bindings step stepIndex
          currentOrigin
      result :: evaluateSteps policy declaredOrigins bindings steps nextOrigin

structure WorkflowPolicyEvaluationInput where
  policy : WorkspaceExecutionPolicyDefinition
  workflow : WorkflowDefinition
  policyDigest : JsString
  workflowDigest : JsString

structure WorkflowPolicyEvaluation where
  policyDigest : JsString
  workflowDigest : JsString
  overallDecision : PolicyDecision
  highestRisk : PolicyRiskLevel
  steps : List StepPolicyEvaluation
  matchedRuleIds : List JsString
  issues : List PolicyEvaluationIssue
  hasBlockingIssues : Bool
  deriving DecidableEq, Repr

def isRuleIdText (text : JsString) : Bool :=
  hasLength 1 64 (trimText text)

def PolicyEvaluationIssue.parses (issue : PolicyEvaluationIssue) : Bool :=
  issue.stepId.all (fun stepId => isTrimmedWithin 256 stepId.text) &&
    issue.ruleId.all isRuleIdText

def StepPolicyEvaluation.parses (step : StepPolicyEvaluation) : Bool :=
  isTrimmedWithin 256 step.stepId.text &&
    step.matchedRuleIds.all isRuleIdText &&
    step.matchedRuleIds.length ≤ maxPolicyRules &&
    step.issues.all PolicyEvaluationIssue.parses &&
    step.issues.length ≤ maxPolicyIssues

/-- `WorkflowPolicyEvaluationSchema`. -/
def WorkflowPolicyEvaluation.parses
    (evaluation : WorkflowPolicyEvaluation) :
    Bool :=
  isSha256Hex evaluation.policyDigest &&
    isSha256Hex evaluation.workflowDigest &&
    evaluation.steps.all StepPolicyEvaluation.parses &&
    evaluation.steps.length ≤ maxPolicyIssues &&
    evaluation.matchedRuleIds.all isRuleIdText &&
    evaluation.matchedRuleIds.length ≤ maxPolicyRules &&
    evaluation.issues.all PolicyEvaluationIssue.parses &&
    evaluation.issues.length ≤ maxPolicyIssues

/-- The evaluation by a policy in canonical form. -/
def evaluateCanonical
    (policy : WorkspaceExecutionPolicyDefinition)
    (workflow : WorkflowDefinition)
    (policyDigest workflowDigest : JsString) :
    Option WorkflowPolicyEvaluation := do
  let declaredOrigins := workflowDeclaredOrigins platform workflow
  let approvalAnalysis ← analyzeWorkflowApprovals workflow
  let steps :=
    evaluateSteps platform policy declaredOrigins approvalAnalysis.bindings
      workflow.steps.zipIdx none
  let issues :=
    steps.flatMap StepPolicyEvaluation.issues ++
      (if 1 < declaredOrigins.length then
        [stepIssue .multipleWorkflowOrigins .warning none none]
      else []) ++
      approvalAnalysis.issues.map fun approvalIssue =>
        stepIssue .approvalBindingInvalid .blocking
          workflow.steps[approvalIssue.stepIndex]?
          (some approvalIssue.stepIndex)
  let evaluation : WorkflowPolicyEvaluation :=
    { policyDigest
      workflowDigest
      overallDecision :=
        (steps.map StepPolicyEvaluation.decision).foldl strongerDecision .allow
      highestRisk :=
        (steps.map StepPolicyEvaluation.risk).foldl strongerRisk .low
      steps
      matchedRuleIds :=
        uniqueSorted platform (fun ruleId => ruleId)
          (steps.flatMap StepPolicyEvaluation.matchedRuleIds)
      issues := issues.mergeSort (issueNotAfter platform)
      hasBlockingIssues := issues.any fun issue => issue.severity == .blocking }
  if evaluation.parses then some evaluation else none

/-- `evaluateWorkflowPolicy`; `none` when it throws. -/
def evaluateWorkflowPolicy
    (input : WorkflowPolicyEvaluationInput) :
    Option WorkflowPolicyEvaluation := do
  let parsed ← input.policy.parse platform
  if isSha256Hex input.policyDigest ∧ isSha256Hex input.workflowDigest then
    let policy ← canonicalizePolicyDefinition platform parsed
    evaluateCanonical platform policy input.workflow input.policyDigest
      input.workflowDigest
  else
    none

variable {platform}

theorem OriginPattern.parse_parsed
    {input pattern : OriginPattern}
    (isParsed : input.parse platform = some pattern) :
    pattern.parse platform = some pattern := by
  cases input <;>
    simp only [OriginPattern.parse, Option.ite_none_right_eq_some,
      Option.some.injEq] at isParsed <;>
    obtain ⟨valid, rfl⟩ := isParsed <;>
    simp only [OriginPattern.parse, trimText_trimText, valid, if_true]

theorem parsePatterns_parsed
    {values patterns : List OriginPattern}
    {minimum : Nat}
    (isParsed : parsePatterns platform minimum values = some patterns) :
    parsePatterns platform minimum patterns = some patterns := by
  rw [parsePatterns, Option.ite_none_right_eq_some] at isParsed
  obtain ⟨bounds, computed⟩ := isParsed
  have sameLength : values.length = patterns.length :=
    (mapM_eq_some_iff.mp computed).length_eq
  rw [parsePatterns, if_pos (sameLength ▸ bounds)]
  refine mapM_of_fixed ?_
  intro pattern listed
  obtain ⟨input, -, isPattern⟩ := (mem_of_mapM computed pattern).mp listed
  exact OriginPattern.parse_parsed isPattern

theorem ActionPolicyRule.parse_parsed
    {input rule : ActionPolicyRule}
    (isParsed : input.parse platform = some rule) :
    rule.parse platform = some rule := by
  simp only [ActionPolicyRule.parse, Option.bind_eq_bind,
    Option.bind_eq_some_iff, Option.ite_none_right_eq_some,
    Option.some.injEq] at isParsed
  obtain ⟨origins, isOrigins, valid, rfl⟩ := isParsed
  have parsedOrigins :
      optionally (parsePatterns platform 1) origins = some origins := by
    rw [optionally_eq_some_iff] at isOrigins
    generalize input.origins = inputOrigins at isOrigins
    cases isOrigins with
    | none => rfl
    | some computed =>
        rw [optionally, parsePatterns_parsed computed, Option.map_some]
  have sameSome : origins.isSome = input.origins.isSome := by
    rw [optionally_eq_some_iff] at isOrigins
    generalize input.origins = inputOrigins at isOrigins
    cases isOrigins <;> rfl
  rw [← sameSome] at valid
  simp only [ActionPolicyRule.parse, parsedOrigins, trimText_trimText,
    Option.bind_eq_bind, Option.bind_some]
  exact if_pos valid

/-- What a schema has read is read as it is. -/
theorem WorkspaceExecutionPolicyDefinition.parse_parsed
    {input policy : WorkspaceExecutionPolicyDefinition}
    (isParsed : input.parse platform = some policy) :
    policy.parse platform = some policy := by
  simp only [WorkspaceExecutionPolicyDefinition.parse, Option.bind_eq_bind,
    Option.bind_eq_some_iff, Option.ite_none_right_eq_some,
    Option.some.injEq] at isParsed
  obtain ⟨allowed, isAllowed, blocked, isBlocked, rules, isRules, valid, rfl⟩ :=
    isParsed
  have parsedRules :
      rules.mapM (ActionPolicyRule.parse platform) = some rules := by
    refine mapM_of_fixed ?_
    intro rule listed
    obtain ⟨inputRule, -, isRule⟩ := (mem_of_mapM isRules rule).mp listed
    exact ActionPolicyRule.parse_parsed isRule
  simp only [WorkspaceExecutionPolicyDefinition.parse,
    parsePatterns_parsed isAllowed, parsePatterns_parsed isBlocked,
    parsedRules, valid, Option.bind_eq_bind, Option.bind_some, and_self,
    if_true]

theorem canonicalize_parsed
    {input parsed : WorkspaceExecutionPolicyDefinition}
    (isParsed : input.parse platform = some parsed) :
    canonicalizePolicyDefinition platform parsed =
      canonicalizePolicyDefinition platform input := by
  simp only [canonicalizePolicyDefinition, isParsed,
    WorkspaceExecutionPolicyDefinition.parse_parsed isParsed,
    Option.bind_eq_bind, Option.bind_some]

/-- Valid policies with one canonical form evaluate alike. -/
theorem evaluateWorkflowPolicy_of_canonical
    {first second : WorkspaceExecutionPolicyDefinition}
    (valid : (first.parse platform).isSome = true)
    (valid' : (second.parse platform).isSome = true)
    (same :
      canonicalizePolicyDefinition platform first =
        canonicalizePolicyDefinition platform second)
    (workflow : WorkflowDefinition)
    (policyDigest workflowDigest : JsString) :
    evaluateWorkflowPolicy platform
        { policy := first, workflow, policyDigest, workflowDigest } =
      evaluateWorkflowPolicy platform
        { policy := second, workflow, policyDigest, workflowDigest } := by
  obtain ⟨parsed, isParsed⟩ := Option.isSome_iff_exists.mp valid
  obtain ⟨parsed', isParsed'⟩ := Option.isSome_iff_exists.mp valid'
  simp only [evaluateWorkflowPolicy, isParsed, isParsed',
    Option.bind_eq_bind, Option.bind_some, canonicalize_parsed isParsed,
    canonicalize_parsed isParsed', same]

/-- A policy with a canonical form is valid. -/
theorem parses_of_canonicalize
    {input policy : WorkspaceExecutionPolicyDefinition}
    (canonical : canonicalizePolicyDefinition platform input = some policy) :
    (input.parse platform).isSome = true := by
  simp only [canonicalizePolicyDefinition, Option.bind_eq_bind,
    Option.bind_eq_some_iff] at canonical
  obtain ⟨parsed, isParsed, -⟩ := canonical
  exact Option.isSome_iff_exists.mpr ⟨parsed, isParsed⟩

/-- The parts of the only address of this runtime. -/
def exampleUrl : Url :=
  { protocol := js "https:"
    username := []
    password := []
    hostname := js "example.com"
    port := []
    pathname := js "/"
    search := []
    hash := []
    origin := js "https://example.com" }

/-- A runtime that knows one address, the lower case of the basic letters and
the order of code units. -/
def exampleParseUrl (text : JsString) : Option Url :=
  if text = js "https://example.com" then some exampleUrl else none

def exampleToLowerCase (text : JsString) : JsString :=
  text.map fun symbol =>
    if CodeUnit.isUpper symbol then symbol + 32 else symbol

theorem exampleParseUrl_eq_some
    {text : JsString}
    {url : Url}
    (parsed : exampleParseUrl text = some url) :
    url = exampleUrl := by
  obtain ⟨-, isUrl⟩ := Option.ite_none_right_eq_some.mp parsed
  exact (Option.some.inj isUrl).symm

theorem exampleUrl_origin_parses :
    exampleParseUrl exampleUrl.origin = some exampleUrl := by
  decide

theorem exampleUrl_origin_visible :
    exampleUrl.origin.all isVisible = true := by
  decide

theorem not_isUpper_of_isDomainSymbol
    {symbol : CodeUnit}
    (isDomainSymbol : Policy.isDomainSymbol symbol = true) :
    CodeUnit.isUpper symbol = false := by
  have bounds :
      (unit 'a').val = 97 ∧ (unit 'z').val = 122 ∧
        (unit 'A').val = 65 ∧ (unit 'Z').val = 90 ∧
          (unit '0').val = 48 ∧ (unit '9').val = 57 ∧
            (unit '-').val = 45 ∧ (unit '.').val = 46 := by
    decide
  simp only [Policy.isDomainSymbol, CodeUnit.isLower, CodeUnit.isDigit,
    CodeUnit.within, Bool.or_eq_true, Bool.and_eq_true,
    decide_eq_true_eq, beq_iff_eq, Fin.le_def,
    Fin.ext_iff] at isDomainSymbol
  simp only [CodeUnit.isUpper, CodeUnit.within, Bool.and_eq_false_iff,
    decide_eq_false_iff_not, Fin.le_def]
  omega

theorem exampleToLowerCase_domain
    {text : JsString}
    (areSymbols : ∀ symbol ∈ text, Policy.isDomainSymbol symbol = true) :
    exampleToLowerCase text = text := by
  have unchanged : exampleToLowerCase text = text.map id :=
    List.map_congr_left fun symbol isSymbol => by
      simp [not_isUpper_of_isDomainSymbol (areSymbols symbol isSymbol)]
  exact unchanged.trans (List.map_id text)

def examplePlatform : Platform :=
  { parseUrl := exampleParseUrl
    toLowerCase := exampleToLowerCase
    notAfter := fun first second => decide (first ≤ second)
    origin_stable := by
      intro text url parsed _
      obtain rfl := exampleParseUrl_eq_some parsed
      exact ⟨exampleUrl, exampleUrl_origin_parses, rfl, rfl⟩
    origin_visible := by
      intro text url parsed _
      obtain rfl := exampleParseUrl_eq_some parsed
      exact List.all_eq_true.mp exampleUrl_origin_visible
    toLowerCase_domain := by
      intro text areSymbols
      exact exampleToLowerCase_domain areSymbols
    notAfter_trans := by
      intro first second third firstSecond secondThird
      simp only [decide_eq_true_eq] at firstSecond secondThird ⊢
      exact le_trans firstSecond secondThird
    notAfter_total := by
      intro first second
      simpa using le_total first second
    notAfter_antisymm := by
      intro first second _ _ firstSecond secondFirst
      simp only [decide_eq_true_eq] at firstSecond secondFirst
      exact le_antisymm firstSecond secondFirst }

/-- A rule about one intent and one origin. -/
def exampleRule
    (id : String)
    (intents : List WorkflowActionIntent)
    (decision : PolicyDecision) :
    ActionPolicyRule :=
  { id := js id
    stepTypes := none
    actionIntents := some intents
    origins := some [.exact (js "https://example.com")]
    minimumRisk := some .high
    decision := some decision }

def examplePolicy
    (allowedOrigins : List OriginPattern)
    (rules : List ActionPolicyRule) :
    WorkspaceExecutionPolicyDefinition :=
  { mode := .explicitAllowlist
    allowedOrigins
    blockedOrigins := []
    allowLoopbackHttp := false
    unknownActionRisk := .medium
    threshold := .highOrAbove
    criticalActionBehavior := .deny
    rules }

def examplePolicies :
    WorkspaceExecutionPolicyDefinition × WorkspaceExecutionPolicyDefinition :=
  let origin : OriginPattern := .exact (js "https://example.com")
  (examplePolicy [origin]
      [exampleRule "alpha" [.send, .delete] .requireApproval,
        exampleRule "beta" [.purchase] .deny],
    examplePolicy [origin, origin]
      [exampleRule "beta" [.purchase, .purchase] .deny,
        exampleRule "alpha" [.delete, .send, .delete] .requireApproval])

end TaskTwin.Policy

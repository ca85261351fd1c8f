import TaskTwin.Policy.Evaluation

/-!
# Tightening a policy

A policy with one more rule, with one more blocked origin or with one allowed
origin fewer decides every step at least as strictly.  The lists of a policy
only ever add reasons to refuse, and the origin at which a step acts does not
depend on them.
-/

namespace TaskTwin.Policy

open Text Schema Workflow Collection

/-- What is chosen from many is bounded by what bounds each of them. -/
theorem foldl_strength_le
    {α : Type}
    {strength : α → Nat}
    {stronger : α → α → α}
    (joins :
      ∀ left right bound,
        strength (stronger left right) ≤ bound ↔
          strength left ≤ bound ∧ strength right ≤ bound)
    {values : List α}
    {start : α}
    {bound : Nat} :
    strength (values.foldl stronger start) ≤ bound ↔
      strength start ≤ bound ∧ ∀ value ∈ values, strength value ≤ bound := by
  induction values generalizing start with
  | nil => simp
  | cons value values inductionHypothesis =>
      rw [List.foldl_cons, inductionHypothesis, joins, List.forall_mem_cons,
        and_assoc]

/-- More to choose from is stronger. -/
theorem foldl_strength_mono
    {α : Type}
    {strength : α → Nat}
    {stronger : α → α → α}
    (joins :
      ∀ left right bound,
        strength (stronger left right) ≤ bound ↔
          strength left ≤ bound ∧ strength right ≤ bound)
    {values others : List α}
    {start start' : α}
    (among : values ⊆ others)
    (starts : strength start ≤ strength start') :
    strength (values.foldl stronger start) ≤
      strength (others.foldl stronger start') := by
  obtain ⟨fromStart, fromOthers⟩ :=
    (foldl_strength_le joins).mp (Nat.le_refl
      (strength (others.foldl stronger start')))
  refine (foldl_strength_le joins).mpr ⟨Nat.le_trans starts fromStart, ?_⟩
  intro value listed
  exact fromOthers value (among listed)

theorem strongerRisk_le
    (left right : PolicyRiskLevel)
    (bound : Nat) :
    (strongerRisk left right).strength ≤ bound ↔
      left.strength ≤ bound ∧ right.strength ≤ bound := by
  rw [strongerRisk]
  split
  case isTrue leftStronger =>
    exact ⟨fun below => ⟨below, Nat.le_trans leftStronger below⟩, And.left⟩
  case isFalse rightStronger =>
    exact ⟨fun below => ⟨by omega, below⟩, And.right⟩

theorem strongerDecision_le
    (left right : PolicyDecision)
    (bound : Nat) :
    (strongerDecision left right).strength ≤ bound ↔
      left.strength ≤ bound ∧ right.strength ≤ bound := by
  rw [strongerDecision]
  split
  case isTrue leftStronger =>
    exact ⟨fun below => ⟨below, Nat.le_trans leftStronger below⟩, And.left⟩
  case isFalse rightStronger =>
    exact ⟨fun below => ⟨by omega, below⟩, And.right⟩

theorem strongerDecision_mono
    {left right left' right' : PolicyDecision}
    (lefts : left.strength ≤ left'.strength)
    (rights : right.strength ≤ right'.strength) :
    (strongerDecision left right).strength ≤
      (strongerDecision left' right').strength := by
  have bounds :=
    (strongerDecision_le left' right' _).mp (Nat.le_refl _)
  exact (strongerDecision_le left right _).mpr
    ⟨Nat.le_trans lefts bounds.1, Nat.le_trans rights bounds.2⟩

theorem left_le_strongerDecision (left right : PolicyDecision) :
    left.strength ≤ (strongerDecision left right).strength :=
  ((strongerDecision_le left right _).mp (Nat.le_refl _)).1

variable {platform : Platform}

/-- A policy that differs by what it lists, and refuses more. -/
structure Tightened (policy policy' : WorkspaceExecutionPolicyDefinition) :
    Prop where
  mode : policy'.mode = policy.mode
  allowedOrigins : policy'.allowedOrigins ⊆ policy.allowedOrigins
  blockedOrigins : policy.blockedOrigins ⊆ policy'.blockedOrigins
  allowLoopbackHttp : policy'.allowLoopbackHttp = policy.allowLoopbackHttp
  unknownActionRisk : policy'.unknownActionRisk = policy.unknownActionRisk
  threshold : policy'.threshold = policy.threshold
  criticalActionBehavior :
    policy'.criticalActionBehavior = policy.criticalActionBehavior
  rules : policy.rules ⊆ policy'.rules

/-- One change that tightens a policy, anywhere in its lists. -/
inductive TightenedOnce (policy : WorkspaceExecutionPolicyDefinition) :
    WorkspaceExecutionPolicyDefinition → Prop where
  | ruleAdded
      (before after : List ActionPolicyRule)
      (rule : ActionPolicyRule)
      (listed : policy.rules = before ++ after) :
      TightenedOnce policy { policy with rules := before ++ rule :: after }
  | originBlocked
      (before after : List OriginPattern)
      (pattern : OriginPattern)
      (listed : policy.blockedOrigins = before ++ after) :
      TightenedOnce policy
        { policy with blockedOrigins := before ++ pattern :: after }
  | originNoLongerAllowed
      (before after : List OriginPattern)
      (pattern : OriginPattern)
      (listed : policy.allowedOrigins = before ++ pattern :: after)
      (nonEmpty : before ++ after ≠ []) :
      TightenedOnce policy { policy with allowedOrigins := before ++ after }

theorem subset_insert
    {α : Type}
    (before after : List α)
    (value : α) :
    before ++ after ⊆ before ++ value :: after :=
  List.append_subset.mpr
    ⟨List.subset_append_left _ _,
      List.Subset.trans (List.subset_cons_self _ _)
        (List.subset_append_right _ _)⟩

theorem TightenedOnce.tightened
    {policy policy' : WorkspaceExecutionPolicyDefinition}
    (once : TightenedOnce policy policy') :
    Tightened policy policy' := by
  cases once with
  | ruleAdded before after rule listed =>
      have among := subset_insert before after rule
      rw [← listed] at among
      exact ⟨rfl, List.Subset.refl _, List.Subset.refl _, rfl, rfl, rfl, rfl,
        among⟩
  | originBlocked before after pattern listed =>
      have among := subset_insert before after pattern
      rw [← listed] at among
      exact ⟨rfl, List.Subset.refl _, among, rfl, rfl, rfl, rfl,
        List.Subset.refl _⟩
  | originNoLongerAllowed before after pattern listed nonEmpty =>
      have among := subset_insert before after pattern
      rw [← listed] at among
      exact ⟨rfl, among, List.Subset.refl _, rfl, rfl, rfl, rfl,
        List.Subset.refl _⟩

theorem canonicalizeOriginPattern_parsed
    {input parsed : OriginPattern}
    (isParsed : input.parse platform = some parsed) :
    canonicalizeOriginPattern platform parsed =
      canonicalizeOriginPattern platform input := by
  rw [canonicalizeOriginPattern, canonicalizeOriginPattern, isParsed,
    OriginPattern.parse_parsed isParsed]

/-- What the canonical list of patterns consists of. -/
theorem mem_canonicalPatterns
    {inputs parsed patterns canonical : List OriginPattern}
    {minimum minimum' : Nat}
    (isParsed : parsePatterns platform minimum inputs = some parsed)
    (isCanonical : canonicalizePatterns platform parsed = some patterns)
    (isRead : parsePatterns platform minimum' patterns = some canonical)
    (pattern : OriginPattern) :
    pattern ∈ canonical ↔
      ∃ input ∈ inputs,
        canonicalizeOriginPattern platform input = some pattern := by
  obtain ⟨rfl, -⟩ := canonicalizePatterns_fixed isCanonical isRead
  obtain ⟨forms, computed, ordered⟩ := canonicalizePatterns_spec isCanonical
  rw [parsePatterns, Option.ite_none_right_eq_some] at isParsed
  rw [ordered.same pattern, mem_of_mapM computed pattern]
  constructor
  · rintro ⟨form, isForm, canonicalForm⟩
    obtain ⟨input, isInput, inputParsed⟩ :=
      (mem_of_mapM isParsed.2 form).mp isForm
    refine ⟨input, isInput, ?_⟩
    rw [← canonicalizeOriginPattern_parsed inputParsed]
    exact canonicalForm
  · rintro ⟨input, isInput, canonicalInput⟩
    have isSome :=
      mapM_isSome_iff.mp (Option.isSome_iff_exists.mpr ⟨_, isParsed.2⟩) input
        isInput
    obtain ⟨form, inputParsed⟩ := Option.isSome_iff_exists.mp isSome
    refine ⟨form, (mem_of_mapM isParsed.2 form).mpr
      ⟨input, isInput, inputParsed⟩, ?_⟩
    rw [canonicalizeOriginPattern_parsed inputParsed]
    exact canonicalInput

/-- The canonical form of a rule that may not be valid yet. -/
def canonicalRule (platform : Platform) (rule : ActionPolicyRule) :
    Option ActionPolicyRule :=
  (rule.parse platform).bind (canonicalizeRule platform)

/-- What the canonical list of rules consists of. -/
theorem mem_canonicalRules
    {inputs parsed rules canonical : List ActionPolicyRule}
    (valid : ValidRules parsed)
    (isParsed : inputs.mapM (ActionPolicyRule.parse platform) = some parsed)
    (isCanonical : canonicalizeRules platform parsed = some rules)
    (isRead : rules.mapM (ActionPolicyRule.parse platform) = some canonical)
    (rule : ActionPolicyRule) :
    rule ∈ canonical ↔
      ∃ input ∈ inputs, canonicalRule platform input = some rule := by
  obtain ⟨rfl, -⟩ := canonicalizeRules_fixed valid isCanonical isRead
  obtain ⟨forms, computed, rfl⟩ := Option.map_eq_some_iff.mp isCanonical
  rw [(List.mergeSort_perm forms _).mem_iff, mem_of_mapM computed rule]
  constructor
  · rintro ⟨form, isForm, canonicalForm⟩
    obtain ⟨input, isInput, inputParsed⟩ :=
      (mem_of_mapM isParsed form).mp isForm
    exact ⟨input, isInput, by rw [canonicalRule, inputParsed]; exact canonicalForm⟩
  · rintro ⟨input, isInput, canonicalInput⟩
    obtain ⟨form, inputParsed, canonicalForm⟩ :=
      Option.bind_eq_some_iff.mp canonicalInput
    exact ⟨form, (mem_of_mapM isParsed form).mpr ⟨input, isInput, inputParsed⟩,
      canonicalForm⟩

/-- What the canonical form of a policy says. -/
structure CanonicalForm
    (platform : Platform)
    (input policy : WorkspaceExecutionPolicyDefinition) : Prop where
  mode : policy.mode = input.mode
  allowedOrigins :
    ∀ pattern,
      pattern ∈ policy.allowedOrigins ↔
        ∃ listed ∈ input.allowedOrigins,
          canonicalizeOriginPattern platform listed = some pattern
  blockedOrigins :
    ∀ pattern,
      pattern ∈ policy.blockedOrigins ↔
        ∃ listed ∈ input.blockedOrigins,
          canonicalizeOriginPattern platform listed = some pattern
  allowLoopbackHttp : policy.allowLoopbackHttp = input.allowLoopbackHttp
  unknownActionRisk : policy.unknownActionRisk = input.unknownActionRisk
  threshold : policy.threshold = input.threshold
  criticalActionBehavior :
    policy.criticalActionBehavior = input.criticalActionBehavior
  rules :
    ∀ rule,
      rule ∈ policy.rules ↔
        ∃ listed ∈ input.rules, canonicalRule platform listed = some rule

theorem canonicalizePolicyDefinition_spec
    {input policy : WorkspaceExecutionPolicyDefinition}
    (canonical : canonicalizePolicyDefinition platform input = some policy) :
    CanonicalForm platform input policy := by
  simp only [canonicalizePolicyDefinition, Option.bind_eq_bind,
    Option.bind_eq_some_iff] at canonical
  obtain ⟨parsed, isParsed, ordered, isOrdered, isPolicy⟩ := canonical
  have valid := WorkspaceExecutionPolicyDefinition.parse_rules isParsed
  simp only [WorkspaceExecutionPolicyDefinition.parse, Option.bind_eq_bind,
    Option.bind_eq_some_iff, Option.ite_none_right_eq_some,
    Option.some.injEq] at isParsed isPolicy
  obtain ⟨allowed, isAllowed, blocked, isBlocked, rules, isRules, -, rfl⟩ :=
    isParsed
  simp only [orderPolicy, Option.bind_eq_bind, Option.bind_eq_some_iff,
    Option.some.injEq] at isOrdered
  obtain ⟨allowed', orderedAllowed, blocked', orderedBlocked, rules',
    orderedRules, rfl⟩ := isOrdered
  obtain ⟨allowed'', readAllowed, blocked'', readBlocked, rules'', readRules,
    -, rfl⟩ := isPolicy
  constructor
  case allowedOrigins =>
    exact mem_canonicalPatterns isAllowed orderedAllowed readAllowed
  case blockedOrigins =>
    exact mem_canonicalPatterns isBlocked orderedBlocked readBlocked
  case rules => exact mem_canonicalRules valid isRules orderedRules readRules
  all_goals rfl

/-- Canonical forms of tightened policies are tightened. -/
theorem Tightened.canonical
    {policy policy' canonical canonical' : WorkspaceExecutionPolicyDefinition}
    (tightened : Tightened policy policy')
    (form : CanonicalForm platform policy canonical)
    (form' : CanonicalForm platform policy' canonical') :
    Tightened canonical canonical' := by
  constructor
  case mode => rw [form.mode, form'.mode, tightened.mode]
  case allowedOrigins =>
    intro pattern listed
    obtain ⟨input, isInput, isForm⟩ := (form'.allowedOrigins pattern).mp listed
    exact (form.allowedOrigins pattern).mpr
      ⟨input, tightened.allowedOrigins isInput, isForm⟩
  case blockedOrigins =>
    intro pattern listed
    obtain ⟨input, isInput, isForm⟩ := (form.blockedOrigins pattern).mp listed
    exact (form'.blockedOrigins pattern).mpr
      ⟨input, tightened.blockedOrigins isInput, isForm⟩
  case allowLoopbackHttp =>
    rw [form.allowLoopbackHttp, form'.allowLoopbackHttp,
      tightened.allowLoopbackHttp]
  case unknownActionRisk =>
    rw [form.unknownActionRisk, form'.unknownActionRisk,
      tightened.unknownActionRisk]
  case threshold => rw [form.threshold, form'.threshold, tightened.threshold]
  case criticalActionBehavior =>
    rw [form.criticalActionBehavior, form'.criticalActionBehavior,
      tightened.criticalActionBehavior]
  case rules =>
    intro rule listed
    obtain ⟨input, isInput, isForm⟩ := (form.rules rule).mp listed
    exact (form'.rules rule).mpr ⟨input, tightened.rules isInput, isForm⟩

section Parts

variable
  (platform : Platform)
  (policy : WorkspaceExecutionPolicyDefinition)
  (declaredOrigins : List JsString)
  (bindings : List ApprovalBinding)
  (step : WorkflowStep)

/-- The network mode allows an origin. -/
def isAllowedOrigin (origin : JsString) : Bool :=
  match policy.mode with
  | .workflowDeclaredOrigins => declaredOrigins.contains origin
  | .explicitAllowlist =>
      policy.allowedOrigins.any (originMatchesPattern platform origin)

/-- Why an origin is refused. -/
def networkCode (origin : JsString) (loopback : Bool) :
    Option PolicyIssueCode :=
  if ((platform.parseUrl origin).any fun url => url.protocol == js "http:") &&
      (!loopback || !policy.allowLoopbackHttp) then
    some .httpOriginDenied
  else if policy.blockedOrigins.any (originMatchesPattern platform origin) then
    some .originBlocked
  else if isAllowedOrigin platform policy declaredOrigins origin then
    none
  else
    some .originNotAllowed

theorem originDecision_eq (urlValue : JsString) :
    originDecision platform policy declaredOrigins urlValue =
      match (inspectUrlOrigin platform urlValue).safe,
          (inspectUrlOrigin platform urlValue).origin with
      | true, some origin =>
          let code :=
            networkCode platform policy declaredOrigins origin
              (inspectUrlOrigin platform urlValue).loopback
          { decision := if code.isSome then .deny else .allow
            origin := some origin
            code }
      | _, _ =>
          { decision := .deny
            origin := none
            code :=
              some
                ((inspectUrlOrigin platform urlValue).error.getD
                  .originInvalid) } := by
  rw [originDecision]
  generalize inspectUrlOrigin platform urlValue = fact
  obtain ⟨origin, safe, loopback, error⟩ := fact
  cases safe with
  | false => rfl
  | true =>
      cases origin with
      | none => rfl
      | some origin =>
          simp only [networkCode]
          split
          case isTrue => rfl
          case isFalse =>
            split
            case isTrue => rfl
            case isFalse =>
              by_cases allowed :
                isAllowedOrigin platform policy declaredOrigins origin = true
              case pos => exact (if_pos allowed).trans (by simp [allowed])
              case neg => exact (if_neg allowed).trans (by simp [allowed])

/-- The rules that match a step at an origin. -/
def matchedRules (origin : Option JsString) : List ActionPolicyRule :=
  policy.rules.filter fun rule =>
    ruleMatches platform rule step (deriveActionIntent step) origin

def stepRisk (origin : Option JsString) : PolicyRiskLevel :=
  ((matchedRules platform policy step origin).filterMap
      ActionPolicyRule.minimumRisk).foldl strongerRisk
    (baseRiskForIntent (deriveActionIntent step) policy.unknownActionRisk)

/-- The decision of the address of a step and of the rules that match it. -/
def ruleDecision (address : OriginDecision) : PolicyDecision :=
  ((matchedRules platform policy step address.origin).filterMap
      ActionPolicyRule.decision).foldl strongerDecision
    (strongerDecision .allow address.decision)

/-- The decision that a critical action is given. -/
def criticalDecision : CriticalActionBehavior → PolicyDecision
  | .deny => .deny
  | .requireApproval => .requireApproval

def stepDecision (address : OriginDecision) : PolicyDecision :=
  if stepRisk platform policy step address.origin = .critical then
    strongerDecision (ruleDecision platform policy step address)
      (criticalDecision policy.criticalActionBehavior)
  else if approvalRequired policy
      (stepRisk platform policy step address.origin) then
    strongerDecision (ruleDecision platform policy step address)
      .requireApproval
  else
    ruleDecision platform policy step address

/-- An approval is bound to the step. -/
def isApproved (bindings : List ApprovalBinding) (stepIndex : Nat) : Bool :=
  bindings.any fun binding =>
    binding.approvalStepIndex + 1 == stepIndex &&
      binding.gatedStepIndex == stepIndex

/-- A decision that stops the step. -/
def isStopped
    (bindings : List ApprovalBinding)
    (stepIndex : Nat)
    (decision : PolicyDecision) :
    Bool :=
  decision == .deny ||
    (decision == .requireApproval && !isApproved bindings stepIndex)

variable (stepIndex : Nat) (currentOrigin : Option JsString)

theorem evaluateStep_risk :
    (evaluateStep platform policy declaredOrigins bindings step stepIndex
        currentOrigin).1.risk =
      stepRisk platform policy step
        (addressOf platform policy declaredOrigins step currentOrigin).origin :=
  rfl

theorem evaluateStep_decision :
    (evaluateStep platform policy declaredOrigins bindings step stepIndex
        currentOrigin).1.decision =
      stepDecision platform policy step
        (addressOf platform policy declaredOrigins step currentOrigin) := by
  simp only [evaluateStep, stepDecision, ruleDecision, stepRisk, matchedRules]
  cases policy.criticalActionBehavior <;> rfl

/-- The issues of a step, in the order in which they are found. -/
def stepIssues
    (address : OriginDecision)
    (risk : PolicyRiskLevel)
    (decision : PolicyDecision) :
    List PolicyEvaluationIssue :=
  let issue (code : PolicyIssueCode) (severity : IssueSeverity) :=
    stepIssue code severity (some step) (some stepIndex)
  (if deriveActionIntent step = .unknown then
      [issue .unknownActionIntent .warning]
    else []) ++
    (address.code.map fun code => issue code .blocking).toList ++
    (if riskAtLeast risk .high then [issue .highRiskAction .warning] else []) ++
    (if decision = .deny then [issue .actionDenied .blocking]
      else if decision == .requireApproval &&
          !(decision == .requireApproval && isApproved bindings stepIndex) then
        [issue .approvalRequiredMissing .blocking]
      else [])

theorem evaluateStep_issues :
    (evaluateStep platform policy declaredOrigins bindings step stepIndex
        currentOrigin).1.issues =
      (stepIssues bindings step stepIndex
        (addressOf platform policy declaredOrigins step currentOrigin)
        (evaluateStep platform policy declaredOrigins bindings step stepIndex
          currentOrigin).1.risk
        (evaluateStep platform policy declaredOrigins bindings step stepIndex
          currentOrigin).1.decision).mergeSort (issueNotAfter platform) :=
  rfl

end Parts

/-- An address is refused as before, and its origin stays the same. -/
structure AddressTightened (address address' : OriginDecision) : Prop where
  origin : address'.origin = address.origin
  decision : address.decision.strength ≤ address'.decision.strength
  code : address.code.isSome = true → address'.code.isSome = true

/-- What a critical action is given is at least an approval. -/
theorem requireApproval_le_critical (behavior : CriticalActionBehavior) :
    PolicyDecision.requireApproval.strength ≤
      (criticalDecision behavior).strength := by
  cases behavior <;> decide

theorem critical_of_le
    {risk : PolicyRiskLevel}
    (atLeast : PolicyRiskLevel.critical.strength ≤ risk.strength) :
    risk = .critical := by
  cases risk <;> first | rfl | exact absurd atLeast (by decide)

section Steps

variable
  {policy policy' : WorkspaceExecutionPolicyDefinition}
  (tightened : Tightened policy policy')

include tightened

variable (declaredOrigins : List JsString) (step : WorkflowStep)

theorem networkCode_mono
    (origin : JsString)
    (loopback : Bool)
    (refused :
      (networkCode platform policy declaredOrigins origin loopback).isSome =
        true) :
    (networkCode platform policy' declaredOrigins origin loopback).isSome =
      true := by
  rw [networkCode] at refused ⊢
  rw [tightened.allowLoopbackHttp]
  split at refused
  case isTrue isHttp =>
    rw [if_pos isHttp]
    rfl
  case isFalse notHttp =>
    rw [if_neg notHttp]
    split at refused
    case isTrue isBlocked =>
      obtain ⟨pattern, listed, isMatch⟩ := List.any_eq_true.mp isBlocked
      rw [if_pos (List.any_eq_true.mpr
        ⟨pattern, tightened.blockedOrigins listed, isMatch⟩)]
      rfl
    case isFalse =>
      split at refused
      case isTrue => cases refused
      case isFalse notAllowed =>
        have stillNotAllowed :
            ¬isAllowedOrigin platform policy' declaredOrigins origin = true := by
          intro allowed
          rw [isAllowedOrigin, tightened.mode] at allowed
          rw [isAllowedOrigin] at notAllowed
          cases mode : policy.mode with
          | workflowDeclaredOrigins =>
              rw [mode] at allowed notAllowed
              exact notAllowed allowed
          | explicitAllowlist =>
              rw [mode] at allowed notAllowed
              obtain ⟨pattern, listed, isMatch⟩ := List.any_eq_true.mp allowed
              exact notAllowed (List.any_eq_true.mpr
                ⟨pattern, tightened.allowedOrigins listed, isMatch⟩)
        rw [if_neg stillNotAllowed]
        split <;> rfl

theorem originDecision_mono
    (urlValue : JsString) :
    AddressTightened
      (originDecision platform policy declaredOrigins urlValue)
      (originDecision platform policy' declaredOrigins urlValue) := by
  rw [originDecision_eq, originDecision_eq]
  split
  case h_1 origin _ _ =>
    have refuses :=
      @networkCode_mono platform _ _ tightened declaredOrigins origin
        (inspectUrlOrigin platform urlValue).loopback
    refine ⟨rfl, ?_, refuses⟩
    dsimp only
    split
    case isTrue refused => rw [if_pos (refuses refused)]
    case isFalse => exact Nat.zero_le _
  case h_2 => exact ⟨rfl, Nat.le_refl _, id⟩

theorem addressOf_mono
    (currentOrigin : Option JsString) :
    AddressTightened
      (addressOf platform policy declaredOrigins step currentOrigin)
      (addressOf platform policy' declaredOrigins step currentOrigin) := by
  unfold addressOf
  split
  case h_1 => exact originDecision_mono tightened declaredOrigins _
  case h_2 => exact ⟨rfl, Nat.le_refl _, id⟩
  case h_3 => exact ⟨rfl, Nat.le_refl _, id⟩

theorem matchedRules_subset
    (origin : Option JsString) :
    matchedRules platform policy step origin ⊆
      matchedRules platform policy' step origin :=
  List.filter_subset _ tightened.rules

theorem stepRisk_mono
    (origin : Option JsString) :
    (stepRisk platform policy step origin).strength ≤
      (stepRisk platform policy' step origin).strength := by
  rw [stepRisk, stepRisk, tightened.unknownActionRisk]
  exact foldl_strength_mono strongerRisk_le
    (List.filterMap_subset _ (matchedRules_subset tightened step origin))
    (Nat.le_refl _)

variable {address address' : OriginDecision}

theorem ruleDecision_mono
    (step : WorkflowStep)
    (addresses : AddressTightened address address') :
    (ruleDecision platform policy step address).strength ≤
      (ruleDecision platform policy' step address').strength := by
  rw [ruleDecision, ruleDecision, addresses.origin]
  exact foldl_strength_mono strongerDecision_le
    (List.filterMap_subset _ (matchedRules_subset tightened step _))
    (strongerDecision_mono (Nat.le_refl _) addresses.decision)

theorem approvalRequired_mono
    {risk risk' : PolicyRiskLevel}
    (risks : risk.strength ≤ risk'.strength)
    (required : approvalRequired policy risk = true) :
    approvalRequired policy' risk' = true := by
  rw [approvalRequired] at required ⊢
  rw [tightened.threshold]
  cases threshold : policy.threshold with
  | highOrAbove =>
      rw [threshold] at required
      simp only [riskAtLeast, decide_eq_true_eq] at required ⊢
      exact Nat.le_trans required risks
  | criticalOnly =>
      rw [threshold] at required
      have isCritical : risk = .critical := by simpa using required
      rw [isCritical] at risks
      simpa using critical_of_le risks

theorem stepDecision_mono
    (step : WorkflowStep)
    (addresses : AddressTightened address address') :
    (stepDecision platform policy step address).strength ≤
      (stepDecision platform policy' step address').strength := by
  have risks := @stepRisk_mono platform _ _ tightened step address.origin
  have rules := @ruleDecision_mono platform _ _ tightened _ _ step addresses
  rw [stepDecision, stepDecision, addresses.origin]
  by_cases critical : stepRisk platform policy step address.origin = .critical
  case pos =>
    rw [critical] at risks
    rw [if_pos critical, if_pos (critical_of_le risks),
      tightened.criticalActionBehavior]
    exact strongerDecision_mono rules (Nat.le_refl _)
  case neg =>
    rw [if_neg critical]
    by_cases critical' :
        stepRisk platform policy' step address.origin = .critical
    case pos =>
      rw [if_pos critical']
      split
      case isTrue =>
        exact strongerDecision_mono rules (requireApproval_le_critical _)
      case isFalse =>
        exact Nat.le_trans rules (left_le_strongerDecision _ _)
    case neg =>
      rw [if_neg critical']
      split
      case isTrue required =>
        rw [if_pos (approvalRequired_mono tightened risks required)]
        exact strongerDecision_mono rules (Nat.le_refl _)
      case isFalse =>
        split
        · exact Nat.le_trans rules (left_le_strongerDecision _ _)
        · exact rules

end Steps

/-- A stronger decision stops whatever a weaker one stops. -/
theorem isStopped_mono
    {bindings : List ApprovalBinding}
    {stepIndex : Nat}
    {decision decision' : PolicyDecision}
    (decisions : decision.strength ≤ decision'.strength)
    (stopped : isStopped bindings stepIndex decision = true) :
    isStopped bindings stepIndex decision' = true := by
  cases decision <;> cases decision' <;>
    first
      | exact stopped
      | rfl
      | exact absurd decisions (by decide)
      | simp [isStopped] at stopped

/-- `item.severity === 'blocking'` of some issue. -/
def anyBlocking (issues : List PolicyEvaluationIssue) : Bool :=
  issues.any fun issue => issue.severity == .blocking

theorem anyBlocking_perm
    {issues issues' : List PolicyEvaluationIssue}
    (perm : issues.Perm issues') :
    anyBlocking issues = anyBlocking issues' := by
  rw [anyBlocking, anyBlocking, Bool.eq_iff_iff, List.any_eq_true,
    List.any_eq_true]
  simp only [perm.mem_iff]

/-- A step blocks when its address is refused or its decision stops it. -/
theorem anyBlocking_stepIssues
    (bindings : List ApprovalBinding)
    (step : WorkflowStep)
    (stepIndex : Nat)
    (address : OriginDecision)
    (risk : PolicyRiskLevel)
    (decision : PolicyDecision) :
    anyBlocking (stepIssues bindings step stepIndex address risk decision) =
      (address.code.isSome || isStopped bindings stepIndex decision) := by
  have warnings :
      anyBlocking
          (if deriveActionIntent step = .unknown then
            [stepIssue .unknownActionIntent .warning (some step)
              (some stepIndex)]
          else []) = false := by
    split <;> rfl
  have warnings' :
      anyBlocking
          (if riskAtLeast risk .high then
            [stepIssue .highRiskAction .warning (some step) (some stepIndex)]
          else []) = false := by
    split <;> rfl
  rw [anyBlocking] at warnings warnings'
  simp only [anyBlocking, stepIssues, List.any_append, warnings, warnings',
    Bool.false_or, Bool.or_false]
  congr 1
  · cases address.code <;> rfl
  · cases isApproved : isApproved bindings stepIndex <;>
      cases decision <;> simp [isStopped, isApproved, stepIssue]

/-- The evaluation of a step is at least as strict as another one. -/
structure StepStricter (evaluation evaluation' : StepPolicyEvaluation) :
    Prop where
  stepId : evaluation'.stepId = evaluation.stepId
  stepIndex : evaluation'.stepIndex = evaluation.stepIndex
  decision :
    evaluation.decision.strength ≤ evaluation'.decision.strength
  risk : evaluation.risk.strength ≤ evaluation'.risk.strength
  blocks :
    anyBlocking evaluation.issues = true →
      anyBlocking evaluation'.issues = true

section Evaluations

variable
  {policy policy' : WorkspaceExecutionPolicyDefinition}
  (tightened : Tightened policy policy')
  (declaredOrigins : List JsString)
  (bindings : List ApprovalBinding)

include tightened

/-- A step is evaluated more strictly, and the origin after it is the same. -/
theorem evaluateStep_mono
    (step : WorkflowStep)
    (stepIndex : Nat)
    (currentOrigin : Option JsString) :
    StepStricter
        (evaluateStep platform policy declaredOrigins bindings step stepIndex
          currentOrigin).1
        (evaluateStep platform policy' declaredOrigins bindings step stepIndex
          currentOrigin).1 ∧
      (evaluateStep platform policy' declaredOrigins bindings step stepIndex
          currentOrigin).2 =
        (evaluateStep platform policy declaredOrigins bindings step stepIndex
          currentOrigin).2 := by
  have addresses :=
    @addressOf_mono platform _ _ tightened declaredOrigins step currentOrigin
  have decisions := @stepDecision_mono platform _ _ tightened _ _ step addresses
  refine ⟨⟨rfl, rfl, ?_, ?_, ?_⟩, addresses.origin⟩
  · rw [evaluateStep_decision, evaluateStep_decision]
    exact decisions
  · rw [evaluateStep_risk, evaluateStep_risk, addresses.origin]
    exact stepRisk_mono tightened step _
  · rw [evaluateStep_issues, evaluateStep_issues,
      anyBlocking_perm (List.mergeSort_perm _ _),
      anyBlocking_perm (List.mergeSort_perm _ _), anyBlocking_stepIssues,
      anyBlocking_stepIssues, evaluateStep_decision, evaluateStep_decision,
      Bool.or_eq_true, Bool.or_eq_true]
    exact Or.imp addresses.code (isStopped_mono decisions)

theorem evaluateSteps_mono
    (steps : List (WorkflowStep × Nat))
    (currentOrigin : Option JsString) :
    List.Forall₂ StepStricter
      (evaluateSteps platform policy declaredOrigins bindings steps
        currentOrigin)
      (evaluateSteps platform policy' declaredOrigins bindings steps
        currentOrigin) := by
  induction steps generalizing currentOrigin with
  | nil => exact .nil
  | cons indexed steps inductionHypothesis =>
      obtain ⟨step, stepIndex⟩ := indexed
      obtain ⟨stricter, sameOrigin⟩ :=
        @evaluateStep_mono platform _ _ tightened declaredOrigins bindings step
          stepIndex currentOrigin
      simp only [evaluateSteps]
      rw [sameOrigin]
      exact .cons stricter (inductionHypothesis _)

end Evaluations

/-- The evaluation that the output schema is given. -/
def unparsedEvaluation
    (platform : Platform)
    (policy : WorkspaceExecutionPolicyDefinition)
    (workflow : WorkflowDefinition)
    (policyDigest workflowDigest : JsString)
    (approvalAnalysis : WorkflowApprovalAnalysis) :
    WorkflowPolicyEvaluation :=
  let declaredOrigins := workflowDeclaredOrigins platform workflow
  let steps :=
    evaluateSteps platform policy declaredOrigins approvalAnalysis.bindings
      workflow.steps.zipIdx none
  let issues :=
    steps.flatMap StepPolicyEvaluation.issues ++
      (if 1 < declaredOrigins.length then
        [stepIssue .multipleWorkflowOrigins .warning none none]
      else []) ++
      approvalAnalysis.issues.map fun approvalIssue =>
        stepIssue .approvalBindingInvalid .blocking
          workflow.steps[approvalIssue.stepIndex]?
          (some approvalIssue.stepIndex)
  { policyDigest
    workflowDigest
    overallDecision :=
      (steps.map StepPolicyEvaluation.decision).foldl strongerDecision .allow
    highestRisk :=
      (steps.map StepPolicyEvaluation.risk).foldl strongerRisk .low
    steps
    matchedRuleIds :=
      uniqueSorted platform (fun ruleId => ruleId)
        (steps.flatMap StepPolicyEvaluation.matchedRuleIds)
    issues := issues.mergeSort (issueNotAfter platform)
    hasBlockingIssues := issues.any fun issue => issue.severity == .blocking }

theorem evaluateCanonical_eq
    (policy : WorkspaceExecutionPolicyDefinition)
    (workflow : WorkflowDefinition)
    (policyDigest workflowDigest : JsString) :
    evaluateCanonical platform policy workflow policyDigest workflowDigest =
      (analyzeWorkflowApprovals workflow).bind fun analysis =>
        let evaluation :=
          unparsedEvaluation platform policy workflow policyDigest
            workflowDigest analysis
        if evaluation.parses then some evaluation else none :=
  rfl

/-- The evaluation of a workflow is at least as strict as another one. -/
structure EvaluationStricter
    (evaluation evaluation' : WorkflowPolicyEvaluation) : Prop where
  steps : List.Forall₂ StepStricter evaluation.steps evaluation'.steps
  blocks :
    evaluation.hasBlockingIssues = true → evaluation'.hasBlockingIssues = true

theorem unparsedEvaluation_mono
    {policy policy' : WorkspaceExecutionPolicyDefinition}
    (tightened : Tightened policy policy')
    (workflow : WorkflowDefinition)
    (policyDigest policyDigest' workflowDigest : JsString)
    (analysis : WorkflowApprovalAnalysis) :
    EvaluationStricter
      (unparsedEvaluation platform policy workflow policyDigest workflowDigest
        analysis)
      (unparsedEvaluation platform policy' workflow policyDigest'
        workflowDigest analysis) := by
  have steps :=
    @evaluateSteps_mono platform _ _ tightened
      (workflowDeclaredOrigins platform workflow) analysis.bindings
      workflow.steps.zipIdx none
  refine ⟨steps, ?_⟩
  simp only [unparsedEvaluation, List.any_append, Bool.or_eq_true]
  refine Or.imp (Or.imp ?_ id) id
  intro blocks
  obtain ⟨issue, listed, isBlocking⟩ := List.any_eq_true.mp blocks
  obtain ⟨evaluation, isStep, isIssue⟩ := List.mem_flatMap.mp listed
  obtain ⟨index, inRange, rfl⟩ := List.mem_iff_getElem.mp isStep
  have inRange' := steps.length_eq ▸ inRange
  have stricter := steps.get inRange inRange'
  have blocks' :=
    stricter.blocks (List.any_eq_true.mpr ⟨issue, isIssue, isBlocking⟩)
  obtain ⟨issue', isIssue', isBlocking'⟩ := List.any_eq_true.mp blocks'
  exact List.any_eq_true.mpr
    ⟨issue', List.mem_flatMap.mpr ⟨_, List.getElem_mem inRange', isIssue'⟩,
      isBlocking'⟩

/-- What `evaluateWorkflowPolicy` returns is what it gave to its schema. -/
theorem evaluateWorkflowPolicy_eq_some
    {input : WorkflowPolicyEvaluationInput}
    {evaluation : WorkflowPolicyEvaluation}
    (evaluated : evaluateWorkflowPolicy platform input = some evaluation) :
    ∃ canonical analysis,
      canonicalizePolicyDefinition platform input.policy = some canonical ∧
        analyzeWorkflowApprovals input.workflow = some analysis ∧
        evaluation =
          unparsedEvaluation platform canonical input.workflow
            input.policyDigest input.workflowDigest analysis := by
  simp only [evaluateWorkflowPolicy, Option.bind_eq_bind,
    Option.bind_eq_some_iff, Option.ite_none_right_eq_some] at evaluated
  obtain ⟨parsed, isParsed, -, canonical, isCanonical, evaluated⟩ := evaluated
  rw [evaluateCanonical_eq, Option.bind_eq_some_iff] at evaluated
  obtain ⟨analysis, isAnalysis, evaluated⟩ := evaluated
  simp only [Option.ite_none_right_eq_some, Option.some.injEq] at evaluated
  rw [canonicalize_parsed isParsed] at isCanonical
  exact ⟨canonical, analysis, isCanonical, isAnalysis, evaluated.2.symm⟩

/--
With one more rule, one more blocked origin or one allowed origin fewer, every
step is decided at least as strictly and has at least the risk, and what blocks
the workflow still does.  This holds of the evaluations before the output
schema reads them, and so of all that are returned.
-/
theorem tightened_evaluations
    (platform : Platform)
    (policy policy' : WorkspaceExecutionPolicyDefinition)
    (once : TightenedOnce policy policy')
    (workflow : WorkflowDefinition)
    (policyDigest policyDigest' workflowDigest : JsString) :
    (∀ canonical canonical' analysis,
      canonicalizePolicyDefinition platform policy = some canonical →
      canonicalizePolicyDefinition platform policy' = some canonical' →
      analyzeWorkflowApprovals workflow = some analysis →
      EvaluationStricter
        (unparsedEvaluation platform canonical workflow policyDigest
          workflowDigest analysis)
        (unparsedEvaluation platform canonical' workflow policyDigest'
          workflowDigest analysis)) ∧
      ∀ evaluation evaluation',
        evaluateWorkflowPolicy platform
            { policy, workflow, policyDigest, workflowDigest } =
          some evaluation →
        evaluateWorkflowPolicy platform
            { policy := policy'
              workflow
              policyDigest := policyDigest'
              workflowDigest } =
          some evaluation' →
        EvaluationStricter evaluation evaluation' := by
  have tightened := once.tightened
  constructor
  · intro canonical canonical' analysis isCanonical isCanonical' _
    exact unparsedEvaluation_mono
      (tightened.canonical (canonicalizePolicyDefinition_spec isCanonical)
        (canonicalizePolicyDefinition_spec isCanonical'))
      workflow policyDigest policyDigest' workflowDigest analysis
  · intro evaluation evaluation' evaluated evaluated'
    obtain ⟨canonical, analysis, isCanonical, isAnalysis, rfl⟩ :=
      evaluateWorkflowPolicy_eq_some evaluated
    obtain ⟨canonical', analysis', isCanonical', isAnalysis', rfl⟩ :=
      evaluateWorkflowPolicy_eq_some evaluated'
    obtain rfl := Option.some.inj (isAnalysis.symm.trans isAnalysis')
    exact unparsedEvaluation_mono
      (tightened.canonical (canonicalizePolicyDefinition_spec isCanonical)
        (canonicalizePolicyDefinition_spec isCanonical'))
      workflow policyDigest policyDigest' workflowDigest analysis

/-- A rule by which waiting is critical. -/
def exampleWaitRule : ActionPolicyRule :=
  { id := js "waiting"
    stepTypes := some [.wait]
    actionIntents := none
    origins := none
    minimumRisk := some .critical
    decision := none }

def exampleWaitPolicy : WorkspaceExecutionPolicyDefinition :=
  { defaultWorkspaceExecutionPolicy with rules := [exampleWaitRule] }

theorem exampleWaitRule_valid : isRuleId exampleWaitRule.id = true := by
  decide

theorem exampleWaitRule_visible :
    ∀ symbol ∈ exampleWaitRule.id, isVisible symbol = true :=
  isRuleId_visible exampleWaitRule_valid

theorem exampleWaitRule_parses :
    exampleWaitRule.parse platform = some exampleWaitRule := by
  have trimmed := trimText_of_visible exampleWaitRule_visible
  simp only [ActionPolicyRule.parse, trimmed, exampleWaitRule_valid]
  simp [exampleWaitRule, optionally]

theorem exampleWaitRule_canonical :
    canonicalizeRule platform exampleWaitRule = some exampleWaitRule := by
  simp [canonicalizeRule, exampleWaitRule, optionally, uniqueSorted, setOf,
    mapOf, mapSet]

theorem examplePolicies_canonical :
    canonicalizePolicyDefinition platform defaultWorkspaceExecutionPolicy =
        some defaultWorkspaceExecutionPolicy ∧
      canonicalizePolicyDefinition platform exampleWaitPolicy =
        some exampleWaitPolicy := by
  constructor
  · simp [canonicalizePolicyDefinition, orderPolicy, canonicalizeRules,
      canonicalizePatterns, WorkspaceExecutionPolicyDefinition.parse,
      parsePatterns, defaultWorkspaceExecutionPolicy, mapOf]
  · simp [canonicalizePolicyDefinition, orderPolicy, canonicalizeRules,
      canonicalizePatterns, WorkspaceExecutionPolicyDefinition.parse,
      parsePatterns, exampleWaitPolicy, defaultWorkspaceExecutionPolicy, mapOf,
      exampleWaitRule_parses, exampleWaitRule_canonical, maxPolicyRules]

theorem exampleWorkflow_analyzed :
    (analyzeWorkflowApprovals exampleWorkflow).isSome = true := by
  decide +kernel

/-- A rule about waiting is added to the default policy. -/
theorem tightened_evaluations_example :
    let analysis :=
      (analyzeWorkflowApprovals exampleWorkflow).get exampleWorkflow_analyzed
    EvaluationStricter
      (unparsedEvaluation examplePlatform defaultWorkspaceExecutionPolicy
        exampleWorkflow [] [] analysis)
      (unparsedEvaluation examplePlatform exampleWaitPolicy exampleWorkflow []
        [] analysis) :=
  (tightened_evaluations examplePlatform defaultWorkspaceExecutionPolicy
      exampleWaitPolicy (.ruleAdded [] [] exampleWaitRule rfl) exampleWorkflow
      [] [] []).1
    _ _ _ examplePolicies_canonical.1 examplePolicies_canonical.2
    (Option.some_get _).symm

end TaskTwin.Policy

import TaskTwin.Schema.Unknown
import TaskTwin.Workflow.Extraction

/-!
# Workspace execution policies

A policy bounds the origins that a workflow may visit and gives rules that
raise the risk of steps or decide about them.  What the runtime does with URLs
and with the order of its locale is a parameter with the documented laws.
-/

namespace TaskTwin.Policy

open Text Schema Workflow

/-- The parts of a parsed URL. -/
structure Url where
  protocol : JsString
  username : JsString
  password : JsString
  hostname : JsString
  port : JsString
  pathname : JsString
  search : JsString
  hash : JsString
  origin : JsString
  deriving DecidableEq, Repr

def Url.isHttp (url : Url) : Bool :=
  url.protocol == js "http:" || url.protocol == js "https:"

/-- Nothing but the protocol, the host and the port. -/
def Url.isBareOrigin (url : Url) : Bool :=
  url.isHttp && url.username.isEmpty && url.password.isEmpty &&
    url.pathname == js "/" && url.search.isEmpty && url.hash.isEmpty

/-- Printable symbols of ASCII other than the space. -/
def isVisible (symbol : CodeUnit) : Bool :=
  CodeUnit.within '!' '~' symbol

/-- The symbols of normalized domains. -/
def isDomainSymbol (symbol : CodeUnit) : Bool :=
  CodeUnit.isLower symbol || CodeUnit.isDigit symbol || symbol == unit '-' ||
    symbol == unit '.'

/-- What the code relies on of its runtime. -/
structure Platform where
  /-- `new URL(text)`; `none` when it throws. -/
  parseUrl : JsString → Option Url
  /-- `String.prototype.toLowerCase`. -/
  toLowerCase : JsString → JsString
  /-- `left.localeCompare(right) <= 0`. -/
  notAfter : JsString → JsString → Bool
  origin_stable :
    ∀ text url,
      parseUrl text = some url →
      url.isHttp = true →
      ∃ again,
        parseUrl url.origin = some again ∧
          again.isBareOrigin = true ∧
          again.origin = url.origin
  origin_visible :
    ∀ text url,
      parseUrl text = some url →
      url.isHttp = true →
      ∀ symbol ∈ url.origin, isVisible symbol = true
  toLowerCase_domain :
    ∀ text,
      (∀ symbol ∈ text, isDomainSymbol symbol = true) →
      toLowerCase text = text
  notAfter_trans :
    ∀ first second third,
      notAfter first second = true →
      notAfter second third = true →
      notAfter first third = true
  notAfter_total :
    ∀ first second, (notAfter first second || notAfter second first) = true
  notAfter_antisymm :
    ∀ first second,
      (∀ symbol ∈ first, isVisible symbol = true) →
      (∀ symbol ∈ second, isVisible symbol = true) →
      notAfter first second = true →
      notAfter second first = true →
      first = second

inductive PolicyRiskLevel where
  | low
  | medium
  | high
  | critical
  deriving DecidableEq, Repr

inductive PolicyDecision where
  | allow
  | requireApproval
  | deny
  deriving DecidableEq, Repr

inductive NetworkMode where
  | workflowDeclaredOrigins
  | explicitAllowlist
  deriving DecidableEq, Repr

inductive ApprovalThreshold where
  | highOrAbove
  | criticalOnly
  deriving DecidableEq, Repr

inductive CriticalActionBehavior where
  | deny
  | requireApproval
  deriving DecidableEq, Repr

inductive WorkflowActionIntent where
  | read
  | navigate
  | enterData
  | changeState
  | submit
  | send
  | delete
  | purchase
  | permissionChange
  | approvalGate
  | unknown
  deriving DecidableEq, Repr

def PolicyRiskLevel.text : PolicyRiskLevel → String
  | .low => "low"
  | .medium => "medium"
  | .high => "high"
  | .critical => "critical"

def PolicyDecision.text : PolicyDecision → String
  | .allow => "allow"
  | .requireApproval => "require_approval"
  | .deny => "deny"

def NetworkMode.text : NetworkMode → String
  | .workflowDeclaredOrigins => "workflow_declared_origins"
  | .explicitAllowlist => "explicit_allowlist"

def ApprovalThreshold.text : ApprovalThreshold → String
  | .highOrAbove => "high_or_above"
  | .criticalOnly => "critical_only"

def CriticalActionBehavior.text : CriticalActionBehavior → String
  | .deny => "deny"
  | .requireApproval => "require_approval"

def WorkflowActionIntent.text : WorkflowActionIntent → String
  | .read => "read"
  | .navigate => "navigate"
  | .enterData => "enter_data"
  | .changeState => "change_state"
  | .submit => "submit"
  | .send => "send"
  | .delete => "delete"
  | .purchase => "purchase"
  | .permissionChange => "permission_change"
  | .approvalGate => "approval_gate"
  | .unknown => "unknown"

def stepTypeText : WorkflowStepType → String
  | .navigate => "navigate"
  | .click => "click"
  | .fill => "fill"
  | .select => "select"
  | .setChecked => "setChecked"
  | .wait => "wait"
  | .extract => "extract"
  | .verify => "verify"
  | .approval => "approval"

inductive OriginPattern where
  | exact (origin : JsString)
  | httpsSubdomains (domain : JsString) (includeApex : Bool)
  deriving DecidableEq, Repr

structure ActionPolicyRule where
  id : JsString
  stepTypes : Option (List WorkflowStepType)
  actionIntents : Option (List WorkflowActionIntent)
  origins : Option (List OriginPattern)
  minimumRisk : Option PolicyRiskLevel
  decision : Option PolicyDecision
  deriving DecidableEq, Repr

structure WorkspaceExecutionPolicyDefinition where
  mode : NetworkMode
  allowedOrigins : List OriginPattern
  blockedOrigins : List OriginPattern
  allowLoopbackHttp : Bool
  unknownActionRisk : PolicyRiskLevel
  threshold : ApprovalThreshold
  criticalActionBehavior : CriticalActionBehavior
  rules : List ActionPolicyRule
  deriving DecidableEq, Repr

def defaultWorkspaceExecutionPolicy : WorkspaceExecutionPolicyDefinition :=
  { mode := .workflowDeclaredOrigins
    allowedOrigins := []
    blockedOrigins := []
    allowLoopbackHttp := true
    unknownActionRisk := .medium
    threshold := .highOrAbove
    criticalActionBehavior := .deny
    rules := [] }

def maxPolicyOriginPatterns : Nat := 64
def maxPolicyRules : Nat := 128
def maxPolicyIssues : Nat := 2000

variable (platform : Platform)

def normalizeCanonicalOrigin (value : JsString) : Option JsString :=
  match platform.parseUrl value with
  | none => none
  | some url => if url.isBareOrigin then some url.origin else none

/-- `[a-z0-9](?:[a-z0-9-]{0,61}[a-z0-9])?`. -/
def isDomainLabel (label : JsString) : Bool :=
  let isEdge (symbol : CodeUnit) : Bool :=
    CodeUnit.isLower symbol || CodeUnit.isDigit symbol
  hasLength 1 63 label && label.head?.any isEdge && label.getLast?.any isEdge &&
    label.all fun symbol => isEdge symbol || symbol == unit '-'

/-- Labels with points between them. -/
def isDomain (text : JsString) : Bool :=
  (text.splitOn (unit '.')).all isDomainLabel

/-- `.replace(/\.$/, '')`. -/
def dropLastPoint (text : JsString) : JsString :=
  if text.getLast? = some (unit '.') then text.dropLast else text

def normalizeHttpsDomain (value : JsString) : Option JsString :=
  let normalized := dropLastPoint (platform.toLowerCase (trimText value))
  if hasLength 1 253 normalized && !normalized.contains (unit '*') &&
      isDomain normalized then
    some normalized
  else
    none

/-- `OriginPatternSchema`. -/
def OriginPattern.parse : OriginPattern → Option OriginPattern
  | .exact origin =>
      let origin := trimText origin
      if hasLength 1 512 origin &&
          (normalizeCanonicalOrigin platform origin).isSome then
        some (.exact origin)
      else
        none
  | .httpsSubdomains domain includeApex =>
      let domain := trimText domain
      if hasLength 1 253 domain &&
          (normalizeHttpsDomain platform domain).isSome then
        some (.httpsSubdomains domain includeApex)
      else
        none

/-- `^[A-Za-z][A-Za-z0-9_-]*$`, from 1 to 64 symbols. -/
def isRuleId (text : JsString) : Bool :=
  hasLength 1 64 text &&
    beginsAndContinues
      (fun symbol => CodeUnit.isLower symbol || CodeUnit.isUpper symbol)
      (fun symbol =>
        isAlphanumeric symbol || symbol == unit '_' || symbol == unit '-')
      text

/-- A list of patterns within bounds. -/
def parsePatterns
    (minimum : Nat)
    (patterns : List OriginPattern) :
    Option (List OriginPattern) :=
  if minimum ≤ patterns.length ∧ patterns.length ≤ maxPolicyOriginPatterns then
    patterns.mapM (OriginPattern.parse platform)
  else
    none

/-- What is computed from a property that may be undefined. -/
def optionally
    {α β : Type}
    (compute : α → Option β) :
    Option α → Option (Option β)
  | none => some none
  | some value => (compute value).map some

theorem optionally_eq_some_iff
    {α β : Type}
    {compute : α → Option β}
    {value : Option α}
    {result : Option β} :
    optionally compute value = some result ↔
      Option.Rel (fun value result => compute value = some result) value
        result := by
  cases value <;> cases result <;> simp [optionally]

/-- `ActionPolicyRuleSchema`. -/
def ActionPolicyRule.parse
    (rule : ActionPolicyRule) :
    Option ActionPolicyRule := do
  let id := trimText rule.id
  let origins ← optionally (parsePatterns platform 1) rule.origins
  if isRuleId id ∧
      (∀ stepTypes ∈ rule.stepTypes,
        1 ≤ stepTypes.length ∧ stepTypes.length ≤ 9) ∧
      (∀ actionIntents ∈ rule.actionIntents,
        1 ≤ actionIntents.length ∧ actionIntents.length ≤ 11) ∧
      (rule.minimumRisk.isSome ∨ rule.decision.isSome) ∧
      (rule.stepTypes.isSome ∨ rule.actionIntents.isSome ∨
        rule.origins.isSome) then
    some { rule with id, origins }
  else
    none

/-- `WorkspaceExecutionPolicyDefinitionSchema`. -/
def WorkspaceExecutionPolicyDefinition.parse
    (policy : WorkspaceExecutionPolicyDefinition) :
    Option WorkspaceExecutionPolicyDefinition := do
  let allowedOrigins ← parsePatterns platform 0 policy.allowedOrigins
  let blockedOrigins ← parsePatterns platform 0 policy.blockedOrigins
  let rules ← policy.rules.mapM (ActionPolicyRule.parse platform)
  if rules.length ≤ maxPolicyRules ∧
      (rules.map ActionPolicyRule.id).Nodup then
    some { policy with allowedOrigins, blockedOrigins, rules }
  else
    none

end TaskTwin.Policy

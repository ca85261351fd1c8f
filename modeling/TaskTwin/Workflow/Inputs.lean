import TaskTwin.Workflow.Extraction

/-!
# Workflow inputs

The analysis of the value sources of a workflow, with the variables that are
used and the secrets that are required.
-/

namespace TaskTwin.Workflow

open Schema

/-- `typeof` of a literal. -/
inductive LiteralType where
  | string
  | number
  | boolean
  deriving DecidableEq, Repr

def LiteralValue.type : LiteralValue → LiteralType
  | .string _ => .string
  | .number _ => .number
  | .boolean _ => .boolean

structure ValueSourceCompatibility where
  literalTypes : List LiteralType
  variableTypes : List WorkflowVariableValueType
  allowsSecret : Bool
  deriving DecidableEq, Repr

def getValueSourceCompatibility
    (target : ValueSourceTarget) :
    ValueSourceCompatibility :=
  { literalTypes :=
      match target with
      | .navigateUrl => [.string]
      | .fillValue => [.string]
      | .selectValue => [.string, .number]
      | .verifyTextExpected => [.string]
      | .verifyValueExpected => [.string, .number, .boolean]
      | .verifyUrlExpected => [.string]
    variableTypes := acceptedVariableTypes target
    allowsSecret := target == .fillValue }

def isVariableTypeCompatible
    (target : ValueSourceTarget)
    (valueType : WorkflowVariableValueType) :
    Bool :=
  (getValueSourceCompatibility target).variableTypes.contains valueType

def isLiteralCompatible
    (target : ValueSourceTarget)
    (value : LiteralValue) :
    Bool :=
  (getValueSourceCompatibility target).literalTypes.contains value.type

def maxSecretReferenceNameLength : Nat := 80

/-- What `[A-Za-z0-9_-]{12,}` reads of an identifier. -/
def isTokenRest (symbols : List Char) : Bool :=
  12 ≤ symbols.length

/-- `KNOWN_TOKEN_PREFIX_PATTERN`, of an identifier, which has no `-`. -/
def hasKnownTokenPrefix : List Char → Bool
  | 'g' :: 'h' :: kind :: '_' :: rest =>
      ['p', 'o', 'u', 's', 'r'].contains kind && isTokenRest rest
  | 'A' :: 'K' :: 'I' :: 'A' :: rest => isTokenRest rest
  | _ => false

/--
`isSafeSecretAlias`.  An identifier has letters, digits and `_` only, so the
patterns for addresses, tokens with dots, assignments and credentials in URLs
match none, and `LONG_TOKEN_PATTERN` matches the long ones.
-/
def isSafeSecretAlias (name : Identifier) : Bool :=
  utf16Length name.text ≤ maxSecretReferenceNameLength &&
    !hasKnownTokenPrefix name.text.toList &&
    utf16Length name.text < 40

inductive WorkflowInputIssueCode where
  | unknownVariableReference
  | incompatibleVariableType
  | incompatibleLiteral
  | secretSourceNotAllowed
  | unsafeSecretReference
  | unusedVariable
  deriving DecidableEq, Repr

def WorkflowInputIssueCode.message : WorkflowInputIssueCode → String
  | .unknownVariableReference =>
      "Referenced workflow variable does not exist."
  | .incompatibleVariableType =>
      "Workflow variable type is incompatible with this step property."
  | .incompatibleLiteral =>
      "Literal value type is incompatible with this step property."
  | .secretSourceNotAllowed =>
      "Secret references are not allowed for this step property."
  | .unsafeSecretReference => "Secret reference must be a safe alias."
  | .unusedVariable => "Workflow variable is not referenced by any step."

structure WorkflowInputIssue where
  code : WorkflowInputIssueCode
  severity : IssueSeverity
  /-- The identifier and the index of the step. -/
  step : Option (NonEmptyString × Nat)
  variableName : Option Identifier
  deriving DecidableEq, Repr

structure WorkflowVariableAnalysis where
  variableIs : WorkflowVariable
  usages : List LocatedValueSource
  deriving DecidableEq, Repr

structure WorkflowSecretRequirement where
  secretName : Identifier
  usages : List LocatedValueSource
  deriving DecidableEq, Repr

structure WorkflowInputAnalysis where
  variableAnalyses : List WorkflowVariableAnalysis
  secretRequirements : List WorkflowSecretRequirement
  issues : List WorkflowInputIssue
  hasBlockingIssues : Bool
  deriving Repr

/-- `issueForUsage`. -/
def issueForUsage
    (code : WorkflowInputIssueCode)
    (located : LocatedValueSource)
    (variableName : Option Identifier) :
    WorkflowInputIssue :=
  { code
    severity := .blocking
    step := some (located.stepId, located.stepIndex)
    variableName }

/-- The issue of one value source. -/
def sourceIssue
    (declared : List WorkflowVariable)
    (located : LocatedValueSource) :
    Option WorkflowInputIssue :=
  match located.source with
  | .variable variableName =>
      match declared.find? fun declaration => declaration.name = variableName with
      | none =>
          some
            (issueForUsage .unknownVariableReference located
              (some variableName))
      | some declaration =>
          if isVariableTypeCompatible located.target declaration.valueType then
            none
          else
            some
              (issueForUsage .incompatibleVariableType located
                (some declaration.name))
  | .literal value =>
      if isLiteralCompatible located.target value then none
      else some (issueForUsage .incompatibleLiteral located none)
  | .output _ => none
  | .secret secretName =>
      if !isSafeSecretAlias secretName then
        some (issueForUsage .unsafeSecretReference located none)
      else if !(getValueSourceCompatibility located.target).allowsSecret then
        some (issueForUsage .secretSourceNotAllowed located none)
      else
        none

/-- The secret that a value source requires. -/
def requiredSecret (located : LocatedValueSource) : Option Identifier :=
  match located.source with
  | .secret secretName =>
      if isSafeSecretAlias secretName &&
          (getValueSourceCompatibility located.target).allowsSecret then
        some secretName
      else
        none
  | _ => none

def LocatedValueSource.readsVariable
    (located : LocatedValueSource)
    (variableName : Identifier) :
    Bool :=
  located.source == .variable variableName

/-- A requirement with one more usage, or a new requirement. -/
def addSecretUsage
    (requirements : List WorkflowSecretRequirement)
    (located : LocatedValueSource) :
    List WorkflowSecretRequirement :=
  match requiredSecret located with
  | none => requirements
  | some secretName =>
      if requirements.any fun requirement => requirement.secretName = secretName then
        requirements.map fun requirement =>
          if requirement.secretName = secretName then
            { requirement with usages := requirement.usages ++ [located] }
          else
            requirement
      else
        requirements ++ [{ secretName, usages := [located] }]

def createVariableAnalysis
    (sources : List LocatedValueSource)
    (declaration : WorkflowVariable) :
    WorkflowVariableAnalysis :=
  { variableIs := declaration
    usages :=
      sources.filter fun located => located.readsVariable declaration.name }

def WorkflowVariableAnalysis.usageCount
    (analysis : WorkflowVariableAnalysis) :
    Nat :=
  analysis.usages.length

def unusedVariableIssue
    (analysis : WorkflowVariableAnalysis) :
    Option WorkflowInputIssue :=
  if analysis.usages.isEmpty then
    some
      { code := .unusedVariable
        severity := .warning
        step := none
        variableName := some analysis.variableIs.name }
  else
    none

/-- `analyzeWorkflowInputs`, of a parsed definition. -/
def analyzeWorkflowInputs (workflow : WorkflowDefinition) : WorkflowInputAnalysis :=
  let sources := findWorkflowValueSources workflow
  let variableAnalyses :=
    workflow.workflowVariables.map (createVariableAnalysis sources)
  let issues :=
    sources.filterMap (sourceIssue workflow.workflowVariables) ++
      variableAnalyses.filterMap unusedVariableIssue
  { variableAnalyses
    secretRequirements := sources.foldl addSecretUsage []
    issues
    hasBlockingIssues := issues.any fun issue => issue.severity == .blocking }

end TaskTwin.Workflow

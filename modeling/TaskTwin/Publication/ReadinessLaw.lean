import TaskTwin.Policy.OutputBounds
import TaskTwin.Publication.Readiness
import TaskTwin.Workflow.AnalysisBounds

/-!
# When the publish report is returned

The schemas of the analyses and of the report bound what they name and count.
The report is returned exactly for the definitions that stay within the bounds,
and then it is ready exactly when no analysis blocks.
-/

namespace TaskTwin.Publication

open Text Schema Workflow
open TaskTwin.Policy
  (Platform Url WorkspaceExecutionPolicyDefinition PolicyEvaluationIssue
    PolicyIssueCode WorkflowPolicyEvaluation evaluateWorkflowPolicy
    canonicalizePolicyDefinition WithinBounds findingCount orphanCount
    approvalAnalysis)

variable {platform : Platform}

theorem message_within (code : PublishReadinessIssueCode) :
    isTrimmedWithin maxIssueMessageLength code.message = true := by
  cases code with
  | input code => cases code <;> decide +kernel
  | extraction code => cases code <;> decide +kernel
  | policy code => cases code <;> decide +kernel
  | _ => decide +kernel

/-- An identifier is a text that a schema of trimmed texts accepts. -/
theorem Identifier.isNonEmptyTrimmed (name : Identifier) :
    Schema.isNonEmptyTrimmed name.text = true := by
  have notEmpty : name.text.toList ≠ [] := by
    intro isEmpty
    have pattern := name.pattern
    rw [isIdentifierText, startsAndContinues, isEmpty] at pattern
    cases pattern
  obtain ⟨first, rest, isText⟩ := List.exists_cons_of_ne_nil notEmpty
  rw [Schema.isNonEmptyTrimmed, name.trim_text, utf16Length, isText,
    List.map_cons, List.sum_cons, decide_eq_true_eq]
  split <;> omega

theorem issueOfCode_parses (code : PublishReadinessIssueCode) :
    (issueOfCode code).parses = true := by
  simp [issueOfCode, PublishReadinessIssue.parses, message_within]

/-- An issue with the message of a code passes, whatever it names. -/
theorem parses_of_message
    {issue : PublishReadinessIssue}
    (isMessage : issue.message = issue.code.message) :
    issue.parses = true := by
  rw [PublishReadinessIssue.parses, isMessage, message_within, Bool.true_and,
    Bool.and_eq_true]
  constructor
  · rw [Option.all_eq_true]
    intro stepId _
    exact stepId.nonEmpty
  · rw [Option.all_eq_true]
    intro variableName _
    exact Identifier.isNonEmptyTrimmed variableName

theorem allIssues_parse
    {workflow : WorkflowDefinition}
    {extraction : WorkflowExtractionAnalysis}
    {approvals : WorkflowApprovalAnalysis}
    {ofPolicy : List PolicyEvaluationIssue} :
    ∀ issue ∈ allIssues platform workflow extraction approvals ofPolicy,
      issue.parses = true := by
  have missing :
      ∀ issue ∈
          (if (analyzeWorkflowVerifications platform.parseUrl
              workflow).hasValidVerification then
            []
          else [issueOfCode .outcomeVerificationMissing]),
        issue.parses = true := by
    intro issue listed
    split at listed
    · cases listed
    · rw [List.mem_singleton.mp listed]
      exact issueOfCode_parses _
  rw [allIssues]
  simp only [List.forall_mem_append, List.forall_mem_map]
  exact
    ⟨⟨⟨⟨⟨fun _ _ => parses_of_message rfl, fun _ _ => parses_of_message rfl⟩,
      missing⟩, fun _ _ => parses_of_message rfl⟩,
      fun _ _ => parses_of_message rfl⟩, fun _ _ => parses_of_message rfl⟩

/-- How many things the extraction analysis finds. -/
def extractionFindings (workflow : WorkflowDefinition) : Nat :=
  (analyzeWorkflowExtraction workflow).elim 0 fun extraction =>
    extraction.issues.length

/-- How many things a policy finds, if there is one. -/
def policyFindings
    (platform : Platform)
    (workflow : WorkflowDefinition)
    (policy : Option WorkspaceExecutionPolicyDefinition) :
    Nat :=
  (policy.bind (canonicalizePolicyDefinition platform)).elim 0
    fun canonical => findingCount platform canonical workflow

/-- How many things all analyses find in a definition. -/
def totalFindings
    (platform : Platform)
    (workflow : WorkflowDefinition)
    (policy : Option WorkspaceExecutionPolicyDefinition) :
    Nat :=
  let verification := analyzeWorkflowVerifications platform.parseUrl workflow
  (analyzeWorkflowInputs workflow).issues.length +
    verification.issues.length +
    (if verification.hasValidVerification then 0 else 1) +
    extractionFindings workflow + orphanCount workflow +
    policyFindings platform workflow policy

/-- What is returned of a policy has the counted issues. -/
theorem policyIssues_length
    {workflow : WorkflowDefinition}
    {policy : Option WorkspaceExecutionPolicyDefinition}
    {ofPolicy : List PolicyEvaluationIssue}
    (evaluated : policyIssues platform workflow policy = some ofPolicy) :
    ofPolicy.length = policyFindings platform workflow policy := by
  cases policy with
  | none =>
      cases evaluated
      rfl
  | some policy =>
      obtain ⟨evaluation, isEvaluation, rfl⟩ :=
        Option.map_eq_some_iff.mp evaluated
      simp only [evaluateWorkflowPolicy, Option.bind_eq_bind,
        Option.bind_eq_some_iff, Option.ite_none_right_eq_some]
        at isEvaluation
      obtain ⟨parsed, isParsed, -, canonical, isCanonical, isEvaluation⟩ :=
        isEvaluation
      rw [Policy.canonicalize_parsed isParsed] at isCanonical
      rw [Policy.evaluateCanonical_eq, Option.bind_eq_some_iff]
        at isEvaluation
      obtain ⟨analysis, isAnalysis, isEvaluation⟩ := isEvaluation
      rw [Policy.analyzeWorkflowApprovals_eq, Option.ite_none_right_eq_some,
        Option.some.injEq] at isAnalysis
      obtain ⟨-, rfl⟩ := isAnalysis
      obtain ⟨-, isEvaluation⟩ :=
        Option.ite_none_right_eq_some.mp isEvaluation
      rw [← Option.some.inj isEvaluation, policyFindings, Option.bind_some,
        isCanonical]
      exact Policy.length_unparsedEvaluation_issues _ _ _ _ _

theorem length_allIssues
    {workflow : WorkflowDefinition}
    {policy : Option WorkspaceExecutionPolicyDefinition}
    {extraction : WorkflowExtractionAnalysis}
    {approvals : WorkflowApprovalAnalysis}
    {ofPolicy : List PolicyEvaluationIssue}
    (isExtraction : analyzeWorkflowExtraction workflow = some extraction)
    (isApprovals : analyzeWorkflowApprovals workflow = some approvals)
    (evaluated : policyIssues platform workflow policy = some ofPolicy) :
    (allIssues platform workflow extraction approvals ofPolicy).length =
      totalFindings platform workflow policy := by
  rw [Policy.analyzeWorkflowApprovals_eq, Option.ite_none_right_eq_some,
    Option.some.injEq] at isApprovals
  obtain ⟨-, rfl⟩ := isApprovals
  have ofExtraction :
      extractionFindings workflow = extraction.issues.length := by
    rw [extractionFindings, isExtraction]
    rfl
  have missing :
      (if (analyzeWorkflowVerifications platform.parseUrl
            workflow).hasValidVerification then
          ([] : List PublishReadinessIssue)
        else [issueOfCode .outcomeVerificationMissing]).length =
        if (analyzeWorkflowVerifications platform.parseUrl
            workflow).hasValidVerification then 0 else 1 := by
    split <;> rfl
  simp only [allIssues, totalFindings, List.length_append, List.length_map,
    missing, ofExtraction, policyIssues_length evaluated]
  rfl

/-- A policy that its schema accepts. -/
structure ValidPolicy (platform : Platform) where
  definition : WorkspaceExecutionPolicyDefinition
  valid : (definition.parse platform).isSome = true

def definitionOf
    (policy : Option (ValidPolicy platform)) :
    Option WorkspaceExecutionPolicyDefinition :=
  policy.map ValidPolicy.definition

/-- The definitions whose report stays within the bounds of the schemas. -/
structure DefinitionFits
    (platform : Platform)
    (workflow : WorkflowDefinition)
    (policy : Option (ValidPolicy platform)) :
    Prop where
  /-- Steps that produce or read an output have short identifiers. -/
  dataFlow :
    ∀ step ∈ workflow.steps,
      step.InDataFlow → NonEmptyString.IsShort step.id
  /-- So have approval steps and the steps behind them. -/
  gates :
    ∀ index step,
      workflow.steps[index]? = some step →
        AtGate workflow index step → NonEmptyString.IsShort step.id
  fewGates : (approvalBindings workflow).length ≤ maxApprovalIssues
  /-- A policy has a canonical form, and its evaluation stays in bounds. -/
  evaluation :
    ∀ isPolicy ∈ policy,
      ∃ canonical,
        canonicalizePolicyDefinition platform isPolicy.definition =
            some canonical ∧
          WithinBounds platform canonical workflow
  /-- All analyses together find no more than a report holds. -/
  findings :
    totalFindings platform workflow (definitionOf policy) ≤
      maxLifecycleIssues

/-- The inputs whose report stays within the bounds of the schemas. -/
def PublishReportFits
    (input : JsValue)
    (parsed : ParsedDefinition)
    (policy : Option (ValidPolicy platform)) :
    Prop :=
  match parsed with
  | .failure _ => ((getIdentity input).workflowVersion : Int) ≤ maxSafeInteger
  | .success workflow _ => DefinitionFits platform workflow policy

variable {input : JsValue} {workflow : WorkflowDefinition}

theorem invalidReport_parses_iff
    {schemaIssues : List SchemaIssue} :
    (invalidReport input schemaIssues).parses = true ↔
      ((getIdentity input).workflowVersion : Int) ≤ maxSafeInteger := by
  have few :
      ((schemaIssues.take maxLifecycleIssues).map structuralIssue).length ≤
        maxLifecycleIssues := by
    rw [List.length_map]
    exact List.length_take_le _ _
  have parse :
      ((schemaIssues.take maxLifecycleIssues).map structuralIssue).all
          PublishReadinessIssue.parses =
        true := by
    rw [List.all_eq_true]
    intro issue listed
    obtain ⟨schemaIssue, -, rfl⟩ := List.mem_map.mp listed
    exact issueOfCode_parses _
  simp only [PublishReadinessReport.parses, invalidReport, parse, few,
    Nat.zero_le, decide_true, Bool.and_true]
  exact decide_eq_true_iff

theorem reportOf_parses_iff
    (versionIsSafe : (workflow.version : Int) ≤ maxSafeInteger)
    {issues : List PublishReadinessIssue}
    (parse : ∀ issue ∈ issues, issue.parses = true) :
    (reportOf workflow issues).parses = true ↔
      issues.length ≤ maxLifecycleIssues := by
  have blocking :
      issues.countP PublishReadinessIssue.isBlocking ≤ issues.length :=
    List.countP_le_length
  rw [PublishReadinessReport.parses, reportOf]
  simp only [Bool.and_eq_true, List.all_eq_true]
  constructor
  · rintro ⟨-, few⟩
    exact of_decide_eq_true few
  · intro few
    have fewWarnings :
        issues.length - issues.countP PublishReadinessIssue.isBlocking ≤
          maxLifecycleIssues :=
      Nat.le_trans (Nat.sub_le _ _) few
    exact
      ⟨⟨⟨⟨⟨decide_eq_true versionIsSafe, decide_eq_true few⟩, parse⟩,
        decide_eq_true (Nat.le_trans blocking few)⟩,
        decide_eq_true fewWarnings⟩, decide_eq_true few⟩

theorem placeholderDigest_isSha256 :
    isSha256Hex placeholderDigest = true := by
  decide

/-- The policy throws exactly when it has no form or goes beyond bounds. -/
theorem policyIssues_isSome_iff
    {policy : Option (ValidPolicy platform)} :
    (∃ ofPolicy,
        policyIssues platform workflow (definitionOf policy) =
          some ofPolicy) ↔
      ∀ isPolicy ∈ policy,
        ∃ canonical,
          canonicalizePolicyDefinition platform isPolicy.definition =
              some canonical ∧
            WithinBounds platform canonical workflow := by
  cases policy with
  | none =>
      constructor
      · intro _ isPolicy isSome
        cases isSome
      · intro _
        exact ⟨[], rfl⟩
  | some isPolicy =>
      have returns :
          (evaluateWorkflowPolicy platform
              { policy := isPolicy.definition
                workflow
                policyDigest := placeholderDigest
                workflowDigest := placeholderDigest }).isSome = true ↔
            ∃ canonical,
              canonicalizePolicyDefinition platform isPolicy.definition =
                  some canonical ∧
                WithinBounds platform canonical workflow :=
        Policy.isSome_evaluateWorkflowPolicy_iff isPolicy.valid
          ⟨placeholderDigest_isSha256, placeholderDigest_isSha256⟩
      have isMap :
          (∃ ofPolicy,
              policyIssues platform workflow (definitionOf (some isPolicy)) =
                some ofPolicy) ↔
            (evaluateWorkflowPolicy platform
              { policy := isPolicy.definition
                workflow
                policyDigest := placeholderDigest
                workflowDigest := placeholderDigest }).isSome = true := by
        simp [policyIssues, definitionOf, Option.isSome_iff_exists]
      rw [isMap, returns]
      simp

theorem analyzePublishReadiness_success
    {versionIsSafe : (workflow.version : Int) ≤ maxSafeInteger}
    {policy : Option WorkspaceExecutionPolicyDefinition}
    {report : PublishReadinessReport} :
    analyzePublishReadiness platform input
          (.success workflow versionIsSafe) policy =
        some report ↔
      ∃ extraction approvals ofPolicy,
        analyzeWorkflowExtraction workflow = some extraction ∧
          analyzeWorkflowApprovals workflow = some approvals ∧
          policyIssues platform workflow policy = some ofPolicy ∧
          totalFindings platform workflow policy ≤ maxLifecycleIssues ∧
          reportOf workflow
              (allIssues platform workflow extraction approvals ofPolicy) =
            report := by
  simp only [analyzePublishReadiness, Option.bind_eq_bind,
    Option.bind_eq_some_iff, PublishReadinessReport.parse,
    Option.ite_none_right_eq_some, Option.some.injEq,
    reportOf_parses_iff versionIsSafe allIssues_parse]
  constructor
  · rintro ⟨extraction, isExtraction, approvals, isApprovals, ofPolicy,
      evaluated, few, isReport⟩
    rw [length_allIssues isExtraction isApprovals evaluated] at few
    exact
      ⟨extraction, approvals, ofPolicy, isExtraction, isApprovals, evaluated,
        few, isReport⟩
  · rintro ⟨extraction, approvals, ofPolicy, isExtraction, isApprovals,
      evaluated, few, isReport⟩
    rw [← length_allIssues isExtraction isApprovals evaluated] at few
    exact
      ⟨extraction, isExtraction, approvals, isApprovals, ofPolicy, evaluated,
        few, isReport⟩

/-- The report is returned when it fits its schemas. -/
theorem analyzePublishReadiness_isSome_iff
    {parsed : ParsedDefinition}
    {policy : Option (ValidPolicy platform)} :
    (∃ report,
        analyzePublishReadiness platform input parsed (definitionOf policy) =
          some report) ↔
      PublishReportFits input parsed policy := by
  cases parsed with
  | failure schemaIssues =>
      rw [PublishReportFits, ← @invalidReport_parses_iff _ schemaIssues]
      simp only [analyzePublishReadiness, PublishReadinessReport.parse,
        Option.ite_none_right_eq_some, Option.some.injEq]
      constructor
      · rintro ⟨report, parses, -⟩
        exact parses
      · intro parses
        exact ⟨_, parses, rfl⟩
  | success workflow versionIsSafe =>
      simp only [analyzePublishReadiness_success, PublishReportFits]
      constructor
      · rintro ⟨report, extraction, approvals, ofPolicy, isExtraction,
          isApprovals, evaluated, few, -⟩
        have extracted :
            (analyzeWorkflowExtraction workflow).isSome = true := by
          rw [isExtraction]
          rfl
        have approved :
            (analyzeWorkflowApprovals workflow).isSome = true := by
          rw [isApprovals]
          rfl
        obtain ⟨gates, fewGates⟩ :=
          short_of_analyzeWorkflowApprovals approved
        exact
          { dataFlow := fun step isStep inDataFlow =>
              short_of_analyzeWorkflowExtraction extracted isStep inDataFlow
            gates
            fewGates
            evaluation := policyIssues_isSome_iff.mp ⟨ofPolicy, evaluated⟩
            findings := few }
      · intro fits
        obtain ⟨extraction, isExtraction⟩ :=
          Option.isSome_iff_exists.mp
            (analyzeWorkflowExtraction_isSome_of_short fits.dataFlow)
        obtain ⟨approvals, isApprovals⟩ :=
          Option.isSome_iff_exists.mp
            (analyzeWorkflowApprovals_isSome_of_short fits.gates
              fits.fewGates)
        obtain ⟨ofPolicy, evaluated⟩ :=
          policyIssues_isSome_iff.mpr fits.evaluation
        exact
          ⟨_, extraction, approvals, ofPolicy, isExtraction, isApprovals,
            evaluated, fits.findings, rfl⟩

/-- No analysis of a definition has a blocking finding. -/
structure NothingBlocks
    (platform : Platform)
    (workflow : WorkflowDefinition)
    (policy : Option WorkspaceExecutionPolicyDefinition) :
    Prop where
  inputs : (analyzeWorkflowInputs workflow).hasBlockingIssues = false
  verifications :
    (analyzeWorkflowVerifications platform.parseUrl workflow).issues = []
  extraction :
    ∀ extraction ∈ analyzeWorkflowExtraction workflow,
      extraction.hasBlockingIssues = false
  approvals :
    ∀ approvals ∈ analyzeWorkflowApprovals workflow,
      approvals.hasBlockingIssues = false
  policy :
    ∀ definition ∈ policy,
      ∀ evaluation ∈
          evaluateWorkflowPolicy platform
            { policy := definition
              workflow
              policyDigest := placeholderDigest
              workflowDigest := placeholderDigest },
        evaluation.hasBlockingIssues = false

variable
  {workflow : WorkflowDefinition}
  {policy : Option WorkspaceExecutionPolicyDefinition}

/-- The severity of the details is that of the input analysis. -/
theorem inputIssue_severity
    {issue : WorkflowInputIssue}
    (listed : issue ∈ (analyzeWorkflowInputs workflow).issues) :
    (inputIssue issue).severity = issue.severity := by
  rcases List.mem_append.mp listed with ofSource | ofVariable
  · obtain ⟨located, -, isIssue⟩ := List.mem_filterMap.mp ofSource
    rw [sourceIssue] at isIssue
    split at isIssue
    · split at isIssue
      · cases isIssue
        rfl
      · split at isIssue
        · cases isIssue
        · cases isIssue
          rfl
    · split at isIssue
      · cases isIssue
      · cases isIssue
        rfl
    · cases isIssue
    · split at isIssue
      · cases isIssue
        rfl
      · split at isIssue
        · cases isIssue
          rfl
        · cases isIssue
  · obtain ⟨analysis, -, isIssue⟩ := List.mem_filterMap.mp ofVariable
    rw [unusedVariableIssue] at isIssue
    split at isIssue
    · cases isIssue
      rfl
    · cases isIssue

theorem inputIssue_blocks_iff
    {workflow : WorkflowDefinition} :
    (∀ issue ∈ (analyzeWorkflowInputs workflow).issues.map inputIssue,
        issue.isBlocking = false) ↔
      (analyzeWorkflowInputs workflow).hasBlockingIssues = false := by
  have isAny :
      (analyzeWorkflowInputs workflow).hasBlockingIssues =
        (analyzeWorkflowInputs workflow).issues.any fun issue =>
          issue.severity == .blocking :=
    rfl
  rw [isAny, List.any_eq_false, List.forall_mem_map]
  constructor
  · intro notBlocking issue listed
    have same := notBlocking issue listed
    rw [PublishReadinessIssue.isBlocking, inputIssue_severity listed] at same
    simpa using same
  · intro notBlocking issue listed
    rw [PublishReadinessIssue.isBlocking, inputIssue_severity listed]
    simpa using notBlocking issue listed

theorem extractionIssue_blocks_iff
    {extraction : WorkflowExtractionAnalysis}
    (isExtraction : analyzeWorkflowExtraction workflow = some extraction) :
    (∀ issue ∈ extraction.issues.map extractionIssue,
        issue.isBlocking = false) ↔
      extraction.hasBlockingIssues = false := by
  have isAny :
      extraction.hasBlockingIssues =
        extraction.issues.any fun issue => issue.severity == .blocking := by
    simp only [analyzeWorkflowExtraction, Option.ite_none_right_eq_some,
      Option.some.injEq] at isExtraction
    rw [← isExtraction.2]
  rw [isAny, List.any_eq_false, List.forall_mem_map]
  simp [PublishReadinessIssue.isBlocking, extractionIssue]

theorem approvalIssue_blocks_iff
    {approvals : WorkflowApprovalAnalysis}
    (isApprovals : analyzeWorkflowApprovals workflow = some approvals) :
    (∀ issue ∈ approvals.issues.map approvalIssue,
        issue.isBlocking = false) ↔
      approvals.hasBlockingIssues = false := by
  have isCount :
      approvals.hasBlockingIssues = decide (0 < approvals.issues.length) := by
    rw [Policy.analyzeWorkflowApprovals_eq, Option.ite_none_right_eq_some,
      Option.some.injEq] at isApprovals
    rw [← isApprovals.2]
    rfl
  have blocks :
      ∀ issue : ApprovalAnalysisIssue,
        (approvalIssue issue).isBlocking = true :=
    fun _ => rfl
  rw [isCount, List.forall_mem_map]
  cases approvals.issues with
  | nil => simp
  | cons issue issues =>
      constructor
      · intro notBlocking
        have isBlocking := notBlocking issue List.mem_cons_self
        rw [blocks] at isBlocking
        cases isBlocking
      · intro isEmpty
        simp at isEmpty

theorem evaluateWorkflowPolicy_hasBlockingIssues
    {input : Policy.WorkflowPolicyEvaluationInput}
    {evaluation : WorkflowPolicyEvaluation}
    (evaluated : evaluateWorkflowPolicy platform input = some evaluation) :
    evaluation.hasBlockingIssues =
      evaluation.issues.any fun issue => issue.severity == .blocking := by
  obtain ⟨canonical, analysis, -, -, rfl⟩ :=
    Policy.evaluateWorkflowPolicy_eq_some evaluated
  rw [Policy.unparsedEvaluation]
  dsimp only
  exact ((List.mergeSort_perm _ _).any_eq).symm

theorem policyIssue_blocks_iff
    {ofPolicy : List PolicyEvaluationIssue}
    (evaluated : policyIssues platform workflow policy = some ofPolicy) :
    (∀ issue ∈ ofPolicy.map policyIssue, issue.isBlocking = false) ↔
      ∀ definition ∈ policy,
        ∀ evaluation ∈
            evaluateWorkflowPolicy platform
              { policy := definition
                workflow
                policyDigest := placeholderDigest
                workflowDigest := placeholderDigest },
          evaluation.hasBlockingIssues = false := by
  have blocks :
      ∀ issue : PolicyEvaluationIssue,
        (policyIssue issue).isBlocking = (issue.severity == .blocking) := by
    intro issue
    simp only [PublishReadinessIssue.isBlocking, policyIssue, policySeverity]
    cases issue.severity <;> rfl
  cases policy with
  | none =>
      cases evaluated
      simp
  | some definition =>
      obtain ⟨evaluation, isEvaluation, rfl⟩ :=
        Option.map_eq_some_iff.mp evaluated
      have isAny := evaluateWorkflowPolicy_hasBlockingIssues isEvaluation
      rw [List.forall_mem_map]
      simp only [Option.mem_def, Option.some.injEq, forall_eq', isEvaluation,
        isAny, List.any_eq_false, blocks]
      simp

/-- No issue of a report is blocking exactly when no analysis blocks. -/
theorem allIssues_block_iff
    {extraction : WorkflowExtractionAnalysis}
    {approvals : WorkflowApprovalAnalysis}
    {ofPolicy : List PolicyEvaluationIssue}
    (isExtraction : analyzeWorkflowExtraction workflow = some extraction)
    (isApprovals : analyzeWorkflowApprovals workflow = some approvals)
    (evaluated : policyIssues platform workflow policy = some ofPolicy) :
    (∀ issue ∈ allIssues platform workflow extraction approvals ofPolicy,
        issue.isBlocking = false) ↔
      NothingBlocks platform workflow policy := by
  have missing :
      ∀ issue ∈
          (if (analyzeWorkflowVerifications platform.parseUrl
              workflow).hasValidVerification then
            []
          else [issueOfCode .outcomeVerificationMissing]),
        issue.isBlocking = false := by
    intro issue listed
    split at listed
    · cases listed
    · rw [List.mem_singleton.mp listed]
      rfl
  have ofVerification :
      (∀ issue ∈
          (analyzeWorkflowVerifications platform.parseUrl workflow).issues.map
            verificationIssue,
          issue.isBlocking = false) ↔
        (analyzeWorkflowVerifications platform.parseUrl workflow).issues =
          [] := by
    constructor
    · intro notBlocking
      apply List.eq_nil_iff_forall_not_mem.mpr
      intro issue listed
      have isBlocking : (verificationIssue issue).isBlocking = true := rfl
      rw [notBlocking _ (List.mem_map_of_mem listed)] at isBlocking
      cases isBlocking
    · intro isEmpty issue listed
      rw [isEmpty] at listed
      cases listed
  rw [allIssues]
  simp only [List.forall_mem_append]
  rw [inputIssue_blocks_iff, ofVerification,
    extractionIssue_blocks_iff isExtraction,
    approvalIssue_blocks_iff isApprovals, policyIssue_blocks_iff evaluated]
  constructor
  · rintro ⟨⟨⟨⟨⟨inputs, verifications⟩, -⟩, ofExtraction⟩, ofApprovals⟩,
      ofPolicy⟩
    constructor
    case inputs => exact inputs
    case verifications => exact verifications
    case extraction =>
      intro other isOther
      rw [isExtraction] at isOther
      rw [← Option.some.inj isOther]
      exact ofExtraction
    case approvals =>
      intro other isOther
      rw [isApprovals] at isOther
      rw [← Option.some.inj isOther]
      exact ofApprovals
    case policy => exact ofPolicy
  · intro nothing
    exact
      ⟨⟨⟨⟨⟨nothing.inputs, nothing.verifications⟩, missing⟩,
        nothing.extraction extraction isExtraction⟩,
        nothing.approvals approvals isApprovals⟩, nothing.policy⟩

/-- A report is returned, and it is ready when nothing blocks. -/
structure PublishReadinessLaw
    (platform : Platform)
    (input : JsValue)
    (parsed : ParsedDefinition)
    (policy : Option (ValidPolicy platform)) :
    Prop where
  returns :
    ∃ report,
      analyzePublishReadiness platform input parsed (definitionOf policy) =
        some report
  ready :
    ∀ report,
      analyzePublishReadiness platform input parsed (definitionOf policy) =
          some report →
        (report.ready = true ↔
          ∃ workflow versionIsSafe,
            parsed = .success workflow versionIsSafe ∧
              NothingBlocks platform workflow (definitionOf policy))

theorem ready_iff
    {input : JsValue}
    {parsed : ParsedDefinition}
    {policy : Option WorkspaceExecutionPolicyDefinition}
    {report : PublishReadinessReport}
    (returned :
      analyzePublishReadiness platform input parsed policy = some report) :
    report.ready = true ↔
      ∃ workflow versionIsSafe,
        parsed = .success workflow versionIsSafe ∧
          NothingBlocks platform workflow policy := by
  cases parsed with
  | failure schemaIssues =>
      have isReport := (Option.ite_none_right_eq_some.mp returned).2
      rw [← Option.some.inj isReport]
      simp [invalidReport]
  | success workflow versionIsSafe =>
      obtain ⟨extraction, approvals, ofPolicy, isExtraction, isApprovals,
        evaluated, -, rfl⟩ := analyzePublishReadiness_success.mp returned
      have blocks :=
        allIssues_block_iff isExtraction isApprovals evaluated
      simp only [reportOf, decide_eq_true_eq, List.countP_eq_zero,
        Bool.not_eq_true]
      rw [blocks]
      constructor
      · intro nothing
        exact ⟨workflow, versionIsSafe, rfl, nothing⟩
      · rintro ⟨other, otherIsSafe, same, nothing⟩
        cases same
        exact nothing

/--
The publish report can be relied on exactly for the inputs whose report stays
within the bounds of the schemas; for every other input the analysis throws.
-/
theorem publishReadinessLaw_iff
    (platform : Platform)
    (input : JsValue)
    (parsed : ParsedDefinition)
    (policy : Option (ValidPolicy platform)) :
    PublishReadinessLaw platform input parsed policy ↔
      PublishReportFits input parsed policy := by
  constructor
  · intro law
    exact analyzePublishReadiness_isSome_iff.mp law.returns
  · intro fits
    constructor
    case returns => exact analyzePublishReadiness_isSome_iff.mpr fits
    case ready =>
      intro report returned
      exact ready_iff returned

/-- Steps that each have an issue make as many issues. -/
theorem length_le_sourceIssues
    {declared : List WorkflowVariable}
    {placed : List (WorkflowStep × Nat)}
    (faulty :
      ∀ entry ∈ placed,
        ∃ located,
          locate entry.1 entry.2 = [located] ∧
            (sourceIssue declared located).isSome = true) :
    placed.length ≤
      ((placed.flatMap fun entry => locate entry.1 entry.2).filterMap
        (sourceIssue declared)).length := by
  induction placed with
  | nil => exact Nat.le_refl _
  | cons entry placed inductionHypothesis =>
      obtain ⟨isFaulty, faulty⟩ := List.forall_mem_cons.mp faulty
      obtain ⟨located, isLocated, hasIssue⟩ := isFaulty
      obtain ⟨issue, isIssue⟩ := Option.isSome_iff_exists.mp hasIssue
      have others := inductionHypothesis faulty
      rw [List.flatMap_cons, isLocated, List.singleton_append,
        List.filterMap_cons_some isIssue]
      exact Nat.succ_le_succ others

def exampleLetters (index : Nat) : String :=
  String.ofList (List.replicate (index + 1) 'a')

theorem exampleLetters_trimmed (index : Nat) :
    trim (exampleLetters index) = exampleLetters index := by
  apply trim_ofList
  intro letter listed
  rw [List.eq_of_mem_replicate listed]
  decide

theorem exampleLetters_nonEmpty (index : Nat) :
    isNonEmptyTrimmed (exampleLetters index) = true := by
  rw [isNonEmptyTrimmed, exampleLetters_trimmed, exampleLetters,
    Policy.utf16Length_letters, decide_eq_true_eq]
  omega

/-- Pairwise different names. -/
def exampleName (index : Nat) : NonEmptyString :=
  { text := exampleLetters index
    trimmed := exampleLetters_trimmed index
    nonEmpty := exampleLetters_nonEmpty index }

theorem exampleName_injective : Function.Injective exampleName := by
  intro first second same
  have sameText : exampleLetters first = exampleLetters second :=
    congrArg NonEmptyString.text same
  have sameLength := congrArg utf16Length sameText
  rw [exampleLetters, exampleLetters, Policy.utf16Length_letters,
    Policy.utf16Length_letters] at sameLength
  omega

/-- A step that navigates to a number. -/
def exampleFaultyStep (index : Nat) : WorkflowStep :=
  { id := exampleName index
    name := exampleName index
    action := .navigate (.literal (.number 1))
    refined := rfl }

def exampleFaultySteps (count : Nat) : List WorkflowStep :=
  (List.range (count + 1)).map exampleFaultyStep

theorem exampleFaultySteps_length (count : Nat) :
    (exampleFaultySteps count).length = count + 1 := by
  rw [exampleFaultySteps, List.length_map, List.length_range]

theorem exampleFaultySteps_ne_nil (count : Nat) :
    exampleFaultySteps count ≠ [] := by
  rw [← List.length_pos_iff, exampleFaultySteps_length]
  exact Nat.succ_pos count

theorem exampleFaultySteps_ids (count : Nat) :
    ((exampleFaultySteps count).map WorkflowStep.id).Nodup := by
  rw [exampleFaultySteps, List.map_map]
  exact List.nodup_range.map exampleName_injective

/-- A definition all of whose steps are faulty. -/
def exampleFaultyWorkflow (count : Nat) : WorkflowDefinition :=
  { exampleWorkflow with
    steps := exampleFaultySteps count
    stepsNonEmpty := exampleFaultySteps_ne_nil count
    stepIdsUnique := exampleFaultySteps_ids count }

theorem exampleFaultyWorkflow_version (count : Nat) :
    ((exampleFaultyWorkflow count).version : Int) ≤ maxSafeInteger := by
  have isOne : (exampleFaultyWorkflow count).version = 1 := rfl
  rw [isOne]
  decide

theorem exampleFaultyStep_isFaulty (number index : Nat) :
    ∃ located,
      locate (exampleFaultyStep number) index = [located] ∧
        (sourceIssue [] located).isSome = true :=
  ⟨_, rfl, rfl⟩

theorem exampleFaultyWorkflow_issues (count : Nat) :
    count <
      (analyzeWorkflowInputs (exampleFaultyWorkflow count)).issues.length := by
  have every :
      ∀ entry ∈ (exampleFaultySteps count).zipIdx,
        ∃ located,
          locate entry.1 entry.2 = [located] ∧
            (sourceIssue [] located).isSome = true := by
    rintro ⟨step, index⟩ listed
    have isStep :=
      List.mem_of_getElem? (List.mem_zipIdx_iff_getElem?.mp listed)
    obtain ⟨number, -, rfl⟩ := List.mem_map.mp isStep
    exact exampleFaultyStep_isFaulty number index
  have counted := length_le_sourceIssues every
  rw [List.length_zipIdx, exampleFaultySteps_length] at counted
  apply lt_of_lt_of_le counted
  rw [analyzeWorkflowInputs, List.length_append]
  exact Nat.le_add_right _ _

/-- The report of 2001 wrong addresses is not returned. -/
theorem not_publishReadinessLaw_exampleFaultyWorkflow :
    ¬PublishReadinessLaw Policy.examplePlatform .null
        (.success (exampleFaultyWorkflow 2000)
          (exampleFaultyWorkflow_version 2000))
        none := by
  intro law
  have fits := (analyzePublishReadiness_isSome_iff.mp law.returns).findings
  have many := exampleFaultyWorkflow_issues 2000
  rw [totalFindings] at fits
  simp only [maxLifecycleIssues] at fits
  omega

end TaskTwin.Publication

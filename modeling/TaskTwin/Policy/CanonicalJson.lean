import TaskTwin.Audit.CanonicalJson
import TaskTwin.Policy.Canonicalization

/-!
# The canonical JSON of policies

The text that is kept and hashed for a policy.  Policies with one canonical
text have one canonical form.
-/

namespace TaskTwin.Policy

open Text Workflow

variable (platform : Platform)

def OriginPattern.json : OriginPattern → Json
  | .exact origin =>
      .object
        [(js "kind", .string (js "exact")), (js "origin", .string origin)]
  | .httpsSubdomains domain includeApex =>
      .object
        [(js "kind", .string (js "https_subdomains")),
          (js "patternVersion", .integer 1),
          (js "domain", .string domain),
          (js "includeApex", .boolean includeApex)]

/-- A property that is left out when it is undefined. -/
def optionalField
    {α : Type}
    (name : String)
    (json : α → Json) :
    Option α → List (JsString × Json)
  | none => []
  | some value => [(js name, json value)]

def textJson {α : Type} (text : α → String) (value : α) : Json :=
  .string (js (text value))

def listJson {α : Type} (json : α → Json) (values : List α) : Json :=
  .array (values.map json)

def ActionPolicyRule.matchFields
    (rule : ActionPolicyRule) :
    List (JsString × Json) :=
  optionalField "stepTypes" (listJson (textJson stepTypeText))
      rule.stepTypes ++
    optionalField "actionIntents"
      (listJson (textJson WorkflowActionIntent.text)) rule.actionIntents ++
    optionalField "origins" (listJson OriginPattern.json) rule.origins

def ActionPolicyRule.fields
    (rule : ActionPolicyRule) :
    List (JsString × Json) :=
  [(js "id", Json.string rule.id),
    (js "match", Json.object rule.matchFields)] ++
    optionalField "minimumRisk" (textJson PolicyRiskLevel.text)
      rule.minimumRisk ++
    optionalField "decision" (textJson PolicyDecision.text) rule.decision

def ActionPolicyRule.json (rule : ActionPolicyRule) : Json :=
  .object rule.fields

def WorkspaceExecutionPolicyDefinition.json
    (policy : WorkspaceExecutionPolicyDefinition) :
    Json :=
  .object
    [(js "schemaVersion", .integer 1),
      (js "network",
        .object
          [(js "mode", textJson NetworkMode.text policy.mode),
            (js "allowedOrigins",
              listJson OriginPattern.json policy.allowedOrigins),
            (js "blockedOrigins",
              listJson OriginPattern.json policy.blockedOrigins),
            (js "allowLoopbackHttp", .boolean policy.allowLoopbackHttp)]),
      (js "unknownActionRisk",
        textJson PolicyRiskLevel.text policy.unknownActionRisk),
      (js "approval",
        .object
          [(js "threshold", textJson ApprovalThreshold.text policy.threshold),
            (js "criticalActionBehavior",
              textJson CriticalActionBehavior.text
                policy.criticalActionBehavior)]),
      (js "rules", listJson ActionPolicyRule.json policy.rules)]

/-- `serializeCanonicalJson`, as the audit trail has it. -/
def serializeCanonicalJson (value : Json) : JsString :=
  Audit.serialize value

def canonicalPolicyJson
    (input : WorkspaceExecutionPolicyDefinition) :
    Option JsString :=
  (canonicalizePolicyDefinition platform input).map fun policy =>
    serializeCanonicalJson policy.json

variable {platform}

/-- Values with different JSON unless they are equal. -/
def ToldApart {α : Type} (json : α → Json) : Prop :=
  ∀ first second, (json first).Same (json second) → first = second

variable {α : Type}

theorem toldApart_text
    {text : α → String}
    (injective :
      ∀ first second, js (text first) = js (text second) → first = second) :
    ToldApart (textJson text) :=
  fun first second same => injective first second (Json.sameString same)

theorem toldApart_list
    {json : α → Json}
    (toldApart : ToldApart json) :
    ToldApart (listJson json) := by
  intro first second same
  cases same with
  | array same =>
      rw [List.forall₂_map_left_iff, List.forall₂_map_right_iff] at same
      induction same with
      | nil => rfl
      | cons isSame _ inductionHypothesis =>
          rw [toldApart _ _ isSame, inductionHypothesis]

theorem lookup_field
    (key name : JsString)
    (value : Json)
    (fields : List (JsString × Json)) :
    ((name, value) :: fields).lookup key =
      if key = name then some value else fields.lookup key := by
  rw [List.lookup_cons]
  by_cases isName : key = name
  · simp [isName]
  · have notName : (key == name) = false := by simpa using isName
    simp [notName, isName]

/-- What a property that may be left out is read back as. -/
theorem lookup_optionalField
    (name : String)
    (json : α → Json)
    (value : Option α)
    (key : JsString) :
    (optionalField name json value).lookup key =
      if key = js name then value.map json else none := by
  cases value with
  | none => simp [optionalField]
  | some value =>
      rw [optionalField, lookup_field, List.lookup_nil, Option.map_some]

theorem eq_of_rel_map
    {json : α → Json}
    (toldApart : ToldApart json)
    {first second : Option α}
    (same : Option.Rel Json.Same (first.map json) (second.map json)) :
    first = second := by
  cases first <;> cases second <;> simp at same
  case none.none => rfl
  case some.some => exact congrArg some (toldApart _ _ same)

theorem toldApart_boolean : ToldApart Json.boolean := by
  intro first second same
  cases same
  rfl

theorem toldApart_pattern : ToldApart OriginPattern.json := by
  intro first second same
  cases first with
  | exact origin =>
      cases second with
      | exact origin' =>
          have sameOrigin :=
            @Json.sameField _ _ (js "origin") (.string origin)
              (.string origin') same (by simp) (by simp)
              (by simp only [List.map]; decide)
          rw [Json.sameString sameOrigin]
      | httpsSubdomains domain' includeApex' =>
          simpa using Json.sameFieldCount same
  | httpsSubdomains domain includeApex =>
      cases second with
      | exact origin' => simpa using Json.sameFieldCount same
      | httpsSubdomains domain' includeApex' =>
          have sameDomain :=
            @Json.sameField _ _ (js "domain") (.string domain)
              (.string domain') same (by simp) (by simp)
              (by simp only [List.map]; decide)
          have sameApex :=
            @Json.sameField _ _ (js "includeApex") (.boolean includeApex)
              (.boolean includeApex') same (by simp) (by simp) (by simp only [List.map]; decide)
          rw [Json.sameString sameDomain, toldApart_boolean _ _ sameApex]

theorem ActionPolicyRule.matchFields_distinct (rule : ActionPolicyRule) :
    (rule.matchFields.map Prod.fst).Nodup := by
  rw [ActionPolicyRule.matchFields]
  cases rule.stepTypes <;> cases rule.actionIntents <;>
    cases rule.origins <;>
    simp only [optionalField, List.nil_append, List.cons_append,
      List.append_nil, List.map] <;>
    decide

theorem ActionPolicyRule.fields_distinct (rule : ActionPolicyRule) :
    (rule.fields.map Prod.fst).Nodup := by
  rw [ActionPolicyRule.fields]
  cases rule.minimumRisk <;> cases rule.decision <;>
    simp only [optionalField, List.nil_append, List.cons_append,
      List.append_nil, List.map] <;>
    decide

/-- What the keys of a rule are read back as. -/
theorem ActionPolicyRule.fields_lookup (rule : ActionPolicyRule) :
    rule.fields.lookup (js "id") = some (.string rule.id) ∧
      rule.fields.lookup (js "match") = some (.object rule.matchFields) ∧
      rule.fields.lookup (js "minimumRisk") =
        rule.minimumRisk.map (textJson PolicyRiskLevel.text) ∧
      rule.fields.lookup (js "decision") =
        rule.decision.map (textJson PolicyDecision.text) := by
  refine ⟨?_, ?_, ?_, ?_⟩ <;>
    simp +decide [ActionPolicyRule.fields, List.lookup_append,
      lookup_optionalField, lookup_field]

theorem ActionPolicyRule.matchFields_lookup (rule : ActionPolicyRule) :
    rule.matchFields.lookup (js "stepTypes") =
        rule.stepTypes.map (listJson (textJson stepTypeText)) ∧
      rule.matchFields.lookup (js "actionIntents") =
        rule.actionIntents.map
          (listJson (textJson WorkflowActionIntent.text)) ∧
      rule.matchFields.lookup (js "origins") =
        rule.origins.map (listJson OriginPattern.json) := by
  refine ⟨?_, ?_, ?_⟩ <;>
    simp +decide [ActionPolicyRule.matchFields, List.lookup_append,
      lookup_optionalField]

theorem toldApart_risk : ToldApart (textJson PolicyRiskLevel.text) := by
  apply toldApart_text
  intro first second same
  cases first <;> cases second <;>
    first | rfl | exact absurd same (by decide)

theorem toldApart_decision : ToldApart (textJson PolicyDecision.text) := by
  apply toldApart_text
  intro first second same
  cases first <;> cases second <;>
    first | rfl | exact absurd same (by decide)

theorem toldApart_mode : ToldApart (textJson NetworkMode.text) := by
  apply toldApart_text
  intro first second same
  cases first <;> cases second <;>
    first | rfl | exact absurd same (by decide)

theorem toldApart_threshold :
    ToldApart (textJson ApprovalThreshold.text) := by
  apply toldApart_text
  intro first second same
  cases first <;> cases second <;>
    first | rfl | exact absurd same (by decide)

theorem toldApart_behavior :
    ToldApart (textJson CriticalActionBehavior.text) := by
  apply toldApart_text
  intro first second same
  cases first <;> cases second <;>
    first | rfl | exact absurd same (by decide)

theorem toldApart_rule : ToldApart ActionPolicyRule.json := by
  intro first second same
  have sameUnder (key : JsString) :=
    Json.sameLookup same first.fields_distinct second.fields_distinct key
  obtain ⟨firstId, firstMatch, firstRisk, firstDecision⟩ :=
    first.fields_lookup
  obtain ⟨secondId, secondMatch, secondRisk, secondDecision⟩ :=
    second.fields_lookup
  have sameId := sameUnder (js "id")
  rw [firstId, secondId, Option.rel_some_some] at sameId
  have sameRisk := sameUnder (js "minimumRisk")
  rw [firstRisk, secondRisk] at sameRisk
  have sameDecision := sameUnder (js "decision")
  rw [firstDecision, secondDecision] at sameDecision
  have sameMatch := sameUnder (js "match")
  rw [firstMatch, secondMatch, Option.rel_some_some] at sameMatch
  have sameWithin (key : JsString) :=
    Json.sameLookup sameMatch first.matchFields_distinct
      second.matchFields_distinct key
  obtain ⟨firstTypes, firstIntents, firstOrigins⟩ := first.matchFields_lookup
  obtain ⟨secondTypes, secondIntents, secondOrigins⟩ :=
    second.matchFields_lookup
  have sameTypes := sameWithin (js "stepTypes")
  rw [firstTypes, secondTypes] at sameTypes
  have sameIntents := sameWithin (js "actionIntents")
  rw [firstIntents, secondIntents] at sameIntents
  have sameOrigins := sameWithin (js "origins")
  rw [firstOrigins, secondOrigins] at sameOrigins
  have injectiveTypes := toldApart_text enumerated_stepType.injective
  have injectiveIntents := toldApart_text enumerated_intent.injective
  cases first
  cases second
  simp only [ActionPolicyRule.mk.injEq]
  exact
    ⟨Json.sameString sameId,
      eq_of_rel_map (toldApart_list injectiveTypes) sameTypes,
      eq_of_rel_map (toldApart_list injectiveIntents) sameIntents,
      eq_of_rel_map (toldApart_list toldApart_pattern) sameOrigins,
      eq_of_rel_map toldApart_risk sameRisk,
      eq_of_rel_map toldApart_decision sameDecision⟩

/-- Policies with the same JSON are equal. -/
theorem toldApart_policy :
    ToldApart WorkspaceExecutionPolicyDefinition.json := by
  intro first second same
  have sameNetwork :=
    Json.sameField (js "network") same
      (List.mem_cons_of_mem _ List.mem_cons_self)
      (List.mem_cons_of_mem _ List.mem_cons_self)
      (by simp only [List.map]; decide)
  have sameApproval :=
    Json.sameField (js "approval") same
      (List.mem_cons_of_mem _
        (List.mem_cons_of_mem _
          (List.mem_cons_of_mem _ List.mem_cons_self)))
      (List.mem_cons_of_mem _
        (List.mem_cons_of_mem _
          (List.mem_cons_of_mem _ List.mem_cons_self)))
      (by simp only [List.map]; decide)
  have sameUnder (key : JsString) :=
    Json.sameLookup same (by simp only [List.map]; decide)
      (by simp only [List.map]; decide) key
  have sameInNetwork (key : JsString) :=
    Json.sameLookup sameNetwork (by simp only [List.map]; decide)
      (by simp only [List.map]; decide) key
  have sameInApproval (key : JsString) :=
    Json.sameLookup sameApproval (by simp only [List.map]; decide)
      (by simp only [List.map]; decide) key
  have sameRisk := sameUnder (js "unknownActionRisk")
  have sameRules := sameUnder (js "rules")
  have sameMode := sameInNetwork (js "mode")
  have sameAllowed := sameInNetwork (js "allowedOrigins")
  have sameBlocked := sameInNetwork (js "blockedOrigins")
  have sameLoopback := sameInNetwork (js "allowLoopbackHttp")
  have sameThreshold := sameInApproval (js "threshold")
  have sameBehavior := sameInApproval (js "criticalActionBehavior")
  simp +decide only [lookup_field, if_true, if_false, Option.rel_some_some]
    at sameRisk sameRules sameMode sameAllowed sameBlocked sameLoopback
      sameThreshold sameBehavior
  cases first
  cases second
  simp only [WorkspaceExecutionPolicyDefinition.mk.injEq]
  exact
    ⟨toldApart_mode _ _ sameMode,
      toldApart_list toldApart_pattern _ _ sameAllowed,
      toldApart_list toldApart_pattern _ _ sameBlocked,
      toldApart_boolean _ _ sameLoopback,
      toldApart_risk _ _ sameRisk,
      toldApart_threshold _ _ sameThreshold,
      toldApart_behavior _ _ sameBehavior,
      toldApart_list toldApart_rule _ _ sameRules⟩

/-- One canonical text, one canonical policy. -/
theorem canonicalPolicyJson_eq
    {first second policy : WorkspaceExecutionPolicyDefinition}
    (canonical : canonicalizePolicyDefinition platform first = some policy)
    (sameText :
      canonicalPolicyJson platform first =
        canonicalPolicyJson platform second) :
    canonicalizePolicyDefinition platform second = some policy := by
  rw [canonicalPolicyJson, canonicalPolicyJson, canonical,
    Option.map_some] at sameText
  obtain ⟨policy', isPolicy, isText⟩ :=
    Option.map_eq_some_iff.mp sameText.symm
  rw [isPolicy, toldApart_policy _ _ (Audit.serialize_injective isText)]

end TaskTwin.Policy

import TaskTwin.Policy.Definition

/-!
# Canonical policies

The lists of a policy are sorted, without repetitions, and its rules are
sorted by their identifiers.  Policies that list the same things have the same
canonical form, and a canonical form is its own.
-/

namespace TaskTwin.Policy

open Text Schema Workflow Collection

variable (platform : Platform)

/-- The order of values by a text of theirs. -/
def notAfterBy
    {α : Type}
    (key : α → JsString)
    (first second : α) :
    Bool :=
  platform.notAfter (key first) (key second)

/-- `new Set(values)`, in the order in which they were added. -/
def setOf
    {α : Type}
    [DecidableEq α]
    (values : List α) :
    List α :=
  (mapOf (fun value => value) values).map Prod.snd

def uniqueSorted
    {α : Type}
    [DecidableEq α]
    (text : α → JsString)
    (values : List α) :
    List α :=
  (setOf values).mergeSort (notAfterBy platform text)

def canonicalizeOriginPattern
    (input : OriginPattern) :
    Option OriginPattern :=
  match input.parse platform with
  | none => none
  | some (.exact origin) =>
      (normalizeCanonicalOrigin platform origin).map .exact
  | some (.httpsSubdomains domain includeApex) =>
      (normalizeHttpsDomain platform domain).map fun domain =>
        .httpsSubdomains domain includeApex

def originPatternKey : OriginPattern → JsString
  | .exact origin => js "exact:" ++ origin
  | .httpsSubdomains domain includeApex =>
      js "https_subdomains:" ++ domain ++
        (if includeApex then js ":1" else js ":0")

def canonicalizePatterns
    (values : List OriginPattern) :
    Option (List OriginPattern) :=
  (values.mapM (canonicalizeOriginPattern platform)).map fun patterns =>
    ((mapOf originPatternKey patterns).mergeSort
      (notAfterBy platform Prod.fst)).map Prod.snd

def canonicalizeRule
    (rule : ActionPolicyRule) :
    Option ActionPolicyRule := do
  let origins ← optionally (canonicalizePatterns platform) rule.origins
  some
    { id := rule.id
      stepTypes :=
        rule.stepTypes.map
          (uniqueSorted platform fun stepType => js (stepTypeText stepType))
      actionIntents :=
        rule.actionIntents.map
          (uniqueSorted platform fun intent => js intent.text)
      origins
      minimumRisk := rule.minimumRisk
      decision := rule.decision }

/-- `rules.map(canonicalizeRule).sort(…)`. -/
def canonicalizeRules
    (rules : List ActionPolicyRule) :
    Option (List ActionPolicyRule) :=
  (rules.mapM (canonicalizeRule platform)).map fun rules =>
    rules.mergeSort (notAfterBy platform ActionPolicyRule.id)

/-- The parsed policy with every list in order. -/
def orderPolicy
    (policy : WorkspaceExecutionPolicyDefinition) :
    Option WorkspaceExecutionPolicyDefinition := do
  let allowedOrigins ← canonicalizePatterns platform policy.allowedOrigins
  let blockedOrigins ← canonicalizePatterns platform policy.blockedOrigins
  let rules ← canonicalizeRules platform policy.rules
  some { policy with allowedOrigins, blockedOrigins, rules }

/-- `canonicalizePolicyDefinition`; `none` when it throws. -/
def canonicalizePolicyDefinition
    (input : WorkspaceExecutionPolicyDefinition) :
    Option WorkspaceExecutionPolicyDefinition := do
  let policy ← input.parse platform
  let ordered ← orderPolicy platform policy
  ordered.parse platform

variable {platform}

variable {α : Type} {key : α → JsString}

theorem notAfterBy_trans
    (first second third : α)
    (firstSecond : notAfterBy platform key first second = true)
    (secondThird : notAfterBy platform key second third = true) :
    notAfterBy platform key first third = true :=
  platform.notAfter_trans _ _ _ firstSecond secondThird

theorem notAfterBy_total
    (first second : α) :
    (notAfterBy platform key first second ||
        notAfterBy platform key second first) =
      true :=
  platform.notAfter_total _ _

/-- Values that a visible text tells apart. -/
theorem notAfterBy_antisymmetric
    {values : List α}
    (visible :
      ∀ value ∈ values, ∀ symbol ∈ key value, isVisible symbol = true)
    (injective :
      ∀ first ∈ values, ∀ second ∈ values,
        key first = key second → first = second) :
    Antisymmetric (notAfterBy platform key) values := by
  intro first isFirst second isSecond before after
  exact injective first isFirst second isSecond
    (platform.notAfter_antisymm _ _ (visible first isFirst)
      (visible second isSecond) before after)

theorem setOf_spec
    [DecidableEq α]
    (values : List α) :
    (setOf values).Nodup ∧ SameElements (setOf values) values :=
  mapOf_values fun _ _ _ _ same => same

theorem uniqueSorted_canonical
    [DecidableEq α]
    (text : α → JsString)
    (values : List α) :
    Canonical (notAfterBy platform text) values
      (uniqueSorted platform text values) :=
  .mergeSort notAfterBy_trans notAfterBy_total (setOf_spec values).1
    (setOf_spec values).2

/-- Enumerations whose texts are visible and all different. -/
structure Enumerated {α : Type} (text : α → JsString) : Prop where
  visible : ∀ value, ∀ symbol ∈ text value, isVisible symbol = true
  injective : ∀ first second, text first = text second → first = second

theorem enumerated_stepType :
    Enumerated fun stepType => js (stepTypeText stepType) := by
  constructor
  · intro stepType
    cases stepType <;> exact List.all_eq_true.mp (by decide)
  · intro first second same
    cases first <;> cases second <;>
      first | rfl | exact absurd same (by decide)

theorem enumerated_intent :
    Enumerated fun intent : WorkflowActionIntent => js intent.text := by
  constructor
  · intro intent
    cases intent <;> exact List.all_eq_true.mp (by decide)
  · intro first second same
    cases first <;> cases second <;>
      first | rfl | exact absurd same (by decide)

theorem uniqueSorted_same
    [DecidableEq α]
    {text : α → JsString}
    (enumerated : Enumerated text)
    {values others : List α}
    (same : SameElements values others) :
    uniqueSorted platform text values = uniqueSorted platform text others :=
  (uniqueSorted_canonical text values).unique
    (uniqueSorted_canonical text others) same
    (notAfterBy_antisymmetric (fun value _ => enumerated.visible value)
      (fun first _ second _ => enumerated.injective first second))

theorem uniqueSorted_idempotent
    [DecidableEq α]
    {text : α → JsString}
    (enumerated : Enumerated text)
    (values : List α) :
    uniqueSorted platform text (uniqueSorted platform text values) =
      uniqueSorted platform text values :=
  uniqueSorted_same enumerated (uniqueSorted_canonical text values).same

theorem isVisible_of_isDomainSymbol
    {symbol : CodeUnit}
    (isSymbol : isDomainSymbol symbol = true) :
    isVisible symbol = true := by
  simp only [isDomainSymbol, CodeUnit.isLower, CodeUnit.isDigit, isVisible,
    CodeUnit.within, Bool.or_eq_true, Bool.and_eq_true, decide_eq_true_eq,
    beq_iff_eq, Fin.le_def, Fin.ext_iff] at isSymbol ⊢
  have bounds :
      (unit '!').val = 33 ∧ (unit '~').val = 126 ∧ (unit 'a').val = 97 ∧
        (unit 'z').val = 122 ∧ (unit '0').val = 48 ∧ (unit '9').val = 57 ∧
          (unit '-').val = 45 ∧ (unit '.').val = 46 := by
    decide
  omega

theorem not_isBlank_of_isVisible
    {symbol : CodeUnit}
    (visible : isVisible symbol = true) :
    isBlank symbol = false := by
  have bounds : (unit '!').val = 33 ∧ (unit '~').val = 126 := by decide
  simp only [isVisible, CodeUnit.within, Bool.and_eq_true, decide_eq_true_eq,
    Fin.le_def, bounds] at visible
  simp only [isBlank, Bool.or_eq_false_iff, Bool.and_eq_false_iff,
    decide_eq_false_iff_not, beq_eq_false_iff_ne]
  omega

/-- There is nothing to trim off visible texts. -/
theorem trimText_of_visible
    {text : JsString}
    (visible : ∀ symbol ∈ text, isVisible symbol = true) :
    trimText text = text := by
  have untouched
      {part : JsString}
      (visible : ∀ symbol ∈ part, isVisible symbol = true) :
      part.dropWhile isBlank = part := by
    cases part with
    | nil => rfl
    | cons symbol rest =>
        have notBlank :=
          not_isBlank_of_isVisible (visible symbol List.mem_cons_self)
        simp [notBlank]
  rw [trimText, untouched visible, untouched, List.reverse_reverse]
  intro symbol isSymbol
  exact visible symbol (List.mem_reverse.mp isSymbol)

/-- Canonical origins are visible and canonical. -/
theorem normalizeCanonicalOrigin_fixed
    {value origin : JsString}
    (normalized : normalizeCanonicalOrigin platform value = some origin) :
    (∀ symbol ∈ origin, isVisible symbol = true) ∧
      normalizeCanonicalOrigin platform origin = some origin := by
  rw [normalizeCanonicalOrigin] at normalized
  split at normalized
  case h_1 => simp at normalized
  case h_2 url parsed =>
    split at normalized
    case isFalse => simp at normalized
    case isTrue isBare =>
      obtain rfl := Option.some.inj normalized
      have isHttp : url.isHttp = true := by
        simp only [Url.isBareOrigin, Bool.and_eq_true] at isBare
        exact isBare.1.1.1.1.1
      obtain ⟨again, parsedAgain, bareAgain, sameOrigin⟩ :=
        platform.origin_stable value url parsed isHttp
      constructor
      · exact platform.origin_visible value url parsed isHttp
      · simp [normalizeCanonicalOrigin, parsedAgain, bareAgain, sameOrigin]

theorem isDomainLabel_symbols
    {label : JsString}
    (isLabel : isDomainLabel label = true) :
    label ≠ [] ∧ ∀ symbol ∈ label, isDomainSymbol symbol = true := by
  simp only [isDomainLabel, hasLength, Bool.and_eq_true, decide_eq_true_eq,
    List.all_eq_true] at isLabel
  constructor
  · rintro rfl
    simp at isLabel
  · intro symbol isSymbol
    have isEdgeOrHyphen := isLabel.2 symbol isSymbol
    simp only [isDomainSymbol, Bool.or_eq_true] at isEdgeOrHyphen ⊢
    tauto

theorem mem_of_mem_intercalate
    {α : Type}
    {separator value : α}
    {parts : List (List α)}
    (listed : value ∈ [separator].intercalate parts) :
    value = separator ∨ ∃ part ∈ parts, value ∈ part := by
  induction parts with
  | nil => simp at listed
  | cons part parts inductionHypothesis =>
      cases parts with
      | nil =>
          rw [List.intercalate_singleton] at listed
          exact Or.inr ⟨part, List.mem_cons_self, listed⟩
      | cons next parts =>
          rw [List.intercalate_cons_cons, List.mem_append,
            List.mem_append] at listed
          rcases listed with (inPart | isSeparator) | later
          · exact Or.inr ⟨part, List.mem_cons_self, inPart⟩
          · exact Or.inl (List.mem_singleton.mp isSeparator)
          · rcases inductionHypothesis later with
              isSeparator | ⟨other, isPart, inOther⟩
            · exact Or.inl isSeparator
            · exact Or.inr
                ⟨other, List.mem_cons_of_mem _ isPart, inOther⟩

theorem isDomain_symbols
    {domain : JsString}
    (valid : isDomain domain = true) :
    ∀ symbol ∈ domain, isDomainSymbol symbol = true := by
  intro symbol isSymbol
  rw [isDomain, List.all_eq_true] at valid
  rw [← @List.intercalate_splitOn _ domain _ _ (unit '.')] at isSymbol
  rcases mem_of_mem_intercalate isSymbol with rfl | ⟨label, isLabel, inLabel⟩
  · simp [isDomainSymbol]
  · exact (isDomainLabel_symbols (valid label isLabel)).2 symbol inLabel

/-- A domain does not end in a point: its last label is not empty. -/
theorem dropLastPoint_of_isDomain
    {domain : JsString}
    (valid : isDomain domain = true) :
    dropLastPoint domain = domain := by
  rw [dropLastPoint]
  split
  case isFalse => rfl
  case isTrue endsInPoint =>
    obtain ⟨rest, rfl⟩ := List.getLast?_eq_some_iff.mp endsInPoint
    rw [isDomain, List.splitOn_append_cons_self, List.all_append,
      Bool.and_eq_true, List.all_eq_true, List.all_eq_true] at valid
    have isLabel : isDomainLabel [] = true := valid.2 [] (by simp)
    simp [isDomainLabel, hasLength] at isLabel

/-- Canonical domains are visible and canonical. -/
theorem normalizeHttpsDomain_fixed
    {value domain : JsString}
    (normalized : normalizeHttpsDomain platform value = some domain) :
    (∀ symbol ∈ domain, isVisible symbol = true) ∧
      normalizeHttpsDomain platform domain = some domain := by
  simp only [normalizeHttpsDomain, Option.ite_none_right_eq_some,
    Option.some.injEq] at normalized
  obtain ⟨valid, rfl⟩ := normalized
  generalize dropLastPoint (platform.toLowerCase (trimText value)) = domain
    at valid
  have isDomain : isDomain domain = true := by
    rw [Bool.and_eq_true] at valid
    exact valid.2
  have symbols := isDomain_symbols isDomain
  have visible (symbol : CodeUnit) (isSymbol : symbol ∈ domain) :
      isVisible symbol = true :=
    isVisible_of_isDomainSymbol (symbols symbol isSymbol)
  constructor
  · exact visible
  · simp only [normalizeHttpsDomain, trimText_of_visible visible,
      platform.toLowerCase_domain domain symbols,
      dropLastPoint_of_isDomain isDomain, valid, if_true]

/-- A canonical pattern has a visible key and is its own canonical form as
soon as it is valid. -/
theorem canonicalizeOriginPattern_spec
    {input pattern : OriginPattern}
    (canonical : canonicalizeOriginPattern platform input = some pattern) :
    (∀ symbol ∈ originPatternKey pattern, isVisible symbol = true) ∧
      ∀ parsed,
        pattern.parse platform = some parsed →
        parsed = pattern ∧
          canonicalizeOriginPattern platform pattern = some pattern := by
  have visibleText (text : String)
      (visible : (js text).all isVisible = true) :
      ∀ symbol ∈ js text, isVisible symbol = true :=
    List.all_eq_true.mp visible
  rw [canonicalizeOriginPattern] at canonical
  split at canonical
  case h_1 => simp at canonical
  case h_2 origin parsed =>
    obtain ⟨origin', normalized, rfl⟩ := Option.map_eq_some_iff.mp canonical
    obtain ⟨visible, fixed⟩ := normalizeCanonicalOrigin_fixed normalized
    constructor
    · intro symbol isSymbol
      rcases List.mem_append.mp isSymbol with inName | inOrigin
      · exact visibleText "exact:" (by decide) symbol inName
      · exact visible symbol inOrigin
    · intro parsed isParsed
      have isPattern : parsed = .exact origin' := by
        simp only [OriginPattern.parse, trimText_of_visible visible,
          Option.ite_none_right_eq_some, Option.some.injEq] at isParsed
        exact isParsed.2.symm
      subst isPattern
      simp [canonicalizeOriginPattern, isParsed, fixed]
  case h_3 domain includeApex parsed =>
    obtain ⟨domain', normalized, rfl⟩ := Option.map_eq_some_iff.mp canonical
    obtain ⟨visible, fixed⟩ := normalizeHttpsDomain_fixed normalized
    constructor
    · intro symbol isSymbol
      rcases List.mem_append.mp isSymbol with front | inFlag
      · rcases List.mem_append.mp front with inName | inDomain
        · exact visibleText "https_subdomains:" (by decide) symbol inName
        · exact visible symbol inDomain
      · cases includeApex
        · exact visibleText ":0" (by decide) symbol inFlag
        · exact visibleText ":1" (by decide) symbol inFlag
    · intro parsed isParsed
      have isPattern : parsed = .httpsSubdomains domain' includeApex := by
        simp only [OriginPattern.parse, trimText_of_visible visible,
          Option.ite_none_right_eq_some, Option.some.injEq] at isParsed
        exact isParsed.2.symm
      subst isPattern
      simp [canonicalizeOriginPattern, isParsed, fixed]

/-- The key of a pattern tells all that it says. -/
theorem originPatternKey_injective
    (first second : OriginPattern)
    (sameKey : originPatternKey first = originPatternKey second) :
    first = second := by
  have differ (origin domain : JsString) (flag : Bool) :
      originPatternKey (.exact origin) ≠
        originPatternKey (.httpsSubdomains domain flag) := by
    intro same
    have sameHead := congrArg List.head? same
    simp [originPatternKey, js_eq, characterUnits] at sameHead
  cases first with
  | exact origin =>
      cases second with
      | exact origin' =>
          rw [originPatternKey, originPatternKey,
            List.append_cancel_left_eq] at sameKey
          rw [sameKey]
      | httpsSubdomains domain' includeApex' =>
          exact absurd sameKey (differ _ _ _)
  | httpsSubdomains domain includeApex =>
      cases second with
      | exact origin' => exact absurd sameKey.symm (differ _ _ _)
      | httpsSubdomains domain' includeApex' =>
          rw [originPatternKey, originPatternKey, List.append_assoc,
            List.append_assoc, List.append_cancel_left_eq] at sameKey
          have sameParts := List.append_inj' sameKey (by
            cases includeApex <;> cases includeApex' <;> rfl)
          cases includeApex <;> cases includeApex' <;>
            simp_all [js_eq, characterUnits]

/-- Canonical patterns are the canonical list of the forms of the patterns. -/
theorem canonicalizePatterns_of_forms
    {values patterns : List OriginPattern}
    (computed :
      values.mapM (canonicalizeOriginPattern platform) = some patterns) :
    ∃ result,
      canonicalizePatterns platform values = some result ∧
        Canonical (notAfterBy platform originPatternKey) patterns result := by
  rw [canonicalizePatterns, computed, Option.map_some]
  refine ⟨_, rfl, ?_⟩
  have isMap := isMapOf_mapOf originPatternKey patterns
  have distinct :=
    @mapOf_values _ _ _ originPatternKey patterns
      fun first _ second _ => originPatternKey_injective first second
  have sorted :=
    @List.pairwise_mergeSort _ (notAfterBy platform Prod.fst)
      notAfterBy_trans notAfterBy_total (mapOf originPatternKey patterns)
  have sortedPerm :=
    List.mergeSort_perm (mapOf originPatternKey patterns)
      (notAfterBy platform Prod.fst)
  constructor
  case distinct => exact (sortedPerm.map Prod.snd).nodup_iff.mpr distinct.1
  case ordered =>
    rw [List.pairwise_map]
    refine sorted.imp_of_mem ?_
    intro first second isFirst isSecond inOrder
    have isKey := isMap.keys first (sortedPerm.mem_iff.mp isFirst)
    have isKey' := isMap.keys second (sortedPerm.mem_iff.mp isSecond)
    rwa [notAfterBy, isKey, isKey'] at inOrder
  case same =>
    intro pattern
    rw [(sortedPerm.map Prod.snd).mem_iff]
    exact distinct.2 pattern

theorem canonicalizePatterns_spec
    {values result : List OriginPattern}
    (canonical : canonicalizePatterns platform values = some result) :
    ∃ patterns,
      values.mapM (canonicalizeOriginPattern platform) = some patterns ∧
        Canonical (notAfterBy platform originPatternKey) patterns result := by
  obtain ⟨patterns, computed, -⟩ := Option.map_eq_some_iff.mp canonical
  obtain ⟨result', isResult, isCanonical⟩ :=
    canonicalizePatterns_of_forms computed
  obtain rfl := Option.some.inj (canonical.symm.trans isResult)
  exact ⟨patterns, computed, isCanonical⟩

/-- Visible keys tell canonical patterns apart. -/
theorem antisymmetric_patterns
    {values patterns : List OriginPattern}
    (computed :
      values.mapM (canonicalizeOriginPattern platform) = some patterns) :
    Antisymmetric (notAfterBy platform originPatternKey) patterns := by
  refine notAfterBy_antisymmetric ?_
    (fun first _ second _ => originPatternKey_injective first second)
  intro pattern isPattern
  obtain ⟨input, -, canonical⟩ := (mem_of_mapM computed pattern).mp isPattern
  exact (canonicalizeOriginPattern_spec canonical).1

/-- Neither order nor repetitions of patterns matter. -/
theorem canonicalizePatterns_same
    {values others : List OriginPattern}
    (same : SameElements values others) :
    canonicalizePatterns platform values =
      canonicalizePatterns platform others := by
  have sameForms := same.mapM (canonicalizeOriginPattern platform)
  cases first : values.mapM (canonicalizeOriginPattern platform) with
  | none =>
      cases second : others.mapM (canonicalizeOriginPattern platform) with
      | none => simp [canonicalizePatterns, first, second]
      | some patterns => simp [first, second] at sameForms
  | some patterns =>
      cases second : others.mapM (canonicalizeOriginPattern platform) with
      | none => simp [first, second] at sameForms
      | some patterns' =>
          rw [first, second, Option.rel_some_some] at sameForms
          obtain ⟨result, isResult, isCanonical⟩ :=
            canonicalizePatterns_of_forms first
          obtain ⟨result', isResult', isCanonical'⟩ :=
            canonicalizePatterns_of_forms second
          rw [isResult, isResult',
            isCanonical.unique isCanonical' sameForms
              (antisymmetric_patterns first)]

/-- Canonical patterns are their own canonical form as soon as they are
valid. -/
theorem canonicalizePatterns_fixed
    {values result parsed : List OriginPattern}
    {minimum : Nat}
    (canonical : canonicalizePatterns platform values = some result)
    (isParsed : parsePatterns platform minimum result = some parsed) :
    parsed = result ∧ canonicalizePatterns platform result = some result := by
  obtain ⟨patterns, computed, isCanonical⟩ :=
    canonicalizePatterns_spec canonical
  rw [parsePatterns, Option.ite_none_right_eq_some] at isParsed
  have parsedEach := mapM_eq_some_iff.mp isParsed.2
  have valid (pattern : OriginPattern) (listed : pattern ∈ result) :
      pattern.parse platform = some pattern ∧
        canonicalizeOriginPattern platform pattern = some pattern := by
    obtain ⟨input, -, isForm⟩ :=
      (mem_of_mapM computed pattern).mp ((isCanonical.same pattern).mp listed)
    have isSome : (pattern.parse platform).isSome = true :=
      mapM_isSome_iff.mp (Option.isSome_iff_exists.mpr ⟨parsed, isParsed.2⟩)
        pattern listed
    obtain ⟨again, isAgain⟩ := Option.isSome_iff_exists.mp isSome
    obtain ⟨rfl, fixed⟩ :=
      (canonicalizeOriginPattern_spec isForm).2 again isAgain
    exact ⟨isAgain, fixed⟩
  have unparsed :
      result.mapM (OriginPattern.parse platform) = some result :=
    mapM_of_fixed fun pattern listed => (valid pattern listed).1
  have fixed :
      result.mapM (canonicalizeOriginPattern platform) = some result :=
    mapM_of_fixed fun pattern listed => (valid pattern listed).2
  constructor
  · exact Option.some.inj (isParsed.2.symm.trans unparsed)
  · obtain ⟨result', isResult, isCanonical'⟩ :=
      canonicalizePatterns_of_forms fixed
    rw [isResult,
      isCanonical'.unique isCanonical.self (fun _ => Iff.rfl)
        (antisymmetric_patterns fixed)]

/-- Rules that list the same things. -/
structure SameRule (first second : ActionPolicyRule) : Prop where
  id : first.id = second.id
  stepTypes : Option.Rel SameElements first.stepTypes second.stepTypes
  actionIntents :
    Option.Rel SameElements first.actionIntents second.actionIntents
  origins : Option.Rel SameElements first.origins second.origins
  minimumRisk : first.minimumRisk = second.minimumRisk
  decision : first.decision = second.decision

/-- Functions that ignore order and repetitions agree on optional lists. -/
theorem map_of_rel
    {α β : Type}
    {same : α → α → Prop}
    {change : α → β}
    (agree : ∀ value other, same value other → change value = change other)
    {first second : Option α}
    (sameValues : Option.Rel same first second) :
    first.map change = second.map change := by
  cases sameValues with
  | none => rfl
  | some isSame => exact congrArg some (agree _ _ isSame)

theorem isRuleId_visible
    {text : JsString}
    (isId : isRuleId text = true) :
    ∀ symbol ∈ text, isVisible symbol = true := by
  have ofAlphanumeric (symbol : CodeUnit)
      (isSymbol :
        (isAlphanumeric symbol || symbol == unit '_' ||
            symbol == unit '-') =
          true) :
      isVisible symbol = true := by
    simp only [isAlphanumeric, CodeUnit.isLower, CodeUnit.isUpper,
      CodeUnit.isDigit, isVisible, CodeUnit.within, Bool.or_eq_true,
      Bool.and_eq_true, decide_eq_true_eq, beq_iff_eq, Fin.le_def,
      Fin.ext_iff] at isSymbol ⊢
    have bounds :
        (unit '!').val = 33 ∧ (unit '~').val = 126 ∧ (unit 'a').val = 97 ∧
          (unit 'z').val = 122 ∧ (unit 'A').val = 65 ∧
            (unit 'Z').val = 90 ∧ (unit '0').val = 48 ∧
              (unit '9').val = 57 ∧ (unit '-').val = 45 ∧
                (unit '_').val = 95 := by
      decide
    omega
  rw [isRuleId, Bool.and_eq_true] at isId
  cases text with
  | nil => simp
  | cons first rest =>
      simp only [beginsAndContinues, Bool.and_eq_true,
        List.all_eq_true] at isId
      intro symbol isSymbol
      rcases List.mem_cons.mp isSymbol with rfl | later
      · apply ofAlphanumeric
        rcases (Bool.or_eq_true _ _).mp isId.2.1 with isLower | isUpper
        · simp [isAlphanumeric, isLower]
        · simp [isAlphanumeric, isUpper]
      · exact ofAlphanumeric symbol (isId.2.2 symbol later)

theorem canonicalizeRule_same
    {first second : ActionPolicyRule}
    (same : SameRule first second) :
    canonicalizeRule platform first = canonicalizeRule platform second := by
  have sameStepTypes :=
    @map_of_rel _ _ SameElements _
      (fun _ _ => @uniqueSorted_same platform _ _ _ enumerated_stepType _ _)
      _ _ same.stepTypes
  have sameIntents :=
    @map_of_rel _ _ SameElements _
      (fun _ _ => @uniqueSorted_same platform _ _ _ enumerated_intent _ _)
      _ _ same.actionIntents
  have sameOrigins :
      optionally (canonicalizePatterns platform) first.origins =
        optionally (canonicalizePatterns platform) second.origins := by
    have sameLists := same.origins
    cases isFirst : first.origins <;> cases isSecond : second.origins <;>
      rw [isFirst, isSecond] at sameLists
    case none.some => simp at sameLists
    case some.none => simp at sameLists
    case some.some =>
      rw [Option.rel_some_some] at sameLists
      rw [optionally, optionally, canonicalizePatterns_same sameLists]
  simp only [canonicalizeRule, sameStepTypes, sameIntents, sameOrigins,
    same.id, same.minimumRisk, same.decision]

/-- Patterns stay the same through their schema. -/
theorem parsePatterns_same
    {values others parsed parsed' : List OriginPattern}
    {minimum : Nat}
    (same : SameElements values others)
    (isParsed : parsePatterns platform minimum values = some parsed)
    (isParsed' : parsePatterns platform minimum others = some parsed') :
    SameElements parsed parsed' := by
  rw [parsePatterns, Option.ite_none_right_eq_some] at isParsed isParsed'
  have sameParsed := same.mapM (OriginPattern.parse platform)
  rwa [isParsed.2, isParsed'.2, Option.rel_some_some] at sameParsed

/-- A rule keeps what it lists through its schema. -/
theorem ActionPolicyRule.parse_same
    {first second first' second' : ActionPolicyRule}
    (same : SameRule first second)
    (parsed : first.parse platform = some first')
    (parsed' : second.parse platform = some second') :
    SameRule first' second' := by
  simp only [ActionPolicyRule.parse, Option.bind_eq_bind,
    Option.bind_eq_some_iff, Option.ite_none_right_eq_some,
    Option.some.injEq] at parsed parsed'
  obtain ⟨origins, isOrigins, -, rfl⟩ := parsed
  obtain ⟨origins', isOrigins', -, rfl⟩ := parsed'
  constructor
  case id => exact congrArg trimText same.id
  case stepTypes => exact same.stepTypes
  case actionIntents => exact same.actionIntents
  case minimumRisk => exact same.minimumRisk
  case decision => exact same.decision
  case origins =>
    have sameLists := same.origins
    rw [optionally_eq_some_iff] at isOrigins isOrigins'
    cases isFirst : first.origins <;> cases isSecond : second.origins <;>
      simp only [isFirst, isSecond, Option.rel_some_some, Option.rel_none_none,
        Option.not_rel_none_some, Option.not_rel_some_none]
        at sameLists isOrigins isOrigins'
    case none.none =>
      cases isOrigins
      cases isOrigins'
      exact .none
    case some.some patterns patterns' =>
      cases isOrigins with
      | some computed =>
          cases isOrigins' with
          | some computed' => exact .some (parsePatterns_same sameLists computed computed')

/-- The identifier of a valid rule is visible, and trimmed already. -/
theorem ActionPolicyRule.parse_id
    {rule parsed : ActionPolicyRule}
    (isParsed : rule.parse platform = some parsed) :
    ∀ symbol ∈ parsed.id, isVisible symbol = true := by
  simp only [ActionPolicyRule.parse, Option.bind_eq_bind,
    Option.bind_eq_some_iff, Option.ite_none_right_eq_some,
    Option.some.injEq] at isParsed
  obtain ⟨origins, -, valid, rfl⟩ := isParsed
  exact isRuleId_visible valid.1

theorem canonicalizeRule_id
    {rule result : ActionPolicyRule}
    (canonical : canonicalizeRule platform rule = some result) :
    result.id = rule.id := by
  simp only [canonicalizeRule, Option.bind_eq_bind, Option.bind_eq_some_iff,
    Option.some.injEq] at canonical
  obtain ⟨origins, -, rfl⟩ := canonical
  rfl

/-- A canonical rule is its own canonical form as soon as it is valid. -/
theorem canonicalizeRule_fixed
    {rule result parsed : ActionPolicyRule}
    (visible : ∀ symbol ∈ rule.id, isVisible symbol = true)
    (canonical : canonicalizeRule platform rule = some result)
    (isParsed : result.parse platform = some parsed) :
    parsed = result ∧ canonicalizeRule platform result = some result := by
  simp only [canonicalizeRule, Option.bind_eq_bind, Option.bind_eq_some_iff,
    Option.some.injEq] at canonical
  obtain ⟨origins, isOrigins, rfl⟩ := canonical
  simp only [ActionPolicyRule.parse, Option.bind_eq_bind,
    Option.bind_eq_some_iff, Option.ite_none_right_eq_some,
    Option.some.injEq] at isParsed
  obtain ⟨parsedOrigins, isParsedOrigins, -, rfl⟩ := isParsed
  have fixedOrigins :
      parsedOrigins = origins ∧
        optionally (canonicalizePatterns platform) origins = some origins := by
    rw [optionally_eq_some_iff] at isOrigins isParsedOrigins
    generalize rule.origins = ruleOrigins at isOrigins
    cases isParsedOrigins with
    | none => exact ⟨rfl, rfl⟩
    | some isParsed =>
        cases isOrigins with
        | some isCanonical =>
            obtain ⟨rfl, fixed⟩ :=
              canonicalizePatterns_fixed isCanonical isParsed
            exact ⟨rfl, by rw [optionally, fixed, Option.map_some]⟩
  have fixedLists
      {α : Type}
      [DecidableEq α]
      {text : α → JsString}
      (enumerated : Enumerated text)
      (values : Option (List α)) :
      (values.map (uniqueSorted platform text)).map
          (uniqueSorted platform text) =
        values.map (uniqueSorted platform text) := by
    rw [Option.map_map]
    congr 1
    funext values
    exact uniqueSorted_idempotent enumerated values
  constructor
  · rw [trimText_of_visible visible, fixedOrigins.1]
  · rw [canonicalizeRule, fixedOrigins.2, fixedLists enumerated_stepType,
      fixedLists enumerated_intent]
    rfl

/-- Policies that list the same things. -/
structure SamePolicy (first second : WorkspaceExecutionPolicyDefinition) :
    Prop where
  mode : first.mode = second.mode
  allowedOrigins : SameElements first.allowedOrigins second.allowedOrigins
  blockedOrigins : SameElements first.blockedOrigins second.blockedOrigins
  allowLoopbackHttp : first.allowLoopbackHttp = second.allowLoopbackHttp
  unknownActionRisk : first.unknownActionRisk = second.unknownActionRisk
  threshold : first.threshold = second.threshold
  criticalActionBehavior :
    first.criticalActionBehavior = second.criticalActionBehavior
  rules : SameUpTo SameRule first.rules second.rules

/-- A policy keeps what it lists through its schema. -/
theorem WorkspaceExecutionPolicyDefinition.parse_same
    {first second first' second' : WorkspaceExecutionPolicyDefinition}
    (same : SamePolicy first second)
    (parsed : first.parse platform = some first')
    (parsed' : second.parse platform = some second') :
    SamePolicy first' second' := by
  simp only [WorkspaceExecutionPolicyDefinition.parse, Option.bind_eq_bind,
    Option.bind_eq_some_iff, Option.ite_none_right_eq_some,
    Option.some.injEq] at parsed parsed'
  obtain ⟨allowed, isAllowed, blocked, isBlocked, rules, isRules, -, rfl⟩ :=
    parsed
  obtain ⟨allowed', isAllowed', blocked', isBlocked', rules', isRules', -,
    rfl⟩ := parsed'
  constructor
  case mode => exact same.mode
  case allowedOrigins =>
    exact parsePatterns_same same.allowedOrigins isAllowed isAllowed'
  case blockedOrigins =>
    exact parsePatterns_same same.blockedOrigins isBlocked isBlocked'
  case allowLoopbackHttp => exact same.allowLoopbackHttp
  case unknownActionRisk => exact same.unknownActionRisk
  case threshold => exact same.threshold
  case criticalActionBehavior => exact same.criticalActionBehavior
  case rules =>
    have parsedOf
        {rules parsed : List ActionPolicyRule}
        (computed :
          rules.mapM (ActionPolicyRule.parse platform) = some parsed)
        (rule : ActionPolicyRule)
        (listed : rule ∈ rules) :
        ∃ parsedRule ∈ parsed, rule.parse platform = some parsedRule := by
      have isSome :=
        mapM_isSome_iff.mp (Option.isSome_iff_exists.mpr ⟨_, computed⟩) rule
          listed
      obtain ⟨parsedRule, isParsed⟩ := Option.isSome_iff_exists.mp isSome
      exact ⟨parsedRule,
        (mem_of_mapM computed parsedRule).mpr ⟨rule, listed, isParsed⟩,
        isParsed⟩
    constructor
    · intro rule listed
      obtain ⟨input, isInput, isParsed⟩ := (mem_of_mapM isRules rule).mp listed
      obtain ⟨other, isOther, sameRule⟩ := same.rules.forth input isInput
      obtain ⟨parsedOther, isListed, isParsed'⟩ :=
        parsedOf isRules' other isOther
      exact ⟨parsedOther, isListed,
        ActionPolicyRule.parse_same sameRule isParsed isParsed'⟩
    · intro rule listed
      obtain ⟨input, isInput, isParsed⟩ :=
        (mem_of_mapM isRules' rule).mp listed
      obtain ⟨other, isOther, sameRule⟩ := same.rules.back input isInput
      obtain ⟨parsedOther, isListed, isParsed'⟩ :=
        parsedOf isRules other isOther
      exact ⟨parsedOther, isListed,
        ActionPolicyRule.parse_same sameRule isParsed' isParsed⟩

/-- What the schema tells about the rules of a policy. -/
structure ValidRules (rules : List ActionPolicyRule) : Prop where
  visible : ∀ rule ∈ rules, ∀ symbol ∈ rule.id, isVisible symbol = true
  distinct : (rules.map ActionPolicyRule.id).Nodup

theorem WorkspaceExecutionPolicyDefinition.parse_rules
    {policy parsed : WorkspaceExecutionPolicyDefinition}
    (isParsed : policy.parse platform = some parsed) :
    ValidRules parsed.rules := by
  simp only [WorkspaceExecutionPolicyDefinition.parse, Option.bind_eq_bind,
    Option.bind_eq_some_iff, Option.ite_none_right_eq_some,
    Option.some.injEq] at isParsed
  obtain ⟨allowed, -, blocked, -, rules, isRules, valid, rfl⟩ := isParsed
  constructor
  · intro rule listed
    obtain ⟨input, -, isRule⟩ := (mem_of_mapM isRules rule).mp listed
    exact ActionPolicyRule.parse_id isRule
  · exact valid.2

/-- Canonicalization keeps the identifiers of the rules. -/
theorem canonicalRules_ids
    {rules results : List ActionPolicyRule}
    (computed : rules.mapM (canonicalizeRule platform) = some results) :
    results.map ActionPolicyRule.id = rules.map ActionPolicyRule.id := by
  rw [mapM_eq_some_iff] at computed
  induction computed with
  | nil => rfl
  | cons canonical _ inductionHypothesis =>
      rw [List.map_cons, List.map_cons, inductionHypothesis,
        canonicalizeRule_id canonical]

theorem ValidRules.canonical
    {rules results : List ActionPolicyRule}
    (valid : ValidRules rules)
    (computed : rules.mapM (canonicalizeRule platform) = some results) :
    ValidRules results := by
  constructor
  · intro result listed
    obtain ⟨rule, isRule, canonical⟩ := (mem_of_mapM computed result).mp listed
    rw [canonicalizeRule_id canonical]
    exact valid.visible rule isRule
  · rw [canonicalRules_ids computed]
    exact valid.distinct

/-- Rules with distinct identifiers, sorted by them. -/
theorem ValidRules.sorted
    {rules : List ActionPolicyRule}
    (valid : ValidRules rules) :
    Canonical (notAfterBy platform ActionPolicyRule.id) rules
        (rules.mergeSort (notAfterBy platform ActionPolicyRule.id)) ∧
      Antisymmetric (notAfterBy platform ActionPolicyRule.id) rules := by
  constructor
  · exact .mergeSort notAfterBy_trans notAfterBy_total
      (valid.distinct.of_map _) (fun _ => Iff.rfl)
  · refine notAfterBy_antisymmetric valid.visible ?_
    intro first isFirst second isSecond sameId
    exact List.inj_on_of_nodup_map valid.distinct isFirst isSecond sameId

theorem canonicalizeRules_same
    {rules others : List ActionPolicyRule}
    (same : SameUpTo SameRule rules others)
    (valid : ValidRules rules)
    (valid' : ValidRules others) :
    canonicalizeRules platform rules = canonicalizeRules platform others := by
  have sameRules :
      Option.Rel SameElements (rules.mapM (canonicalizeRule platform))
        (others.mapM (canonicalizeRule platform)) :=
    same.mapM fun _ _ => canonicalizeRule_same
  rw [canonicalizeRules, canonicalizeRules]
  cases isFirst : rules.mapM (canonicalizeRule platform) <;>
    cases isSecond : others.mapM (canonicalizeRule platform) <;>
    rw [isFirst, isSecond] at sameRules
  case none.some => simp at sameRules
  case some.none => simp at sameRules
  case some.some results results' =>
    rw [Option.rel_some_some] at sameRules
    obtain ⟨sorted, antisymmetric⟩ :=
      @ValidRules.sorted platform _ (valid.canonical isFirst)
    obtain ⟨sorted', -⟩ :=
      @ValidRules.sorted platform _ (valid'.canonical isSecond)
    rw [Option.map_some, Option.map_some,
      sorted.unique sorted' sameRules antisymmetric]

/-- Canonical rules are their own canonical form as soon as they are valid. -/
theorem canonicalizeRules_fixed
    {rules results parsed : List ActionPolicyRule}
    (valid : ValidRules rules)
    (canonical : canonicalizeRules platform rules = some results)
    (isParsed : results.mapM (ActionPolicyRule.parse platform) = some parsed) :
    parsed = results ∧ canonicalizeRules platform results = some results := by
  obtain ⟨forms, computed, rfl⟩ := Option.map_eq_some_iff.mp canonical
  obtain ⟨sorted, antisymmetric⟩ :=
    @ValidRules.sorted platform _ (valid.canonical computed)
  have fixed (form : ActionPolicyRule)
      (listed :
        form ∈ forms.mergeSort (notAfterBy platform ActionPolicyRule.id)) :
      form.parse platform = some form ∧
        canonicalizeRule platform form = some form := by
    obtain ⟨rule, isRule, isForm⟩ :=
      (mem_of_mapM computed form).mp ((sorted.same form).mp listed)
    have isSome :=
      mapM_isSome_iff.mp (Option.isSome_iff_exists.mpr ⟨_, isParsed⟩) form
        listed
    obtain ⟨parsedForm, parsesTo⟩ := Option.isSome_iff_exists.mp isSome
    obtain ⟨rfl, fixed⟩ :=
      canonicalizeRule_fixed (valid.visible rule isRule) isForm parsesTo
    exact ⟨parsesTo, fixed⟩
  have unparsed := mapM_of_fixed fun form listed => (fixed form listed).1
  have fixedForms := mapM_of_fixed fun form listed => (fixed form listed).2
  constructor
  · exact Option.some.inj (isParsed.symm.trans unparsed)
  · rw [canonicalizeRules, fixedForms, Option.map_some,
      List.mergeSort_of_pairwise sorted.ordered]

theorem orderPolicy_same
    {first second : WorkspaceExecutionPolicyDefinition}
    (same : SamePolicy first second)
    (valid : ValidRules first.rules)
    (valid' : ValidRules second.rules) :
    orderPolicy platform first = orderPolicy platform second := by
  simp only [orderPolicy, canonicalizePatterns_same same.allowedOrigins,
    canonicalizePatterns_same same.blockedOrigins,
    canonicalizeRules_same same.rules valid valid', same.mode,
    same.allowLoopbackHttp, same.unknownActionRisk, same.threshold,
    same.criticalActionBehavior]

theorem canonicalizePolicyDefinition_same
    {first second : WorkspaceExecutionPolicyDefinition}
    (same : SamePolicy first second)
    (valid : (first.parse platform).isSome = true)
    (valid' : (second.parse platform).isSome = true) :
    canonicalizePolicyDefinition platform first =
      canonicalizePolicyDefinition platform second := by
  obtain ⟨parsed, isParsed⟩ := Option.isSome_iff_exists.mp valid
  obtain ⟨parsed', isParsed'⟩ := Option.isSome_iff_exists.mp valid'
  have sameOrder :=
    @orderPolicy_same platform _ _
      (WorkspaceExecutionPolicyDefinition.parse_same same isParsed isParsed')
      (WorkspaceExecutionPolicyDefinition.parse_rules isParsed)
      (WorkspaceExecutionPolicyDefinition.parse_rules isParsed')
  simp only [canonicalizePolicyDefinition, isParsed, isParsed', sameOrder,
    Option.bind_eq_bind, Option.bind_some]

/-- The canonical policy is its own canonical form. -/
theorem canonicalizePolicyDefinition_fixed
    {input policy : WorkspaceExecutionPolicyDefinition}
    (canonical : canonicalizePolicyDefinition platform input = some policy) :
    canonicalizePolicyDefinition platform policy = some policy := by
  simp only [canonicalizePolicyDefinition, Option.bind_eq_bind,
    Option.bind_eq_some_iff] at canonical
  obtain ⟨parsed, isParsed, ordered, isOrdered, isPolicy⟩ := canonical
  have valid := WorkspaceExecutionPolicyDefinition.parse_rules isParsed
  simp only [orderPolicy, Option.bind_eq_bind, Option.bind_eq_some_iff,
    Option.some.injEq] at isOrdered
  obtain ⟨allowed, isAllowed, blocked, isBlocked, rules, isRules, rfl⟩ :=
    isOrdered
  have parses := isPolicy
  simp only [WorkspaceExecutionPolicyDefinition.parse, Option.bind_eq_bind,
    Option.bind_eq_some_iff, Option.ite_none_right_eq_some,
    Option.some.injEq] at isPolicy
  obtain ⟨allowed', parsedAllowed, blocked', parsedBlocked, rules',
    parsedRules, bounds, rfl⟩ := isPolicy
  obtain ⟨rfl, fixedAllowed⟩ :=
    canonicalizePatterns_fixed isAllowed parsedAllowed
  obtain ⟨rfl, fixedBlocked⟩ :=
    canonicalizePatterns_fixed isBlocked parsedBlocked
  obtain ⟨rfl, fixedRules⟩ :=
    canonicalizeRules_fixed valid isRules parsedRules
  simp only [canonicalizePolicyDefinition, parses, orderPolicy, fixedAllowed,
    fixedBlocked, fixedRules, Option.bind_eq_bind, Option.bind_some]

end TaskTwin.Policy

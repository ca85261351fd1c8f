import Mathlib.Data.Prod.Lex
import TaskTwin.Collection.Ranking
import TaskTwin.Locator.Contracts

/-!
# Scores of locators

A locator that matches one element gets a score with the reasons for it.  The
best locators of an element make its bundle.
-/

namespace TaskTwin.Locator

open Text Schema

/-- `LOCATOR_BASE_SCORES`. -/
def LocatorSource.baseScore : LocatorSource → Int
  | .testId => 90
  | .role => 82
  | .label => 76
  | .stableId => 72
  | .placeholder => 62
  | .stableName => 58
  | .text => 48
  | .css => 30

/-- `LOCATOR_SOURCE_PRIORITY`. -/
def LocatorSource.priority : LocatorSource → Nat
  | .testId => 0
  | .role => 1
  | .label => 2
  | .stableId => 3
  | .placeholder => 4
  | .stableName => 5
  | .text => 6
  | .css => 7

/-- `RISK_PENALTIES`. -/
def IdentifierRisk.penalty : IdentifierRisk → Int
  | .uuid => -45
  | .timestamp => -35
  | .hash => -40
  | .numericSuffix => -18
  | .frameworkGenerated => -30
  | .randomLooking => -30

/-- `RISK_REASON_CODES`. -/
def IdentifierRisk.reasonCode : IdentifierRisk → LocatorReasonCode
  | .uuid => .dynamicUuid
  | .timestamp => .dynamicTimestamp
  | .hash => .dynamicHash
  | .numericSuffix => .dynamicNumericSuffix
  | .frameworkGenerated => .frameworkGenerated
  | .randomLooking => .randomLooking

structure ScoredLocator where
  candidate : LocatorCandidate
  canonicalRiskCount : Nat
  hasDynamicRisk : Bool
  usesPositionalCss : Bool
  deriving DecidableEq, Repr

def isShortValue (value : JsString) : Bool := value.length ≤ 40

/-- The risks that count for the source of an observation. -/
def observedRisks
    (source : LocatorSource)
    (stabilityValue : JsString) :
    List IdentifierRisk :=
  match source with
  | .testId => detectIdentifierRisks stabilityValue
  | .stableId => detectIdentifierRisks stabilityValue
  | .stableName => detectIdentifierRisks stabilityValue
  | _ => []

/-- What the source and the value of an observation are worth. -/
def valueScore
    (source : LocatorSource)
    (stabilityValue : JsString) :
    Int :=
  let semantic := if source = .role ∨ source = .label then 4 else 0
  let short := if isShortValue stabilityValue then 2 else 0
  let long := if source = .text ∧ 40 < stabilityValue.length then -10 else 0
  let dynamicPenalty :=
    max (-50)
      ((observedRisks source stabilityValue).map IdentifierRisk.penalty).sum
  source.baseScore + 8 + semantic + short + long + dynamicPenalty

/-- The selector of a css locator. -/
def ElementLocator.selector? : ElementLocator → Option JsString
  | .css selector => some selector
  | _ => none

def usesPositionalCss (locator : ElementLocator) : Bool :=
  locator.selector?.any cssUsesPosition

def usesDeepCss (locator : ElementLocator) : Bool :=
  locator.selector?.any fun selector => 3 < getCssDepth selector

def usesGeneratedClass (locator : ElementLocator) : Bool :=
  locator.selector?.any looksLikeGeneratedClass

/-- What the selector of a locator costs. -/
def selectorScore (locator : ElementLocator) : Int :=
  let positional := if usesPositionalCss locator then -25 else 0
  let deep :=
    if usesDeepCss locator then
      max (-16)
        (((getCssDepth (locator.selector?.getD []) : Int) - 3) * -4)
    else 0
  let generated := if usesGeneratedClass locator then -20 else 0
  positional + deep + generated

/-- The reasons that come from the value. -/
def valueReasons
    (source : LocatorSource)
    (stabilityValue : JsString) :
    List LocatorReasonCode :=
  [source.reasonCode, .uniqueMatch] ++
    (if isShortValue stabilityValue then [.shortValue] else []) ++
    (observedRisks source stabilityValue).map IdentifierRisk.reasonCode

/-- The reasons that come from the selector. -/
def selectorReasons (locator : ElementLocator) : List LocatorReasonCode :=
  (if usesPositionalCss locator then [.positionalCss] else []) ++
    (if usesDeepCss locator then [.deepCss] else []) ++
    (if usesGeneratedClass locator then [.generatedClass] else [])

def scoreLocatorObservation
    (observation : LocatorObservation) :
    Option ScoredLocator :=
  let { locator, source, matchCount, stabilityValue } := observation
  if matchCount ≠ 1 then none
  else if source = .text ∧ isLikelySensitiveText stabilityValue then none
  else
    let score := valueScore source stabilityValue + selectorScore locator
    let reasons :=
      (valueReasons source stabilityValue ++ selectorReasons locator).map
        LocatorReason.of
    let identifierRisks := observedRisks source stabilityValue
    some
      { candidate :=
          { locator
            score := max 0 (min 100 score)
            source
            reasons }
        canonicalRiskCount :=
          identifierRisks.length +
            (if usesPositionalCss locator then 1 else 0) +
            (if reasons.any (·.code == .generatedClass) then 1 else 0)
        hasDynamicRisk := !identifierRisks.isEmpty
        usesPositionalCss := usesPositionalCss locator }

def hasSevereRisk (candidate : LocatorCandidate) : Bool :=
  candidate.hasReason .dynamicUuid || candidate.hasReason .dynamicTimestamp ||
    candidate.hasReason .dynamicHash ||
    candidate.hasReason .frameworkGenerated ||
    candidate.hasReason .randomLooking ||
    candidate.hasReason .positionalCss ||
    candidate.hasReason .generatedClass

def calculateLocatorConfidence
    (primary : LocatorCandidate)
    (fallbacks : List LocatorCandidate) :
    LocatorConfidence :=
  let hasStrongFallback :=
    fallbacks.any fun candidate =>
      decide (70 ≤ candidate.score) && !hasSevereRisk candidate
  if 90 ≤ primary.score ∧ hasSevereRisk primary = false ∧
      hasStrongFallback then .high
  else if 65 ≤ primary.score ∧ hasSevereRisk primary = false ∧
      primary.source ≠ .css then .medium
  else .low

def compareStrings (left right : JsString) : Int :=
  if left = right then 0 else if left < right then -1 else 1

def ScoredLocator.key (scored : ScoredLocator) : JsString :=
  canonicalizeLocator scored.candidate.locator

def compareScoredLocators (left right : ScoredLocator) : Int :=
  if left.candidate.score ≠ right.candidate.score then
    right.candidate.score - left.candidate.score
  else if left.candidate.source.priority ≠
      right.candidate.source.priority then
    (left.candidate.source.priority : Int) -
      right.candidate.source.priority
  else if left.canonicalRiskCount ≠ right.canonicalRiskCount then
    (left.canonicalRiskCount : Int) - right.canonicalRiskCount
  else if left.key.length ≠ right.key.length then
    (left.key.length : Int) - right.key.length
  else
    compareStrings left.key right.key

/-- The first is sorted before the second, or stays before it. -/
def staysBefore (left right : ScoredLocator) : Bool :=
  compareScoredLocators left right ≤ 0

/-- A scored observation that takes the place of another. -/
def isBetter (scored existing : ScoredLocator) : Bool :=
  compareScoredLocators scored existing < 0

/-- The scored observations, one for each locator, best first. -/
def rankScored (observations : List LocatorObservation) :
    List ScoredLocator :=
  (Collection.bestByKey ScoredLocator.key isBetter
    (observations.filterMap scoreLocatorObservation)).insertionSort
      fun left right => staysBefore left right

/-- `LocatorObservationListSchema`. -/
def parseLocatorObservations
    (observations : List LocatorObservation) :
    Option (List LocatorObservation) :=
  if observations.length ≤ maxLocatorCandidates then
    observations.mapM parseLocatorObservation
  else
    none

/--
`none` is an exception, `some none` the answer that no locator is unique.
-/
def rankLocatorBundle
    (observations : List LocatorObservation)
    (generatedAt : JsString) :
    Option (Option LocatorBundle) := do
  let parsedObservations ← parseLocatorObservations observations
  match rankScored parsedObservations with
  | [] => return none
  | first :: rest =>
      let primary := first.candidate
      let fallbacks :=
        (rest.take maxLocatorFallbacks).map ScoredLocator.candidate
      let bundle ←
        parseLocatorBundle
          { primary
            fallbacks
            confidence := calculateLocatorConfidence primary fallbacks
            generatedAt }
      return some bundle

end TaskTwin.Locator

namespace TaskTwin.Locator

open Text Schema Collection

variable {left right : ScoredLocator}

/-- The score, the source, the risks, the length of the key and the key. -/
def ScoredLocator.rank
    (scored : ScoredLocator) :
    ℤ ×ₗ ℕ ×ₗ ℕ ×ₗ ℕ ×ₗ JsString :=
  toLex (-scored.candidate.score,
    toLex (scored.candidate.source.priority,
      toLex (scored.canonicalRiskCount,
        toLex (scored.key.length, scored.key))))

theorem key_eq_of_rank_eq
    (first second : ScoredLocator)
    (sameRank : first.rank = second.rank) :
    first.key = second.key := by
  simp only [ScoredLocator.rank, EmbeddingLike.apply_eq_iff_eq,
    Prod.mk.injEq] at sameRank
  exact sameRank.2.2.2.2

theorem score_le_of_rank_le
    (notAfter : left.rank ≤ right.rank) :
    right.candidate.score ≤ left.candidate.score := by
  rcases Prod.Lex.toLex_le_toLex.mp notAfter with higher | ⟨same, -⟩
  · exact (neg_lt_neg_iff.mp higher).le
  · exact (neg_inj.mp same).ge

theorem compareStrings_neg_iff {left right : JsString} :
    compareStrings left right < 0 ↔ left < right := by
  rcases lt_trichotomy left right with before | same | after
  · simp [compareStrings, before, before.ne]
  · simp [compareStrings, same]
  · simp [compareStrings, after.ne', after.not_gt]

theorem compareScoredLocators_neg_iff :
    compareScoredLocators left right < 0 ↔ left.rank < right.rank := by
  simp only [ScoredLocator.rank, Prod.Lex.toLex_lt_toLex]
  by_cases score : left.candidate.score = right.candidate.score
  case neg =>
    simp [compareScoredLocators, score]
  by_cases priority :
      left.candidate.source.priority = right.candidate.source.priority
  case neg =>
    simp [compareScoredLocators, score, priority]
  by_cases risks : left.canonicalRiskCount = right.canonicalRiskCount
  case neg =>
    simp [compareScoredLocators, score, priority, risks]
  by_cases length : left.key.length = right.key.length
  case neg =>
    simp [compareScoredLocators, score, priority, risks, length]
  simp [compareScoredLocators, score, priority, risks, length,
    compareStrings_neg_iff]

theorem compareStrings_swap (left right : JsString) :
    compareStrings right left = -compareStrings left right := by
  rcases lt_trichotomy left right with before | same | after
  · simp [compareStrings, before, before.ne, before.ne', before.not_gt]
  · simp [compareStrings, same]
  · simp [compareStrings, after, after.ne, after.ne', after.not_gt]

theorem compareScoredLocators_swap (left right : ScoredLocator) :
    compareScoredLocators right left = -compareScoredLocators left right := by
  by_cases score : left.candidate.score = right.candidate.score
  case neg =>
    simp [compareScoredLocators, score, Ne.symm score]
  by_cases priority :
      left.candidate.source.priority = right.candidate.source.priority
  case neg =>
    simp [compareScoredLocators, score, priority, Ne.symm priority]
  by_cases risks : left.canonicalRiskCount = right.canonicalRiskCount
  case neg =>
    simp [compareScoredLocators, score, priority, risks, Ne.symm risks]
  by_cases length : left.key.length = right.key.length
  case neg =>
    simp [compareScoredLocators, score, priority, risks, length,
      Ne.symm length]
  simp [compareScoredLocators, score, priority, risks, length,
    compareStrings_swap left.key right.key]

theorem isBetter_iff (scored existing : ScoredLocator) :
    isBetter scored existing ↔ scored.rank < existing.rank := by
  rw [isBetter, decide_eq_true_eq, compareScoredLocators_neg_iff]

theorem staysBefore_iff : staysBefore left right ↔ left.rank ≤ right.rank := by
  have notAfter :
      compareScoredLocators left right ≤ 0 ↔
        ¬compareScoredLocators right left < 0 := by
    rw [compareScoredLocators_swap left right]
    omega
  rw [staysBefore, decide_eq_true_eq, notAfter, compareScoredLocators_neg_iff,
    not_lt]

theorem isRanking_rankScored (observations : List LocatorObservation) :
    IsRanking ScoredLocator.key ScoredLocator.rank
      (observations.filterMap scoreLocatorObservation)
      (rankScored observations) := by
  have total :
      Std.Total fun left right : ScoredLocator => staysBefore left right := by
    refine ⟨fun left right => ?_⟩
    rw [staysBefore_iff, staysBefore_iff]
    exact le_total _ _
  have transitive :
      IsTrans ScoredLocator fun left right => staysBefore left right := by
    refine ⟨fun first second third => ?_⟩
    rw [staysBefore_iff, staysBefore_iff, staysBefore_iff]
    exact le_trans
  have sorted :=
    List.pairwise_insertionSort
      (fun left right : ScoredLocator => staysBefore left right)
      (bestByKey ScoredLocator.key isBetter
        (observations.filterMap scoreLocatorObservation))
  exact
    .of_perm (isBestOfEach_bestByKey isBetter_iff _)
      (List.perm_insertionSort _ _) (sorted.imp staysBefore_iff.mp)

theorem parseNonEmpty_parsed
    {text parsed : JsString}
    (isParsed : parseNonEmpty text = some parsed) :
    parseNonEmpty parsed = some parsed := by
  rw [parseNonEmpty] at isParsed
  split at isParsed
  case isTrue isEmpty => cases isParsed
  case isFalse notEmpty =>
    cases isParsed
    rw [parseNonEmpty, trimText_trimText, if_neg notEmpty]

theorem parseElementLocator_parsed
    {locator parsed : ElementLocator}
    (isParsed : parseElementLocator locator = some parsed) :
    parseElementLocator parsed = some parsed := by
  cases locator with
  | role role name exact =>
      cases name with
      | none =>
          obtain ⟨text, isText, rfl⟩ := Option.map_eq_some_iff.mp isParsed
          simp [parseElementLocator, parseNonEmpty_parsed isText]
      | some name =>
          obtain ⟨text, isText, isParsed⟩ :=
            Option.bind_eq_some_iff.mp isParsed
          obtain ⟨nameText, isName, isParsed⟩ :=
            Option.bind_eq_some_iff.mp isParsed
          cases isParsed
          simp [parseElementLocator, parseNonEmpty_parsed isText,
            parseNonEmpty_parsed isName]
  | testId | label | text | placeholder | css =>
      obtain ⟨text, isText, rfl⟩ := Option.map_eq_some_iff.mp isParsed
      simp [parseElementLocator, parseNonEmpty_parsed isText]

/-- What the schema promises of an observation. -/
structure LocatorObservation.IsParsed
    (observation : LocatorObservation) : Prop where
  locator :
    parseElementLocator observation.locator = some observation.locator
  bounds : hasLocatorBounds observation.locator = true
  source : observation.source.locatorKind = observation.locator.kind

theorem parseLocatorObservation_eq_some
    {observation parsed : LocatorObservation}
    (isParsed : parseLocatorObservation observation = some parsed) :
    parsed.IsParsed ∧ parsed.source = observation.source ∧
      parsed.matchCount = observation.matchCount ∧
      parsed.stabilityValue = trimText observation.stabilityValue := by
  rw [parseLocatorObservation] at isParsed
  obtain ⟨locator, isLocator, isParsed⟩ :=
    Option.bind_eq_some_iff.mp isParsed
  simp only [Option.bind_eq_bind, Option.bind_eq_some_iff,
    Option.guard_eq_some', Option.pure_def, Option.some.injEq] at isParsed
  obtain ⟨_, -, _, bounds, _, kind, rfl⟩ := isParsed
  exact ⟨⟨parseElementLocator_parsed isLocator, bounds, kind⟩, rfl, rfl, rfl⟩

/-- An observation that can stand in a bundle. -/
def LocatorObservation.IsUsable (observation : LocatorObservation) : Prop :=
  observation.matchCount = 1 ∧
    ¬(observation.source = .text ∧
      isLikelySensitiveText (trimText observation.stabilityValue))

theorem scoreLocatorObservation_isSome_iff
    {observation parsed : LocatorObservation}
    (isParsed : parseLocatorObservation observation = some parsed) :
    (scoreLocatorObservation parsed).isSome ↔ observation.IsUsable := by
  obtain ⟨-, source, matchCount, value⟩ :=
    parseLocatorObservation_eq_some isParsed
  rw [LocatorObservation.IsUsable, ← source, ← matchCount, ← value]
  simp only [scoreLocatorObservation]
  split
  case isTrue notOne => simp [notOne]
  case isFalse isOne =>
    split
    case isTrue sensitive => simp [sensitive]
    case isFalse notSensitive => simp [not_not.mp isOne, notSensitive]

section Candidates

variable {observation : LocatorObservation} {scored : ScoredLocator}

theorem length_observedRisks_le
    (source : LocatorSource)
    (stabilityValue : JsString) :
    (observedRisks source stabilityValue).length ≤ 6 := by
  have detected : (detectIdentifierRisks stabilityValue).length ≤ 6 :=
    List.length_filter_le _ _
  cases source
  case testId | stableId | stableName => exact detected
  all_goals exact Nat.zero_le _

/-- The source, the match, the value, its risks and the selector. -/
theorem length_reasons_le
    (source : LocatorSource)
    (stabilityValue : JsString)
    (locator : ElementLocator) :
    (valueReasons source stabilityValue ++ selectorReasons locator).length ≤
      maxLocatorReasons := by
  have risks := length_observedRisks_le source stabilityValue
  have short :
      (if isShortValue stabilityValue then
        [LocatorReasonCode.shortValue] else []).length ≤ 1 := by
    split <;> simp
  have selector : (selectorReasons locator).length ≤ 3 := by
    simp only [selectorReasons, List.length_append]
    split <;> split <;> split <;> simp
  simp only [valueReasons, List.length_append, List.length_map,
    List.length_cons, List.length_nil, maxLocatorReasons]
  omega

theorem candidate_of_score
    (isScored : scoreLocatorObservation observation = some scored) :
    scored.candidate.locator = observation.locator ∧
      scored.candidate.source = observation.source ∧
      scored.candidate.reasons =
        (valueReasons observation.source observation.stabilityValue ++
          selectorReasons observation.locator).map LocatorReason.of ∧
      0 ≤ scored.candidate.score ∧ scored.candidate.score ≤ 100 := by
  simp only [scoreLocatorObservation] at isScored
  split at isScored
  case isTrue notOne => cases isScored
  case isFalse isOne =>
    split at isScored
    case isTrue sensitive => cases isScored
    case isFalse notSensitive =>
      cases isScored
      refine ⟨rfl, rfl, rfl, le_max_left _ _, ?_⟩
      exact max_le (by decide) (min_le_left _ _)

/-- A scored observation passes the checks of a candidate. -/
theorem parseLocatorCandidate_of_score
    (isParsed : observation.IsParsed)
    (isScored : scoreLocatorObservation observation = some scored) :
    parseLocatorCandidate scored.candidate = some scored.candidate := by
  obtain ⟨locator, source, reasons, atLeast, atMost⟩ :=
    candidate_of_score isScored
  have hasCode : ∀ code,
      code ∈ valueReasons observation.source observation.stabilityValue →
      scored.candidate.hasReason code = true := by
    intro code listed
    rw [LocatorCandidate.hasReason, reasons, List.any_map]
    apply List.any_eq_true.mpr
    exact ⟨code, List.mem_append_left _ listed, beq_self_eq_true code⟩
  have sourceReason := hasCode observation.source.reasonCode (by
    simp [valueReasons])
  have uniqueReason := hasCode .uniqueMatch (by simp [valueReasons])
  have notEmpty : 1 ≤ scored.candidate.reasons.length := by
    simp [reasons, valueReasons]
  have notMany : scored.candidate.reasons.length ≤ maxLocatorReasons := by
    rw [reasons, List.length_map]
    exact length_reasons_le _ _ _
  have messages :
      (scored.candidate.reasons.all fun reason =>
        reason.message == reason.code.message) = true := by
    simp [reasons, LocatorReason.of]
  have parsedLocator :
      parseElementLocator scored.candidate.locator =
        some scored.candidate.locator := by
    rw [locator]
    exact isParsed.locator
  have bounds : hasLocatorBounds scored.candidate.locator = true := by
    rw [locator]
    exact isParsed.bounds
  have kind :
      scored.candidate.source.locatorKind =
        scored.candidate.locator.kind := by
    rw [source, locator]
    exact isParsed.source
  rw [← source] at sourceReason
  simp [parseLocatorCandidate, parsedLocator, atLeast, atMost, notEmpty,
    notMany, messages, bounds, kind, sourceReason, uniqueReason]

end Candidates

end TaskTwin.Locator

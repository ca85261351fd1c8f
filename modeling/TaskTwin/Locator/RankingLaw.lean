import TaskTwin.Locator.Ranking

/-!
# The bundle of an element

A bundle is settled by the observations with one match, whatever their order,
unless observations of one locator tie and differ in what is returned.
-/

namespace TaskTwin.Locator

open Text Schema Collection

/-- What ranks: the observations that match once and are not sensitive. -/
def scoredLocators (observations : List LocatorObservation) :
    List ScoredLocator :=
  observations.filterMap fun observation =>
    (parseLocatorObservation observation).bind scoreLocatorObservation

structure RankingLaw
    (observations : List LocatorObservation)
    (generatedAt : JsString) : Prop where
  returns : (rankLocatorBundle observations generatedAt).isSome
  succeeds :
    (∃ bundle,
        rankLocatorBundle observations generatedAt = some (some bundle)) ↔
      ∃ observation ∈ observations, observation.IsUsable
  ranked : ∀ bundle,
    rankLocatorBundle observations generatedAt = some (some bundle) →
    (bundle.candidates.map fun candidate =>
        canonicalizeLocator candidate.locator).Nodup ∧
      ∃ ranked,
        IsRanking ScoredLocator.key ScoredLocator.rank
          (scoredLocators observations) ranked ∧
        bundle.candidates = (ranked.take 5).map ScoredLocator.candidate
  permuted : ∀ permuted, observations.Perm permuted →
    rankLocatorBundle permuted generatedAt =
      rankLocatorBundle observations generatedAt
  unmatched : ∀ others, (parseLocatorObservations others).isSome →
    (others.filter fun observation => observation.matchCount = 1) =
      (observations.filter fun observation => observation.matchCount = 1) →
    rankLocatorBundle others generatedAt =
      rankLocatorBundle observations generatedAt

/--
Best observations of one locator have one candidate, where fewer than five
locators go before them.
-/
def CandidatesAgree (observations : List LocatorObservation) : Prop :=
  TiesAgree ScoredLocator.key ScoredLocator.rank ScoredLocator.candidate 5
    (scoredLocators observations)

variable
  {observations others parsed : List LocatorObservation}
  {generatedAt : JsString}

theorem isSome_parseLocatorObservations_iff :
    (parseLocatorObservations observations).isSome ↔
      observations.length ≤ maxLocatorCandidates ∧
        ∀ observation ∈ observations,
          (parseLocatorObservation observation).isSome := by
  rw [parseLocatorObservations]
  split
  case isTrue bounded => simp [bounded, mapM_isSome_iff]
  case isFalse tooMany => simp [tooMany]

theorem filterMap_of_mapM
    {parse : LocatorObservation → Option LocatorObservation}
    (isParsed : observations.mapM parse = some parsed) :
    observations.filterMap parse = parsed := by
  rw [mapM_eq_some_iff] at isParsed
  induction isParsed with
  | nil => rfl
  | cons isFirst rest inductionHypothesis =>
      rw [List.filterMap_cons_some isFirst, inductionHypothesis]

theorem isSome_parseLocatorObservations_of_perm
    (permuted : observations.Perm others)
    (valid : (parseLocatorObservations observations).isSome) :
    (parseLocatorObservations others).isSome := by
  rw [isSome_parseLocatorObservations_iff] at valid ⊢
  rw [← permuted.length_eq]
  refine ⟨valid.1, fun observation listed => ?_⟩
  exact valid.2 observation (permuted.mem_iff.mpr listed)

theorem filterMap_score
    (isParsed : parseLocatorObservations observations = some parsed) :
    parsed.filterMap scoreLocatorObservation =
      scoredLocators observations := by
  rw [parseLocatorObservations] at isParsed
  split at isParsed
  case isTrue bounded =>
    rw [← filterMap_of_mapM isParsed, List.filterMap_filterMap]
    rfl
  case isFalse tooMany => cases isParsed

theorem mem_scoredLocators
    {scored : ScoredLocator}
    (listed : scored ∈ scoredLocators observations) :
    ∃ observation ∈ observations, ∃ parsed,
      parseLocatorObservation observation = some parsed ∧
        scoreLocatorObservation parsed = some scored := by
  obtain ⟨observation, isListed, isScored⟩ := List.mem_filterMap.mp listed
  obtain ⟨parsed, isParsed, isScored⟩ := Option.bind_eq_some_iff.mp isScored
  exact ⟨observation, isListed, parsed, isParsed, isScored⟩

theorem parseLocatorCandidate_of_mem
    {scored : ScoredLocator}
    (listed : scored ∈ scoredLocators observations) :
    parseLocatorCandidate scored.candidate = some scored.candidate := by
  obtain ⟨observation, -, parsed, isParsed, isScored⟩ :=
    mem_scoredLocators listed
  exact
    parseLocatorCandidate_of_score
      (parseLocatorObservation_eq_some isParsed).1 isScored

/-- Observations with another match count do not count. -/
theorem scoredLocators_matched (observations : List LocatorObservation) :
    scoredLocators
        (observations.filter fun observation => observation.matchCount = 1) =
      scoredLocators observations := by
  rw [scoredLocators, List.filterMap_filter]
  apply List.filterMap_congr
  intro observation listed
  split
  case isTrue isOne => rfl
  case isFalse notOne =>
    symm
    apply Option.bind_eq_none_iff.mpr
    intro parsed isParsed
    obtain ⟨-, -, matchCount, -⟩ := parseLocatorObservation_eq_some isParsed
    have parsedNotOne : parsed.matchCount ≠ 1 := by
      rw [matchCount]
      simpa using notOne
    rw [scoreLocatorObservation]
    exact if_pos parsedNotOne

theorem exists_scored_iff
    (valid : (parseLocatorObservations observations).isSome) :
    (∃ scored, scored ∈ scoredLocators observations) ↔
      ∃ observation ∈ observations, observation.IsUsable := by
  obtain ⟨-, readable⟩ := isSome_parseLocatorObservations_iff.mp valid
  constructor
  · rintro ⟨scored, listed⟩
    obtain ⟨observation, isListed, parsed, isParsed, isScored⟩ :=
      mem_scoredLocators listed
    have usable :=
      (scoreLocatorObservation_isSome_iff isParsed).mp
        (Option.isSome_of_eq_some isScored)
    exact ⟨observation, isListed, usable⟩
  · rintro ⟨observation, isListed, usable⟩
    obtain ⟨parsed, isParsed⟩ :=
      Option.isSome_iff_exists.mp (readable observation isListed)
    obtain ⟨scored, isScored⟩ :=
      Option.isSome_iff_exists.mp
        ((scoreLocatorObservation_isSome_iff isParsed).mpr usable)
    refine ⟨scored, List.mem_filterMap.mpr ⟨observation, isListed, ?_⟩⟩
    rw [isParsed]
    exact isScored

/-- The answer for the candidates of the best locators. -/
def answerOf
    (candidates : List LocatorCandidate)
    (generatedAt : JsString) :
    Option LocatorBundle :=
  match candidates with
  | [] => none
  | primary :: fallbacks =>
      some
        { primary
          fallbacks
          confidence := calculateLocatorConfidence primary fallbacks
          generatedAt }

variable {candidates : List LocatorCandidate}

theorem candidates_of_answerOf
    {bundle : LocatorBundle}
    (answer : answerOf candidates generatedAt = some bundle) :
    bundle.candidates = candidates := by
  cases candidates with
  | nil => cases answer
  | cons primary fallbacks =>
      cases answer
      rfl

theorem exists_answerOf
    {candidate : LocatorCandidate}
    (listed : candidate ∈ candidates)
    (generatedAt : JsString) :
    ∃ bundle, answerOf candidates generatedAt = some bundle ∧
      candidate ∈ bundle.candidates := by
  cases candidates with
  | nil => cases listed
  | cons primary fallbacks => exact ⟨_, rfl, listed⟩

theorem scoresDescend_of_pairwise
    (descending :
      candidates.Pairwise fun first second => second.score ≤ first.score) :
    scoresDescend candidates = true := by
  induction candidates with
  | nil => rfl
  | cons first rest inductionHypothesis =>
      obtain ⟨notBelow, restDescending⟩ := List.pairwise_cons.mp descending
      cases rest with
      | nil => rfl
      | cons second rest =>
          have restDescends := inductionHypothesis restDescending
          have step := notBelow second List.mem_cons_self
          simpa [scoresDescend, step] using restDescends

theorem parseLocatorBundle_eq_some
    {bundle : LocatorBundle}
    (isCandidate : ∀ candidate ∈ bundle.candidates,
      parseLocatorCandidate candidate = some candidate)
    (few : bundle.fallbacks.length ≤ maxLocatorFallbacks)
    (dated : isDateTime bundle.generatedAt = true)
    (distinct :
      (bundle.candidates.map fun candidate =>
        canonicalizeLocator candidate.locator).Nodup)
    (descends : scoresDescend bundle.candidates = true) :
    parseLocatorBundle bundle = some bundle := by
  have primary := isCandidate bundle.primary List.mem_cons_self
  have fallbacks :
      bundle.fallbacks.mapM parseLocatorCandidate = some bundle.fallbacks := by
    apply mapM_of_fixed
    intro candidate listed
    exact isCandidate candidate (List.mem_cons_of_mem _ listed)
  rw [LocatorBundle.candidates] at distinct descends
  simp only [parseLocatorBundle, primary, fallbacks, guard, if_pos few,
    if_pos dated, if_pos distinct, if_pos descends, Option.bind_eq_bind,
    Option.bind_some, Option.pure_def]

section Bundle

variable {ranked : List ScoredLocator} {bundle : LocatorBundle}

theorem distinct_of_ranking
    (ranking :
      IsRanking ScoredLocator.key ScoredLocator.rank
        (scoredLocators observations) ranked)
    (areBest :
      bundle.candidates = (ranked.take 5).map ScoredLocator.candidate) :
    (bundle.candidates.map fun candidate =>
      canonicalizeLocator candidate.locator).Nodup := by
  rw [areBest, List.map_map]
  exact ranking.distinct.sublist ((List.take_sublist 5 ranked).map _)

/-- The best of a ranking pass the checks of a bundle. -/
theorem parseLocatorBundle_of_ranking
    (ranking :
      IsRanking ScoredLocator.key ScoredLocator.rank
        (scoredLocators observations) ranked)
    (dated : isDateTime bundle.generatedAt = true)
    (areBest :
      bundle.candidates = (ranked.take 5).map ScoredLocator.candidate) :
    parseLocatorBundle bundle = some bundle := by
  have bestFive := List.take_sublist 5 ranked
  apply parseLocatorBundle_eq_some
  case isCandidate =>
    intro candidate listed
    rw [areBest] at listed
    obtain ⟨scored, isBest, rfl⟩ := List.mem_map.mp listed
    exact
      parseLocatorCandidate_of_mem
        (ranking.listed scored (bestFive.subset isBest))
  case few =>
    have atMostFive : bundle.candidates.length ≤ 5 := by
      rw [areBest, List.length_map]
      exact List.length_take_le 5 ranked
    exact Nat.le_of_succ_le_succ atMostFive
  case dated => exact dated
  case distinct => exact distinct_of_ranking ranking areBest
  case descends =>
    apply scoresDescend_of_pairwise
    rw [areBest, List.pairwise_map]
    exact (ranking.ordered.sublist bestFive).imp score_le_of_rank_le

end Bundle

/-- The best five are answered. -/
theorem rankLocatorBundle_eq
    (isParsed : parseLocatorObservations observations = some parsed)
    (dated : isDateTime generatedAt = true) :
    rankLocatorBundle observations generatedAt =
      some
        (answerOf
          (((rankScored parsed).take 5).map ScoredLocator.candidate)
          generatedAt) := by
  have ranking := isRanking_rankScored parsed
  rw [filterMap_score isParsed] at ranking
  rw [rankLocatorBundle, isParsed, Option.bind_eq_bind, Option.bind_some]
  cases isRanked : rankScored parsed with
  | nil => rfl
  | cons first rest =>
      rw [isRanked] at ranking
      let fallbacks :=
        (rest.take maxLocatorFallbacks).map ScoredLocator.candidate
      let bundle : LocatorBundle :=
        { primary := first.candidate
          fallbacks
          confidence := calculateLocatorConfidence first.candidate fallbacks
          generatedAt }
      have accepted : parseLocatorBundle bundle = some bundle :=
        parseLocatorBundle_of_ranking ranking dated rfl
      change (parseLocatorBundle bundle).bind _ = _
      rw [accepted]
      rfl

/-- The answer is that of a ranking of what was observed. -/
theorem exists_ranking
    (valid : (parseLocatorObservations observations).isSome)
    (dated : isDateTime generatedAt = true) :
    ∃ ranked,
      IsRanking ScoredLocator.key ScoredLocator.rank
          (scoredLocators observations) ranked ∧
        rankLocatorBundle observations generatedAt =
          some
            (answerOf ((ranked.take 5).map ScoredLocator.candidate)
              generatedAt) := by
  obtain ⟨parsed, isParsed⟩ := Option.isSome_iff_exists.mp valid
  refine ⟨rankScored parsed, ?_, rankLocatorBundle_eq isParsed dated⟩
  rw [← filterMap_score isParsed]
  exact isRanking_rankScored parsed

theorem scoredLocators_perm (permuted : observations.Perm others) :
    (scoredLocators observations).Perm (scoredLocators others) :=
  permuted.filterMap _

theorem rankLocatorBundle_congr
    (valid : (parseLocatorObservations observations).isSome)
    (validToo : (parseLocatorObservations others).isSome)
    (dated : isDateTime generatedAt = true)
    (same : scoredLocators others = scoredLocators observations) :
    rankLocatorBundle others generatedAt =
      rankLocatorBundle observations generatedAt := by
  obtain ⟨parsed, isParsed⟩ := Option.isSome_iff_exists.mp valid
  obtain ⟨parsedToo, isParsedToo⟩ := Option.isSome_iff_exists.mp validToo
  have sameRanking : rankScored parsedToo = rankScored parsed := by
    rw [rankScored, rankScored, filterMap_score isParsed,
      filterMap_score isParsedToo, same]
  rw [rankLocatorBundle_eq isParsed dated,
    rankLocatorBundle_eq isParsedToo dated, sameRanking]

theorem succeeds_iff
    (valid : (parseLocatorObservations observations).isSome)
    (dated : isDateTime generatedAt = true) :
    (∃ bundle,
        rankLocatorBundle observations generatedAt = some (some bundle)) ↔
      ∃ observation ∈ observations, observation.IsUsable := by
  obtain ⟨ranked, ranking, answer⟩ := exists_ranking valid dated
  rw [← exists_scored_iff valid, answer]
  constructor
  · rintro ⟨bundle, isBundle⟩
    have areBest := candidates_of_answerOf (Option.some.inj isBundle)
    have isBest : bundle.primary ∈ bundle.candidates := List.mem_cons_self
    rw [areBest] at isBest
    obtain ⟨scored, listed, -⟩ := List.mem_map.mp isBest
    exact
      ⟨scored,
        ranking.listed scored ((List.take_sublist 5 ranked).subset listed)⟩
  · rintro ⟨scored, listed⟩
    have keyRanked := ranking.complete scored listed
    cases ranked with
    | nil => cases keyRanked
    | cons first rest => exact ⟨_, rfl⟩

/-- A best observation is answered when it comes first. -/
theorem exists_perm_answer
    {scored : ScoredLocator}
    (valid : (parseLocatorObservations observations).isSome)
    (dated : isDateTime generatedAt = true)
    (listed : scored ∈ scoredLocators observations)
    (isBest : ∀ other ∈ scoredLocators observations,
      other.key = scored.key → scored.rank ≤ other.rank)
    (few :
      outranking ScoredLocator.key ScoredLocator.rank
        (scoredLocators observations) scored < 5) :
    ∃ permuted, observations.Perm permuted ∧
      ∃ bundle,
        rankLocatorBundle permuted generatedAt = some (some bundle) ∧
          scored.candidate ∈ bundle.candidates := by
  obtain ⟨observation, isListed, isScored⟩ := List.mem_filterMap.mp listed
  have permuted := List.perm_cons_erase isListed
  refine ⟨_, permuted, ?_⟩
  have scoredPermuted := scoredLocators_perm permuted
  have validPermuted := isSome_parseLocatorObservations_of_perm permuted valid
  obtain ⟨parsed, isParsed⟩ := Option.isSome_iff_exists.mp validPermuted
  have scoredFirst :
      scoredLocators (observation :: observations.erase observation) =
        scored :: scoredLocators (observations.erase observation) :=
    List.filterMap_cons_some isScored
  have ranking := isRanking_rankScored parsed
  have isRanked : scored ∈ rankScored parsed := by
    rw [rankScored, filterMap_score isParsed, scoredFirst]
    apply (List.mem_insertionSort _).mpr
    apply first_mem_bestByKey isBetter_iff
    intro other otherListed
    apply isBest
    apply scoredPermuted.mem_iff.mpr
    rw [scoredFirst]
    exact List.mem_cons_of_mem _ otherListed
  rw [filterMap_score isParsed] at ranking
  have isTaken : scored ∈ (rankScored parsed).take 5 := by
    apply (ranking.mem_take_iff key_eq_of_rank_eq isRanked).mpr
    rwa [← outranking_of_perm scoredPermuted]
  have candidateTaken :
      scored.candidate ∈
        ((rankScored parsed).take 5).map ScoredLocator.candidate :=
    List.mem_map_of_mem isTaken
  obtain ⟨bundle, answer, inBundle⟩ :=
    exists_answerOf candidateTaken generatedAt
  refine ⟨bundle, ?_, inBundle⟩
  rw [rankLocatorBundle_eq isParsed dated, answer]

/-- Where the order of observations does not count, ties agree. -/
theorem candidatesAgree_of_permuted
    (valid : (parseLocatorObservations observations).isSome)
    (dated : isDateTime generatedAt = true)
    (permuted : ∀ permuted, observations.Perm permuted →
      rankLocatorBundle permuted generatedAt =
        rankLocatorBundle observations generatedAt) :
    CandidatesAgree observations := by
  intro first firstListed second secondListed sameKey sameRank isBest few
  have secondBest : ∀ other ∈ scoredLocators observations,
      other.key = second.key → second.rank ≤ other.rank := by
    intro other listed otherKey
    rw [← sameRank]
    exact isBest other listed (otherKey.trans sameKey.symm)
  have secondFew :
      outranking ScoredLocator.key ScoredLocator.rank
        (scoredLocators observations) second < 5 := by
    rw [outranking, ← sameRank]
    exact few
  obtain ⟨firstOrder, firstPerm, bundle, isBundle, inBundle⟩ :=
    exists_perm_answer valid dated firstListed isBest few
  obtain ⟨secondOrder, secondPerm, other, isOther, inOther⟩ :=
    exists_perm_answer valid dated secondListed secondBest secondFew
  rw [permuted firstOrder firstPerm] at isBundle
  rw [permuted secondOrder secondPerm, isBundle] at isOther
  obtain rfl := Option.some.inj (Option.some.inj isOther)
  obtain ⟨ranked, ranking, answer⟩ := exists_ranking valid dated
  rw [isBundle] at answer
  have areBest := candidates_of_answerOf (Option.some.inj answer).symm
  have distinct := distinct_of_ranking ranking areBest
  exact List.inj_on_of_nodup_map distinct inBundle inOther sameKey

theorem permuted_of_candidatesAgree
    (valid : (parseLocatorObservations observations).isSome)
    (dated : isDateTime generatedAt = true)
    (agree : CandidatesAgree observations)
    (permuted : observations.Perm others) :
    rankLocatorBundle others generatedAt =
      rankLocatorBundle observations generatedAt := by
  have validToo := isSome_parseLocatorObservations_of_perm permuted valid
  obtain ⟨ranked, ranking, answer⟩ := exists_ranking valid dated
  obtain ⟨reranked, reranking, answerToo⟩ := exists_ranking validToo dated
  have same : SameElements (scoredLocators observations)
      (scoredLocators others) :=
    fun scored => (scoredLocators_perm permuted).mem_iff
  have sameBest :=
    ranking.view_take_eq key_eq_of_rank_eq reranking same agree
  rw [answer, answerToo, sameBest]

theorem rankingLaw_iff
    (observations : List LocatorObservation)
    (generatedAt : JsString)
    (valid : (parseLocatorObservations observations).isSome)
    (dated : isDateTime generatedAt = true) :
    RankingLaw observations generatedAt ↔ CandidatesAgree observations := by
  constructor
  · intro law
    exact candidatesAgree_of_permuted valid dated law.permuted
  · intro agree
    obtain ⟨ranked, ranking, answer⟩ := exists_ranking valid dated
    exact
      { returns := by rw [answer]; rfl
        succeeds := succeeds_iff valid dated
        ranked := by
          intro bundle isBundle
          rw [answer] at isBundle
          have areBest := candidates_of_answerOf (Option.some.inj isBundle)
          exact ⟨distinct_of_ranking ranking areBest, ranked, ranking, areBest⟩
        permuted := fun permuted =>
          permuted_of_candidatesAgree valid dated agree
        unmatched := by
          intro others validToo sameMatched
          apply rankLocatorBundle_congr valid validToo dated
          rw [← scoredLocators_matched others, sameMatched,
            scoredLocators_matched] }

/-- A button by its name, which is not asked to be exact or left open. -/
def saveButton (exact : Option Bool) : LocatorObservation where
  locator := .role (js "button") (some (js "Save")) exact
  source := .role
  matchCount := 1
  stabilityValue := js "Save"

theorem rankingLaw_saveButton :
    RankingLaw [saveButton none] (js "2026-07-29T10:00:00.000Z") ↔
      CandidatesAgree [saveButton none] :=
  rankingLaw_iff [saveButton none] (js "2026-07-29T10:00:00.000Z")
    (by decide +kernel) (by decide +kernel)

/-- The button that comes first is returned. -/
theorem not_rankingLaw :
    ¬∀ observations generatedAt,
      (parseLocatorObservations observations).isSome →
      isDateTime generatedAt = true →
      RankingLaw observations generatedAt := by
  intro always
  have law :=
    always [saveButton none, saveButton (some false)]
      (js "2026-07-29T10:00:00.000Z") (by decide +kernel) (by decide +kernel)
  have same :=
    law.permuted [saveButton (some false), saveButton none]
      (List.Perm.swap _ _ [])
  exact absurd same (by decide +kernel)

end TaskTwin.Locator

import ContentAutomation.Analytics.FeatureFamily
import ContentAutomation.Library.Utf8

/-!
# Reused statistics

A statistic whose fingerprint is stored already is not written again. The fingerprint identifies
the posts, the snapshots and the analyses of a comparison; what else the statistic is made of may
differ between the row and the request that reuses it.
-/

namespace ContentAutomation

open OrderStatistic FeatureComparisonInput FeatureStatisticRequest List

/-! ### What is stored -/

/-- A row of `accountFeatureStatistic`, but for its own id, its workspace, its run and the time of
the calculation. -/
structure AccountFeatureStatistic where
  ageWindow : SnapshotAgeWindowKey
  analysisSchemaVersion : String
  analyticsVersion : String
  bootstrapResamples : Option ℕ
  bootstrapSeed : Option UInt32
  classificationReason : ClassificationReason
  cohortVersion : String
  comparisonCount : ℕ
  comparisonIqr : Option ℚ
  comparisonMedian : Option ℚ
  confidence : ConfidenceClass
  differenceOfMedians : Option ℚ
  distinctPublicationDates : ℕ
  distinctPublicationWeeks : ℕ
  featurePath : String
  featureValue : String
  groupCount : ℕ
  groupIqr : Option ℚ
  groupMedian : Option ℚ
  inputFingerprint : Utf16
  instagramAccountId : Option String
  intervalConfidence : ℚ
  intervalLower : Option ℚ
  intervalUpper : Option ℚ
  metric : String
  missingRatio : ℚ
  multipleTestingApplied : Bool
  publishedFrom : ℤ
  publishedTo : ℤ
  relativeEffect : Option ℚ
  sensitivityHoldsDirection : Bool
  statisticsVersion : String
  topContributorShare : Option ℚ

/-- The row that `storeFeatureStatistics` writes for a calculated comparison. -/
def storedStatistic (platform : FamilyPlatform) (request : FeatureStatisticRequest)
    (entry : CalculatedComparison) : AccountFeatureStatistic :=
  let statistic := entry.statistic
  { ageWindow := request.ageWindow
    analysisSchemaVersion
    analyticsVersion
    bootstrapResamples := statistic.interval.map (·.resamples)
    bootstrapSeed := statistic.interval.map (·.seed)
    classificationReason := statistic.reason
    cohortVersion := cohortSelectionVersion
    comparisonCount := statistic.comparisonCount
    comparisonIqr := statistic.comparisonSpread.interquartileRange
    comparisonMedian := statistic.comparisonSpread.median
    confidence := statistic.classification
    differenceOfMedians := statistic.differenceOfMedians
    distinctPublicationDates := distinctPublicationDates entry.candidate
    distinctPublicationWeeks := distinctPublicationWeeks platform entry.candidate
    featurePath := entry.candidate.featurePath
    featureValue := entry.candidate.featureValue
    groupCount := statistic.groupCount
    groupIqr := statistic.groupSpread.interquartileRange
    groupMedian := statistic.groupSpread.median
    inputFingerprint := entry.fingerprint
    instagramAccountId := request.instagramAccountId
    intervalConfidence :=
      if statistic.classification = .statisticallySupportedAssociation then 19 / 20 else 4 / 5
    intervalLower := statistic.interval.map (·.lower)
    intervalUpper := statistic.interval.map (·.upper)
    metric := request.metric
    missingRatio := missingRatioOf entry.candidate
    multipleTestingApplied :=
      statistic.classification = .statisticallySupportedAssociation ||
        statistic.reason = .multipleTestingRejected
    publishedFrom := request.publishedFrom
    publishedTo := request.publishedTo
    relativeEffect := statistic.relativeEffect
    sensitivityHoldsDirection := statistic.sensitivity.preservesDirection
    statisticsVersion := statistic.statisticsVersion
    topContributorShare := statistic.topContributorShare }

/-! ### What a fingerprint tells -/

/-- Two lists have the same images under a function if they have the same under another one that
tells them. -/
theorem map_perm_of_map_perm {α β γ : Type*} {f : α → β} {g : α → γ} {members others : List α}
    (h : (members.map f).Perm (others.map f))
    (htold : ∀ member ∈ members, ∀ other ∈ others, f member = f other → g member = g other) :
    (members.map g).Perm (others.map g) := by
  classical
  induction members generalizing others with
  | nil =>
    obtain rfl : others = [] := map_eq_nil_iff.mp h.nil_eq.symm
    exact List.Perm.refl _
  | cons member members ih =>
    obtain ⟨other, hother, heq⟩ : ∃ other ∈ others, f other = f member :=
      mem_map.mp (h.mem_iff.mp mem_cons_self)
    have hfront := perm_cons_erase hother
    have hrest : (members.map f).Perm ((others.erase other).map f) := by
      have hall := h.trans (hfront.map f)
      rw [map_cons, map_cons, heq] at hall
      exact hall.cons_inv
    have hperm := ih hrest fun first hfirst second hsecond =>
      htold first (mem_cons_of_mem _ hfirst) second (mem_of_mem_erase hsecond)
    refine List.Perm.trans ?_ (hfront.map g).symm
    rw [map_cons, map_cons, htold member mem_cons_self other hother heq.symm]
    exact hperm.cons _

/-- Observations that are identified by one text have one account and one value. A post can be
given another time of publication by a later import. -/
def ToldByIdentity (observations others : List FeatureObservation) : Prop :=
  ∀ observation ∈ observations, ∀ other ∈ others, observation.identity = other.identity →
    (observation.instagramAccountId, observation.value) = (other.instagramAccountId, other.value)

/-- Observations of the same texts have the same accounts and values, in some order. -/
theorem perm_of_identify {observations others : List FeatureObservation}
    (h : identify observations = identify others) (htold : ToldByIdentity observations others) :
    (observations.map (·.instagramAccountId)).Perm (others.map (·.instagramAccountId)) ∧
      (observations.map (·.value)).Perm (others.map (·.value)) := by
  have htexts : (observations.map fun observation => Utf16.ofString observation.identity).Perm
      (others.map fun observation => Utf16.ofString observation.identity) := by
    unfold identify at h
    exact (perm_insertionSort (· ≤ ·) _).symm.trans (h ▸ perm_insertionSort (· ≤ ·) _)
  have hpairs := map_perm_of_map_perm htexts fun observation hobservation other hother heq =>
    htold observation hobservation other hother (Utf8.ofString_injective heq)
  have haccounts := hpairs.map Prod.fst
  have hvalues := hpairs.map Prod.snd
  rw [map_map, map_map] at haccounts hvalues
  exact ⟨haccounts, hvalues⟩

private theorem SnapshotAgeWindowKey.key_injective :
    Function.Injective SnapshotAgeWindowKey.key := by
  intro window other h
  cases window <;> cases other <;> first | rfl | exact absurd h (by decide)

/-- What two comparisons of one fingerprint agree in. -/
structure AlikeInputs (request request' : FeatureStatisticRequest)
    (candidate candidate' : FeatureComparisonCandidate) : Prop where
  ageWindow : request.ageWindow = request'.ageWindow
  metric : request.metric = request'.metric
  featurePath : candidate.featurePath = candidate'.featurePath
  featureValue : candidate.featureValue = candidate'.featureValue
  group : identify candidate.group = identify candidate'.group
  comparison : identify candidate.comparison = identify candidate'.comparison

private theorem alikeInputs {request request' : FeatureStatisticRequest}
    {candidate candidate' : FeatureComparisonCandidate}
    (h : request.fingerprintInput candidate = request'.fingerprintInput candidate') :
    AlikeInputs request request' candidate candidate' := by
  have hitems := Json.array.inj h
  simp only [List.cons.injEq, Json.string.injEq, Json.array.injEq, and_true, true_and] at hitems
  obtain ⟨-, hwindow, hmetric, hpath, hvalue, hgroup, hcomparison⟩ := hitems
  have hstring : Function.Injective Json.string := fun _ _ h => Json.string.inj h
  exact
    { ageWindow := SnapshotAgeWindowKey.key_injective (Utf8.ofString_injective hwindow)
      metric := Utf8.ofString_injective hmetric
      featurePath := Utf8.ofString_injective hpath
      featureValue := Utf8.ofString_injective hvalue
      group := map_injective_iff.mpr hstring hgroup
      comparison := map_injective_iff.mpr hstring hcomparison }

private theorem dominantSourceShare_eq_of_perm {observations others : List FeatureObservation}
    (h : (observations.map (·.instagramAccountId)).Perm (others.map (·.instagramAccountId))) :
    dominantSourceShare observations = dominantSourceShare others := by
  have hcounts : ((observations.map (·.instagramAccountId)).map fun account =>
        (observations.map (·.instagramAccountId)).count account).Perm
      ((others.map (·.instagramAccountId)).map fun account =>
        (others.map (·.instagramAccountId)).count account) := by
    have hfun : (fun account => (observations.map (·.instagramAccountId)).count account) =
        fun account => (others.map (·.instagramAccountId)).count account :=
      funext fun account => h.count_eq account
    rw [hfun]
    exact h.map _
  have hlength : observations.length = others.length := by simpa using h.length_eq
  simp only [dominantSourceShare, hlength, max?_eq_of_perm hcounts]

/-! ### Two comparisons of one fingerprint -/

/-- Two requests that are read from one database: a post, a snapshot and an analysis are one
observation, and a metric has one unit. -/
structure FromOneDatabase (request request' : FeatureStatisticRequest)
    (candidate candidate' : FeatureComparisonCandidate) : Prop where
  group : ToldByIdentity candidate.group candidate'.group
  comparison : ToldByIdentity candidate.comparison candidate'.comparison
  metricIsCount : request.metric = request'.metric →
    request.metricIsCount = request'.metricIsCount

/-- What the fingerprint leaves out agrees: the scope and the period, the share of posts that are
missing, and the days and weeks on which the group was published. -/
structure SameRest (platform : FamilyPlatform) (request request' : FeatureStatisticRequest)
    (candidate candidate' : FeatureComparisonCandidate) : Prop where
  instagramAccountId : request.instagramAccountId = request'.instagramAccountId
  publishedFrom : request.publishedFrom = request'.publishedFrom
  publishedTo : request.publishedTo = request'.publishedTo
  missingRatio : missingRatioOf candidate = missingRatioOf candidate'
  publicationDates : distinctPublicationDates candidate = distinctPublicationDates candidate'
  publicationWeeks :
    distinctPublicationWeeks platform candidate = distinctPublicationWeeks platform candidate'

section Reuse

variable {platform : FamilyPlatform} {request request' : FeatureStatisticRequest}
  {candidate candidate' : FeatureComparisonCandidate}

theorem entry_of_mem {entry : CalculatedComparison}
    (h : entry ∈ request.calculateFeatureFamily platform) :
    entry.fingerprint = request.createStatisticFingerprint platform entry.candidate ∧
      entry.statistic = request.build platform entry.candidate none := by
  obtain ⟨member, hmember, rfl⟩ := mem_map.mp h
  exact ⟨rfl, request.statisticAt_eq platform (mem_zipIdx_iff_getElem?.mp hmember)⟩

/-- A comparison of the same fingerprint is the comparison in another order, if what the fingerprint
leaves out agrees. -/
theorem comparisonInput_eq (halike : AlikeInputs request request' candidate candidate')
    (hdatabase : FromOneDatabase request request' candidate candidate')
    (hrest : SameRest platform request request' candidate candidate') :
    request'.comparisonInput platform candidate' none =
      (request.comparisonInput platform candidate none).reordered
        (candidate'.group.map (·.value)) (candidate'.comparison.map (·.value)) := by
  have hkey : request'.keyOf candidate' = request.keyOf candidate := by
    simp only [keyOf, halike.featurePath, halike.featureValue, halike.metric, halike.ageWindow]
  have hgroup := dominantSourceShare_eq_of_perm (perm_of_identify halike.group hdatabase.group).1
  have hcomparison :=
    dominantSourceShare_eq_of_perm (perm_of_identify halike.comparison hdatabase.comparison).1
  simp only [comparisonInput, reordered, hkey, hgroup, hcomparison, hrest.publicationDates,
    hrest.publicationWeeks, hrest.instagramAccountId, hrest.missingRatio,
    hdatabase.metricIsCount halike.metric]

end Reuse

/-- **Reused statistics.** Of two comparisons of one fingerprint, the same is stored only if what
the fingerprint leaves out agrees; and then it is, if a check settles the comparison before its
resamples are drawn, or if the values stand in the same places. -/
theorem reused_statistic (platform : FamilyPlatform)
    (request request' : FeatureStatisticRequest) (entry entry' : CalculatedComparison)
    (hentry : entry ∈ request.calculateFeatureFamily platform)
    (hentry' : entry' ∈ request'.calculateFeatureFamily platform)
    (hdatabase : FromOneDatabase request request' entry.candidate entry'.candidate)
    (hfingerprint : request.fingerprintInput entry.candidate =
      request'.fingerprintInput entry'.candidate) :
    (storedStatistic platform request entry = storedStatistic platform request' entry' →
      SameRest platform request request' entry.candidate entry'.candidate) ∧
    (SameRest platform request request' entry.candidate entry'.candidate →
      ((request.comparisonInput platform entry.candidate none).ReachesBootstrap →
        (request.comparisonInput platform entry.candidate none).SamePlaces
          (entry'.candidate.group.map (·.value)) (entry'.candidate.comparison.map (·.value))) →
      storedStatistic platform request entry = storedStatistic platform request' entry') := by
  constructor
  · intro h
    exact
      { instagramAccountId := congrArg AccountFeatureStatistic.instagramAccountId h
        publishedFrom := congrArg AccountFeatureStatistic.publishedFrom h
        publishedTo := congrArg AccountFeatureStatistic.publishedTo h
        missingRatio := congrArg AccountFeatureStatistic.missingRatio h
        publicationDates := congrArg AccountFeatureStatistic.distinctPublicationDates h
        publicationWeeks := congrArg AccountFeatureStatistic.distinctPublicationWeeks h }
  · intro hrest hplaces
    have halike := alikeInputs hfingerprint
    obtain ⟨hprint, hstatistic⟩ := entry_of_mem hentry
    obtain ⟨hprint', hstatistic'⟩ := entry_of_mem hentry'
    have hsame : entry'.statistic = entry.statistic := by
      rw [hstatistic, hstatistic', build, build, comparisonInput_eq halike hdatabase hrest]
      exact statistic_reordered (perm_of_identify halike.group hdatabase.group).2
        (perm_of_identify halike.comparison hdatabase.comparison).2 hplaces
    have hprints : entry'.fingerprint = entry.fingerprint := by
      rw [hprint, hprint', createStatisticFingerprint, createStatisticFingerprint, hfingerprint]
    simp only [storedStatistic, hsame, hprints, halike.ageWindow, halike.metric,
      halike.featurePath, halike.featureValue, hrest.instagramAccountId, hrest.publishedFrom,
      hrest.publishedTo, hrest.missingRatio, hrest.publicationDates, hrest.publicationWeeks]

/-! ### Posts that are missing later -/

namespace ReuseSample

open FamilySample

/-- Eight posts that carry a category or another. -/
def complete : FeatureComparisonCandidate :=
  FamilySample.candidate "question" [1, 1, 1] [1, 1, 1, 1, 1]

/-- The eight posts, among ten that carry none. -/
def incomplete : FeatureComparisonCandidate := { complete with missingCount := 10 }

/-- The same posts in another order, imported again with another time of their days. -/
def imported : FeatureComparisonCandidate :=
  { incomplete with
    group := incomplete.group.reverse.map fun post =>
      { post with publishedAt := Calendar.sliceFirst 10 post.publishedAt ++ "T12:00:00.000Z" } }

/-- The request of a comparison. -/
def request (candidate : FeatureComparisonCandidate) : FeatureStatisticRequest :=
  { FamilySample.request with candidates := [candidate] }

/-- The calculated comparison. -/
def entry (candidate : FeatureComparisonCandidate) : CalculatedComparison where
  candidate
  fingerprint := (request candidate).createStatisticFingerprint platform candidate
  statistic := (request candidate).statisticAt platform candidate 0

theorem entry_mem (candidate : FeatureComparisonCandidate) :
    entry candidate ∈ (request candidate).calculateFeatureFamily platform :=
  mem_map.mpr ⟨(candidate, 0), mem_cons_self, rfl⟩

private theorem fromOneDatabase : FromOneDatabase (request complete) (request incomplete) complete
    incomplete ∧ FromOneDatabase (request incomplete) (request imported) incomplete imported := by
  refine ⟨⟨?_, ?_, fun _ => rfl⟩, ⟨?_, ?_, fun _ => rfl⟩⟩
  all_goals
    unfold ToldByIdentity
    decide

private theorem confidence_eq :
    (storedStatistic platform (request complete) (entry complete)).confidence =
        .weakDirectionalSignal ∧
      (storedStatistic platform (request incomplete) (entry incomplete)).confidence =
        .insufficientEvidence := by
  decide +kernel

end ReuseSample

open ReuseSample in
/-- Of posts that are imported again in another order the same is stored, as long as too many are
missing. -/
theorem reused_statistic_sample :
    (request incomplete).fingerprintInput incomplete =
        (request imported).fingerprintInput imported ∧
      storedStatistic FamilySample.platform (request incomplete) (entry incomplete) =
        storedStatistic FamilySample.platform (request imported) (entry imported) := by
  have hfingerprint : (request incomplete).fingerprintInput incomplete =
      (request imported).fingerprintInput imported := by
    have hgroup : identify incomplete.group = identify imported.group := by decide +kernel
    unfold fingerprintInput
    rw [hgroup]
    rfl
  refine ⟨hfingerprint, (reused_statistic FamilySample.platform (request incomplete)
    (request imported) (entry incomplete) (entry imported) (entry_mem incomplete)
    (entry_mem imported) fromOneDatabase.2 hfingerprint).2 ?_ fun hreaches => ?_⟩
  · constructor <;> decide +kernel
  · exact absurd hreaches.missingRatio (by decide +kernel)

open ReuseSample in
/-- **A row that is reused.** The same posts have one fingerprint whether or not others are
missing, and two classes. -/
theorem reused_for_missing : ¬ ∀ (platform : FamilyPlatform)
    (request request' : FeatureStatisticRequest) (entry entry' : CalculatedComparison),
    entry ∈ request.calculateFeatureFamily platform →
    entry' ∈ request'.calculateFeatureFamily platform →
    FromOneDatabase request request' entry.candidate entry'.candidate →
    request.fingerprintInput entry.candidate = request'.fingerprintInput entry'.candidate →
    storedStatistic platform request entry = storedStatistic platform request' entry' := by
  intro h
  have hsame := h FamilySample.platform (request complete) (request incomplete) (entry complete)
    (entry incomplete) (entry_mem complete) (entry_mem incomplete) fromOneDatabase.1 rfl
  have hconfidence := congrArg AccountFeatureStatistic.confidence hsame
  rw [confidence_eq.1, confidence_eq.2] at hconfidence
  cases hconfidence

end ContentAutomation

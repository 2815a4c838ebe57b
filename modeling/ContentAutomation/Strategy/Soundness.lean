import ContentAutomation.Strategy.Documents
import ContentAutomation.Strategy.Validation

/-!
# What an accepted strategy is

Each collector finds nothing exactly where its part of the document keeps a rule. A document that
is accepted keeps all of them: it argues from the manifest, no stronger than the statistics it
cites, with the counterexamples and the limitations that the manifest asks for.
-/

namespace ContentAutomation

open Collected List

section Rules

variable {platform : ContractPlatform} {context : StrategyValidationContext}
  {manifest : List StrategyManifestEvidence} {references : List EvidenceReference}
  {path message : String} {code : StrategyValidationCode} {found : Bool}
  {item : StrategyManifestEvidence} {resolved : List StrategyManifestEvidence}

@[simp] theorem addIssue_eq_nil : addIssue found code path message = [] ↔ found = false := by
  cases found <;> simp [addIssue]

/-! ### The rules -/

/-- An entry is cited. -/
def Cites (references : List EvidenceReference) (item : StrategyManifestEvidence) : Prop :=
  ∃ reference ∈ references, reference.evidenceId = item.evidenceId

/-- Every reference is to an entry of the manifest, in a role that the entry allows, and no two are
to the same entry. -/
structure CitesManifest (manifest : List StrategyManifestEvidence)
    (references : List EvidenceReference) : Prop where
  allowed : ∀ reference ∈ references, ∃ item ∈ manifest,
    item.evidenceId = reference.evidenceId ∧ reference.role ∈ item.allowedRoles
  once : (references.map (·.evidenceId)).Nodup

/-- A feature statistic that is cited has at least this class. -/
def Supported (manifest : List StrategyManifestEvidence) (references : List EvidenceReference)
    (classification : StrategyEvidenceClass) : Prop :=
  ∃ item ∈ manifest, Cites references item ∧ item.type = .featureStatistic ∧
    ∃ strongest, item.classification = some strongest ∧
      evidenceClassRank classification ≤ evidenceClassRank strongest

/-- No feature statistic that is cited has a class. -/
def CitesNoClass (manifest : List StrategyManifestEvidence)
    (references : List EvidenceReference) : Prop :=
  ∀ item ∈ manifest, Cites references item → item.type = .featureStatistic →
    item.classification = none

/-- The class of an item is within the statistics that it cites. -/
def WithinEvidence (mode : StrategyMode) (manifest : List StrategyManifestEvidence)
    (classification : StrategyEvidenceClass) (references : List EvidenceReference) : Prop :=
  Supported manifest references classification ∨
    mode = .exploratory ∧ classification = .insufficientEvidence ∧ CitesNoClass manifest references

/-- An entry of one of the types is cited. -/
def CitesType (manifest : List StrategyManifestEvidence) (references : List EvidenceReference)
    (types : List StrategyEvidenceType) : Prop :=
  ∃ item ∈ manifest, Cites references item ∧ item.type ∈ types

/-- Every list of references of the document. -/
def StrategyV1.citations (strategy : StrategyV1) : List (List EvidenceReference) :=
  (strategy.workingPatterns ++ strategy.weakPatterns).map (·.evidence) ++
    strategy.testsNext.map (·.evidence) ++ strategy.pillarPlan.map (·.evidence) ++
    strategy.recommendations.map (·.evidence) ++
    strategy.recommendations.map (·.experiment.evidence) ++ strategy.limitations.map (·.evidence)

/-- The claims of the document. -/
def StrategyV1.claims (strategy : StrategyV1) : List StrategyClaim :=
  strategy.workingPatterns ++ strategy.weakPatterns

/-- The keys of the document. -/
def StrategyV1.keys (strategy : StrategyV1) : List String :=
  strategy.claims.map (·.key) ++ strategy.recommendations.map (·.key)

/-- What the validation promises of a document. -/
structure SoundStrategy (platform : ContractPlatform) (manifest : List StrategyManifestEvidence)
    (strategy : StrategyV1) : Prop where
  cited : ∀ references ∈ strategy.citations, CitesManifest manifest references
  claimsWithin : ∀ claim ∈ strategy.claims,
    WithinEvidence strategy.mode manifest claim.classification claim.evidence
  pillarsWithin : ∀ item ∈ strategy.pillarPlan,
    WithinEvidence strategy.mode manifest item.classification item.evidence
  claimsCite : strategy.mode = .evidenceLed → ∀ claim ∈ strategy.claims,
    CitesType manifest claim.evidence [.featureStatistic] ∧
      CitesType manifest claim.evidence postEvidenceTypes
  counterexamples : ∀ claim ∈ strategy.claims, ∀ item ∈ manifest,
    claim.dimension ∈ item.dimensions → .counterexample ∈ item.allowedRoles →
      ∃ reference ∈ claim.evidence, reference.evidenceId = item.evidenceId ∧
        reference.role = .counterexample
  limitations : ∀ item ∈ manifest, item.requiredInLimitations = true →
    ∃ limitation ∈ strategy.limitations, ∃ reference ∈ limitation.evidence,
      reference.evidenceId = item.evidenceId ∧ reference.role = .limitation
  keysDistinct : strategy.keys.Nodup
  titlesDistinct : (strategy.recommendations.map fun recommendation =>
    normalizeComparableText platform recommendation.title).Nodup
  pillarsDistinct : (strategy.pillarPlan.map (·.pillar)).Nodup
  pillarsConfigured : ∀ item ∈ strategy.pillarPlan, item.pillar ≠ .other ∧ item.pillar ≠ .unknown
  allocated : (strategy.pillarPlan.map (·.allocationPercent)).sum = 100

/-! ### The manifest -/

/-- The manifest is taken where its entries are told apart by identifiers that may be cited. -/
theorem createManifestMap_eq_ok : createManifestMap context = .ok manifest ↔
    manifest = context.manifest ∧ (manifest.map (·.evidenceId)).Nodup ∧
      ∀ item ∈ manifest, isEvidenceId item.evidenceId ∧ item.allowedRoles ≠ [] := by
  have hcheck : ∀ (earlier : List StrategyManifestEvidence) (index : ℕ) item,
      createManifestMap.manifestError earlier index item = [] ↔
        isEvidenceId item.evidenceId = true ∧
          item.evidenceId ∉ earlier.map (·.evidenceId) ∧ item.allowedRoles ≠ [] := by
    intro earlier index item
    unfold createManifestMap.manifestError
    split_ifs <;> simp_all
  have hnil : forEach createManifestMap.manifestError context.manifest = [] ↔
      (context.manifest.map (·.evidenceId)).Nodup ∧
        ∀ item ∈ context.manifest, isEvidenceId item.evidenceId = true ∧ item.allowedRoles ≠ [] := by
    constructor
    · intro hall
      refine ⟨nodup_of_take fun index h =>
        ((hcheck _ _ _).mp (forEach_eq_nil.mp hall index h)).2.1, fun item hitem => ?_⟩
      obtain ⟨index, hpass⟩ := exists_check_of_mem hall hitem
      have hitem := (hcheck _ _ _).mp hpass
      exact ⟨hitem.1, hitem.2.2⟩
    · rintro ⟨hnodup, hall⟩
      rw [forEach_eq_nil]
      intro index h
      have hitem := hall _ (getElem_mem h)
      exact (hcheck _ _ _).mpr ⟨hitem.1, not_mem_take_of_nodup hnodup index h, hitem.2⟩
  unfold createManifestMap
  cases hfirst : (forEach createManifestMap.manifestError context.manifest).head? with
  | none =>
    have hvalid := hnil.mp (List.head?_eq_none_iff.mp hfirst)
    constructor
    · intro heq
      obtain rfl := Except.ok.inj heq
      exact ⟨rfl, hvalid⟩
    · rintro ⟨rfl, -⟩
      rfl
  | some message =>
    refine ⟨(fun heq => by cases heq), ?_⟩
    rintro ⟨rfl, hvalid⟩
    rw [hnil.mpr hvalid] at hfirst
    cases hfirst

private theorem manifestItem_eq_some (hnodup : (manifest.map (·.evidenceId)).Nodup)
    {evidenceId : String} :
    manifestItem manifest evidenceId = some item ↔
      item ∈ manifest ∧ item.evidenceId = evidenceId := by
  unfold manifestItem
  constructor
  · intro hfound
    exact ⟨mem_of_find?_eq_some hfound, by simpa using List.find?_some hfound⟩
  · rintro ⟨hitem, rfl⟩
    cases hfound : manifest.find? fun other => other.evidenceId == item.evidenceId with
    | none => simpa using List.find?_eq_none.mp hfound item hitem
    | some other =>
      have hsame : other.evidenceId = item.evidenceId := by simpa using List.find?_some hfound
      rw [inj_on_of_nodup_map hnodup (mem_of_find?_eq_some hfound) hitem hsame]

/-! ### References -/

/-- A reference passes where it is the first to an entry, in a role that the entry allows. -/
theorem referenceIssues_eq_nil (hnodup : (manifest.map (·.evidenceId)).Nodup)
    {earlier : List EvidenceReference} {index : ℕ} {reference : EvidenceReference} :
    referenceIssues path manifest earlier index reference = [] ↔
      reference.evidenceId ∉ earlier.map (·.evidenceId) ∧ ∃ item ∈ manifest,
        item.evidenceId = reference.evidenceId ∧ reference.role ∈ item.allowedRoles := by
  unfold referenceIssues
  by_cases hseen : reference.evidenceId ∈ earlier.map (·.evidenceId)
  · simp [hseen]
  · rw [if_neg (by simpa using hseen)]
    cases hfound : manifestItem manifest reference.evidenceId with
    | none =>
      refine ⟨(fun h => by cases h), ?_⟩
      rintro ⟨-, item, hitem, hid, -⟩
      rw [(manifestItem_eq_some hnodup).mpr ⟨hitem, hid⟩] at hfound
      cases hfound
    | some item =>
      have hitem := (manifestItem_eq_some hnodup).mp hfound
      rw [addIssue_eq_nil]
      constructor
      · intro hrole
        exact ⟨hseen, item, hitem.1, hitem.2, by simpa using hrole⟩
      · rintro ⟨-, other, hother, hid, hrole⟩
        have hsame := (manifestItem_eq_some hnodup).mpr ⟨hother, hid⟩
        rw [hfound, Option.some.injEq] at hsame
        simpa [hsame] using hrole

/-- References pass where there are some, each to an entry of its own that allows its role. -/
theorem validateEvidenceReferences_eq_nil (hnodup : (manifest.map (·.evidenceId)).Nodup) :
    (validateEvidenceReferences references path manifest).1 = [] ↔
      references ≠ [] ∧ CitesManifest manifest references := by
  unfold validateEvidenceReferences
  by_cases hempty : references = []
  · simp [hempty]
  · rw [if_neg (by simpa using hempty)]
    constructor
    · intro hall
      refine ⟨hempty, fun reference hreference => ?_, nodup_of_take fun index h =>
        ((referenceIssues_eq_nil hnodup).mp (forEach_eq_nil.mp hall index h)).1⟩
      obtain ⟨index, hpass⟩ := exists_check_of_mem hall hreference
      exact ((referenceIssues_eq_nil hnodup).mp hpass).2
    · rintro ⟨-, hcites⟩
      rw [forEach_eq_nil]
      intro index h
      exact (referenceIssues_eq_nil hnodup).mpr
        ⟨not_mem_take_of_nodup hcites.once index h, hcites.allowed _ (getElem_mem h)⟩

/-- References that pass resolve to the entries that they cite. -/
theorem mem_resolved (hnodup : (manifest.map (·.evidenceId)).Nodup)
    (hcites : CitesManifest manifest references) :
    item ∈ (validateEvidenceReferences references path manifest).2 ↔
      item ∈ manifest ∧ Cites references item := by
  unfold validateEvidenceReferences
  by_cases hempty : references = []
  · simp [hempty, Cites]
  · rw [if_neg (by simpa using hempty)]
    have hfirst : ∀ entry ∈ references.zipIdx,
        referenceItem manifest (references.take entry.2) entry.2 entry.1 =
          (manifestItem manifest entry.1.evidenceId).toList := by
      rintro ⟨reference, index⟩ hentry
      obtain ⟨h, rfl⟩ :=
        List.getElem?_eq_some_iff.mp (mk_mem_zipIdx_iff_getElem?.mp hentry)
      exact if_neg (by simpa using not_mem_take_of_nodup hcites.once index h)
    unfold forEach Cites
    rw [mem_flatMap]
    constructor
    · rintro ⟨⟨reference, index⟩, hentry, hitem⟩
      rw [hfirst _ hentry, Option.mem_toList] at hitem
      have hfound := (manifestItem_eq_some hnodup).mp hitem
      exact ⟨hfound.1, reference, fst_mem_of_mem_zipIdx hentry, hfound.2.symm⟩
    · rintro ⟨hitem, reference, hreference, hid⟩
      obtain ⟨index, h, rfl⟩ := mem_iff_getElem.mp hreference
      have hentry : (references[index], index) ∈ references.zipIdx :=
        mk_mem_zipIdx_iff_getElem?.mpr (List.getElem?_eq_getElem h)
      refine ⟨_, hentry, ?_⟩
      rw [hfirst _ hentry, Option.mem_toList]
      exact (manifestItem_eq_some hnodup).mpr ⟨hitem, hid.symm⟩

/-! ### Classes of evidence -/

theorem mem_statisticClasses {strongest : StrategyEvidenceClass} :
    strongest ∈ statisticClasses resolved ↔
      ∃ item ∈ resolved, item.type = .featureStatistic ∧ item.classification = some strongest := by
  simp [statisticClasses, and_assoc]

/-- A class passes where it is empirical, and within the classes of the statistics. -/
theorem validateEvidenceCeiling_eq_nil {classification : StrategyEvidenceClass}
    {requirePostEvidence requireStatistic : Bool} :
    validateEvidenceCeiling classification resolved path requirePostEvidence requireStatistic = [] ↔
      classification ∈ empiricalClaimClasses ∧
        ((statisticClasses resolved = [] ∧ requireStatistic = false ∧
            classification = .insufficientEvidence) ∨
          (∃ strongest ∈ statisticClasses resolved,
            evidenceClassRank classification ≤ evidenceClassRank strongest) ∧
          (requirePostEvidence → ∃ item ∈ resolved, item.type ∈ postEvidenceTypes)) := by
  unfold validateEvidenceCeiling
  by_cases hempirical : classification ∈ empiricalClaimClasses
  · rw [if_neg (by simpa using hempirical)]
    cases hmax : ((statisticClasses resolved).map evidenceClassRank).max? with
    | none =>
      have hnone : statisticClasses resolved = [] := by simpa using hmax
      simp [hnone, hempirical]
    | some strongestRank =>
      obtain ⟨hmem, hle⟩ := List.max?_eq_some_iff.mp hmax
      have hne : statisticClasses resolved ≠ [] := by
        rintro hnil
        rw [hnil] at hmax
        cases hmax
      have hceiling : evidenceClassRank classification ≤ strongestRank ↔
          ∃ strongest ∈ statisticClasses resolved,
            evidenceClassRank classification ≤ evidenceClassRank strongest := by
        constructor
        · intro h
          obtain ⟨strongest, hstrongest, rfl⟩ := mem_map.mp hmem
          exact ⟨strongest, hstrongest, h⟩
        · rintro ⟨strongest, hstrongest, h⟩
          exact h.trans (hle _ (mem_map_of_mem hstrongest))
      simp only [append_eq_nil_iff, addIssue_eq_nil, decide_eq_false_iff_not, not_lt,
        hceiling, hne, hempirical, false_and, false_or, true_and]
      cases requirePostEvidence <;> simp
  · rw [if_pos (by simpa using hempirical)]
    simp [hempirical]

section Ceiling

variable {mode : StrategyMode} {classification : StrategyEvidenceClass}
  {requirePostEvidence : Bool}

private theorem within_of_ceiling (hnodup : (manifest.map (·.evidenceId)).Nodup)
    (hcites : CitesManifest manifest references) {path' : String}
    (h : validateEvidenceCeiling classification
      (validateEvidenceReferences references path manifest).2 path' requirePostEvidence
      (mode == .evidenceLed) = []) : WithinEvidence mode manifest classification references := by
  obtain ⟨-, ⟨hnone, hmode, hclass⟩ | ⟨⟨strongest, hstrongest, hle⟩, -⟩⟩ :=
    validateEvidenceCeiling_eq_nil.mp h
  · refine .inr ⟨by cases mode <;> simp_all, hclass, fun item hitem hcited htype => ?_⟩
    cases hitemClass : item.classification with
    | none => rfl
    | some strongest =>
      have hresolved : item ∈ (validateEvidenceReferences references path manifest).2 :=
        (mem_resolved hnodup hcites).mpr ⟨hitem, hcited⟩
      have hmem := mem_statisticClasses.mpr ⟨item, hresolved, htype, hitemClass⟩
      rw [hnone] at hmem
      cases hmem
  · obtain ⟨item, hitem, htype, hitemClass⟩ := mem_statisticClasses.mp hstrongest
    have hcited := (mem_resolved hnodup hcites).mp hitem
    exact .inl ⟨item, hcited.1, hcited.2, htype, strongest, hitemClass, hle⟩

private theorem citesTypes_of_ceiling (hnodup : (manifest.map (·.evidenceId)).Nodup)
    (hcites : CitesManifest manifest references) {path' : String}
    (h : validateEvidenceCeiling classification
      (validateEvidenceReferences references path manifest).2 path' true true = []) :
    CitesType manifest references [.featureStatistic] ∧
      CitesType manifest references postEvidenceTypes := by
  obtain ⟨-, ⟨-, hmode, -⟩ | ⟨⟨strongest, hstrongest, -⟩, hpost⟩⟩ :=
    validateEvidenceCeiling_eq_nil.mp h
  · cases hmode
  · obtain ⟨item, hitem, htype, -⟩ := mem_statisticClasses.mp hstrongest
    obtain ⟨post, hresolved, hpostType⟩ := hpost rfl
    have hcited := (mem_resolved hnodup hcites).mp hitem
    have hcitedPost := (mem_resolved hnodup hcites).mp hresolved
    exact ⟨⟨item, hcited.1, hcited.2, by simp [htype]⟩, post, hcitedPost.1, hcitedPost.2, hpostType⟩

end Ceiling

/-! ### The collectors -/

/-- Counterevidence passes where each counterexample of the dimension is cited as one. -/
theorem validateCounterevidence_eq_nil {claim : StrategyClaim} :
    validateCounterevidence claim path manifest = [] ↔ ∀ item ∈ manifest,
      claim.dimension ∈ item.dimensions → .counterexample ∈ item.allowedRoles →
        ∃ reference ∈ claim.evidence, reference.evidenceId = item.evidenceId ∧
          reference.role = .counterexample := by
  unfold validateCounterevidence
  simp only [flatMap_eq_nil_iff, mem_filter, Bool.and_eq_true, contains_iff_mem,
    addIssue_eq_nil, Bool.not_eq_false', any_eq_true, beq_iff_eq]
  exact ⟨fun h item hitem hdimension hrole => h item ⟨hitem, hdimension, hrole⟩,
    fun h item hitem => h item hitem.1 hitem.2.1 hitem.2.2⟩

/-- What passes of a claim. -/
structure SoundClaim (mode : StrategyMode) (manifest : List StrategyManifestEvidence)
    (claim : StrategyClaim) : Prop where
  cited : CitesManifest manifest claim.evidence
  within : WithinEvidence mode manifest claim.classification claim.evidence
  cites : mode = .evidenceLed → CitesType manifest claim.evidence [.featureStatistic] ∧
    CitesType manifest claim.evidence postEvidenceTypes
  counterexamples : ∀ item ∈ manifest, claim.dimension ∈ item.dimensions →
    .counterexample ∈ item.allowedRoles → ∃ reference ∈ claim.evidence,
      reference.evidenceId = item.evidenceId ∧ reference.role = .counterexample

theorem soundClaim_of_validateClaims (hnodup : (manifest.map (·.evidenceId)).Nodup)
    {claims : List StrategyClaim} {mode : StrategyMode}
    (h : validateClaims claims path mode manifest = []) {claim : StrategyClaim}
    (hclaim : claim ∈ claims) : SoundClaim mode manifest claim := by
  obtain ⟨index, hpass⟩ := exists_check_of_mem h hclaim
  simp only [claimIssues, append_eq_nil_iff] at hpass
  obtain ⟨⟨⟨hreferences, hceiling⟩, -⟩, hcounter⟩ := hpass
  have hcites := ((validateEvidenceReferences_eq_nil hnodup).mp hreferences).2
  refine ⟨hcites, within_of_ceiling hnodup hcites hceiling, fun hmode => ?_,
    validateCounterevidence_eq_nil.mp hcounter⟩
  subst hmode
  exact citesTypes_of_ceiling hnodup hcites hceiling

private theorem cites_of_validateExperiment (hnodup : (manifest.map (·.evidenceId)).Nodup)
    {experiment : StrategyExperiment} (h : validateExperiment platform experiment path manifest = []) :
    CitesManifest manifest experiment.evidence := by
  simp only [validateExperiment, append_eq_nil_iff] at h
  exact ((validateEvidenceReferences_eq_nil hnodup).mp h.1).2

/-- What passes of a pillar plan. -/
structure SoundPlan (mode : StrategyMode) (manifest : List StrategyManifestEvidence)
    (plan : List PillarAllocation) : Prop where
  cited : ∀ item ∈ plan, CitesManifest manifest item.evidence
  within : ∀ item ∈ plan, WithinEvidence mode manifest item.classification item.evidence
  distinct : (plan.map (·.pillar)).Nodup
  configured : ∀ item ∈ plan, item.pillar ≠ .other ∧ item.pillar ≠ .unknown
  allocated : (plan.map (·.allocationPercent)).sum = 100

variable {strategy : StrategyV1}

private theorem soundPlan_of_validatePillarPlan (hnodup : (manifest.map (·.evidenceId)).Nodup)
    (h : validatePillarPlan strategy manifest = []) :
    SoundPlan strategy.mode manifest strategy.pillarPlan := by
  simp only [validatePillarPlan, append_eq_nil_iff, addIssue_eq_nil, bne_eq_false_iff_eq] at h
  obtain ⟨htotal, hall⟩ := h
  have hitem : ∀ item ∈ strategy.pillarPlan, CitesManifest manifest item.evidence ∧
      WithinEvidence strategy.mode manifest item.classification item.evidence ∧
      item.pillar ≠ .other ∧ item.pillar ≠ .unknown := by
    intro item hitem
    obtain ⟨index, hpass⟩ := exists_check_of_mem hall hitem
    simp only [allocationIssues, append_eq_nil_iff, addIssue_eq_nil, Bool.or_eq_false_iff,
      beq_eq_false_iff_ne] at hpass
    obtain ⟨⟨⟨⟨-, hconfigured⟩, hreferences⟩, hceiling⟩, -⟩ := hpass
    have hcites := ((validateEvidenceReferences_eq_nil hnodup).mp hreferences).2
    exact ⟨hcites, within_of_ceiling hnodup hcites hceiling, hconfigured⟩
  refine ⟨fun item h => (hitem item h).1, fun item h => (hitem item h).2.1,
    nodup_of_take fun index h => ?_, fun item h => (hitem item h).2.2, htotal⟩
  have hpass := forEach_eq_nil.mp hall index h
  simp only [allocationIssues, append_eq_nil_iff, addIssue_eq_nil] at hpass
  simpa using hpass.1.1.1.1

private theorem cites_of_validateRecommendations (hnodup : (manifest.map (·.evidenceId)).Nodup)
    (h : validateRecommendations platform strategy context manifest = [])
    {recommendation : StrategyRecommendation} (hmem : recommendation ∈ strategy.recommendations) :
    CitesManifest manifest recommendation.evidence ∧
      CitesManifest manifest recommendation.experiment.evidence := by
  obtain ⟨index, hpass⟩ := exists_check_of_mem h hmem
  simp only [recommendationIssues, append_eq_nil_iff] at hpass
  obtain ⟨⟨⟨⟨⟨⟨⟨⟨⟨⟨hreferences, -⟩, -⟩, -⟩, -⟩, -⟩, -⟩, -⟩, -⟩, -⟩, hexperiment⟩ := hpass
  exact ⟨((validateEvidenceReferences_eq_nil hnodup).mp hreferences).2,
    cites_of_validateExperiment hnodup hexperiment⟩

private theorem titles_of_validateRecommendations
    (h : validateRecommendations platform strategy context manifest = []) :
    (strategy.recommendations.map fun recommendation =>
      normalizeComparableText platform recommendation.title).Nodup := by
  refine nodup_of_take fun index hindex => ?_
  have hpass := forEach_eq_nil.mp h index hindex
  simp only [recommendationIssues, append_eq_nil_iff, addIssue_eq_nil] at hpass
  obtain ⟨⟨⟨⟨-, htitle⟩, -⟩, -⟩, -⟩ := hpass
  simpa using htitle

private theorem of_validateRequiredLimitations (hnodup : (manifest.map (·.evidenceId)).Nodup)
    (h : validateRequiredLimitations strategy manifest = []) :
    (∀ item ∈ manifest, item.requiredInLimitations →
      item.evidenceId ∈ limitationReferences strategy) ∧
    ∀ limitation ∈ strategy.limitations, CitesManifest manifest limitation.evidence := by
  simp only [validateRequiredLimitations, append_eq_nil_iff, flatMap_eq_nil_iff,
    addIssue_eq_nil] at h
  obtain ⟨hrequired, hall⟩ := h
  refine ⟨fun item hitem hflag => ?_, fun limitation hlimitation => ?_⟩
  · simpa [hflag] using hrequired item hitem
  · obtain ⟨index, hpass⟩ := exists_check_of_mem hall hlimitation
    unfold limitationIssues at hpass
    split_ifs at hpass with hempty
    · rw [List.isEmpty_iff.mp hempty]
      exact ⟨fun _ hmem => absurd hmem not_mem_nil, nodup_nil⟩
    · exact ((validateEvidenceReferences_eq_nil hnodup).mp hpass).2

private theorem mem_limitationReferences {evidenceId : String} :
    evidenceId ∈ limitationReferences strategy ↔ ∃ limitation ∈ strategy.limitations,
      ∃ reference ∈ limitation.evidence,
        reference.evidenceId = evidenceId ∧ reference.role = .limitation := by
  simp only [limitationReferences, mem_flatMap, mem_map, mem_filter, beq_iff_eq]
  constructor
  · rintro ⟨limitation, hlimitation, reference, ⟨hreference, hrole⟩, hid⟩
    exact ⟨limitation, hlimitation, reference, hreference, hid, hrole⟩
  · rintro ⟨limitation, hlimitation, reference, hreference, hid, hrole⟩
    exact ⟨limitation, hlimitation, reference, ⟨hreference, hrole⟩, hid⟩

private theorem placedKeys_fst (strategy : StrategyV1) :
    (placedKeys strategy).map Prod.fst = strategy.keys := by
  have hplaced : ∀ (groupName : String) (keys : List String),
      (placedKeys.placed groupName keys).map Prod.fst = keys := by
    intro groupName keys
    unfold placedKeys.placed
    rw [map_map]
    exact zipIdx_map_fst 0 keys
  simp only [placedKeys, map_append, hplaced, StrategyV1.keys, StrategyV1.claims]

private theorem validateUniqueKeys_eq_nil :
    validateUniqueKeys strategy = [] ↔ strategy.keys.Nodup := by
  unfold validateUniqueKeys
  rw [← placedKeys_fst, forEach_eq_nil]
  simp only [validateUniqueKeys.keyIssues, addIssue_eq_nil]
  constructor
  · intro hall
    exact nodup_of_take fun index h => by simpa using hall index h
  · intro hnodup index h
    simpa using not_mem_take_of_nodup hnodup index h

/-! ### The whole document -/

/-- A document is accepted where it has the shape of a strategy, the manifest is taken and no
collector finds an issue. -/
theorem validateStrategyV1_eq_valid {value : Json} {data : StrategyV1} :
    validateStrategyV1 platform value context = .ok (.valid data) ↔
      strategyV1Schema value = some data ∧
        createManifestMap context = .ok context.manifest ∧
        strategyIssues platform context context.manifest data = [] := by
  unfold validateStrategyV1
  cases hparsed : strategyV1Schema value with
  | none => simp
  | some parsed =>
    cases hmanifest : createManifestMap context with
    | error message =>
      refine ⟨(fun heq => by cases heq), ?_⟩
      rintro ⟨-, heq, -⟩
      cases heq
    | ok manifest =>
      obtain ⟨rfl, -⟩ := createManifestMap_eq_ok.mp hmanifest
      simp only [bind, Except.bind, pure, Except.pure, Except.ok.injEq, Option.some.injEq, true_and]
      split_ifs with hissues
      · rw [List.isEmpty_iff] at hissues
        constructor
        · intro heq
          obtain rfl := StrategyValidationResult.valid.inj heq
          exact ⟨rfl, hissues⟩
        · rintro ⟨rfl, -⟩
          rfl
      · refine ⟨(fun heq => by cases heq), ?_⟩
        rintro ⟨rfl, heq⟩
        exact absurd (List.isEmpty_iff.mpr heq) hissues

/-! ### A document with one proposal -/

variable (platform : ContractPlatform)

private theorem normalizeComparableText_letters {text : Utf16}
    (h : text.all (fun unit => 0x61 ≤ unit ∧ unit ≤ 0x7A)) :
    normalizeComparableText platform text =
      Utf16.collapseSpaces (Utf16.trim (replaceOthersFrom false text)) := by
  rw [normalizeComparableText, platform.fold_letters text (all_iff_forall_prop.mp h)]

theorem references_pass (hnodup : (manifest.map (·.evidenceId)).Nodup) (hsome : references ≠ [])
    (hcites : CitesManifest manifest references) (path : String) :
    (validateEvidenceReferences references path manifest).1 = [] :=
  (validateEvidenceReferences_eq_nil hnodup).mpr ⟨hsome, hcites⟩

private theorem Proposal.experiment_passes (hnodup : (manifest.map (·.evidenceId)).Nodup)
    (hsome : references ≠ []) (hcites : CitesManifest manifest references) (path : String) :
    validateExperiment platform (Proposal.experiment references) path manifest = [] := by
  have hchange : normalizeComparableText platform (Utf16.ofString "hook") = Utf16.ofString "hook" := by
    rw [normalizeComparableText_letters platform (by decide)]
    decide
  have hstable :
      normalizeComparableText platform (Utf16.ofString "topic") = Utf16.ofString "topic" := by
    rw [normalizeComparableText_letters platform (by decide)]
    decide
  simp only [validateExperiment, append_eq_nil_iff, addIssue_eq_nil]
  refine ⟨references_pass hnodup hsome hcites _, ?_⟩
  simp only [Proposal.experiment, any_cons, any_nil, Bool.or_false, hchange, hstable]
  decide

private theorem Proposal.recommendation_passes (hnodup : (manifest.map (·.evidenceId)).Nodup)
    (hsome : references ≠ []) (hcites : CitesManifest manifest references) (recent : List String) :
    forEach (recommendationIssues platform recent manifest)
      [Proposal.recommendation references] = [] := by
  have hhook : ∀ hook ∈ [Utf16.ofString "one", Utf16.ofString "two", Utf16.ofString "three"],
      normalizeComparableText platform hook = hook := by
    intro hook hmem
    have hletters : hook.all (fun unit => 0x61 ≤ unit ∧ unit ≤ 0x7A) = true := by
      revert hook
      decide
    rw [normalizeComparableText_letters platform hletters]
    clear hletters
    revert hook
    decide
  have hhooks : ∀ path, forEach (hookIssues platform path)
      (Proposal.recommendation references).hookOptions = [] := by
    intro path
    rw [forEach_eq_nil]
    intro index h
    have hnodup : ((Proposal.recommendation references).hookOptions.map
        (normalizeComparableText platform)).Nodup := by
      have hsame := map_congr_left hhook
      rw [map_id'] at hsame
      rw [Proposal.recommendation, hsame]
      decide
    simpa [hookIssues] using not_mem_take_of_nodup hnodup index h
  rw [forEach_eq_nil]
  intro index h
  obtain rfl : index = 0 := by simpa using h
  simp only [recommendationIssues, append_eq_nil_iff, addIssue_eq_nil, getElem_cons_zero,
    hhooks, and_true]
  refine ⟨?_, Proposal.experiment_passes platform hnodup hsome hcites _⟩
  simp [Proposal.recommendation, references_pass hnodup hsome hcites]

namespace Proposal

variable {mode : StrategyMode} {claims : List StrategyClaim}
  {classification : StrategyEvidenceClass} {evidence limits : List EvidenceReference}

/-- The claims, the evidence and the limitations of a document with one proposal keep the rules. -/
structure Passes (manifest : List StrategyManifestEvidence) (mode : StrategyMode)
    (claims : List StrategyClaim) (classification : StrategyEvidenceClass)
    (evidence limits : List EvidenceReference) : Prop where
  claimsPass : validateClaims claims "workingPatterns" mode manifest = []
  some : evidence ≠ []
  cites : CitesManifest manifest evidence
  ceiling : ∀ path path', validateEvidenceCeiling classification
    (validateEvidenceReferences evidence path manifest).2 path' false (mode == .evidenceLed) = []
  limited : ∀ item ∈ manifest, item.requiredInLimitations = true →
    ∃ reference ∈ limits, reference.evidenceId = item.evidenceId ∧ reference.role = .limitation
  limitsCite : CitesManifest manifest limits
  keys : (claims.map (·.key) ++ ["proposal"]).Nodup
  exploratory : mode = .exploratory → claims = [] ∧ classification = .insufficientEvidence

/-- No collector finds an issue in a document that keeps the rules. -/
theorem strategyIssues_eq_nil (hmanifest : createManifestMap context = .ok context.manifest) (hmode : mode = context.mode)
    (h : Passes context.manifest mode claims classification evidence limits) :
    strategyIssues platform context context.manifest
      (document mode claims classification evidence limits) = [] := by
  have hnodup := (createManifestMap_eq_ok.mp hmanifest).2.1
  have hsome : context.manifest ≠ [] := by
    intro hempty
    obtain ⟨reference, hreference⟩ := exists_mem_of_ne_nil _ h.some
    obtain ⟨item, hitem, -⟩ := h.cites.allowed reference hreference
    rw [hempty] at hitem
    cases hitem
  have hplan : validatePillarPlan (document mode claims classification evidence limits)
      context.manifest = [] := by
    simp only [validatePillarPlan, append_eq_nil_iff, addIssue_eq_nil]
    refine ⟨by simp [document, allocation], ?_⟩
    rw [forEach_eq_nil]
    intro index hindex
    obtain rfl : index = 0 := by simpa [document] using hindex
    have hceiling := h.ceiling
    simp only [allocationIssues, append_eq_nil_iff, addIssue_eq_nil]
    simp [document, allocation, references_pass hnodup h.some h.cites, hceiling]
  have hlimits : validateRequiredLimitations (document mode claims classification evidence limits)
      context.manifest = [] := by
    simp only [validateRequiredLimitations, append_eq_nil_iff, flatMap_eq_nil_iff,
      addIssue_eq_nil]
    constructor
    · intro item hitem
      by_cases hflag : item.requiredInLimitations = true
      · obtain ⟨reference, hreference, hid, hrole⟩ := h.limited item hitem hflag
        have hmem : item.evidenceId ∈
            limitationReferences (document mode claims classification evidence limits) :=
          mem_limitationReferences.mpr
            ⟨_, mem_singleton_self _, reference, hreference, hid, hrole⟩
        simpa using fun _ => hmem
      · simp [hflag]
    · rw [forEach_eq_nil]
      intro index hindex
      obtain rfl : index = 0 := by simpa [document] using hindex
      unfold limitationIssues
      split_ifs with hempty
      · rfl
      · have hlimits : limits ≠ [] := fun hnil => hempty (List.isEmpty_iff.mpr hnil)
        exact references_pass hnodup hlimits h.limitsCite _
  have hexploratory : validateExploratoryRules
      (document mode claims classification evidence limits) = [] := by
    cases hcase : mode with
    | evidenceLed => rfl
    | exploratory =>
      obtain ⟨rfl, rfl⟩ := h.exploratory hcase
      have hleads : leadsWithInsufficient (Utf16.ofString "insufficient") = true := by
        decide
      simp [validateExploratoryRules, document, allocation, hleads]
  have htests : forEach (fun _ index item => validateExperiment platform item
      (itemPath "testsNext" index) context.manifest) [experiment evidence] = [] := by
    rw [forEach_eq_nil]
    intro index hindex
    obtain rfl : index = 0 := by simpa using hindex
    exact experiment_passes platform hnodup h.some h.cites _
  simp only [strategyIssues, append_eq_nil_iff, addIssue_eq_nil]
  refine ⟨⟨⟨⟨⟨⟨⟨⟨⟨?_, ?_⟩, h.claimsPass⟩, rfl⟩, htests⟩, hplan⟩, ?_⟩, hlimits⟩, ?_⟩, hexploratory⟩
  · simp [document, hmode]
  · simpa using hsome
  · exact recommendation_passes platform hnodup h.some h.cites _
  · exact validateUniqueKeys_eq_nil.mpr (by simpa [document, StrategyV1.keys, StrategyV1.claims,
      recommendation] using h.keys)

/-- A document that keeps the rules within its bounds is accepted as it is written. -/
theorem accepted (hmanifest : createManifestMap context = .ok context.manifest) (hmode : mode = context.mode)
    (h : Passes context.manifest mode claims classification evidence limits)
    (hfits : (document mode claims classification evidence limits).Fits) :
    validateStrategyV1 platform (document mode claims classification evidence limits).write context =
      .ok (.valid (document mode claims classification evidence limits)) :=
  validateStrategyV1_eq_valid.mpr
    ⟨strategyV1Schema_eq hfits, hmanifest, strategyIssues_eq_nil platform hmanifest hmode h⟩

end Proposal

/-! ### Acceptance is sound -/

/-- A document that is accepted is sound. -/
theorem validateStrategyV1_sound (platform : ContractPlatform)
    (context : StrategyValidationContext) (value : Json) (data : StrategyV1)
    (haccepted : validateStrategyV1 platform value context = .ok (.valid data)) :
    SoundStrategy platform context.manifest data := by
  obtain ⟨-, hmanifest, hissues⟩ := validateStrategyV1_eq_valid.mp haccepted
  have hnodup := (createManifestMap_eq_ok.mp hmanifest).2.1
  simp only [strategyIssues, append_eq_nil_iff] at hissues
  obtain ⟨⟨⟨⟨⟨⟨⟨⟨-, hworking⟩, hweak⟩, htests⟩, hplan⟩, hrecommendations⟩, hlimitations⟩, hkeys⟩, -⟩ :=
    hissues
  have hclaims : ∀ claim ∈ data.claims, SoundClaim data.mode context.manifest claim := by
    intro claim hclaim
    rcases mem_append.mp hclaim with hmem | hmem
    · exact soundClaim_of_validateClaims hnodup hworking hmem
    · exact soundClaim_of_validateClaims hnodup hweak hmem
  have hplan := soundPlan_of_validatePillarPlan hnodup hplan
  have hrequired := of_validateRequiredLimitations hnodup hlimitations
  have hcitations : ∀ references ∈ data.citations, CitesManifest context.manifest references := by
    intro references hmem
    simp only [StrategyV1.citations, mem_append, or_assoc] at hmem
    rcases hmem with hmem | hmem | hmem | hmem | hmem | hmem <;>
      obtain ⟨item, hitem, rfl⟩ := mem_map.mp hmem
    · exact (hclaims item hitem).cited
    · obtain ⟨index, hpass⟩ := exists_check_of_mem htests hitem
      exact cites_of_validateExperiment hnodup hpass
    · exact hplan.cited item hitem
    · exact (cites_of_validateRecommendations hnodup hrecommendations hitem).1
    · exact (cites_of_validateRecommendations hnodup hrecommendations hitem).2
    · exact hrequired.2 item hitem
  exact {
    cited := hcitations
    claimsWithin := fun claim hclaim => (hclaims claim hclaim).within
    pillarsWithin := hplan.within
    claimsCite := fun hmode claim hclaim => (hclaims claim hclaim).cites hmode
    counterexamples := fun claim hclaim => (hclaims claim hclaim).counterexamples
    limitations := fun item hitem hflag => mem_limitationReferences.mp (hrequired.1 item hitem hflag)
    keysDistinct := validateUniqueKeys_eq_nil.mp hkeys
    titlesDistinct := titles_of_validateRecommendations hrecommendations
    pillarsDistinct := hplan.distinct
    pillarsConfigured := hplan.configured
    allocated := hplan.allocated }

end Rules

/-! ### A statistic without a class -/

namespace SoundnessSample

/-- Folding for texts of the letters `a` to `z`. -/
def platform : ContractPlatform where
  fold := id
  fold_letters _ _ := rfl
  schemaIssuePaths _ := []

def unclassed : StrategyManifestEvidence where
  allowedNumericClaims := []
  allowedRoles := [.supporting]
  classification := none
  dimensions := []
  evidenceId := "statistic"
  requiredInLimitations := false
  sampleSize := none
  type := .featureStatistic

def context : StrategyValidationContext := ⟨.exploratory, [unclassed], []⟩

def reference : EvidenceReference := ⟨"statistic", .supporting, Utf16.ofString "explanation"⟩

def document : StrategyV1 :=
  Proposal.document .exploratory [] .insufficientEvidence [reference] []

private theorem document_accepted :
    validateStrategyV1 platform document.write context = .ok (.valid document) := by
  refine Proposal.accepted platform ?_ rfl ?_ (Proposal.document_fits _ _ ?_ ?_ ?_)
  · exact createManifestMap_eq_ok.mpr ⟨rfl, by decide, by decide⟩
  · have hcites : CitesManifest context.manifest [reference] :=
      ⟨by decide, by decide⟩
    exact {
      claimsPass := rfl
      some := cons_ne_nil _ _
      cites := hcites
      ceiling := fun _ _ => by
        have hresolved : forEach (referenceItem context.manifest) [reference] = [unclassed] := by
          decide
        rw [validateEvidenceCeiling_eq_nil, validateEvidenceReferences, if_neg (by decide),
          hresolved]
        exact ⟨by decide, .inl ⟨rfl, rfl, rfl⟩⟩
      limited := by decide
      limitsCite := ⟨by decide, by decide⟩
      keys := by decide
      exploratory := fun _ => ⟨rfl, rfl⟩ }
  · exact ⟨Nat.zero_le _, fun _ hclaim => absurd hclaim not_mem_nil⟩
  · decide
  · decide

/-- A document that is accepted, and what is sound about it. -/
theorem sound_document : SoundStrategy platform context.manifest document :=
  validateStrategyV1_sound platform context document.write document document_accepted

/-- The document's pillar cites a statistic, and has a class that no statistic cited has. -/
theorem unclassed_statistic_is_cited :
    validateStrategyV1 platform document.write context = .ok (.valid document) ∧
      ∃ item ∈ document.pillarPlan,
        ¬ Supported context.manifest item.evidence item.classification ∧
        CitesType context.manifest item.evidence [.featureStatistic] := by
  refine ⟨document_accepted, _, mem_singleton_self _, ?_, ?_⟩
  · rintro ⟨item, hitem, -, -, strongest, hclass, -⟩
    obtain rfl := mem_singleton.mp hitem
    cases hclass
  · exact ⟨unclassed, mem_singleton_self _, ⟨reference, mem_singleton_self _, rfl⟩,
      mem_singleton_self _⟩

end SoundnessSample

end ContentAutomation

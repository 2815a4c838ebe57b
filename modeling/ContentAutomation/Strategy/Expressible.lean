import ContentAutomation.Strategy.SelectionClaims
import ContentAutomation.Strategy.Soundness

/-!
# Patterns that can be published

A statistic of a manifest that argues from evidence is published by a working pattern that cites it
as supporting. The validation also asks that pattern for a post, and the selection that made the
manifest leaves out each post that a selected statistic speaks for: the pattern can be published
exactly where a post remains beside the statistics.
-/

namespace ContentAutomation

open Relational StrategyEvidenceRequest List

/-! ### The roles of what is read -/

/-- What the records of evidence may be cited as. -/
structure RolesOf (candidate : StrategyEvidenceCandidate) : Prop where
  some : candidate.allowedRoles ≠ []
  supporting : candidate.evidenceType = .featureStatistic → candidate.category ≠ .counterexample →
    candidate.allowedRoles = [.supporting, .context]
  counterexample : .counterexample ∈ candidate.allowedRoles → candidate.category = .counterexample
  post : candidate.evidenceType = .post → candidate.allowedRoles = [.context]
  types : candidate.evidenceType ∈ postEvidenceTypes → candidate.evidenceType = .post
  limitation : candidate.requiredInLimitations = true →
    .limitation ∈ candidate.allowedRoles ∧ candidate.category = .dataQuality

private theorem rolesOf_statisticCandidate (statistic : PublishedStatistic) :
    RolesOf (statisticCandidate statistic) where
  some := by
    unfold statisticCandidate
    dsimp only
    split_ifs <;> simp
  supporting _ := by
    unfold statisticCandidate
    dsimp only
    split_ifs <;> simp
  counterexample := by
    unfold statisticCandidate
    dsimp only
    split_ifs <;> simp
  post h := by cases h
  types h := absurd h (by simp [statisticCandidate, postEvidenceTypes])
  limitation h := by cases h

variable {db : StrategyEvidenceTables} {context : WorkspaceContext}
  {request : StrategyEvidenceRequest} {loaded : StrategyEvidenceCandidates}
  {platform : EvidencePlatform}

private theorem rolesOf_loaded {run : AccountAnalyticsRun}
    {candidate : StrategyEvidenceCandidate}
    (hrun : request.activeRun db context = some run)
    (hloaded : loadStrategyEvidenceCandidates db context request = some loaded)
    (hcandidate : candidate ∈ loaded.candidates) : RolesOf candidate := by
  obtain ⟨analysed, comparable, heq⟩ := candidates_of_loaded hrun hloaded
  rw [heq] at hcandidate
  simp only [mem_append, mem_map, mem_singleton] at hcandidate
  rcases hcandidate with ((⟨statistic, -, rfl⟩ | hpost) | ⟨entry, -, rfl⟩) | rfl
  · exact rolesOf_statisticCandidate statistic
  · obtain ⟨entry, -, hpost⟩ := mem_filterMap.mp hpost
    obtain ⟨-, htype, -, -, -, hroles, hrequired⟩ := of_postCandidate hpost
    constructor <;> simp [htype, hroles, hrequired]
  · constructor <;> simp [generationCandidate, postEvidenceTypes]
  · constructor <;> simp [coverageCandidate, postEvidenceTypes]

/-! ### The document for a statistic -/

namespace Expressible

open Utf16

/-- A reference to an entry. -/
def cite (role : StrategyEvidenceRole) (entry : StrategyEvidenceEntry) : EvidenceReference :=
  ⟨entry.evidenceKey, role, ofString "reason"⟩

/-- The counterexamples of the dimension that a claim about a statistic has. -/
def counterexamples (entries : List StrategyEvidenceEntry) (dimension : StrategyClaimDimension) :
    List StrategyEvidenceEntry :=
  entries.filter fun entry =>
    decide (dimension ∈ entry.dimensions) && decide (.counterexample ∈ entry.allowedRoles)

/-- The limitations that are required. -/
def required (entries : List StrategyEvidenceEntry) : List StrategyEvidenceEntry :=
  entries.filter fun entry => entry.requiredInLimitations

/-- The working pattern of a statistic, beside a post. -/
def claim (entries : List StrategyEvidenceEntry) (statistic post : StrategyEvidenceEntry)
    (classification : StrategyEvidenceClass) : StrategyClaim where
  key := "pattern"
  dimension := statistic.dimensions.headD .other
  statement := ofString "statement"
  classification := classification
  sampleSize := none
  whyItMatters := ofString "reason"
  evidence := cite .supporting statistic :: cite .context post ::
    (counterexamples entries (statistic.dimensions.headD .other)).map (cite .counterexample)

variable {entries : List StrategyEvidenceEntry} {statistic post : StrategyEvidenceEntry}
  {classification : StrategyEvidenceClass}

/-- The entries are those of a manifest that may be argued from. -/
structure Entries (entries : List StrategyEvidenceEntry) : Prop where
  keys : (entries.map (·.evidenceKey)).Nodup
  ids : ∀ entry ∈ entries, isEvidenceId entry.evidenceKey = true
  roles : ∀ entry ∈ entries, RolesOf entry.toStrategyEvidenceCandidate
  caps : ∀ category, (entries.countP fun entry => decide (entry.category = category)) ≤
    strategyEvidenceCaps category

private theorem Entries.manifest_taken (h : Entries entries) (mode : StrategyMode)
    (recent : List String) :
    createManifestMap ⟨mode, entries.map toStrategyManifestEvidence, recent⟩ =
      .ok (entries.map toStrategyManifestEvidence) := by
  refine createManifestMap_eq_ok.mpr ⟨rfl, ?_, fun item hitem => ?_⟩
  · rw [map_map]
    exact h.keys
  · obtain ⟨entry, hentry, rfl⟩ := mem_map.mp hitem
    exact ⟨h.ids entry hentry, (h.roles entry hentry).some⟩

theorem Entries.eq_of_key (h : Entries entries) {entry other : StrategyEvidenceEntry}
    (hentry : entry ∈ entries) (hother : other ∈ entries)
    (hkey : entry.evidenceKey = other.evidenceKey) : entry = other :=
  inj_on_of_nodup_map h.keys hentry hother hkey

private theorem cites_of_roles {references : List EvidenceReference}
    (hroles : ∀ reference ∈ references, ∃ entry ∈ entries,
      entry.evidenceKey = reference.evidenceId ∧ reference.role ∈ entry.allowedRoles)
    (honce : (references.map (·.evidenceId)).Nodup) :
    CitesManifest (entries.map toStrategyManifestEvidence) references where
  allowed reference hreference := by
    obtain ⟨entry, hentry, hkey, hrole⟩ := hroles reference hreference
    exact ⟨_, mem_map_of_mem hentry, hkey, hrole⟩
  once := honce

private theorem Entries.cites_statistic (h : Entries entries) (hstatistic : statistic ∈ entries)
    (htype : statistic.evidenceType = .featureStatistic)
    (hcategory : statistic.category ≠ .counterexample) :
    CitesManifest (entries.map toStrategyManifestEvidence) [cite .supporting statistic] := by
  refine cites_of_roles (fun reference hreference => ?_) (nodup_singleton _)
  obtain rfl := mem_singleton.mp hreference
  refine ⟨statistic, hstatistic, rfl, ?_⟩
  rw [(h.roles statistic hstatistic).supporting htype hcategory]
  exact mem_cons_self

variable (classification) in
/-- The references of the claim are allowed. -/
theorem Entries.cites_claim (h : Entries entries) (hstatistic : statistic ∈ entries)
    (htype : statistic.evidenceType = .featureStatistic)
    (hcategory : statistic.category ≠ .counterexample) (hpost : post ∈ entries)
    (hpostType : post.evidenceType = .post) :
    CitesManifest (entries.map toStrategyManifestEvidence)
      (claim entries statistic post classification).evidence := by
  have hcounter : ∀ {entry dimension}, entry ∈ counterexamples entries dimension →
      entry ∈ entries ∧ .counterexample ∈ entry.allowedRoles := by
    intro entry dimension hentry
    have hmem := mem_filter.mp hentry
    simp only [Bool.and_eq_true, decide_eq_true_eq] at hmem
    exact ⟨hmem.1, hmem.2.2⟩
  have hsupporting := (h.roles statistic hstatistic).supporting htype hcategory
  have hcontext := (h.roles post hpost).post hpostType
  refine cites_of_roles (fun reference hreference => ?_) ?_
  · rcases mem_cons.mp hreference with rfl | hreference
    · exact ⟨statistic, hstatistic, rfl, by rw [hsupporting]; exact mem_cons_self⟩
    rcases mem_cons.mp hreference with rfl | hreference
    · exact ⟨post, hpost, rfl, by rw [hcontext]; exact mem_cons_self⟩
    · obtain ⟨entry, hentry, rfl⟩ := mem_map.mp hreference
      exact ⟨entry, (hcounter hentry).1, rfl, (hcounter hentry).2⟩
  · -- neither the statistic nor the post is a counterexample
    have hkeys : ∀ {dimension}, ((counterexamples entries dimension).map (cite .counterexample)).map
        (·.evidenceId) = (counterexamples entries dimension).map (·.evidenceKey) := by
      intro dimension
      rw [map_map]
      rfl
    have hother : ∀ {entry dimension}, entry ∈ entries → .counterexample ∉ entry.allowedRoles →
        entry.evidenceKey ∉ (counterexamples entries dimension).map (·.evidenceKey) := by
      intro entry dimension hentry hrole hmem
      obtain ⟨other, hother, hkey⟩ := mem_map.mp hmem
      rw [h.eq_of_key (hcounter hother).1 hentry hkey] at hother
      exact hrole (hcounter hother).2
    have hne : statistic.evidenceKey ≠ post.evidenceKey := by
      intro hkey
      rw [h.eq_of_key hstatistic hpost hkey, hpostType] at htype
      cases htype
    simp only [claim, map_cons, hkeys]
    refine nodup_cons.mpr ⟨?_, nodup_cons.mpr ⟨?_, ?_⟩⟩
    · rw [mem_cons, not_or]
      exact ⟨hne, hother hstatistic (by rw [hsupporting]; decide)⟩
    · exact hother hpost (by rw [hcontext]; decide)
    · exact (filter_sublist.map _).nodup h.keys

variable (classification) in
/-- The references of the claim are within their bounds. -/
theorem Entries.claim_fits (h : Entries entries) (hstatistic : statistic ∈ entries)
    (hpost : post ∈ entries) : (claim entries statistic post classification).Fits where
  key := by simp only [claim]; decide
  statement := by simp only [claim]; decide
  sampleSize _ hsize := by cases hsize
  whyItMatters := by simp only [claim]; decide
  evidence := by
    have hreason : isBounded 500 1 (ofString "reason") = true := by decide
    have hfits : ∀ role, ∀ entry ∈ entries, (cite role entry).fits = true := fun role entry hentry =>
      (Bool.and_eq_true _ _).mpr ⟨h.ids entry hentry, hreason⟩
    have hcap : (counterexamples entries (statistic.dimensions.headD .other)).length ≤ 4 := by
      refine le_trans ?_ (h.caps .counterexample)
      unfold counterexamples
      rw [← countP_eq_length_filter]
      refine countP_mono_left fun entry hentry hcounter => ?_
      simp only [Bool.and_eq_true, decide_eq_true_eq] at hcounter ⊢
      exact (h.roles entry hentry).counterexample hcounter.2
    simp only [claim, referencesFit, length_cons, length_map, Bool.and_eq_true,
      decide_eq_true_eq, all_eq_true]
    refine ⟨⟨by omega, by omega⟩, fun reference hreference => ?_⟩
    rcases mem_cons.mp hreference with rfl | hreference
    · exact hfits _ _ hstatistic
    rcases mem_cons.mp hreference with rfl | hreference
    · exact hfits _ _ hpost
    · obtain ⟨entry, hentry, rfl⟩ := mem_map.mp hreference
      exact hfits _ _ (mem_of_mem_filter hentry)

private theorem Entries.required_fits (h : Entries entries) :
    referencesFit 0 ((required entries).map (cite .limitation)) = true := by
  have hreason : isBounded 500 1 (ofString "reason") = true := by decide
  have hcap : (required entries).length ≤ 8 := by
    refine le_trans ?_ (h.caps .dataQuality)
    unfold required
    rw [← countP_eq_length_filter]
    refine countP_mono_left fun entry hentry hrequired => ?_
    rw [decide_eq_true_eq]
    exact ((h.roles entry hentry).limitation hrequired).2
  simp only [referencesFit, length_map, Bool.and_eq_true, decide_eq_true_eq, all_eq_true]
  refine ⟨⟨Nat.zero_le _, by omega⟩, fun reference hreference => ?_⟩
  obtain ⟨entry, hentry, rfl⟩ := mem_map.mp hreference
  exact (Bool.and_eq_true _ _).mpr ⟨h.ids entry (mem_of_mem_filter hentry), hreason⟩

private theorem Entries.cites_required (h : Entries entries) :
    CitesManifest (entries.map toStrategyManifestEvidence)
      ((required entries).map (cite .limitation)) := by
  refine cites_of_roles (fun reference hreference => ?_) ?_
  · obtain ⟨entry, hentry, rfl⟩ := mem_map.mp hreference
    have hmem := mem_filter.mp hentry
    exact ⟨entry, hmem.1, rfl, ((h.roles entry hmem.1).limitation hmem.2).1⟩
  · rw [map_map]
    exact (filter_sublist.map _).nodup h.keys

section Document

variable (h : Entries entries) (hstatistic : statistic ∈ entries)
  (htype : statistic.evidenceType = .featureStatistic)
  (hcategory : statistic.category ≠ .counterexample)
  (hclass : statistic.classification = some classification)
  (hworking : classification ∈ allowedPatternClasses "workingPatterns")

include h hstatistic htype hclass hworking in
/-- A class is within its statistic, where that is cited. -/
theorem ceiling_passes {references : List EvidenceReference} {requirePostEvidence : Bool}
    (hcites : CitesManifest (entries.map toStrategyManifestEvidence) references)
    (hcited : cite .supporting statistic ∈ references)
    (hpost : requirePostEvidence = true → ∃ post ∈ entries, post.evidenceType = .post ∧
      ∃ role, cite role post ∈ references) (path path' : String) (requireStatistic : Bool) :
    validateEvidenceCeiling classification (validateEvidenceReferences references path
      (entries.map toStrategyManifestEvidence)).2 path' requirePostEvidence requireStatistic = [] := by
  have hnodup : ((entries.map toStrategyManifestEvidence).map (·.evidenceId)).Nodup := by
    rw [map_map]
    exact h.keys
  have hresolved : ∀ {entry role}, entry ∈ entries → cite role entry ∈ references →
      toStrategyManifestEvidence entry ∈ (validateEvidenceReferences references path
        (entries.map toStrategyManifestEvidence)).2 := fun hentry hmem =>
    (mem_resolved hnodup hcites).mpr ⟨mem_map_of_mem hentry, _, hmem, rfl⟩
  refine validateEvidenceCeiling_eq_nil.mpr ⟨?_, Or.inr ⟨⟨classification, ?_, le_rfl⟩, ?_⟩⟩
  · have hall : ∀ classification ∈ allowedPatternClasses "workingPatterns",
        classification ∈ empiricalClaimClasses := by decide
    exact hall classification hworking
  · exact mem_statisticClasses.mpr ⟨_, hresolved hstatistic hcited, htype, hclass⟩
  · intro hrequire
    obtain ⟨post, hentry, hpostType, role, hmem⟩ := hpost hrequire
    refine ⟨_, hresolved hentry hmem, ?_⟩
    have hmanifestType : (toStrategyManifestEvidence post).type = .post := hpostType
    rw [hmanifestType]
    exact mem_cons_self

include h hstatistic htype hcategory hclass hworking in
/-- The document of a statistic beside a post keeps the rules of an evidence-led strategy. -/
theorem document_passes (hpost : post ∈ entries) (hpostType : post.evidenceType = .post) :
    Proposal.Passes (entries.map toStrategyManifestEvidence) .evidenceLed
      [claim entries statistic post classification] classification [cite .supporting statistic]
      ((required entries).map (cite .limitation)) where
  claimsPass := by
    have hnodup : ((entries.map toStrategyManifestEvidence).map (·.evidenceId)).Nodup := by
      rw [map_map]
      exact h.keys
    have hcites := h.cites_claim classification hstatistic htype hcategory hpost hpostType
    unfold validateClaims
    rw [Collected.forEach_eq_nil]
    intro index hindex
    obtain rfl : index = 0 := by simpa using hindex
    simp only [claimIssues, append_eq_nil_iff, addIssue_eq_nil, getElem_cons_zero]
    refine ⟨⟨⟨references_pass hnodup (cons_ne_nil _ _) hcites _, ?_⟩, ?_⟩, ?_⟩
    · exact ceiling_passes h hstatistic htype hclass hworking hcites mem_cons_self
        (fun _ => ⟨post, hpost, hpostType, .context, mem_cons_of_mem _ mem_cons_self⟩) _ _ _
    · have hclaim : (claim entries statistic post classification).classification =
          classification := rfl
      rw [hclaim]
      simpa using hworking
    · refine validateCounterevidence_eq_nil.mpr fun item hitem hdimension hrole => ?_
      obtain ⟨entry, hentry, rfl⟩ := mem_map.mp hitem
      have hcounter : entry ∈ counterexamples entries (statistic.dimensions.headD .other) :=
        mem_filter.mpr ⟨hentry, by
          simp only [Bool.and_eq_true, decide_eq_true_eq]
          exact ⟨hdimension, hrole⟩⟩
      exact ⟨cite .counterexample entry, mem_cons_of_mem _ (mem_cons_of_mem _
        (mem_map_of_mem hcounter)), rfl, rfl⟩
  some := cons_ne_nil _ _
  cites := h.cites_statistic hstatistic htype hcategory
  ceiling path path' := ceiling_passes h hstatistic htype hclass hworking
    (h.cites_statistic hstatistic htype hcategory) mem_cons_self
    (fun hfalse => by cases hfalse) path path' _
  limited item hitem hflag := by
    obtain ⟨entry, hentry, rfl⟩ := mem_map.mp hitem
    exact ⟨cite .limitation entry, mem_map_of_mem (mem_filter.mpr ⟨hentry, hflag⟩), rfl,
      rfl⟩
  limitsCite := h.cites_required
  keys := by simp only [claim, map_cons, map_nil]; decide
  exploratory hfalse := by cases hfalse

end Document

end Expressible

/-! ### When a pattern can be published -/

/-- A document is accepted in which a working pattern cites the entry as supporting. -/
def CanBePublished (contract : ContractPlatform) (mode : StrategyMode)
    (entries : List StrategyEvidenceEntry) (recent : List String) (entry : StrategyEvidenceEntry) :
    Prop :=
  ∃ value data, validateStrategyV1 contract value
      ⟨mode, entries.map toStrategyManifestEvidence, recent⟩ = .ok (.valid data) ∧
    ∃ claim ∈ data.workingPatterns, ∃ reference ∈ claim.evidence,
      reference.evidenceId = entry.evidenceKey ∧ reference.role = .supporting

/-- An entry of the manifest is a pattern that the evidence supports: a statistic that is not a
counterexample and is classed weak, moderate or supported. -/
structure IsSupportedPattern (entry : StrategyEvidenceEntry) : Prop where
  type : entry.evidenceType = .featureStatistic
  category : entry.category ≠ .counterexample
  classification : ∃ classification ∈ [StrategyEvidenceClass.weakDirectionalSignal,
    .moderateAssociation, .statisticallySupportedAssociation],
      entry.classification = some classification

section Publishing

variable {entries : List StrategyEvidenceEntry} {entry : StrategyEvidenceEntry}

private theorem post_of_published {contract : ContractPlatform} {recent : List String}
    (hentries : Expressible.Entries entries)
    (h : CanBePublished contract .evidenceLed entries recent entry) :
    ∃ post ∈ entries, post.evidenceType = .post := by
  obtain ⟨value, data, haccepted, claim, hclaim, -⟩ := h
  obtain ⟨-, hmanifest, hissues⟩ := validateStrategyV1_eq_valid.mp haccepted
  have hnodup := (createManifestMap_eq_ok.mp hmanifest).2.1
  simp only [strategyIssues, append_eq_nil_iff, addIssue_eq_nil, bne_eq_false_iff_eq]
    at hissues
  obtain ⟨⟨⟨⟨⟨⟨⟨⟨⟨hmode, -⟩, hworking⟩, -⟩, -⟩, -⟩, -⟩, -⟩, -⟩, -⟩ := hissues
  obtain ⟨-, item, hitem, -, htype⟩ :=
    (soundClaim_of_validateClaims hnodup hworking hclaim).cites hmode
  obtain ⟨post, hpost, rfl⟩ := mem_map.mp hitem
  exact ⟨post, hpost, (hentries.roles post hpost).types htype⟩

private theorem canBePublished_iff_post (contract : ContractPlatform) (recent : List String)
    (hentries : Expressible.Entries entries) (hentry : entry ∈ entries)
    (hpattern : IsSupportedPattern entry) :
    CanBePublished contract .evidenceLed entries recent entry ↔
      ∃ post ∈ entries, post.evidenceType = .post := by
  refine ⟨post_of_published hentries, ?_⟩
  rintro ⟨post, hpost, hpostType⟩
  obtain ⟨classification, hallowed, hclass⟩ := hpattern.classification
  have hworking : classification ∈ allowedPatternClasses "workingPatterns" := by
    have hall : ∀ classification ∈ [StrategyEvidenceClass.weakDirectionalSignal,
        .moderateAssociation, .statisticallySupportedAssociation],
          classification ∈ allowedPatternClasses "workingPatterns" := by decide
    exact hall classification hallowed
  have hpasses := Expressible.document_passes hentries hentry hpattern.type hpattern.category hclass
    hworking hpost hpostType
  have hsupporting : referencesFit 1 [Expressible.cite .supporting entry] = true := by
    have hreason : isBounded 500 1 (Utf16.ofString "reason") = true := by decide
    simp [referencesFit, EvidenceReference.fits, Expressible.cite, hentries.ids entry hentry, hreason]
  have hfits := Proposal.document_fits .evidenceLed classification
    ⟨by simp, forall_mem_singleton.mpr (hentries.claim_fits classification hentry hpost)⟩
    hsupporting hentries.required_fits
  refine ⟨_, _, Proposal.accepted contract (hentries.manifest_taken .evidenceLed recent) rfl hpasses
    hfits, _, mem_singleton_self _, _, mem_cons_self, rfl, rfl⟩

end Publishing

private theorem entries_of_loaded {run : AccountAnalyticsRun}
    (hrun : request.activeRun db context = some run)
    (hloaded : loadStrategyEvidenceCandidates db context request = some loaded) :
    Expressible.Entries (selectStrategyEvidence platform loaded.candidates none).entries where
  keys := nodup_keys
  ids entry hentry := by
    obtain ⟨-, hkey, hrank⟩ := of_mem_entries hentry
    rw [hkey]
    exact isEvidenceId_evidenceKeyOf entry.category hrank
  roles _ hentry := rolesOf_loaded hrun hloaded (of_mem_entries hentry).1
  caps := countP_entries_le _ _ _

/-- What is frozen is the selection of what is read for the active run, with the emphasis that is
asked for. -/
theorem of_frozen {resolved : Option ResolvedScope} {input : StrategyRequestInput}
    {frozen : FrozenStrategyManifest}
    (h : frozenStrategyManifest platform db context resolved input = some frozen) :
    ∃ run loaded, (emphasisedRequest input).activeRun db context = some run ∧
      loadStrategyEvidenceCandidates db context (emphasisedRequest input) = some loaded ∧
      frozen.entries = (selectStrategyEvidence platform loaded.candidates none).entries := by
  unfold frozenStrategyManifest at h
  split at h
  · obtain ⟨loaded, hloaded, rfl⟩ := Option.map_eq_some_iff.mp h
    obtain ⟨run, hrun, -⟩ := Option.map_eq_some_iff.mp hloaded
    exact ⟨run, loaded, hrun, hloaded, rfl⟩
  · cases h

/-- **When a pattern that the evidence supports can be published**: exactly where a post remains
beside the statistics that lead their categories. -/
theorem supported_pattern_can_be_published_iff (platform : EvidencePlatform)
    (contract : ContractPlatform) (db : StrategyEvidenceTables) (context : WorkspaceContext)
    (resolved : Option ResolvedScope) (input : StrategyRequestInput)
    (frozen : FrozenStrategyManifest) (recent : List String) (entry : StrategyEvidenceEntry)
    (hfrozen : frozenStrategyManifest platform db context resolved input = some frozen)
    (hmode : frozen.identity.mode = .evidenceLed) (hentry : entry ∈ frozen.entries)
    (hpattern : IsSupportedPattern entry) :
    CanBePublished contract frozen.identity.mode frozen.entries recent entry ↔
      ∃ run, (emphasisedRequest input).activeRun db context = some run ∧
        (emphasisedRequest input).PostRemains platform db context run := by
  obtain ⟨run, loaded, hrun, hloaded, hentries⟩ := of_frozen hfrozen
  rw [hmode, hentries]
  rw [hentries] at hentry
  rw [canBePublished_iff_post contract recent (entries_of_loaded hrun hloaded) hentry hpattern,
    post_selected_iff hrun hloaded]
  constructor
  · intro hremains
    exact ⟨run, hrun, hremains⟩
  · rintro ⟨other, hother, hremains⟩
    rw [hrun] at hother
    obtain rfl := Option.some.inj hother
    exact hremains

/-! ### A statistic that speaks for every post -/

namespace ExpressibleSample

def postIds : List String := ["p0", "p1", "p2", "p3", "p4", "p5", "p6", "p7", "p8", "p9"]

/-- A post of the account, a week after the one before it. -/
def post (id : String) (index : ℕ) : InstagramPost where
  id := id
  workspaceId := "w"
  instagramAccountId := "a"
  mediaKind := .video
  publishedAt := index * 604800000
  currentAnalysisId := some id
  providerMediaId := Utf16.ofString id

def run : AccountAnalyticsRun where
  id := "r"
  workspaceId := "w"
  instagramAccountId := some "a"
  state := .active
  ageWindow := .day7
  publishedFrom := 0
  publishedTo := 6048000000
  inputFingerprint := "f"
  statisticCount := 1
  analysisCount := 10
  startedAt := 6048001000
  activatedAt := some 6048002000
  durationMs := some 1000
  failureCode := none

/-- A statistic whose members, on both sides of its comparison, are all of the posts. -/
def statistic : PublishedStatistic where
  id := "s"
  workspaceId := "w"
  classificationReason := "effect"
  comparisonCount := 5
  confidence := .weakDirectionalSignal
  featurePath := "content.hook.category"
  featureValue := "question"
  groupCount := 5
  members := postIds
  metric := word DerivedMetric.engagementCount
  relativeEffect := some (1 / 4)
  sensitivityHoldsDirection := some true
  topContributorShare := some (1 / 5)

/-- Ten analysed posts over ten weeks, and the statistic that the active run publishes of them. -/
def tables : StrategyEvidenceTables where
  posts := ⟨postIds.zipIdx.map fun entry => post entry.1 entry.2, by decide⟩
  analyses := postIds.map fun id => ⟨id, "w", true, none, none, none, none, none, none⟩
  snapshots := ⟨[], Schema.violation_nil _⟩
  runs := ⟨[run], by decide⟩
  published := ⟨[⟨"w", "r", "s"⟩], by decide⟩
  statistics := [statistic]
  generations := []
  dossierBody := fun _ => none

def input : StrategyRequestInput where
  acceptExploratory := false
  correlationId := "c"
  editorialConstraint := none
  formatEmphasis := []
  instagramAccountId := some "a"
  pillarEmphasis := []
  primaryMetric := .engagementCount
  regeneratedFromId := none
  requestedByUserId := none

def frozen : Option FrozenStrategyManifest :=
  frozenStrategyManifest StrategyManifest.Sample.lowerCase tables ⟨"w"⟩
    (some ⟨false, .account "a"⟩) input

/-- The request argues from evidence: the statistic, and how much of the account was seen. -/
theorem frozen_entries : frozen.map (fun frozen => (frozen.identity.mode,
    frozen.entries.map fun entry => (entry.evidenceType, entry.category, entry.classification))) =
      some (.evidenceLed,
        [(.featureStatistic, .positiveStatistic, some .weakDirectionalSignal),
          (.dataQuality, .dataQuality, none)]) := by
  decide +kernel

private theorem frozen_pattern : ∃ manifest, frozen = some manifest ∧
    manifest.identity.mode = .evidenceLed ∧ (∃ entry ∈ manifest.entries, IsSupportedPattern entry) ∧
      ∀ entry ∈ manifest.entries, entry.evidenceType ≠ .post := by
  obtain ⟨manifest, hfrozen, heq⟩ := Option.map_eq_some_iff.mp frozen_entries
  obtain ⟨hmode, hentries⟩ := Prod.mk.inj heq
  refine ⟨manifest, hfrozen, hmode, ?_, fun entry hentry hpost => ?_⟩
  · obtain ⟨entry, hentry, hsummary⟩ := mem_map.mp (hentries ▸ mem_cons_self)
    obtain ⟨htype, hrest⟩ := Prod.mk.inj hsummary
    obtain ⟨hcategory, hclass⟩ := Prod.mk.inj hrest
    exact ⟨entry, hentry, htype, by rw [hcategory]; decide, _, mem_cons_self, hclass⟩
  · have hmem := mem_map_of_mem (f := fun entry : StrategyEvidenceEntry =>
      (entry.evidenceType, entry.category, entry.classification)) hentry
    rw [hentries] at hmem
    simp [hpost] at hmem

/-- What the theorem says of the statistic. -/
theorem frozen_pattern_iff : ∃ manifest entry, frozen = some manifest ∧
    (CanBePublished SoundnessSample.platform manifest.identity.mode manifest.entries [] entry ↔
      ∃ run, (emphasisedRequest input).activeRun tables ⟨"w"⟩ = some run ∧
        (emphasisedRequest input).PostRemains StrategyManifest.Sample.lowerCase tables ⟨"w"⟩ run) := by
  obtain ⟨manifest, hfrozen, hmode, ⟨entry, hentry, hpattern⟩, -⟩ := frozen_pattern
  exact ⟨manifest, entry, hfrozen, supported_pattern_can_be_published_iff
    StrategyManifest.Sample.lowerCase SoundnessSample.platform tables ⟨"w"⟩
    (some ⟨false, .account "a"⟩) input manifest [] entry hfrozen hmode hentry hpattern⟩

/-- **The pattern cannot be published.** The statistic speaks for every post, so none is left to
cite beside it. -/
theorem supported_pattern_cannot_be_published : ∃ manifest, frozen = some manifest ∧
    manifest.identity.mode = .evidenceLed ∧ ∃ entry ∈ manifest.entries, IsSupportedPattern entry ∧
      ∀ contract recent, ¬ CanBePublished contract manifest.identity.mode manifest.entries recent
        entry := by
  obtain ⟨manifest, hfrozen, hmode, ⟨entry, hentry, hpattern⟩, hposts⟩ := frozen_pattern
  refine ⟨manifest, hfrozen, hmode, entry, hentry, hpattern, fun contract recent hpublished => ?_⟩
  obtain ⟨run, loaded, hrun, hloaded, hentries⟩ := of_frozen hfrozen
  rw [hmode] at hpublished
  obtain ⟨post, hpost, htype⟩ :=
    post_of_published (hentries ▸ entries_of_loaded hrun hloaded) hpublished
  exact hposts post hpost htype

end ExpressibleSample

end ContentAutomation

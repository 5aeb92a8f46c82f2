import AxiomArb.AppLive.RevisionIdentity
import AxiomArb.State.FamilyOrder

/-!
# What a strategy revision depends on

The revisions of a notice about a view of a store are a function of the basis and of what is
listed: families, validations and rendered targets.
-/

namespace AxiomArb.AppLive

open Domain Library Persistence State

/-- The candidate, adoptable and rendered operator revisions of an outcome. -/
def DiscoveryOutcome.revisions (outcome : DiscoveryOutcome) :
    Option String × Option String × Option String :=
  (outcome.candidate.map StrategyCandidateSetRow.strategyCandidateRevision,
    outcome.adoptable.map AdoptableStrategyRevisionRow.adoptableStrategyRevision,
    outcome.adoptable.map AdoptableStrategyRevisionRow.renderedOperatorStrategyRevision)

namespace CandidateNotice

/-- The notice is about a view of a store. -/
def FromStore (notice : CandidateNotice) : Prop :=
  ∃ ops readiness,
    CandidatePublication.fromStore (StateStore.after ops) readiness = some notice.publication

variable {notice notice' : CandidateNotice}

/-- A notice about a store lists each family once, in ascending order. -/
theorem FromStore.pairwise_listed (h : notice.FromStore) :
    notice.listed.Pairwise fun entry later ↦ compare entry.1.familyId later.1.familyId = .lt := by
  obtain ⟨ops, readiness, hpublication⟩ := h
  rw [listed, listing, targets, List.map_map, List.pairwise_map]
  cases hview : notice.publication.view with
  | none => simp [discoveryRecords, hview]
  | some view =>
      rw [discoveryRecords, hview]
      exact pairwise_of_fromStore hpublication hview

/-- Notices about stores that list the same list it in one order. -/
theorem listed_eq_of_mem_iff (h : notice.FromStore) (h' : notice'.FromStore)
    (hlisted : ∀ entry, entry ∈ notice.listed ↔ entry ∈ notice'.listed) :
    notice.listed = notice'.listed := by
  have hirrefl : ∀ entry : CandidateTarget × Option NegRiskFamilyLiveTarget,
      compare entry.1.familyId entry.1.familyId ≠ .lt := by
    intro entry hlt
    have hself : compare entry.1.familyId entry.1.familyId = .eq := Std.ReflCmp.compare_self
    rw [hself] at hlt
    cases hlt
  have hnodup : ∀ {entries : List (CandidateTarget × Option NegRiskFamilyLiveTarget)},
      entries.Pairwise (fun entry later ↦ compare entry.1.familyId later.1.familyId = .lt) →
        entries.Nodup := by
    intro entries hentries
    refine hentries.imp fun {entry later} hlt heq ↦ ?_
    rw [heq] at hlt
    exact hirrefl later hlt
  refine ((List.perm_ext_iff_of_nodup (hnodup h.pairwise_listed)
    (hnodup h'.pairwise_listed)).mpr hlisted).eq_of_pairwise ?_ h.pairwise_listed h'.pairwise_listed
  intro entry later _ _ hlt hgt
  have hswap : compare entry.1.familyId later.1.familyId =
      (compare later.1.familyId entry.1.familyId).swap := Std.OrientedCmp.eq_swap
  rw [hswap, hgt] at hlt
  cases hlt

end CandidateNotice

section Content

variable {sha256 : String → String} {notice notice' : CandidateNotice}
  {outcome outcome' : DiscoveryOutcome}

/-- **Strategy revisions depend on strategy content alone.**  Two notices about views of
stores that list the same families, validations and rendered targets over one basis come
to the same revisions, whatever else their publications, records and stores hold. -/
theorem revisions_eq_of_listed (hstore : notice.FromStore) (hstore' : notice'.FromStore)
    (hlisted : ∀ entry, entry ∈ notice.listed ↔ entry ∈ notice'.listed)
    (hbasis : notice.fullSetBasisDigest = notice'.fullSetBasisDigest)
    (hdirty : .candidates ∈ notice.dirtyDomains) (hdirty' : .candidates ∈ notice'.dirtyDomains)
    (h : DiscoverySupervisor.processNotice sha256 notice = .ok outcome)
    (h' : DiscoverySupervisor.processNotice sha256 notice' = .ok outcome') :
    outcome.revisions = outcome'.revisions := by
  rcases CandidateNotice.processNotice_eq_ok h with ⟨hclean, -⟩ | ⟨-, set, hset⟩
  · exact absurd hdirty hclean
  rcases CandidateNotice.processNotice_eq_ok h' with ⟨hclean, -⟩ | ⟨-, set', hset'⟩
  · exact absurd hdirty' hclean
  have hsame := CandidateNotice.listed_eq_of_mem_iff hstore hstore' hlisted
  have htargets : notice.targets = notice'.targets := by
    have hfirst := congrArg (List.map Prod.fst) hsame
    simpa [CandidateNotice.listed, listing, Function.comp_def] using hfirst
  have hartifacts : CandidateBridge.routeArtifacts set notice.renderedLiveTargets
        notice.fullSetBasisDigest =
      CandidateBridge.routeArtifacts set' notice'.renderedLiveTargets notice'.fullSetBasisDigest := by
    refine routeArtifacts_eq_iff.mpr ⟨hbasis, fun scope ↦ ?_⟩
    rw [hset.sets.targets, hset'.sets.targets]
    show notice.listed.filter _ = notice'.listed.filter _
    rw [hsame]
  have hadoptable : notice.Adoptable ↔ notice'.Adoptable := by
    rw [CandidateNotice.Adoptable, CandidateNotice.Adoptable, htargets]
  have hrevision : ∀ kind, bundleRevision sha256 kind (CandidateBridge.routeArtifacts set
        notice.renderedLiveTargets notice.fullSetBasisDigest) =
      bundleRevision sha256 kind (CandidateBridge.routeArtifacts set'
        notice'.renderedLiveTargets notice'.fullSetBasisDigest) := fun kind ↦ by
    rw [hartifacts]
  rw [DiscoveryOutcome.revisions, DiscoveryOutcome.revisions, hset.candidate, hset'.candidate,
    hset.adoptable, hset'.adoptable]
  by_cases hall : notice.Adoptable
  · rw [if_pos hall, if_pos (hadoptable.mp hall)]
    exact Prod.ext (congrArg some (hrevision _))
      (Prod.ext (congrArg some (hrevision _)) (congrArg some (hrevision _)))
  · rw [if_neg hall, if_neg (mt hadoptable.mpr hall)]
    exact Prod.ext (congrArg some (hrevision _)) rfl

/-- The families discovered and then backfilled at `observedAt`, in the order given. -/
def discoveredFamilies (familyIds : List String) (observedAt : DateTime) : List StoreOp :=
  let discoveries := familyIds.map fun familyId ↦
    ExternalFactEvent.familyDiscoveryObserved "session-1" s!"discovery-{familyId}" familyId observedAt
  let backfills := familyIds.map fun familyId ↦
    ExternalFactEvent.familyBackfillObserved "session-1" s!"backfill-{familyId}" familyId "cursor-1"
      true (observedAt + 1)
  (discoveries ++ backfills).zipIdx.map fun (event, index) ↦ .apply (index + 1, .new event)

/-- The sample, about a store in which these families were discovered. -/
def discoveredNotice (publicationId : String) (familyIds : List String) (observedAt : DateTime) :
    CandidateNotice :=
  let notice := sampleNotice publicationId ["family-a", "family-b"]
  { notice with
    publication := (CandidatePublication.fromStore
      (StateStore.after (discoveredFamilies familyIds observedAt))
      { publicationId, status := .ready }).getD notice.publication }

theorem fromStore_discoveredNotice {publicationId : String} {familyIds : List String}
    {observedAt : DateTime} (h : (CandidatePublication.fromStore
      (StateStore.after (discoveredFamilies familyIds observedAt))
      { publicationId, status := .ready }).isSome) :
    (discoveredNotice publicationId familyIds observedAt).FromStore := by
  obtain ⟨publication, hpublication⟩ := Option.isSome_iff_exists.mp h
  refine ⟨discoveredFamilies familyIds observedAt, { publicationId, status := .ready }, ?_⟩
  simp only [discoveredNotice, hpublication, Option.getD_some]

/-- Discovered in another order, later and under another publication, the families come to
the same revisions, whatever the digest. -/
theorem discoveredNotice_revisions_eq :
    (discoveredNotice "snapshot-1" ["family-a", "family-b"] 1).publication ≠
        (discoveredNotice "snapshot-2" ["family-b", "family-a"] 9).publication ∧
      ∀ sha256, ∃ outcome outcome',
        DiscoverySupervisor.processNotice sha256
          (discoveredNotice "snapshot-1" ["family-a", "family-b"] 1) = .ok outcome ∧
        DiscoverySupervisor.processNotice sha256
          (discoveredNotice "snapshot-2" ["family-b", "family-a"] 9) = .ok outcome' ∧
        outcome.adoptable.isSome ∧ outcome.revisions = outcome'.revisions := by
  refine ⟨by decide +kernel, fun sha256 ↦ ?_⟩
  have hrecords : (discoveredNotice "snapshot-1" ["family-a", "family-b"] 1).discoveryRecords ≠ [] ∧
      (discoveredNotice "snapshot-2" ["family-b", "family-a"] 9).discoveryRecords ≠ [] := by
    decide +kernel
  obtain ⟨outcome, h⟩ := CandidateNotice.exists_processNotice_eq_ok sha256 hrecords.1
  obtain ⟨outcome', h'⟩ := CandidateNotice.exists_processNotice_eq_ok sha256 hrecords.2
  have hlisted : (discoveredNotice "snapshot-1" ["family-a", "family-b"] 1).listed =
      (discoveredNotice "snapshot-2" ["family-b", "family-a"] 9).listed := by
    decide +kernel
  have hadoptable : (discoveredNotice "snapshot-1" ["family-a", "family-b"] 1).Adoptable := by
    decide +kernel
  have hready : (CandidatePublication.fromStore
      (StateStore.after (discoveredFamilies ["family-a", "family-b"] 1))
      { publicationId := "snapshot-1", status := .ready }).isSome := by
    decide +kernel
  have hready' : (CandidatePublication.fromStore
      (StateStore.after (discoveredFamilies ["family-b", "family-a"] 9))
      { publicationId := "snapshot-2", status := .ready }).isSome := by
    decide +kernel
  refine ⟨outcome, outcome', h, h', ?_, ?_⟩
  · rcases CandidateNotice.processNotice_eq_ok h with ⟨hclean, -⟩ | ⟨-, set, hset⟩
    · exact absurd (List.mem_singleton.mpr rfl) hclean
    · rw [hset.adoptable, if_pos hadoptable]
      rfl
  · exact revisions_eq_of_listed (fromStore_discoveredNotice hready)
      (fromStore_discoveredNotice hready') (fun entry ↦ by rw [hlisted]) rfl
      (List.mem_singleton.mpr rfl) (List.mem_singleton.mpr rfl) h h'

end Content

end AxiomArb.AppLive

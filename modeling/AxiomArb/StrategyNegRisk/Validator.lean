import AxiomArb.AppLive.DurableRecords
import AxiomArb.StrategyNegRisk.Partition

/-!
# Verdicts on families

Which families of a graph may be traded.  The verdict reads the family; as the graph divides
the metadata, it says the same of the rows of the family's event, and no order of rows or
records changes it.
-/

namespace AxiomArb.StrategyNegRisk

open Domain Library
open AppLive (trim)

inductive FamilyExclusionReason where
  | placeholderOutcome | otherOutcome | augmentedVariant | missingNamedOutcomes | nonNegRiskRoute
deriving DecidableEq, Repr

inductive FamilyValidationStatus where
  | included | excluded
deriving DecidableEq, Inhabited, Repr

structure FamilyValidation where
  familyId : String
  status : FamilyValidationStatus
  reason : Option FamilyExclusionReason
  discoveryRevision : Int
  metadataSnapshotHash : String
  memberCount : Nat
deriving DecidableEq, Inhabited, Repr

def hasNamedOutcome (member : NegRiskNode) : Bool :=
  !member.isPlaceholder && !member.isOther && !(trim member.outcomeLabel).isEmpty

def exclusionReason (family : NegRiskGraphFamily) : Option FamilyExclusionReason :=
  if family.family.route ≠ .negRisk then some .nonNegRiskRoute
  else if family.negRiskVariant = .augmented then some .augmentedVariant
  else if family.family.members.any (·.isPlaceholder) then some .placeholderOutcome
  else if family.family.members.any (·.isOther) then some .otherOutcome
  else if !family.family.members.any hasNamedOutcome then some .missingNamedOutcomes
  else none

def validateFamily (discoveryRevision : Int) (metadataSnapshotHash : String)
    (family : NegRiskGraphFamily) : FamilyValidation :=
  let reason := exclusionReason family
  { familyId := family.family.familyId
    status := if reason.isSome then .excluded else .included
    reason
    discoveryRevision
    metadataSnapshotHash
    memberCount := family.family.members.length }

/-! ## Reasons in order -/

namespace FamilyExclusionReason

def rank : FamilyExclusionReason → Nat
  | .nonNegRiskRoute => 0
  | .augmentedVariant => 1
  | .placeholderOutcome => 2
  | .otherOutcome => 3
  | .missingNamedOutcomes => 4

theorem rank_injective : Function.Injective rank := by
  intro reason reason' h
  cases reason <;> cases reason' <;> first | rfl | simp [rank] at h

instance : LinearOrder FamilyExclusionReason := LinearOrder.lift' rank rank_injective

/-- What a reason says of the rows of a family. -/
def AppliesTo (rows : List NegRiskMarketMetadata) : FamilyExclusionReason → Prop
  | .nonNegRiskRoute => ∃ row ∈ rows, row.route ≠ .negRisk
  | .augmentedVariant => ∃ row ∈ rows, row.negRiskVariant = .augmented
  | .placeholderOutcome => ∃ row ∈ rows, row.isPlaceholder = true
  | .otherOutcome => ∃ row ∈ rows, row.isOther = true
  | .missingNamedOutcomes => ∀ row ∈ rows, hasNamedOutcome row.node = false

end FamilyExclusionReason

open FamilyExclusionReason

variable {records : List IdentifierRecord} {metadata rows : List NegRiskMarketMetadata}
  {graph : NegRiskGraph} {family : NegRiskGraphFamily}

section Reasons

variable (hrows : OfRows rows family)

include hrows

theorem OfRows.route_iff
    (hroutes : ∀ member ∈ family.family.members, member.route = family.family.route) :
    family.family.route ≠ .negRisk ↔ AppliesTo rows .nonNegRiskRoute := by
  have hroute : ∀ row ∈ rows, row.route = family.family.route := fun row hrow ↦
    hroutes row.node (hrows.members ▸ List.mem_map_of_mem hrow)
  constructor
  · intro h
    obtain ⟨first, hfirst⟩ := List.exists_mem_of_ne_nil rows hrows.ne_nil
    exact ⟨first, hfirst, hroute first hfirst ▸ h⟩
  · rintro ⟨row, hrow, h⟩
    rwa [hroute row hrow] at h

theorem OfRows.variant_iff :
    family.negRiskVariant = .augmented ↔ AppliesTo rows .augmentedVariant := by
  have htop : ∀ variant : NegRiskVariant, .augmented ≤ variant → variant = .augmented := by
    intro variant h
    cases variant <;> first | rfl | exact absurd h (by decide)
  have hbelow : ∀ variant : NegRiskVariant, variant ≠ .augmented → variant ≤ .unknown := by
    intro variant h
    cases variant <;> first | decide | exact absurd rfl h
  constructor
  · intro h
    by_contra hnone
    -- without an augmented row the join stays below augmented
    have hle : family.negRiskVariant ≤ .unknown := by
      refine hrows.variant.2 ?_
      rintro variant ⟨row, hrow, rfl⟩
      exact hbelow row.negRiskVariant fun haugmented ↦ hnone ⟨row, hrow, haugmented⟩
    rw [h] at hle
    exact absurd hle (by decide)
  · rintro ⟨row, hrow, h⟩
    exact htop family.negRiskVariant (h ▸ hrows.variant.1 ⟨row, hrow, rfl⟩)

theorem OfRows.any_iff (flag : NegRiskNode → Bool) :
    family.family.members.any flag = true ↔ ∃ row ∈ rows, flag row.node = true := by
  rw [hrows.members, List.any_map, List.any_eq_true]
  rfl

/-- The first reason of the chain that applies is given, and none only if none applies. -/
theorem OfRows.exclusionReason_cases
    (hroutes : ∀ member ∈ family.family.members, member.route = family.family.route) :
    (∃ reason, exclusionReason family = some reason ∧ IsLeast {r | AppliesTo rows r} reason) ∨
      exclusionReason family = none ∧ ∀ reason, ¬AppliesTo rows reason := by
  have hroute := hrows.route_iff hroutes
  have hvariant := hrows.variant_iff
  have hplaceholder : family.family.members.any (·.isPlaceholder) = true ↔
      AppliesTo rows .placeholderOutcome := hrows.any_iff _
  have hother : family.family.members.any (·.isOther) = true ↔ AppliesTo rows .otherOutcome :=
    hrows.any_iff _
  have hnamed : (!family.family.members.any hasNamedOutcome) = true ↔
      AppliesTo rows .missingNamedOutcomes := by
    rw [Bool.not_eq_true', ← Bool.not_eq_true, hrows.any_iff, AppliesTo]
    simp only [not_exists, not_and, Bool.not_eq_true]
  classical
  simp only [exclusionReason, hroute, hvariant, hplaceholder, hother, hnamed]
  -- a reason that comes later in the chain is above, one that comes before does not apply
  split_ifs with h₁ h₂ h₃ h₄ h₅
  · refine .inl ⟨_, rfl, h₁, fun reason _ ↦ ?_⟩
    cases reason <;> decide
  · refine .inl ⟨_, rfl, h₂, fun reason h ↦ ?_⟩
    cases reason <;> first | decide | exact absurd h ‹_›
  · refine .inl ⟨_, rfl, h₃, fun reason h ↦ ?_⟩
    cases reason <;> first | decide | exact absurd h ‹_›
  · refine .inl ⟨_, rfl, h₄, fun reason h ↦ ?_⟩
    cases reason <;> first | decide | exact absurd h ‹_›
  · refine .inl ⟨_, rfl, h₅, fun reason h ↦ ?_⟩
    cases reason <;> first | decide | exact absurd h ‹_›
  · refine .inr ⟨rfl, fun reason ↦ ?_⟩
    cases reason <;> assumption

theorem OfRows.exclusionReason_eq_some_iff
    (hroutes : ∀ member ∈ family.family.members, member.route = family.family.route)
    (reason : FamilyExclusionReason) :
    exclusionReason family = some reason ↔ IsLeast {r | AppliesTo rows r} reason := by
  rcases hrows.exclusionReason_cases hroutes with ⟨given, hgiven, hleast⟩ | ⟨hnone, hall⟩
  · rw [hgiven, Option.some_inj]
    exact ⟨fun h ↦ h ▸ hleast, fun h ↦ hleast.unique h⟩
  · rw [hnone]
    exact ⟨fun h ↦ absurd h.symm (Option.some_ne_none reason), fun h ↦ absurd h.1 (hall reason)⟩

theorem OfRows.exclusionReason_eq_none_iff
    (hroutes : ∀ member ∈ family.family.members, member.route = family.family.route) :
    exclusionReason family = none ↔ ∀ reason, ¬AppliesTo rows reason := by
  rcases hrows.exclusionReason_cases hroutes with ⟨given, hgiven, hleast⟩ | ⟨hnone, hall⟩
  · rw [hgiven]
    exact ⟨fun h ↦ absurd h (Option.some_ne_none given), fun h ↦ absurd hleast.1 (h given)⟩
  · exact ⟨fun _ ↦ hall, fun _ ↦ hnone⟩

end Reasons

/-! ## Verdicts and metadata -/

theorem validateFamily_included_iff (discoveryRevision : Int) (metadataSnapshotHash : String)
    (family : NegRiskGraphFamily) :
    (validateFamily discoveryRevision metadataSnapshotHash family).status = .included ↔
      exclusionReason family = none := by
  rw [validateFamily]
  cases exclusionReason family <;> simp

/-- What a verdict says, in terms of the metadata: each event gets one verdict, which counts
its rows and gives the first reason that applies to them. -/
structure Judged (metadata : List NegRiskMarketMetadata) (verdicts : List FamilyValidation) :
    Prop where
  familyIds : (verdicts.map (·.familyId)).Nodup
  family : ∀ row ∈ metadata, ∃ verdict ∈ verdicts, verdict.familyId = row.eventFamilyId
  memberCount : ∀ verdict ∈ verdicts, 0 < verdict.memberCount ∧
    verdict.memberCount = (rowsOf metadata verdict.familyId).length
  included : ∀ verdict ∈ verdicts, verdict.status = .included ↔
    ∀ reason, ¬AppliesTo (rowsOf metadata verdict.familyId) reason
  reason : ∀ verdict ∈ verdicts, ∀ reason, verdict.reason = some reason ↔
    IsLeast {r | AppliesTo (rowsOf metadata verdict.familyId) r} reason

theorem Partitions.judged (hpartitions : Partitions metadata graph) (discoveryRevision : Int)
    (metadataSnapshotHash : String) :
    Judged metadata
      (graph.families.map (validateFamily discoveryRevision metadataSnapshotHash)) := by
  constructor
  case familyIds =>
    rw [List.map_map]
    exact hpartitions.familyIds
  case family =>
    intro row hrow
    obtain ⟨family, hfamily, hid⟩ := hpartitions.family row hrow
    exact ⟨_, List.mem_map_of_mem hfamily, hid⟩
  all_goals
    rintro verdict hverdict
    obtain ⟨family, hfamily, rfl⟩ := List.mem_map.mp hverdict
    have hrows := hpartitions.rows family hfamily
    have hroutes := hpartitions.routes family hfamily
  case memberCount =>
    have hlength :
        family.family.members.length = (rowsOf metadata family.family.familyId).length := by
      rw [hrows.members, List.length_map]
    exact ⟨(List.length_pos_iff.mpr hrows.ne_nil).trans_eq hlength.symm, hlength⟩
  case included =>
    exact (validateFamily_included_iff _ _ family).trans (hrows.exclusionReason_eq_none_iff hroutes)
  case reason => exact hrows.exclusionReason_eq_some_iff hroutes

/-- A verdict does not see the order of the members. -/
theorem validateFamily_factorsThrough (discoveryRevision : Int) (metadataSnapshotHash : String) :
    (validateFamily discoveryRevision metadataSnapshotHash).FactorsThrough unordered := by
  intro family family' h
  simp only [unordered, Prod.mk.injEq, Multiset.coe_eq_coe] at h
  obtain ⟨hid, hroute, hvariant, hmembers⟩ := h
  have hany : ∀ flag : NegRiskNode → Bool,
      family.family.members.any flag = family'.family.members.any flag := fun flag ↦ by
    rw [Bool.eq_iff_iff, List.any_eq_true, List.any_eq_true]
    simp only [hmembers.mem_iff]
  have hreason : exclusionReason family = exclusionReason family' := by
    rw [exclusionReason, exclusionReason, hroute, hvariant, hany, hany, hany]
  rw [validateFamily, validateFamily, hreason, hid, hmembers.length_eq]

/-- The verdicts on the families of a graph say what the metadata says of each event, and the
same verdicts are given for rows and records in any order. -/
theorem graph_verdicts (discoveryRevision : Int) (metadataSnapshotHash : String)
    (h : buildFamilyGraph records metadata = some (.ok graph)) :
    Judged metadata
        (graph.families.map (validateFamily discoveryRevision metadataSnapshotHash)) ∧
      ∀ records' metadata', records.Perm records' → metadata.Perm metadata' →
        ∃ graph', buildFamilyGraph records' metadata' = some (.ok graph') ∧
          (graph.families.map (validateFamily discoveryRevision metadataSnapshotHash)).Perm
            (graph'.families.map (validateFamily discoveryRevision metadataSnapshotHash)) := by
  refine ⟨(partitions_of_buildFamilyGraph h).judged _ _, ?_⟩
  intro records' metadata' hrecords hmetadata
  obtain ⟨graph', h'⟩ := (exists_graph_iff_of_perm hrecords hmetadata).mp ⟨graph, h⟩
  exact ⟨graph', h', perm_map_of_factorsThrough (validateFamily_factorsThrough _ _)
    (perm_unordered hmetadata h h')⟩

theorem sampleMembers_judged :
    ∃ graph, buildFamilyGraph [IdentifierMap.sampleRecord "a", IdentifierMap.sampleRecord "b"]
        [sampleMember "a" .standard, sampleMember "b" .augmented] = some (.ok graph) ∧
      Judged [sampleMember "a" .standard, sampleMember "b" .augmented]
        (graph.families.map (validateFamily 7 "snapshot")) ∧
      ∃ verdict ∈ graph.families.map (validateFamily 7 "snapshot"),
        verdict.familyId = "family-1" ∧ verdict.status = .excluded := by
  have hfits : ∀ row ∈ [sampleMember "a" .standard, sampleMember "b" .augmented],
      Fits [IdentifierMap.sampleRecord "a", IdentifierMap.sampleRecord "b"] row := by
    unfold Fits
    decide
  have hcompatible :
      [sampleMember "a" .standard, sampleMember "b" .augmented].Pairwise Compatible := by
    unfold Compatible
    decide
  obtain ⟨graph, hgraph⟩ := (exists_graph_iff _ _).mpr ⟨by decide, hfits, hcompatible⟩
  obtain ⟨hjudged, -⟩ := graph_verdicts 7 "snapshot" hgraph
  refine ⟨graph, hgraph, hjudged, ?_⟩
  obtain ⟨verdict, hverdict, hid⟩ := hjudged.family (sampleMember "b" .augmented) (by decide)
  refine ⟨verdict, hverdict, hid, ?_⟩
  have happlies : AppliesTo (rowsOf [sampleMember "a" .standard, sampleMember "b" .augmented]
      verdict.familyId) .augmentedVariant :=
    ⟨sampleMember "b" .augmented, mem_rowsOf.mpr ⟨by decide, hid.symm⟩, rfl⟩
  cases hstatus : verdict.status with
  | excluded => rfl
  | included => exact absurd happlies ((hjudged.included verdict hverdict).mp hstatus _)

end AxiomArb.StrategyNegRisk

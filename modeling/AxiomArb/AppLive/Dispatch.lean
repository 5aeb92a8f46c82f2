import AxiomArb.AppLive.Queues

/-!
# The dispatch loop

Applied facts leave dirty records; a published snapshot that is ready for a book
clears that book's domains from every record it covers.  A flush merges what is
left into at most one record for each book.
-/

namespace AxiomArb.AppLive

open Domain Library State

structure DirtyRecord where
  stateVersion : Nat
  domains : List DirtyDomain
deriving DecidableEq, Repr

structure DispatchSummary where
  coalescedVersions : List Nat
  lastStableSnapshotId : Option String
  lastStableStateVersion : Option Nat
  fullsetLastReadySnapshotId : Option String
  fullsetLastReadyStateVersion : Option Nat
  negriskLastReadySnapshotId : Option String
  negriskLastReadyStateVersion : Option Nat
deriving DecidableEq, Repr

structure DispatchLoop where
  latestReadyFullset : Option PublishedSnapshot
  latestReadyNegrisk : Option PublishedSnapshot
  dirtyRecords : List DirtyRecord
deriving DecidableEq, Repr

/-- A version is stable once both books have been ready at it or later. -/
def lastStableStateVersion : Option PublishedSnapshot → Option PublishedSnapshot → Option Nat
  | some fullset, some negrisk => some (min fullset.stateVersion negrisk.stateVersion)
  | _, _ => none

namespace DispatchLoop

def empty : DispatchLoop :=
  { latestReadyFullset := none, latestReadyNegrisk := none, dirtyRecords := [] }

variable (dispatcher : DispatchLoop)

def recordApply (stateVersion : Nat) (dirtySet : DirtySet) : DispatchLoop :=
  { dispatcher with
    dirtyRecords := dispatcher.dirtyRecords ++ [{ stateVersion, domains := dirtySet.domains }] }

def clearDirtyDomains (upToStateVersion : Nat) (clearedDomains : List DirtyDomain) :
    DispatchLoop :=
  let records := dispatcher.dirtyRecords.map fun record ↦
    if record.stateVersion ≤ upToStateVersion then
      { record with domains := record.domains.filter fun domain ↦ !clearedDomains.contains domain }
    else
      record
  { dispatcher with dirtyRecords := records.filter fun record ↦ !record.domains.isEmpty }

def observeSnapshot (snapshot : PublishedSnapshot) : DispatchLoop :=
  let dispatcher :=
    if snapshot.fullsetReady then
      { dispatcher with latestReadyFullset := some snapshot }.clearDirtyDomains
        snapshot.stateVersion fullsetDomains
    else
      dispatcher
  if snapshot.negriskReady then
    { dispatcher with latestReadyNegrisk := some snapshot }.clearDirtyDomains
      snapshot.stateVersion negriskDomains
  else
    dispatcher

def coalescedDirtyRecords : List DirtyRecord :=
  let latestFullsetDirty := ((dispatcher.dirtyRecords.filter fun record ↦
    record.domains.any isFullsetDomain).map DirtyRecord.stateVersion).max?
  let latestNegriskDirty := ((dispatcher.dirtyRecords.filter fun record ↦
    record.domains.contains .negRiskFamilies).map DirtyRecord.stateVersion).max?
  let coalesced : BTreeMap Nat (List DirtyDomain) := ∅
  let coalesced := match latestFullsetDirty with
    | some stateVersion => coalesced.insert stateVersion fullsetDomains
    | none => coalesced
  let coalesced := match latestNegriskDirty with
    | some stateVersion =>
        coalesced.insert stateVersion (coalesced[stateVersion]?.getD [] ++ [DirtyDomain.negRiskFamilies])
    | none => coalesced
  coalesced.toList.map fun (stateVersion, domains) ↦ { stateVersion, domains }

def pendingBacklogCount : Nat := dispatcher.coalescedDirtyRecords.length

def flush : DispatchSummary × DispatchLoop :=
  let dispatcher := { dispatcher with dirtyRecords := dispatcher.coalescedDirtyRecords }
  let lastStableStateVersion :=
    AppLive.lastStableStateVersion dispatcher.latestReadyFullset dispatcher.latestReadyNegrisk
  let lastStableSnapshotId := lastStableStateVersion.bind fun stateVersion ↦
    let stable : Option PublishedSnapshot → Option PublishedSnapshot := fun ready ↦
      ready.filter fun snapshot ↦ snapshot.stateVersion == stateVersion
    (stable dispatcher.latestReadyFullset <|> stable dispatcher.latestReadyNegrisk).map
      PublishedSnapshot.snapshotId
  ({ coalescedVersions := dispatcher.dirtyRecords.map DirtyRecord.stateVersion
     lastStableSnapshotId
     lastStableStateVersion
     fullsetLastReadySnapshotId := dispatcher.latestReadyFullset.map PublishedSnapshot.snapshotId
     fullsetLastReadyStateVersion :=
       dispatcher.latestReadyFullset.map PublishedSnapshot.stateVersion
     negriskLastReadySnapshotId := dispatcher.latestReadyNegrisk.map PublishedSnapshot.snapshotId
     negriskLastReadyStateVersion :=
       dispatcher.latestReadyNegrisk.map PublishedSnapshot.stateVersion },
    dispatcher)

/-- A snapshot leaves no record it covers dirty in a book it is ready for. -/
theorem clean_of_clearDirtyDomains {version : Nat} {cleared : List DirtyDomain}
    {record : DirtyRecord}
    (h : record ∈ (dispatcher.clearDirtyDomains version cleared).dirtyRecords)
    (hversion : record.stateVersion ≤ version) :
    ∀ domain ∈ record.domains, domain ∉ cleared := by
  simp only [clearDirtyDomains, List.mem_filter, List.mem_map] at h
  obtain ⟨⟨source, -, rfl⟩, -⟩ := h
  intro domain hdomain
  by_cases hcovered : source.stateVersion ≤ version
  · simp only [if_pos hcovered, List.mem_filter] at hdomain
    simpa using hdomain.2
  · rw [if_neg hcovered] at hversion
    exact absurd hversion hcovered

end DispatchLoop

end AxiomArb.AppLive

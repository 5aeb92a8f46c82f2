import AxiomArb.Library.Command
import AxiomArb.Library.Run
import AxiomArb.VenuePolymarket.Metadata
import Mathlib.Data.List.Basic

/-!
# The cache of discovered metadata

A successful refresh publishes what it discovered as the next snapshot, and puts the one
before it into the history.  A fetch whose refresh fails falls back on the last snapshot.
After any calls the cache is the list of the discoveries that succeeded, numbered from one
(`cacheAfter_eq`).

## Honest boundary

* Refreshes are serialised by their lock, so calls come one after another.
* What a call discovers is an input of the call.  Traces and timings are left out, and
  revisions are integers.
-/

namespace AxiomArb.VenuePolymarket

open Library

variable {γ ε : Type}

structure NegRiskDiscoverySnapshot where
  discoveryRevision : Int
  metadataSnapshotHash : String
  rows : List NegRiskMarketMetadata
deriving DecidableEq, Repr

structure NegRiskMetadataCache where
  current : Option NegRiskDiscoverySnapshot
  history : List NegRiskDiscoverySnapshot
deriving DecidableEq, Repr

structure MetadataRefreshOutcome where
  rows : List NegRiskMarketMetadata
  discoveryRevision : Int
  metadataSnapshotHash : String
deriving DecidableEq, Repr

/-! ## Refreshing -/

def NegRiskDiscovery.snapshot (discovery : NegRiskDiscovery) (discoveryRevision : Int) :
    NegRiskDiscoverySnapshot :=
  { discoveryRevision
    metadataSnapshotHash := discovery.metadataSnapshotHash
    rows := discovery.rows.map fun row ↦
      row.intoPublic discoveryRevision discovery.metadataSnapshotHash }

namespace NegRiskMetadataCache

def empty : NegRiskMetadataCache := { current := none, history := [] }

def nextRevision (cache : NegRiskMetadataCache) : Int :=
  cache.current.elim 1 fun snapshot ↦ snapshot.discoveryRevision + 1

def replace (cache : NegRiskMetadataCache) (snapshot : NegRiskDiscoverySnapshot) :
    NegRiskMetadataCache :=
  { current := some snapshot
    history := match cache.current with
      | some previous => cache.history ++ [previous]
      | none => cache.history }

end NegRiskMetadataCache

/-- What both refreshes do with what they discovered. -/
def publish (discovery : NegRiskDiscovery) :
    Command ε NegRiskMetadataCache NegRiskDiscoverySnapshot := do
  let cache ← get
  let snapshot := discovery.snapshot cache.nextRevision
  set (cache.replace snapshot)
  return snapshot

def refreshNegRiskMetadataFromApiInner
    (discovered : Except (MetadataApiRefreshError γ) NegRiskDiscovery) :
    Command (MetadataApiRefreshError γ) NegRiskMetadataCache MetadataRefreshOutcome := do
  let discovery ← discovered
  let snapshot ← publish discovery
  return {
    rows := snapshot.rows
    discoveryRevision := snapshot.discoveryRevision
    metadataSnapshotHash := snapshot.metadataSnapshotHash }

def mapLegacyMetadataRefreshError : MetadataApiRefreshError γ → RestError γ
  | .gateway error => .gateway error
  | .metadata error => .metadata error

def refreshNegRiskMetadataFromApiForLegacyShell
    (discovered : Except (MetadataApiRefreshError γ) NegRiskDiscovery) :
    Command (RestError γ) NegRiskMetadataCache (List NegRiskMarketMetadata) := do
  let outcome ← focus id (fun _ cache ↦ cache) mapLegacyMetadataRefreshError
    (refreshNegRiskMetadataFromApiInner discovered)
  return outcome.rows

/-- What a call discovers, through the metadata API of the client or without one. -/
inductive Discovered (γ : Type) where
  | fromApi (discovered : Except (MetadataApiRefreshError γ) NegRiskDiscovery)
  | overRest (discovered : Except (RestError γ) NegRiskDiscovery)

def tryFetchNegRiskMetadataRows :
    Discovered γ → Command (RestError γ) NegRiskMetadataCache (List NegRiskMarketMetadata)
  | .fromApi discovered => refreshNegRiskMetadataFromApiForLegacyShell discovered
  | .overRest discovered => do
      let discovery ← discovered
      let snapshot ← publish discovery
      return snapshot.rows

/-- The rows of the last snapshot, or the error that a refresh ended with. -/
def fallBack (error : RestError γ) :
    Command (RestError γ) NegRiskMetadataCache (List NegRiskMarketMetadata) := do
  let cache ← get
  match cache.current with
  | some snapshot => return snapshot.rows
  | none => throw error

def fetchNegRiskMetadataRows :
    Discovered γ → Command (RestError γ) NegRiskMetadataCache (List NegRiskMarketMetadata)
  | .fromApi discovered =>
      tryCatch (refreshNegRiskMetadataFromApiForLegacyShell discovered) fallBack
  | .overRest discovered => tryCatch (tryFetchNegRiskMetadataRows (.overRest discovered)) fallBack

inductive MetadataCall (γ : Type) where
  | fetch (discovered : Discovered γ)
  | tryFetch (discovered : Discovered γ)

namespace MetadataCall

def command : MetadataCall γ →
    Command (RestError γ) NegRiskMetadataCache (List NegRiskMarketMetadata)
  | .fetch discovered => fetchNegRiskMetadataRows discovered
  | .tryFetch discovered => tryFetchNegRiskMetadataRows discovered

def after (cache : NegRiskMetadataCache) (call : MetadataCall γ) : NegRiskMetadataCache :=
  (exec call.command cache).2

end MetadataCall

/-- The cache of a client after the calls. -/
def cacheAfter (calls : List (MetadataCall γ)) : NegRiskMetadataCache :=
  run MetadataCall.after .empty calls

/-! ## What a call does -/

/-- The outcome of a discovery, its error named as the client names it. -/
def Discovered.outcome : Discovered γ → Except (RestError γ) NegRiskDiscovery
  | .fromApi discovered => discovered.mapError mapLegacyMetadataRefreshError
  | .overRest discovered => discovered

def MetadataCall.discovery : MetadataCall γ → Option NegRiskDiscovery
  | .fetch discovered | .tryFetch discovered => discovered.outcome.toOption

variable {cache : NegRiskMetadataCache} {discovered : Discovered γ} {discovery : NegRiskDiscovery}
  {error : RestError γ} {call : MetadataCall γ} {calls : List (MetadataCall γ)}

/-- Both refreshes publish what was discovered, or leave the cache alone. -/
theorem exec_tryFetchNegRiskMetadataRows :
    exec (tryFetchNegRiskMetadataRows discovered) cache =
      match discovered.outcome with
      | .ok discovery =>
          (.ok (discovery.snapshot cache.nextRevision).rows,
            cache.replace (discovery.snapshot cache.nextRevision))
      | .error error => (.error error, cache) := by
  cases discovered with
  | fromApi discovered =>
      rw [tryFetchNegRiskMetadataRows, refreshNegRiskMetadataFromApiForLegacyShell, exec_bind,
        exec_focus]
      cases discovered with
      | ok discovery => rfl
      | error error => rfl
  | overRest discovered =>
      rw [tryFetchNegRiskMetadataRows, exec_bind, exec_lift]
      cases discovered with
      | ok discovery => rfl
      | error error => rfl

theorem exec_fallBack :
    exec (fallBack error) cache =
      (match cache.current with
        | some snapshot => .ok snapshot.rows
        | none => .error error, cache) := by
  rw [fallBack, exec_bind, exec_get]
  cases hcurrent : cache.current with
  | none => simp only [hcurrent, exec_throw]
  | some snapshot => simp only [hcurrent, exec_pure]

theorem fetchNegRiskMetadataRows_eq (discovered : Discovered γ) :
    fetchNegRiskMetadataRows discovered =
      tryCatch (tryFetchNegRiskMetadataRows discovered) fallBack := by
  cases discovered with
  | fromApi discovered => rfl
  | overRest discovered => rfl

theorem exec_fetchNegRiskMetadataRows :
    exec (fetchNegRiskMetadataRows discovered) cache =
      match discovered.outcome with
      | .ok discovery =>
          (.ok (discovery.snapshot cache.nextRevision).rows,
            cache.replace (discovery.snapshot cache.nextRevision))
      | .error error =>
          (match cache.current with
            | some snapshot => .ok snapshot.rows
            | none => .error error, cache) := by
  rw [fetchNegRiskMetadataRows_eq, exec_tryCatch, exec_tryFetchNegRiskMetadataRows]
  cases discovered.outcome with
  | ok discovery => rfl
  | error error => exact exec_fallBack

/-- A call publishes its discovery, or leaves the cache alone. -/
theorem MetadataCall.after_eq :
    call.after cache =
      match call.discovery with
      | some discovery => cache.replace (discovery.snapshot cache.nextRevision)
      | none => cache := by
  cases call with
  | fetch discovered =>
      rw [after, command, exec_fetchNegRiskMetadataRows, discovery]
      cases discovered.outcome with
      | ok discovery => rfl
      | error error => rfl
  | tryFetch discovered =>
      rw [after, command, exec_tryFetchNegRiskMetadataRows, discovery]
      cases discovered.outcome with
      | ok discovery => rfl
      | error error => rfl

/-! ## Runs of calls -/

/-- The discoveries that succeeded. -/
def discoveries (calls : List (MetadataCall γ)) : List NegRiskDiscovery :=
  calls.filterMap MetadataCall.discovery

/-- Discoveries as snapshots, numbered from one. -/
def published (discoveries : List NegRiskDiscovery) : List NegRiskDiscoverySnapshot :=
  discoveries.mapIdx fun i discovery ↦ discovery.snapshot (i + 1)

/-- The cache that holds the snapshots. -/
def NegRiskMetadataCache.ofSnapshots (snapshots : List NegRiskDiscoverySnapshot) :
    NegRiskMetadataCache :=
  { current := snapshots.getLast?, history := snapshots.dropLast }

theorem published_concat (discoveries : List NegRiskDiscovery) (discovery : NegRiskDiscovery) :
    published (discoveries ++ [discovery]) =
      published discoveries ++ [discovery.snapshot (discoveries.length + 1)] := by
  rw [published, List.mapIdx_concat]
  rfl

theorem nextRevision_ofSnapshots (discoveries : List NegRiskDiscovery) :
    (NegRiskMetadataCache.ofSnapshots (published discoveries)).nextRevision =
      discoveries.length + 1 := by
  induction discoveries using List.reverseRecOn with
  | nil => rfl
  | append_singleton discoveries discovery ih =>
      rw [published_concat, NegRiskMetadataCache.nextRevision, NegRiskMetadataCache.ofSnapshots]
      simp [NegRiskDiscovery.snapshot]

theorem replace_ofSnapshots (snapshots : List NegRiskDiscoverySnapshot)
    (snapshot : NegRiskDiscoverySnapshot) :
    (NegRiskMetadataCache.ofSnapshots snapshots).replace snapshot =
      .ofSnapshots (snapshots ++ [snapshot]) := by
  induction snapshots using List.reverseRecOn with
  | nil => rfl
  | append_singleton snapshots previous ih =>
      simp [NegRiskMetadataCache.replace, NegRiskMetadataCache.ofSnapshots]

/-- The cache is the list of the discoveries that succeeded. -/
theorem cacheAfter_eq (calls : List (MetadataCall γ)) :
    cacheAfter calls = .ofSnapshots (published (discoveries calls)) := by
  induction calls using List.reverseRecOn with
  | nil => rfl
  | append_singleton calls call ih =>
      have hrun : cacheAfter (calls ++ [call]) = call.after (cacheAfter calls) := by
        rw [cacheAfter, run_append]
        rfl
      rw [hrun, MetadataCall.after_eq, discoveries, List.filterMap_append]
      cases hdiscovery : call.discovery with
      | none => simp [hdiscovery, ih, discoveries]
      | some discovery =>
          have hone : [call].filterMap MetadataCall.discovery = [discovery] := by
            simp [hdiscovery]
          rw [hone, published_concat, ih, nextRevision_ofSnapshots]
          exact replace_ofSnapshots _ _

/-- Rows carry the revision and the hash of their snapshot. -/
theorem stamped_of_mem_published {discoveries : List NegRiskDiscovery}
    {snapshot : NegRiskDiscoverySnapshot} (hsnapshot : snapshot ∈ published discoveries)
    {row : NegRiskMarketMetadata} (hrow : row ∈ snapshot.rows) :
    row.discoveryRevision = snapshot.discoveryRevision ∧
      row.metadataSnapshotHash = snapshot.metadataSnapshotHash := by
  obtain ⟨i, hi, rfl⟩ := List.mem_mapIdx.mp hsnapshot
  obtain ⟨row, -, rfl⟩ := List.mem_map.mp hrow
  exact ⟨rfl, rfl⟩

/-- An empty listing is a discovery, of no rows. -/
theorem discoverRows_of_empty (readStrings : String → Option (List String))
    (sha256 : String → String) (ofMetadata : NegRiskMetadataError → ε)
    {fetchPage : Nat → Except ε (List GammaEvent)} (hpage : fetchPage 0 = .ok []) (fuel : Nat) :
    discoverRows readStrings sha256 ofMetadata fetchPage (fuel + 1) =
      some (.ok { rows := [], metadataSnapshotHash := snapshotHash sha256 [] }) := by
  have hread : DiscoveryProgress.readPages readStrings ofMetadata fetchPage (fuel + 1) 0 .empty =
      some (.ok .empty) := by
    rw [DiscoveryProgress.readPages, hpage]
    rfl
  have hrows : canonicalizeRows [] = [] := List.mergeSort_nil
  have hfinish : DiscoveryProgress.empty.finish sha256 =
      .ok { rows := [], metadataSnapshotHash := snapshotHash sha256 [] } := by
    rw [DiscoveryProgress.finish, if_neg (fun h ↦ Nat.lt_irrefl 0 h.2)]
    rw [DiscoveryProgress.empty, InsertionTable.empty, hrows]
  rw [discoverRows, hread]
  simp only [Option.map_some, Except.bind, hfinish]
  rfl

theorem discoveries_concat_fetch (calls : List (MetadataCall γ)) (discovered : Discovered γ) :
    discoveries (calls ++ [.fetch discovered]) =
      discoveries calls ++ discovered.outcome.toOption.toList := by
  rw [discoveries, List.filterMap_append, ← discoveries]
  cases houtcome : discovered.outcome.toOption with
  | none => simp [MetadataCall.discovery, houtcome]
  | some discovery => simp [MetadataCall.discovery, houtcome]

/-- A fetch gives the rows of the last success, its own included, and fails only before the
first. -/
theorem fetched_after (calls : List (MetadataCall γ)) (discovered : Discovered γ) :
    match (published (discoveries (calls ++ [.fetch discovered]))).getLast? with
    | some snapshot =>
        (exec (fetchNegRiskMetadataRows discovered) (cacheAfter calls)).1 = .ok snapshot.rows
    | none => ∃ error, discovered.outcome = .error error ∧
        (exec (fetchNegRiskMetadataRows discovered) (cacheAfter calls)).1 = .error error := by
  rw [exec_fetchNegRiskMetadataRows, discoveries_concat_fetch, cacheAfter_eq]
  cases discovered.outcome with
  | ok discovery =>
      have hlast : (published (discoveries calls ++ [discovery])).getLast? =
          some (discovery.snapshot ((discoveries calls).length + 1)) := by
        rw [published_concat, List.getLast?_concat]
      simp only [Except.toOption, Option.toList_some, hlast, nextRevision_ofSnapshots]
  | error error =>
      simp only [Except.toOption, Option.toList_none, List.append_nil]
      cases hlast : (published (discoveries calls)).getLast? with
      | none =>
          refine ⟨error, rfl, ?_⟩
          simp only [NegRiskMetadataCache.ofSnapshots, hlast]
      | some snapshot => simp only [NegRiskMetadataCache.ofSnapshots, hlast]

/-- **The cache of metadata.**  After any calls the current snapshot and the history are the
successes in their order, the revision counts them, rows carry the revision and the hash of
their snapshot, a failed refresh changes nothing, and a fetch gives the rows of the last
success.  A listing without events is a success too. -/
theorem cache_tracks_successes (calls : List (MetadataCall γ)) :
    (cacheAfter calls).current.elim 0 NegRiskDiscoverySnapshot.discoveryRevision =
        (discoveries calls).length ∧
      (cacheAfter calls).current = (published (discoveries calls)).getLast? ∧
      (cacheAfter calls).history = (published (discoveries calls)).dropLast ∧
      (∀ snapshot ∈ (cacheAfter calls).history ++ (cacheAfter calls).current.toList,
        ∀ row ∈ snapshot.rows, row.discoveryRevision = snapshot.discoveryRevision ∧
          row.metadataSnapshotHash = snapshot.metadataSnapshotHash) ∧
      (∀ call : MetadataCall γ, call.discovery = none →
        call.after (cacheAfter calls) = cacheAfter calls) ∧
      (∀ discovered : Discovered γ,
        match (published (discoveries (calls ++ [.fetch discovered]))).getLast? with
        | some snapshot =>
            (exec (fetchNegRiskMetadataRows discovered) (cacheAfter calls)).1 = .ok snapshot.rows
        | none => ∃ error, discovered.outcome = .error error ∧
            (exec (fetchNegRiskMetadataRows discovered) (cacheAfter calls)).1 = .error error) ∧
      ∀ (readStrings : String → Option (List String)) (sha256 : String → String) (fuel : Nat),
        discoverNegRiskMetadataRowsFromApi (γ := γ) readStrings sha256 (fun _ _ ↦ .ok []) (fuel + 1) =
          some (.ok { rows := [], metadataSnapshotHash := snapshotHash sha256 [] }) := by
  have hcache := cacheAfter_eq calls
  have hcurrent : (cacheAfter calls).current = (published (discoveries calls)).getLast? := by
    rw [hcache]
    rfl
  have hhistory : (cacheAfter calls).history = (published (discoveries calls)).dropLast := by
    rw [hcache]
    rfl
  refine ⟨?_, hcurrent, hhistory, ?_, ?_, fetched_after calls, ?_⟩
  · rw [hcurrent]
    induction discoveries calls using List.reverseRecOn with
    | nil => rfl
    | append_singleton discoveries discovery ih =>
        rw [published_concat, List.getLast?_concat, List.length_append]
        rfl
  · intro snapshot hsnapshot row hrow
    have hmem : snapshot ∈ published (discoveries calls) := by
      rw [hhistory, hcurrent] at hsnapshot
      rcases List.mem_append.mp hsnapshot with hearlier | hlast
      · exact List.mem_of_mem_dropLast hearlier
      · exact List.mem_of_mem_getLast? (Option.mem_toList.mp hlast)
    exact stamped_of_mem_published hmem hrow
  · intro call hcall
    rw [MetadataCall.after_eq, hcall]
  · intro readStrings sha256 fuel
    exact discoverRows_of_empty readStrings sha256 _ rfl fuel

def sampleOutage : MetadataCall Unit := .tryFetch (.overRest (.error (.http "timeout")))

/-- An outage, then an empty listing, then another outage. -/
def sampleOutages : List (MetadataCall Unit) :=
  [.fetch (.fromApi (.error (.gateway ()))),
    .tryFetch (.overRest (.ok { rows := [], metadataSnapshotHash := "sha256:00" })),
    sampleOutage]

theorem cache_tracks_successes_outages :
    (cacheAfter sampleOutages).current.elim 0 NegRiskDiscoverySnapshot.discoveryRevision = 1 ∧
      sampleOutage.after (cacheAfter sampleOutages) = cacheAfter sampleOutages :=
  ⟨(cache_tracks_successes sampleOutages).1,
    (cache_tracks_successes sampleOutages).2.2.2.2.1 sampleOutage rfl⟩

end AxiomArb.VenuePolymarket

import AxiomArb.State.Reconcile

/-!
# The posture of a store

A store's posture is its mode together with its overlay.  Every operation that
touches it installs one of three policies, and `applyRestorePosture` chooses
between the last two by what is pending.  The module says once what the posture
operations do and which fields they leave alone.
-/

namespace AxiomArb.State

open Domain Library

namespace StateStore

variable (store : StateStore)

/-- The mode and the overlay, as they are stored. -/
def posture : RuntimePolicy := { mode := store.runtimeMode, overlay := store.overlay }

/-- No new trading: the posture a failed reconcile leaves. -/
structure Restricted : Prop where
  mode_eq : store.mode = .reconciling
  overlay_eq : store.overlay = some .cancelOnly
  noRepair : store.allowsAutomaticRepair = false

/-- Trading is not open: the posture before any reconcile has succeeded. -/
structure CancelOnly : Prop where
  mode_ne : store.mode ≠ .healthy
  overlay_eq : store.overlay = some .cancelOnly
  noRepair : store.allowsAutomaticRepair = false

/-- The policy `applyRestorePosture` installs. -/
def restorePolicy : RuntimePolicy :=
  if store.firstReconcileSucceeded then
    if store.pendingReconcileAnchors = ∅ then reconciledPolicy else reconcileAttentionPolicy
  else
    store.posture

variable {store}

theorem restricted_iff_posture : store.Restricted ↔ store.posture = reconcileAttentionPolicy := by
  constructor
  · rintro ⟨hmode, hoverlay, -⟩
    simp only [mode] at hmode
    simp [posture, reconcileAttentionPolicy, hmode, hoverlay]
  · intro h
    obtain ⟨hmode, hoverlay⟩ := RuntimePolicy.mk.injEq .. ▸ h
    refine ⟨hmode, hoverlay, ?_⟩
    simp [allowsAutomaticRepair, State.allowsAutomaticRepair, hmode]

theorem Restricted.cancelOnly (h : store.Restricted) : store.CancelOnly where
  mode_ne := by simp [h.mode_eq]
  overlay_eq := h.overlay_eq
  noRepair := h.noRepair

/-- Whether trading is open depends on the posture and on the first reconcile only. -/
theorem CancelOnly.congr {store' : StateStore} (h : store.CancelOnly)
    (hposture : store'.posture = store.posture)
    (hfirst : store'.firstReconcileSucceeded = store.firstReconcileSucceeded) :
    store'.CancelOnly := by
  obtain ⟨hmode, hoverlay⟩ := RuntimePolicy.mk.injEq .. ▸ hposture
  refine ⟨?_, ?_, ?_⟩
  · exact fun hhealthy ↦ h.mode_ne (hmode.symm.trans hhealthy)
  · exact hoverlay.trans h.overlay_eq
  · rw [← h.noRepair, allowsAutomaticRepair, allowsAutomaticRepair, hmode, hfirst]

instance : Decidable store.Restricted := decidable_of_iff _ restricted_iff_posture.symm

instance : Decidable store.CancelOnly :=
  decidable_of_iff (store.mode ≠ .healthy ∧ store.overlay = some .cancelOnly ∧
      store.allowsAutomaticRepair = false)
    ⟨fun ⟨hmode, hoverlay, hrepair⟩ ↦ ⟨hmode, hoverlay, hrepair⟩,
      fun h ↦ ⟨h.mode_ne, h.overlay_eq, h.noRepair⟩⟩

/-- An open store is neither. -/
theorem not_cancelOnly_of_healthy (h : store.posture = reconciledPolicy) : ¬ store.CancelOnly :=
  fun hc ↦ hc.mode_ne (congrArg RuntimePolicy.mode h)

@[simp] theorem hasPendingReconcileAnchors_iff :
    store.hasPendingReconcileAnchors = true ↔ store.pendingReconcileAnchors ≠ ∅ := by
  rw [hasPendingReconcileAnchors, Bool.not_eq_true', Std.ExtTreeMap.isEmpty_eq_false_iff]

/-- Restoring the posture writes the posture and nothing else. -/
theorem applyRestorePosture_eq :
    store.applyRestorePosture = store.applyPolicy store.restorePolicy := by
  unfold applyRestorePosture restorePolicy
  cases hfirst : store.firstReconcileSucceeded with
  | false => rfl
  | true =>
      by_cases hpending : store.pendingReconcileAnchors = ∅
      · simp [hpending]
      · simp [hpending, enterReconciling]

/-! ## What the operations on the posture do -/

section Frame

variable (policy : RuntimePolicy)

@[simp] theorem posture_applyPolicy : (store.applyPolicy policy).posture = policy := rfl

@[simp] theorem posture_enterReconciling :
    store.enterReconciling.posture = reconcileAttentionPolicy := rfl

@[simp] theorem posture_applyRestorePosture :
    store.applyRestorePosture.posture = store.restorePolicy := by
  rw [applyRestorePosture_eq, posture_applyPolicy]

@[simp] theorem posture_markReconcileRequired :
    store.markReconcileRequired.posture = reconcileAttentionPolicy := rfl

/-- Installing a policy leaves every other field alone. -/
@[simp] theorem applyPolicy_frame :
    (store.applyPolicy policy).stateVersion = store.stateVersion ∧
    (store.applyPolicy policy).lastConsumedJournalSeq = store.lastConsumedJournalSeq ∧
    (store.applyPolicy policy).lastAppliedJournalSeq = store.lastAppliedJournalSeq ∧
    (store.applyPolicy policy).fullsetAnchor = store.fullsetAnchor ∧
    (store.applyPolicy policy).firstReconcileSucceeded = store.firstReconcileSucceeded ∧
    (store.applyPolicy policy).appliedFactJournal = store.appliedFactJournal ∧
    (store.applyPolicy policy).consumedJournal = store.consumedJournal ∧
    (store.applyPolicy policy).familyDiscoveryRecords = store.familyDiscoveryRecords ∧
    (store.applyPolicy policy).pendingFamilyBackfills = store.pendingFamilyBackfills ∧
    (store.applyPolicy policy).pendingReconcileAnchors = store.pendingReconcileAnchors ∧
    (store.applyPolicy policy).runtimeAttentionAnchors = store.runtimeAttentionAnchors ∧
    (store.applyPolicy policy).openOrders = store.openOrders :=
  ⟨rfl, rfl, rfl, rfl, rfl, rfl, rfl, rfl, rfl, rfl, rfl, rfl⟩

/-- Restoring the posture leaves every other field alone. -/
@[simp] theorem applyRestorePosture_frame :
    store.applyRestorePosture.stateVersion = store.stateVersion ∧
    store.applyRestorePosture.lastConsumedJournalSeq = store.lastConsumedJournalSeq ∧
    store.applyRestorePosture.lastAppliedJournalSeq = store.lastAppliedJournalSeq ∧
    store.applyRestorePosture.fullsetAnchor = store.fullsetAnchor ∧
    store.applyRestorePosture.firstReconcileSucceeded = store.firstReconcileSucceeded ∧
    store.applyRestorePosture.appliedFactJournal = store.appliedFactJournal ∧
    store.applyRestorePosture.consumedJournal = store.consumedJournal ∧
    store.applyRestorePosture.familyDiscoveryRecords = store.familyDiscoveryRecords ∧
    store.applyRestorePosture.pendingFamilyBackfills = store.pendingFamilyBackfills ∧
    store.applyRestorePosture.pendingReconcileAnchors = store.pendingReconcileAnchors ∧
    store.applyRestorePosture.runtimeAttentionAnchors = store.runtimeAttentionAnchors ∧
    store.applyRestorePosture.openOrders = store.openOrders := by
  rw [applyRestorePosture_eq]
  exact applyPolicy_frame _

end Frame

end StateStore

end AxiomArb.State

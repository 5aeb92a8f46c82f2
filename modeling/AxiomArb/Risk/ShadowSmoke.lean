import AxiomArb.Risk.Activation

/-!
# The shadow-smoke guard

Execution modes are ordered by what they let through.  The guard of the real-user shadow
smoke lowers a live mode to a shadow mode; but it takes the place of the phase-one clamp,
which disables the same mode on the neg-risk route.  So the guard restricts, except where
phase one had disabled what is configured live (`onlyRestricts_iff`).
-/

namespace AxiomArb.Domain

/-- How much a mode lets through: nothing, some of what live lets through, or all. -/
def ExecutionMode.level : ExecutionMode → Nat
  | .disabled => 0
  | .reduceOnly | .recoveryOnly | .shadow => 1
  | .live => 2

end AxiomArb.Domain

namespace AxiomArb.Risk

open Domain Library

/-! ## Clamps -/

section Clamps

variable {route : String} {mode : ExecutionMode}

/-- The guard lowers what it is given. -/
theorem level_clampRealUserShadowSmokeMode_le :
    (clampRealUserShadowSmokeMode route mode).level ≤ mode.level := by
  rw [clampRealUserShadowSmokeMode]
  split_ifs with h
  · rw [h.2]
    decide
  · exact Nat.le_refl _

theorem clampRealUserShadowSmokeMode_ne_live (h : isRiskExpandingRoute route) :
    clampRealUserShadowSmokeMode route mode ≠ .live := by
  rw [clampRealUserShadowSmokeMode]
  split_ifs with hlive
  · decide
  · intro hmode
    exact hlive ⟨h, hmode⟩

/-- Against the phase-one clamp the guard lets more through in one case alone. -/
theorem level_clampRealUserShadowSmokeMode_le_clampPhaseOneMode_iff :
    (clampRealUserShadowSmokeMode route mode).level ≤ (clampPhaseOneMode route mode).level ↔
      ¬ (route = ROUTE ∧ mode = .live) := by
  constructor
  · rintro hle ⟨rfl, rfl⟩
    exact absurd hle (by decide)
  · intro h
    rw [clampPhaseOneMode]
    split_ifs with hroute
    · have hmode : phaseOneEffectiveMode mode = mode := by
        cases mode with
        | live => exact absurd ⟨hroute, rfl⟩ h
        | _ => rfl
      rw [hmode]
      exact level_clampRealUserShadowSmokeMode_le
    · exact level_clampRealUserShadowSmokeMode_le

end Clamps

/-! ## The guarded policy -/

namespace ActivationPolicy

variable (policy : ActivationPolicy) (route scope snapshotId : String)

/-- The overlay of the scope says live or, if it has none, the rule that covers it does. -/
def ConfiguredLive : Prop :=
  policy.overlays[({ route, scope } : RouteScope)]? = some .live ∨
    policy.overlays[({ route, scope } : RouteScope)]? = none ∧
      ∃ rule, resolveRule policy.capabilityMatrix route scope = some rule ∧ rule.mode = .live

/-- The mode that a scope is given before it is clamped. -/
def configuredMode : ExecutionMode :=
  (policy.overlays[({ route, scope } : RouteScope)]?).getD
    ((resolveRule policy.capabilityMatrix route scope).elim .disabled RolloutRule.mode)

theorem mode_activationFor :
    (policy.activationFor route scope snapshotId).mode =
      policy.clampMode route (policy.configuredMode route scope) := by
  rw [activationFor, configuredMode]
  cases policy.overlays[({ route, scope } : RouteScope)]? with
  | some mode => rfl
  | none => cases resolveRule policy.capabilityMatrix route scope <;> rfl

theorem mode_activationFor_withRealUserShadowSmoke :
    (policy.withRealUserShadowSmoke.activationFor route scope snapshotId).mode =
      clampRealUserShadowSmokeMode route (policy.configuredMode route scope) :=
  mode_activationFor policy.withRealUserShadowSmoke route scope snapshotId

theorem configuredMode_eq_live_iff :
    policy.configuredMode route scope = .live ↔ policy.ConfiguredLive route scope := by
  rw [configuredMode, ConfiguredLive]
  cases policy.overlays[({ route, scope } : RouteScope)]? with
  | some mode => simp
  | none => cases resolveRule policy.capabilityMatrix route scope <;> simp

/-- With the guard a scope is not given a more permissive mode than without it, and none is
given a live mode on a guarded route. -/
structure OnlyRestricts : Prop where
  level_le : (policy.withRealUserShadowSmoke.activationFor route scope snapshotId).mode.level ≤
    (policy.activationFor route scope snapshotId).mode.level
  ne_live : isRiskExpandingRoute route →
    (policy.withRealUserShadowSmoke.activationFor route scope snapshotId).mode ≠ .live

/-- **The guard only restricts, unless it lifts the phase-one clamp off a live scope.** -/
theorem onlyRestricts_iff (policy : ActivationPolicy) (route scope snapshotId : String) :
    policy.OnlyRestricts route scope snapshotId ↔
      ¬ (policy.clampNegriskLive ∧ ¬ policy.clampNegriskToShadow ∧ route = ROUTE ∧
        policy.ConfiguredLive route scope) := by
  have hguarded : policy.OnlyRestricts route scope snapshotId ↔
      (clampRealUserShadowSmokeMode route (policy.configuredMode route scope)).level ≤
        (policy.clampMode route (policy.configuredMode route scope)).level := by
    rw [← mode_activationFor_withRealUserShadowSmoke policy route scope snapshotId,
      ← mode_activationFor policy route scope snapshotId]
    refine ⟨OnlyRestricts.level_le, fun hle ↦ ⟨hle, fun hroute ↦ ?_⟩⟩
    rw [mode_activationFor_withRealUserShadowSmoke]
    exact clampRealUserShadowSmokeMode_ne_live hroute
  rw [hguarded, ← configuredMode_eq_live_iff, clampMode]
  split_ifs with hshadow hphase
  · simp [hshadow]
  · rw [level_clampRealUserShadowSmokeMode_le_clampPhaseOneMode_iff]
    simp [hshadow, hphase]
  · simp [hphase, level_clampRealUserShadowSmokeMode_le]

/-- A live overlay, which phase one disables, runs in shadow under the guard. -/
theorem not_onlyRestricts :
    ¬ ∀ policy route scope snapshotId, OnlyRestricts policy route scope snapshotId := by
  intro h
  have hle := (h (phaseOneDefaults.withOverlay "neg-risk" "family-a" .live) "neg-risk" "family-a"
    "snapshot-1").level_le
  have hlive : (phaseOneDefaults.withOverlay "neg-risk" "family-a" .live).configuredMode
      "neg-risk" "family-a" = .live := by
    rw [configuredMode, withOverlay, Std.ExtTreeMap.getElem?_insert_self]
    rfl
  rw [mode_activationFor_withRealUserShadowSmoke, mode_activationFor, hlive] at hle
  exact absurd hle (by decide)

end ActivationPolicy

end AxiomArb.Risk

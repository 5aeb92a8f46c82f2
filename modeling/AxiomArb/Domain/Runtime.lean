import Mathlib.Data.Rat.Defs

/-!
# Modes, overlays and policies

The runtime's trading posture: the mode, the overlay that restricts it, and the
pair of both that one transition installs.
-/

namespace AxiomArb.Domain

/-- A UTC instant, in nanoseconds since the epoch. -/
abbrev DateTime := Int

/-- A decimal amount.  `==` on the source's decimals compares the numbers, not
their scales, so they are read as rationals. -/
abbrev Decimal := ℚ

inductive RuntimeMode where
  | bootstrapping
  | healthy
  | reconciling
  | degraded
  | noNewRisk
  | globalHalt
deriving DecidableEq, Repr

inductive RuntimeOverlay where
  | reduceOnly
  | inventoryOnly
  | cancelOnly
deriving DecidableEq, Repr

structure RuntimePolicy where
  mode : RuntimeMode
  overlay : Option RuntimeOverlay
deriving DecidableEq, Repr

/-- The overlay a mode implies when none is set. -/
def RuntimeMode.defaultOverlay : RuntimeMode → Option RuntimeOverlay
  | .bootstrapping => some .cancelOnly
  | _ => none

/-- Whether a scope's state is trusted. -/
inductive StateConfidence where
  | certain
  | uncertain
deriving DecidableEq, Repr

inductive ExecutionMode where
  | disabled
  | shadow
  | live
  | reduceOnly
  | recoveryOnly
deriving DecidableEq, Repr

end AxiomArb.Domain

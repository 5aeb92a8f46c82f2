import AxiomArb.Domain.Runtime
import AxiomArb.Library.Fallible
import AxiomArb.Library.Rounding
import Mathlib.Data.Rat.Floor
import Mathlib.Tactic.NormNum

/-!
# Pricing of full sets

A full set is one YES and one NO share of a condition.  Both evaluators round what comes in
down and each fee up, so the edge they report never exceeds the exact one, and buying and
selling the same set at the same prices never gains.  Decimals are exact here.
-/

namespace AxiomArb.StrategyFullset

open Domain Library

structure FullSetLeg where
  quantity : Decimal
  priceUsdc : Decimal
deriving DecidableEq, Repr

structure FullSetFees where
  legFeeRate : Decimal
  mergeFeeUsdc : Decimal
  splitFeeUsdc : Decimal
deriving DecidableEq, Repr

/-- Only two constructors make a policy; both round to cents and have a positive quantum. -/
structure QuantizationPolicy where
  usdcDp : Nat
  priceQuantum : Decimal
  usdcDp_eq : usdcDp = 2
  priceQuantum_pos : 0 < priceQuantum
deriving DecidableEq

structure PricingBreakdown where
  grossUsdc : Decimal
  inputCostUsdc : Decimal
  feeUsdcEquiv : Decimal
  roundingLossUsdc : Decimal
  netOutputUsdc : Decimal
deriving DecidableEq, Repr

structure NormalizedEdge where
  breakdown : PricingBreakdown
  netEdgeUsdc : Decimal
  netEdgeBps : Decimal
deriving DecidableEq, Repr

inductive PricingError where
  | invalidPriceQuantum (priceQuantum : Decimal)
  | quantityMismatch (yesQuantity noQuantity : Decimal)
  | negativeQuantity (leg : String) (quantity : Decimal)
  | negativePrice (leg : String) (priceUsdc : Decimal)
  | priceAboveOne (leg : String) (priceUsdc : Decimal)
  | priceOffTick (leg : String) (priceUsdc priceQuantum : Decimal)
deriving DecidableEq, Repr

abbrev PricingResult := Except PricingError

namespace QuantizationPolicy

def usdcCents : QuantizationPolicy :=
  { usdcDp := 2, priceQuantum := 1 / 1000, usdcDp_eq := rfl, priceQuantum_pos := by norm_num }

def withPriceQuantum (priceQuantum : Decimal) : PricingResult QuantizationPolicy :=
  if h : priceQuantum ≤ 0 then
    .error (.invalidPriceQuantum priceQuantum)
  else
    .ok { usdcDp := 2, priceQuantum, usdcDp_eq := rfl, priceQuantum_pos := not_le.mp h }

def quantize (policy : QuantizationPolicy) (value : Decimal) : Decimal :=
  roundDp value policy.usdcDp .toZero

def quantizeFee (policy : QuantizationPolicy) (value : Decimal) : Decimal :=
  roundDp value policy.usdcDp .toPositiveInfinity

end QuantizationPolicy

def FullSetLeg.notional (leg : FullSetLeg) : Decimal := leg.quantity * leg.priceUsdc

def quantizedLegFees (yesLeg noLeg : FullSetLeg) (legFeeRate : Decimal)
    (quantization : QuantizationPolicy) : Decimal :=
  quantization.quantizeFee (yesLeg.notional * legFeeRate) +
    quantization.quantizeFee (noLeg.notional * legFeeRate)

def validateLeg (leg : String) (fullSetLeg : FullSetLeg) (quantization : QuantizationPolicy) :
    PricingResult Unit := do
  if fullSetLeg.quantity < 0 then
    throw (.negativeQuantity leg fullSetLeg.quantity)
  if fullSetLeg.priceUsdc < 0 then
    throw (.negativePrice leg fullSetLeg.priceUsdc)
  if fullSetLeg.priceUsdc > 1 then
    throw (.priceAboveOne leg fullSetLeg.priceUsdc)
  let ticks := fullSetLeg.priceUsdc / quantization.priceQuantum
  if ticks - RoundingStrategy.toZero.round ticks ≠ 0 then
    throw (.priceOffTick leg fullSetLeg.priceUsdc quantization.priceQuantum)

def matchedQuantity (yesLeg noLeg : FullSetLeg) : PricingResult Decimal :=
  if yesLeg.quantity ≠ noLeg.quantity then
    .error (.quantityMismatch yesLeg.quantity noLeg.quantity)
  else
    .ok yesLeg.quantity

def buildResult (grossUsdc inputCostUsdc feeUsdcEquiv roundingLossUsdc netOutputUsdc : Decimal) :
    NormalizedEdge :=
  let netEdgeUsdc := netOutputUsdc - inputCostUsdc - feeUsdcEquiv
  { breakdown := { grossUsdc, inputCostUsdc, feeUsdcEquiv, roundingLossUsdc, netOutputUsdc }
    netEdgeUsdc
    netEdgeBps := if inputCostUsdc = 0 then 0 else netEdgeUsdc * 10000 / inputCostUsdc }

section Evaluators

variable (yesLeg noLeg : FullSetLeg) (fees : FullSetFees) (quantization : QuantizationPolicy)

def evaluateBuyYesBuyNoMerge : PricingResult NormalizedEdge := do
  validateLeg "YES" yesLeg quantization
  validateLeg "NO" noLeg quantization
  let grossUsdc ← matchedQuantity yesLeg noLeg
  let inputCostUsdc := yesLeg.notional + noLeg.notional
  let feeUsdcEquiv := quantizedLegFees yesLeg noLeg fees.legFeeRate quantization +
    quantization.quantizeFee fees.mergeFeeUsdc
  let netOutputUsdc := quantization.quantize grossUsdc
  let roundingLossUsdc := grossUsdc - netOutputUsdc
  return buildResult grossUsdc inputCostUsdc feeUsdcEquiv roundingLossUsdc netOutputUsdc

def evaluateSplitSellYesSellNo : PricingResult NormalizedEdge := do
  validateLeg "YES" yesLeg quantization
  validateLeg "NO" noLeg quantization
  let inputCostUsdc ← matchedQuantity yesLeg noLeg
  let grossUsdc := yesLeg.notional + noLeg.notional
  let quantizedYesOutput := quantization.quantize yesLeg.notional
  let quantizedNoOutput := quantization.quantize noLeg.notional
  let netOutputUsdc := quantizedYesOutput + quantizedNoOutput
  let feeUsdcEquiv := quantizedLegFees yesLeg noLeg fees.legFeeRate quantization +
    quantization.quantizeFee fees.splitFeeUsdc
  let roundingLossUsdc := grossUsdc - netOutputUsdc
  return buildResult grossUsdc inputCostUsdc feeUsdcEquiv roundingLossUsdc netOutputUsdc

end Evaluators

/-! ## What validation accepts -/

variable {yesLeg noLeg : FullSetLeg} {fees : FullSetFees} {quantization : QuantizationPolicy}
  {edge : NormalizedEdge} {leg : String} {fullSetLeg : FullSetLeg} {value : Decimal}

theorem nonneg_of_validateLeg (h : validateLeg leg fullSetLeg quantization = .ok ()) :
    0 ≤ fullSetLeg.quantity ∧ 0 ≤ fullSetLeg.priceUsdc := by
  unfold validateLeg at h
  by_cases hquantity : fullSetLeg.quantity < 0
  · rw [if_pos hquantity] at h
    cases h
  · by_cases hprice : fullSetLeg.priceUsdc < 0
    · rw [if_neg hquantity, if_pos hprice] at h
      cases h
    · exact ⟨not_lt.mp hquantity, not_lt.mp hprice⟩

theorem notional_nonneg (h : validateLeg leg fullSetLeg quantization = .ok ()) :
    0 ≤ fullSetLeg.notional :=
  mul_nonneg (nonneg_of_validateLeg h).1 (nonneg_of_validateLeg h).2

/-- Legs that both evaluators price. -/
structure Accepted (yesLeg noLeg : FullSetLeg) (quantization : QuantizationPolicy) : Prop where
  yes : validateLeg "YES" yesLeg quantization = .ok ()
  no : validateLeg "NO" noLeg quantization = .ok ()
  matched : yesLeg.quantity = noLeg.quantity

theorem matchedQuantity_eq_ok (h : matchedQuantity yesLeg noLeg = .ok value) :
    yesLeg.quantity = noLeg.quantity ∧ value = yesLeg.quantity := by
  rw [matchedQuantity] at h
  split at h
  · cases h
  · rename_i hmatched
    exact ⟨not_not.mp hmatched, (Except.ok.inj h).symm⟩

theorem evaluateBuyYesBuyNoMerge_eq_ok
    (h : evaluateBuyYesBuyNoMerge yesLeg noLeg fees quantization = .ok edge) :
    Accepted yesLeg noLeg quantization ∧
      edge.breakdown.roundingLossUsdc = yesLeg.quantity - quantization.quantize yesLeg.quantity ∧
      edge.netEdgeUsdc = quantization.quantize yesLeg.quantity -
        (yesLeg.notional + noLeg.notional) -
          (quantizedLegFees yesLeg noLeg fees.legFeeRate quantization +
            quantization.quantizeFee fees.mergeFeeUsdc) := by
  obtain ⟨_, hyes, h⟩ := bind_eq_ok.mp h
  obtain ⟨_, hno, h⟩ := bind_eq_ok.mp h
  obtain ⟨gross, hmatched, h⟩ := bind_eq_ok.mp h
  obtain ⟨hquantity, rfl⟩ := matchedQuantity_eq_ok hmatched
  obtain rfl := Except.ok.inj h
  exact ⟨⟨hyes, hno, hquantity⟩, rfl, rfl⟩

theorem evaluateSplitSellYesSellNo_eq_ok
    (h : evaluateSplitSellYesSellNo yesLeg noLeg fees quantization = .ok edge) :
    Accepted yesLeg noLeg quantization ∧
      edge.breakdown.roundingLossUsdc = yesLeg.notional + noLeg.notional -
        (quantization.quantize yesLeg.notional + quantization.quantize noLeg.notional) ∧
      edge.netEdgeUsdc =
        quantization.quantize yesLeg.notional + quantization.quantize noLeg.notional -
          yesLeg.quantity -
            (quantizedLegFees yesLeg noLeg fees.legFeeRate quantization +
              quantization.quantizeFee fees.splitFeeUsdc) := by
  obtain ⟨_, hyes, h⟩ := bind_eq_ok.mp h
  obtain ⟨_, hno, h⟩ := bind_eq_ok.mp h
  obtain ⟨input, hmatched, h⟩ := bind_eq_ok.mp h
  obtain ⟨hquantity, rfl⟩ := matchedQuantity_eq_ok hmatched
  obtain rfl := Except.ok.inj h
  exact ⟨⟨hyes, hno, hquantity⟩, rfl, rfl⟩

/-! ## Rounding to cents -/

theorem quantize_bounds (quantization : QuantizationPolicy) (hvalue : 0 ≤ value) :
    quantization.quantize value ≤ value ∧ value - 1 / 100 < quantization.quantize value := by
  rw [QuantizationPolicy.quantize, quantization.usdcDp_eq]
  have hlt := sub_lt_roundDp_toZero hvalue 2
  exact ⟨roundDp_toZero_le hvalue 2, by norm_num at hlt ⊢; exact hlt⟩

theorem quantizeFee_bounds (quantization : QuantizationPolicy) (value : Decimal) :
    value ≤ quantization.quantizeFee value ∧ quantization.quantizeFee value < value + 1 / 100 := by
  rw [QuantizationPolicy.quantizeFee, quantization.usdcDp_eq]
  have hlt := roundDp_toPositiveInfinity_lt value 2
  exact ⟨le_roundDp_toPositiveInfinity value 2, by norm_num at hlt ⊢; exact hlt⟩

/-- The fees of both legs are raised by less than two cents. -/
theorem quantizedLegFees_bounds (yesLeg noLeg : FullSetLeg) (legFeeRate : Decimal)
    (quantization : QuantizationPolicy) :
    (yesLeg.notional + noLeg.notional) * legFeeRate ≤
        quantizedLegFees yesLeg noLeg legFeeRate quantization ∧
      quantizedLegFees yesLeg noLeg legFeeRate quantization <
        (yesLeg.notional + noLeg.notional) * legFeeRate + 2 / 100 := by
  obtain ⟨hyesLe, hyesLt⟩ := quantizeFee_bounds quantization (yesLeg.notional * legFeeRate)
  obtain ⟨hnoLe, hnoLt⟩ := quantizeFee_bounds quantization (noLeg.notional * legFeeRate)
  rw [quantizedLegFees, add_mul]
  constructor
  · exact add_le_add hyesLe hnoLe
  · linarith only [hyesLt, hnoLt]

/-! ## The reported edge against the exact one -/

/-- What buying both legs and merging them gains before any rounding. -/
def exactBuyEdge (yesLeg noLeg : FullSetLeg) (fees : FullSetFees) : Decimal :=
  yesLeg.quantity - (yesLeg.notional + noLeg.notional) -
    ((yesLeg.notional + noLeg.notional) * fees.legFeeRate + fees.mergeFeeUsdc)

/-- What splitting a set and selling both legs gains before any rounding. -/
def exactSellEdge (yesLeg noLeg : FullSetLeg) (fees : FullSetFees) : Decimal :=
  yesLeg.notional + noLeg.notional - yesLeg.quantity -
    ((yesLeg.notional + noLeg.notional) * fees.legFeeRate + fees.splitFeeUsdc)

theorem buy_bounds (h : evaluateBuyYesBuyNoMerge yesLeg noLeg fees quantization = .ok edge) :
    edge.netEdgeUsdc ≤ exactBuyEdge yesLeg noLeg fees ∧
      exactBuyEdge yesLeg noLeg fees - 4 / 100 < edge.netEdgeUsdc ∧
      0 ≤ edge.breakdown.roundingLossUsdc := by
  obtain ⟨haccepted, hloss, hedge⟩ := evaluateBuyYesBuyNoMerge_eq_ok h
  obtain ⟨houtLe, houtLt⟩ := quantize_bounds quantization (nonneg_of_validateLeg haccepted.yes).1
  obtain ⟨hlegsLe, hlegsLt⟩ := quantizedLegFees_bounds yesLeg noLeg fees.legFeeRate quantization
  obtain ⟨hmergeLe, hmergeLt⟩ := quantizeFee_bounds quantization fees.mergeFeeUsdc
  rw [hedge, hloss, exactBuyEdge]
  refine ⟨?_, ?_, sub_nonneg.mpr houtLe⟩
  · linarith only [houtLe, hlegsLe, hmergeLe]
  · linarith only [houtLt, hlegsLt, hmergeLt]

theorem sell_bounds (h : evaluateSplitSellYesSellNo yesLeg noLeg fees quantization = .ok edge) :
    edge.netEdgeUsdc ≤ exactSellEdge yesLeg noLeg fees ∧
      exactSellEdge yesLeg noLeg fees - 5 / 100 < edge.netEdgeUsdc ∧
      0 ≤ edge.breakdown.roundingLossUsdc := by
  obtain ⟨haccepted, hloss, hedge⟩ := evaluateSplitSellYesSellNo_eq_ok h
  obtain ⟨hyesLe, hyesLt⟩ := quantize_bounds quantization (notional_nonneg haccepted.yes)
  obtain ⟨hnoLe, hnoLt⟩ := quantize_bounds quantization (notional_nonneg haccepted.no)
  obtain ⟨hlegsLe, hlegsLt⟩ := quantizedLegFees_bounds yesLeg noLeg fees.legFeeRate quantization
  obtain ⟨hsplitLe, hsplitLt⟩ := quantizeFee_bounds quantization fees.splitFeeUsdc
  rw [hedge, hloss, exactSellEdge]
  refine ⟨?_, ?_, sub_nonneg.mpr (add_le_add hyesLe hnoLe)⟩
  · linarith only [hyesLe, hnoLe, hlegsLe, hsplitLe]
  · linarith only [hyesLt, hnoLt, hlegsLt, hsplitLt]

/-- The reported edge is at most the exact one and falls short of it by less than a cent for
each rounding. -/
theorem pricing_is_conservative (yesLeg noLeg : FullSetLeg) (fees : FullSetFees)
    (quantization : QuantizationPolicy) :
    (∀ edge, evaluateBuyYesBuyNoMerge yesLeg noLeg fees quantization = .ok edge →
      edge.netEdgeUsdc ≤ exactBuyEdge yesLeg noLeg fees ∧
        exactBuyEdge yesLeg noLeg fees - 4 / 100 < edge.netEdgeUsdc ∧
        0 ≤ edge.breakdown.roundingLossUsdc) ∧
      ∀ edge, evaluateSplitSellYesSellNo yesLeg noLeg fees quantization = .ok edge →
        edge.netEdgeUsdc ≤ exactSellEdge yesLeg noLeg fees ∧
          exactSellEdge yesLeg noLeg fees - 5 / 100 < edge.netEdgeUsdc ∧
          0 ≤ edge.breakdown.roundingLossUsdc :=
  ⟨fun _ ↦ buy_bounds, fun _ ↦ sell_bounds⟩

/-! ## Round trips -/

/-- Buying a set and selling it again costs the fees of both ways. -/
theorem exactBuyEdge_add_exactSellEdge (yesLeg noLeg : FullSetLeg) (fees : FullSetFees) :
    exactBuyEdge yesLeg noLeg fees + exactSellEdge yesLeg noLeg fees =
      -(2 * ((yesLeg.notional + noLeg.notional) * fees.legFeeRate) + fees.mergeFeeUsdc +
        fees.splitFeeUsdc) := by
  rw [exactBuyEdge, exactSellEdge]
  ring

/-- Where fees are not negative the two edges never add up to a gain, so they are not both
positive. -/
theorem no_free_round_trip {buy sell : NormalizedEdge}
    (hbuy : evaluateBuyYesBuyNoMerge yesLeg noLeg fees quantization = .ok buy)
    (hsell : evaluateSplitSellYesSellNo yesLeg noLeg fees quantization = .ok sell)
    (hrate : 0 ≤ fees.legFeeRate) (hmerge : 0 ≤ fees.mergeFeeUsdc)
    (hsplit : 0 ≤ fees.splitFeeUsdc) :
    buy.netEdgeUsdc + sell.netEdgeUsdc ≤ 0 ∧
      ¬ (0 < buy.netEdgeUsdc ∧ 0 < sell.netEdgeUsdc) := by
  have haccepted := (evaluateBuyYesBuyNoMerge_eq_ok hbuy).1
  have hfees : 0 ≤ (yesLeg.notional + noLeg.notional) * fees.legFeeRate :=
    mul_nonneg (add_nonneg (notional_nonneg haccepted.yes) (notional_nonneg haccepted.no)) hrate
  have hsum : buy.netEdgeUsdc + sell.netEdgeUsdc ≤ 0 := by
    calc buy.netEdgeUsdc + sell.netEdgeUsdc
        ≤ exactBuyEdge yesLeg noLeg fees + exactSellEdge yesLeg noLeg fees :=
          add_le_add (buy_bounds hbuy).1 (sell_bounds hsell).1
      _ = -(2 * ((yesLeg.notional + noLeg.notional) * fees.legFeeRate) + fees.mergeFeeUsdc +
            fees.splitFeeUsdc) := exactBuyEdge_add_exactSellEdge yesLeg noLeg fees
      _ ≤ 0 := by linarith only [hfees, hmerge, hsplit]
  exact ⟨hsum, fun hboth ↦ (add_pos hboth.1 hboth.2).not_ge hsum⟩

/-! ### Samples -/

def sampleYesLeg : FullSetLeg := { quantity := 3, priceUsdc := 335 / 1000 }

def sampleNoLeg : FullSetLeg := { quantity := 3, priceUsdc := 335 / 1000 }

def sampleFees : FullSetFees :=
  { legFeeRate := 0, mergeFeeUsdc := 0, splitFeeUsdc := 2 / 100 }

/-- What the split evaluator answers for the sample: a cent is lost to rounding. -/
def sampleSellEdge : NormalizedEdge :=
  buildResult (201 / 100) 3 (2 / 100) (1 / 100) 2

def sampleBuyEdge : NormalizedEdge := buildResult 3 (201 / 100) 0 0 3

theorem evaluateSplitSellYesSellNo_sample :
    evaluateSplitSellYesSellNo sampleYesLeg sampleNoLeg sampleFees .usdcCents =
      .ok sampleSellEdge := by
  decide +kernel

theorem evaluateBuyYesBuyNoMerge_sample :
    evaluateBuyYesBuyNoMerge sampleYesLeg sampleNoLeg sampleFees .usdcCents =
      .ok sampleBuyEdge := by
  decide +kernel

theorem sampleSellEdge_is_conservative :
    sampleSellEdge.netEdgeUsdc ≤ exactSellEdge sampleYesLeg sampleNoLeg sampleFees ∧
      exactSellEdge sampleYesLeg sampleNoLeg sampleFees - 5 / 100 < sampleSellEdge.netEdgeUsdc ∧
      0 ≤ sampleSellEdge.breakdown.roundingLossUsdc :=
  (pricing_is_conservative sampleYesLeg sampleNoLeg sampleFees .usdcCents).2 sampleSellEdge
    evaluateSplitSellYesSellNo_sample

theorem no_free_round_trip_of_sample :
    sampleBuyEdge.netEdgeUsdc + sampleSellEdge.netEdgeUsdc ≤ 0 ∧
      ¬ (0 < sampleBuyEdge.netEdgeUsdc ∧ 0 < sampleSellEdge.netEdgeUsdc) :=
  no_free_round_trip evaluateBuyYesBuyNoMerge_sample evaluateSplitSellYesSellNo_sample
    (by decide +kernel) (by decide +kernel) (by decide +kernel)

end AxiomArb.StrategyFullset

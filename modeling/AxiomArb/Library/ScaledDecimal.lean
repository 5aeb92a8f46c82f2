import Mathlib.Data.Rat.Cast.Order
import Mathlib.Tactic.FieldSimp
import Mathlib.Tactic.Ring

/-!
# Decimals with a scale

A decimal is held as a sign, a magnitude and a scale, so that one value has several
representations.  `normalize` takes the trailing zeros away, and `text` writes a decimal
out.  The text of a normalized decimal determines its value and is determined by it
(`text_normalize_eq_iff`).
-/

namespace AxiomArb.Library

/-- A decimal of 96 bits and at most 28 places. -/
@[ext]
structure ScaledDecimal where
  negative : Bool
  magnitude : Nat
  scale : Nat
  magnitude_lt : magnitude < 2 ^ 96
  scale_le : scale ≤ 28
deriving DecidableEq, Repr

/-- Divide by ten while there is a place that holds a zero. -/
def stripZeros (magnitude : Nat) : Nat → Nat × Nat
  | 0 => (magnitude, 0)
  | scale + 1 =>
      if magnitude % 10 = 0 then stripZeros (magnitude / 10) scale else (magnitude, scale + 1)

theorem stripZeros_spec (magnitude scale : Nat) :
    (stripZeros magnitude scale).1 * 10 ^ (scale - (stripZeros magnitude scale).2) = magnitude ∧
      (stripZeros magnitude scale).2 ≤ scale ∧
      ((stripZeros magnitude scale).2 = 0 ∨ (stripZeros magnitude scale).1 % 10 ≠ 0) := by
  induction scale generalizing magnitude with
  | zero => simp [stripZeros]
  | succ scale ih =>
      rw [stripZeros]
      split
      · rename_i hzero
        obtain ⟨hmagnitude, hle, hnormal⟩ := ih (magnitude / 10)
        refine ⟨?_, hle.trans (Nat.le_succ scale), hnormal⟩
        rw [Nat.succ_sub hle, pow_succ, ← mul_assoc, hmagnitude]
        exact Nat.div_mul_cancel (Nat.dvd_of_mod_eq_zero hzero)
      · rename_i hdigit
        simpa using hdigit

theorem stripZeros_le (magnitude scale : Nat) : (stripZeros magnitude scale).1 ≤ magnitude := by
  have hspec := (stripZeros_spec magnitude scale).1
  calc (stripZeros magnitude scale).1
      ≤ (stripZeros magnitude scale).1 * 10 ^ (scale - (stripZeros magnitude scale).2) :=
        Nat.le_mul_of_pos_right _ (Nat.pow_pos (by decide))
    _ = magnitude := hspec

namespace ScaledDecimal

def zero : ScaledDecimal :=
  { negative := false, magnitude := 0, scale := 0, magnitude_lt := by decide, scale_le := by decide }

variable (d : ScaledDecimal) {d d' : ScaledDecimal}

/-- The decimal without trailing zeros; zero loses its sign as well. -/
def normalize (d : ScaledDecimal) : ScaledDecimal :=
  if d.magnitude = 0 then
    zero
  else
    { negative := d.negative
      magnitude := (stripZeros d.magnitude d.scale).1
      scale := (stripZeros d.magnitude d.scale).2
      magnitude_lt := (stripZeros_le d.magnitude d.scale).trans_lt d.magnitude_lt
      scale_le := (stripZeros_spec d.magnitude d.scale).2.1.trans d.scale_le }

/-! ## Values -/

def signed (d : ScaledDecimal) : Int := if d.negative then -d.magnitude else d.magnitude

/-- The number a decimal stands for. -/
def value (d : ScaledDecimal) : ℚ := d.signed / 10 ^ d.scale

theorem value_eq_iff : d.value = d'.value ↔ d.signed * 10 ^ d'.scale = d'.signed * 10 ^ d.scale := by
  rw [value, value, div_eq_div_iff (pow_ne_zero _ (by norm_num)) (pow_ne_zero _ (by norm_num))]
  norm_cast

@[simp] theorem value_normalize (d : ScaledDecimal) : d.normalize.value = d.value := by
  rw [value_eq_iff, normalize]
  split
  · rename_i hzero
    simp [zero, signed, hzero]
  · obtain ⟨hmagnitude, hle, -⟩ := stripZeros_spec d.magnitude d.scale
    have hpow : (10 : Int) ^ d.scale =
        10 ^ (d.scale - (stripZeros d.magnitude d.scale).2) *
          10 ^ (stripZeros d.magnitude d.scale).2 := by
      rw [← pow_add, Nat.sub_add_cancel hle]
    have hcast : ((stripZeros d.magnitude d.scale).1 : Int) *
        10 ^ (d.scale - (stripZeros d.magnitude d.scale).2) = d.magnitude := by exact_mod_cast hmagnitude
    simp only [signed]
    rw [hpow, ← mul_assoc]
    split
    · rw [neg_mul, hcast]
    · rw [hcast]

/-- No place holds a trailing zero, and zero has no sign. -/
structure Normal (d : ScaledDecimal) : Prop where
  place : d.scale = 0 ∨ d.magnitude % 10 ≠ 0
  sign : d.magnitude = 0 → d.negative = false

theorem normal_normalize (d : ScaledDecimal) : d.normalize.Normal := by
  rw [normalize]
  split
  · exact ⟨.inl rfl, fun _ ↦ rfl⟩
  · rename_i hne
    obtain ⟨hmagnitude, -, hplace⟩ := stripZeros_spec d.magnitude d.scale
    refine ⟨hplace, fun hzero ↦ absurd ?_ hne⟩
    have hzero : (stripZeros d.magnitude d.scale).1 = 0 := hzero
    rw [← hmagnitude, hzero, zero_mul]

theorem natAbs_signed (d : ScaledDecimal) : d.signed.natAbs = d.magnitude := by
  rw [signed]
  split <;> simp

theorem magnitude_mul_of_value_eq (h : d.value = d'.value) :
    d.magnitude * 10 ^ d'.scale = d'.magnitude * 10 ^ d.scale := by
  have hsigned := congrArg Int.natAbs (value_eq_iff.mp h)
  simpa [Int.natAbs_mul, Int.natAbs_pow, natAbs_signed] using hsigned

theorem Normal.scale_le_of_value_eq (h' : d'.Normal) (hvalue : d.value = d'.value) :
    d'.scale ≤ d.scale := by
  by_contra hlt
  have hlt : d.scale < d'.scale := not_le.mp hlt
  have hmagnitude := magnitude_mul_of_value_eq hvalue
  have hsplit : d'.scale = (d'.scale - d.scale - 1) + 1 + d.scale := by omega
  rw [hsplit, pow_add, ← mul_assoc] at hmagnitude
  have hten : d.magnitude * 10 ^ (d'.scale - d.scale - 1 + 1) = d'.magnitude :=
    Nat.eq_of_mul_eq_mul_right (Nat.pow_pos (by decide)) hmagnitude
  have hzero : d'.magnitude % 10 = 0 := by
    rw [← hten, pow_succ, ← mul_assoc]
    exact Nat.mul_mod_left _ 10
  rcases h'.place with hscale | hplace
  · omega
  · exact hplace hzero

/-- Two normal decimals of one value are the same. -/
theorem Normal.eq_of_value_eq (h : d.Normal) (h' : d'.Normal) (hvalue : d.value = d'.value) :
    d = d' := by
  have hscale : d.scale = d'.scale :=
    le_antisymm (h.scale_le_of_value_eq hvalue.symm) (h'.scale_le_of_value_eq hvalue)
  have hsigned : d.signed = d'.signed := by
    have hcross := value_eq_iff.mp hvalue
    rw [hscale] at hcross
    exact mul_right_cancel₀ (pow_ne_zero _ (by decide)) hcross
  have hmagnitude : d.magnitude = d'.magnitude := by
    rw [← natAbs_signed, hsigned, natAbs_signed]
  have hnegative : d.negative = d'.negative := by
    by_cases hzero : d.magnitude = 0
    · rw [h.sign hzero, h'.sign (hmagnitude ▸ hzero)]
    · rw [signed, signed, hmagnitude] at hsigned
      have hpos : 0 < d'.magnitude := hmagnitude ▸ Nat.pos_of_ne_zero hzero
      cases hd : d.negative <;> cases hd' : d'.negative <;> simp [hd, hd'] at hsigned ⊢ <;> omega
  exact ScaledDecimal.ext hnegative hmagnitude hscale

theorem normalize_eq_iff : d.normalize = d'.normalize ↔ d.value = d'.value := by
  constructor
  · intro h
    rw [← value_normalize d, h, value_normalize]
  · intro h
    refine d.normal_normalize.eq_of_value_eq d'.normal_normalize ?_
    rw [value_normalize, value_normalize, h]

/-! ## Texts -/

/-- The digits, with zeros in front so that one stands before the point. -/
def digits (d : ScaledDecimal) : List Char :=
  List.replicate (d.scale + 1 - (Nat.toDigits 10 d.magnitude).length) '0' ++
    Nat.toDigits 10 d.magnitude

/-- The digits before the point. -/
def whole (d : ScaledDecimal) : List Char := d.digits.take (d.digits.length - d.scale)

/-- The digits after the point. -/
def fraction (d : ScaledDecimal) : List Char := d.digits.drop (d.digits.length - d.scale)

def chars (d : ScaledDecimal) : List Char :=
  (if d.negative then ['-'] else []) ++ d.whole ++ if d.scale = 0 then [] else '.' :: d.fraction

/-- A decimal written out. -/
def text (d : ScaledDecimal) : String := String.ofList d.chars

theorem isDigit_of_mem_digits {char : Char} (h : char ∈ d.digits) : char.isDigit := by
  rcases List.mem_append.mp h with h | h
  · rw [(List.mem_replicate.mp h).2]
    rfl
  · exact Nat.isDigit_of_mem_toDigits (by decide) (by decide) h

theorem scale_lt_length_digits (d : ScaledDecimal) : d.scale < d.digits.length := by
  rw [digits, List.length_append, List.length_replicate]
  omega

theorem ofDigitChars_digits (d : ScaledDecimal) : Nat.ofDigitChars 10 d.digits 0 = d.magnitude := by
  rw [digits, Nat.ofDigitChars_append, Nat.ofDigitChars_replicate_zero, mul_zero,
    Nat.ofDigitChars_ten_toDigits]

theorem whole_append_fraction (d : ScaledDecimal) : d.whole ++ d.fraction = d.digits :=
  List.take_append_drop _ d.digits

theorem length_fraction (d : ScaledDecimal) : d.fraction.length = d.scale := by
  have := d.scale_lt_length_digits
  rw [fraction, List.length_drop]
  omega

theorem isDigit_of_mem_whole {char : Char} (h : char ∈ d.whole) : char.isDigit :=
  isDigit_of_mem_digits (List.mem_of_mem_take h)

theorem isDigit_of_mem_fraction {char : Char} (h : char ∈ d.fraction) : char.isDigit :=
  isDigit_of_mem_digits (List.mem_of_mem_drop h)

/-- The fraction of an integer is empty, so that the point may be read as always there. -/
theorem fraction_of_scale_eq_zero (h : d.scale = 0) : d.fraction = [] :=
  List.eq_nil_of_length_eq_zero (by rw [length_fraction, h])

theorem filter_isDigit_chars (d : ScaledDecimal) : d.chars.filter Char.isDigit = d.digits := by
  have hwhole : d.whole.filter Char.isDigit = d.whole :=
    List.filter_eq_self.mpr fun _ ↦ isDigit_of_mem_whole
  have hfraction : d.fraction.filter Char.isDigit = d.fraction :=
    List.filter_eq_self.mpr fun _ ↦ isDigit_of_mem_fraction
  have hminus : Char.isDigit '-' = false := by decide
  have hpoint : Char.isDigit '.' = false := by decide
  rw [← whole_append_fraction, chars, List.filter_append, List.filter_append, hwhole]
  by_cases hscale : d.scale = 0
  · cases d.negative <;> simp [hscale, fraction_of_scale_eq_zero hscale, hminus]
  · cases d.negative <;> simp [hscale, hfraction, hminus, hpoint]

theorem minus_mem_chars_iff : '-' ∈ d.chars ↔ d.negative = true := by
  have hwhole : '-' ∉ d.whole := fun h ↦ absurd (isDigit_of_mem_whole h) (by decide)
  have hfraction : '-' ∉ d.fraction := fun h ↦ absurd (isDigit_of_mem_fraction h) (by decide)
  rw [chars]
  cases d.negative <;> by_cases hscale : d.scale = 0 <;> simp [hscale, hwhole, hfraction]

theorem scale_eq (d : ScaledDecimal) : d.scale = d.chars.length - d.chars.idxOf '.' - 1 := by
  have hfront : '.' ∉ (if d.negative then ['-'] else []) ++ d.whole := by
    rw [List.mem_append]
    rintro (hsign | hwhole)
    · split at hsign <;> simp at hsign
    · exact absurd (isDigit_of_mem_whole hwhole) (by decide)
  rw [chars, List.idxOf_append_of_notMem hfront, List.length_append]
  by_cases hscale : d.scale = 0
  · simp [hscale]
  · rw [if_neg hscale, List.length_cons, length_fraction, List.idxOf_cons_self]
    omega

theorem chars_injective : Function.Injective chars := by
  intro d d' h
  refine ScaledDecimal.ext ?_ ?_ ?_
  · rw [Bool.eq_iff_iff, ← minus_mem_chars_iff, h, minus_mem_chars_iff]
  · rw [← ofDigitChars_digits, ← filter_isDigit_chars, h, filter_isDigit_chars, ofDigitChars_digits]
  · rw [scale_eq, h, ← scale_eq]

theorem text_injective : Function.Injective text := by
  intro d d' h
  exact chars_injective (String.ofList_injective h)

/-- The decimal that has the text. -/
def ofText? (text : String) : Option ScaledDecimal :=
  let chars := text.toList
  let magnitude := Nat.ofDigitChars 10 (chars.filter Char.isDigit) 0
  let scale := chars.length - chars.idxOf '.' - 1
  if h : magnitude < 2 ^ 96 ∧ scale ≤ 28 then
    let d : ScaledDecimal :=
      { negative := chars.contains '-', magnitude, scale, magnitude_lt := h.1, scale_le := h.2 }
    if d.text = text then some d else none
  else none

theorem ofText?_text (d : ScaledDecimal) : ofText? d.text = some d := by
  have hmagnitude : Nat.ofDigitChars 10 (d.chars.filter Char.isDigit) 0 = d.magnitude := by
    rw [filter_isDigit_chars, ofDigitChars_digits]
  have hnegative : d.chars.contains '-' = d.negative := by
    rw [Bool.eq_iff_iff, List.contains_iff_mem, minus_mem_chars_iff]
  have hbounds := And.intro d.magnitude_lt d.scale_le
  simp only [ofText?, text, String.toList_ofList, hmagnitude, hnegative, ← scale_eq, hbounds,
    and_self, dite_true, if_true]

/-- The texts of normalized decimals tell their values apart. -/
theorem text_normalize_eq_iff : d.normalize.text = d'.normalize.text ↔ d.value = d'.value :=
  text_injective.eq_iff.trans normalize_eq_iff

/-- A decimal is written with digits, and perhaps a sign and a point. -/
theorem mem_text {char : Char} (h : char ∈ d.text.toList) :
    char.isDigit ∨ char = '-' ∨ char = '.' := by
  rw [text, String.toList_ofList, chars, List.mem_append, List.mem_append] at h
  rcases h with (hsign | hwhole) | hrest
  · split at hsign
    · exact .inr (.inl (List.mem_singleton.mp hsign))
    · cases hsign
  · exact .inl (isDigit_of_mem_whole hwhole)
  · split at hrest
    · cases hrest
    · rcases List.mem_cons.mp hrest with hpoint | hfraction
      · exact .inr (.inr hpoint)
      · exact .inl (isDigit_of_mem_fraction hfraction)

theorem text_ne_empty (d : ScaledDecimal) : d.text.toList ≠ [] := by
  intro h
  have hdigits := d.filter_isDigit_chars
  rw [text, String.toList_ofList] at h
  rw [h, List.filter_nil] at hdigits
  have hlength := d.scale_lt_length_digits
  rw [← hdigits] at hlength
  cases hlength

end ScaledDecimal

end AxiomArb.Library

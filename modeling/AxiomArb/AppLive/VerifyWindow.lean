import AxiomArb.AppLive.VerifyVerdict
import AxiomArb.VenuePolymarket.WsMarket

/-!
# The window of a verification

The arguments of a verification ask for the latest rows of its scenario, for one attempt, for a
range of the journal or for what is new since some time ago.  `fromArgs_eq_ok_iff` says which
arguments are accepted, and as what: at most one window may be named.

## Honest boundary

* Times are in seconds.  The first instant of the calendar is a parameter.
-/

namespace AxiomArb.AppLive.Verify

open Domain Library VenuePolymarket

inductive VerifyWindowSelection where
  | latestForScenario (scenario : VerifyScenario)
  | explicitAttemptId (attemptId : String)
  | explicitSeqRange (fromSeq : Int) (toSeq : Option Int)
  | explicitSince (since : DateTime)
deriving DecidableEq, Repr

def VerifyWindowSelection.isHistoricalExplicit : VerifyWindowSelection → Bool
  | .explicitAttemptId _ | .explicitSeqRange _ _ | .explicitSince _ => true
  | .latestForScenario _ => false

inductive VerifyWindowSelectionError where
  | attemptIdCannotBeCombinedWithWindow
  | seqRangeCannotBeCombinedWithSince
  | toSeqRequiresFromSeq
  | descendingSeqRange (fromSeq toSeq : Int)
  | invalidSinceValue (message : String)
  | unsupportedSinceSuffix (unit : Char)
  | sinceValueOverflow (value : String) (unit : Char)
  | sinceWindowOverflowsNow (value : String)
deriving DecidableEq, Repr

def VerifyWindowSelectionError.text : VerifyWindowSelectionError → String
  | .attemptIdCannotBeCombinedWithWindow => "attempt-id cannot be combined with seq range or since"
  | .seqRangeCannotBeCombinedWithSince => "seq range cannot be combined with since"
  | .toSeqRequiresFromSeq => "to-seq requires from-seq"
  | .descendingSeqRange fromSeq toSeq =>
      s!"descending seq range is invalid: from-seq {fromSeq} must be <= to-seq {toSeq}"
  | .invalidSinceValue message => message
  | .unsupportedSinceSuffix unit => s!"unsupported since suffix: {unit}"
  | .sinceValueOverflow value unit => s!"since value overflows chrono duration: {value}{unit}"
  | .sinceWindowOverflowsNow value => s!"since window overflows current time: {value}"

/-! ## Durations -/

/-- The seconds of a unit. -/
def unitSeconds : Char → Option Int
  | 's' => some 1
  | 'm' => some 60
  | 'h' => some 3600
  | 'd' => some 86400
  | _ => none

/-- A duration is kept in milliseconds of 64 bits. -/
def MAX_DURATION_SECONDS : Int := 9223372036854775

def tryDuration (seconds : Int) : Option Int :=
  if -MAX_DURATION_SECONDS ≤ seconds ∧ seconds ≤ MAX_DURATION_SECONDS then some seconds else none

def parseSince (value : String) : Except VerifyWindowSelectionError Int :=
  let value := trim value
  match value.toList.getLast? with
  | none => .error (.invalidSinceValue "since value is empty")
  | some unit =>
      match parseI64 (String.ofList value.toList.dropLast) with
      | none => .error (.invalidSinceValue s!"invalid since value: {value}")
      | some amount =>
          if amount < 0 then .error (.invalidSinceValue "since value must not be negative")
          else
            match unitSeconds unit with
            | none => .error (.unsupportedSinceSuffix unit)
            | some seconds =>
                match tryDuration (amount * seconds) with
                | none => .error (.sinceValueOverflow value unit)
                | some duration => .ok duration

/-! ## Arguments -/

section

variable (earliest now : DateTime)

def checkedSubSigned (duration : Int) : Option DateTime :=
  if earliest ≤ now - duration then some (now - duration) else none

namespace VerifyWindowSelection

def fromArgs (fromSeq toSeq : Option Int) (attemptId since : Option String)
    (scenario : VerifyScenario) : Except VerifyWindowSelectionError VerifyWindowSelection :=
  let hasSeqRange := fromSeq.isSome || toSeq.isSome
  let hasSince := since.isSome
  if attemptId.isSome && (hasSeqRange || hasSince) then
    .error .attemptIdCannotBeCombinedWithWindow
  else if hasSeqRange && hasSince then
    .error .seqRangeCannotBeCombinedWithSince
  else
    match attemptId, fromSeq, since with
    | some attemptId, _, _ => .ok (.explicitAttemptId attemptId)
    | none, some fromSeq, _ =>
        match toSeq with
        | some toSeq =>
            if toSeq < fromSeq then .error (.descendingSeqRange fromSeq toSeq)
            else .ok (.explicitSeqRange fromSeq (some toSeq))
        | none => .ok (.explicitSeqRange fromSeq none)
    | none, none, some since =>
        match parseSince since with
        | .error error => .error error
        | .ok duration =>
            match checkedSubSigned earliest now duration with
            | none => .error (.sinceWindowOverflowsNow since)
            | some selectedAt => .ok (.explicitSince selectedAt)
    | none, none, none =>
        if toSeq.isSome then .error .toSeqRequiresFromSeq else .ok (.latestForScenario scenario)

end VerifyWindowSelection

end

/-! ## What is accepted -/

/-- Digits, perhaps behind a sign; nothing is behind a minus but zero. -/
inductive IsAmount : List Char → Nat → Prop where
  | digits (digits : List Char) : digits ≠ [] → digits.all Char.isDigit = true →
      IsAmount digits (Nat.ofDigitChars 10 digits 0)
  | plus (digits : List Char) : digits ≠ [] → digits.all Char.isDigit = true →
      IsAmount ('+' :: digits) (Nat.ofDigitChars 10 digits 0)
  | minusZero (digits : List Char) : digits ≠ [] → digits.all Char.isDigit = true →
      Nat.ofDigitChars 10 digits 0 = 0 → IsAmount ('-' :: digits) 0

/-- An amount and its unit, perhaps with blanks around them. -/
inductive IsSince (value : String) : Int → Prop where
  | intro (amount : List Char) (number : Nat) (unit : Char) (seconds : Int) :
      (trim value).toList = amount ++ [unit] → IsAmount amount number →
      unitSeconds unit = some seconds → number * seconds ≤ MAX_DURATION_SECONDS →
      IsSince value (number * seconds)

/-- The arguments that ask for a window. -/
inductive Asked (earliest now : DateTime) (scenario : VerifyScenario) :
    Option Int → Option Int → Option String → Option String → VerifyWindowSelection → Prop where
  | latest : Asked earliest now scenario none none none none (.latestForScenario scenario)
  | attempt (attemptId : String) :
      Asked earliest now scenario none none (some attemptId) none (.explicitAttemptId attemptId)
  | seqRange (fromSeq : Int) (toSeq : Option Int) : (∀ last ∈ toSeq, fromSeq ≤ last) →
      Asked earliest now scenario (some fromSeq) toSeq none none (.explicitSeqRange fromSeq toSeq)
  | since (value : String) (duration : Int) : IsSince value duration → earliest ≤ now - duration →
      Asked earliest now scenario none none none (some value) (.explicitSince (now - duration))

section Amounts

theorem parseUnsigned_eq_some_iff {chars : List Char} {number : Nat} (hminus : chars.head? ≠ some '-') :
    parseUnsigned (String.ofList chars) = some number ↔ IsAmount chars number := by
  rw [parseUnsigned, String.toList_ofList]
  constructor
  · intro h
    split at h
    · rename_i digits
      obtain ⟨⟨hne, hall⟩, hnumber⟩ := Option.ite_none_right_eq_some.mp h
      cases hnumber
      exact .plus digits hne hall
    · obtain ⟨⟨hne, hall⟩, hnumber⟩ := Option.ite_none_right_eq_some.mp h
      cases hnumber
      exact .digits chars hne hall
  · intro h
    cases h with
    | digits _ hne hall =>
        split
        · exact absurd hall (by simp)
        · exact if_pos ⟨hne, hall⟩
    | plus digits hne hall => exact if_pos ⟨hne, hall⟩
    | minusZero digits _ _ _ => exact absurd rfl hminus

/-- What is read as a number that is not negative is an amount. -/
theorem isAmount_of_parseI64 {chars : List Char} {amount : Int}
    (h : parseI64 (String.ofList chars) = some amount) (hamount : 0 ≤ amount) :
    IsAmount chars amount.toNat := by
  rw [parseI64, String.toList_ofList] at h
  split at h
  · rename_i digits
    split_ifs at h with hdigits
    · obtain ⟨-, hsame⟩ := Option.ite_none_right_eq_some.mp h
      have hneg : -Int.ofNat (Nat.ofDigitChars 10 digits 0) = amount := Option.some.inj hsame
      rw [Int.ofNat_eq_natCast] at hneg
      have hzero : Nat.ofDigitChars 10 digits 0 = 0 := by omega
      have hnone : amount.toNat = 0 := by omega
      rw [hnone]
      exact .minusZero digits hdigits.1 hdigits.2 hzero
    · cases h
  · rename_i hminus
    obtain ⟨number, hnumber, hrange⟩ := Option.bind_eq_some_iff.mp h
    obtain ⟨-, hsame⟩ := Option.ite_none_right_eq_some.mp hrange
    obtain rfl : number = amount := Option.some.inj hsame
    obtain ⟨value, hvalue, rfl⟩ := Option.map_eq_some_iff.mp hnumber
    refine (parseUnsigned_eq_some_iff fun hhead ↦ ?_).mp hvalue
    obtain ⟨digits, hdigits⟩ := List.head?_eq_some_iff.mp hhead
    exact hminus digits hdigits

theorem parseI64_of_isAmount {chars : List Char} {number : Nat} (h : IsAmount chars number)
    (hle : (number : Int) ≤ MAX_DURATION_SECONDS) :
    parseI64 (String.ofList chars) = some (number : Int) := by
  have hrange : -2 ^ 63 ≤ (number : Int) ∧ (number : Int) < 2 ^ 63 := by
    rw [MAX_DURATION_SECONDS] at hle
    omega
  rw [parseI64, String.toList_ofList]
  by_cases hhead : chars.head? = some '-'
  · cases h with
    | minusZero digits hne hall hzero =>
        split
        · rename_i heq
          obtain rfl := (List.cons.inj heq).2
          rw [if_pos ⟨hne, hall⟩, hzero]
          decide
        · rename_i hminus
          exact absurd rfl (hminus digits)
    | digits _ hne hall =>
        obtain ⟨digits, rfl⟩ := List.head?_eq_some_iff.mp hhead
        exact absurd hall (by simp)
    | plus digits hne hall => exact absurd hhead (by simp)
  · split
    · exact absurd rfl hhead
    · rw [(parseUnsigned_eq_some_iff hhead).mpr h, Option.map_some]
      exact (Option.bind_some _ _).trans (if_pos hrange)

theorem unitSeconds_pos {unit : Char} {seconds : Int} (h : unitSeconds unit = some seconds) :
    1 ≤ seconds := by
  rw [unitSeconds.eq_def] at h
  split at h
  · cases h
    decide
  · cases h
    decide
  · cases h
    decide
  · cases h
    decide
  · cases h

/-- A duration is read exactly from an amount and its unit. -/
theorem parseSince_eq_ok_iff {value : String} {duration : Int} :
    parseSince value = .ok duration ↔ IsSince value duration := by
  rw [parseSince]
  constructor
  · intro h
    split at h
    · cases h
    rename_i unit hlast
    split at h
    · cases h
    rename_i amount hamount
    split at h
    · cases h
    rename_i hpos
    split at h
    · cases h
    rename_i seconds hseconds
    split at h
    · cases h
    rename_i total htotal
    obtain rfl : total = duration := Except.ok.inj h
    obtain ⟨⟨-, hle⟩, hsame⟩ := Option.ite_none_right_eq_some.mp htotal
    obtain rfl : amount * seconds = total := Option.some.inj hsame
    rw [not_lt] at hpos
    have hchars : (trim value).toList = (trim value).toList.dropLast ++ [unit] :=
      (List.dropLast_append_getLast? unit hlast).symm
    have hnat : ((amount.toNat : Nat) : Int) = amount := Int.toNat_of_nonneg hpos
    rw [← hnat] at hle ⊢
    exact .intro _ _ unit seconds hchars (isAmount_of_parseI64 hamount hpos) hseconds hle
  · intro h
    cases h with
    | intro amount number unit seconds hchars hamount hseconds hle =>
        have hone := unitSeconds_pos hseconds
        have hnumber : (number : Int) ≤ MAX_DURATION_SECONDS :=
          (le_mul_of_one_le_right (Int.natCast_nonneg number) hone).trans hle
        have hrange : -MAX_DURATION_SECONDS ≤ number * seconds ∧
            number * seconds ≤ MAX_DURATION_SECONDS := by
          refine ⟨le_trans ?_ (mul_nonneg (Int.natCast_nonneg number) (by omega)), hle⟩
          decide
        have hnotNeg : ¬ (number : Int) < 0 := not_lt.mpr (Int.natCast_nonneg number)
        rw [hchars, List.getLast?_concat, List.dropLast_concat]
        simp only [parseI64_of_isAmount hamount hnumber, if_neg hnotNeg, hseconds, tryDuration,
          if_pos hrange]

end Amounts

/-- **Windows of a verification.**  Arguments are accepted exactly if they name at most one
window: an attempt, a range that does not descend, or a time since a duration that the calendar
reaches back.  What they ask for is that window, and the latest rows if they name none. -/
theorem fromArgs_eq_ok_iff (earliest now : DateTime) (fromSeq toSeq : Option Int)
    (attemptId since : Option String) (scenario : VerifyScenario)
    (selection : VerifyWindowSelection) :
    VerifyWindowSelection.fromArgs earliest now fromSeq toSeq attemptId since scenario =
        .ok selection ↔
      Asked earliest now scenario fromSeq toSeq attemptId since selection := by
  rw [VerifyWindowSelection.fromArgs.eq_def]
  constructor
  · intro h
    dsimp only at h
    have hattempt :
        ¬(attemptId.isSome && (fromSeq.isSome || toSeq.isSome || since.isSome)) = true := by
      intro hboth
      rw [if_pos hboth] at h
      cases h
    rw [if_neg hattempt] at h
    have hrange : ¬((fromSeq.isSome || toSeq.isSome) && since.isSome) = true := by
      intro hboth
      rw [if_pos hboth] at h
      cases h
    rw [if_neg hrange] at h
    cases attemptId with
    | some attemptId =>
        -- an attempt excludes the other windows
        obtain rfl := Except.ok.inj h
        rw [Option.isSome_some, Bool.true_and, Bool.not_eq_true, Bool.or_eq_false_iff,
          Bool.or_eq_false_iff] at hattempt
        obtain ⟨⟨hfrom, hto⟩, hsince⟩ := hattempt
        rw [Option.isSome_eq_false_iff, Option.isNone_iff_eq_none] at hfrom hto hsince
        subst hfrom hto hsince
        exact .attempt attemptId
    | none =>
        cases since with
        | some since =>
            rw [Option.isSome_some, Bool.and_true, Bool.not_eq_true, Bool.or_eq_false_iff] at hrange
            obtain ⟨hfrom, hto⟩ := hrange
            rw [Option.isSome_eq_false_iff, Option.isNone_iff_eq_none] at hfrom hto
            subst hfrom hto
            dsimp only at h
            split at h
            · cases h
            · rename_i duration hduration
              rw [checkedSubSigned] at h
              split_ifs at h with hreach
              obtain rfl := Except.ok.inj h
              exact .since since duration (parseSince_eq_ok_iff.mp hduration) hreach
        | none =>
            cases fromSeq with
            | some fromSeq =>
                cases toSeq with
                | none =>
                    obtain rfl := Except.ok.inj h
                    exact .seqRange fromSeq none fun _ hlast ↦ by cases hlast
                | some toSeq =>
                    dsimp only at h
                    split_ifs at h with hdescending
                    obtain rfl := Except.ok.inj h
                    refine .seqRange fromSeq (some toSeq) fun last hlast ↦ ?_
                    obtain rfl : toSeq = last := Option.some.inj hlast
                    exact not_lt.mp hdescending
            | none =>
                cases toSeq with
                | none =>
                    obtain rfl := Except.ok.inj h
                    exact .latest
                | some toSeq => cases h
  · intro h
    cases h with
    | latest => rfl
    | attempt attemptId => rfl
    | seqRange fromSeq toSeq hle =>
        cases toSeq with
        | none => rfl
        | some last => exact if_neg (not_lt.mpr (hle last rfl))
    | since value duration hsince hreach =>
        simp [parseSince_eq_ok_iff.mpr hsince, checkedSubSigned, hreach]

end AxiomArb.AppLive.Verify

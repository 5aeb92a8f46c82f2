import AxiomArb.AppLive.LiveSubmission
import AxiomArb.Library.Gap

/-!
# The records that are kept

The loop over the submit facts counts the facts and passes over the records that have
none; the caller reads the count as the length of an initial part of the records.  How far
the loop gets is decided before it starts: it passes the facts that were applied before,
as long as nothing is pending, and ends with the first fact that is new
(`AppSupervisor.reached`).
-/

namespace AxiomArb.AppLive

open Domain Library State

namespace AppSupervisor

variable {env : SupervisorEnv} {supervisor supervisor' : AppSupervisor}
  {record : NegRiskLiveExecutionRecord} {records : List NegRiskLiveExecutionRecord}
  {submissionRef : String} {last : Int} {count applied : Nat}

/-- The loop over the submit facts goes on after the record: it has no fact, or an old one
and nothing is pending. -/
def Passes (supervisor : AppSupervisor) (record : NegRiskLiveExecutionRecord) : Prop :=
  record.reference = none ∨
    supervisor.runtime.pendingReconcileCount = 0 ∧
      supervisor.runtime.store.HasApplied record.submitKey

instance : DecidablePred (Passes supervisor) := fun _ ↦ inferInstanceAs (Decidable (_ ∨ _))

/-- The records the loop gets to. -/
def reached (supervisor : AppSupervisor) :
    List NegRiskLiveExecutionRecord → List NegRiskLiveExecutionRecord
  | [] => []
  | record :: records =>
      if Passes supervisor record then record :: reached supervisor records else [record]

/-- The records whose submit facts are applied. -/
def appliedRecords (supervisor : AppSupervisor) (records : List NegRiskLiveExecutionRecord) :
    List NegRiskLiveExecutionRecord :=
  (reached supervisor records).filter fun record ↦ record.reference.isSome

/-- The supervisor once it has taken the submit facts of the records, one after the other. -/
def submittedAll (env : SupervisorEnv) : Int → AppSupervisor → List NegRiskLiveExecutionRecord →
    AppSupervisor
  | _, supervisor, [] => supervisor
  | last, supervisor, record :: records =>
      submittedAll env (last + 1)
        (submitted env supervisor (last + 1) record (record.reference.getD "")) records

/-! ## How far the loop gets -/

/-- A fact that is new becomes pending. -/
theorem pending_submitted_of_new (env : SupervisorEnv) (submissionRef : String)
    (hadmits : supervisor.runtime.store.Admits (last + 1) record.submitKey)
    (hnew : ¬ supervisor.runtime.store.HasApplied record.submitKey) :
    0 < (submitted env supervisor (last + 1) record submissionRef).runtime.pendingReconcileCount :=
  pending_of_anchored ((anchored_submitted_iff env submissionRef hadmits).mpr
    fun happlied ↦ absurd happlied hnew)

/-- An old fact changes nothing that the loop looks at. -/
theorem submitted_of_applied (env : SupervisorEnv) (submissionRef : String)
    (hadmits : supervisor.runtime.store.Admits (last + 1) record.submitKey)
    (happlied : supervisor.runtime.store.HasApplied record.submitKey) :
    (submitted env supervisor (last + 1) record submissionRef).runtime.pendingReconcileCount =
      supervisor.runtime.pendingReconcileCount ∧
    ∀ factKey, (submitted env supervisor (last + 1) record submissionRef).runtime.store.HasApplied
        factKey ↔ supervisor.runtime.store.HasApplied factKey := by
  constructor
  · rw [AppRuntime.pendingReconcileCount, StateStore.pendingReconcileCount, store_submitted,
      pending_applyStep_liveSubmit hadmits, if_pos happlied]
    rfl
  · intro factKey
    have htaken : supervisor.runtime.store.Admits (last + 1) (liveSubmitInput (last + 1) record
        submissionRef (env.now supervisor.effects.clockReads)).intoStateFactInput.factKey := hadmits
    obtain ⟨_, _, heq⟩ := StateStore.apply_of_hasApplied htaken happlied
    rw [store_submitted, StateStore.applyStep, heq, StateStore.HasApplied]
    simp [StateStore.HasApplied]

/-- Work is pending after a fact exactly if the loop does not pass it. -/
theorem pending_submitted_iff (env : SupervisorEnv) (href : record.reference = some submissionRef)
    (hadmits : supervisor.runtime.store.Admits (last + 1) record.submitKey) :
    0 < (submitted env supervisor (last + 1) record submissionRef).runtime.pendingReconcileCount ↔
      ¬ Passes supervisor record := by
  have hsome : record.reference ≠ none := by simp [href]
  by_cases happlied : supervisor.runtime.store.HasApplied record.submitKey
  · rw [(submitted_of_applied env submissionRef hadmits happlied).1, Passes,
      or_iff_right hsome, and_iff_left happlied, Nat.pos_iff_ne_zero]
  · refine iff_of_true (pending_submitted_of_new env submissionRef hadmits happlied) ?_
    rintro (hnone | ⟨-, hold⟩)
    · exact hsome hnone
    · exact happlied hold

theorem passes_congr (hpending : supervisor'.runtime.pendingReconcileCount =
      supervisor.runtime.pendingReconcileCount)
    (happlied : ∀ factKey, supervisor'.runtime.store.HasApplied factKey ↔
      supervisor.runtime.store.HasApplied factKey) :
    Passes supervisor' = Passes supervisor := by
  funext record
  rw [Passes, Passes, hpending, happlied]

theorem reached_congr (h : Passes supervisor' = Passes supervisor)
    (records : List NegRiskLiveExecutionRecord) :
    reached supervisor' records = reached supervisor records := by
  induction records with
  | nil => rfl
  | cons record records ih => simp only [reached, h, ih]

/-- **What the loop does.**  It applies the submit facts of `appliedRecords`, and counts
them. -/
theorem exec_applyLiveSubmitFactsFrom_eq_ok
    (h : exec (applyLiveSubmitFactsFrom env last count records) supervisor =
      (.ok applied, supervisor')) :
    applied = count + (appliedRecords supervisor records).length ∧
      supervisor' = submittedAll env last supervisor (appliedRecords supervisor records) := by
  induction records generalizing supervisor last count with
  | nil =>
      cases h
      exact ⟨rfl, rfl⟩
  | cons record records ih =>
      rcases href : record.reference with _ | submissionRef
      · rw [exec_submit_of_none href] at h
        rw [appliedRecords, reached, if_pos (.inl href), List.filter_cons_of_neg (by simp [href])]
        exact ih h
      by_cases hadmits : supervisor.runtime.store.Admits (last + 1) record.submitKey
      swap
      · obtain ⟨error, hrefused⟩ := exec_submit_of_refused env count records href hadmits
        rw [hrefused] at h
        cases h
      rw [exec_submit_of_admitted href hadmits] at h
      have hfirst : submitted env supervisor (last + 1) record (record.reference.getD "") =
          submitted env supervisor (last + 1) record submissionRef := by rw [href, Option.getD_some]
      by_cases hpasses : Passes supervisor record
      · -- the fact is old and nothing is pending: the loop goes on as it began
        obtain ⟨-, happlied⟩ := hpasses.resolve_left (by simp [href])
        obtain ⟨hpending, hsame⟩ := submitted_of_applied env submissionRef hadmits happlied
        rw [if_neg (not_lt.mpr (not_lt.mp fun hmore ↦
          (pending_submitted_iff env href hadmits).mp hmore hpasses))] at h
        obtain ⟨hcount, hfinal⟩ := ih h
        rw [appliedRecords, reached_congr (passes_congr hpending hsame)] at hcount hfinal
        rw [appliedRecords, reached, if_pos hpasses, List.filter_cons_of_pos (by simp [href]),
          List.length_cons, submittedAll, hfirst]
        exact ⟨by rw [hcount, Nat.add_right_comm, Nat.add_assoc], hfinal⟩
      · rw [if_pos ((pending_submitted_iff env href hadmits).mpr hpasses)] at h
        cases h
        rw [appliedRecords, reached, if_neg hpasses, List.filter_cons_of_pos (by simp [href]),
          List.filter_nil, submittedAll, hfirst]
        exact ⟨rfl, rfl⟩

/-! ## What is kept -/

/-- The records that are kept for a count of facts are those whose facts were applied, and
none of them is refused for want of a reference. -/
def KeepsSubmitted (supervisor : AppSupervisor) (records : List NegRiskLiveExecutionRecord)
    (appliedRecordCount : Nat) : Prop :=
  records.take appliedRecordCount = appliedRecords supervisor records ∧
    ∀ record ∈ records.take appliedRecordCount, ∀ runSessionId,
      record.liveSubmissionEntry runSessionId ≠
        .error s!"missing durable live submission ref for attempt {record.attemptId}"

/-- A record without a reference comes before one with a reference that the loop gets to. -/
def SkipsRecord (supervisor : AppSupervisor) (records : List NegRiskLiveExecutionRecord) : Prop :=
  ∃ before gap middle last after, records = before ++ gap :: (middle ++ last :: after) ∧
    gap.reference = none ∧ last.reference.isSome ∧
    ∀ record ∈ before ++ gap :: middle, Passes supervisor record

theorem reached_split (supervisor : AppSupervisor) (records : List NegRiskLiveExecutionRecord) :
    reached supervisor records <+: records := by
  induction records with
  | nil => exact List.prefix_rfl
  | cons record records ih =>
      rw [reached]
      split
      · exact List.cons_prefix_cons.mpr ⟨rfl, ih⟩
      · exact List.cons_prefix_cons.mpr ⟨rfl, List.nil_prefix⟩

/-- The loop gets to a record exactly if it passes all those before it. -/
theorem prefix_reached_iff {before after : List NegRiskLiveExecutionRecord} :
    before ++ [record] <+: reached supervisor (before ++ record :: after) ↔
      ∀ earlier ∈ before, Passes supervisor earlier := by
  induction before with
  | nil =>
      rw [List.nil_append, List.nil_append, reached]
      split <;> simp
  | cons first before ih =>
      rw [List.cons_append, List.cons_append, reached, List.forall_mem_cons]
      split
      · rename_i hpasses
        rw [List.cons_prefix_cons, ih]
        simp [hpasses]
      · rename_i hends
        refine iff_of_false (fun h ↦ ?_) fun h ↦ hends h.1
        simpa using (List.cons_prefix_cons.mp h).2

theorem skipsRecord_iff :
    SkipsRecord supervisor records ↔
      Gap (fun record : NegRiskLiveExecutionRecord ↦ record.reference.isSome)
        (reached supervisor records) := by
  constructor
  · rintro ⟨before, gap, middle, last, after, rfl, hgap, hlast, hpasses⟩
    have hreached := (@prefix_reached_iff _ last _ after).mpr hpasses
    obtain ⟨rest, heq⟩ := hreached
    refine ⟨before, gap, middle, last, rest, ?_, by simp [hgap], hlast⟩
    have hsplit : before ++ gap :: (middle ++ last :: after) =
        before ++ gap :: middle ++ last :: after := by simp
    rw [hsplit, ← heq]
    simp
  · rintro ⟨before, gap, middle, last, rest, heq, hgap, hlast⟩
    obtain ⟨after, hrecords⟩ := reached_split supervisor records
    rw [heq] at hrecords
    refine ⟨before, gap, middle, last, rest ++ after, ?_, by simpa using hgap, hlast, ?_⟩
    · rw [← hrecords]
      simp
    · rw [← @prefix_reached_iff _ last _ (rest ++ after)]
      have hsplit : before ++ gap :: middle ++ last :: (rest ++ after) = records := by
        rw [← hrecords]
        simp
      rw [hsplit, heq]
      simp

/-- The rows of a record are refused for want of a reference exactly if it has none. -/
theorem refused_for_reference_iff {runSessionId : Option String} :
    record.liveSubmissionEntry runSessionId =
        .error s!"missing durable live submission ref for attempt {record.attemptId}" ↔
      record.reference = none := by
  rw [NegRiskLiveExecutionRecord.liveSubmissionEntry]
  rcases href : record.reference with _ | submissionRef
  · exact iff_of_true rfl rfl
  · refine iff_of_false (fun h ↦ ?_) (Option.some_ne_none submissionRef)
    rw [NegRiskLiveExecutionRecord.executionAttemptRow] at h
    by_cases hfits : record.attemptNo ≤ 2147483647
    · rw [if_pos hfits] at h
      cases h
    · -- the only other refusal says something else
      rw [if_neg hfits] at h
      have hhead := congrArg (fun text : String ↦ text.toList.head?) (Except.error.inj h)
      have hlive : (toString "live attempt ").toList.head? = some 'l' := by decide
      have hmissing : (toString "missing durable live submission ref for attempt ").toList.head? =
          some 'm' := by decide
      simp [hlive, hmissing] at hhead

/-- **The kept records are the submitted ones, unless one is skipped.**  Once the submit
facts of the records have been applied, exactly those of `appliedRecords` have been; they
are the records that are kept if and only if no record without a reference comes before one
that the loop gets to. -/
theorem keepsSubmitted_iff (env : SupervisorEnv) (supervisor supervisor' : AppSupervisor)
    (records : List NegRiskLiveExecutionRecord) (appliedRecordCount : Nat)
    (h : exec (applyLiveSubmitFacts env records) supervisor =
      (.ok appliedRecordCount, supervisor')) :
    supervisor' = submittedAll env (supervisor.runtime.lastJournalSeq.getD 0) supervisor
        (appliedRecords supervisor records) ∧
      (KeepsSubmitted supervisor records appliedRecordCount ↔ ¬ SkipsRecord supervisor records) := by
  obtain ⟨rfl, hfinal⟩ := exec_applyLiveSubmitFactsFrom_eq_ok h
  refine ⟨hfinal, ?_⟩
  rw [skipsRecord_iff, ← take_length_filter_iff (reached_split supervisor records),
    KeepsSubmitted, Nat.zero_add]
  refine and_iff_left_of_imp fun htake ↦ ?_
  intro record hrecord runSessionId hrefused
  rw [htake] at hrecord
  have hsome := (List.mem_filter.mp hrecord).2
  rw [refused_for_reference_iff.mp hrefused] at hsome
  cases hsome

/-- The record of a submission, with the venue's reference. -/
def referencedRecord : NegRiskLiveExecutionRecord :=
  takenRecord "snapshot-0" { familyId := "family-b", members := [] } "family-b-live"

/-- A record for which the venue gave no reference. -/
def unreferencedRecord : NegRiskLiveExecutionRecord :=
  { takenRecord "snapshot-0" { familyId := "family-a", members := [] } "family-a-live" with
    submissionRef := none }

/-- The record without a reference comes last, and is not kept. -/
theorem referenced_record_kept :
    KeepsSubmitted (startedWith []) [referencedRecord, unreferencedRecord] 1 := by
  have hrun : exec (applyLiveSubmitFacts takingEnv [referencedRecord, unreferencedRecord])
      (startedWith []) = (.ok 1, (exec (applyLiveSubmitFacts takingEnv
        [referencedRecord, unreferencedRecord]) (startedWith [])).2) := Prod.ext (by decide) rfl
  refine (keepsSubmitted_iff takingEnv _ _ _ _ hrun).2.mpr ?_
  rw [skipsRecord_iff, ← take_length_filter_iff (reached_split _ _)]
  decide

/-- The record without a reference comes first: it is kept in the place of the one whose
fact was applied. -/
theorem unreferenced_record_kept :
    (exec (applyLiveSubmitFacts takingEnv [unreferencedRecord, referencedRecord])
        (startedWith [])).1 = .ok 1 ∧
      ¬ KeepsSubmitted (startedWith []) [unreferencedRecord, referencedRecord] 1 := by
  refine ⟨by decide, ?_⟩
  rintro ⟨htake, -⟩
  revert htake
  decide

end AppSupervisor

end AxiomArb.AppLive

import AxiomArb.AppLive.NegRiskLive

/-!
# Shadow runs of neg-risk families

With the real-user shadow smoke on, the eligible families are run against a sink
that submits nothing.  Two families of one batch may not share an attempt.

## Honest boundary

* A single shadow run is any function of its arguments.
-/

namespace AxiomArb.AppLive

open Domain Library Risk

structure ShadowExecutionArtifactRow where
  attemptId : String
  stream : String
  payload : String
deriving DecidableEq, Repr

structure NegRiskShadowExecutionRecord where
  attempt : ExecutionAttemptRow
  artifacts : List ShadowExecutionArtifactRow
deriving DecidableEq, Repr

inductive NegRiskShadowError where
  | planning (reason : String)
  | sink (reason : String)
deriving DecidableEq, Repr

def NegRiskShadowError.toString : NegRiskShadowError → String
  | planning reason | sink reason => reason

/-- What a shadow run of a family gives, for a snapshot, a rule and a run session. -/
abbrev ShadowSink := String → NegRiskFamilyLiveTarget → String → Option String →
  Except NegRiskShadowError NegRiskShadowExecutionRecord

/-- The attempts of a batch, each with the key and the family it was made for. -/
abbrev SeenAttempts := BTreeMap String (String × String)

section Shadow

variable (executeShadowFamily : ShadowSink) (policy : ActivationPolicy) (snapshotId : String)
  (readyFamilies : BTreeSet String) (runSessionId : Option String)

def shadowRecords (seenAttempts : SeenAttempts) :
    Families → Except NegRiskShadowError (List NegRiskShadowExecutionRecord)
  | [] => return []
  | (familyId, target) :: families =>
      let activation := policy.activationFor ROUTE familyId snapshotId
      let intent : IntentCandidate :=
        { intentId := s!"negrisk-shadow-intent:{snapshotId}:{familyId}"
          sourceSnapshotId := snapshotId
          route := ROUTE
          scope := familyId }
      if familyId ∉ readyFamilies then
        shadowRecords seenAttempts families
      else if evaluateDecision (.strategy intent) activation ≠ .approved then
        shadowRecords seenAttempts families
      else do
        let record ← executeShadowFamily snapshotId target
          (activation.matchedRuleId.getD "phase3b-negrisk-shadow") runSessionId
        match seenAttempts[record.attempt.attemptId]? with
        | some (firstKey, firstFamilyId) =>
            throw (.planning s!"duplicate shadow attempt generated in same batch: attempt_id={
              record.attempt.attemptId} first_key={firstKey} first_family_id={
              firstFamilyId} second_key={familyId} second_family_id={target.familyId}")
        | none =>
            let records ← shadowRecords
              (seenAttempts.insert record.attempt.attemptId (familyId, target.familyId)) families
            return record :: records

end Shadow

def eligibleShadowRecordsWithRunSessionId (executeShadowFamily : ShadowSink) (snapshotId : String)
    (targets : BTreeMap String NegRiskFamilyLiveTarget)
    (approvedFamilies readyFamilies : BTreeSet String) (runSessionId : Option String) :
    Except NegRiskShadowError (List NegRiskShadowExecutionRecord) :=
  shadowRecords executeShadowFamily (liveTargetsPolicy approvedFamilies).withRealUserShadowSmoke
    snapshotId readyFamilies runSessionId ∅ targets.toList

variable {executeShadowFamily : ShadowSink} {policy : ActivationPolicy} {snapshotId : String}
  {readyFamilies : BTreeSet String} {runSessionId : Option String}

/-- The attempts of a batch are new and differ from each other. -/
theorem fresh_shadowRecords {families : Families} {seen : SeenAttempts}
    {records : List NegRiskShadowExecutionRecord}
    (h : shadowRecords executeShadowFamily policy snapshotId readyFamilies runSessionId seen families =
      .ok records) :
    (∀ record ∈ records, record.attempt.attemptId ∉ seen) ∧
      (records.map fun record ↦ record.attempt.attemptId).Nodup := by
  induction families generalizing seen records with
  | nil =>
      cases h
      simp
  | cons family families ih =>
      obtain ⟨familyId, target⟩ := family
      rw [shadowRecords] at h
      split at h
      · exact ih h
      · split at h
        · exact ih h
        · cases hrecord : executeShadowFamily snapshotId target
              ((policy.activationFor ROUTE familyId snapshotId).matchedRuleId.getD
                "phase3b-negrisk-shadow") runSessionId with
          | error error =>
              rw [hrecord] at h
              cases h
          | ok record =>
              rw [hrecord] at h
              cases hseen : seen[record.attempt.attemptId]? with
              | some first =>
                  simp only [bind, Except.bind, hseen] at h
                  cases h
              | none =>
                  simp only [bind, Except.bind, hseen] at h
                  split at h
                  · cases h
                  · rename_i rest hrest
                    cases h
                    obtain ⟨hnew, hnodup⟩ := ih hrest
                    have hnot : record.attempt.attemptId ∉ seen := by
                      rw [Std.ExtTreeMap.mem_iff_isSome_getElem?, hseen]
                      exact Bool.false_ne_true
                    refine ⟨?_, ?_⟩
                    · rintro other (_ | ⟨_, hother⟩)
                      · exact hnot
                      · have h := hnew other hother
                        rw [Std.ExtTreeMap.mem_insert] at h
                        exact fun hmem ↦ h (.inr hmem)
                    · rw [List.map_cons, List.nodup_cons]
                      refine ⟨?_, hnodup⟩
                      rw [List.mem_map]
                      rintro ⟨other, hother, heq⟩
                      have h := hnew other hother
                      rw [Std.ExtTreeMap.mem_insert, heq] at h
                      exact h (.inl Std.ReflCmp.compare_self)

end AxiomArb.AppLive

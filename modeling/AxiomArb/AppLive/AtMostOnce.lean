import AxiomArb.AppLive.SupervisorPhases

/-!
# At most one submission of a family

A family is to be submitted to the venue once in the life of a supervisor, however
its runs and the inputs of the journal interleave.  The guard that decides looks at
the records that are held, and these are dropped when a later snapshot is published.
The module says exactly which runs submit a family again.
-/

namespace AxiomArb.AppLive

open Domain Library State

namespace AppSupervisor

/-! ## The life of a supervisor -/

/-- What is done to a supervisor in its life: runs, and journal inputs between them. -/
inductive LifeOp where
  | runOnce
  | seedUnappliedJournalEntry (journalSeq : Int) (input : InputTaskEvent)

def lifeStep (env : SupervisorEnv) (supervisor : AppSupervisor) : LifeOp → AppSupervisor
  | .runOnce => (exec (AppSupervisor.runOnce env) supervisor).2
  | .seedUnappliedJournalEntry journalSeq input =>
      supervisor.seedUnappliedJournalEntry journalSeq input

/-- No family has been submitted twice. -/
def AtMostOnce (supervisor : AppSupervisor) : Prop :=
  (supervisor.effects.venueCalls.map LiveCall.familyId).Nodup

/-- The venue behind a supervisor fails no submission. -/
def VenueTakesAll (env : SupervisorEnv) (supervisor : AppSupervisor) : Prop :=
  ∀ calls snapshotId target matchedRuleId, ∃ record,
    (supervisor.backend env).executeLiveFamily calls snapshotId target matchedRuleId = .ok record

/-- A run does not find the guard open once families have been submitted. -/
def StaysClosed (supervisor : AppSupervisor) (op : LifeOp) : Prop :=
  op = .runOnce → supervisor.effects.venueCalls ≠ [] → ¬ supervisor.LiveBatchOpen

variable {env : SupervisorEnv} {supervisor supervisor' : AppSupervisor}

/-! ## Batches -/

/-- A batch covers the eligible families, each once. -/
theorem familyIds_liveBatchFor (htakes : VenueTakesAll env supervisor) (snapshotId : String) :
    (liveBatchFor env supervisor snapshotId).map LiveCall.familyId =
      supervisor.eligibleFamilies.map Prod.fst :=
  familyIds_venueBatch (answers_venueBatch htakes)

theorem nodup_eligibleFamilies : (supervisor.eligibleFamilies.map Prod.fst).Nodup := nodup_eligible

/-- Where families are counted as ready, some family is eligible. -/
theorem eligibleFamilies_ne_nil (h : supervisor.syntheticLiveReadyFamilyCount ≠ 0) :
    supervisor.eligibleFamilies ≠ [] := by
  obtain ⟨familyId, hkey, hfamily⟩ := List.countP_pos_iff.mp (Nat.pos_of_ne_zero h)
  rw [Bool.and_eq_true] at hfamily
  rw [← Std.ExtTreeMap.map_fst_toList_eq_keys, List.mem_map] at hkey
  obtain ⟨family, hmem, rfl⟩ := hkey
  refine List.ne_nil_of_mem (a := family) (List.mem_filter.mpr ⟨hmem, ?_⟩)
  exact decide_eq_true ⟨by simpa using hfamily.1, .inl (by simpa using hfamily.2)⟩

/-! ## The invariant -/

/-- What holds of a live supervisor between its runs. -/
structure LiveInvariant (env : SupervisorEnv) (supervisor : AppSupervisor) : Prop where
  live : supervisor.runtime.appMode = .live
  takes : VenueTakesAll env supervisor
  settled : supervisor.Settled
  submitted : supervisor.effects.venueCalls ≠ [] → supervisor.Ready ∧
    ∀ family ∈ supervisor.eligibleFamilies,
      family.1 ∈ supervisor.effects.venueCalls.map LiveCall.familyId

theorem liveInvariant_seededLive (bootstrapSnapshot : RemoteSnapshot) (seeds : List SeedOp)
    (htakes : VenueTakesAll env (seededLive env bootstrapSnapshot seeds)) :
    LiveInvariant env (seededLive env bootstrapSnapshot seeds) := by
  obtain ⟨hruntime, heffects⟩ := seededLive_frame env bootstrapSnapshot seeds
  exact
    { live := by rw [hruntime]; rfl
      takes := htakes
      settled := fun _ ↦ .inl (by rw [hruntime]; rfl)
      submitted := fun h ↦ absurd (by rw [heffects]; rfl) h }

/-- A run adds to the calls a batch that covers the eligible families, or nothing. -/
theorem runOnce_batch (hinv : LiveInvariant env supervisor) :
    let final := (exec (AppSupervisor.runOnce env) supervisor).2
    final.setup = supervisor.setup ∧ final.Settled ∧ (supervisor.Ready → final.Ready) ∧
    ((final.effects.venueCalls = supervisor.effects.venueCalls ∧
        (supervisor.Ready → ¬ supervisor.LiveBatchOpen)) ∨
      (final.Ready ∧ supervisor.eligibleFamilies ≠ [] ∧
        (supervisor.Ready → supervisor.LiveBatchOpen) ∧
        final.effects.venueCalls.map LiveCall.familyId =
          supervisor.effects.venueCalls.map LiveCall.familyId ++
            supervisor.eligibleFamilies.map Prod.fst)) := by
  intro final
  obtain ⟨hsetup, hsettled, hready, hcalls⟩ := runOnce_calls env hinv.live hinv.settled
  refine ⟨hsetup, hsettled, hready, hcalls.imp_right ?_⟩
  rintro ⟨-, hup, hopen, hbatch⟩
  have hcount : supervisor.syntheticLiveReadyFamilyCount ≠ 0 := by
    have hsame : supervisor.broughtUp.setup = supervisor.setup := setup_broughtUp
    simp only [setup, Setup.mk.injEq] at hsame
    simpa [syntheticLiveReadyFamilyCount, hsame] using hopen.2.2.1
  refine ⟨hup, eligibleFamilies_ne_nil hcount, fun h ↦ broughtUp_of_ready h ▸ hopen, ?_⟩
  rw [hbatch, List.map_append, familyIds_liveBatchFor hinv.takes]

theorem liveInvariant_step (hinv : LiveInvariant env supervisor) (op : LifeOp) :
    LiveInvariant env (lifeStep env supervisor op) := by
  cases op with
  | seedUnappliedJournalEntry journalSeq input =>
      exact ⟨hinv.live, hinv.takes, hinv.settled, hinv.submitted⟩
  | runOnce =>
      obtain ⟨hsetup, hsettled, hready, hcalls⟩ := runOnce_batch hinv
      have heligible := eligibleFamilies_congr hsetup
      simp only [lifeStep]
      refine
        { live := (congrArg Setup.appMode hsetup).trans hinv.live
          takes := ?_
          settled := hsettled
          submitted := ?_ }
      · have hbackend := congrArg Setup.negRiskLiveExecutionBackend hsetup
        simp only [setup] at hbackend
        have h := hinv.takes
        rw [VenueTakesAll, backend] at h ⊢
        rwa [hbackend]
      · rw [heligible]
        rcases hcalls with ⟨hsame, -⟩ | ⟨hup, -, -, hbatch⟩
        · rw [hsame]
          exact fun h ↦ ⟨hready (hinv.submitted h).1, (hinv.submitted h).2⟩
        · refine fun _ ↦ ⟨hup, fun family hfamily ↦ ?_⟩
          rw [hbatch]
          exact List.mem_append_right _ (List.mem_map_of_mem hfamily)

/-- One step submits no family twice exactly when it does not find the guard open. -/
theorem atMostOnce_step_iff (hinv : LiveInvariant env supervisor) (honce : supervisor.AtMostOnce)
    (op : LifeOp) :
    (lifeStep env supervisor op).AtMostOnce ↔ supervisor.StaysClosed op := by
  cases op with
  | seedUnappliedJournalEntry journalSeq input =>
      exact iff_of_true honce fun h ↦ by cases h
  | runOnce =>
      obtain ⟨-, -, -, hcalls⟩ := runOnce_batch hinv
      simp only [lifeStep, AtMostOnce, StaysClosed, true_implies]
      by_cases hfirst : supervisor.effects.venueCalls = []
      · refine iff_of_true ?_ fun h ↦ absurd hfirst h
        rcases hcalls with ⟨hsame, -⟩ | ⟨-, -, -, hbatch⟩
        · rwa [hsame]
        · rw [hbatch, hfirst]
          exact nodup_eligibleFamilies
      · obtain ⟨hready, hcovered⟩ := hinv.submitted hfirst
        rcases hcalls with ⟨hsame, hclosed⟩ | ⟨-, hne, hopen, hbatch⟩
        · rw [hsame]
          exact iff_of_true honce fun _ ↦ hclosed hready
        · refine iff_of_false (fun hnodup ↦ ?_) fun h ↦ h hfirst (hopen hready)
          -- every family of the batch was submitted before
          obtain ⟨family, hfamily⟩ := List.exists_mem_of_ne_nil _ hne
          rw [hbatch] at hnodup
          exact (List.disjoint_of_nodup_append hnodup) (hcovered family hfamily)
            (List.mem_map_of_mem hfamily)

/-- In the life of a live supervisor whose venue fails no submission, no family is
submitted twice exactly when no run finds the guard open after the first submission. -/
theorem submissions_at_most_once_iff (env : SupervisorEnv) (bootstrapSnapshot : RemoteSnapshot)
    (seeds : List SeedOp) (ops : List LifeOp)
    (htakes : VenueTakesAll env (seededLive env bootstrapSnapshot seeds)) :
    Always (lifeStep env) AtMostOnce (seededLive env bootstrapSnapshot seeds) ops ↔
      Steps (lifeStep env) StaysClosed (seededLive env bootstrapSnapshot seeds) ops := by
  refine always_iff_steps (J := LiveInvariant env) (K := fun _ _ ↦ True)
    (fun _ op hinv _ ↦ liveInvariant_step hinv op)
    (fun _ op hinv honce _ ↦ atMostOnce_step_iff hinv honce op)
    (liveInvariant_seededLive bootstrapSnapshot seeds htakes) ?_ (steps_of_forall fun _ _ ↦ trivial)
  rw [AtMostOnce, (seededLive_frame env bootstrapSnapshot seeds).2]
  exact List.nodup_nil

instance decidableStaysClosed (supervisor : AppSupervisor) :
    (op : LifeOp) → Decidable (supervisor.StaysClosed op)
  | .runOnce => decidable_of_iff
      (¬ supervisor.effects.venueCalls.isEmpty → ¬ supervisor.LiveBatchOpen) (by simp [StaysClosed])
  | .seedUnappliedJournalEntry _ _ => .isTrue fun h ↦ by cases h

/-- The seeds of a supervisor that takes up a committed journal with one family. -/
def resumingSeeds : List SeedOp := .runtimeProgress 5 1 none :: familySeeds ["family-a"]

/-- The venue reports that the submission of `family-a` has come to its end. -/
def submissionSettled : LifeOp :=
  .seedUnappliedJournalEntry 7 (.new 7 (.negriskLiveReconcileObserved "session" "reconcile"
    (PendingRef.fromFactKey
      (takenRecord "snapshot-1" { familyId := "family-a", members := [] } "family-a-live").submitKey)
    "family-a" true 0))

theorem submissions_at_most_once_resuming :
    Always (lifeStep takingEnv) AtMostOnce (seededLive takingEnv .empty resumingSeeds)
      [.runOnce, submissionSettled, .runOnce] :=
  (submissions_at_most_once_iff takingEnv .empty resumingSeeds _
    fun _ snapshotId target rule ↦ ⟨takenRecord snapshotId target rule, rfl⟩).mpr (by decide +kernel)

/-- The run after the one that settles the submission submits the family again. -/
theorem family_submitted_twice :
    ¬ Always (lifeStep takingEnv) AtMostOnce (seededLive takingEnv .empty resumingSeeds)
      [.runOnce, submissionSettled, .runOnce, .runOnce] := by
  intro h
  have hlast := h.last
  revert hlast
  unfold AtMostOnce
  decide +kernel

end AppSupervisor

end AxiomArb.AppLive

import AxiomArb.AppLive.SupervisorPhases

/-!
# The drain of the ingress queue

The loop of a drain looks for the next input past a fixed anchor, and removes it by
value once it is committed.  `exec_drainInputTasksFrom` says what that comes to: the
loop is the traversal, in order, of the inputs the queue has past the anchor
(`drainInOrder`), and the length of the queue bounds its rounds.  What a traversal has
done when it ends, or where it stops, is `DrainedTo`.
-/

namespace AxiomArb.AppLive

open Domain Library State

/-! ## Lists in the order of the journal -/

/-- The input is past the anchor. -/
def InputTaskEvent.past (anchor : Option Int) (input : InputTaskEvent) : Bool :=
  anchor.all (· < input.journalSeq)

/-- The fact of an input, at its number. -/
def InputTaskEvent.journaled (input : InputTaskEvent) : JournaledFact :=
  (input.journalSeq, input.intoStateFactInput)

/-- Inputs in strictly ascending order are found in that order in every log that has
each of them, if it is ordered and has nothing twice. -/
theorem sublist_of_ordered {inputs log : List InputTaskEvent}
    (hinputs : inputs.Pairwise fun input later ↦ input.journalSeq < later.journalSeq)
    (hlog : log.Pairwise InputTaskEvent.NotAfter) (hnodup : log.Nodup)
    (hmem : ∀ input ∈ inputs, input ∈ log) :
    inputs.Sublist log := by
  have hseqs : (inputs.map InputTaskEvent.journalSeq).Nodup := by
    rw [List.nodup_iff_pairwise_ne, List.pairwise_map]
    exact hinputs.imp ne_of_lt
  have hordered : inputs.Pairwise InputTaskEvent.NotAfter := hinputs.imp le_of_lt
  have hfound : inputs = log.filter (· ∈ inputs) := by
    refine List.Perm.eq_of_pairwise ?_ hordered (hlog.filter _) ?_
    · intro input input' hinput hinput' hle hge
      have hinput' : input' ∈ inputs := by simpa using (List.mem_filter.mp hinput').2
      exact List.inj_on_of_nodup_map hseqs hinput hinput' (le_antisymm hle hge)
    · rw [List.perm_ext_iff_of_nodup hseqs.of_map (hnodup.filter _)]
      intro input
      simpa using hmem input
  rw [hfound]
  exact List.filter_sublist

/-- The log with one more input. -/
def commitTo (log : List InputTaskEvent) (input : InputTaskEvent) : List InputTaskEvent :=
  if input ∈ log then log else InputTaskEvent.sortByJournalSeq (log ++ [input])

/-- A log as the source keeps it: in order, and with nothing twice. -/
structure LogOrdered (log : List InputTaskEvent) : Prop where
  sorted : log.Pairwise InputTaskEvent.NotAfter
  nodup : log.Nodup

section Log

variable {log : List InputTaskEvent} {input : InputTaskEvent}

theorem mem_commitTo {other : InputTaskEvent} :
    other ∈ commitTo log input ↔ other ∈ log ∨ other = input := by
  unfold commitTo
  split
  · rename_i hmem
    constructor
    · exact .inl
    · rintro (hother | rfl)
      · exact hother
      · exact hmem
  · simp

theorem LogOrdered.commitTo (h : LogOrdered log) : LogOrdered (commitTo log input) := by
  unfold AppLive.commitTo
  split
  · exact h
  · rename_i hnew
    refine ⟨List.pairwise_insertionSort InputTaskEvent.NotAfter _, ?_⟩
    rw [(InputTaskEvent.sortByJournalSeq_perm _).nodup_iff, List.nodup_append]
    refine ⟨h.nodup, by simp, ?_⟩
    intro other hother other' hother' heq
    obtain rfl : other' = input := by simpa using hother'
    exact hnew (heq ▸ hother)

theorem LogOrdered.foldl (h : LogOrdered log) (inputs : List InputTaskEvent) :
    LogOrdered (inputs.foldl AppLive.commitTo log) := by
  induction inputs generalizing log with
  | nil => exact h
  | cons input inputs ih => exact ih h.commitTo

theorem mem_foldl_commitTo (inputs : List InputTaskEvent) :
    input ∈ inputs.foldl commitTo log ↔ input ∈ log ∨ input ∈ inputs := by
  induction inputs generalizing log with
  | nil => simp
  | cons first inputs ih => rw [List.foldl_cons, ih, mem_commitTo, List.mem_cons, or_assoc]

end Log

namespace IngressQueue

variable {queue : IngressQueue} {anchor : Option Int} {input : InputTaskEvent}
  {rest : List InputTaskEvent}

/-- The queued inputs past the anchor, in the order of the queue. -/
def due (queue : IngressQueue) (anchor : Option Int) : List InputTaskEvent :=
  queue.backlog.filter (InputTaskEvent.past anchor)

theorem nextAfter_eq_head? : queue.nextAfter anchor = (queue.due anchor).head? := by
  rw [due, List.head?_filter]
  rfl

theorem due_remove (h : queue.due anchor = input :: rest) :
    (queue.remove input).due anchor = rest := by
  rw [due, remove, ← List.erase_filter]
  show (queue.due anchor).erase input = rest
  rw [h, List.erase_cons_head]

theorem length_due_le : (queue.due anchor).length ≤ queue.len := List.length_filter_le _ _

/-- Distinct numbers make the order of what is due strict. -/
theorem due_pairwise_lt (h : (queue.backlog.map InputTaskEvent.journalSeq).Nodup) :
    (queue.due anchor).Pairwise fun input later ↦ input.journalSeq < later.journalSeq := by
  have hseqs : ((queue.due anchor).map InputTaskEvent.journalSeq).Nodup :=
    h.sublist (List.filter_sublist.map _)
  rw [List.nodup_iff_pairwise_ne, List.pairwise_map] at hseqs
  exact (queue.sorted.filter _).imp₂ (fun _ _ ↦ lt_of_le_of_ne) hseqs

end IngressQueue

namespace AppSupervisor

variable {env : SupervisorEnv} {supervisor supervisor' : AppSupervisor} {input : InputTaskEvent}
  {inputs : List InputTaskEvent} {anchor : Option Int}

/-- Commit one input, and go on unless it is refused. -/
def commitThen (env : SupervisorEnv) (authoritative : Bool) (input : InputTaskEvent)
    (rest : Bool → SupervisorCommand (Nat × Bool)) : SupervisorCommand (Nat × Bool) := do
  let candidateDirty ← drainInput input
  modify fun supervisor ↦
    if candidateDirty && !authoritative then
      supervisor.materializeCandidateArtifactsWithAuthority env false
    else
      supervisor
  rest candidateDirty

/-- Commit the inputs one by one, in the order given, until one is refused. -/
def drainInOrder (env : SupervisorEnv) (authoritative : Bool) :
    List InputTaskEvent → Nat → Bool → SupervisorCommand (Nat × Bool)
  | [], processedCount, candidateDirtySeen => return (processedCount, candidateDirtySeen)
  | input :: inputs, processedCount, candidateDirtySeen =>
      commitThen env authoritative input fun candidateDirty ↦
        drainInOrder env authoritative inputs (processedCount + 1)
          (candidateDirtySeen || candidateDirty)

@[simp] theorem committedLog_recordCommittedInput :
    (supervisor.recordCommittedInput input).committedLog =
      commitTo supervisor.committedLog input := by
  unfold recordCommittedInput commitTo
  split <;> rfl

/-- The inputs `done` have been committed, in this order, and nothing else has. -/
structure DrainedTo (supervisor : AppSupervisor) (done : List InputTaskEvent)
    (supervisor' : AppSupervisor) : Prop where
  store : supervisor'.runtime.store =
    run StateStore.applyStep supervisor.runtime.store (done.map InputTaskEvent.journaled)
  log : supervisor'.committedLog = done.foldl commitTo supervisor.committedLog
  backlog : supervisor'.inputTasks.backlog = done.foldl List.erase supervisor.inputTasks.backlog

theorem drainedTo_nil : DrainedTo supervisor [] supervisor := ⟨rfl, rfl, rfl⟩

/-- What one input comes to, and what is left for the rest. -/
theorem commitThen_cases (env : SupervisorEnv) (authoritative : Bool) (supervisor : AppSupervisor)
    (input : InputTaskEvent) :
    (∃ refusal, (supervisor.runtime.applyInput input).1 = .error refusal ∧
      ∀ rest, exec (commitThen env authoritative input rest) supervisor =
        (.error { message := refusal.message }, supervisor)) ∨
    supervisor.runtime.store.Admits input.journalSeq input.factKey ∧
    ∃ dirty next,
      (∀ rest, exec (commitThen env authoritative input rest) supervisor =
        exec (rest dirty) next) ∧
      Recorded next input ∧
      next.runtime.store = supervisor.runtime.store.applyStep input.journaled ∧
      next.committedLog = commitTo supervisor.committedLog input ∧
      next.inputTasks = supervisor.inputTasks.remove input := by
  rcases drainInput_effect supervisor input with
    ⟨refusal, hrefused, heq⟩ | ⟨hadmits, dirty, taken, heq, hstore, hlog, hqueue⟩
  · refine .inl ⟨refusal, hrefused, fun rest ↦ ?_⟩
    simp only [commitThen, exec_bind, heq]
  · have hidle := idle_drainRound env taken authoritative dirty
    have hrecorded : Recorded taken input :=
      recorded_of_applyStep hadmits hstore (hlog ▸ mem_recordCommittedInput)
    rw [committedLog_recordCommittedInput] at hlog
    refine .inr ⟨hadmits, dirty, _, fun rest ↦ ?_, hrecorded.grows hidle.still.toGrows,
      hidle.store.trans hstore, hidle.committed.trans hlog, hidle.inputs.trans hqueue⟩
    simp only [commitThen, exec_bind, heq, exec_modify]

section Round

variable (authoritative : Bool) (fuel processed : Nat) (seen : Bool)

theorem exec_round_of_none (h : supervisor.inputTasks.nextAfter anchor = none) :
    exec (drainInputTasksFrom env authoritative anchor (fuel + 1) processed seen) supervisor =
      (.ok (processed, seen), supervisor) := by
  simp only [drainInputTasksFrom, exec_bind, exec_get, h, exec_pure]

theorem exec_round_of_some (h : supervisor.inputTasks.nextAfter anchor = some input) :
    exec (drainInputTasksFrom env authoritative anchor (fuel + 1) processed seen) supervisor =
      exec (commitThen env authoritative input fun dirty ↦
        drainInputTasksFrom env authoritative anchor fuel (processed + 1) (seen || dirty))
        supervisor := by
  simp only [drainInputTasksFrom, commitThen, exec_bind, exec_get, h]

end Round

/-- **The loop is a traversal.**  A drain commits the queued inputs past its anchor one
after the other, in the order of the queue; their number bounds the rounds it takes. -/
theorem exec_drainInputTasksFrom (env : SupervisorEnv) (authoritative : Bool)
    (anchor : Option Int) {fuel : Nat} (processed : Nat) (seen : Bool)
    (hfuel : (supervisor.inputTasks.due anchor).length ≤ fuel) :
    exec (drainInputTasksFrom env authoritative anchor fuel processed seen) supervisor =
      exec (drainInOrder env authoritative (supervisor.inputTasks.due anchor) processed seen)
        supervisor := by
  induction fuel generalizing supervisor processed seen with
  | zero =>
      rw [List.eq_nil_of_length_eq_zero (Nat.le_zero.mp hfuel)]
      rfl
  | succ fuel ih =>
      have hnext : supervisor.inputTasks.nextAfter anchor =
          (supervisor.inputTasks.due anchor).head? := IngressQueue.nextAfter_eq_head?
      cases hdue : supervisor.inputTasks.due anchor with
      | nil =>
          rw [hdue, List.head?_nil] at hnext
          rw [exec_round_of_none authoritative fuel processed seen hnext]
          rfl
      | cons input rest =>
          rw [hdue, List.head?_cons] at hnext
          rw [exec_round_of_some authoritative fuel processed seen hnext, drainInOrder]
          rcases commitThen_cases env authoritative supervisor input with
            ⟨_, -, heq⟩ | ⟨-, dirty, next, heq, -, -, -, hqueue⟩
          · rw [heq, heq]
          · have hrest : next.inputTasks.due anchor = rest := by
              rw [hqueue, IngressQueue.due_remove hdue]
            have hlen : rest.length ≤ fuel := by simpa [hdue] using hfuel
            rw [heq, heq, ih _ _ (by rwa [hrest]), hrest]

theorem within_drainInOrder (env : SupervisorEnv) (authoritative : Bool)
    (inputs : List InputTaskEvent) (processed : Nat) (seen : Bool) :
    Within Quiet (drainInOrder env authoritative inputs processed seen) := by
  induction inputs generalizing processed seen with
  | nil => exact within_pure
  | cons input inputs ih =>
      refine within_bind within_drainInput fun dirty ↦ ?_
      refine within_bind (within_modify fun supervisor ↦ ?_) fun _ ↦ ih _ _
      exact (idle_drainRound env supervisor authoritative dirty).still.toQuiet

/-- What a traversal has done when it ends, and where it stops if an input is refused. -/
theorem drainInOrder_cases (env : SupervisorEnv) (authoritative : Bool)
    (inputs : List InputTaskEvent) (supervisor : AppSupervisor) (processed : Nat) (seen : Bool) :
    (∃ dirty supervisor',
      exec (drainInOrder env authoritative inputs processed seen) supervisor =
        (.ok (processed + inputs.length, dirty), supervisor') ∧
      DrainedTo supervisor inputs supervisor' ∧ ∀ input ∈ inputs, Recorded supervisor' input) ∨
    ∃ done input rest refusal supervisor', inputs = done ++ input :: rest ∧
      exec (drainInOrder env authoritative inputs processed seen) supervisor =
        (.error { message := refusal.message }, supervisor') ∧
      DrainedTo supervisor done supervisor' ∧
      (supervisor'.runtime.applyInput input).1 = .error refusal := by
  induction inputs generalizing supervisor processed seen with
  | nil => exact .inl ⟨seen, supervisor, rfl, drainedTo_nil, by simp⟩
  | cons input inputs ih =>
      rw [drainInOrder]
      rcases commitThen_cases env authoritative supervisor input with
        ⟨refusal, hrefused, heq⟩ | ⟨-, dirty, next, heq, hrecorded, hstore, hlog, hqueue⟩
      · exact .inr ⟨[], input, inputs, refusal, supervisor, rfl, heq _, drainedTo_nil, hrefused⟩
      · have hdrained : ∀ {done supervisor'}, DrainedTo next done supervisor' →
            DrainedTo supervisor (input :: done) supervisor' := by
          intro done supervisor' h
          refine ⟨?_, ?_, ?_⟩
          · rw [h.store, hstore, List.map_cons, run_cons]
          · rw [h.log, hlog, List.foldl_cons]
          · rw [h.backlog, hqueue, List.foldl_cons]
            rfl
        have hgrows := within_drainInOrder env authoritative inputs (processed + 1) (seen || dirty) next
        rw [heq]
        rcases ih next (processed + 1) (seen || dirty) with
          ⟨seen', supervisor', hexec, hdone, hrest⟩ |
          ⟨done, refused, rest, refusal, supervisor', rfl, hexec, hdone, hrefused⟩
        · rw [hexec] at hgrows
          refine .inl ⟨seen', supervisor', ?_, hdrained hdone,
            List.forall_mem_cons.mpr ⟨hrecorded.grows hgrows.toGrows, hrest⟩⟩
          rw [hexec, List.length_cons, Nat.add_right_comm, Nat.add_assoc]
        · exact .inr ⟨input :: done, refused, rest, refusal, supervisor', rfl, hexec,
            hdrained hdone, hrefused⟩

/-- A drain commits what is due, or stops at the first input that is refused. -/
theorem drainInputTasks_cases (env : SupervisorEnv) (supervisor : AppSupervisor) :
    let due := supervisor.inputTasks.due supervisor.runtime.lastJournalSeq
    (∃ supervisor', exec (drainInputTasks env) supervisor = (.ok due.length, supervisor') ∧
      DrainedTo supervisor due supervisor' ∧ ∀ input ∈ due, Recorded supervisor' input) ∨
    ∃ done input rest refusal supervisor', due = done ++ input :: rest ∧
      exec (drainInputTasks env) supervisor =
        (.error { message := refusal.message }, supervisor') ∧
      DrainedTo supervisor done supervisor' ∧
      (supervisor'.runtime.applyInput input).1 = .error refusal := by
  intro due
  have hfuel : due.length ≤ supervisor.inputTasks.len := IngressQueue.length_due_le
  have hloop := exec_drainInputTasksFrom env false supervisor.runtime.lastJournalSeq 0 false hfuel
  simp only [drainInputTasks, exec_bind, exec_get, hloop]
  rcases drainInOrder_cases env false due supervisor 0 false with
    ⟨dirty, supervisor', heq, hdone, hrecorded⟩ |
    ⟨done, input, rest, refusal, supervisor', hsplit, heq, hdone, hrefused⟩
  · left
    rw [heq, Nat.zero_add]
    exact ⟨supervisor', rfl, hdone, hrecorded⟩
  · right
    rw [heq]
    exact ⟨done, input, rest, refusal, supervisor', hsplit, rfl, hdone, hrefused⟩

/-! ## From the backlog to the log -/

/-- The supervisor, when it has committed just these inputs. -/
def withCommitted (supervisor : AppSupervisor) (logged : List InputTaskEvent) : AppSupervisor :=
  logged.foldl recordCommittedInput { supervisor with committedLog := [] }

/-- The supervisor, when just these inputs have been pushed to its queue. -/
def withBacklog (supervisor : AppSupervisor) (inputs : List InputTaskEvent) : AppSupervisor :=
  { supervisor with inputTasks := inputs.foldl IngressQueue.push .empty }

theorem logOrdered_withCommitted (supervisor : AppSupervisor) (logged : List InputTaskEvent) :
    LogOrdered (supervisor.withCommitted logged).committedLog := by
  have hfold : ∀ supervisor : AppSupervisor, LogOrdered supervisor.committedLog →
      LogOrdered (logged.foldl recordCommittedInput supervisor).committedLog := by
    induction logged with
    | nil => exact fun _ ↦ id
    | cons input logged ih =>
        intro supervisor h
        refine ih _ ?_
        rw [committedLog_recordCommittedInput]
        exact h.commitTo
  exact hfold _ ⟨.nil, .nil⟩

theorem perm_foldl_push (queue : IngressQueue) (inputs : List InputTaskEvent) :
    (inputs.foldl IngressQueue.push queue).backlog.Perm (queue.backlog ++ inputs) := by
  induction inputs generalizing queue with
  | nil => simp
  | cons input inputs ih =>
      refine (ih (queue.push input)).trans ?_
      rw [List.append_cons]
      exact (InputTaskEvent.sortByJournalSeq_perm _).append_right inputs

/-- What has been committed in ascending order is in the log, once each and in order. -/
theorem DrainedTo.committed {done : List InputTaskEvent} (h : DrainedTo supervisor done supervisor')
    (hlog : LogOrdered supervisor.committedLog)
    (hdone : done.Pairwise fun input later ↦ input.journalSeq < later.journalSeq) :
    supervisor'.committedLog.Nodup ∧ done.Sublist supervisor'.committedLog := by
  have hordered : LogOrdered supervisor'.committedLog := by
    rw [h.log]
    exact hlog.foldl done
  refine ⟨hordered.nodup, sublist_of_ordered hdone hordered.sorted hordered.nodup ?_⟩
  intro input hinput
  rw [h.log, mem_foldl_commitTo]
  exact .inr hinput

section Left

variable {done rest : List InputTaskEvent}
  (hqueue : supervisor.inputTasks.backlog.Perm inputs) (hnodup : inputs.Nodup)

include hqueue hnodup

/-- The queue has lost what was committed and nothing else. -/
theorem DrainedTo.left (h : DrainedTo supervisor done supervisor') :
    supervisor'.inputTasks.backlog.Perm (inputs.filter (· ∉ done)) := by
  rw [h.backlog, ← List.diff_eq_foldl, (hqueue.nodup_iff.mpr hnodup).sdiff_eq_filter]
  exact hqueue.filter _

/-- When all that is due has been committed, the inputs up to the anchor are left. -/
theorem DrainedTo.left_of_due
    (h : DrainedTo supervisor (supervisor.inputTasks.due anchor) supervisor') :
    supervisor'.inputTasks.backlog.Perm
      (inputs.filter fun input ↦ !InputTaskEvent.past anchor input) := by
  refine (h.left hqueue hnodup).trans (.of_eq (List.filter_congr fun input hinput ↦ ?_))
  have hmem : input ∈ supervisor.inputTasks.due anchor ↔ input.past anchor := by
    rw [IngressQueue.due, List.mem_filter, hqueue.mem_iff]
    exact and_iff_right hinput
  simp [hmem]

/-- When a drain has stopped, the input that is refused and those after it are left. -/
theorem DrainedTo.left_of_split (h : DrainedTo supervisor done supervisor')
    (hsplit : supervisor.inputTasks.due anchor = done ++ rest)
    (hascending : (done ++ rest).Pairwise fun input later ↦ input.journalSeq < later.journalSeq) :
    ∀ other ∈ rest, other ∈ supervisor'.inputTasks.backlog := by
  intro other hother
  have hlater : other ∉ done := fun hmem ↦
    ((List.pairwise_append.mp hascending).2.2 other hmem other hother).false
  have hqueued : other ∈ supervisor.inputTasks.due anchor :=
    hsplit ▸ List.mem_append_right done hother
  rw [(h.left hqueue hnodup).mem_iff, List.mem_filter]
  exact ⟨hqueue.mem_iff.mp (List.mem_filter.mp hqueued).1, by simpa using hlater⟩

end Left

/-- **The drain is complete and ordered.**  Inputs with distinct numbers are pushed in
any order; `due` are those past the anchor, by ascending number.  The loop ends: it is
the traversal of `due`.  If it succeeds, each of them has been applied and is in the log
once, in order, and the others are left in the queue.  If an input is refused, the ones
before it have been committed, and it and all later ones are still queued. -/
theorem drain_complete_and_ordered (env : SupervisorEnv) (base : AppSupervisor)
    (logged inputs : List InputTaskEvent)
    (hdistinct : (inputs.map InputTaskEvent.journalSeq).Nodup) :
    let supervisor := (base.withCommitted logged).withBacklog inputs
    let anchor := supervisor.runtime.lastJournalSeq
    let due := supervisor.inputTasks.due anchor
    due.Perm (inputs.filter (InputTaskEvent.past anchor)) ∧
    due.Pairwise (fun input later ↦ input.journalSeq < later.journalSeq) ∧
    (∀ fuel, inputs.length ≤ fuel →
      exec (drainInputTasksFrom env false anchor fuel 0 false) supervisor =
        exec (drainInOrder env false due 0 false) supervisor) ∧
    (∀ count supervisor', exec (drainInputTasks env) supervisor = (.ok count, supervisor') →
      count = due.length ∧ DrainedTo supervisor due supervisor' ∧
      supervisor'.committedLog.Nodup ∧ due.Sublist supervisor'.committedLog ∧
      supervisor'.inputTasks.backlog.Perm
        (inputs.filter fun input ↦ !InputTaskEvent.past anchor input)) ∧
    (∀ error supervisor',
      exec (drainInputTasks env) supervisor = (.error error, supervisor') →
      ∃ done input rest refusal, due = done ++ input :: rest ∧
        (supervisor'.runtime.applyInput input).1 = .error refusal ∧
        error = { message := refusal.message } ∧ DrainedTo supervisor done supervisor' ∧
        supervisor'.committedLog.Nodup ∧ done.Sublist supervisor'.committedLog ∧
        supervisor'.inputTasks.backlog.Perm (inputs.filter (· ∉ done)) ∧
        ∀ other ∈ input :: rest, other ∈ supervisor'.inputTasks.backlog) := by
  intro supervisor anchor due
  have hlog : LogOrdered supervisor.committedLog := logOrdered_withCommitted base logged
  have hqueue : supervisor.inputTasks.backlog.Perm inputs := perm_foldl_push .empty inputs
  have hnodup : inputs.Nodup := hdistinct.of_map
  have hascending : due.Pairwise fun input later ↦ input.journalSeq < later.journalSeq :=
    IngressQueue.due_pairwise_lt ((hqueue.map _).nodup_iff.mpr hdistinct)
  have hloop : ∀ fuel, inputs.length ≤ fuel →
      exec (drainInputTasksFrom env false anchor fuel 0 false) supervisor =
        exec (drainInOrder env false due 0 false) supervisor := by
    intro fuel hfuel
    refine exec_drainInputTasksFrom env false anchor 0 false ?_
    exact IngressQueue.length_due_le.trans (hqueue.length_eq.trans_le hfuel)
  refine ⟨hqueue.filter _, hascending, hloop, ?_, ?_⟩
  · intro count supervisor' hexec
    rcases drainInputTasks_cases env supervisor with
      ⟨drained, heq, hdone, -⟩ | ⟨_, _, _, _, _, _, heq, _⟩
    · rw [heq, Prod.mk.injEq, Except.ok.injEq] at hexec
      obtain ⟨rfl, rfl⟩ := hexec
      obtain ⟨hnodup', hsublist⟩ := hdone.committed hlog hascending
      exact ⟨rfl, hdone, hnodup', hsublist, hdone.left_of_due hqueue hnodup⟩
    · simp [heq] at hexec
  · intro error supervisor' hexec
    rcases drainInputTasks_cases env supervisor with
      ⟨_, heq, _⟩ | ⟨done, input, rest, refusal, drained, hsplit, heq, hdone, hrefused⟩
    · simp [heq] at hexec
    · rw [heq, Prod.mk.injEq, Except.error.injEq] at hexec
      obtain ⟨rfl, rfl⟩ := hexec
      change due = done ++ input :: rest at hsplit
      rw [hsplit] at hascending
      obtain ⟨hnodup', hsublist⟩ := hdone.committed hlog (List.pairwise_append.mp hascending).1
      exact ⟨done, input, rest, refusal, hsplit, hrefused, rfl, hdone, hnodup', hsublist,
        hdone.left hqueue hnodup, hdone.left_of_split hqueue hnodup hsplit hascending⟩

/-- A fresh live supervisor whose queue was given the facts in this order. -/
def queuedWith (journalSeqs : List Int) : AppSupervisor :=
  ((new .live .empty).withCommitted []).withBacklog
    (journalSeqs.map fun journalSeq ↦
      .new journalSeq (.new "market" "session" "event" "v1" 0))

/-- Facts that are queued in reverse are committed in the order of the journal. -/
theorem drain_complete_and_ordered_reversed :
    let drained := (exec (drainInputTasks takingEnv) (queuedWith [3, 1])).2
    DrainedTo (queuedWith [3, 1]) ((queuedWith [3, 1]).inputTasks.due none) drained ∧
      drained.inputTasks.backlog.Perm [] := by
  obtain ⟨-, hdone, -, -, hleft⟩ := (drain_complete_and_ordered takingEnv (new .live .empty) []
    _ (by decide)).2.2.2.1 2 (exec (drainInputTasks takingEnv) (queuedWith [3, 1])).2
      (Prod.ext (by decide +kernel) rfl)
  exact ⟨hdone, hleft⟩

end AppSupervisor

end AxiomArb.AppLive

import AxiomArb.Persistence.CatalogueRuns

/-!
# Records upserted one after another

A call of `upsert_record` that has the catalogue for itself never waits: it ends after eight
statements, committed if the record is consistent with all that were accepted before, and with a
conflict otherwise (`upsertAlone_spec`).  Hence the records of a list are all accepted if and only
if each two are consistent, and then in any order with the same catalogue (`upsertAll_accepted`).
-/

namespace AxiomArb.Persistence

open Domain Library

theorem Consistent.refl (record : IdentifierRecord) : Consistent record record :=
  ⟨fun _ ↦ rfl, fun _ _ ↦ rfl, fun _ ↦ ⟨rfl, rfl, rfl⟩, fun _ ↦ rfl, fun _ ↦ rfl⟩

theorem Consistent.symm {record record' : IdentifierRecord} (h : Consistent record record') :
    Consistent record' record := by
  rw [consistent_iff] at h ⊢
  intro row hrow row' hrow' hclash
  exact (h row' hrow' row hrow (Row.clash_symm row row' ▸ hclash)).symm

instance (record record' : IdentifierRecord) : Decidable (Consistent record record') :=
  decidable_of_iff _ consistent_iff.symm

/-! ## A call that is alone -/

/-- The only call that may still run is the last one. -/
structure Alone (ended : List (Transaction Task CatalogueError))
    (transaction : Transaction Task CatalogueError) (catalogue : Catalogue) : Prop where
  reached : Reached catalogue
  transactions : catalogue.transactions = ended ++ [transaction]
  inactive : ∀ other ∈ ended, ∀ task, other ≠ ⟨task, .active⟩

namespace Alone

variable {ended : List (Transaction Task CatalogueError)} {record : IdentifierRecord}
  {step : UpsertStep} {catalogue : Catalogue}

theorem getElem? {transaction : Transaction Task CatalogueError} (h : Alone ended transaction catalogue) :
    catalogue.transactions[ended.length]? = some transaction := by
  rw [h.transactions, List.getElem?_concat_length]

theorem set {transaction : Transaction Task CatalogueError} (h : Alone ended transaction catalogue)
    (transaction' : Transaction Task CatalogueError) :
    catalogue.transactions.set ended.length transaction' = ended ++ [transaction'] := by
  rw [h.transactions, List.set_append_right _ _ le_rfl, Nat.sub_self, List.set_cons_zero]

/-- No row is another open transaction's. -/
theorem others_eq_nil {transaction : Transaction Task CatalogueError}
    (h : Alone ended transaction catalogue) : catalogue.others ended.length = [] := by
  rw [Store.others, List.map_eq_nil_iff, List.filter_eq_nil_iff]
  intro version hversion hnot
  rcases hwriter : version.writer with _ | i
  · simp [Version.seenBy, hwriter] at hnot
  · obtain ⟨task, hi, -⟩ := h.reached.sound.written version hversion i hwriter
    rw [h.transactions, List.getElem?_append] at hi
    split_ifs at hi with hlt
    · exact h.inactive _ (List.mem_of_getElem? hi) task rfl
    · rw [List.getElem?_singleton] at hi
      split_ifs at hi with hsame
      obtain rfl : i = ended.length := by omega
      simp [Version.seenBy, hwriter] at hnot

theorem acceptedRecords_eq {transaction : Transaction Task CatalogueError}
    (h : Alone ended transaction catalogue) (hstatus : transaction.status ≠ .committed) :
    acceptedRecords catalogue = acceptedRecords { versions := [], transactions := ended } := by
  rw [acceptedRecords, h.transactions, List.filterMap_append, acceptedRecords]
  rcases transaction with ⟨task, status⟩
  cases status
  case committed => exact absurd rfl hstatus
  all_goals simp

/-- Every row that the call sees is of an accepted record, of itself, or of an order. -/
theorem of_mem_seen (h : Alone ended ⟨.upsertRecord record step, .active⟩ catalogue) {row : Row}
    (hrow : row ∈ catalogue.seen ended.length) :
    (∃ other, (other ∈ acceptedRecords catalogue ∨ other = record) ∧
      row ∈ (IdentifierRecordRow.fromDomain other).tables) ∨ ∃ order, row = .order order := by
  obtain ⟨version, hversion, hwriter | hwriter, rfl⟩ := Store.mem_seen.mp hrow
  · rcases h.reached.of_mem_committed (Store.mem_committed.mpr ⟨version, hversion, hwriter, rfl⟩) with
      ⟨other, hother, hmem⟩ | ⟨order, -, hsame⟩
    · exact .inl ⟨other, .inl hother, hmem⟩
    · exact .inr ⟨_, hsame⟩
  · obtain ⟨task, hi, hwrites⟩ := h.reached.sound.written version hversion _ hwriter
    rw [h.getElem?] at hi
    cases hi
    exact .inl ⟨record, .inr rfl, hwrites⟩

/-- The record is refused for a record that was accepted. -/
theorem exists_inconsistent (h : Alone ended ⟨.upsertRecord record step, .active⟩ catalogue)
    {row other : Row} (hrow : row ∈ (IdentifierRecordRow.fromDomain record).tables)
    (hother : other ∈ catalogue.seen ended.length) (hclash : row.clash other = true)
    (hne : other ≠ row) : ∃ accepted ∈ acceptedRecords catalogue, ¬ Consistent accepted record := by
  rcases h.of_mem_seen hother with ⟨accepted, haccepted | rfl, hmem⟩ | ⟨order, rfl⟩
  · refine ⟨accepted, haccepted, fun hconsistent ↦ hne ?_⟩
    exact (consistent_iff.mp hconsistent.symm row hrow other hmem hclash).symm
  · exact absurd (consistent_iff.mp (Consistent.refl _) row hrow other hmem hclash).symm hne
  · simp only [IdentifierRecordRow.tables, List.mem_cons, List.not_mem_nil, or_false] at hrow
    rcases hrow with rfl | rfl | rfl | rfl | rfl | rfl <;> cases hclash

theorem identifierMap_mem_seen_iff (h : Alone ended ⟨.upsertRecord record .validate, .active⟩ catalogue)
    {other : IdentifierRecord} (hother : .identifierMap (.fromDomain other) ∈ catalogue.seen ended.length) :
    other ∈ acceptedRecords catalogue ∨ other = record := by
  rcases h.of_mem_seen hother with ⟨other', hother', hmem⟩ | ⟨order, hsame⟩
  · simp only [IdentifierRecordRow.tables, List.mem_cons, reduceCtorEq, Row.identifierMap.injEq,
      List.not_mem_nil, false_or, or_false] at hmem
    rwa [IdentifierRecordRow.fromDomain_injective hmem]
  · cases hsame

theorem validates (h : Alone ended ⟨.upsertRecord record .validate, .active⟩ catalogue) :
    validateRecordInTx (catalogue.seen ended.length) record = .ok () ∨
      (∃ conflict, validateRecordInTx (catalogue.seen ended.length) record =
        .error (.identifierConflict conflict)) ∧
        ∃ accepted ∈ acceptedRecords catalogue, ¬ Consistent accepted record := by
  obtain ⟨records, hrecords, hmem⟩ := exists_listRecordsInTx h.reached.sound.good_of_mem_seen
  by_cases hall : ∀ accepted ∈ acceptedRecords catalogue, Consistent accepted record
  · refine .inl ?_
    have hconsistent : ∀ other ∈ records ++ [record], ∀ other' ∈ records ++ [record],
        Consistent other other' := by
      have haccepted : ∀ other ∈ records ++ [record],
          other ∈ acceptedRecords catalogue ∨ other = record := by
        intro other hother
        rcases List.mem_append.mp hother with hother | hother
        · exact h.identifierMap_mem_seen_iff ((hmem other).mp hother)
        · exact .inr (List.mem_singleton.mp hother)
      intro other hother other' hother'
      rcases haccepted other hother with hin | rfl <;> rcases haccepted other' hother' with hin' | rfl
      · exact h.reached.consistent hin hin'
      · exact hall other hin
      · exact (hall other' hin').symm
      · exact Consistent.refl _
    obtain ⟨map, hmap⟩ := (IdentifierMap.exists_fromRecords_iff _).mpr
      fun other hother other' hother' ↦ (hconsistent other hother other' hother').agree
    rw [validateRecordInTx, hrecords]
    show (IdentifierMap.fromRecords (records ++ [record])).mapError _ >>= _ = _
    rw [hmap]
    rfl
  · push Not at hall
    rcases validateRecordInTx_spec h.reached.sound.good_of_mem_seen record with hanswer | hanswer
    · exact .inl hanswer
    · exact .inr ⟨hanswer, hall⟩

end Alone

/-! ### One statement -/

/-- What comes after a statement of a call that is alone. -/
inductive Next (record : IdentifierRecord) (accepted : List IdentifierRecord) (step : UpsertStep) :
    Transaction Task CatalogueError → Prop where
  | active (next : UpsertStep) (h : next.remaining + 1 = step.remaining) :
      Next record accepted step ⟨.upsertRecord record next, .active⟩
  | committed (h : step = .commit) : Next record accepted step ⟨.upsertRecord record step, .committed⟩
  | failed (conflict : IdentifierMapError) (h : ∃ other ∈ accepted, ¬ Consistent other record) :
      Next record accepted step ⟨.upsertRecord record step, .failed (.identifierConflict conflict)⟩

theorem Reached.advance {catalogue : Catalogue} (h : Reached catalogue) (i : Nat) :
    Reached (catalogueStep catalogue (.advance i)) := by
  obtain ⟨events, hfresh, rfl⟩ := h
  refine ⟨events ++ [.advance i], fun task htask ↦ hfresh task ?_, by rw [run_append]; rfl⟩
  rcases List.mem_append.mp htask with htask | htask
  · exact htask
  · cases List.mem_singleton.mp htask

namespace Alone

variable {ended : List (Transaction Task CatalogueError)} {record : IdentifierRecord}
  {step : UpsertStep} {catalogue : Catalogue}

theorem step_eq (h : Alone ended ⟨.upsertRecord record step, .active⟩ catalogue) :
    catalogueStep catalogue (.advance ended.length) =
      catalogue.apply ended.length (.upsertRecord record step)
        ((upsertStatement record step).exec Row.clash (catalogue.seen ended.length) []) := by
  rw [catalogueStep, Store.step, h.getElem?, h.others_eq_nil]
  rfl

/-- A call that is alone goes on, or fails for a record that was accepted. -/
theorem advance (h : Alone ended ⟨.upsertRecord record step, .active⟩ catalogue) :
    ∃ transaction, Next record (acceptedRecords catalogue) step transaction ∧
      Alone ended transaction (catalogueStep catalogue (.advance ended.length)) := by
  have hnext : ∀ transaction,
      (catalogueStep catalogue (.advance ended.length)).transactions = ended ++ [transaction] →
      Alone ended transaction (catalogueStep catalogue (.advance ended.length)) :=
    fun transaction htransactions ↦ ⟨h.reached.advance _, htransactions, h.inactive⟩
  rw [h.step_eq] at hnext ⊢
  rcases upsertStatement_cases record step with rfl | rfl | ⟨next, row, confirm, hinserts, hremaining⟩
  · rw [upsertStatement, Statement.exec] at hnext ⊢
    rcases h.validates with hanswer | ⟨⟨conflict, hanswer⟩, hinconsistent⟩
    · rw [hanswer] at hnext ⊢
      exact ⟨_, .active .eventFamily rfl, hnext _ (h.set _)⟩
    · rw [hanswer] at hnext ⊢
      exact ⟨_, .failed conflict hinconsistent, hnext _ (h.set _)⟩
  · exact ⟨_, .committed rfl, hnext _ (h.set _)⟩
  · have hexec := exec_insertOrConfirm (Task.upsertRecord record next) []
      (invalid_of_mem_tables hinserts.mem_tables)
      (hinserts.supported _ (h.reached.sound.active _ _ h.getElem?))
      (hinserts.confirms _ h.reached.sound.good_of_mem_seen)
    rw [← hinserts.statement] at hexec
    generalize (upsertStatement record step).exec Row.clash (catalogue.seen ended.length) [] = outcome
      at hexec hnext ⊢
    cases hexec with
    | waits hother =>
        obtain ⟨other, hother, -⟩ := hother
        cases hother
    | continues => exact ⟨_, .active next hremaining, hnext _ (h.set _)⟩
    | inserts => exact ⟨_, .active next hremaining, hnext _ (h.set _)⟩
    | fails conflict hclash =>
        obtain ⟨other, hother, hclash, hne⟩ := hclash
        exact ⟨_, .failed conflict (h.exists_inconsistent hinserts.mem_tables hother hclash hne),
          hnext _ (h.set _)⟩

/-- Nothing is left to do for a call that has ended. -/
theorem advance_ended {transaction : Transaction Task CatalogueError}
    (h : Alone ended transaction catalogue) (hended : ∀ task, transaction ≠ ⟨task, .active⟩) :
    catalogueStep catalogue (.advance ended.length) = catalogue := by
  rw [catalogueStep, Store.step, h.getElem?]
  rcases transaction with ⟨task, status⟩
  cases status
  case active => exact absurd rfl (hended task)
  all_goals rfl

/-! ### All statements -/

theorem advances_ended {transaction : Transaction Task CatalogueError}
    (h : Alone ended transaction catalogue) (hended : ∀ task, transaction ≠ ⟨task, .active⟩) (k : Nat) :
    run catalogueStep catalogue (List.replicate k (.advance ended.length)) = catalogue := by
  induction k with
  | zero => rfl
  | succ k ih => rw [List.replicate_succ, run_cons, h.advance_ended hended, ih]

/-- The statements that are left end the call. -/
theorem advances {k : Nat} (h : Alone ended ⟨.upsertRecord record step, .active⟩ catalogue)
    (hk : step.remaining = k) :
    ∃ last transaction, (transaction = ⟨.upsertRecord record last, .committed⟩ ∨
        ∃ conflict, transaction = ⟨.upsertRecord record last, .failed (.identifierConflict conflict)⟩ ∧
          ∃ other ∈ acceptedRecords catalogue, ¬ Consistent other record) ∧
      Alone ended transaction
        (run catalogueStep catalogue (List.replicate k (.advance ended.length))) := by
  induction k generalizing step catalogue with
  | zero => cases step <;> cases hk
  | succ k ih =>
      obtain ⟨transaction, hnext, halone⟩ := h.advance
      rw [List.replicate_succ, run_cons]
      cases hnext with
      | active next hremaining =>
          have haccepted := halone.acceptedRecords_eq (by simp)
          rw [← h.acceptedRecords_eq (by simp)] at haccepted
          rw [← haccepted]
          exact ih halone (by omega)
      | committed hcommit =>
          rw [halone.advances_ended (by simp)]
          exact ⟨step, _, .inl rfl, halone⟩
      | failed conflict hinconsistent =>
          rw [halone.advances_ended (by simp)]
          exact ⟨step, _, .inr ⟨conflict, rfl, hinconsistent⟩, halone⟩

end Alone

/-! ## One record after another -/

/-- A call of `upsert_record` with no other call beside it. -/
def upsertAlone (catalogue : Catalogue) (record : IdentifierRecord) : Catalogue :=
  run catalogueStep catalogue (.start (.upsertRecord record .validate) ::
    List.replicate 8 (.advance catalogue.transactions.length))

def upsertAll (records : List IdentifierRecord) : Catalogue := records.foldl upsertAlone Store.empty

/-- A catalogue on which no call is open. -/
structure Idle (catalogue : Catalogue) : Prop where
  reached : Reached catalogue
  inactive : ∀ transaction ∈ catalogue.transactions, ∀ task, transaction ≠ ⟨task, .active⟩

/-- The records that are accepted, after one more. -/
def keepConsistent (accepted : List IdentifierRecord) (record : IdentifierRecord) :
    List IdentifierRecord :=
  if ∀ other ∈ accepted, Consistent other record then accepted ++ [record] else accepted

theorem Idle.start {catalogue : Catalogue} (h : Idle catalogue) (record : IdentifierRecord) :
    Alone catalogue.transactions ⟨.upsertRecord record .validate, .active⟩
      (catalogueStep catalogue (.start (.upsertRecord record .validate))) := by
  refine ⟨?_, rfl, h.inactive⟩
  obtain ⟨events, hfresh, rfl⟩ := h.reached
  refine ⟨events ++ [.start (.upsertRecord record .validate)], fun task htask ↦ ?_, by
    rw [run_append]; rfl⟩
  rcases List.mem_append.mp htask with htask | htask
  · exact hfresh task htask
  · cases List.mem_singleton.mp htask
    rfl

theorem Alone.idle {ended : List (Transaction Task CatalogueError)}
    {transaction : Transaction Task CatalogueError} {catalogue : Catalogue}
    (h : Alone ended transaction catalogue) (hended : ∀ task, transaction ≠ ⟨task, .active⟩) :
    Idle catalogue := by
  refine ⟨h.reached, fun other hother task ↦ ?_⟩
  rw [h.transactions] at hother
  rcases List.mem_append.mp hother with hother | hother
  · exact h.inactive other hother task
  · rw [List.mem_singleton.mp hother]
    exact hended task

/-- A record is accepted if it is consistent with all that were accepted before. -/
theorem Idle.upsertAlone {catalogue : Catalogue} (h : Idle catalogue) (record : IdentifierRecord) :
    Idle (upsertAlone catalogue record) ∧
      acceptedRecords (Persistence.upsertAlone catalogue record) =
        keepConsistent (acceptedRecords catalogue) record := by
  have hstart := h.start record
  have hbefore : acceptedRecords (catalogueStep catalogue (.start (.upsertRecord record .validate))) =
      acceptedRecords catalogue := hstart.acceptedRecords_eq (by simp)
  obtain ⟨last, transaction, hlast, halone⟩ := hstart.advances (k := 8) rfl
  rw [hbefore] at hlast
  rw [Persistence.upsertAlone, run_cons]
  generalize run catalogueStep (catalogueStep catalogue (.start (.upsertRecord record .validate)))
    (List.replicate 8 (.advance catalogue.transactions.length)) = after at halone ⊢
  rcases hlast with rfl | ⟨conflict, rfl, other, hother, hinconsistent⟩
  · have haccepted : acceptedRecords after = acceptedRecords catalogue ++ [record] := by
      rw [acceptedRecords, halone.transactions, List.filterMap_append]
      rfl
    refine ⟨halone.idle (by simp), ?_⟩
    rw [haccepted, keepConsistent, if_pos]
    intro other hother
    refine halone.reached.consistent ?_ ?_
    · rw [haccepted]
      exact List.mem_append_left _ hother
    · rw [haccepted]
      exact List.mem_append_right _ (List.mem_singleton_self record)
  · refine ⟨halone.idle (by simp), ?_⟩
    rw [keepConsistent, if_neg fun hall ↦ hinconsistent (hall other hother), acceptedRecords,
      halone.transactions, List.filterMap_append]
    exact List.append_nil _

theorem idle_empty : Idle Store.empty where
  reached := ⟨[], (fun _ h ↦ nomatch h), rfl⟩
  inactive _ h := nomatch h

theorem Idle.foldl_upsertAlone {catalogue : Catalogue} (h : Idle catalogue)
    (records : List IdentifierRecord) :
    Idle (records.foldl Persistence.upsertAlone catalogue) ∧
      acceptedRecords (records.foldl Persistence.upsertAlone catalogue) =
        records.foldl keepConsistent (acceptedRecords catalogue) := by
  induction records generalizing catalogue with
  | nil => exact ⟨h, rfl⟩
  | cons record records ih =>
      obtain ⟨hidle, haccepted⟩ := h.upsertAlone record
      obtain ⟨hidle', haccepted'⟩ := ih hidle
      rw [haccepted] at haccepted'
      exact ⟨hidle', haccepted'⟩

theorem length_foldl_keepConsistent (accepted records : List IdentifierRecord) :
    (records.foldl keepConsistent accepted).length ≤ accepted.length + records.length := by
  induction records generalizing accepted with
  | nil => exact le_rfl
  | cons record records ih =>
      rw [List.foldl_cons, keepConsistent, List.length_cons]
      split_ifs
      · have hle := ih (accepted ++ [record])
        rw [List.length_append, List.length_singleton] at hle
        omega
      · have hle := ih accepted
        omega

/-- All records are kept if and only if none is inconsistent with one before it. -/
theorem foldl_keepConsistent_eq_iff (accepted : List IdentifierRecord)
    {records : List IdentifierRecord} :
    records.foldl keepConsistent accepted = accepted ++ records ↔
      (∀ other ∈ accepted, ∀ record ∈ records, Consistent other record) ∧
        records.Pairwise Consistent := by
  induction records generalizing accepted with
  | nil => simp
  | cons record records ih =>
      rw [List.foldl_cons, keepConsistent]
      split_ifs with hall
      · have hsplit : accepted ++ record :: records = (accepted ++ [record]) ++ records := by simp
        rw [hsplit, ih, List.pairwise_cons]
        simp only [List.forall_mem_append, List.forall_mem_cons, List.not_mem_nil, IsEmpty.forall_iff,
          implies_true, and_true]
        constructor
        · rintro ⟨⟨hrest, hrecord⟩, hpairs⟩
          exact ⟨fun other hother ↦ ⟨hall other hother, hrest other hother⟩, hrecord, hpairs⟩
        · rintro ⟨haccepted, hrecord, hpairs⟩
          exact ⟨⟨fun other hother ↦ (haccepted other hother).2, hrecord⟩, hpairs⟩
      · refine iff_of_false (fun heq ↦ ?_) fun h ↦ hall fun other hother ↦
          h.1 other hother record List.mem_cons_self
        have hle := length_foldl_keepConsistent accepted records
        rw [heq, List.length_append, List.length_cons] at hle
        omega

/-- **One after another, the consistent records are accepted.**  A record is accepted if and only
if it is consistent with all that were accepted before it; so the records of a list are all accepted
if and only if each two are consistent, and then in any order, with the same rows in the tables of
the identifiers. -/
theorem upsertAll_accepted (records : List IdentifierRecord) :
    acceptedRecords (upsertAll records) = records.foldl keepConsistent [] ∧
      (acceptedRecords (upsertAll records) = records ↔ records.Pairwise Consistent) ∧
      ∀ records', records.Perm records' → records.Pairwise Consistent →
        acceptedRecords (upsertAll records') = records' ∧
          ∀ row, (∀ order, row ≠ .order order) →
            (row ∈ (upsertAll records).committed ↔ row ∈ (upsertAll records').committed) := by
  have hall : ∀ records, acceptedRecords (upsertAll records) = records ↔ records.Pairwise Consistent := by
    intro records
    rw [upsertAll, (idle_empty.foldl_upsertAlone records).2]
    refine (foldl_keepConsistent_eq_iff []).trans ?_
    simp
  refine ⟨(idle_empty.foldl_upsertAlone records).2, hall records, fun records' hperm hpairs ↦ ?_⟩
  have hsymm : ∀ {record record' : IdentifierRecord}, Consistent record record' →
      Consistent record' record := Consistent.symm
  have haccepted := (hall records).mpr hpairs
  have haccepted' := (hall records').mpr ((hperm.pairwise_iff hsymm).mp hpairs)
  refine ⟨haccepted', fun row hrow ↦ ?_⟩
  have htables : ∀ records, acceptedRecords (upsertAll records) = records →
      (row ∈ (upsertAll records).committed ↔
        ∃ record ∈ records, row ∈ (IdentifierRecordRow.fromDomain record).tables) := by
    intro records haccepted
    have hreached : Reached (upsertAll records) := (idle_empty.foldl_upsertAlone records).1.reached
    rw [hreached.mem_committed_iff hrow, haccepted]
  rw [htables records haccepted, htables records' haccepted']
  simp only [hperm.mem_iff]

end AxiomArb.Persistence

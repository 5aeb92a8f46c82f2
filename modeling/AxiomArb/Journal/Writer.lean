import AxiomArb.Domain.Runtime
import AxiomArb.Library.Json
import AxiomArb.Library.Run
import AxiomArb.Library.StableSort
import Mathlib.Algebra.Order.Ring.Int

/-!
# The journal in memory

An append takes a number and then, under a lock, puts its entry at the end.  Appends of several
threads may overtake each other between the two, so that the entries need not stand in the order
of their numbers.  A replay sorts them: it gives the entries of the appends that were completed,
each once, in the order in which the appends took their numbers (`replayEntries_entries`).

## Honest boundary

* Numbers do not run out: 64 bits outlast the memory that the entries take.
* The lock is poisoned at some point or never; by which thread is left open.
-/

namespace AxiomArb.Journal

open Domain Library

inductive SourceKind where
  | wsMarket | wsUser | restHeartbeat | internal
deriving DecidableEq, Repr

structure JournalEvent where
  stream : String
  sourceKind : SourceKind
  sourceSessionId : String
  sourceEventId : String
  dedupeKey : String
  causalParentId : Option Int
  eventType : String
  eventTs : DateTime
  payload : Json

structure JournalEntry extends JournalEvent where
  journalSeq : Int
  ingestedAt : DateTime

inductive JournalError where
  | poisoned
deriving DecidableEq, Repr

def JournalError.toString : JournalError → String
  | poisoned => "journal writer state poisoned"

structure JournalWriter where
  nextSeq : Int
  entries : List JournalEntry
  poisoned : Bool

namespace JournalWriter

def inMemory : JournalWriter := { nextSeq := 1, entries := [], poisoned := false }

/-- The first half of an append, up to the lock. -/
def beginAppend (writer : JournalWriter) (event : JournalEvent) (now : DateTime) :
    JournalEntry × JournalWriter :=
  ({ event with journalSeq := writer.nextSeq, ingestedAt := now },
    { writer with nextSeq := writer.nextSeq + 1 })

/-- The second half, under the lock. -/
def finishAppend (writer : JournalWriter) (entry : JournalEntry) :
    Except JournalError JournalEntry × JournalWriter :=
  if writer.poisoned then (.error .poisoned, writer)
  else (.ok entry, { writer with entries := writer.entries ++ [entry] })

def readEntries (writer : JournalWriter) : Except JournalError (List JournalEntry) :=
  if writer.poisoned then .error .poisoned else .ok writer.entries

end JournalWriter

def replayEntries (entries : List JournalEntry) : List JournalEntry :=
  sortByKey JournalEntry.journalSeq entries

/-! ## Appends of several threads -/

/-- An append that has its number, and what it returned, if it has returned. -/
structure Append where
  entry : JournalEntry
  answer : Option (Except JournalError JournalEntry)

/-- A writer and the appends on it, in the order in which they took their numbers. -/
structure Threads where
  writer : JournalWriter
  appends : List Append

inductive ThreadStep where
  | begin (event : JournalEvent) (now : DateTime)
  | finish (i : Nat)
  | poison

namespace Threads

def new : Threads := { writer := .inMemory, appends := [] }

def step (threads : Threads) : ThreadStep → Threads
  | .begin event now =>
      let (entry, writer) := threads.writer.beginAppend event now
      { writer, appends := threads.appends ++ [{ entry, answer := none }] }
  | .finish i =>
      match threads.appends[i]? with
      | some ⟨entry, none⟩ =>
          let (answer, writer) := threads.writer.finishAppend entry
          { writer, appends := threads.appends.set i { entry, answer := some answer } }
      | _ => threads
  | .poison => { threads with writer := { threads.writer with poisoned := true } }

end Threads

/-- The entry that an append returned. -/
def Append.returned (append : Append) : Option JournalEntry :=
  append.answer.bind Except.toOption

/-! ## The entries are those of the completed appends -/

structure Threads.Inv (threads : Threads) : Prop where
  numbered : ∀ (i : Nat) (append : Append), threads.appends[i]? = some append →
    append.entry.journalSeq = i + 1
  next : threads.writer.nextSeq = threads.appends.length + 1
  returned : ∀ append ∈ threads.appends, ∀ entry, append.answer = some (.ok entry) →
    entry = append.entry
  entries : threads.writer.entries.Perm (threads.appends.filterMap Append.returned)

variable {threads : Threads}

theorem Threads.inv_new : Threads.new.Inv where
  numbered _ _ h := nomatch h
  next := rfl
  returned _ h := nomatch h
  entries := .nil

theorem Threads.Inv.begin (h : threads.Inv) (event : JournalEvent) (now : DateTime) :
    (threads.step (.begin event now)).Inv where
  numbered := by
    intro i append hi
    rcases List.getElem?_append.symm.trans hi with hi
    split_ifs at hi with hlt
    · exact h.numbered i append hi
    · rw [List.getElem?_singleton] at hi
      split_ifs at hi with hlast
      rw [← Option.some.inj hi]
      have hsame : i = threads.appends.length := by omega
      show threads.writer.nextSeq = _
      rw [h.next, hsame]
  next := by
    show threads.writer.nextSeq + 1 = ((threads.appends ++ [_]).length : Int) + 1
    rw [h.next, List.length_append, List.length_singleton, Nat.cast_add, Nat.cast_one]
  returned := by
    intro append happend entry hanswer
    rcases List.mem_append.mp happend with happend | happend
    · exact h.returned append happend entry hanswer
    · rw [List.mem_singleton.mp happend] at hanswer
      cases hanswer
  entries := by
    show threads.writer.entries.Perm ((threads.appends ++ [_]).filterMap Append.returned)
    rw [List.filterMap_append]
    exact h.entries.trans (.of_eq (List.append_nil _).symm)

/-- The append numbered `i + 1` is answered, all others stay. -/
theorem Threads.Inv.answered (h : threads.Inv) {i : Nat} {entry : JournalEntry}
    (hi : threads.appends[i]? = some ⟨entry, none⟩) (writer : JournalWriter)
    (answer : Except JournalError JournalEntry) (hnext : writer.nextSeq = threads.writer.nextSeq)
    (hanswer : ∀ entry', answer = .ok entry' → entry' = entry)
    (hentries : writer.entries = threads.writer.entries ++ answer.toOption.toList) :
    Threads.Inv { writer, appends := threads.appends.set i { entry, answer := some answer } } := by
  obtain ⟨hlt, hget⟩ := List.getElem?_eq_some_iff.mp hi
  have hset : ∀ (j : Nat) (append : Append),
      (threads.appends.set i { entry, answer := some answer })[j]? = some append →
        threads.appends[j]? = some append ∨ j = i ∧ append = { entry, answer := some answer } := by
    intro j append hj
    rw [List.getElem?_set] at hj
    split_ifs at hj with hji
    · exact .inr ⟨hji.symm, (Option.some.inj hj).symm⟩
    · exact .inl hj
  refine ⟨?_, ?_, ?_, ?_⟩
  · intro j append hj
    rcases hset j append hj with hj | ⟨rfl, rfl⟩
    · exact h.numbered j append hj
    · show entry.journalSeq = _
      exact h.numbered j _ hi
  · show writer.nextSeq = _
    rw [hnext, h.next, List.length_set]
  · intro append happend entry' hok
    obtain ⟨j, hj⟩ := List.mem_iff_getElem?.mp happend
    rcases hset j append hj with hj | ⟨-, rfl⟩
    · exact h.returned append (List.mem_of_getElem? hj) entry' hok
    · exact hanswer entry' (Option.some.inj hok)
  · -- the append is taken out of the list and put back with its answer
    have hbefore : threads.appends =
        threads.appends.take i ++ ⟨entry, none⟩ :: threads.appends.drop (i + 1) := by
      conv_lhs => rw [← List.take_append_drop i threads.appends, List.drop_eq_getElem_cons hlt, hget]
    have hafter : threads.appends.set i { entry, answer := some answer } =
        threads.appends.take i ++ { entry, answer := some answer } ::
          threads.appends.drop (i + 1) := List.set_eq_take_append_cons_drop.trans (if_pos hlt)
    have hentry : Append.returned { entry, answer := some answer } = answer.toOption := rfl
    show writer.entries.Perm (List.filterMap _ (threads.appends.set i _))
    have hold := h.entries
    rw [hbefore, List.filterMap_append, List.filterMap_cons_none rfl] at hold
    rw [hentries, hafter, List.filterMap_append, List.filterMap_cons, hentry]
    cases answer.toOption with
    | none => simpa using hold
    | some entry' =>
      refine (hold.append_right [entry']).trans ?_
      rw [List.append_assoc]
      exact List.perm_append_comm.append_left _

theorem Threads.Inv.finish (h : threads.Inv) (i : Nat) : (threads.step (.finish i)).Inv := by
  rw [Threads.step]
  split
  · rename_i entry hi
    rw [JournalWriter.finishAppend]
    split_ifs
    · exact h.answered hi _ _ rfl (by rintro _ ⟨⟩) (List.append_nil _).symm
    · exact h.answered hi _ _ rfl (by rintro _ ⟨⟩; rfl) rfl
  · exact h

theorem Threads.Inv.step (h : threads.Inv) (now : ThreadStep) : (threads.step now).Inv := by
  cases now with
  | begin event now => exact h.begin event now
  | finish i => exact h.finish i
  | poison => exact ⟨h.numbered, h.next, h.returned, h.entries⟩

/-- The appends after a run of any steps. -/
theorem Threads.inv_run (steps : List ThreadStep) : (steps.foldl Threads.step Threads.new).Inv :=
  List.foldlRecOn steps Threads.step Threads.inv_new fun _ h now _ => h.step now

/-! ## A replay -/

/-- The completed appends stand in the order of their numbers. -/
theorem Threads.Inv.pairwise (h : threads.Inv) :
    (threads.appends.filterMap Append.returned).Pairwise
      (fun entry entry' => entry.journalSeq < entry'.journalSeq) := by
  refine (List.pairwise_filterMap).mpr (List.pairwise_iff_getElem.mpr ?_)
  intro i j hi hj hij entry hentry entry' hentry'
  have hnumber : ∀ (k : Nat) (hk : k < threads.appends.length) (e : JournalEntry),
      Append.returned threads.appends[k] = some e → e.journalSeq = k + 1 := by
    intro k hk e he
    have hanswer : threads.appends[k].answer = some (.ok e) := by
      obtain ⟨answer, hanswer, hok⟩ := Option.bind_eq_some_iff.mp he
      cases answer with
      | error _ => cases hok
      | ok e' =>
        cases hok
        exact hanswer
    rw [h.returned _ (List.getElem_mem hk) e hanswer]
    exact h.numbered k _ (List.getElem?_eq_getElem hk)
  rw [hnumber i hi entry hentry, hnumber j hj entry' hentry']
  omega

/-- Whatever the threads do, a replay of the writer's entries gives the completed appends in the
order in which they took their numbers, from 1 on, each once and as its caller got it. -/
theorem replayEntries_entries (steps : List ThreadStep) :
    let threads := steps.foldl Threads.step Threads.new
    replayEntries threads.writer.entries = threads.appends.filterMap Append.returned ∧
      ∀ (i : Nat) (append : Append), threads.appends[i]? = some append →
        append.entry.journalSeq = i + 1 ∧
          ∀ entry, append.answer = some (.ok entry) → entry = append.entry := by
  intro threads
  have h : threads.Inv := Threads.inv_run steps
  refine ⟨?_, fun i append hi ↦
    ⟨h.numbered i append hi, h.returned append (List.mem_of_getElem? hi)⟩⟩
  have hperm : (replayEntries threads.writer.entries).Perm
      (threads.appends.filterMap Append.returned) :=
    (perm_sortByKey _ _).trans h.entries
  have hnumbers : ((threads.writer.entries).map JournalEntry.journalSeq).Nodup := by
    rw [(h.entries.map JournalEntry.journalSeq).nodup_iff]
    exact List.pairwise_map.mpr (h.pairwise.imp fun hlt ↦ hlt.ne)
  have hsorted : (replayEntries threads.writer.entries).Pairwise
      (fun entry entry' ↦ entry.journalSeq < entry'.journalSeq) :=
    (pairwise_lt_sortByKey hnumbers).imp fun hlt ↦ compare_lt_iff_lt.mp hlt
  exact hperm.eq_of_pairwise (fun _ _ _ _ hlt hgt ↦ absurd hlt hgt.asymm) hsorted h.pairwise

end AxiomArb.Journal

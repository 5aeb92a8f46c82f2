import AxiomArb.Library.Delimited
import AxiomArb.State.Machine

/-!
# References to facts

Pending work is kept under a string made from the key of its fact, with ':' between
the fields.  The fields are free text, so the string forgets where one ends and the
next begins.  The module says which keys share a reference, and that facts whose
keys do not leave each other's anchors alone.
-/

namespace AxiomArb.State

open Domain Library

/-- The pieces between colons of a key's fields, field after field. -/
def FactKey.segments (key : FactKey) : List (List Char) :=
  pieces ':' (key.fields.map String.toList)

section Strings

variable {key key' : FactKey} {payload payload' : RuntimeAttentionObservedPayload}

theorem intercalate_fields (key : FactKey) :
    [':'].intercalate (key.fields.map String.toList) =
      key.sourceKind.toList ++ ':' :: (key.sourceSessionId.toList ++ ':' ::
        (key.sourceEventId.toList ++ ':' :: key.normalizerVersion.toList)) := by
  simp [FactKey.fields, List.intercalate]

/-- The characters of a reference: a tag, and the fields joined by colons. -/
theorem toList_pendingRef (key : FactKey) : (PendingRef.fromFactKey key).toList =
    "pending:".toList ++ [':'].intercalate (key.fields.map String.toList) := by
  rw [intercalate_fields, PendingRef.fromFactKey_eq]
  simp only [String.toList_append, List.append_assoc]
  rfl

theorem toList_attentionRef (key : FactKey) (payload : RuntimeAttentionObservedPayload) :
    (RuntimeAttentionAnchor.fromFactKeyAndPayload key payload).attentionRef.toList =
      "attention:".toList ++ [':'].intercalate (key.fields.map String.toList) := by
  rw [intercalate_fields, RuntimeAttentionAnchor.attentionRef_fromFactKeyAndPayload]
  simp only [String.toList_append, List.append_assoc]
  rfl

theorem intercalate_fields_eq_iff :
    [':'].intercalate (key.fields.map String.toList) =
        [':'].intercalate (key'.fields.map String.toList) ↔ key.segments = key'.segments :=
  intercalate_eq_iff (by simp [FactKey.fields]) (by simp [FactKey.fields])

/-- Two keys share a reference exactly when their segments agree. -/
theorem pendingRef_eq_iff : PendingRef.fromFactKey key = PendingRef.fromFactKey key' ↔
    key.segments = key'.segments := by
  rw [← intercalate_fields_eq_iff, ← String.toList_inj, toList_pendingRef, toList_pendingRef,
    List.append_cancel_left_eq]

theorem attentionRef_eq_iff :
    (RuntimeAttentionAnchor.fromFactKeyAndPayload key payload).attentionRef =
        (RuntimeAttentionAnchor.fromFactKeyAndPayload key' payload').attentionRef ↔
      key.segments = key'.segments := by
  rw [← intercalate_fields_eq_iff, ← String.toList_inj, toList_attentionRef, toList_attentionRef,
    List.append_cancel_left_eq]

/-- Keys without a colon in any field are told apart. -/
theorem segments_injective_of_colonFree (h : ∀ field ∈ key.fields, ':' ∉ field.toList)
    (h' : ∀ field ∈ key'.fields, ':' ∉ field.toList) (heq : key.segments = key'.segments) :
    key = key' := by
  apply FactKey.fields_injective
  have hfields : key.fields.map String.toList = key'.fields.map String.toList := by
    refine eq_of_pieces_eq ?_ ?_ heq
    · simpa using h
    · simpa using h'
  exact List.map_injective_iff.mpr (fun _ _ ↦ String.toList_injective) hfields

end Strings

/-! ## Facts and their anchors -/

namespace StateFactInput

/-- The fact is made from its event by one of the two constructors. -/
def Built (fact : StateFactInput) : Prop :=
  fact = .new fact.event ∨ fact = .outOfOrderUserTrade fact.event

/-- The fact leaves `anchor` as pending work. -/
def Opens (fact : StateFactInput) (anchor : PendingReconcileAnchor) : Prop :=
  fact.applyHint = .pendingReconcile anchor

/-- The fact leaves `anchor` as a note of attention. -/
def Notes (fact : StateFactInput) (anchor : RuntimeAttentionAnchor) : Prop :=
  fact.applyHint = .runtimeAttention anchor

/-- The fact is the one of key `key` and opens pending work, or it closes the pending
work filed under the reference of `key`. -/
def About (fact : StateFactInput) (key : FactKey) : Prop :=
  (fact.factKey = key ∧ ∃ anchor, fact.Opens anchor) ∨
    fact.applyHint = .liveReconcileObserved (PendingRef.fromFactKey key) true

variable {fact : StateFactInput} {key : FactKey}

theorem Built.pendingRef_eq {anchor : PendingReconcileAnchor} (h : fact.Built)
    (hopens : fact.Opens anchor) : anchor.pendingRef = PendingRef.fromFactKey fact.factKey := by
  unfold Opens applyHint at hopens
  rcases h with h | h <;> rw [h] at hopens ⊢
  · unfold new at hopens
    dsimp only at hopens
    split at hopens
    · cases hopens
    · cases hopens
    · cases hopens
      rfl
    · cases hopens
    · split at hopens
      · cases hopens
      · cases hopens
        rfl
    · cases hopens
  · cases hopens
    rfl

theorem Built.notes {anchor : RuntimeAttentionAnchor} (h : fact.Built)
    (hnotes : fact.Notes anchor) :
    ∃ payload, anchor = .fromFactKeyAndPayload fact.factKey payload := by
  unfold Notes applyHint at hnotes
  rcases h with h | h <;> rw [h] at hnotes ⊢
  · unfold new at hnotes
    dsimp only at hnotes
    split at hnotes
    · cases hnotes
    · cases hnotes
    · cases hnotes
    · cases hnotes
    · split at hnotes
      · cases hnotes
        exact ⟨_, rfl⟩
      · cases hnotes
    · cases hnotes
  · cases hnotes

end StateFactInput

namespace StateStore

variable {store : StateStore} {journalSeq : Int} {fact : StateFactInput} {key key' : FactKey}

/-- A fact about one key leaves what is pending under another reference alone. -/
theorem lookup_apply_of_about (hbuilt : fact.Built) (habout : fact.About key) {ref : String}
    (href : PendingRef.fromFactKey key ≠ ref) :
    (store.apply journalSeq fact).2.pendingReconcileAnchors[ref]? =
      store.pendingReconcileAnchors[ref]? := by
  have hafter : (fact.applyHint.pendingAfter store.pendingReconcileAnchors)[ref]? =
      store.pendingReconcileAnchors[ref]? := by
    rcases habout with ⟨rfl, anchor, hopens⟩ | hcloses
    · rw [hopens, FactApplyHint.pendingAfter, hbuilt.pendingRef_eq hopens]
      exact BTreeMap.lookup_insert_of_ne href
    · rw [hcloses, FactApplyHint.pendingAfter]
      exact BTreeMap.lookup_erase_of_ne href
  rcases store.apply_cases journalSeq fact with ⟨-, _, heq⟩ | ⟨-, -, _, _, heq⟩ |
      ⟨-, -, -, _, _, heq⟩ | ⟨-, -, -, _, _, heq⟩
  · rw [heq]
  · rw [heq]
    simp
  · rw [heq]
    simpa using hafter
  · rw [heq]
    simpa using hafter

/-- Once a fact of `key'` has opened an anchor, and for as long as it is in place, no
fact about `key` removes or replaces it, whatever the run that led there. -/
def KeepsAnchors (key key' : FactKey) : Prop :=
  ∀ (before between : List StoreOp) (seq' : Int) (fact' : StateFactInput)
    (anchor : PendingReconcileAnchor) (seq : Int) (fact : StateFactInput),
    fact'.Built → fact'.factKey = key' → fact'.Opens anchor →
    ((after before).apply seq' fact').1 =
      .ok (.reconcileRequired seq' (some anchor.pendingRef) anchor.reason) →
    (run step ((after before).apply seq' fact').2 between).pendingReconcileAnchors[
      anchor.pendingRef]? = some anchor →
    fact.Built → fact.About key →
    ((run step ((after before).apply seq' fact').2 between).apply seq
      fact).2.pendingReconcileAnchors[anchor.pendingRef]? = some anchor

/-- The references of the two facts tell them apart. -/
structure ReferencesIdentify (key key' : FactKey) : Prop where
  pending : ∀ (fact fact' : StateFactInput) (anchor anchor' : PendingReconcileAnchor),
    fact.Built → fact'.Built → fact.factKey = key → fact'.factKey = key' →
    fact.Opens anchor → fact'.Opens anchor' → anchor.pendingRef ≠ anchor'.pendingRef
  attention : ∀ (fact fact' : StateFactInput) (anchor anchor' : RuntimeAttentionAnchor),
    fact.Built → fact'.Built → fact.factKey = key → fact'.factKey = key' →
    fact.Notes anchor → fact'.Notes anchor' → anchor.attentionRef ≠ anchor'.attentionRef
  keeps : KeepsAnchors key key'
  keeps' : KeepsAnchors key' key

theorem keepsAnchors_of_segments (h : key.segments ≠ key'.segments) : KeepsAnchors key key' := by
  intro before between seq' fact' anchor seq fact hbuilt' hkey' hopens' _ hplace hbuilt habout
  rw [lookup_apply_of_about hbuilt habout ?_]
  · exact hplace
  · rw [hbuilt'.pendingRef_eq hopens', hkey', Ne, pendingRef_eq_iff]
    exact h

/-- **References identify facts exactly when the segments of their keys differ.** -/
theorem references_identify_iff (key key' : FactKey) (hne : key ≠ key') :
    ReferencesIdentify key key' ↔ key.segments ≠ key'.segments := by
  constructor
  · intro h hsegments
    -- a trade out of order opens pending work under any key
    let trade (key : FactKey) : StateFactInput := .outOfOrderUserTrade
      (.new key.sourceKind key.sourceSessionId key.sourceEventId key.normalizerVersion 0)
    exact h.pending (trade key) (trade key') _ _ (.inr rfl) (.inr rfl) rfl rfl rfl rfl
      (pendingRef_eq_iff.mpr hsegments)
  · intro h
    refine ⟨?_, ?_, keepsAnchors_of_segments h, keepsAnchors_of_segments h.symm⟩
    · rintro fact fact' anchor anchor' hbuilt hbuilt' rfl rfl hopens hopens'
      rw [hbuilt.pendingRef_eq hopens, hbuilt'.pendingRef_eq hopens', Ne, pendingRef_eq_iff]
      exact h
    · rintro fact fact' anchor anchor' hbuilt hbuilt' rfl rfl hnotes hnotes'
      obtain ⟨payload, rfl⟩ := hbuilt.notes hnotes
      obtain ⟨payload', rfl⟩ := hbuilt'.notes hnotes'
      rw [Ne, attentionRef_eq_iff]
      exact h

/-- Two submissions of one session are told apart. -/
theorem references_identify_iff_submissions :
    let key := (StateFactInput.new
      (.negriskLiveSubmitObserved "live" "submit-1" "attempt-1" "family" "one" 0)).factKey
    let key' := (StateFactInput.new
      (.negriskLiveSubmitObserved "live" "submit-2" "attempt-2" "family" "two" 0)).factKey
    ReferencesIdentify key key' ↔ key.segments ≠ key'.segments :=
  references_identify_iff _ _ (by decide)

/-- A session `live:1` that submits `2`, and a session `live` that submits `1:2`: the
second submission takes the place of the first, and the reconcile of the first closes
the second and opens trading. -/
theorem submissions_share_reference :
    let first := StateFactInput.new
      (.negriskLiveSubmitObserved "live:1" "2" "attempt-1" "family-a" "one" 0)
    let second := StateFactInput.new
      (.negriskLiveSubmitObserved "live" "1:2" "attempt-2" "family-b" "two" 0)
    let closes := StateFactInput.new (.negriskLiveReconcileObserved "live:1" "3"
      (PendingRef.fromFactKey first.factKey) "family-a" true 0)
    let store := run applyStep new [(1, first), (2, second)]
    first.factKey ≠ second.factKey ∧
      PendingRef.fromFactKey first.factKey = PendingRef.fromFactKey second.factKey ∧
      (new.applyStep (1, first)).stateConfidence "family-a" = .uncertain ∧
      store.pendingReconcileCount = 1 ∧ store.stateConfidence "family-a" = .certain ∧
      store.stateConfidence "family-b" = .uncertain ∧
      (store.applyStep (3, closes)).pendingReconcileCount = 0 ∧
      (store.applyStep (3, closes)).mode = .healthy := by
  decide +kernel

end StateStore

end AxiomArb.State

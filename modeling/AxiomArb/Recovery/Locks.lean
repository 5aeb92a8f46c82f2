import AxiomArb.Library.Delimited
import AxiomArb.Library.Slices
import Mathlib.Order.Defs.PartialOrder

/-!
# Locks of recovery

A recovery locks a scope, and the lock blocks what lies below: the same scope, and the
scopes of its own and of lower kinds whose ids extend its id by further segments.
-/

namespace AxiomArb.Recovery

open Library

inductive RecoveryScopeLock where
  | market (scopeId : String)
  | condition (scopeId : String)
  | family (scopeId : String)
  | inventorySet (scopeId : String)
  | executionPath (scopeId : String)
deriving DecidableEq, Repr

inductive RecoveryScopeKind where
  | market
  | condition
  | family
  | inventorySet
  | executionPath
deriving DecidableEq, Repr

def kindBlocks : RecoveryScopeKind → RecoveryScopeKind → Bool
  | .market, .market => true
  | .market, .executionPath => true
  | .condition, .condition => true
  | .condition, .market => true
  | .condition, .executionPath => true
  | .family, .family => true
  | .family, .condition => true
  | .family, .market => true
  | .family, .executionPath => true
  | .inventorySet, .inventorySet => true
  | .executionPath, .executionPath => true
  | _, _ => false

def scopeBlocks (parent candidate : String) (allowExactMatch : Bool) : Bool :=
  if allowExactMatch && candidate == parent then
    true
  else
    match stripPrefix parent candidate with
    | some remainder => remainder.toList.head? == some ':'
    | none => false

namespace RecoveryScopeLock

def scopeKind : RecoveryScopeLock → RecoveryScopeKind
  | market _ => .market
  | condition _ => .condition
  | family _ => .family
  | inventorySet _ => .inventorySet
  | executionPath _ => .executionPath

def scopeId : RecoveryScopeLock → String
  | market scopeId | condition scopeId | family scopeId | inventorySet scopeId
  | executionPath scopeId => scopeId

def blocksExpansion (lock candidate : RecoveryScopeLock) : Bool :=
  let parentKind := lock.scopeKind
  let candidateKind := candidate.scopeKind
  kindBlocks parentKind candidateKind &&
    scopeBlocks lock.scopeId candidate.scopeId (parentKind == candidateKind)

end RecoveryScopeLock

/-! ## Paths of segments

The segments of an id are what its colons separate.  A scope is below another one if its
path goes through it. -/

def segments (scopeId : String) : List (List Char) := scopeId.toList.splitOn ':'

theorem segments_injective : Function.Injective segments := by
  intro scopeId scopeId' h
  have hjoin := congrArg [':'].intercalate h
  rw [segments, segments, List.intercalate_splitOn, List.intercalate_splitOn] at hjoin
  exact String.toList_injective hjoin

theorem segments_isPrefix_iff {parent candidate : String} :
    segments parent <+: segments candidate ↔
      candidate = parent ∨ ∃ rest, candidate = parent ++ ":" ++ rest := by
  rw [segments, segments, splitOn_isPrefix_iff]
  refine or_congr String.toList_inj ⟨?_, ?_⟩
  · rintro ⟨rest, hrest⟩
    refine ⟨String.ofList rest, String.toList_injective ?_⟩
    simpa using hrest
  · rintro ⟨rest, rfl⟩
    exact ⟨rest.toList, by simp⟩

/-- Paths that go through each other are one. -/
theorem eq_of_segments_isPrefix {scopeId scopeId' : String}
    (h : segments scopeId <+: segments scopeId') (h' : segments scopeId' <+: segments scopeId) :
    scopeId = scopeId' :=
  segments_injective (h.eq_of_length (Nat.le_antisymm h.length_le h'.length_le))

theorem scopeBlocks_iff_nested {parent candidate : String} {allowExactMatch : Bool} :
    scopeBlocks parent candidate allowExactMatch ↔
      (allowExactMatch ∧ candidate = parent) ∨ ∃ rest, candidate = parent ++ ":" ++ rest := by
  rw [scopeBlocks]
  split
  · rename_i hexact
    rw [Bool.and_eq_true, beq_iff_eq] at hexact
    exact iff_of_true rfl (.inl hexact)
  · rename_i hexact
    rw [Bool.and_eq_true, beq_iff_eq] at hexact
    rw [or_iff_right hexact]
    split
    · rename_i remainder hremainder
      obtain rfl := stripPrefix_eq_some_iff.mp hremainder
      rw [beq_iff_eq, List.head?_eq_some_iff]
      constructor
      · rintro ⟨rest, hrest⟩
        refine ⟨String.ofList rest, String.toList_injective ?_⟩
        simp [hrest]
      · rintro ⟨rest, hrest⟩
        rw [String.append_assoc, String.append_right_inj] at hrest
        exact ⟨rest.toList, by simp [hrest]⟩
    · rename_i hnone
      refine iff_of_false Bool.false_ne_true ?_
      rintro ⟨rest, rfl⟩
      have hstrip : stripPrefix parent (parent ++ ":" ++ rest) = some (":" ++ rest) :=
        stripPrefix_eq_some_iff.mpr String.append_assoc
      rw [hnone] at hstrip
      cases hstrip

/-- An id is blocked if its path goes through the parent's, or ends there where that is
allowed. -/
theorem scopeBlocks_iff {parent candidate : String} {allowExactMatch : Bool} :
    scopeBlocks parent candidate allowExactMatch ↔
      segments parent <+: segments candidate ∧ (allowExactMatch ∨ candidate ≠ parent) := by
  rw [scopeBlocks_iff_nested, segments_isPrefix_iff]
  constructor
  · rintro (⟨hallow, hexact⟩ | ⟨rest, rfl⟩)
    · exact ⟨.inl hexact, .inl hallow⟩
    · exact ⟨.inr ⟨rest, rfl⟩, .inr ne_append_colon.symm⟩
  · rintro ⟨hexact | hnested, hother⟩
    · exact .inl ⟨hother.resolve_right fun hne ↦ hne hexact, hexact⟩
    · exact .inr hnested

namespace RecoveryScopeLock

variable {lock candidate inner : RecoveryScopeLock}

/-- The candidate lies in the scope of the lock. -/
structure Covers (lock candidate : RecoveryScopeLock) : Prop where
  kind : kindBlocks lock.scopeKind candidate.scopeKind
  path : segments lock.scopeId <+: segments candidate.scopeId
  other : lock.scopeKind = candidate.scopeKind ∨ candidate.scopeId ≠ lock.scopeId

theorem blocksExpansion_iff_covers : lock.blocksExpansion candidate ↔ lock.Covers candidate := by
  simp only [blocksExpansion, Bool.and_eq_true, scopeBlocks_iff, beq_iff_eq]
  exact ⟨fun h ↦ ⟨h.1, h.2.1, h.2.2⟩, fun h ↦ ⟨h.kind, h.path, h.other⟩⟩

theorem kindBlocks_refl (kind : RecoveryScopeKind) : kindBlocks kind kind := by
  cases kind <;> rfl

theorem kindBlocks_trans {kind kind' kind'' : RecoveryScopeKind} (h : kindBlocks kind kind')
    (h' : kindBlocks kind' kind'') : kindBlocks kind kind'' := by
  revert h h'
  cases kind <;> cases kind' <;> cases kind'' <;> decide

theorem ext_kind (hkind : lock.scopeKind = candidate.scopeKind)
    (hid : lock.scopeId = candidate.scopeId) : lock = candidate := by
  cases lock <;> cases candidate <;> simp_all [scopeKind, scopeId]

theorem Covers.refl (lock : RecoveryScopeLock) : lock.Covers lock :=
  ⟨kindBlocks_refl lock.scopeKind, List.prefix_rfl, .inl rfl⟩

theorem Covers.trans (h : lock.Covers candidate) (h' : candidate.Covers inner) :
    lock.Covers inner := by
  refine ⟨kindBlocks_trans h.kind h'.kind, h.path.trans h'.path, ?_⟩
  by_cases hid : inner.scopeId = lock.scopeId
  · -- the path between the two does not move, so neither does the kind
    have hback : segments candidate.scopeId <+: segments lock.scopeId := hid ▸ h'.path
    have hmid := eq_of_segments_isPrefix hback h.path
    have hfirst := h.other.resolve_right fun hne ↦ hne hmid
    have hsecond := h'.other.resolve_right fun hne ↦ hne (hid.trans hmid.symm)
    exact .inl (hfirst.trans hsecond)
  · exact .inr hid

theorem Covers.antisymm (h : lock.Covers candidate) (h' : candidate.Covers lock) :
    lock = candidate := by
  have hid := eq_of_segments_isPrefix h.path h'.path
  exact ext_kind (h.other.resolve_right fun hne ↦ hne hid.symm) hid

theorem covers_iff : lock.Covers candidate ↔
    lock = candidate ∨ (kindBlocks lock.scopeKind candidate.scopeKind ∧
      ∃ rest, candidate.scopeId = lock.scopeId ++ ":" ++ rest) := by
  constructor
  · intro h
    rcases segments_isPrefix_iff.mp h.path with hid | hnested
    · exact .inl (ext_kind (h.other.resolve_right fun hne ↦ hne hid) hid.symm)
    · exact .inr ⟨h.kind, hnested⟩
  · rintro (rfl | ⟨hkind, rest, hid⟩)
    · exact Covers.refl lock
    · exact ⟨hkind, segments_isPrefix_iff.mpr (.inr ⟨rest, hid⟩),
        .inr (hid ▸ ne_append_colon.symm)⟩

/-- The scopes are ordered by what a lock on them blocks. -/
instance : PartialOrder RecoveryScopeLock where
  le candidate lock := lock.Covers candidate
  le_refl := Covers.refl
  le_trans _ _ _ h h' := h'.trans h
  le_antisymm _ _ h h' := h'.antisymm h

/-- Blocking is reflexive, transitive and antisymmetric, and a lock blocks itself and the
scopes of kinds under its kind whose paths go on from its own. -/
theorem blocksExpansion_isPartialOrder :
    (∀ lock : RecoveryScopeLock, lock.blocksExpansion lock) ∧
      (∀ lock candidate inner : RecoveryScopeLock, lock.blocksExpansion candidate →
        candidate.blocksExpansion inner → lock.blocksExpansion inner) ∧
      (∀ lock candidate : RecoveryScopeLock, lock.blocksExpansion candidate →
        candidate.blocksExpansion lock → lock = candidate) ∧
      ∀ lock candidate : RecoveryScopeLock, lock.blocksExpansion candidate ↔
        lock = candidate ∨ (kindBlocks lock.scopeKind candidate.scopeKind ∧
          ∃ rest, candidate.scopeId = lock.scopeId ++ ":" ++ rest) := by
  simp only [blocksExpansion_iff_covers]
  exact ⟨Covers.refl, fun _ _ _ ↦ Covers.trans, fun _ _ ↦ Covers.antisymm,
    fun _ _ ↦ covers_iff⟩

/-- A family blocks a path through one of its conditions, which blocks nothing of it. -/
theorem blocksExpansion_of_family :
    (family "family-a").blocksExpansion (executionPath "family-a:condition-12:path-1") ∧
      (condition "family-a:condition-12").blocksExpansion (family "family-a") = false :=
  ⟨blocksExpansion_isPartialOrder.2.1 (family "family-a") (condition "family-a:condition-12")
    (executionPath "family-a:condition-12:path-1") (by decide) (by decide), by decide⟩

end RecoveryScopeLock

end AxiomArb.Recovery

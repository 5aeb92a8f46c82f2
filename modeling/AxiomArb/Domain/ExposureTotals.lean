import AxiomArb.Domain.NegRisk
import Mathlib.Data.List.Induction

/-!
# Conservation of exposure

An inventory is accepted if all its rows are of one neg-risk family.  Its exposure then
holds the quantities of the rows, each once: by member and bucket, and by bucket in the
rollup.  The order of the rows does not matter.
-/

namespace AxiomArb.Domain

open Library

namespace NegRiskExposureVector

variable {identifierMap : IdentifierMap} {progress progress' : Progress} {row : InventoryRow}
  {rows inventory inventory' : List InventoryRow} {vector : NegRiskExposureVector}
  {familyId : EventFamilyId} {tokenId : TokenId}

/-! ## Rows without their checks -/

/-- The row is of a token of the family. -/
def Resolves (identifierMap : IdentifierMap) (familyId : EventFamilyId) (row : InventoryRow) : Prop :=
  ∃ conditionId, identifierMap.conditionForToken row.1 = some conditionId ∧
    identifierMap.routeForCondition conditionId = some .negRisk ∧
    identifierMap.familyForCondition conditionId = some familyId

def newEntry (identifierMap : IdentifierMap) (tokenId : TokenId) : NegRiskMemberExposure :=
  { tokenId
    outcomeLabel := (identifierMap.outcomeLabelForToken tokenId).getD tokenId
    bucketQuantities := ∅ }

/-- Enter a row that was checked. -/
def enterRow (identifierMap : IdentifierMap) (entries : BTreeMap TokenId NegRiskMemberExposure)
    (row : InventoryRow) : BTreeMap TokenId NegRiskMemberExposure :=
  let entry := entries[row.1]?.getD (newEntry identifierMap row.1)
  entries.insert row.1 { entry with bucketQuantities := tally entry.bucketQuantities row.2 }

theorem addRow_eq_ok_iff : addRow identifierMap progress row = .ok progress' ↔
    ∃ familyId, Resolves identifierMap familyId row ∧
      (∀ expected, progress.familyId = some expected → expected = familyId) ∧
      progress' =
        { memberQuantities := enterRow identifierMap progress.memberQuantities row
          familyId := some familyId } := by
  obtain ⟨tokenId, bucket, quantity⟩ := row
  constructor
  · intro h
    simp only [addRow, addQuantity_eq_tally] at h
    cases hcondition : identifierMap.conditionForToken tokenId with
    | none =>
        rw [hcondition] at h
        cases h
    | some conditionId =>
        simp only [hcondition] at h
        by_cases hroute : identifierMap.routeForCondition conditionId = some .negRisk
        · rw [if_neg (not_not.mpr hroute)] at h
          cases hfamily : identifierMap.familyForCondition conditionId with
          | none =>
              simp only [hfamily] at h
              cases h
          | some found =>
              have hresolves : Resolves identifierMap found (tokenId, bucket, quantity) :=
                ⟨conditionId, hcondition, hroute, hfamily⟩
              simp only [hfamily] at h
              cases hexpected : progress.familyId with
              | none =>
                  simp only [hexpected] at h
                  refine ⟨found, hresolves, fun expected hsome ↦ ?_, (Except.ok.inj h).symm⟩
                  cases hsome
              | some expected =>
                  simp only [hexpected] at h
                  by_cases hsame : expected = found
                  · subst hsame
                    rw [if_neg (not_not.mpr rfl)] at h
                    exact ⟨expected, hresolves, fun _ hsome ↦ (Option.some.inj hsome).symm,
                      (Except.ok.inj h).symm⟩
                  · rw [if_pos hsame] at h
                    cases h
        · rw [if_pos hroute] at h
          cases h
  · rintro ⟨found, ⟨conditionId, hcondition, hroute, hfamily⟩, hexpected, rfl⟩
    simp only [addRow, addQuantity_eq_tally, hcondition, hroute, hfamily]
    cases hsome : progress.familyId with
    | none => exact rfl
    | some expected =>
        obtain rfl := hexpected expected hsome
        simp only [ne_eq, not_true_eq_false, if_false]
        rfl

/-- Once a family is known, rows are entered as long as they are of that family. -/
theorem foldlM_addRow_eq_ok_iff {entries : BTreeMap TokenId NegRiskMemberExposure} :
    rows.foldlM (addRow identifierMap)
        { memberQuantities := entries, familyId := some familyId } = .ok progress ↔
      (∀ row ∈ rows, Resolves identifierMap familyId row) ∧
        progress =
          { memberQuantities := rows.foldl (enterRow identifierMap) entries
            familyId := some familyId } := by
  induction rows generalizing entries with
  | nil => simp [pure, Except.pure, eq_comm]
  | cons row rows ih =>
      rw [List.foldlM_cons, bind_eq_ok, List.forall_mem_cons]
      constructor
      · rintro ⟨next, hnext, hrest⟩
        obtain ⟨found, hresolves, hexpected, rfl⟩ := addRow_eq_ok_iff.mp hnext
        obtain rfl := hexpected familyId rfl
        obtain ⟨hall, hprogress⟩ := ih.mp hrest
        exact ⟨⟨hresolves, hall⟩, hprogress⟩
      · rintro ⟨⟨hresolves, hall⟩, hprogress⟩
        exact ⟨_, addRow_eq_ok_iff.mpr ⟨familyId, hresolves, fun _ ↦ (Option.some.inj · |>.symm), rfl⟩,
          ih.mpr ⟨hall, hprogress⟩⟩

/-- The entries of an inventory that was checked. -/
def enteredRows (identifierMap : IdentifierMap) (inventory : List InventoryRow) :
    BTreeMap TokenId NegRiskMemberExposure :=
  inventory.foldl (enterRow identifierMap) ∅

def membersOf (identifierMap : IdentifierMap) (inventory : List InventoryRow) :
    List NegRiskMemberExposure :=
  sortByKey NegRiskMemberExposure.tokenId (enteredRows identifierMap inventory).vals

/-- The exposure with these members. -/
def ofMembers (familyId : EventFamilyId) (members : List NegRiskMemberExposure) :
    NegRiskExposureVector :=
  { familyId
    members
    rollup :=
      { bucketQuantities := (members.map NegRiskMemberExposure.bucketQuantities).foldl addToRollup ∅
        memberCount := members.length } }

/-- An inventory is accepted if it has rows and all of them are of one family. -/
theorem fromInventory_eq_ok_iff : fromInventory inventory identifierMap = some (.ok vector) ↔
    inventory ≠ [] ∧ ∃ familyId, (∀ row ∈ inventory, Resolves identifierMap familyId row) ∧
      vector = ofMembers familyId (membersOf identifierMap inventory) := by
  cases inventory with
  | nil => simp [fromInventory]
  | cons row rows =>
      have hrun : ∀ progress, (row :: rows).foldlM (addRow identifierMap)
          { memberQuantities := ∅, familyId := none } = .ok progress ↔
          ∃ familyId, (∀ row' ∈ row :: rows, Resolves identifierMap familyId row') ∧ progress =
            { memberQuantities := enteredRows identifierMap (row :: rows)
              familyId := some familyId } := by
        intro progress
        rw [List.foldlM_cons, bind_eq_ok]
        constructor
        · rintro ⟨next, hnext, hrest⟩
          obtain ⟨familyId, hresolves, -, rfl⟩ := addRow_eq_ok_iff.mp hnext
          obtain ⟨hall, hprogress⟩ := foldlM_addRow_eq_ok_iff.mp hrest
          exact ⟨familyId, List.forall_mem_cons.mpr ⟨hresolves, hall⟩, hprogress⟩
        · rintro ⟨familyId, hall, hprogress⟩
          obtain ⟨hresolves, hall⟩ := List.forall_mem_cons.mp hall
          exact ⟨_, addRow_eq_ok_iff.mpr ⟨familyId, hresolves, fun _ hsome ↦ (nomatch hsome), rfl⟩,
            foldlM_addRow_eq_ok_iff.mpr ⟨hall, hprogress⟩⟩
      rw [and_iff_right (List.cons_ne_nil row rows), fromInventory, if_neg (by simp)]
      cases hfold : (row :: rows).foldlM (addRow identifierMap)
          { memberQuantities := ∅, familyId := none } with
      | error e =>
          refine iff_of_false (by simp) ?_
          rintro ⟨familyId, hall, -⟩
          rw [(hrun _).mpr ⟨familyId, hall, rfl⟩] at hfold
          cases hfold
      | ok progress =>
          obtain ⟨familyId, hall, rfl⟩ := (hrun progress).mp hfold
          constructor
          · intro h
            exact ⟨familyId, hall, (Except.ok.inj (Option.some.inj h)).symm⟩
          · rintro ⟨familyId', hall', rfl⟩
            have hrun' := (hrun _).mpr ⟨familyId', hall', rfl⟩
            rw [hfold] at hrun'
            injection Except.ok.inj hrun' with _ hfamily
            obtain rfl := Option.some.inj hfamily
            exact rfl

/-! ## What was entered -/

theorem lookup_enterRow (entries : BTreeMap TokenId NegRiskMemberExposure) (row : InventoryRow)
    (tokenId : TokenId) : (enterRow identifierMap entries row)[tokenId]? =
      if row.1 = tokenId then
        let entry := entries[tokenId]?.getD (newEntry identifierMap tokenId)
        some { entry with bucketQuantities := tally entry.bucketQuantities row.2 }
      else
        entries[tokenId]? := by
  rw [enterRow, BTreeMap.lookup_insert]
  split_ifs with htoken
  · rw [htoken]
  · exact rfl

/-- Rows may be entered in any order. -/
instance : RightCommutative (enterRow identifierMap) where
  right_comm entries row row' := by
    refine Std.ExtTreeMap.ext_getElem? fun tokenId ↦ ?_
    simp only [lookup_enterRow]
    split_ifs
    · rw [Option.getD_some, Option.getD_some, tally_right_comm]
    · rfl
    · rfl
    · rfl

/-- What the rows of a token say by bucket. -/
def rowsOf (inventory : List InventoryRow) (tokenId : TokenId) : List (InventoryBucket × Decimal) :=
  (inventory.filter (·.1 = tokenId)).map Prod.snd

/-- A token is entered if it has rows, with what they amount to. -/
theorem lookup_enteredRows (identifierMap : IdentifierMap) (inventory : List InventoryRow)
    (tokenId : TokenId) :
    (enteredRows identifierMap inventory)[tokenId]? =
      if rowsOf inventory tokenId = [] then
        none
      else
        some { newEntry identifierMap tokenId with
          bucketQuantities := (rowsOf inventory tokenId).foldl tally ∅ } := by
  induction inventory using List.reverseRecOn with
  | nil => exact Std.ExtTreeMap.getElem?_empty
  | append_singleton inventory row ih =>
      rw [enteredRows, List.foldl_append, List.foldl_cons, List.foldl_nil, lookup_enterRow,
        ← enteredRows, ih]
      by_cases htoken : row.1 = tokenId
      · have hrows : rowsOf (inventory ++ [row]) tokenId = rowsOf inventory tokenId ++ [row.2] := by
          simp [rowsOf, htoken]
        have hsome : rowsOf inventory tokenId ++ [row.2] ≠ [] := by simp
        rw [if_pos htoken, hrows, if_neg hsome, List.foldl_append]
        split_ifs with hnone
        · rw [hnone]
          exact rfl
        · exact rfl
      · have hrows : rowsOf (inventory ++ [row]) tokenId = rowsOf inventory tokenId := by
          simp [rowsOf, htoken]
        rw [if_neg htoken, hrows]

theorem rowsOf_eq_nil_iff : rowsOf inventory tokenId = [] ↔ ∀ row ∈ inventory, row.1 ≠ tokenId := by
  simp [rowsOf]

theorem tokenId_of_lookup_enteredRows (identifierMap : IdentifierMap)
    (inventory : List InventoryRow) (tokenId : TokenId) (entry : NegRiskMemberExposure)
    (h : (enteredRows identifierMap inventory)[tokenId]? = some entry) :
    entry.tokenId = tokenId := by
  rw [lookup_enteredRows] at h
  split_ifs at h
  obtain rfl := Option.some.inj h
  rfl

/-! ## Conservation -/

theorem mem_members_iff {entry : NegRiskMemberExposure} :
    entry ∈ membersOf identifierMap inventory ↔
      (enteredRows identifierMap inventory)[entry.tokenId]? = some entry :=
  mem_sortByKey.trans (BTreeMap.mem_vals_iff (tokenId_of_lookup_enteredRows _ _))

/-- The members have the quantities of their rows. -/
theorem bucketQuantities_of_mem {entry : NegRiskMemberExposure}
    (h : entry ∈ membersOf identifierMap inventory) :
    entry.bucketQuantities = (rowsOf inventory entry.tokenId).foldl tally ∅ := by
  rw [mem_members_iff, lookup_enteredRows] at h
  split_ifs at h
  exact (congrArg NegRiskMemberExposure.bucketQuantities (Option.some.inj h)).symm

/-- Each token with rows is a member, and no other is. -/
theorem exists_member_iff :
    (∃ entry ∈ membersOf identifierMap inventory,
      entry.tokenId = tokenId) ↔ ∃ row ∈ inventory, row.1 = tokenId := by
  have hrows : rowsOf inventory tokenId ≠ [] ↔ ∃ row ∈ inventory, row.1 = tokenId := by
    rw [Ne, rowsOf_eq_nil_iff]
    simp
  have hlookup := lookup_enteredRows identifierMap inventory tokenId
  rw [← hrows]
  constructor
  · rintro ⟨entry, hentry, rfl⟩ hnone
    rw [mem_members_iff, hlookup, if_pos hnone] at hentry
    cases hentry
  · intro hsome
    rw [if_neg hsome] at hlookup
    have htoken := tokenId_of_lookup_enteredRows identifierMap inventory tokenId _ hlookup
    refine ⟨_, mem_members_iff.mpr ?_, htoken⟩
    rw [htoken]
    exact hlookup

theorem nodup_tokenId_entries :
    ((enteredRows identifierMap inventory).vals.map NegRiskMemberExposure.tokenId).Nodup := by
  rw [BTreeMap.map_key_vals (tokenId_of_lookup_enteredRows identifierMap inventory)]
  exact Std.ExtTreeMap.nodup_keys

/-- Members with the quantities of their rows are summed up like the rows. -/
theorem foldl_addToRollup_of_rows {members : List NegRiskMemberExposure}
    (h : ∀ entry ∈ members, entry.bucketQuantities = (rowsOf inventory entry.tokenId).foldl tally ∅)
    (rollup : BucketQuantities) :
    (members.map NegRiskMemberExposure.bucketQuantities).foldl addToRollup rollup =
      ((members.map NegRiskMemberExposure.tokenId).flatMap (rowsOf inventory)).foldl tally rollup := by
  induction members generalizing rollup with
  | nil => exact rfl
  | cons entry members ih =>
      obtain ⟨hentry, hrest⟩ := List.forall_mem_cons.mp h
      rw [List.map_cons, List.foldl_cons, hentry, addToRollup_eq_tally, foldl_tally_toList,
        ih hrest, List.map_cons, List.flatMap_cons, List.foldl_append]

/-- The rollup counts each row once. -/
theorem rollup_ofMembers (familyId : EventFamilyId) :
    (ofMembers familyId (membersOf identifierMap inventory)).rollup.bucketQuantities =
      (inventory.map Prod.snd).foldl tally ∅ := by
  have htokens : ((membersOf identifierMap inventory).map NegRiskMemberExposure.tokenId).Nodup :=
    ((perm_sortByKey _ _).map _).nodup_iff.mpr nodup_tokenId_entries
  have hcover : ∀ row ∈ inventory,
      row.1 ∈ (membersOf identifierMap inventory).map NegRiskMemberExposure.tokenId := by
    intro row hrow
    obtain ⟨entry, hentry, htoken⟩ := exists_member_iff.mpr ⟨row, hrow, rfl⟩
    exact List.mem_map.mpr ⟨entry, hentry, htoken⟩
  have hperm := (perm_flatMap_filter htokens hcover).map Prod.snd
  rw [List.map_flatMap] at hperm
  exact (foldl_addToRollup_of_rows (fun entry ↦ bucketQuantities_of_mem) ∅).trans (hperm.foldl_eq ∅)

/-- What the rows of a bucket amount to, if there are any. -/
def bucketAmount (rows : List InventoryRow) (bucket : InventoryBucket) : Option Decimal :=
  let quantities := (rows.filter (·.2.1 = bucket)).map (·.2.2)
  if quantities.isEmpty then none else some quantities.sum

theorem bucketAmount_eq (rows : List InventoryRow) (bucket : InventoryBucket) :
    bucketAmount rows bucket = amount (rows.map Prod.snd) bucket := by
  rw [bucketAmount, amount, List.filter_map, List.map_map]
  rfl

/-- Two tokens of one family, one of them with two rows. -/
def sampleInventory : List InventoryRow :=
  [("a", .free, 3), ("b", .free, 2), ("a", .redeemable, 1), ("a", .free, 1 / 2)]

end NegRiskExposureVector

end AxiomArb.Domain

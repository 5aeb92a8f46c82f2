import AxiomArb.Library.Slices
import Mathlib.Data.List.Basic

/-!
# JSON values

A value is a tree; an object lists its members.  `Json.insert` keeps the members of an
object in the order of their keys, and `Json.get?` finds the first member of a key.
-/

namespace AxiomArb.Library

inductive Json where
  | null
  | bool (value : Bool)
  | number (text : String)
  | string (text : String)
  | array (items : List Json)
  | object (members : List (String × Json))
deriving Repr, Inhabited

namespace Json

/-! ## Equality -/

mutual

/-- Whether two values are the same. -/
def decEq : (a b : Json) → Decidable (a = b)
  | .null, .null => .isTrue rfl
  | .bool a, .bool b => decidable_of_iff (a = b) (by simp)
  | .number a, .number b => decidable_of_iff (a = b) (by simp)
  | .string a, .string b => decidable_of_iff (a = b) (by simp)
  | .array as, .array bs =>
      match decEqItems as bs with
      | .isTrue h => .isTrue (h ▸ rfl)
      | .isFalse h => .isFalse fun heq ↦ h (by injection heq)
  | .object as, .object bs =>
      match decEqMembers as bs with
      | .isTrue h => .isTrue (h ▸ rfl)
      | .isFalse h => .isFalse fun heq ↦ h (by injection heq)
  | .null, .bool _ | .null, .number _ | .null, .string _ | .null, .array _ | .null, .object _
  | .bool _, .null | .bool _, .number _ | .bool _, .string _ | .bool _, .array _
  | .bool _, .object _ | .number _, .null | .number _, .bool _ | .number _, .string _
  | .number _, .array _ | .number _, .object _ | .string _, .null | .string _, .bool _
  | .string _, .number _ | .string _, .array _ | .string _, .object _ | .array _, .null
  | .array _, .bool _ | .array _, .number _ | .array _, .string _ | .array _, .object _
  | .object _, .null | .object _, .bool _ | .object _, .number _ | .object _, .string _
  | .object _, .array _ => .isFalse (by simp)

def decEqItems : (as bs : List Json) → Decidable (as = bs)
  | [], [] => .isTrue rfl
  | [], _ :: _ | _ :: _, [] => .isFalse (by simp)
  | a :: as, b :: bs =>
      match decEq a b, decEqItems as bs with
      | .isTrue h, .isTrue h' => .isTrue (h ▸ h' ▸ rfl)
      | .isFalse h, _ => .isFalse fun heq ↦ h (by injection heq)
      | _, .isFalse h => .isFalse fun heq ↦ h (by injection heq)

def decEqMembers : (as bs : List (String × Json)) → Decidable (as = bs)
  | [], [] => .isTrue rfl
  | [], _ :: _ | _ :: _, [] => .isFalse (by simp)
  | (key, a) :: as, (key', b) :: bs =>
      match decEq a b, decEqMembers as bs with
      | .isTrue h, .isTrue h' => decidable_of_iff (key = key') (by simp [h, h'])
      | .isFalse h, _ => .isFalse (by simp [h])
      | _, .isFalse h => .isFalse (by simp [h])

end

instance : DecidableEq Json := decEq

/-! ## Members -/

/-- Put a member in the place its key has in the order, over an earlier one. -/
def insertMember (key : String) (value : Json) : List (String × Json) → List (String × Json)
  | [] => [(key, value)]
  | (key', value') :: members =>
      if key = key' then (key, value) :: members
      else if key < key' then (key, value) :: (key', value') :: members
      else (key', value') :: insertMember key value members

def findMember (key : String) : List (String × Json) → Option Json
  | [] => none
  | (key', value) :: members => if key = key' then some value else findMember key members

/-- Insert a member; a value that is no object is left as it is. -/
def insert (payload : Json) (key : String) (value : Json) : Json :=
  match payload with
  | .object members => .object (insertMember key value members)
  | other => other

def get? (payload : Json) (key : String) : Option Json :=
  match payload with
  | .object members => findMember key members
  | _ => none

def asStr : Json → Option String
  | .string text => some text
  | _ => none

def asBool : Json → Option Bool
  | .bool value => some value
  | _ => none

def asArray : Json → Option (List Json)
  | .array items => some items
  | _ => none

/-- An integer of 64 bits with a sign. -/
def asI64 : Json → Option Int
  | .number text => (parseSigned text).filter fun number ↦
      -9223372036854775808 ≤ number ∧ number < 9223372036854775808
  | _ => none

/-- An integer of 64 bits is read as it was written. -/
theorem asI64_number {number : Int} (h : -9223372036854775808 ≤ number ∧ number < 9223372036854775808) :
    asI64 (.number (toString number)) = some number := by
  rw [asI64, parseSigned_toString]
  exact Option.filter_some_pos (decide_eq_true h)

section Members

variable {key key' : String} {value : Json} {members : List (String × Json)}

theorem findMember_insertMember_self : findMember key (insertMember key value members) = some value := by
  induction members with
  | nil => exact if_pos rfl
  | cons member members ih =>
      rw [insertMember]
      split
      · exact if_pos rfl
      · split
        · exact if_pos rfl
        · rename_i hne _
          rw [findMember, if_neg hne, ih]

theorem findMember_insertMember_of_ne (h : key ≠ key') :
    findMember key (insertMember key' value members) = findMember key members := by
  induction members with
  | nil => exact if_neg h
  | cons member members ih =>
      rw [insertMember]
      split
      · rename_i heq
        rw [findMember, findMember, if_neg h, if_neg (heq ▸ h)]
      · split
        · rw [findMember, if_neg h]
        · rw [findMember, findMember, ih]

theorem get?_insert_of_ne (payload : Json) (h : key ≠ key') :
    (payload.insert key' value).get? key = payload.get? key := by
  cases payload with
  | object members => exact findMember_insertMember_of_ne h
  | _ => rfl

/-- Members under other keys change nothing under this one. -/
theorem get?_foldl_insert (payload : Json) {added : List (String × Json)}
    (h : ∀ member ∈ added, key ≠ member.1) :
    (added.foldl (fun payload member ↦ payload.insert member.1 member.2) payload).get? key =
      payload.get? key := by
  induction added generalizing payload with
  | nil => rfl
  | cons member added ih =>
      obtain ⟨hmember, hadded⟩ := List.forall_mem_cons.mp h
      rw [List.foldl_cons, ih _ hadded, get?_insert_of_ne payload hmember]

/-- What is inserted is found, unless there is no object to insert it in. -/
theorem get?_insert_self (payload : Json) :
    (payload.insert key value).get? key = some value ∨
      (payload.insert key value).get? key = none := by
  cases payload with
  | object members => exact .inl findMember_insertMember_self
  | _ => exact .inr rfl

end Members

end Json

end AxiomArb.Library

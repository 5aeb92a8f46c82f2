import AxiomArb.Library.Delimited
import Mathlib.Tactic.Common

/-!
# Framed texts

A text framed by its length is read back from the front, whatever it holds and whatever
follows (`framed_append_inj`); a number after a dash is read back from the end.
-/

namespace AxiomArb.Library

/-- A text behind its length in bytes. -/
def framed (text : String) : String := s!"{text.utf8ByteSize}:{text}"

variable {text text' rest rest' : String}

theorem notMem_toDigits {char : Char} (hchar : char.isDigit = false) (number : Nat) :
    char ∉ Nat.toDigits 10 number := by
  intro h
  have hdigit := Nat.isDigit_of_mem_toDigits (by decide) (by decide) h
  rw [hchar] at hdigit
  cases hdigit

theorem toDigits_injective : Function.Injective (Nat.toDigits 10) := by
  intro number number' h
  have hnumber := congrArg (Nat.ofDigitChars 10 · 0) h
  simpa only [Nat.ofDigitChars_ten_toDigits] using hnumber

/-- Texts of one length are told apart by what they begin with. -/
theorem append_inj_of_utf8ByteSize_eq (hsize : text.utf8ByteSize = text'.utf8ByteSize)
    (h : text ++ rest = text' ++ rest') : text = text' ∧ rest = rest' := by
  have hlonger : ∀ {text text' : String} {more : List Char},
      text.utf8ByteSize = text'.utf8ByteSize → text'.toList = text.toList ++ more → text = text' := by
    intro text text' more hsize htext
    have happend : text' = text ++ String.ofList more := String.ext (by simpa using htext)
    rw [happend, String.utf8ByteSize_append] at hsize
    have hmore : String.ofList more = "" := String.utf8ByteSize_eq_zero_iff.mp (by omega)
    rw [happend, hmore, String.append_empty]
  have hlist := congrArg String.toList h
  rw [String.toList_append, String.toList_append] at hlist
  obtain rfl : text = text' := by
    rcases List.append_eq_append_iff.mp hlist with ⟨more, htext, -⟩ | ⟨more, htext, -⟩
    · exact hlonger hsize htext
    · exact (hlonger hsize.symm htext).symm
  exact ⟨rfl, (String.append_right_inj text).mp h⟩

theorem ne_append_colon {front back : String} : front ≠ front ++ ":" ++ back := by
  intro h
  have hlength := congrArg String.length h
  have hcolon : ":".length = 1 := rfl
  rw [String.length_append, String.length_append, hcolon] at hlength
  omega

theorem toList_framed (text : String) :
    (framed text).toList = Nat.toDigits 10 text.utf8ByteSize ++ ':' :: text.toList := by
  show ((toString text.utf8ByteSize ++ ":") ++ text).toList = _
  rw [String.append_assoc, String.toList_append, Nat.toString_eq_ofList_toDigits,
    String.toList_ofList]
  simp

/-- The text stands in its frame behind a digit and a colon. -/
theorem exists_toList_framed_eq (text : String) :
    ∃ before digit, digit.isDigit ∧
      (framed text).toList = before ++ digit :: ':' :: text.toList := by
  have hdigits : Nat.toDigits 10 text.utf8ByteSize ≠ [] := Nat.toDigits_ne_nil
  refine ⟨(Nat.toDigits 10 text.utf8ByteSize).dropLast, _,
    Nat.isDigit_of_mem_toDigits (by decide) (by decide) (List.getLast_mem hdigits), ?_⟩
  rw [toList_framed, List.append_cons _ (List.getLast _ _), List.dropLast_append_getLast]

/-- A framed text is known from what begins with it. -/
theorem framed_append_inj (h : framed text ++ rest = framed text' ++ rest') :
    text = text' ∧ rest = rest' := by
  have hlist := congrArg String.toList h
  simp only [String.toList_append, toList_framed, List.append_assoc, List.cons_append] at hlist
  simp only [← String.toList_append] at hlist
  obtain ⟨hdigits, hrest⟩ := append_separator_inj (notMem_toDigits (by decide) _)
    (notMem_toDigits (by decide) _) hlist
  exact append_inj_of_utf8ByteSize_eq (toDigits_injective hdigits) (String.toList_injective hrest)

/-- What stands before the first mark is known from the whole. -/
theorem append_mark_inj {mark : Char} (htext : mark ∉ text.toList) (htext' : mark ∉ text'.toList)
    (h : text ++ String.singleton mark ++ rest = text' ++ String.singleton mark ++ rest') :
    text = text' ∧ rest = rest' := by
  have hlist := congrArg String.toList h
  simp only [String.toList_append, String.toList_singleton, List.append_assoc,
    List.singleton_append] at hlist
  obtain ⟨hbefore, hafter⟩ := append_separator_inj htext htext' hlist
  exact ⟨String.toList_injective hbefore, String.toList_injective hafter⟩

/-! ## Texts made of words -/

section Words

variable {α : Type*} {word : α → String} {items items' : List α}

theorem foldl_append_eq (text : String) (items : List α) :
    items.foldl (fun text item ↦ text ++ word item) text =
      text ++ items.foldl (fun text item ↦ text ++ word item) "" := by
  induction items generalizing text with
  | nil => simp
  | cons item items ih =>
      rw [List.foldl_cons, List.foldl_cons, ih, ih ("" ++ word item), String.empty_append,
        String.append_assoc]

/-- Words that are known from what begins with them are known from their text. -/
theorem foldl_append_inj {P : α → Prop} (hne : ∀ item, word item ≠ "")
    (hword : ∀ item item' rest rest', P item → P item' → word item ++ rest = word item' ++ rest' →
      item = item' ∧ rest = rest')
    (hitems : ∀ item ∈ items, P item) (hitems' : ∀ item ∈ items', P item)
    (h : items.foldl (fun text item ↦ text ++ word item) text =
      items'.foldl (fun text item ↦ text ++ word item) text) : items = items' := by
  rw [foldl_append_eq, foldl_append_eq text, String.append_right_inj] at h
  induction items generalizing items' with
  | nil =>
      cases items' with
      | nil => rfl
      | cons item' items' =>
          rw [List.foldl_nil, List.foldl_cons, foldl_append_eq, String.empty_append, eq_comm,
            String.append_eq_empty_iff] at h
          exact absurd h.1 (hne item')
  | cons item items ih =>
      cases items' with
      | nil =>
          rw [List.foldl_nil, List.foldl_cons, foldl_append_eq, String.empty_append,
            String.append_eq_empty_iff] at h
          exact absurd h.1 (hne item)
      | cons item' items' =>
          rw [List.foldl_cons, List.foldl_cons, foldl_append_eq, foldl_append_eq ("" ++ word item'),
            String.empty_append, String.empty_append] at h
          obtain ⟨rfl, hrest⟩ := hword _ _ _ _ (hitems _ List.mem_cons_self)
            (hitems' _ List.mem_cons_self) h
          rw [ih (fun other hother ↦ hitems other (List.mem_cons_of_mem _ hother))
            (fun other hother ↦ hitems' other (List.mem_cons_of_mem _ hother)) hrest]

end Words

/-- A number at the end, and what stands before it, are known from the whole. -/
theorem append_number_inj {number number' : Nat}
    (h : text ++ "-" ++ toString number = text' ++ "-" ++ toString number') :
    text = text' ∧ number = number' := by
  have hlist := congrArg String.toList h
  simp only [String.toList_append, Nat.toString_eq_ofList_toDigits, String.toList_ofList,
    List.append_assoc] at hlist
  obtain ⟨htext, hdigits⟩ := append_last_separator_inj (notMem_toDigits (by decide) _)
    (notMem_toDigits (by decide) _) hlist
  exact ⟨String.toList_injective htext, toDigits_injective hdigits⟩

/-! ## Texts by table -/

/-- What a table says of a text; a text it does not list goes unchanged behind a mark. -/
def tabled (table : List (String × String)) (text : String) : String :=
  (table.lookup text).getD ("raw:" ++ text)

/-- A table whose entries are distinct and unmarked tells all texts apart. -/
theorem tabled_injective {table : List (String × String)}
    (hdistinct : ∀ entry ∈ table, ∀ entry' ∈ table, entry.2 = entry'.2 → entry.1 = entry'.1)
    (hunmarked : ∀ entry ∈ table, entry.2.toList.head? ≠ some 'r') :
    Function.Injective (tabled table) := by
  have hlisted : ∀ text value, table.lookup text = some value → (text, value) ∈ table := by
    intro text value h
    obtain ⟨before, after, hsplit, -⟩ := List.lookup_eq_some_iff.mp h
    rw [hsplit]
    simp
  have hraw : ∀ text value, table.lookup text = some value → ∀ text', value ≠ "raw:" ++ text' := by
    intro text value h text' heq
    refine hunmarked _ (hlisted text value h) ?_
    rw [heq, String.toList_append]
    rfl
  intro text text' h
  rw [tabled, tabled] at h
  cases hlookup : table.lookup text with
  | none =>
      cases hlookup' : table.lookup text' with
      | none =>
          rw [hlookup, hlookup'] at h
          exact (String.append_right_inj "raw:").mp h
      | some value' =>
          rw [hlookup, hlookup'] at h
          exact absurd h.symm (hraw _ _ hlookup' _)
  | some value =>
      cases hlookup' : table.lookup text' with
      | none =>
          rw [hlookup, hlookup'] at h
          exact absurd h (hraw _ _ hlookup _)
      | some value' =>
          rw [hlookup, hlookup'] at h
          exact hdistinct _ (hlisted _ _ hlookup) _ (hlisted _ _ hlookup') h

end AxiomArb.Library

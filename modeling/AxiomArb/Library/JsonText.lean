import AxiomArb.Library.Json
import Mathlib.Tactic.IntervalCases

/-!
# JSON text

The compact text of a value: no blanks, the members of an object as they are listed.
The text of a value determines the value (`Json.text_injective`), also where more text
follows it.
-/

namespace AxiomArb.Library

/-! ## Writing -/

/-- A character of a JSON string. -/
def jsonChar (char : Char) : String :=
  let hex : Nat → String := fun digit ↦ String.singleton (Nat.digitChar digit)
  match char.toNat with
  | 0x22 => "\x5c\x22"
  | 0x5c => "\x5c\x5c"
  | 0x08 => "\x5cb"
  | 0x09 => "\x5ct"
  | 0x0a => "\x5cn"
  | 0x0c => "\x5cf"
  | 0x0d => "\x5cr"
  | code =>
      if code < 0x20 then "\x5cu00" ++ hex (code / 16) ++ hex (code % 16)
      else String.singleton char

def jsonString (text : String) : String :=
  "\x22" ++ String.join (text.toList.map jsonChar) ++ "\x22"

def commaSeparated : List String → String
  | [] => ""
  | [item] => item
  | item :: items => item ++ "," ++ commaSeparated items

def jsonArray (items : List String) : String := "[" ++ commaSeparated items ++ "]"

def jsonField (field : String × String) : String := jsonString field.1 ++ ":" ++ field.2

def jsonObject (fields : List (String × String)) : String :=
  "\x7b" ++ commaSeparated (fields.map jsonField) ++ "\x7d"

theorem length_le_commaSeparated {item : String} {items : List String} (h : item ∈ items) :
    item.length ≤ (commaSeparated items).length := by
  induction items with
  | nil => cases h
  | cons first items ih =>
      cases items with
      | nil =>
          obtain rfl : item = first := by simpa using h
          exact le_rfl
      | cons second items =>
          simp only [commaSeparated, String.length_append]
          rcases List.mem_cons.mp h with rfl | hmem
          · omega
          · have hle := ih hmem
            omega

namespace Json

mutual

/-- The compact text of a value. -/
def text : Json → String
  | .null => "null"
  | .bool true => "true"
  | .bool false => "false"
  | .number digits => digits
  | .string value => jsonString value
  | .array items => jsonArray (texts items)
  | .object members => jsonObject (memberTexts members)

def texts : List Json → List String
  | [] => []
  | item :: items => item.text :: texts items

def memberTexts : List (String × Json) → List (String × String)
  | [] => []
  | (key, value) :: members => (key, value.text) :: memberTexts members

end

end Json

/-! ## Strings -/

def hexValue (digit : Char) : Nat :=
  if digit.isDigit then digit.toNat - 0x30 else digit.toNat - 0x57

/-- What the letter after a backslash stands for. -/
def unescaped : Char → Char
  | 'b' => '\x08'
  | 't' => '\t'
  | 'n' => '\n'
  | 'f' => '\x0c'
  | 'r' => '\r'
  | char => char

/-- Read a character of a JSON string. -/
def readJsonChar : List Char → Option (Char × List Char)
  | '\\' :: 'u' :: '0' :: '0' :: high :: low :: rest =>
      some (Char.ofNat (16 * hexValue high + hexValue low), rest)
  | '\\' :: letter :: rest => some (unescaped letter, rest)
  | char :: rest => some (char, rest)
  | [] => none

theorem eq_ofNat_of_toNat {char : Char} {code : Nat} (h : char.toNat = code) :
    char = Char.ofNat code := by
  rw [← h, Char.ofNat_toNat]

/-- Each way in which a character is written. -/
theorem jsonChar_cases (char : Char) :
    (∃ letter, (jsonChar char).toList = ['\\', letter] ∧ letter ≠ 'u' ∧ unescaped letter = char) ∨
    (char.toNat < 0x20 ∧ (jsonChar char).toList =
      ['\\', 'u', '0', '0', Nat.digitChar (char.toNat / 16), Nat.digitChar (char.toNat % 16)]) ∨
    (char ≠ '"' ∧ char ≠ '\\' ∧ (jsonChar char).toList = [char]) := by
  unfold jsonChar
  split
  case h_8 hquote hbackslash _ _ _ _ _ =>
    split
    · rename_i hcontrol
      exact .inr (.inl ⟨hcontrol, by simp⟩)
    · refine .inr (.inr ⟨?_, ?_, by simp⟩)
      · rintro rfl
        exact hquote rfl
      · rintro rfl
        exact hbackslash rfl
  all_goals
    rename_i hcode
    rw [eq_ofNat_of_toNat hcode]
    exact .inl ⟨_, rfl, by decide, rfl⟩

/-- A character is read again. -/
theorem readJsonChar_jsonChar (char : Char) (rest : List Char) :
    readJsonChar ((jsonChar char).toList ++ rest) = some (char, rest) := by
  rcases jsonChar_cases char with ⟨letter, htext, hletter, hchar⟩ | ⟨hcontrol, htext⟩ |
    ⟨-, hbackslash, htext⟩
  · rw [htext, ← hchar]
    simp [readJsonChar, hletter]
  · rw [htext, eq_ofNat_of_toNat (rfl : char.toNat = char.toNat)]
    generalize char.toNat = code at hcontrol
    interval_cases code <;> rfl
  · rw [htext]
    simp [readJsonChar, hbackslash]

/-- The text of a character does not begin like the end of a string. -/
theorem exists_cons_jsonChar (char : Char) :
    ∃ first rest, (jsonChar char).toList = first :: rest ∧ first ≠ '"' := by
  rcases jsonChar_cases char with ⟨letter, htext, -⟩ | ⟨-, htext⟩ | ⟨hquote, -, htext⟩
  · exact ⟨_, _, htext, by decide⟩
  · exact ⟨_, _, htext, by decide⟩
  · exact ⟨_, _, htext, hquote⟩

theorem toList_jsonString (value : String) :
    (jsonString value).toList =
      '"' :: (value.toList.flatMap fun char ↦ (jsonChar char).toList) ++ ['"'] := by
  simp [jsonString, List.flatMap]
  rfl

theorem toList_jsonField (key text : String) :
    (jsonField (key, text)).toList = (jsonString key).toList ++ ':' :: text.toList := by
  simp [jsonField]

theorem escaped_append_inj {chars chars' rest rest' : List Char}
    (h : (chars.flatMap fun char ↦ (jsonChar char).toList) ++ '"' :: rest =
      (chars'.flatMap fun char ↦ (jsonChar char).toList) ++ '"' :: rest') :
    chars = chars' ∧ rest = rest' := by
  induction chars generalizing chars' with
  | nil =>
      cases chars' with
      | nil => simpa using h
      | cons char' chars' =>
          obtain ⟨first, more, htext, hfirst⟩ := exists_cons_jsonChar char'
          rw [List.flatMap_cons, htext] at h
          simp only [List.flatMap_nil, List.nil_append, List.cons_append, List.cons.injEq] at h
          exact absurd h.1.symm hfirst
  | cons char chars ih =>
      cases chars' with
      | nil =>
          obtain ⟨first, more, htext, hfirst⟩ := exists_cons_jsonChar char
          rw [List.flatMap_cons, htext] at h
          simp only [List.flatMap_nil, List.nil_append, List.cons_append, List.cons.injEq] at h
          exact absurd h.1 hfirst
      | cons char' chars' =>
          rw [List.flatMap_cons, List.flatMap_cons, List.append_assoc, List.append_assoc] at h
          have hread := congrArg readJsonChar h
          rw [readJsonChar_jsonChar, readJsonChar_jsonChar, Option.some.injEq, Prod.mk.injEq] at hread
          obtain ⟨rfl, hrest⟩ := ih hread.2
          exact ⟨by rw [hread.1], hrest⟩

/-- A string is read up to its end. -/
theorem jsonString_append_inj {value value' : String} {rest rest' : List Char}
    (h : (jsonString value).toList ++ rest = (jsonString value').toList ++ rest') :
    value = value' ∧ rest = rest' := by
  simp only [toList_jsonString, List.cons_append, List.append_assoc, List.cons.injEq, true_and] at h
  obtain ⟨hchars, hrest⟩ := escaped_append_inj h
  exact ⟨String.toList_inj.mp hchars, hrest⟩

/-! ## Lists -/

/-- The text after a value: none, or it goes on with what may stand after a value. -/
def Stops (rest : List Char) : Prop := ∀ char ∈ rest.head?, char = ',' ∨ char = ']' ∨ char = '}'

section Separated

variable {ι : Type} {write : ι → String} {items items' : List ι} {close : Char} {rest rest' : List Char}

theorem toList_commaSeparated_cons (item : ι) (items : List ι) :
    ',' :: (commaSeparated ((item :: items).map write)).toList =
      (item :: items).flatMap fun item ↦ ',' :: (write item).toList := by
  induction items generalizing item with
  | nil => simp [commaSeparated]
  | cons second items ih =>
      rw [List.flatMap_cons, ← ih second]
      simp [commaSeparated]

theorem stops_flatMap (hclose : close = ']' ∨ close = '}') :
    Stops ((items.flatMap fun item ↦ ',' :: (write item).toList) ++ close :: rest) := by
  cases items with
  | nil => simpa [Stops] using hclose.elim (.inr ∘ .inl) (.inr ∘ .inr)
  | cons item items => simp [Stops]

/-- Items that are read one by one are read up to the end of the list. -/
theorem flatMap_append_inj (hclose : close = ']' ∨ close = '}')
    (hread : ∀ item ∈ items, ∀ item' ∈ items', ∀ rest rest', Stops rest → Stops rest' →
      (write item).toList ++ rest = (write item').toList ++ rest' → item = item' ∧ rest = rest')
    (h : (items.flatMap fun item ↦ ',' :: (write item).toList) ++ close :: rest =
      (items'.flatMap fun item ↦ ',' :: (write item).toList) ++ close :: rest') :
    items = items' ∧ rest = rest' := by
  have hcomma : close ≠ ',' := by
    rcases hclose with rfl | rfl <;> decide
  induction items generalizing items' with
  | nil =>
      cases items' with
      | nil => simpa using h
      | cons item' items' =>
          simp only [List.flatMap_nil, List.nil_append, List.flatMap_cons, List.cons_append,
            List.cons.injEq] at h
          exact absurd h.1 hcomma
  | cons item items ih =>
      cases items' with
      | nil =>
          simp only [List.flatMap_nil, List.nil_append, List.flatMap_cons, List.cons_append,
            List.cons.injEq] at h
          exact absurd h.1.symm hcomma
      | cons item' items' =>
          simp only [List.flatMap_cons, List.cons_append, List.append_assoc, List.cons.injEq, true_and]
            at h
          obtain ⟨rfl, hmore⟩ := hread item List.mem_cons_self item' List.mem_cons_self _ _
            (stops_flatMap hclose) (stops_flatMap hclose) h
          obtain ⟨rfl, hrest⟩ := ih (fun item hitem item' hitem' ↦ hread item
            (List.mem_cons_of_mem _ hitem) item' (List.mem_cons_of_mem _ hitem')) hmore
          exact ⟨rfl, hrest⟩

/-- The same of a list whose items do not begin like its end. -/
theorem commaSeparated_append_inj (hclose : close = ']' ∨ close = '}')
    (hopen : ∀ item, item ∈ items ∨ item ∈ items' → ∃ first more,
      (write item).toList = first :: more ∧ first ≠ close)
    (hread : ∀ item ∈ items, ∀ item' ∈ items', ∀ rest rest', Stops rest → Stops rest' →
      (write item).toList ++ rest = (write item').toList ++ rest' → item = item' ∧ rest = rest')
    (h : (commaSeparated (items.map write)).toList ++ close :: rest =
      (commaSeparated (items'.map write)).toList ++ close :: rest') :
    items = items' ∧ rest = rest' := by
  cases items with
  | nil =>
      cases items' with
      | nil => simpa [commaSeparated] using h
      | cons item' items' =>
          obtain ⟨first, more, htext, hfirst⟩ := hopen item' (.inr List.mem_cons_self)
          have h' := congrArg (',' :: ·) h
          simp only [← List.cons_append, toList_commaSeparated_cons] at h'
          simp only [List.flatMap_cons, htext, List.map_nil, commaSeparated, List.cons_append,
            List.cons.injEq, true_and, String.toList_empty, List.nil_append] at h'
          exact absurd h'.1.symm hfirst
  | cons item items =>
      cases items' with
      | nil =>
          obtain ⟨first, more, htext, hfirst⟩ := hopen item (.inl List.mem_cons_self)
          have h' := congrArg (',' :: ·) h
          simp only [← List.cons_append, toList_commaSeparated_cons] at h'
          simp only [List.flatMap_cons, htext, List.map_nil, commaSeparated, List.cons_append,
            List.cons.injEq, true_and, String.toList_empty, List.nil_append] at h'
          exact absurd h'.1 hfirst
      | cons item' items' =>
          have h' := congrArg (',' :: ·) h
          simp only [← List.cons_append, toList_commaSeparated_cons] at h'
          exact flatMap_append_inj hclose hread h'

end Separated

/-! ## Values -/

namespace Json

/-- Every number in the value is made of digits. -/
inductive Valid : Json → Prop where
  | null : Valid .null
  | bool (value : Bool) : Valid (.bool value)
  | number {digits : String} (nonempty : digits.toList ≠ [])
      (all : ∀ char ∈ digits.toList, char.isDigit) : Valid (.number digits)
  | string (value : String) : Valid (.string value)
  | array {items : List Json} (all : ∀ item ∈ items, Valid item) : Valid (.array items)
  | object {members : List (String × Json)} (all : ∀ member ∈ members, Valid member.2) :
      Valid (.object members)

/-- What a character at the beginning of a value says of it. -/
def Opens (first : Char) : Json → Prop
  | .null => first = 'n'
  | .bool true => first = 't'
  | .bool false => first = 'f'
  | .number _ => first.isDigit
  | .string _ => first = '"'
  | .array _ => first = '['
  | .object _ => first = '{'

section Text

variable {value value' : Json} {first : Char}

theorem texts_eq_map (items : List Json) : texts items = items.map text := by
  induction items with
  | nil => rfl
  | cons item items ih => rw [texts, ih, List.map_cons]

theorem memberTexts_eq_map (members : List (String × Json)) :
    (memberTexts members).map jsonField =
      members.map fun member ↦ jsonField (member.1, member.2.text) := by
  induction members with
  | nil => rfl
  | cons member members ih => rw [memberTexts, List.map_cons, ih, List.map_cons]

theorem toList_text_array (items : List Json) :
    (array items).text.toList = '[' :: (commaSeparated (items.map text)).toList ++ [']'] := by
  simp [text, jsonArray, texts_eq_map]

theorem toList_text_object (members : List (String × Json)) :
    (object members).text.toList =
      '{' :: (commaSeparated (members.map fun member ↦ jsonField (member.1, member.2.text))).toList ++
        ['}'] := by
  simp [text, jsonObject, memberTexts_eq_map]

theorem exists_cons_text (hvalid : value.Valid) :
    ∃ first more, value.text.toList = first :: more ∧ Opens first value := by
  cases hvalid with
  | null => exact ⟨_, _, rfl, rfl⟩
  | bool value => cases value <;> exact ⟨_, _, rfl, rfl⟩
  | number nonempty all =>
      obtain ⟨first, more, htext⟩ := List.exists_cons_of_ne_nil nonempty
      exact ⟨first, more, htext, all first (htext ▸ List.mem_cons_self)⟩
  | string value => exact ⟨_, _, toList_jsonString value, rfl⟩
  | array all => exact ⟨_, _, toList_text_array _, rfl⟩
  | object all => exact ⟨_, _, toList_text_object _, rfl⟩

/-- The end of an array begins no value. -/
theorem ne_of_opens (hopens : Opens first value) : first ≠ ']' := by
  rintro rfl
  cases value with
  | bool value => cases value <;> simp [Opens] at hopens
  | _ => simp [Opens] at hopens

/-- Digits are read up to where they stop. -/
theorem digits_append_inj {digits digits' rest rest' : List Char}
    (hdigits : ∀ char ∈ digits, char.isDigit) (hdigits' : ∀ char ∈ digits', char.isDigit)
    (hrest : Stops rest) (hrest' : Stops rest') (h : digits ++ rest = digits' ++ rest') :
    digits = digits' ∧ rest = rest' := by
  have htake : ∀ {digits rest : List Char}, (∀ char ∈ digits, char.isDigit) → Stops rest →
      (digits ++ rest).takeWhile Char.isDigit = digits := by
    intro digits rest hall hstops
    rw [List.takeWhile_append_of_pos hall]
    cases rest with
    | nil => simp
    | cons char rest =>
        have hchar : char.isDigit = false := by
          rcases hstops char rfl with rfl | rfl | rfl <;> rfl
        simp [hchar]
  obtain rfl : digits = digits' := by
    rw [← htake hdigits hrest, h, htake hdigits' hrest']
  exact ⟨rfl, List.append_cancel_left h⟩

theorem exists_opens {rest rest' : List Char} (hvalid : value.Valid) (hvalid' : value'.Valid)
    (h : value.text.toList ++ rest = value'.text.toList ++ rest') :
    ∃ first, Opens first value ∧ Opens first value' := by
  obtain ⟨first, more, htext, hopens⟩ := exists_cons_text hvalid
  obtain ⟨first', more', htext', hopens'⟩ := exists_cons_text hvalid'
  rw [htext, htext', List.cons_append, List.cons_append, List.cons.injEq] at h
  exact ⟨first, hopens, h.1 ▸ hopens'⟩

/-- A value is read up to its end. -/
theorem text_append_inj (hvalid : value.Valid) (hvalid' : value'.Valid) {rest rest' : List Char}
    (hrest : Stops rest) (hrest' : Stops rest')
    (h : value.text.toList ++ rest = value'.text.toList ++ rest') : value = value' ∧ rest = rest' := by
  induction hvalid generalizing value' rest rest' with
  | null =>
      obtain ⟨first, rfl, hopens⟩ := exists_opens .null hvalid' h
      cases hvalid' with
      | null => exact ⟨rfl, List.append_cancel_left h⟩
      | bool value => cases value <;> simp [Opens] at hopens
      | _ => simp [Opens] at hopens
  | bool value =>
      obtain ⟨first, hfirst, hopens⟩ := exists_opens (.bool value) hvalid' h
      cases hvalid' with
      | bool value' =>
          obtain rfl : value = value' := by
            cases value <;> cases value' <;> simp_all [Opens]
          exact ⟨rfl, List.append_cancel_left h⟩
      | _ => cases value <;> (obtain rfl := hfirst; simp [Opens] at hopens)
  | number nonempty all =>
      obtain ⟨first, hfirst, hopens⟩ := exists_opens (.number nonempty all) hvalid' h
      cases hvalid' with
      | number nonempty' all' =>
          obtain ⟨hdigits, hrest⟩ := digits_append_inj all all' hrest hrest' h
          exact ⟨congrArg _ (String.toList_inj.mp hdigits), hrest⟩
      | bool value => cases value <;> (obtain rfl := hopens; simp [Opens] at hfirst)
      | _ => obtain rfl := hopens; simp [Opens] at hfirst
  | string value =>
      obtain ⟨first, rfl, hopens⟩ := exists_opens (.string value) hvalid' h
      cases hvalid' with
      | string value' =>
          obtain ⟨rfl, hrest⟩ := jsonString_append_inj h
          exact ⟨rfl, hrest⟩
      | bool value => cases value <;> simp [Opens] at hopens
      | _ => simp [Opens] at hopens
  | @array items all ih =>
      obtain ⟨first, rfl, hopens⟩ := exists_opens (.array all) hvalid' h
      cases hvalid' with
      | @array items' all' =>
          simp only [toList_text_array, List.cons_append, List.append_assoc, List.cons.injEq, true_and]
            at h
          have hopen : ∀ item, item ∈ items ∨ item ∈ items' → ∃ first more,
              item.text.toList = first :: more ∧ first ≠ ']' := by
            intro item hitem
            obtain ⟨first, more, htext, hfirst⟩ := exists_cons_text (hitem.elim (all item) (all' item))
            exact ⟨first, more, htext, ne_of_opens hfirst⟩
          obtain ⟨rfl, hrest⟩ := commaSeparated_append_inj (.inl rfl) hopen
            (fun item hitem item' hitem' _ _ ↦ ih item hitem (all' item' hitem')) h
          exact ⟨rfl, hrest⟩
      | bool value => cases value <;> simp [Opens] at hopens
      | _ => simp [Opens] at hopens
  | @object members all ih =>
      obtain ⟨first, rfl, hopens⟩ := exists_opens (.object all) hvalid' h
      cases hvalid' with
      | @object members' all' =>
          simp only [toList_text_object, List.cons_append, List.append_assoc, List.cons.injEq, true_and]
            at h
          have hopen : ∀ member : String × Json, ∃ first more,
              (jsonField (member.1, member.2.text)).toList = first :: more ∧ first ≠ '}' := by
            intro member
            rw [toList_jsonField, toList_jsonString]
            exact ⟨'"', _, rfl, by decide⟩
          have hread : ∀ member ∈ members, ∀ member' ∈ members', ∀ rest rest', Stops rest → Stops rest' →
              (jsonField (member.1, member.2.text)).toList ++ rest =
                (jsonField (member'.1, member'.2.text)).toList ++ rest' →
              member = member' ∧ rest = rest' := by
            intro member hmember member' hmember' rest rest' hrest hrest' hfield
            rw [toList_jsonField, toList_jsonField, List.append_assoc, List.append_assoc] at hfield
            obtain ⟨hkey, hcolon⟩ := jsonString_append_inj hfield
            obtain ⟨hvalue, hmore⟩ := ih member hmember (all' member' hmember') hrest hrest'
              (List.cons.inj hcolon).2
            exact ⟨Prod.ext hkey hvalue, hmore⟩
          obtain ⟨rfl, hrest⟩ := commaSeparated_append_inj (.inr rfl) (fun member _ ↦ hopen member) hread h
          exact ⟨rfl, hrest⟩
      | bool value => cases value <;> simp [Opens] at hopens
      | _ => simp [Opens] at hopens

/-- **Different values have different texts.** -/
theorem text_injective (hvalid : value.Valid) (hvalid' : value'.Valid)
    (h : value.text = value'.text) : value = value' := by
  have hnil : Stops [] := nofun
  refine (text_append_inj hvalid hvalid' hnil hnil ?_).1
  rw [h]

end Text

/-! ## Objects after digits -/

/-- A character that may stand after a string. -/
def Delimits (char : Char) : Prop := char = ',' ∨ char = ':' ∨ char = ']' ∨ char = '}'

instance : DecidablePred Delimits := fun _ ↦ inferInstanceAs (Decidable (_ ∨ _ ∨ _ ∨ _))

/-- How much has been read of a digit, a colon, a brace, a quote, and what is no
delimiter. -/
def scan : Nat → Char → Nat
  | 5, _ => 5
  | 4, char => if Delimits char then 0 else 5
  | 3, char => if char = '"' then 4 else if char.isDigit then 1 else 0
  | 2, char => if char = '{' then 3 else if char.isDigit then 1 else 0
  | 1, char => if char = ':' then 2 else if char.isDigit then 1 else 0
  | _, char => if char.isDigit then 1 else 0

/-- What has been read between values. -/
def Between (state : Nat) : Prop := state = 0 ∨ state = 1 ∨ state = 4

section Scan

variable {value : Json} {state : Nat} {chars : List Char}

theorem foldl_scan_five (chars : List Char) : chars.foldl scan 5 = 5 := by
  induction chars with
  | nil => rfl
  | cons char chars ih => exact ih

theorem ne_of_isDigit {digit : Char} (hdigit : digit.isDigit) :
    digit ≠ '"' ∧ digit ≠ '{' ∧ digit ≠ ':' ∧ ¬Delimits digit := by
  refine ⟨?_, ?_, ?_, ?_⟩
  all_goals
    rintro h
    first
    | (obtain rfl := h; simp at hdigit)
    | (rcases h with rfl | rfl | rfl | rfl <;> simp at hdigit)

theorem scan_digit {digit : Char} (hdigit : digit.isDigit) (state : Nat) :
    scan state digit = 1 ∨ scan state digit = 5 := by
  obtain ⟨hquote, hbrace, hcolon, hdelimits⟩ := ne_of_isDigit hdigit
  unfold scan
  split <;> simp [hquote, hbrace, hcolon, hdelimits, hdigit]

/-- The five characters are noticed wherever they stand. -/
theorem foldl_scan_window {before after : List Char} {digit char : Char} (state : Nat)
    (hdigit : digit.isDigit) (hchar : ¬Delimits char) :
    (before ++ digit :: ':' :: '{' :: '"' :: char :: after).foldl scan state = 5 := by
  rw [List.foldl_append, List.foldl_cons]
  rcases scan_digit hdigit (before.foldl scan state) with hone | hfive
  · rw [hone]
    have hwindow : [':', '{', '"', char].foldl scan 1 = 5 := by simp [scan, hchar]
    have happend : ':' :: '{' :: '"' :: char :: after = [':', '{', '"', char] ++ after := rfl
    rw [happend, List.foldl_append, hwindow, foldl_scan_five]
  · rw [hfive, foldl_scan_five]

/-- Within a string no quote is read. -/
theorem foldl_scan_le (hstate : state ≤ 3) (hquote : ∀ char ∈ chars, char ≠ '"') :
    chars.foldl scan state ≤ 3 := by
  induction chars generalizing state with
  | nil => exact hstate
  | cons char chars ih =>
      refine ih ?_ fun other hother ↦ hquote other (List.mem_cons_of_mem _ hother)
      have hchar := hquote char List.mem_cons_self
      interval_cases state <;> simp only [scan, hchar, if_false] <;> split_ifs <;> omega

theorem digitChar_ne_quote {digit : Nat} (h : digit < 16) : Nat.digitChar digit ≠ '"' := by
  interval_cases digit <;> decide

theorem foldl_scan_jsonChar (hstate : state ≤ 3) (char : Char) :
    (jsonChar char).toList.foldl scan state ≤ 3 := by
  rcases jsonChar_cases char with ⟨letter, htext, -⟩ | ⟨hcontrol, htext⟩ |
    ⟨hquote, -, htext⟩
  · have hbackslash : scan state '\\' = 0 := by
      interval_cases state <;> rfl
    rw [htext, List.foldl_cons, hbackslash]
    simp only [List.foldl_cons, List.foldl_nil, scan]
    split_ifs <;> omega
  · rw [htext]
    have hhigh := digitChar_ne_quote (show char.toNat / 16 < 16 by omega)
    have hlow := digitChar_ne_quote (show char.toNat % 16 < 16 by omega)
    exact foldl_scan_le hstate (by simp [hhigh, hlow])
  · rw [htext]
    exact foldl_scan_le hstate (by simpa using hquote)

theorem foldl_scan_jsonString (text : String) :
    (jsonString text).toList.foldl scan 0 = 0 ∨ (jsonString text).toList.foldl scan 0 = 4 := by
  have hinside : ∀ chars : List Char, ∀ state ≤ 3,
      (chars.flatMap fun char ↦ (jsonChar char).toList).foldl scan state ≤ 3 := by
    intro chars
    induction chars with
    | nil => exact fun state hstate ↦ hstate
    | cons char chars ih =>
        intro state hstate
        rw [List.flatMap_cons, List.foldl_append]
        exact ih _ (foldl_scan_jsonChar hstate char)
  have hlast := hinside text.toList 0 (by omega)
  rw [toList_jsonString, List.foldl_append]
  simp only [List.foldl_cons, List.foldl_nil]
  have hopen : scan 0 '"' = 0 := rfl
  rw [hopen]
  generalize (text.toList.flatMap fun char ↦ (jsonChar char).toList).foldl scan 0 = last at hlast
  interval_cases last <;> simp [scan]

/-- A delimiter after a value begins anew. -/
theorem scan_between {char : Char} (hstate : Between state) (hchar : char = ',' ∨ char = ']' ∨ char = '}') :
    scan state char = 0 := by
  rcases hstate with rfl | rfl | rfl <;> rcases hchar with rfl | rfl | rfl <;> rfl

theorem foldl_scan_flatMap {ι : Type} {write : ι → String} {items : List ι} (hstate : Between state)
    (hitems : ∀ item ∈ items, Between ((write item).toList.foldl scan 0)) :
    Between ((items.flatMap fun item ↦ ',' :: (write item).toList).foldl scan state) := by
  induction items generalizing state with
  | nil => exact hstate
  | cons item items ih =>
      rw [List.flatMap_cons, List.foldl_append, List.foldl_cons, scan_between hstate (.inl rfl)]
      exact ih (hitems item List.mem_cons_self) fun other hother ↦
        hitems other (List.mem_cons_of_mem _ hother)

theorem foldl_scan_commaSeparated {ι : Type} {write : ι → String} {items : List ι}
    (hitems : ∀ item ∈ items, Between ((write item).toList.foldl scan 0)) :
    Between ((commaSeparated (items.map write)).toList.foldl scan 0) := by
  cases items with
  | nil => exact .inl rfl
  | cons item items =>
      have hlist := foldl_scan_flatMap (.inl rfl) hitems
      rw [← toList_commaSeparated_cons] at hlist
      exact hlist

theorem foldl_scan_digits (hstate : Between state ∧ state ≠ 4) (hdigits : ∀ char ∈ chars, char.isDigit) :
    Between (chars.foldl scan state) := by
  induction chars generalizing state with
  | nil => exact hstate.1
  | cons char chars ih =>
      have hone : scan state char = 1 := by
        obtain ⟨-, -, hcolon, -⟩ := ne_of_isDigit (hdigits char List.mem_cons_self)
        rcases hstate with ⟨rfl | rfl | rfl, hne⟩
        · simp [scan, hdigits char List.mem_cons_self]
        · simp [scan, hcolon, hdigits char List.mem_cons_self]
        · exact absurd rfl hne
      rw [List.foldl_cons, hone]
      exact ih ⟨.inr (.inl rfl), by omega⟩ fun other hother ↦ hdigits other (List.mem_cons_of_mem _ hother)

theorem foldl_scan_text (hvalid : value.Valid) : Between (value.text.toList.foldl scan 0) := by
  induction hvalid with
  | null => exact .inl rfl
  | bool value => cases value <;> exact .inl rfl
  | number nonempty all => exact foldl_scan_digits ⟨.inl rfl, by omega⟩ all
  | string value => exact (foldl_scan_jsonString value).imp_right .inr
  | array all ih =>
      rw [toList_text_array, List.foldl_append, List.foldl_cons]
      exact .inl (scan_between (foldl_scan_commaSeparated ih) (.inr (.inl rfl)))
  | @object members all ih =>
      have hfields : ∀ member ∈ members,
          Between ((jsonField (member.1, member.2.text)).toList.foldl scan 0) := by
        intro member hmember
        have hcolon : scan ((jsonString member.1).toList.foldl scan 0) ':' = 0 := by
          rcases foldl_scan_jsonString member.1 with h | h <;> (rw [h]; rfl)
        rw [toList_jsonField, List.foldl_append, List.foldl_cons, hcolon]
        exact ih member hmember
      rw [toList_text_object, List.foldl_append, List.foldl_cons]
      exact .inl (scan_between (foldl_scan_commaSeparated hfields) (.inr (.inr rfl)))

/-- **No digit stands before an object.**  In the text of a value a digit and a colon are
not followed by an object whose first key begins with no delimiter. -/
theorem text_ne_window (hvalid : value.Valid) {before after : List Char} {digit char : Char}
    (hdigit : digit.isDigit) (hchar : ¬Delimits char) :
    value.text.toList ≠ before ++ digit :: ':' :: '{' :: '"' :: char :: after := by
  intro h
  have hbetween := foldl_scan_text hvalid
  rw [h, foldl_scan_window 0 hdigit hchar] at hbetween
  simp [Between] at hbetween

/-- The object's text begins with a key that begins with no delimiter. -/
def OpensKey (value : Json) : Prop :=
  ∃ char after, ¬Delimits char ∧ value.text.toList = '{' :: '"' :: char :: after

theorem opensKey_object {key : String} {char : Char} {chars : List Char}
    {members : List (String × Json)} (hkey : key.toList = char :: chars) (hchar : ¬Delimits char)
    (hplain : (jsonChar char).toList = [char]) : (object ((key, value) :: members)).OpensKey := by
  let write : String × Json → String := fun member ↦ jsonField (member.1, member.2.text)
  have hlist : ',' :: (commaSeparated (((key, value) :: members).map write)).toList = _ :=
    toList_commaSeparated_cons (key, value) members
  rw [List.flatMap_cons, List.cons_append, List.cons.injEq, toList_jsonField, toList_jsonString,
    hkey, List.flatMap_cons, hplain] at hlist
  have hobject := toList_text_object ((key, value) :: members)
  rw [hlist.2] at hobject
  exact ⟨char, _, hchar, hobject⟩

/-- An object at the end, behind a digit and a colon, is known from the whole. -/
theorem append_text_inj {value' : Json} (hvalid : value.Valid) (hvalid' : value'.Valid)
    (hkey : value.OpensKey) (hkey' : value'.OpensKey) {before before' : List Char}
    {digit digit' : Char} (hdigit : digit.isDigit) (hdigit' : digit'.isDigit)
    (h : before ++ digit :: ':' :: value.text.toList =
      before' ++ digit' :: ':' :: value'.text.toList) : value = value' := by
  -- the longer text cannot hold the digit, the colon and the object of the shorter one
  have hlonger : ∀ {value value' : Json} {digit digit' : Char} {middle : List Char},
      value.Valid → value'.OpensKey → digit'.isDigit →
      digit :: ':' :: value.text.toList = middle ++ digit' :: ':' :: value'.text.toList →
        value.text = value'.text := by
    rintro value value' digit digit' middle hvalid ⟨char, after, hchar, htext'⟩ hdigit' h
    match middle with
    | [] =>
        rw [List.nil_append, List.cons.injEq, List.cons.injEq] at h
        exact String.toList_injective h.2.2
    | [_] =>
        rw [List.singleton_append, List.cons.injEq, List.cons.injEq] at h
        rw [← h.2.1] at hdigit'
        cases hdigit'
    | _ :: _ :: middle =>
        rw [List.cons_append, List.cons_append, List.cons.injEq, List.cons.injEq, htext'] at h
        exact absurd h.2.2 (text_ne_window hvalid hdigit' hchar)
  rcases List.append_eq_append_iff.mp h with ⟨middle, -, hmiddle⟩ | ⟨middle, -, hmiddle⟩
  · exact text_injective hvalid hvalid' (hlonger hvalid hkey' hdigit' hmiddle)
  · exact (text_injective hvalid' hvalid (hlonger hvalid' hkey hdigit hmiddle)).symm

end Scan

end Json

end AxiomArb.Library

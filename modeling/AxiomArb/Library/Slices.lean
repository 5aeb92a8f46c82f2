import AxiomArb.Library.Framed

/-!
# Slices of texts

Cutting a text at a separator, at a known start, or at a byte.  A cut inside a character
has no answer; behind a byte that is a whole character there is always one
(`exists_sliceFrom_succ`).
-/

namespace AxiomArb.Library

/-! ## Parts of a text -/

/-- The text before the first separator, and the text after it. -/
def splitOnce (separator : Char) (text : String) : Option (String × String) :=
  match text.toList.dropWhile (· != separator) with
  | [] => none
  | _ :: rest => some (String.ofList (text.toList.takeWhile (· != separator)), String.ofList rest)

def stripPrefix (start text : String) : Option String :=
  (start.toList.isPrefixOf? text.toList).map String.ofList

variable {separator : Char} {start rest text : String}

theorem splitOnce_append (h : separator ∉ start.toList) :
    splitOnce separator (start ++ String.singleton separator ++ rest) = some (start, rest) := by
  have hall : ∀ char ∈ start.toList, (char != separator) = true := by
    intro char hchar
    rw [bne_iff_ne]
    rintro rfl
    exact h hchar
  have htext : (start ++ String.singleton separator ++ rest).toList =
      start.toList ++ separator :: rest.toList := by simp
  rw [splitOnce, htext, List.dropWhile_append_of_pos hall, List.takeWhile_append_of_pos hall]
  simp

theorem length_lt_of_splitOnce {front back : String}
    (h : splitOnce separator text = some (front, back)) : back.length < text.length := by
  rw [splitOnce] at h
  split at h
  · cases h
  · rename_i char rest hdrop
    obtain ⟨-, rfl⟩ := Prod.mk.inj (Option.some.inj h)
    have hle := (List.dropWhile_suffix (l := text.toList) (· != separator)).length_le
    rw [hdrop, List.length_cons, String.length_toList] at hle
    rw [String.length_ofList]
    omega

theorem isPrefixOf?_eq_some_iff {α : Type*} [DecidableEq α] {start text rest : List α} :
    start.isPrefixOf? text = some rest ↔ text = start ++ rest := by
  induction start generalizing text with
  | nil => simp [List.isPrefixOf?, eq_comm]
  | cons first start ih =>
      cases text with
      | nil => simp [List.isPrefixOf?]
      | cons char text =>
          rw [List.isPrefixOf?]
          by_cases hchar : first = char
          · subst hchar
            simp [ih]
          · simp [hchar, Ne.symm hchar]

/-- A text is stripped of its start if and only if it begins with it. -/
theorem stripPrefix_eq_some_iff : stripPrefix start text = some rest ↔ text = start ++ rest := by
  rw [stripPrefix, Option.map_eq_some_iff]
  constructor
  · rintro ⟨chars, hchars, rfl⟩
    refine String.ext ?_
    rw [isPrefixOf?_eq_some_iff.mp hchars, String.toList_append, String.toList_ofList]
  · rintro rfl
    exact ⟨rest.toList, isPrefixOf?_eq_some_iff.mpr String.toList_append, String.ofList_toList⟩

/-! ## Numbers -/

/-- The number that decimal digits, perhaps behind a plus sign, stand for. -/
def parseUnsigned (text : String) : Option Nat :=
  let digits := match text.toList with
    | '+' :: digits => digits
    | digits => digits
  if digits ≠ [] ∧ digits.all Char.isDigit then some (Nat.ofDigitChars 10 digits 0) else none

theorem parseUnsigned_toString (number : Nat) : parseUnsigned (toString number) = some number := by
  have hdigits : (toString number).toList = Nat.toDigits 10 number := by
    rw [Nat.toString_eq_ofList_toDigits, String.toList_ofList]
  have hplus := notMem_toDigits (show '+'.isDigit = false by decide) number
  have hall : (Nat.toDigits 10 number).all Char.isDigit = true := List.all_eq_true.mpr
    fun char hchar ↦ Nat.isDigit_of_mem_toDigits (by decide) (by decide) hchar
  have hsigned : (match Nat.toDigits 10 number with
      | '+' :: digits => digits
      | digits => digits) = Nat.toDigits 10 number := by
    split
    · rename_i digits heq
      exact absurd (heq ▸ List.mem_cons_self) hplus
    · exact rfl
  rw [parseUnsigned, hdigits]
  simp only [hsigned]
  rw [if_pos ⟨Nat.toDigits_ne_nil, hall⟩, Nat.ofDigitChars_ten_toDigits]

/-- The number that decimal digits, perhaps behind a sign, stand for. -/
def parseSigned (text : String) : Option Int :=
  match text.toList with
  | '-' :: digits => (parseUnsigned (String.ofList digits)).map fun magnitude ↦ -Int.ofNat magnitude
  | _ => (parseUnsigned text).map Int.ofNat

theorem parseSigned_toString (number : Int) : parseSigned (toString number) = some number := by
  cases number with
  | ofNat magnitude =>
      have htext : toString (Int.ofNat magnitude) = toString magnitude := rfl
      rw [htext, parseSigned]
      split
      · rename_i digits hdigits
        rw [Nat.toString_eq_ofList_toDigits, String.toList_ofList] at hdigits
        exact absurd (hdigits ▸ List.mem_cons_self)
          (notMem_toDigits (show '-'.isDigit = false by decide) magnitude)
      · rw [parseUnsigned_toString, Option.map_some]
  | negSucc magnitude =>
      have htext : (toString (Int.negSucc magnitude)).toList =
          '-' :: (toString (magnitude + 1)).toList := by
        show ("-" ++ toString (magnitude + 1)).toList = _
        rw [String.toList_append]
        rfl
      rw [parseSigned, htext]
      show (parseUnsigned (String.ofList (toString (magnitude + 1)).toList)).map _ = _
      rw [String.ofList_toList, parseUnsigned_toString]
      rfl

/-! ## Bytes -/

def asBytes (text : String) : List UInt8 := text.toList.flatMap String.utf8EncodeChar

/-- The characters from a byte on; there are none to give from within a character. -/
def dropBytes : Nat → List Char → Option (List Char)
  | 0, chars => some chars
  | _ + 1, [] => none
  | n + 1, char :: chars =>
      if char.utf8Size ≤ n + 1 then dropBytes (n + 1 - char.utf8Size) chars else none

theorem dropBytes_zero (chars : List Char) : dropBytes 0 chars = some chars := by
  cases chars with
  | nil => exact rfl
  | cons char chars => exact rfl

def sliceFrom (text : String) (n : Nat) : Option String := (dropBytes n text.toList).map String.ofList

theorem asBytes_append (text text' : String) : asBytes (text ++ text') = asBytes text ++ asBytes text' := by
  rw [asBytes, String.toList_append, List.flatMap_append]
  rfl

theorem length_asBytes (text : String) : (asBytes text).length = text.utf8ByteSize := by
  have hchars : ∀ chars : List Char,
      (chars.flatMap String.utf8EncodeChar).length = (String.ofList chars).utf8ByteSize := by
    intro chars
    induction chars with
    | nil => exact rfl
    | cons char chars ih =>
        have hcons : String.ofList (char :: chars) = String.singleton char ++ String.ofList chars :=
          String.ext (by simp)
        rw [List.flatMap_cons, List.length_append, ih, hcons, String.utf8ByteSize_append,
          String.utf8ByteSize_singleton, String.length_utf8EncodeChar]
  rw [asBytes, hchars, String.ofList_toList]

theorem dropBytes_length_append (chars rest : List Char) :
    dropBytes (chars.flatMap String.utf8EncodeChar).length (chars ++ rest) = some rest := by
  induction chars with
  | nil => exact dropBytes_zero rest
  | cons char chars ih =>
      obtain ⟨size, hsize⟩ := Nat.exists_eq_succ_of_ne_zero (Nat.ne_of_gt char.utf8Size_pos)
      rw [List.flatMap_cons, List.length_append, String.length_utf8EncodeChar, hsize,
        Nat.succ_add, List.cons_append, dropBytes, hsize, if_pos (by omega)]
      have hrest : size + (chars.flatMap String.utf8EncodeChar).length + 1 - (size + 1) =
          (chars.flatMap String.utf8EncodeChar).length := by omega
      rw [Nat.succ_eq_add_one, hrest, ih]

/-- A text is found again behind the bytes of what was put before it. -/
theorem sliceFrom_append (text rest : String) :
    sliceFrom (text ++ rest) text.utf8ByteSize = some rest := by
  rw [sliceFrom, ← length_asBytes, asBytes, String.toList_append, dropBytes_length_append,
    Option.map_some, String.ofList_toList]

/-- Only characters of one byte have a byte below 128. -/
theorem utf8Size_of_mem_utf8EncodeChar {char : Char} {byte : UInt8} (hlow : byte.toNat < 128)
    (h : byte ∈ String.utf8EncodeChar char) : char.utf8Size = 1 := by
  have hmark : ∀ a b : Nat, 128 ≤ b → b < 256 → a + b < 256 →
      byte ≠ UInt8.ofNat (a + b) := by
    rintro a b hb hb' hsum rfl
    rw [UInt8.toNat_ofNat', Nat.mod_eq_of_lt hsum] at hlow
    omega
  rw [← String.length_utf8EncodeChar]
  by_cases hsize : char.val.toNat ≤ 0x7f
  · rw [String.utf8EncodeChar, if_pos hsize]
    rfl
  · exfalso
    simp only [String.utf8EncodeChar, if_neg hsize] at h
    split at h
    · simp only [List.mem_cons, List.not_mem_nil, or_false] at h
      rcases h with h | h <;> exact hmark _ _ (by decide) (by decide) (by omega) h
    · split at h
      · simp only [List.mem_cons, List.not_mem_nil, or_false] at h
        rcases h with h | h | h <;> exact hmark _ _ (by decide) (by decide) (by omega) h
      · simp only [List.mem_cons, List.not_mem_nil, or_false] at h
        rcases h with h | h | h | h <;> exact hmark _ _ (by decide) (by decide) (by omega) h

theorem exists_dropBytes_succ {n : Nat} {chars : List Char} {byte : UInt8} (hlow : byte.toNat < 128)
    (h : (chars.flatMap String.utf8EncodeChar)[n]? = some byte) :
    ∃ rest, dropBytes (n + 1) chars = some rest := by
  induction chars generalizing n with
  | nil => simp at h
  | cons char chars ih =>
      rw [List.flatMap_cons, List.getElem?_append] at h
      rw [dropBytes]
      rw [String.length_utf8EncodeChar] at h
      split at h
      · rename_i hn
        have hsize := utf8Size_of_mem_utf8EncodeChar hlow (List.mem_of_getElem? h)
        obtain rfl : n = 0 := by omega
        exact ⟨chars, by rw [hsize, if_pos (Nat.le_refl _), dropBytes_zero]⟩
      · rename_i hn
        rw [if_pos (by omega), show n + 1 - char.utf8Size = n - char.utf8Size + 1 by omega]
        exact ih h

/-- Behind a byte below 128 a text can be cut. -/
theorem exists_sliceFrom_succ {n : Nat} {byte : UInt8} (hlow : byte.toNat < 128)
    (h : (asBytes text)[n]? = some byte) : ∃ rest, sliceFrom text (n + 1) = some rest := by
  obtain ⟨chars, hchars⟩ := exists_dropBytes_succ hlow h
  exact ⟨String.ofList chars, by rw [sliceFrom, hchars]; rfl⟩

end AxiomArb.Library

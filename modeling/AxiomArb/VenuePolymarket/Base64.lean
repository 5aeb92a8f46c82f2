import AxiomArb.Library.Chunks
import AxiomArb.Library.Fallible
import AxiomArb.Library.Slices
import Mathlib.Tactic.IntervalCases

/-!
# Secrets in base64

The secret that requests are signed with is given in base64, in either alphabet, with or without
its padding, and possibly broken by whitespace.  It is decoded exactly, and nothing else is taken
for one (`decodeBase64_exact`).
-/

namespace AxiomArb.VenuePolymarket

open Library

/-! ## Encoding -/

def TABLE : List UInt8 :=
  "ABCDEFGHIJKLMNOPQRSTUVWXYZabcdefghijklmnopqrstuvwxyz0123456789+/".toList.map Char.toUInt8

theorem length_TABLE : TABLE.length = 64 := by decide

def PADDING : UInt8 := '='.toUInt8

/-- The last six bits of a word. -/
def sextet (n : UInt32) : Fin TABLE.length :=
  ⟨(n &&& 0x3f).toNat, by
    rw [UInt32.toNat_and, length_TABLE]
    exact Nat.lt_of_le_of_lt Nat.and_le_right (by decide)⟩

def symbolAt (n : UInt32) : UInt8 := TABLE.get (sextet n)

def ofBytes (b0 b1 b2 : UInt8) : UInt32 :=
  (b0.toUInt32 <<< 16) ||| (b1.toUInt32 <<< 8) ||| b2.toUInt32

/-- The symbols of up to three bytes; no chunk is empty. -/
def encodeChunk : List UInt8 → List UInt8
  | [] => []
  | b0 :: following =>
      let b1 := following[0]?.getD 0
      let b2 := following[1]?.getD 0
      let n := ofBytes b0 b1 b2
      [symbolAt (n >>> 18), symbolAt (n >>> 12),
        if 0 < following.length then symbolAt (n >>> 6) else PADDING,
        if 1 < following.length then symbolAt n else PADDING]

def encodeBytes (bytes : List UInt8) : List UInt8 := (chunks 3 bytes).flatMap encodeChunk

def base64Standard (bytes : List UInt8) : String :=
  String.ofList ((encodeBytes bytes).map Char.ofUInt8)

def base64Urlsafe (bytes : List UInt8) : String :=
  let standard := base64Standard bytes
  (standard.map fun char ↦ if char = '+' then '-' else char).map fun char ↦
    if char = '/' then '_' else char

/-! ## Decoding -/

/-- Why there is nothing decoded: an error is returned, or an index is out of range. -/
inductive DecodeHalt where
  | invalid (reason : String)
  | outOfRange (index : Nat)
deriving DecidableEq, Repr

def isAsciiWhitespace (byte : UInt8) : Bool :=
  byte = 0x20 || byte = 0x09 || byte = 0x0a || byte = 0x0c || byte = 0x0d

def standardAlphabet (byte : UInt8) : UInt8 :=
  if byte = '-'.toUInt8 then '+'.toUInt8 else if byte = '_'.toUInt8 then '/'.toUInt8 else byte

def decodeBase64Char (byte : UInt8) : Option UInt8 :=
  if 'A'.toUInt8 ≤ byte ∧ byte ≤ 'Z'.toUInt8 then some (byte - 'A'.toUInt8)
  else if 'a'.toUInt8 ≤ byte ∧ byte ≤ 'z'.toUInt8 then some (byte - 'a'.toUInt8 + 26)
  else if '0'.toUInt8 ≤ byte ∧ byte ≤ '9'.toUInt8 then some (byte - '0'.toUInt8 + 52)
  else if byte = '+'.toUInt8 then some 62
  else if byte = '/'.toUInt8 then some 63
  else none

/-- What was read of a chunk. -/
structure ChunkProgress where
  values : Vector UInt8 4
  seenPadding : Bool

def ChunkProgress.start : ChunkProgress where
  values := Vector.replicate 4 0
  seenPadding := false

def ChunkProgress.read (progress : ChunkProgress) (entry : UInt8 × Nat) :
    Except DecodeHalt ChunkProgress :=
  let (byte, index) := entry
  if byte = PADDING then
    if index < 2 then .error (.invalid "invalid base64 padding")
    else .ok { progress with seenPadding := true }
  else if progress.seenPadding then .error (.invalid "invalid base64 padding")
  else
    match decodeBase64Char byte with
    | none =>
        let char := Char.ofUInt8 byte
        .error (.invalid s!"invalid base64 character: {char}")
    | some value =>
        if h : index < 4 then .ok { progress with values := progress.values.set index value }
        else .error (.outOfRange index)

def byteAt (chunk : List UInt8) (index : Nat) : Except DecodeHalt UInt8 :=
  match chunk[index]? with
  | some byte => .ok byte
  | none => .error (.outOfRange index)

def ofSextets (v0 v1 v2 v3 : UInt8) : UInt32 :=
  (v0.toUInt32 <<< 18) ||| (v1.toUInt32 <<< 12) ||| (v2.toUInt32 <<< 6) ||| v3.toUInt32

/-- Only the last chunk may be padded. -/
def decodeChunk (isLast : Bool) (chunk : List UInt8) : Except DecodeHalt (List UInt8) := do
  let progress ← chunk.zipIdx.foldlM ChunkProgress.read ChunkProgress.start
  if progress.seenPadding && !isLast then throw (.invalid "invalid base64 padding")
  let values := progress.values
  let word := ofSextets values[0] values[1] values[2] values[3]
  let third ← byteAt chunk 2
  let fourth ← byteAt chunk 3
  return (word >>> 16).toUInt8 :: ((if third = PADDING then [] else [(word >>> 8).toUInt8]) ++
    if fourth = PADDING then [] else [word.toUInt8])

def decodeChunks (totalChunks : Nat) : Nat → List (List UInt8) → Except DecodeHalt (List UInt8)
  | _, [] => .ok []
  | chunkIndex, chunk :: rest => do
      let bytes ← decodeChunk (chunkIndex + 1 = totalChunks) chunk
      let more ← decodeChunks totalChunks (chunkIndex + 1) rest
      return bytes ++ more

def decodeBase64 (input : List UInt8) : Except DecodeHalt (List UInt8) := do
  let filtered := (input.filter (!isAsciiWhitespace ·)).map standardAlphabet
  if filtered.isEmpty then throw (.invalid "invalid base64 length")
  let filtered ← match filtered.length % 4 with
    | 0 => pure filtered
    | 2 => pure (filtered ++ [PADDING, PADDING])
    | 3 => pure (filtered ++ [PADDING])
    | _ => throw (.invalid "invalid base64 length")
  let totalChunks := filtered.length / 4
  decodeChunks totalChunks 0 (chunks 4 filtered)

/-! ## Symbols -/

section Symbols

variable {n : UInt32} {byte : UInt8}

theorem val_sextet (n : UInt32) : (sextet n).val = n.toNat % 64 := by
  show (n &&& 0x3f).toNat = _
  rw [UInt32.toNat_and]
  exact Nat.and_two_pow_sub_one_eq_mod _ 6

theorem decodeBase64Char_get : ∀ i : Fin TABLE.length,
    decodeBase64Char (TABLE.get i) = some (UInt8.ofNat i) := by
  decide

theorem decodeBase64Char_symbolAt (n : UInt32) :
    decodeBase64Char (symbolAt n) = some (UInt8.ofNat (n.toNat % 64)) := by
  rw [symbolAt, decodeBase64Char_get, val_sextet]

theorem mem_TABLE_of_isSome :
    ∀ n < 256, (decodeBase64Char (UInt8.ofNat n)).isSome → UInt8.ofNat n ∈ TABLE := by
  decide +kernel

/-- Exactly the symbols of the table stand for something. -/
theorem isSome_decodeBase64Char_iff : (decodeBase64Char byte).isSome ↔ byte ∈ TABLE := by
  constructor
  · have h := mem_TABLE_of_isSome byte.toNat byte.toNat_lt
    rwa [UInt8.ofNat_toNat] at h
  · intro h
    obtain ⟨i, rfl⟩ := List.mem_iff_get.mp h
    rw [decodeBase64Char_get]
    rfl

theorem PADDING_notMem_TABLE : PADDING ∉ TABLE := by decide

/-! ## Words -/

/-- Three bytes, one after the other. -/
theorem toNat_ofBytes (b0 b1 b2 : UInt8) :
    (ofBytes b0 b1 b2).toNat = 2 ^ 16 * b0.toNat + (2 ^ 8 * b1.toNat + b2.toNat) := by
  have h0 := b0.toNat_lt
  have h1 := b1.toNat_lt
  have h2 := b2.toNat_lt
  have hlow : 2 ^ 8 * b1.toNat ||| b2.toNat = 2 ^ 8 * b1.toNat + b2.toNat :=
    (Nat.two_pow_add_eq_or_of_lt h2 _).symm
  rw [ofBytes, UInt32.toNat_or, UInt32.toNat_or, UInt32.toNat_shiftLeft, UInt32.toNat_shiftLeft,
    UInt8.toNat_toUInt32, UInt8.toNat_toUInt32, UInt8.toNat_toUInt32, Nat.or_assoc]
  change (b0.toNat <<< 16 % 2 ^ 32) ||| ((b1.toNat <<< 8 % 2 ^ 32) ||| b2.toNat) = _
  rw [Nat.shiftLeft_eq, Nat.shiftLeft_eq, Nat.mod_eq_of_lt (by omega), Nat.mod_eq_of_lt (by omega),
    Nat.mul_comm _ (2 ^ 16), Nat.mul_comm _ (2 ^ 8), hlow,
    ← Nat.two_pow_add_eq_or_of_lt (by omega)]

/-- Four sextets, one after the other. -/
theorem toNat_ofSextets {v0 v1 v2 v3 : Nat} (h0 : v0 < 64) (h1 : v1 < 64) (h2 : v2 < 64)
    (h3 : v3 < 64) :
    (ofSextets (UInt8.ofNat v0) (UInt8.ofNat v1) (UInt8.ofNat v2) (UInt8.ofNat v3)).toNat =
      2 ^ 18 * v0 + (2 ^ 12 * v1 + (2 ^ 6 * v2 + v3)) := by
  have hbyte : ∀ v < 64, (UInt8.ofNat v).toUInt32.toNat = v := by
    intro v hv
    rw [UInt8.toNat_toUInt32, UInt8.toNat_ofNat', Nat.mod_eq_of_lt (by omega)]
  have hlast : 2 ^ 6 * v2 ||| v3 = 2 ^ 6 * v2 + v3 := (Nat.two_pow_add_eq_or_of_lt h3 _).symm
  have hlow : 2 ^ 12 * v1 ||| (2 ^ 6 * v2 + v3) = 2 ^ 12 * v1 + (2 ^ 6 * v2 + v3) :=
    (Nat.two_pow_add_eq_or_of_lt (by omega) _).symm
  rw [ofSextets, UInt32.toNat_or, UInt32.toNat_or, UInt32.toNat_or, UInt32.toNat_shiftLeft,
    UInt32.toNat_shiftLeft, UInt32.toNat_shiftLeft, hbyte _ h0, hbyte _ h1, hbyte _ h2, hbyte _ h3,
    Nat.or_assoc, Nat.or_assoc]
  change (v0 <<< 18 % 2 ^ 32) ||| ((v1 <<< 12 % 2 ^ 32) ||| ((v2 <<< 6 % 2 ^ 32) ||| v3)) = _
  rw [Nat.shiftLeft_eq, Nat.shiftLeft_eq, Nat.shiftLeft_eq, Nat.mod_eq_of_lt (by omega),
    Nat.mod_eq_of_lt (by omega), Nat.mod_eq_of_lt (by omega), Nat.mul_comm _ (2 ^ 18),
    Nat.mul_comm _ (2 ^ 12), Nat.mul_comm _ (2 ^ 6), hlast, hlow,
    ← Nat.two_pow_add_eq_or_of_lt (by omega)]

end Symbols

/-! ## One chunk -/

section Chunk

variable {progress : ChunkProgress} {isLast : Bool} {c0 c1 c2 c3 v v0 v1 v2 v3 : UInt8} {index : Nat}

theorem read_padding (h : 2 ≤ index) :
    progress.read (PADDING, index) = .ok { progress with seenPadding := true } := by
  rw [ChunkProgress.read, if_pos rfl, if_neg (Nat.not_lt.mpr h)]

theorem read_symbol (hsymbol : decodeBase64Char c0 = some v) (hseen : progress.seenPadding = false)
    (h : index < 4) :
    progress.read (c0, index) = .ok { progress with values := progress.values.set index v } := by
  have hpadding : c0 ≠ PADDING := by
    rintro rfl
    cases hsymbol
  rw [ChunkProgress.read, if_neg hpadding, hseen, if_neg Bool.false_ne_true, hsymbol]
  exact dif_pos h

/-- What is neither a symbol nor padding in its place is an error. -/
theorem read_eq_error (hsymbol : c0 ∉ TABLE) (hpadding : c0 = PADDING → index < 2) :
    ∃ reason, progress.read (c0, index) = .error (.invalid reason) := by
  rw [ChunkProgress.read]
  by_cases h : c0 = PADDING
  · exact ⟨_, by rw [if_pos h, if_pos (hpadding h)]⟩
  · rw [if_neg h]
    rw [← isSome_decodeBase64Char_iff, Bool.not_eq_true, Option.isSome_eq_false_iff,
      Option.isNone_iff_eq_none] at hsymbol
    split
    · exact ⟨_, rfl⟩
    · rw [hsymbol]
      exact ⟨_, rfl⟩

/-- Nothing but padding follows padding. -/
theorem read_eq_error_of_seen (hpadding : c0 ≠ PADDING) :
    ∃ reason, ChunkProgress.read { progress with seenPadding := true } (c0, index) =
      .error (.invalid reason) :=
  ⟨_, by rw [ChunkProgress.read, if_neg hpadding]; rfl⟩

theorem decodeChunk_four :
    decodeChunk isLast [c0, c1, c2, c3] = (do
      let progress ← ChunkProgress.start.read (c0, 0)
      let progress ← progress.read (c1, 1)
      let progress ← progress.read (c2, 2)
      let progress ← progress.read (c3, 3)
      if progress.seenPadding && !isLast then throw (.invalid "invalid base64 padding")
      let values := progress.values
      let word := ofSextets values[0] values[1] values[2] values[3]
      return (word >>> 16).toUInt8 :: ((if c2 = PADDING then [] else [(word >>> 8).toUInt8]) ++
        if c3 = PADDING then [] else [word.toUInt8])) := by
  simp only [decodeChunk, List.zipIdx_cons, List.zipIdx_nil, List.foldlM_cons, List.foldlM_nil,
    bind_assoc, pure_bind, Nat.zero_add, Nat.reduceAdd]
  rfl

section Values

variable (h0 : decodeBase64Char c0 = some v0) (h1 : decodeBase64Char c1 = some v1)

include h0 h1

theorem decodeChunk_symbols (h2 : decodeBase64Char c2 = some v2) (h3 : decodeBase64Char c3 = some v3) :
    decodeChunk isLast [c0, c1, c2, c3] =
      .ok [(ofSextets v0 v1 v2 v3 >>> 16).toUInt8, (ofSextets v0 v1 v2 v3 >>> 8).toUInt8,
        (ofSextets v0 v1 v2 v3).toUInt8] := by
  have hne : ∀ {c v}, decodeBase64Char c = some v → c ≠ PADDING := by
    rintro c v h rfl
    cases h
  rw [decodeChunk_four, read_symbol h0 rfl (by decide)]
  simp only [bind, Except.bind]
  rw [read_symbol h1 rfl (by decide)]
  simp only
  rw [read_symbol h2 rfl (by decide)]
  simp only
  rw [read_symbol h3 rfl (by decide)]
  simp [ChunkProgress.start, hne h2, hne h3, pure, Except.pure]

theorem decodeChunk_threeSymbols (h2 : decodeBase64Char c2 = some v2) :
    decodeChunk isLast [c0, c1, c2, PADDING] =
      if isLast then
        .ok [(ofSextets v0 v1 v2 0 >>> 16).toUInt8, (ofSextets v0 v1 v2 0 >>> 8).toUInt8]
      else .error (.invalid "invalid base64 padding") := by
  have hne : c2 ≠ PADDING := by
    rintro rfl
    cases h2
  rw [decodeChunk_four, read_symbol h0 rfl (by decide)]
  simp only [bind, Except.bind]
  rw [read_symbol h1 rfl (by decide)]
  simp only
  rw [read_symbol h2 rfl (by decide)]
  simp only
  rw [read_padding (by decide)]
  cases isLast with
  | true => simp [ChunkProgress.start, hne, pure, Except.pure]
  | false => rfl

theorem decodeChunk_twoSymbols :
    decodeChunk isLast [c0, c1, PADDING, PADDING] =
      if isLast then .ok [(ofSextets v0 v1 0 0 >>> 16).toUInt8]
      else .error (.invalid "invalid base64 padding") := by
  rw [decodeChunk_four, read_symbol h0 rfl (by decide)]
  simp only [bind, Except.bind]
  rw [read_symbol h1 rfl (by decide)]
  simp only
  rw [read_padding (by decide)]
  simp only
  rw [read_padding (by decide)]
  cases isLast with
  | true => simp [ChunkProgress.start, pure, Except.pure]
  | false => rfl

end Values

/-- Symbols, and in the last chunk up to two of padding behind them. -/
def Closed (isLast : Bool) (items : List UInt8) : Prop :=
  ∃ symbols padding, items = symbols ++ List.replicate padding PADDING ∧
    (∀ c ∈ symbols, c ∈ TABLE) ∧ padding ≤ 2 ∧ (0 < padding → isLast)

theorem closed_four_iff : Closed isLast [c0, c1, c2, c3] ↔ c0 ∈ TABLE ∧ c1 ∈ TABLE ∧
    (c2 ∈ TABLE ∧ c3 ∈ TABLE ∨ isLast ∧ c3 = PADDING ∧ (c2 ∈ TABLE ∨ c2 = PADDING)) := by
  constructor
  · rintro ⟨symbols, padding, hitems, hsymbols, hle, hlast⟩
    have hlength : symbols.length + padding = 4 := by
      have h := congrArg List.length hitems
      rw [List.length_append, List.length_replicate] at h
      exact h.symm
    interval_cases padding
    · rw [List.replicate_zero, List.append_nil] at hitems
      subst hitems
      simp only [List.forall_mem_cons] at hsymbols
      exact ⟨hsymbols.1, hsymbols.2.1, .inl ⟨hsymbols.2.2.1, hsymbols.2.2.2.1⟩⟩
    · obtain ⟨s0, s1, s2, rfl⟩ := List.length_eq_three.mp (by omega : symbols.length = 3)
      obtain ⟨rfl, rfl, rfl, rfl⟩ : c0 = s0 ∧ c1 = s1 ∧ c2 = s2 ∧ c3 = PADDING := by
        simpa using hitems
      simp only [List.forall_mem_cons] at hsymbols
      exact ⟨hsymbols.1, hsymbols.2.1, .inr ⟨hlast Nat.one_pos, rfl, .inl hsymbols.2.2.1⟩⟩
    · obtain ⟨s0, s1, rfl⟩ := List.length_eq_two.mp (by omega : symbols.length = 2)
      obtain ⟨rfl, rfl, rfl, rfl⟩ : c0 = s0 ∧ c1 = s1 ∧ c2 = PADDING ∧ c3 = PADDING := by
        simpa using hitems
      simp only [List.forall_mem_cons] at hsymbols
      exact ⟨hsymbols.1, hsymbols.2.1, .inr ⟨hlast Nat.two_pos, rfl, .inr rfl⟩⟩
  · rintro ⟨h0, h1, ⟨h2, h3⟩ | ⟨hlast, rfl, h2 | rfl⟩⟩
    · exact ⟨[c0, c1, c2, c3], 0, rfl, by simp [h0, h1, h2, h3], by decide, (nomatch ·)⟩
    · exact ⟨[c0, c1, c2], 1, rfl, by simp [h0, h1, h2], by decide, fun _ ↦ hlast⟩
    · exact ⟨[c0, c1], 2, rfl, by simp [h0, h1], by decide, fun _ ↦ hlast⟩

/-- Something is decoded exactly if the condition holds, and else an error is returned. -/
def Decides (condition : Prop) (result : Except DecodeHalt (List UInt8)) : Prop :=
  condition ∧ (∃ bytes, result = .ok bytes) ∨ ¬condition ∧ ∃ reason, result = .error (.invalid reason)

theorem exists_value {c : UInt8} (h : c ∈ TABLE) : ∃ v, decodeBase64Char c = some v :=
  Option.isSome_iff_exists.mp (isSome_decodeBase64Char_iff.mpr h)

/-- Symbols are read one after the other. -/
theorem exists_read_symbols (symbols : List UInt8) (hsymbols : ∀ c ∈ symbols, c ∈ TABLE) (index : Nat)
    (h : index + symbols.length ≤ 4) (progress : ChunkProgress) (hseen : progress.seenPadding = false) :
    ∃ progress', (symbols.zipIdx index).foldlM ChunkProgress.read progress = .ok progress' ∧
      progress'.seenPadding = false := by
  induction symbols generalizing index progress with
  | nil => exact ⟨progress, rfl, hseen⟩
  | cons c symbols ih =>
      rw [List.forall_mem_cons] at hsymbols
      rw [List.length_cons] at h
      obtain ⟨v, hv⟩ := exists_value hsymbols.1
      have hindex : index < 4 := by omega
      obtain ⟨progress', hread, hseen'⟩ := ih hsymbols.2 (index + 1) (by omega)
        { progress with values := progress.values.set index v } hseen
      refine ⟨progress', ?_, hseen'⟩
      rw [List.zipIdx_cons, List.foldlM_cons, read_symbol hv hseen hindex]
      exact hread

/-- The first byte that cannot be read ends it. -/
theorem decodeChunk_eq_error {before after : List UInt8} {byte : UInt8} {halt : DecodeHalt}
    (hbefore : before.zipIdx.foldlM ChunkProgress.read .start = .ok progress)
    (hread : progress.read (byte, before.length) = .error halt) :
    decodeChunk isLast (before ++ byte :: after) = .error halt := by
  rw [decodeChunk, List.zipIdx_append, List.foldlM_append, hbefore, Nat.zero_add, List.zipIdx_cons]
  simp only [bind, Except.bind, List.foldlM_cons, hread]

/-- After symbols, a byte that is neither a symbol nor padding in its place. -/
theorem decodeChunk_eq_error_of_symbols (symbols : List UInt8) {after : List UInt8} {byte : UInt8}
    (hsymbols : ∀ c ∈ symbols, c ∈ TABLE) (hlength : symbols.length ≤ 4) (hbyte : byte ∉ TABLE)
    (hpadding : byte = PADDING → symbols.length < 2) :
    ∃ reason, decodeChunk isLast (symbols ++ byte :: after) = .error (.invalid reason) := by
  obtain ⟨progress, hbefore, -⟩ := exists_read_symbols symbols hsymbols 0 (by omega) .start rfl
  obtain ⟨reason, hread⟩ : ∃ reason, progress.read (byte, symbols.length) = .error (.invalid reason) :=
    read_eq_error hbyte hpadding
  exact ⟨reason, decodeChunk_eq_error hbefore hread⟩

theorem decodeChunk_decides :
    Decides (Closed isLast [c0, c1, c2, c3]) (decodeChunk isLast [c0, c1, c2, c3]) := by
  rw [Decides, closed_four_iff]
  by_cases h0 : c0 ∈ TABLE
  swap
  · exact .inr ⟨fun h ↦ h0 h.1, decodeChunk_eq_error_of_symbols []
      (by simp) (by simp) h0 (by simp)⟩
  by_cases h1 : c1 ∈ TABLE
  swap
  · exact .inr ⟨fun h ↦ h1 h.2.1, decodeChunk_eq_error_of_symbols [c0]
      (by simp [h0]) (by simp) h1 (by simp)⟩
  obtain ⟨v0, hv0⟩ := exists_value h0
  obtain ⟨v1, hv1⟩ := exists_value h1
  by_cases h2 : c2 ∈ TABLE
  · obtain ⟨v2, hv2⟩ := exists_value h2
    by_cases h3 : c3 ∈ TABLE
    · obtain ⟨v3, hv3⟩ := exists_value h3
      exact .inl ⟨⟨h0, h1, .inl ⟨h2, h3⟩⟩, _, decodeChunk_symbols hv0 hv1 hv2 hv3⟩
    by_cases hpadding : c3 = PADDING
    · subst hpadding
      cases isLast with
      | true => exact .inl ⟨⟨h0, h1, .inr ⟨rfl, rfl, .inl h2⟩⟩, _, decodeChunk_threeSymbols hv0 hv1 hv2⟩
      | false => exact .inr ⟨by simp [h3], _, decodeChunk_threeSymbols hv0 hv1 hv2⟩
    · exact .inr ⟨by simp [h3, hpadding], decodeChunk_eq_error_of_symbols [c0, c1, c2]
        (by simp [h0, h1, h2]) (by simp) h3 fun h ↦ absurd h hpadding⟩
  by_cases hpadding : c2 = PADDING
  · subst hpadding
    by_cases h3 : c3 = PADDING
    · subst h3
      cases isLast with
      | true => exact .inl ⟨⟨h0, h1, .inr ⟨rfl, rfl, .inr rfl⟩⟩, _, decodeChunk_twoSymbols hv0 hv1⟩
      | false => exact .inr ⟨by simp [h2], _, decodeChunk_twoSymbols hv0 hv1⟩
    · -- something follows the padding
      obtain ⟨progress, hbefore, -⟩ := exists_read_symbols [c0, c1] (by simp [h0, h1]) 0 (by simp)
        .start rfl
      have hpadded : [c0, c1, PADDING].zipIdx.foldlM ChunkProgress.read .start =
          .ok { progress with seenPadding := true } := by
        have hsplit : [c0, c1, PADDING].zipIdx = [c0, c1].zipIdx ++ [(PADDING, 2)] := rfl
        rw [hsplit, List.foldlM_append, hbefore]
        exact read_padding le_rfl
      obtain ⟨reason, hread⟩ : ∃ reason, ChunkProgress.read { progress with seenPadding := true }
          (c3, 3) = .error (.invalid reason) := read_eq_error_of_seen h3
      exact .inr ⟨by simp [h2, h3], reason, decodeChunk_eq_error hpadded hread⟩
  · exact .inr ⟨by simp [h2, hpadding], decodeChunk_eq_error_of_symbols [c0, c1]
      (by simp [h0, h1]) (by simp) h2 fun h ↦ absurd h hpadding⟩

end Chunk

/-! ## All chunks -/

section Chunks

variable {first rest items : List UInt8} {condition condition' : Prop}
  {result : Except DecodeHalt (List UInt8)}

theorem Decides.congr (h : Decides condition result) (hiff : condition ↔ condition') :
    Decides condition' result := by
  rwa [Decides, ← hiff]

theorem Decides.append {more : Except DecodeHalt (List UInt8)} (h : Decides condition result)
    (h' : Decides condition' more) :
    Decides (condition ∧ condition') (do
      let bytes ← result
      let more ← more
      return bytes ++ more) := by
  rcases h with ⟨hcondition, bytes, rfl⟩ | ⟨hcondition, reason, rfl⟩
  · rcases h' with ⟨hcondition', bytes', rfl⟩ | ⟨hcondition', reason, rfl⟩
    · exact .inl ⟨⟨hcondition, hcondition'⟩, _, rfl⟩
    · exact .inr ⟨fun h ↦ hcondition' h.2, reason, rfl⟩
  · exact .inr ⟨fun h ↦ hcondition h.1, reason, rfl⟩

theorem closed_false_iff : Closed false items ↔ ∀ c ∈ items, c ∈ TABLE := by
  constructor
  · rintro ⟨symbols, padding, rfl, hsymbols, -, hlast⟩
    obtain rfl : padding = 0 := by
      by_contra hne
      cases hlast (Nat.pos_of_ne_zero hne)
    rwa [List.replicate_zero, List.append_nil]
  · intro h
    exact ⟨items, 0, (List.append_nil _).symm, h, Nat.zero_le _, (nomatch ·)⟩

/-- The padding is at the end, and not longer than what is there. -/
theorem closed_append_iff (hrest : 2 < rest.length) :
    Closed true (first ++ rest) ↔ Closed false first ∧ Closed true rest := by
  rw [closed_false_iff]
  constructor
  · rintro ⟨symbols, padding, hitems, hsymbols, hle, -⟩
    rcases List.append_eq_append_iff.mp hitems with ⟨middle, rfl, hpadded⟩ | ⟨middle, -, hpadded⟩
    · rw [List.forall_mem_append] at hsymbols
      exact ⟨hsymbols.1, middle, padding, hpadded, hsymbols.2, hle, fun _ ↦ rfl⟩
    · have hlength := congrArg List.length hpadded
      rw [List.length_replicate, List.length_append] at hlength
      omega
  · rintro ⟨hfirst, symbols, padding, rfl, hsymbols, hle, hlast⟩
    exact ⟨first ++ symbols, padding, (List.append_assoc ..).symm,
      List.forall_mem_append.mpr ⟨hfirst, hsymbols⟩, hle, hlast⟩

/-- Chunk by chunk, what is closed is decoded. -/
theorem decodeChunks_decides (items : List UInt8) (hlength : items.length % 4 = 0)
    (chunkIndex totalChunks : Nat) (htotal : chunkIndex + items.length / 4 = totalChunks) :
    Decides (Closed true items) (decodeChunks totalChunks chunkIndex (chunks 4 items)) := by
  have hfour : 0 < 4 := by decide
  induction items using chunks_induction hfour generalizing chunkIndex with
  | nil =>
      rw [chunks_nil hfour]
      exact .inl ⟨⟨[], 0, rfl, by simp, by decide, fun _ ↦ rfl⟩, [], rfl⟩
  | last items hne hshort =>
      have hpos := List.length_pos_iff.mpr hne
      omega
  | append first rest hfirst ih =>
      rw [List.length_append, hfirst] at hlength htotal
      have hrest := ih (by omega) (chunkIndex + 1) (by omega)
      obtain ⟨c0, c1, c2, c3, rfl⟩ := List.length_eq_four.mp hfirst
      rw [chunks_append hfour hfirst, decodeChunks]
      refine (decodeChunk_decides.append hrest).congr ?_
      by_cases hempty : rest = []
      · subst hempty
        have hlast : chunkIndex + 1 = totalChunks := by
          rw [← htotal]
          rfl
        have hnil : Closed true [] := ⟨[], 0, rfl, by simp, by decide, fun _ ↦ rfl⟩
        rw [List.append_nil, decide_eq_true hlast]
        exact and_iff_left hnil
      · have hpos := List.length_pos_iff.mpr hempty
        have hmore : chunkIndex + 1 ≠ totalChunks := by omega
        rw [decide_eq_false hmore, closed_append_iff (by omega)]

end Chunks

/-! ## What is accepted -/

/-- What is left of an input without its whitespace, in the standard alphabet. -/
def normalized (input : List UInt8) : List UInt8 :=
  (input.filter (!isAsciiWhitespace ·)).map standardAlphabet

/-- Symbols, not one more than fills groups of four, and behind them some or all of the padding
that fills the last group. -/
def Accepted (text : List UInt8) : Prop :=
  ∃ symbols padding, text = symbols ++ List.replicate padding PADDING ∧ symbols ≠ [] ∧
    (∀ c ∈ symbols, c ∈ TABLE) ∧ symbols.length % 4 ≠ 1 ∧
      padding ≤ (4 - symbols.length % 4) % 4

section Accepted

variable {input text : List UInt8} {missing : Nat}

/-- As much padding is put behind the text as its last group misses. -/
theorem decodeBase64_eq (htext : normalized input = text) (hne : text ≠ []) (hmissing : missing ≤ 2)
    (hlength : (text.length + missing) % 4 = 0) :
    decodeBase64 input = decodeChunks ((text ++ List.replicate missing PADDING).length / 4) 0
      (chunks 4 (text ++ List.replicate missing PADDING)) := by
  rw [normalized] at htext
  have hempty : text.isEmpty = false := List.isEmpty_eq_false_iff.mpr hne
  simp only [decodeBase64, htext, hempty, Bool.false_eq_true, if_false]
  interval_cases missing
  · have hmod : text.length % 4 = 0 := by omega
    rw [hmod, List.replicate_zero, List.append_nil]
    rfl
  · have hmod : text.length % 4 = 3 := by omega
    rw [hmod]
    rfl
  · have hmod : text.length % 4 = 2 := by omega
    rw [hmod]
    rfl

theorem decodeBase64_eq_error (htext : normalized input = text) (h : text = [] ∨ text.length % 4 = 1) :
    decodeBase64 input = .error (.invalid "invalid base64 length") := by
  rw [normalized] at htext
  rw [decodeBase64]
  simp only [htext]
  rcases h with rfl | h
  · rfl
  · have hempty : text.isEmpty = false := by
      rw [List.isEmpty_eq_false_iff]
      rintro rfl
      cases h
    rw [hempty, h]
    rfl

/-- The padding that a text misses does not reach into the symbols. -/
theorem exists_padding_of_append {symbols : List UInt8} {padding : Nat}
    (hsymbols : ∀ c ∈ symbols, c ∈ TABLE)
    (h : text ++ List.replicate missing PADDING = symbols ++ List.replicate padding PADDING) :
    ∃ kept, text = symbols ++ List.replicate kept PADDING ∧ kept + missing = padding := by
  have htotal := congrArg List.length h
  simp only [List.length_append, List.length_replicate] at htotal
  rcases List.append_eq_append_iff.mp h with ⟨middle, rfl, hpadded⟩ | ⟨middle, rfl, hpadded⟩
  · have hmiddle : middle = [] := by
      rw [List.eq_nil_iff_forall_not_mem]
      intro c hc
      have hsymbol := hsymbols c (List.mem_append_right _ hc)
      have hmem : c ∈ List.replicate missing PADDING := hpadded ▸ List.mem_append_left _ hc
      rw [List.eq_of_mem_replicate hmem] at hsymbol
      exact PADDING_notMem_TABLE hsymbol
    subst hmiddle
    rw [List.append_nil] at htotal
    exact ⟨0, by simp, by omega⟩
  · obtain ⟨kept, rfl⟩ : ∃ kept, middle = List.replicate kept PADDING := by
      refine ⟨middle.length, List.eq_replicate_of_mem fun c hc ↦ ?_⟩
      exact List.eq_of_mem_replicate (hpadded ▸ List.mem_append_left _ hc)
    rw [List.length_append, List.length_replicate] at htotal
    exact ⟨kept, rfl, by omega⟩

/-- Without the padding that was missing, the text is symbols and some of the padding. -/
theorem accepted_iff_closed (hne : text ≠ []) (hmissing : missing ≤ 2)
    (hlength : (text.length + missing) % 4 = 0) :
    Accepted text ↔ Closed true (text ++ List.replicate missing PADDING) := by
  constructor
  · rintro ⟨symbols, padding, rfl, hsymbols, hall, hone, hle⟩
    rw [List.length_append, List.length_replicate] at hlength
    refine ⟨symbols, padding + missing, ?_, hall, by omega, fun _ ↦ rfl⟩
    rw [List.append_assoc, List.replicate_append_replicate]
  · rintro ⟨symbols, padding, hitems, hall, hle, -⟩
    have htotal := congrArg List.length hitems
    simp only [List.length_append, List.length_replicate] at htotal
    have hpos := List.length_pos_iff.mpr hne
    have hsymbols : symbols ≠ [] := by
      rw [← List.length_pos_iff]
      omega
    obtain ⟨kept, rfl, hkept⟩ := exists_padding_of_append hall hitems
    rw [List.length_append, List.length_replicate] at hlength htotal
    exact ⟨symbols, kept, rfl, hsymbols, hall, by omega, by omega⟩

/-- Exactly the accepted texts are decoded; any other input is answered with an error. -/
theorem decodeBase64_decides (input : List UInt8) :
    Decides (Accepted (normalized input)) (decodeBase64 input) := by
  by_cases hbad : normalized input = [] ∨ (normalized input).length % 4 = 1
  · refine .inr ⟨?_, _, decodeBase64_eq_error rfl hbad⟩
    rintro ⟨symbols, padding, htext, hsymbols, -, hone, hle⟩
    rw [htext, List.append_eq_nil_iff, List.length_append, List.length_replicate] at hbad
    rcases hbad with hempty | hbad
    · exact hsymbols hempty.1
    · omega
  · obtain ⟨hne, hone⟩ := not_or.mp hbad
    obtain ⟨missing, hmissing, hlength⟩ :
        ∃ missing ≤ 2, ((normalized input).length + missing) % 4 = 0 :=
      ⟨(4 - (normalized input).length % 4) % 4, by omega, by omega⟩
    rw [decodeBase64_eq rfl hne hmissing hlength]
    refine (decodeChunks_decides _ ?_ 0 _ (Nat.zero_add _)).congr
      (accepted_iff_closed hne hmissing hlength).symm
    rw [List.length_append, List.length_replicate]
    exact hlength

end Accepted

/-! ## Round trips -/

section RoundTrip

variable {isLast : Bool} {n : UInt32} {b0 b1 b2 : UInt8} {bytes : List UInt8}

theorem toNat_shiftRight_18 (n : UInt32) : (n >>> 18).toNat = n.toNat / 2 ^ 18 := by
  rw [UInt32.toNat_shiftRight]
  exact Nat.shiftRight_eq_div_pow _ 18

theorem toNat_shiftRight_12 (n : UInt32) : (n >>> 12).toNat = n.toNat / 2 ^ 12 := by
  rw [UInt32.toNat_shiftRight]
  exact Nat.shiftRight_eq_div_pow _ 12

theorem toNat_shiftRight_6 (n : UInt32) : (n >>> 6).toNat = n.toNat / 2 ^ 6 := by
  rw [UInt32.toNat_shiftRight]
  exact Nat.shiftRight_eq_div_pow _ 6

/-- A word is put together again from its four sextets. -/
theorem toNat_ofSextets_of_lt {N : Nat} (h : N < 2 ^ 24) :
    (ofSextets (UInt8.ofNat (N / 2 ^ 18 % 64)) (UInt8.ofNat (N / 2 ^ 12 % 64))
      (UInt8.ofNat (N / 2 ^ 6 % 64)) (UInt8.ofNat (N % 64))).toNat = N := by
  rw [toNat_ofSextets (by omega) (by omega) (by omega) (by omega)]
  omega

/-- The bytes of a word, one after the other. -/
theorem toUInt8_of_toNat_eq (h : n.toNat = 2 ^ 16 * b0.toNat + (2 ^ 8 * b1.toNat + b2.toNat)) :
    (n >>> 16).toUInt8 = b0 ∧ (n >>> 8).toUInt8 = b1 ∧ n.toUInt8 = b2 := by
  have h0 := b0.toNat_lt
  have h1 := b1.toNat_lt
  have h2 := b2.toNat_lt
  have h16 : (n >>> 16).toNat = n.toNat / 2 ^ 16 := by
    rw [UInt32.toNat_shiftRight]
    exact Nat.shiftRight_eq_div_pow _ 16
  have h8 : (n >>> 8).toNat = n.toNat / 2 ^ 8 := by
    rw [UInt32.toNat_shiftRight]
    exact Nat.shiftRight_eq_div_pow _ 8
  simp only [← UInt8.toNat_inj, UInt32.toNat_toUInt8, h16, h8, h]
  omega

variable (b0 b1 b2) in
/-- The word of three bytes, from the sextets that its symbols stand for. -/
theorem ofSextets_eq_word :
    (ofSextets (UInt8.ofNat ((ofBytes b0 b1 b2 >>> 18).toNat % 64))
      (UInt8.ofNat ((ofBytes b0 b1 b2 >>> 12).toNat % 64))
      (UInt8.ofNat ((ofBytes b0 b1 b2 >>> 6).toNat % 64))
      (UInt8.ofNat ((ofBytes b0 b1 b2).toNat % 64))).toNat =
        2 ^ 16 * b0.toNat + (2 ^ 8 * b1.toNat + b2.toNat) := by
  have h0 := b0.toNat_lt
  have h1 := b1.toNat_lt
  have h2 := b2.toNat_lt
  have hword := toNat_ofBytes b0 b1 b2
  rw [toNat_shiftRight_18, toNat_shiftRight_12, toNat_shiftRight_6,
    toNat_ofSextets_of_lt (by omega), hword]

theorem decodeChunk_encodeChunk_three :
    decodeChunk isLast (encodeChunk [b0, b1, b2]) = .ok [b0, b1, b2] := by
  have hencoded : encodeChunk [b0, b1, b2] = [symbolAt (ofBytes b0 b1 b2 >>> 18),
      symbolAt (ofBytes b0 b1 b2 >>> 12), symbolAt (ofBytes b0 b1 b2 >>> 6),
      symbolAt (ofBytes b0 b1 b2)] := rfl
  obtain ⟨hb0, hb1, hb2⟩ := toUInt8_of_toNat_eq (ofSextets_eq_word b0 b1 b2)
  rw [hencoded, decodeChunk_symbols (decodeBase64Char_symbolAt _) (decodeBase64Char_symbolAt _)
    (decodeBase64Char_symbolAt _) (decodeBase64Char_symbolAt _), hb0, hb1, hb2]

theorem decodeChunk_encodeChunk_two : decodeChunk true (encodeChunk [b0, b1]) = .ok [b0, b1] := by
  have hencoded : encodeChunk [b0, b1] = [symbolAt (ofBytes b0 b1 0 >>> 18),
      symbolAt (ofBytes b0 b1 0 >>> 12), symbolAt (ofBytes b0 b1 0 >>> 6), PADDING] := rfl
  obtain ⟨hb0, hb1, -⟩ := toUInt8_of_toNat_eq (ofSextets_eq_word b0 b1 0)
  -- the last sextet is of the byte that is not there
  have hzero : UInt8.ofNat ((ofBytes b0 b1 0).toNat % 64) = 0 := by
    have h : (ofBytes b0 b1 0).toNat % 64 = 0 := by
      rw [toNat_ofBytes, UInt8.toNat_zero]
      omega
    rw [h]
    rfl
  rw [hzero] at hb0 hb1
  rw [hencoded, decodeChunk_threeSymbols (decodeBase64Char_symbolAt _) (decodeBase64Char_symbolAt _)
    (decodeBase64Char_symbolAt _), hb0, hb1]
  rfl

theorem decodeChunk_encodeChunk_one : decodeChunk true (encodeChunk [b0]) = .ok [b0] := by
  have hencoded : encodeChunk [b0] = [symbolAt (ofBytes b0 0 0 >>> 18),
      symbolAt (ofBytes b0 0 0 >>> 12), PADDING, PADDING] := rfl
  obtain ⟨hb0, -, -⟩ := toUInt8_of_toNat_eq (ofSextets_eq_word b0 0 0)
  have hword : (ofBytes b0 0 0).toNat = 2 ^ 16 * b0.toNat := by
    rw [toNat_ofBytes, UInt8.toNat_zero]
    rfl
  have hlast : UInt8.ofNat ((ofBytes b0 0 0).toNat % 64) = 0 := by
    have h : (ofBytes b0 0 0).toNat % 64 = 0 := by omega
    rw [h]
    rfl
  have hthird : UInt8.ofNat ((ofBytes b0 0 0 >>> 6).toNat % 64) = 0 := by
    have h : (ofBytes b0 0 0 >>> 6).toNat % 64 = 0 := by
      rw [toNat_shiftRight_6]
      omega
    rw [h]
    rfl
  rw [hlast, hthird] at hb0
  rw [hencoded, decodeChunk_twoSymbols (decodeBase64Char_symbolAt _) (decodeBase64Char_symbolAt _), hb0]
  rfl

/-- A chunk is encoded in four bytes. -/
theorem length_encodeChunk (hne : bytes ≠ []) : (encodeChunk bytes).length = 4 := by
  cases bytes with
  | nil => exact absurd rfl hne
  | cons b0 following => rfl

theorem ne_nil_of_mem_chunks {chunk : List UInt8} (h : chunk ∈ chunks 3 bytes) : chunk ≠ [] := by
  have hthree : 0 < 3 := by decide
  induction bytes using chunks_induction hthree with
  | nil =>
      rw [chunks_nil hthree] at h
      cases h
  | last bytes hne hshort =>
      rw [chunks_of_length_le hne hshort.le, List.mem_singleton] at h
      exact h ▸ hne
  | append first rest hfirst ih =>
      rw [chunks_append hthree hfirst, List.mem_cons] at h
      rcases h with rfl | h
      · rintro rfl
        cases hfirst
      · exact ih h

theorem chunks_encodeBytes (bytes : List UInt8) :
    chunks 4 (encodeBytes bytes) = (chunks 3 bytes).map encodeChunk :=
  chunks_flatMap (by decide) fun _ h ↦ length_encodeChunk (ne_nil_of_mem_chunks h)

theorem decodeChunks_encodeBytes (bytes : List UInt8) (chunkIndex totalChunks : Nat)
    (htotal : chunkIndex + (chunks 3 bytes).length = totalChunks) :
    decodeChunks totalChunks chunkIndex (chunks 4 (encodeBytes bytes)) = .ok bytes := by
  have hthree : 0 < 3 := by decide
  rw [chunks_encodeBytes]
  induction bytes using chunks_induction hthree generalizing chunkIndex with
  | nil =>
      rw [chunks_nil hthree]
      rfl
  | last bytes hne hshort =>
      rw [chunks_of_length_le hne hshort.le] at htotal ⊢
      have hlast : decide (chunkIndex + 1 = totalChunks) = true := decide_eq_true htotal
      have hchunk : decodeChunk true (encodeChunk bytes) = .ok bytes := by
        have hpos := List.length_pos_iff.mpr hne
        obtain h | h : bytes.length = 1 ∨ bytes.length = 2 := by omega
        · obtain ⟨b0, rfl⟩ := List.length_eq_one_iff.mp h
          exact decodeChunk_encodeChunk_one
        · obtain ⟨b0, b1, rfl⟩ := List.length_eq_two.mp h
          exact decodeChunk_encodeChunk_two
      rw [List.map_singleton, decodeChunks, hlast, hchunk]
      exact congrArg Except.ok (List.append_nil bytes)
  | append first rest hfirst ih =>
      obtain ⟨b0, b1, b2, rfl⟩ := List.length_eq_three.mp hfirst
      rw [chunks_append hthree hfirst] at htotal ⊢
      rw [List.length_cons] at htotal
      rw [List.map_cons, decodeChunks, decodeChunk_encodeChunk_three, ih _ (by omega)]
      rfl

/-- Whole groups of four. -/
theorem length_encodeBytes (bytes : List UInt8) :
    (encodeBytes bytes).length = 4 * (chunks 3 bytes).length := by
  have hlength : ∀ groups : List (List UInt8), (∀ group ∈ groups, group ≠ []) →
      (groups.flatMap encodeChunk).length = 4 * groups.length := by
    intro groups
    induction groups with
    | nil => exact fun _ ↦ rfl
    | cons group groups ih =>
        intro h
        rw [List.forall_mem_cons] at h
        rw [List.flatMap_cons, List.length_append, length_encodeChunk h.1, ih h.2, List.length_cons]
        omega
  exact hlength _ fun _ h ↦ ne_nil_of_mem_chunks h

theorem closed_encodeBytes (bytes : List UInt8) : Closed true (encodeBytes bytes) := by
  have hlength := length_encodeBytes bytes
  have hdecodes := decodeChunks_decides (encodeBytes bytes) (by omega) 0 _ (Nat.zero_add _)
  rcases hdecodes with ⟨hclosed, -⟩ | ⟨-, reason, herror⟩
  · exact hclosed
  · rw [decodeChunks_encodeBytes bytes 0 _ (by omega)] at herror
    cases herror

/-- Symbols and padding are one byte each in a text. -/
theorem mem_encodeBytes {byte : UInt8} (h : byte ∈ encodeBytes bytes) : byte ∈ PADDING :: TABLE := by
  obtain ⟨symbols, padding, heq, hsymbols, -⟩ := closed_encodeBytes bytes
  rw [heq, List.mem_append] at h
  rcases h with h | h
  · exact List.mem_cons_of_mem _ (hsymbols byte h)
  · exact List.eq_of_mem_replicate h ▸ List.mem_cons_self ..

theorem asBytes_ofList {chars : UInt8 → Char} {bytes' : UInt8 → UInt8}
    (h : ∀ byte ∈ PADDING :: TABLE, String.utf8EncodeChar (chars byte) = [bytes' byte])
    (bytes : List UInt8) :
    asBytes (String.ofList ((encodeBytes bytes).map chars)) = (encodeBytes bytes).map bytes' := by
  rw [asBytes, String.toList_ofList, List.flatMap_map, List.map_eq_flatMap]
  exact List.flatMap_congr fun byte hbyte ↦ h byte (mem_encodeBytes hbyte)

def urlsafeByte (byte : UInt8) : UInt8 :=
  if byte = '+'.toUInt8 then '-'.toUInt8 else if byte = '/'.toUInt8 then '_'.toUInt8 else byte

theorem asBytes_base64Standard (bytes : List UInt8) :
    asBytes (base64Standard bytes) = (encodeBytes bytes).map id :=
  asBytes_ofList (List.forall_iff_forall_mem.mp (by decide)) bytes

theorem asBytes_base64Urlsafe (bytes : List UInt8) :
    asBytes (base64Urlsafe bytes) = (encodeBytes bytes).map urlsafeByte := by
  have htext : base64Urlsafe bytes = String.ofList ((encodeBytes bytes).map fun byte ↦
      if (if Char.ofUInt8 byte = '+' then '-' else Char.ofUInt8 byte) = '/' then '_'
      else if Char.ofUInt8 byte = '+' then '-' else Char.ofUInt8 byte) := by
    rw [base64Urlsafe, base64Standard, String.ext_iff, String.toList_map, String.toList_map,
      String.toList_ofList, String.toList_ofList, List.map_map, List.map_map]
    rfl
  rw [htext]
  exact asBytes_ofList (List.forall_iff_forall_mem.mp (by decide)) bytes

/-- An input is a text as it was encoded but for whitespace that was put in, and for some of its
padding. -/
def Reshaped (encoded input : List UInt8) : Prop :=
  ∃ removed, input.filter (!isAsciiWhitespace ·) ++ List.replicate removed PADDING = encoded

theorem decodeBase64_of_normalized (hne : bytes ≠ []) {input : List UInt8} {removed : Nat}
    (h : normalized input ++ List.replicate removed PADDING = encodeBytes bytes) :
    decodeBase64 input = .ok bytes := by
  obtain ⟨symbols, padding, hclosed, hsymbols, hle, -⟩ := closed_encodeBytes bytes
  obtain ⟨kept, -, hkept⟩ := exists_padding_of_append hsymbols (h.trans hclosed)
  have hchunks : chunks 3 bytes ≠ [] := by
    intro hnil
    have hdecoded := decodeChunks_encodeBytes bytes 0 _ rfl
    rw [chunks_encodeBytes, hnil] at hdecoded
    exact hne (Except.ok.inj hdecoded).symm
  have hpos := List.length_pos_iff.mpr hchunks
  have hlength := length_encodeBytes bytes
  have htotal := congrArg List.length h
  rw [List.length_append, List.length_replicate] at htotal
  have htext : normalized input ≠ [] := by
    rw [← List.length_pos_iff]
    omega
  have hremoved : removed ≤ 2 := by omega
  rw [decodeBase64_eq rfl htext hremoved (by omega), h]
  exact decodeChunks_encodeBytes bytes 0 _ (by omega)

end RoundTrip

/-- **Secrets are decoded exactly.** -/
theorem decodeBase64_exact :
    (∀ bytes : List UInt8, bytes ≠ [] → ∀ encode, encode = base64Standard ∨ encode = base64Urlsafe →
      decodeBase64 (asBytes (encode bytes)) = .ok bytes ∧
        ∀ input, Reshaped (asBytes (encode bytes)) input → decodeBase64 input = .ok bytes) ∧
    (∀ input, (∃ bytes, decodeBase64 input = .ok bytes) ↔ Accepted (normalized input)) ∧
    ∀ input index, decodeBase64 input ≠ .error (.outOfRange index) := by
  refine ⟨fun bytes hne encode hencode ↦ ?_, fun input ↦ ?_, fun input index h ↦ ?_⟩
  · -- either text is the encoded bytes under a renaming that is undone, and has no whitespace
    obtain ⟨rename, hrename, hundone, hblank⟩ : ∃ rename : UInt8 → UInt8,
        asBytes (encode bytes) = (encodeBytes bytes).map rename ∧
          (∀ byte ∈ PADDING :: TABLE, standardAlphabet (rename byte) = byte) ∧
            ∀ byte ∈ PADDING :: TABLE, isAsciiWhitespace (rename byte) = false := by
      rcases hencode with rfl | rfl
      · exact ⟨id, asBytes_base64Standard bytes, List.forall_iff_forall_mem.mp (by decide),
          List.forall_iff_forall_mem.mp (by decide)⟩
      · exact ⟨urlsafeByte, asBytes_base64Urlsafe bytes, List.forall_iff_forall_mem.mp (by decide),
          List.forall_iff_forall_mem.mp (by decide)⟩
    have hreshaped : ∀ input, Reshaped (asBytes (encode bytes)) input → decodeBase64 input = .ok bytes := by
      rintro input ⟨removed, h⟩
      have hmapped := congrArg (List.map standardAlphabet) (h.trans hrename)
      have hbytes : ((encodeBytes bytes).map rename).map standardAlphabet = encodeBytes bytes := by
        rw [List.map_map]
        exact (List.map_congr_left fun byte hbyte ↦ hundone byte (mem_encodeBytes hbyte)).trans
          (List.map_id' _)
      rw [hbytes, List.map_append, List.map_replicate] at hmapped
      exact decodeBase64_of_normalized hne hmapped
    refine ⟨hreshaped _ ⟨0, ?_⟩, hreshaped⟩
    rw [List.replicate_zero, List.append_nil, List.filter_eq_self, hrename]
    intro byte hbyte
    obtain ⟨byte', hbyte', rfl⟩ := List.mem_map.mp hbyte
    rw [hblank byte' (mem_encodeBytes hbyte')]
    rfl
  · rcases decodeBase64_decides input with ⟨haccepted, hdecoded⟩ | ⟨hrejected, reason, herror⟩
    · exact iff_of_true hdecoded haccepted
    · refine iff_of_false ?_ hrejected
      rintro ⟨bytes, hdecoded⟩
      rw [herror] at hdecoded
      cases hdecoded
  · rcases decodeBase64_decides input with ⟨-, bytes, hdecoded⟩ | ⟨-, reason, herror⟩
    · rw [h] at hdecoded
      cases hdecoded
    · rw [h] at herror
      cases herror

/-- Without its padding, and broken in two. -/
theorem decodeBase64_exact_broken :
    decodeBase64 (asBytes "c2Vj cmV0LQ=\n") = .ok (asBytes "secret-") := by
  refine (decodeBase64_exact.1 (asBytes "secret-") (by decide) base64Standard (.inl rfl)).2 _ ⟨1, ?_⟩
  decide +kernel

end AxiomArb.VenuePolymarket

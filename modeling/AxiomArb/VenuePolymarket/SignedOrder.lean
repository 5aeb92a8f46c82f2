import AxiomArb.VenuePolymarket.Orders
import AxiomArb.Library.JsonText

/-!
# The order that is submitted is the one that was signed

A member is rendered from an order of the SDK: numbers in decimal or hex, addresses and the
signature in hex.  Every field but the salt crosses as a string and is read back.  The salt
crosses as a number, and is read back if it has 64 bits; and an order that may be deferred
is submitted as one that is post-only.
-/

namespace AxiomArb.VenuePolymarket

open Domain Library Execution

/-! ## Rendered members -/

def decimalText (n : U256) : String := toString n.val

def hexText (n : U256) : String := "0x" ++ String.ofList (Nat.toDigits 16 n.val)

def UintText (text : String) (n : U256) : Prop := text = decimalText n ∨ text = hexText n

def sideText : UInt8 → Option String
  | 0 => some "BUY"
  | 1 => some "SELL"
  | _ => none

/-- The member has the texts of a signed order. -/
structure Renders {sdk : Sdk} (member : SignedFamilyMember) (signed : SdkSignedOrder sdk) : Prop where
  salt : member.identity.salt = decimalText signed.order.salt
  maker : member.maker = sdk.writeAddress signed.order.maker
  signer : member.signer = sdk.writeAddress signed.order.signer
  taker : member.taker = sdk.writeAddress signed.order.taker
  tokenId : UintText member.tokenId signed.order.tokenId
  makerAmount : UintText member.makerAmount signed.order.makerAmount
  takerAmount : UintText member.takerAmount signed.order.takerAmount
  expiration : UintText member.expiration signed.order.expiration
  nonce : UintText member.identity.nonce signed.order.nonce
  feeRateBps : UintText member.feeRateBps signed.order.feeRateBps
  side : sideText signed.order.side = some member.side
  signatureType : member.signatureType = signed.order.signatureType.toNat
  signature : member.identity.signature = sdk.writeSignature signed.signature

/-- The SDK reads what it writes, and takes no double for an integer. -/
structure Sdk.Lawful (sdk : Sdk) : Prop where
  readUint_decimal (n : U256) : sdk.readUint (.string (decimalText n)) = .ok n
  readUint_hex (n : U256) : sdk.readUint (.string (hexText n)) = .ok n
  readUint_posInt (n : U256) : n.val < 2 ^ 64 → sdk.readUint (.number (.posInt n.val)) = .ok n
  readUint_float (literal : String) (n : U256) : sdk.readUint (.number (.float literal)) ≠ .ok n
  readAddress_write (address : sdk.Address) :
    sdk.readAddress (.string (sdk.writeAddress address)) = .ok address
  readString_string (text : String) : sdk.readString (.string text) = .ok text
  readU8_posInt (n : UInt8) : sdk.readU8 (.number (.posInt n.toNat)) = .ok n
  parseSignature_write (signature : sdk.Signature) :
    sdk.parseSignature (sdk.writeSignature signature) = .ok signature

/-! ## The salt -/

theorem head_toDigits_ne_zero {n : Nat} (hn : 0 < n) : (Nat.toDigits 10 n).head? ≠ some '0' := by
  induction n using Nat.strong_induction_on with
  | _ n ih =>
      rw [Nat.toDigits_eq_if (by decide)]
      split
      · rename_i hlt
        have hdigits : ∀ n < 10, 0 < n → [Nat.digitChar n].head? ≠ some '0' := by decide
        exact hdigits n hlt hn
      · rename_i hle
        rw [List.head?_append_of_ne_nil _ Nat.toDigits_ne_nil]
        exact ih (n / 10) (by omega) (by omega)

/-- A number written out is a JSON literal. -/
theorem fromDigits_decimalText (n : U256) :
    RawValue.fromDigits (decimalText n) = some { literal := decimalText n } := by
  have hdigits : (decimalText n).toList = Nat.toDigits 10 n.val := Nat.toList_repr
  rw [RawValue.fromDigits, if_neg]
  rintro ⟨hhead, hne⟩
  rw [hdigits] at hhead
  rcases Nat.eq_zero_or_pos n.val with hzero | hpos
  · exact hne (by rw [decimalText, hzero]; rfl)
  · exact head_toDigits_ne_zero hpos hhead

theorem isNumeric_decimalText (n : U256) :
    (decimalText n ≠ "" && (decimalText n).toList.all Char.isDigit) = true := by
  have hdigits : (decimalText n).toList = Nat.toDigits 10 n.val := Nat.toList_repr
  rw [Bool.and_eq_true, decide_eq_true_eq, List.all_eq_true, hdigits]
  exact ⟨Nat.repr_ne_empty, fun _ hmem ↦ Nat.isDigit_of_mem_toDigits (by decide) (by decide) hmem⟩

theorem lt_two_pow_sub {n a b c : Nat} (hn : n < 2 ^ a) (hab : a ≤ b) (hbc : b < c) :
    n < 2 ^ c - 2 ^ b := by
  have hdouble : 2 ^ b + 2 ^ b ≤ 2 ^ c := by
    rw [← two_mul, ← pow_succ']
    exact Nat.pow_le_pow_right (by decide) hbc
  calc n < 2 ^ a := hn
    _ ≤ 2 ^ b := Nat.pow_le_pow_right (by decide) hab
    _ ≤ 2 ^ c - 2 ^ b := Nat.le_sub_of_add_le hdouble

theorem number_decimalText (n : U256) :
    Number.fromDigits (decimalText n) =
      .ok (if n.val < 2 ^ 64 then .posInt n.val else .float (decimalText n)) := by
  have hdigits : (decimalText n).toList = Nat.toDigits 10 n.val := Nat.toList_repr
  have hfinite := lt_two_pow_sub n.isLt (show 256 ≤ 970 by decide) (show 970 < 1024 by decide)
  rw [Number.fromDigits, hdigits, Nat.ofDigitChars_ten_toDigits]
  split
  · rfl
  · rfl

/-! ## Every field but the salt -/

section Rendered

variable {sdk : Sdk} {member : SignedFamilyMember} {signed : SdkSignedOrder sdk}
  {transport : PostOrderTransport} {owner : sdk.ApiKey}

theorem lookup_of_mem {members : List (String × Value)} {key : String} {value : Value}
    (hkeys : (members.map Prod.fst).Nodup) (hmem : (key, value) ∈ members) :
    members.lookup key = some value := by
  induction members with
  | nil => cases hmem
  | cons member members ih =>
      rw [List.map_cons, List.nodup_cons] at hkeys
      rcases List.mem_cons.mp hmem with rfl | hmem
      · exact List.lookup_cons_self
      · have hne : (key == member.1) = false := by
          refine beq_eq_false_iff_ne.mpr fun heq ↦ hkeys.1 ?_
          exact heq ▸ List.mem_map_of_mem hmem
        rw [List.lookup_cons, hne]
        exact ih hkeys.2 hmem

theorem lookup_members {order : PostOrder} {salt : Number} {key : String} {value : Value}
    (hmem : (key, value) ∈ order.members salt) : (order.members salt).lookup key = some value :=
  lookup_of_mem (by simp only [PostOrder.members, List.map_cons, List.map_nil]; decide) hmem

theorem readField_of_lookup {α : Type} {payload : List (String × Value)} {key : String}
    {value : Value} {read : Value → Except String α} {a : α} (hlookup : payload.lookup key = some value)
    (hread : read value = .ok a) : readField payload key read = .ok a := by
  rw [readField, hlookup]
  show (read value).mapError _ = _
  rw [hread]
  rfl

theorem Sdk.Lawful.readUint_text (hsdk : sdk.Lawful) {text : String} {n : U256} (h : UintText text n) :
    sdk.readUint (.string text) = .ok n := by
  rcases h with rfl | rfl
  · exact hsdk.readUint_decimal n
  · exact hsdk.readUint_hex n

/-- The side of a member, as the request has it. -/
theorem exists_side (h : sideText signed.order.side = some member.side) :
    (signed.order.side = 0 ∧ member.side = "BUY") ∨ (signed.order.side = 1 ∧ member.side = "SELL") := by
  unfold sideText at h
  split at h
  · rename_i hside
    exact .inl ⟨hside, (Option.some.inj h).symm⟩
  · rename_i hside
    exact .inr ⟨hside, (Option.some.inj h).symm⟩
  · cases h

/-- The order of a request, with the texts of the member. -/
def memberOrder (member : SignedFamilyMember) (side : OrderSide) : PostOrder :=
  { maker := member.maker
    signer := member.signer
    taker := member.taker
    tokenId := member.tokenId
    makerAmount := member.makerAmount
    takerAmount := member.takerAmount
    side
    expiration := member.expiration
    nonce := member.identity.nonce
    feeRateBps := member.feeRateBps
    signature := member.identity.signature
    salt := { literal := member.identity.salt }
    signatureType := member.signatureType }

/-- The request of a rendered member is built. -/
theorem build_of_renders (h : Renders member signed) :
    ∃ side : OrderSide, side.text = member.side ∧
      buildPostOrderRequestFromSignedMember member transport = .ok {
        order := memberOrder member side
        owner := transport.owner
        orderType := transport.orderType
        deferExec := transport.deferExec } := by
  have hnumeric := isNumeric_decimalText signed.order.salt
  have hsalt := fromDigits_decimalText signed.order.salt
  rw [← h.salt] at hnumeric hsalt
  rcases exists_side h.side with ⟨-, hside⟩ | ⟨-, hside⟩
  · refine ⟨.buy, hside.symm, ?_⟩
    simp only [buildPostOrderRequestFromSignedMember, hnumeric, hsalt, hside]
    rfl
  · refine ⟨.sell, hside.symm, ?_⟩
    simp only [buildPostOrderRequestFromSignedMember, hnumeric, hsalt, hside]
    rfl

/-- The order of a rendered member is read back, except that its salt is what the SDK
reads of the number. -/
theorem sdkSignedOrderFromDto_members (hsdk : sdk.Lawful) (h : Renders member signed)
    (howner : sdk.parseApiKey transport.owner = .ok owner) {side : OrderSide}
    (hside : side.text = member.side) {number : Number} {payload : List (String × Value)}
    (hpayload : payload = (memberOrder member side).members number) :
    (sdkSignedOrderFromDto sdk {
      order := .object payload
      owner := transport.owner
      orderType := "GTC"
      deferExec := transport.deferExec }).toOption =
      (sdk.readUint (.number number)).toOption.map fun salt ↦
          { order := { signed.order with salt }
            signature := signed.signature
            orderType := .gtc
            owner
            postOnly := transport.deferExec } := by
  have hmember : ∀ {key value}, (key, value) ∈ (memberOrder member side).members number →
      payload.lookup key = some value := fun hmem ↦ hpayload ▸ lookup_members hmem
  have haddress : ∀ {key text address}, (key, .string text) ∈ (memberOrder member side).members number →
      text = sdk.writeAddress address → readField payload key sdk.readAddress = .ok address :=
    fun hmem htext ↦ readField_of_lookup (hmember hmem) (htext ▸ hsdk.readAddress_write _)
  have huint : ∀ {key text n}, (key, .string text) ∈ (memberOrder member side).members number →
      UintText text n → readField payload key sdk.readUint = .ok n :=
    fun hmem htext ↦ readField_of_lookup (hmember hmem) (hsdk.readUint_text htext)
  simp only [PostOrder.members, memberOrder, List.mem_cons, Prod.mk.injEq] at hmember haddress huint
  have hsignature : payload.lookup "signature" = some (.string (sdk.writeSignature signed.signature)) :=
    hmember (by simp [h.signature])
  have hmaker : readField payload "maker" sdk.readAddress = .ok signed.order.maker :=
    haddress (by simp) h.maker
  have hsigner : readField payload "signer" sdk.readAddress = .ok signed.order.signer :=
    haddress (by simp) h.signer
  have htaker : readField payload "taker" sdk.readAddress = .ok signed.order.taker :=
    haddress (by simp) h.taker
  have htokenId : readField payload "tokenId" sdk.readUint = .ok signed.order.tokenId :=
    huint (by simp) h.tokenId
  have hmakerAmount : readField payload "makerAmount" sdk.readUint = .ok signed.order.makerAmount :=
    huint (by simp) h.makerAmount
  have htakerAmount : readField payload "takerAmount" sdk.readUint = .ok signed.order.takerAmount :=
    huint (by simp) h.takerAmount
  have hexpiration : readField payload "expiration" sdk.readUint = .ok signed.order.expiration :=
    huint (by simp) h.expiration
  have hnonce : readField payload "nonce" sdk.readUint = .ok signed.order.nonce :=
    huint (by simp) h.nonce
  have hfeeRateBps : readField payload "feeRateBps" sdk.readUint = .ok signed.order.feeRateBps :=
    huint (by simp) h.feeRateBps
  have hsideText : readField payload "side" sdk.readString = .ok member.side :=
    readField_of_lookup (hmember (by simp [hside])) (hsdk.readString_string _)
  have hsignatureType : readField payload "signatureType" sdk.readU8 = .ok signed.order.signatureType :=
    readField_of_lookup (hmember (by simp [h.signatureType])) (hsdk.readU8_posInt _)
  have hsalt : payload.lookup "salt" = some (.number number) := hmember (by simp)
  simp only [sdkSignedOrderFromDto, Value.asObject, hsignature, Option.bind_some, Value.asStr,
    hsdk.parseSignature_write, howner]
  cases hread : sdk.readUint (.number number) with
  | error err =>
      have hfield : readField payload "salt" sdk.readUint =
          .error (.protocol s!"invalid signed order salt: {err}") := by
        rw [readField, hsalt]
        show (sdk.readUint (.number number)).mapError _ = _
        rw [hread]
        rfl
      rw [hfield]
      rfl
  | ok salt =>
      rw [readField_of_lookup hsalt hread, hmaker, hsigner, htaker, htokenId, hmakerAmount,
        htakerAmount, hexpiration, hnonce, hfeeRateBps, hsideText, hsignatureType]
      rcases exists_side h.side with ⟨hbit, htext⟩ | ⟨hbit, htext⟩
      · simp only [htext, ← hbit]
        rfl
      · simp only [htext, ← hbit]
        rfl

/-- What is submitted for a rendered member. -/
theorem submittedOrder_of_renders (hsdk : sdk.Lawful) (h : Renders member signed)
    (howner : sdk.parseApiKey transport.owner = .ok owner) :
    submittedOrder sdk member transport =
      (sdk.readUint (.number (if signed.order.salt.val < 2 ^ 64 then .posInt signed.order.salt.val
        else .float (decimalText signed.order.salt)))).toOption.map fun salt ↦
          { order := { signed.order with salt }
            signature := signed.signature
            orderType := .gtc
            owner
            postOnly := transport.deferExec } := by
  obtain ⟨side, hside, hbuild⟩ := @build_of_renders _ _ _ transport h
  have hnumber := number_decimalText signed.order.salt
  generalize (if signed.order.salt.val < 2 ^ 64 then Number.posInt signed.order.salt.val
    else .float (decimalText signed.order.salt)) = number at hnumber ⊢
  rw [← sdkSignedOrderFromDto_members hsdk h howner hside rfl]
  rw [← h.salt] at hnumber
  have horder : (memberOrder member side).toValue =
      .ok (.object ((memberOrder member side).members number)) := by
    rw [PostOrder.toValue, memberOrder, hnumber]
    rfl
  rw [submittedOrder, hbuild]
  show (polymarketSignedOrderFromSubmission _).toOption.bind _ = _
  rw [polymarketSignedOrderFromSubmission, horder]
  rfl

end Rendered

/-! ## Submitting what was signed -/

/-- The type of an order, as the SDK has it. -/
def OrderType.sdk : OrderType → SdkOrderType
  | gtc => .gtc

/-- The order that is submitted is the signed one, with the owner and the type of the
transport, and is post-only only if it was signed so. -/
def SubmitsSigned (sdk : Sdk) (member : SignedFamilyMember) (transport : PostOrderTransport)
    (owner : sdk.ApiKey) (signed : SdkSignedOrder sdk) : Prop :=
  ∃ submitted, submittedOrder sdk member transport = some submitted ∧
    submitted.order = signed.order ∧ submitted.signature = signed.signature ∧
    submitted.owner = owner ∧ submitted.orderType = transport.orderType.sdk ∧
    (submitted.postOnly = true → signed.postOnly = true)

section Submitted

variable {sdk : Sdk} {member : SignedFamilyMember} {signed : SdkSignedOrder sdk}
  {transport : PostOrderTransport} {owner : sdk.ApiKey}

/-- A salt of more than 64 bits is refused by the SDK. -/
theorem submittedOrder_of_long_salt (hsdk : sdk.Lawful) (h : Renders member signed)
    (howner : sdk.parseApiKey transport.owner = .ok owner) (hsalt : 2 ^ 64 ≤ signed.order.salt.val) :
    submittedOrder sdk member transport = none := by
  rw [submittedOrder_of_renders hsdk h howner, if_neg (Nat.not_lt.mpr hsalt)]
  cases hread : sdk.readUint (.number (.float (decimalText signed.order.salt))) with
  | error err => rfl
  | ok n => exact absurd hread (hsdk.readUint_float _ n)

/-- A salt of 64 bits is submitted as it was signed. -/
theorem submittedOrder_of_short_salt (hsdk : sdk.Lawful) (h : Renders member signed)
    (howner : sdk.parseApiKey transport.owner = .ok owner) (hsalt : signed.order.salt.val < 2 ^ 64) :
    submittedOrder sdk member transport = some {
      order := signed.order
      signature := signed.signature
      orderType := .gtc
      owner
      postOnly := transport.deferExec } := by
  rw [submittedOrder_of_renders hsdk h howner, if_pos hsalt, hsdk.readUint_posInt _ hsalt]
  rfl

/-- What was signed is submitted if and only if its salt has at most 64 bits and it is not
deferred, unless it was signed as post-only. -/
theorem submitsSigned_iff (hsdk : sdk.Lawful) (h : Renders member signed)
    (howner : sdk.parseApiKey transport.owner = .ok owner) :
    SubmitsSigned sdk member transport owner signed ↔
      signed.order.salt.val < 2 ^ 64 ∧ (transport.deferExec = true → signed.postOnly = true) := by
  constructor
  · rintro ⟨submitted, hsubmitted, -, -, -, -, hpostOnly⟩
    have hsalt : signed.order.salt.val < 2 ^ 64 := by
      by_contra hlong
      rw [submittedOrder_of_long_salt hsdk h howner (not_lt.mp hlong)] at hsubmitted
      cases hsubmitted
    rw [submittedOrder_of_short_salt hsdk h howner hsalt] at hsubmitted
    cases hsubmitted
    exact ⟨hsalt, hpostOnly⟩
  · rintro ⟨hsalt, hpostOnly⟩
    refine ⟨_, submittedOrder_of_short_salt hsdk h howner hsalt, rfl, rfl, rfl, ?_, hpostOnly⟩
    cases transport.orderType
    rfl

end Submitted

/-! ### Samples -/

def ofHexDigits (digits : List Char) : Nat := digits.foldl (fun n digit ↦ 16 * n + hexValue digit) 0

theorem ofHexDigits_toDigits (n : Nat) : ofHexDigits (Nat.toDigits 16 n) = n := by
  have hdigit : ∀ d < 16, hexValue (Nat.digitChar d) = d := by decide
  induction n using Nat.strong_induction_on with
  | _ n ih =>
      rw [Nat.toDigits_eq_if (by decide)]
      split
      · rename_i hlt
        simpa [ofHexDigits] using hdigit n hlt
      · rw [ofHexDigits, List.foldl_append, ← ofHexDigits, ih (n / 16) (by omega)]
        simp only [List.foldl_cons, List.foldl_nil, hdigit (n % 16) (by omega)]
        omega

def sampleUint (n : Nat) : Except String U256 :=
  if h : n < 2 ^ 256 then .ok ⟨n, h⟩ else .error "number too large to fit in target type"

theorem sampleUint_val (n : U256) : sampleUint n.val = .ok n := by
  rw [sampleUint, dif_pos n.isLt]

def sampleReadUint : Value → Except String U256
  | .number (.posInt n) => sampleUint n
  | .number (.float _) => .error "invalid type: floating point, expected a 32 byte hex string"
  | .string text =>
      match text.toList with
      | '0' :: 'x' :: digits => sampleUint (ofHexDigits digits)
      | digits => sampleUint (Nat.ofDigitChars 10 digits 0)
  | .object _ => .error "invalid type: map, expected a 32 byte hex string"

def sampleReadString : Value → Except String String
  | .string text => .ok text
  | _ => .error "invalid type, expected a string"

def sampleReadU8 : Value → Except String UInt8
  | .number (.posInt n) => if n < 256 then .ok (.ofNat n) else .error "invalid value, expected u8"
  | _ => .error "invalid type, expected u8"

/-- Addresses, signatures and keys are known by their texts. -/
def sampleSdk : Sdk where
  Address := String
  Signature := String
  ApiKey := String
  readUint := sampleReadUint
  readAddress := sampleReadString
  readString := sampleReadString
  readU8 := sampleReadU8
  parseSignature text := .ok text
  parseApiKey text := .ok text
  writeAddress := id
  writeSignature := id

theorem sampleSdk_lawful : sampleSdk.Lawful where
  readUint_decimal n := by
    have hdigits : (decimalText n).toList = Nat.toDigits 10 n.val := Nat.toList_repr
    have hx := notMem_toDigits (show 'x'.isDigit = false by decide) n.val
    show sampleReadUint (.string (decimalText n)) = .ok n
    rw [sampleReadUint, hdigits]
    split
    · rename_i digits hdigits
      rw [hdigits] at hx
      exact absurd (List.mem_cons_of_mem _ List.mem_cons_self) hx
    · rw [Nat.ofDigitChars_ten_toDigits, sampleUint_val]
  readUint_hex n := by
    have hdigits : (hexText n).toList = '0' :: 'x' :: Nat.toDigits 16 n.val := by
      simp [hexText]
    show sampleReadUint (.string (hexText n)) = .ok n
    rw [sampleReadUint, hdigits]
    show sampleUint (ofHexDigits (Nat.toDigits 16 n.val)) = _
    rw [ofHexDigits_toDigits, sampleUint_val]
  readUint_posInt n _ := sampleUint_val n
  readUint_float _ _ := by
    show Except.error _ ≠ _
    simp
  readAddress_write _ := rfl
  readString_string _ := rfl
  readU8_posInt n := by
    show sampleReadU8 (.number (.posInt n.toNat)) = .ok n
    rw [sampleReadU8, if_pos n.toNat_lt, UInt8.ofNat_toNat]
  parseSignature_write _ := rfl

def sampleSigned (salt : U256) : SdkSignedOrder sampleSdk where
  order := {
    salt
    maker := "0x6e0c80c90ea6c15917308F820Eac91Ce2724B5b5"
    signer := "0x6e0c80c90ea6c15917308F820Eac91Ce2724B5b5"
    taker := "0x0000000000000000000000000000000000000000"
    tokenId := 15871154585880608648
    makerAmount := 5000000
    takerAmount := 10000000
    expiration := 0
    nonce := 0
    feeRateBps := 1000
    side := 0
    signatureType := 0 }
  signature := "0x64a2b097cf14f9a2"
  orderType := .gtc
  owner := "owner-uuid"
  postOnly := false

def sampleSignedMember (salt : String) : SignedFamilyMember where
  conditionId := "condition-1"
  tokenId := "15871154585880608648"
  price := ExecutionPlan.samplePrice
  quantity := ExecutionPlan.sampleQuantity
  maker := "0x6e0c80c90ea6c15917308F820Eac91Ce2724B5b5"
  signer := "0x6e0c80c90ea6c15917308F820Eac91Ce2724B5b5"
  taker := "0x0000000000000000000000000000000000000000"
  makerAmount := "5000000"
  takerAmount := "10000000"
  side := "BUY"
  expiration := "0"
  feeRateBps := "1000"
  signatureType := 0
  identity := {
    signedOrderHash := "0xhash"
    salt
    nonce := "0"
    signature := "0x64a2b097cf14f9a2" }

def sampleTransport (deferExec : Bool) : PostOrderTransport :=
  { owner := "owner-uuid", orderType := .gtc, deferExec }

theorem sampleSignedMember_renders {salt : U256} {text : String} (h : text = decimalText salt) :
    Renders (sampleSignedMember text) (sampleSigned salt) where
  salt := h
  maker := rfl
  signer := rfl
  taker := rfl
  tokenId := .inl (show "15871154585880608648" = decimalText 15871154585880608648 by decide +kernel)
  makerAmount := .inl (show "5000000" = decimalText 5000000 by decide +kernel)
  takerAmount := .inl (show "10000000" = decimalText 10000000 by decide +kernel)
  expiration := .inl (show "0" = decimalText 0 by decide +kernel)
  nonce := .inl (show "0" = decimalText 0 by decide +kernel)
  feeRateBps := .inl (show "1000" = decimalText 1000 by decide +kernel)
  side := rfl
  signatureType := rfl
  signature := rfl

theorem sampleSignedMember_submitsSigned :
    SubmitsSigned sampleSdk (sampleSignedMember "718139292476") (sampleTransport false) "owner-uuid"
      (sampleSigned 718139292476) :=
  (submitsSigned_iff sampleSdk_lawful (sampleSignedMember_renders (by decide +kernel)) rfl).mpr
    ⟨by decide +kernel, fun h ↦ by cases h⟩

/-- A salt of 71 bits, that the request keeps without loss, is not submitted. -/
theorem long_salt_not_submitted :
    ¬ ∀ (sdk : Sdk) (member : SignedFamilyMember) (signed : SdkSignedOrder sdk)
      (transport : PostOrderTransport) (owner : sdk.ApiKey), sdk.Lawful → Renders member signed →
      sdk.parseApiKey transport.owner = .ok owner → SubmitsSigned sdk member transport owner signed := by
  intro hall
  have hrenders : Renders (sampleSignedMember "1844674407370955161600")
      (sampleSigned 1844674407370955161600) := sampleSignedMember_renders (by decide +kernel)
  have howner : sampleSdk.parseApiKey (sampleTransport false).owner = .ok "owner-uuid" := rfl
  obtain ⟨submitted, hsubmitted, -⟩ := hall sampleSdk _ _ _ _ sampleSdk_lawful hrenders howner
  have hsalt : 2 ^ 64 ≤ (sampleSigned 1844674407370955161600).order.salt.val :=
    show 2 ^ 64 ≤ (1844674407370955161600 : U256).val by decide +kernel
  rw [submittedOrder_of_long_salt sampleSdk_lawful hrenders howner hsalt] at hsubmitted
  cases hsubmitted

end AxiomArb.VenuePolymarket

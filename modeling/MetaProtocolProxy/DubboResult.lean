import MetaProtocolProxy.CompactHessian2

/-!
# The results of Dubbo responses

A response carries the number of an `RpcResponseType`, and behind it what the type says :
a value or an exception, or nothing, and for three of the six types a map of attachments
(`message.h`). `deserializeRpcResult` reads the number and checks the sizes
(`deserializeRpcResult_eq_ok_iff`).

Two of its checks are not those of the six types. The rest of the body must be empty for
both types without a value, so a map of attachments is refused behind one of them
(`accepts_iff`). And the number is cast to eight bits before it is looked at, so that a
number which is none of the six is taken for one when the two agree in their low byte
(`sound_iff`).
-/

namespace MetaProtocolProxy.Dubbo

/-! ## The number of a type -/

/-- The number of one of the six types. -/
def IsKind (value : Int32) : Prop :=
  0 ≤ value.toInt ∧ value.toInt < 6

/-- What the cast keeps of a number. -/
def lowByte (value : Int32) : UInt8 :=
  value.toUInt32.toUInt8

theorem RpcResponseType.ofInt32_eq (value : Int32) :
    ofInt32 value = ofUInt8 (lowByte value) :=
  rfl

/-- The low byte of a number that is a type. -/
theorem toNat_lowByte {value : Int32} (h : IsKind value) :
    ((lowByte value).toNat : ℤ) = value.toInt := by
  obtain ⟨hle, hlt⟩ := h
  have hbits : value.toInt = value.toBitVec.toInt := rfl
  have hnat : (lowByte value).toNat = value.toBitVec.toNat % 256 := by
    rw [lowByte, UInt32.toNat_toUInt8]
    rfl
  have hsmall := value.toBitVec.isLt
  rw [hbits, BitVec.toInt_eq_toNat_cond] at hle hlt ⊢
  rw [hnat]
  split at hle <;> split at hlt <;> split <;> omega

theorem lowByte_lt {value : Int32} (h : IsKind value) : (lowByte value).toNat < 6 := by
  have hlow := toNat_lowByte h
  have hlt := h.2
  omega

/-- The types with a number below six are the ones there are. -/
theorem RpcResponseType.hasException_ofUInt8 (v : UInt8) :
    (ofUInt8 v).hasException =
      if v.toNat < 6 then .ok (decide (v = 0 ∨ v = 3))
      else .error (.exception s!"not supported return type {v}") := by
  unfold ofUInt8
  split
  case h_7 h0 h1 h2 h3 h4 h5 =>
    have hne : ∀ n : UInt8, v ≠ n → v.toNat ≠ n.toNat := fun n h heq => h (UInt8.toNat_inj.mp heq)
    have := hne 0 h0
    have := hne 1 h1
    have := hne 2 h2
    have := hne 3 h3
    have := hne 4 h4
    have := hne 5 h5
    simp only [UInt8.reduceToNat] at *
    rw [if_neg (by omega)]
    rfl
  all_goals rfl

theorem RpcResponseType.hasValue_ofUInt8 (v : UInt8) :
    (ofUInt8 v).hasValue = false ↔ v = 2 ∨ v = 5 := by
  unfold ofUInt8
  split
  case h_7 => simp_all [hasValue]
  all_goals decide

/-! ## What is accepted -/

section Accepted

variable {hessian : Hessian2} {buffer : Bytes} {context : Context} {metadata : MessageMetadata}

/-- A complete result is accepted for its number, when the sizes fit it. -/
theorem deserializeRpcResult_eq_ok_iff (hb : context.bodySize ≤ buffer.length)
    {result : RpcResult} :
    deserializeRpcResult hessian buffer context = .ok result ↔
      ∃ value n, hessian.decodeInt32 buffer = (some value, n) ∧ n ≤ context.bodySize ∧
        (lowByte value).toNat < 6 ∧
        result.hasException = decide (lowByte value = 0 ∨ lowByte value = 3) ∧
        (lowByte value = 2 ∨ lowByte value = 5 → context.bodySize = n) := by
  simp only [deserializeRpcResult, if_neg (Nat.not_lt.mpr hb)]
  rcases hd : hessian.decodeInt32 buffer with ⟨_ | value, n⟩
  · constructor
    · rintro ⟨⟩
    · rintro ⟨value, n', h, -⟩
      cases h
  · simp only [RpcResponseType.ofInt32_eq, RpcResponseType.hasException_ofUInt8,
      RpcResponseType.hasValue_ofUInt8]
    constructor
    · intro h
      refine ⟨value, n, rfl, ?_⟩
      by_cases hlow : (lowByte value).toNat < 6
      · rw [if_pos hlow] at h
        dsimp only at h
        split_ifs at h with hsize hrest
        cases h
        refine ⟨Nat.not_lt.mp hsize, hlow, rfl, fun hvalue => ?_⟩
        by_contra hne
        exact hrest ⟨hvalue, hne⟩
      · rw [if_neg hlow] at h
        cases h
    · rintro ⟨value', n', h, hsize, hlow, hexception, hrest⟩
      cases h
      rw [if_pos hlow]
      dsimp only
      rw [if_neg (Nat.not_lt.mpr hsize), if_neg fun h => h.2 (hrest h.1)]
      obtain ⟨hasException⟩ := result
      dsimp only at hexception
      rw [hexception]

variable (hm : metadata.messageType = .response)
include hm

/-- What is accepted of a response, and its type. -/
theorem decodeData_eq_some_iff (hb : context.bodySize ≤ buffer.length)
    {metadata' : MessageMetadata} :
    decodeData hessian buffer context metadata = .ok (some metadata') ↔
      ∃ value n, hessian.decodeInt32 buffer = (some value, n) ∧ n ≤ context.bodySize ∧
        (lowByte value).toNat < 6 ∧
        (lowByte value = 2 ∨ lowByte value = 5 → context.bodySize = n) ∧
        metadata' =
          if lowByte value = 0 ∨ lowByte value = 3 then { metadata with messageType := .exception }
          else metadata := by
  simp only [decodeData, if_neg (Nat.not_lt.mpr hb), hm]
  constructor
  · intro h
    obtain ⟨result, hresult, h⟩ := map_eq_ok h
    obtain ⟨value, n, hd, hsize, hlow, hexception, hrest⟩ :=
      (deserializeRpcResult_eq_ok_iff hb).mp hresult
    refine ⟨value, n, hd, hsize, hlow, hrest, ?_⟩
    rw [← Option.some.inj h, hexception]
    simp only [decide_eq_true_eq]
  · rintro ⟨value, n, hd, hsize, hlow, hrest, rfl⟩
    have hresult : deserializeRpcResult hessian buffer context =
        .ok { hasException := decide (lowByte value = 0 ∨ lowByte value = 3) } :=
      (deserializeRpcResult_eq_ok_iff hb).mpr ⟨value, n, hd, hsize, hlow, rfl, hrest⟩
    rw [hresult]
    simp only [Except.map, decide_eq_true_eq]

end Accepted

/-! ## Soundness -/

/-- What is asked of an accepted response : it starts, within its body, with the number of a
type, and is an exception for the two types that say so. Any other number is refused. -/
structure SoundResult (hessian : Hessian2) (buffer : Bytes) (context : Context)
    (metadata : MessageMetadata) : Prop where
  accepted : ∀ metadata', decodeData hessian buffer context metadata = .ok (some metadata') →
    ∃ value n, hessian.decodeInt32 buffer = (some value, n) ∧ n ≤ context.bodySize ∧
      IsKind value ∧
      (metadata'.messageType = .exception ↔ value.toInt = 0 ∨ value.toInt = 3)
  refused : ∀ value n, hessian.decodeInt32 buffer = (some value, n) → ¬IsKind value →
    ∃ what, decodeData hessian buffer context metadata = .error (.exception what)

/-- The body starts with a number that is no type, and is taken for the type of its low byte :
the number ends within the body, and with it where the type says that nothing follows. -/
def Aliased (hessian : Hessian2) (buffer : Bytes) (context : Context) : Prop :=
  ∃ value n, hessian.decodeInt32 buffer = (some value, n) ∧ ¬IsKind value ∧
    (lowByte value).toNat < 6 ∧ n ≤ context.bodySize ∧
    (lowByte value = 2 ∨ lowByte value = 5 → context.bodySize = n)

section Results

variable {hessian : Hessian2} {buffer : Bytes} {context : Context} {metadata : MessageMetadata}

theorem lowByte_eq_iff {value : Int32} (h : IsKind value) (n : UInt8) :
    lowByte value = n ↔ value.toInt = n.toNat := by
  rw [← toNat_lowByte h, Nat.cast_inj, UInt8.toNat_inj]

/-- The type of an accepted response whose number is a type. -/
theorem exception_iff (hm : metadata.messageType = .response) {value : Int32} (h : IsKind value) :
    (if lowByte value = 0 ∨ lowByte value = 3 then { metadata with messageType := .exception }
      else metadata).messageType = .exception ↔ value.toInt = 0 ∨ value.toInt = 3 := by
  have hzero : lowByte value = 0 ↔ value.toInt = 0 := lowByte_eq_iff h 0
  have hthree : lowByte value = 3 ↔ value.toInt = 3 := lowByte_eq_iff h 3
  rw [← hzero, ← hthree]
  split_ifs with hkind
  · exact iff_of_true rfl hkind
  · refine iff_of_false ?_ hkind
    rw [hm]
    decide

/-- Responses are accepted soundly exactly where no other number is taken for a type. -/
theorem sound_iff (hessian : Hessian2) {buffer : Bytes} {context : Context}
    {metadata : MessageMetadata} (hm : metadata.messageType = .response)
    (hb : context.bodySize ≤ buffer.length) :
    SoundResult hessian buffer context metadata ↔ ¬Aliased hessian buffer context := by
  constructor
  · rintro h ⟨value, n, hd, hkind, hlow, hsize, hrest⟩
    obtain ⟨value', n', hd', -, hkind', -⟩ := h.accepted _
      ((decodeData_eq_some_iff hm hb).mpr ⟨value, n, hd, hsize, hlow, hrest, rfl⟩)
    rw [hd] at hd'
    cases hd'
    exact hkind hkind'
  · intro h
    constructor
    · intro metadata' hdata
      obtain ⟨value, n, hd, hsize, hlow, hrest, rfl⟩ := (decodeData_eq_some_iff hm hb).mp hdata
      have hkind : IsKind value := by
        by_contra hkind
        exact h ⟨value, n, hd, hkind, hlow, hsize, hrest⟩
      exact ⟨value, n, hd, hsize, hkind, exception_iff hm hkind⟩
    · intro value n hd hkind
      rcases hdata : decodeData hessian buffer context metadata with fault | _ | metadata'
      · obtain ⟨what, rfl, -⟩ := decodeData_error (by rw [hm]; rfl) (by rw [hm]; decide) hdata
        exact ⟨what, rfl⟩
      · exact absurd hdata (decodeData_ne_none hb metadata)
      · obtain ⟨value', n', hd', hsize, hlow, hrest, -⟩ := (decodeData_eq_some_iff hm hb).mp hdata
        rw [hd] at hd'
        cases hd'
        exact absurd ⟨value, n, hd, hkind, hlow, hsize, hrest⟩ h

/-- A result that is an exception. -/
theorem sound_exception :
    SoundResult .compact [0x90, 0x03, 0x62, 0x61, 0x64] ⟨messageSize, 5, false, []⟩
      { messageType := .response } := by
  refine (sound_iff .compact rfl (by decide)).mpr ?_
  rintro ⟨value, n, hd, hkind, -⟩
  have hread : Hessian2.compact.decodeInt32 [0x90, 0x03, 0x62, 0x61, 0x64] = (some 0, 1) := rfl
  obtain ⟨hvalue, -⟩ := Prod.mk.inj (hread.symm.trans hd)
  obtain rfl := Option.some.inj hvalue
  exact hkind ⟨by decide, by decide⟩

/-- The number 256 in front of a value is taken for the type 0, an exception. -/
theorem not_sound_256 :
    CompactHessian2.decodeInt32 [0xc9, 0x00, 0x01, 0x76] = (some 256, 2) ∧
      decodeData .compact [0xc9, 0x00, 0x01, 0x76] ⟨messageSize, 4, false, []⟩
        { messageType := .response } = .ok (some { messageType := .exception }) ∧
      ¬SoundResult .compact [0xc9, 0x00, 0x01, 0x76] ⟨messageSize, 4, false, []⟩
        { messageType := .response } := by
  refine ⟨rfl, rfl, fun h => ?_⟩
  obtain ⟨value, n, hd, -, hkind, -⟩ := h.accepted _ rfl
  have hread : Hessian2.compact.decodeInt32 [0xc9, 0x00, 0x01, 0x76] = (some 256, 2) := rfl
  obtain ⟨hvalue, -⟩ := Prod.mk.inj (hread.symm.trans hd)
  obtain rfl := Option.some.inj hvalue
  exact absurd hkind.2 (by decide)

end Results

/-! ## Completeness -/

/-- A map of attachments : its keys, and its values as they are serialized. -/
abbrev Attachments := List (String × Bytes)

/-- An untyped map : `H`, the keys and values, and `Z`. -/
def Attachments.encode (hessian : Hessian2) (attachments : Attachments) : Bytes :=
  0x48 :: attachments.flatMap (fun entry => hessian.encodeString entry.1 ++ entry.2) ++ [0x5a]

/-- A well-formed result, of one of the six types. -/
inductive WellFormedResult where
  | exception (content : Bytes)
  | value (content : Bytes)
  | nullValue
  | exceptionWithAttachments (content : Bytes) (attachments : Attachments)
  | valueWithAttachments (content : Bytes) (attachments : Attachments)
  | nullValueWithAttachments (attachments : Attachments)

namespace WellFormedResult

/-- The response type of a result. -/
def type : WellFormedResult → RpcResponseType
  | exception _ => .responseWithException
  | value _ => .responseWithValue
  | nullValue => .responseWithNullValue
  | exceptionWithAttachments _ _ => .responseWithExceptionWithAttachments
  | valueWithAttachments _ _ => .responseValueWithAttachments
  | nullValueWithAttachments _ => .responseNullValueWithAttachments

/-- What follows the number of the type. -/
def rest (hessian : Hessian2) : WellFormedResult → Bytes
  | exception content | value content => content
  | nullValue => []
  | exceptionWithAttachments content attachments | valueWithAttachments content attachments =>
    content ++ attachments.encode hessian
  | nullValueWithAttachments attachments => attachments.encode hessian

/-- The result is an exception, with attachments or without. -/
def IsException (result : WellFormedResult) : Prop :=
  result.type = .responseWithException ∨ result.type = .responseWithExceptionWithAttachments

end WellFormedResult

/-- A body : the number of the type, in any of its forms, and what follows it. -/
def Encodes (hessian : Hessian2) (result : WellFormedResult) (number : Bytes) : Prop :=
  hessian.decodeInt32 (number ++ result.rest hessian) =
    (some (Int32.ofNat result.type.toUInt8.toNat), number.length)

/-- The response is accepted, and is an exception exactly if its type says so. -/
def Accepts (hessian : Hessian2) (result : WellFormedResult) (buffer : Bytes) (context : Context)
    (metadata : MessageMetadata) : Prop :=
  ∃ metadata', decodeData hessian buffer context metadata = .ok (some metadata') ∧
    (metadata'.messageType = .exception ↔ result.IsException)

section Completeness

variable {hessian : Hessian2} {result : WellFormedResult}

theorem WellFormedResult.isKind (result : WellFormedResult) :
    IsKind (Int32.ofNat result.type.toUInt8.toNat) := by
  cases result <;> simp only [WellFormedResult.type] <;> exact ⟨by decide, by decide⟩

theorem WellFormedResult.lowByte_type (result : WellFormedResult) :
    lowByte (Int32.ofNat result.type.toUInt8.toNat) = result.type.toUInt8 := by
  cases result <;> rfl

theorem WellFormedResult.isException_iff (result : WellFormedResult) :
    result.IsException ↔ (Int32.ofNat result.type.toUInt8.toNat).toInt = 0 ∨
      (Int32.ofNat result.type.toUInt8.toNat).toInt = 3 := by
  cases result <;> simp only [IsException, WellFormedResult.type] <;> decide

/-- Of the two types without a value, one is followed by nothing. -/
theorem WellFormedResult.rest_eq_nil_iff (hnull : result.type.toUInt8 = 2 ∨ result.type.toUInt8 =
    5) :
    result.rest hessian = [] ↔ result.type ≠ .responseNullValueWithAttachments := by
  cases result
  case nullValue => exact iff_of_true rfl (by rintro ⟨⟩)
  case nullValueWithAttachments => exact iff_of_false (by rintro ⟨⟩) fun h => h rfl
  all_goals
    simp only [WellFormedResult.type] at hnull
    exact absurd hnull (by decide)

/-- A well-formed response is accepted exactly if it is not of the type without a value but with
attachments. -/
theorem accepts_iff (hl : hessian.Local) (number : Bytes) (henc : Encodes hessian result number)
    (tail : Bytes) {context : Context} {metadata : MessageMetadata}
    (hsize : context.bodySize = (number ++ result.rest hessian).length)
    (hm : metadata.messageType = .response) :
    Accepts hessian result (number ++ result.rest hessian ++ tail) context metadata ↔
      result.type ≠ .responseNullValueWithAttachments := by
  have hb : context.bodySize ≤ (number ++ result.rest hessian ++ tail).length := by
    rw [hsize]
    exact (List.prefix_append _ tail).length_le
  have hread : hessian.decodeInt32 (number ++ result.rest hessian ++ tail) =
      (some (Int32.ofNat result.type.toUInt8.toNat), number.length) := by
    refine (hl.decodeInt32 henc).2 _ ?_ ?_
    · simp
    · simp
  have hle : number.length ≤ context.bodySize := by
    rw [hsize, List.length_append]
    exact Nat.le_add_right _ _
  have hfits : context.bodySize = number.length ↔ result.rest hessian = [] := by
    rw [hsize, List.length_append, Nat.add_eq_left, List.length_eq_zero_iff]
  constructor
  · rintro ⟨metadata', hdata, -⟩ hnull
    obtain ⟨value, n, hd, -, -, hrest, -⟩ := (decodeData_eq_some_iff hm hb).mp hdata
    obtain ⟨hvalue, rfl⟩ := Prod.mk.inj (hread.symm.trans hd)
    obtain rfl := Option.some.inj hvalue
    have htype : result.type.toUInt8 = 5 := by rw [hnull]; rfl
    rw [result.lowByte_type] at hrest
    exact (WellFormedResult.rest_eq_nil_iff (Or.inr htype)).mp
      (hfits.mp (hrest (Or.inr htype))) hnull
  · intro hnull
    refine ⟨_, (decodeData_eq_some_iff hm hb).mpr
      ⟨_, _, hread, hle, lowByte_lt result.isKind, fun hvalue => ?_, rfl⟩, ?_⟩
    · rw [result.lowByte_type] at hvalue
      exact hfits.mpr ((WellFormedResult.rest_eq_nil_iff hvalue).mpr hnull)
    · rw [exception_iff hm result.isKind, result.isException_iff]

end Completeness

/-- A value with one attachment. -/
theorem accepts_valueWithAttachments :
    Accepts .compact (.valueWithAttachments [0x01, 0x76] [("k", [0x01, 0x61])])
      ([0x94] ++ [0x01, 0x76, 0x48, 0x01, 0x6b, 0x01, 0x61, 0x5a] ++ [0xda])
      ⟨messageSize, 9, false, []⟩ { messageType := .response } :=
  have henc : Encodes .compact (.valueWithAttachments [0x01, 0x76] [("k", [0x01, 0x61])]) [0x94] :=
    rfl
  (accepts_iff Hessian2.compact_local [0x94] henc [0xda] rfl rfl).mpr (by decide)

/-- No value, and an empty map of attachments. -/
theorem not_accepts_nullValueWithAttachments :
    Encodes .compact (.nullValueWithAttachments []) [0x95] ∧
      ¬Accepts .compact (.nullValueWithAttachments []) [0x95, 0x48, 0x5a]
        ⟨messageSize, 3, false, []⟩ { messageType := .response } := by
  refine ⟨rfl, ?_⟩
  rintro ⟨metadata', hdata, -⟩
  cases hdata

end MetaProtocolProxy.Dubbo

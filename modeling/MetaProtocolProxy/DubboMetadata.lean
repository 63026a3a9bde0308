import MetaProtocolProxy.DubboCodec

/-!
# From a header to the metadata, and back

A header becomes a `MessageMetadata` (`decodeHeader`), which becomes the generic metadata
(`toMetadata`), and is made of it again when a heartbeat or an error is answered
(`toMsgMetadata`).

Of the flags of a header the two-way bit is looked at and not kept, and the serialization
of a response not even looked at, so the metadata says what the header says exactly where
the defaults happen to (`faithfulHeader_iff`). And a timeout is stored as the optional it
comes in, but read as the number, so it is the one field that does not come back
(`roundTrips_iff`).
-/

namespace MetaProtocolProxy.Dubbo

open BigEndian

/-! ## The header -/

/-- The metadata and the context say what the header says. -/
structure Faithful (buffer : Bytes) (context : Context) (metadata : MessageMetadata) : Prop where
  messageType : metadata.messageType = typeOfFlags buffer
  isTwoWay : metadata.isTwoWay = true ↔ IsTwoWayFlag buffer
  serializationType : metadata.serializationType = .ofUInt8 (serializationId buffer)
  responseStatus : ¬IsRequestFlag buffer →
    metadata.responseStatus = some (.ofUInt8 (peekByte statusOffset buffer))
  requestId : metadata.requestId.toUInt64.toNat = peek 8 requestIDOffset buffer
  bodySize : context.bodySize = peek 4 bodySizeOffset buffer
  bodySize_le : (context.bodySize : ℤ) ≤ maxBodySize.toInt
  hessian2 : SerializationType.ofUInt8 (serializationId buffer) = .hessian2

/-- A complete header is refused, or decoded faithfully. -/
def FaithfulHeader (buffer : Bytes) (metadata : MessageMetadata) : Prop :=
  (∃ what, decodeHeader buffer metadata = .error (.exception what)) ∨
    ∃ context metadata', decodeHeader buffer metadata = .ok (some (context, metadata')) ∧
      Faithful buffer context metadata'

/-- What it takes over without a check : the metadata it is given says already whether the message
is two-way, and of a response also that it is Hessian2, and both are right. -/
structure DefaultsRight (buffer : Bytes) (metadata : MessageMetadata) : Prop where
  isTwoWay : metadata.isTwoWay = true ↔ IsTwoWayFlag buffer
  serializationId : SerializationType.ofUInt8 (serializationId buffer) = .hessian2
  serializationType : ¬IsRequestFlag buffer → metadata.serializationType = .hessian2

/-- The metadata of a checked header is faithful where the defaults are right. -/
theorem faithful_iff {buffer : Bytes} (h : CheckedHeader buffer) (metadata : MessageMetadata) :
    Faithful buffer (headerContext buffer) (headerMetadata buffer metadata) ↔
      DefaultsRight buffer metadata := by
  have hmax : maxBodySize.toInt = 16 * 1024 * 1024 := rfl
  have hsize : (headerContext buffer).bodySize = peek 4 bodySizeOffset buffer := by
    have hle := h.bodySize
    rw [headerContext, toInt_bodySize (by omega), Int.toNat_natCast]
  have htwo : (headerMetadata buffer metadata).isTwoWay = metadata.isTwoWay := by
    unfold headerMetadata
    split <;> rfl
  constructor
  · intro hf
    refine ⟨by rw [← htwo]; exact hf.isTwoWay, hf.hessian2, fun hresponse => ?_⟩
    have hser := hf.serializationType
    rwa [hf.hessian2, headerMetadata, if_neg hresponse] at hser
  · intro hd
    constructor
    · exact messageType_headerMetadata buffer metadata
    · rw [htwo]
      exact hd.isTwoWay
    · unfold headerMetadata
      split
      · rfl
      · rename_i hresponse
        rw [hd.serializationId]
        exact hd.serializationType hresponse
    · intro hresponse
      rw [headerMetadata, if_neg hresponse]
    · have hlt : peek 8 requestIDOffset buffer < 2 ^ 64 := peek_lt 8 requestIDOffset buffer
      rw [requestId_headerMetadata, UInt64.toUInt64_toInt64, UInt64.toNat_ofNat_of_lt' hlt]
    · exact hsize
    · rw [hsize]
      exact h.bodySize
    · exact hd.serializationId

/-- A complete header is refused or decoded faithfully, exactly if it is refused by the checks or
what is not checked happens to be right. -/
theorem faithfulHeader_iff {buffer : Bytes} (hlength : messageSize ≤ buffer.length)
    (metadata : MessageMetadata) :
    FaithfulHeader buffer metadata ↔ (CheckedHeader buffer → DefaultsRight buffer metadata) := by
  rcases decodeHeader_cases hlength metadata with ⟨h, hd⟩ | ⟨h, fault, ⟨what, rfl, -⟩, hd⟩
  · rw [FaithfulHeader, hd, imp_iff_right h, ← faithful_iff h]
    constructor
    · rintro (⟨what, hwhat⟩ | ⟨context, metadata', hok, hf⟩)
      · cases hwhat
      · cases hok
        exact hf
    · exact fun hf => Or.inr ⟨_, _, rfl, hf⟩
  · exact iff_of_true (Or.inl ⟨what, hd⟩) fun hc => absurd hc h

/-- A oneway request. -/
theorem faithfulHeader_oneway : FaithfulHeader (frame 0x82 0 7 []) {} :=
  (faithfulHeader_iff (by decide) {}).mpr fun _ =>
    ⟨by decide +kernel, by decide +kernel, fun _ => rfl⟩

/-- A response that announces the serialization 6 is taken for Hessian2, and a request with the
two-way bit is not two-way. -/
theorem not_faithfulHeader_response :
    (decodeHeader (frame 6 20 7 []) {}).toOption = some (some (⟨messageSize, 0, false, []⟩,
        { requestId := 7, messageType := .response, responseStatus := some .ok,
          serializationType := .hessian2 })) ∧
      (decodeHeader (frame 0xc2 0 7 []) {}).toOption = some (some (⟨messageSize, 0, false, []⟩,
        { requestId := 7, messageType := .request, isTwoWay := false })) ∧
      ¬FaithfulHeader (frame 6 20 7 []) {} ∧ ¬FaithfulHeader (frame 0xc2 0 7 []) {} := by
  have hresponse : (decodeHeader (frame 6 20 7 []) {}).toOption = some (some
      (⟨messageSize, 0, false, []⟩,
        { requestId := 7, messageType := .response, responseStatus := some .ok,
          serializationType := .hessian2 })) := by decide +kernel
  have hrequest : (decodeHeader (frame 0xc2 0 7 []) {}).toOption = some (some
      (⟨messageSize, 0, false, []⟩,
        { requestId := 7, messageType := .request, isTwoWay := false })) := by decide +kernel
  refine ⟨hresponse, hrequest, ?_, ?_⟩
  · rintro (⟨what, hwhat⟩ | ⟨context, metadata, hok, hf⟩)
    · rw [hwhat] at hresponse
      cases hresponse
    · exact absurd hf.hessian2 (by decide +kernel)
  · rintro (⟨what, hwhat⟩ | ⟨context, metadata, hok, hf⟩)
    · rw [hwhat] at hrequest
      cases hrequest
    · rw [hok] at hrequest
      cases hrequest
      exact absurd (hf.isTwoWay.mpr (by decide +kernel)) (by decide)

/-! ## The conversions -/

namespace DubboCodec

/-- The generic metadata made of a `MessageMetadata`, with the context of a frame or without, is
made into the same one again. -/
def RoundTrips (msgMetadata : MessageMetadata) : Prop :=
  toMsgMetadata (toMetadata msgMetadata {}) = .ok msgMetadata ∧
    ∀ context, toMsgMetadata (toMetadataWithContext msgMetadata context {}) = .ok msgMetadata

/-- A timeout is stored as an optional. -/
theorem get_timeout {msgMetadata : MessageMetadata} {timeout : UInt32}
    (h : msgMetadata.timeout = some timeout) :
    (toMetadata msgMetadata {}).get "Timeout" = some (.optionalUInt32 (some timeout)) := by
  cases hi : msgMetadata.invocationInfo <;> cases hr : msgMetadata.responseStatus <;>
    simp only [toMetadata, Metadata.get, Metadata.put, Metadata.putString, Properties.get_put,
      Properties.get_nil, h, hi, hr] <;>
    simp

/-- What is read of the timeout of a message that is read back. -/
theorem optional_timeout_of_toMsgMetadata {metadata : Metadata} {msgMetadata : MessageMetadata}
    (h : toMsgMetadata metadata = .ok msgMetadata) :
    ∃ timeout, optional (fun | .uint32 t => some t | _ => none) metadata "Timeout" =
      .ok timeout := by
  unfold toMsgMetadata at h
  generalize hread : optional (fun | .uint32 t => some t | _ => none) metadata "Timeout" = read at h
  cases read with
  | ok timeout => exact ⟨timeout, rfl⟩
  | error fault =>
    simp only [bind, Except.bind] at h
    repeat' split at h
    all_goals cases h

/-- Metadata come back from a conversion exactly if they have no timeout. -/
theorem roundTrips_iff (msgMetadata : MessageMetadata) :
    RoundTrips msgMetadata ↔ msgMetadata.timeout = none := by
  constructor
  · rintro ⟨h, -⟩
    obtain ⟨read, hread⟩ := optional_timeout_of_toMsgMetadata h
    cases htimeout : msgMetadata.timeout with
    | none => rfl
    | some timeout =>
      rw [optional, get_timeout htimeout] at hread
      cases hread
  · intro h
    have hcontext : ∀ context,
        toMsgMetadata (toMetadataWithContext msgMetadata context {}) = .ok msgMetadata :=
      fun context => toMsgMetadata_toMetadata h context.originMessage _
    exact ⟨hcontext ⟨0, 0, false, []⟩, hcontext⟩

/-- A message with a timeout is stored, and cannot be read : the cast is refused. -/
theorem not_roundTrips_timeout :
    toMsgMetadata (toMetadata { timeout := some 1000 } {}) = .error (.panic "bad_any_cast") ∧
      ¬RoundTrips { timeout := some 1000 } := by
  refine ⟨rfl, ?_⟩
  rintro ⟨h, -⟩
  cases h

end DubboCodec

end MetaProtocolProxy.Dubbo

import MetaProtocolProxy.DubboProxy

/-!
# Error replies of the Dubbo codec

`onError` writes one response frame with the id of the request, the status of the error
type and an exception as its body (`onError_eq_frame`). The status of a response is
checked when it is decoded, against a list of its own : it is in the list exactly for a
route that is not found and for a bad response (`isValidResponseStatus_errorStatus`), so
for exactly these two does a codec accept the reply (`onError_decodes_iff`). All other
errors get `serverError`, which the list does not have.
-/

namespace MetaProtocolProxy.Dubbo.DubboCodec

variable {hessian : Hessian2} {metadata : Metadata} {error : Error}

/-- The body of an error reply. -/
def errorBody (hessian : Hessian2) (error : Error) : Bytes :=
  serializeRpcResult hessian error.message .responseWithException

/-- A fresh codec reads the bytes as one message, to the last byte : an error with the
request's id. -/
def DecodesAsError (hessian : Hessian2) (metadata : Metadata) (bytes : Bytes) : Prop :=
  ∃ reply, (decode hessian (codec hessian).init bytes).status = .done reply ∧
    (decode hessian (codec hessian).init bytes).buffer = [] ∧
    reply.messageType = .error ∧ reply.responseStatus = .error ∧
    reply.requestId = metadata.requestId

/-- An error reply is one frame. -/
theorem onError_eq_frame (h : Replyable metadata) (he : error.message ≠ "") :
    onError hessian metadata error =
      .ok (frame 2 (errorStatus error.type).toUInt8 metadata.requestId.toNat
        (errorBody hessian error)) := by
  obtain ⟨msgMetadata, husual, hid, hmsg⟩ := h.toMsgMetadata
  simp [onError, hmsg, bind, Except.bind, Dubbo.encode, he, husual.serializationType, hid, frame,
    errorBody, SerializationType.toUInt8]

theorem ofUInt8_errorStatus (type : ErrorType) :
    ResponseStatus.ofUInt8 (errorStatus type).toUInt8 = errorStatus type := by
  cases type <;> rfl

/-- The statuses of the error replies that the decoder knows. -/
theorem isValidResponseStatus_errorStatus (type : ErrorType) :
    isValidResponseStatus (errorStatus type) = true ↔
      type = .routeNotFound ∨ type = .badResponse := by
  cases type <;> simp [errorStatus, isValidResponseStatus]

theorem errorStatus_ne_ok (type : ErrorType) : errorStatus type ≠ .ok := by
  cases type <;> simp [errorStatus]

/-- The body of an error reply is read as an exception. -/
theorem decodeData_errorBody (hr : hessian.RoundTrip) (error : Error) (context : Context)
    (msgMetadata : MessageMetadata) (hsize : context.bodySize = (errorBody hessian error).length)
    (htype : msgMetadata.messageType = .response) :
    decodeData hessian (errorBody hessian error) context msgMetadata =
      .ok (some { msgMetadata with messageType := .exception }) := by
  have hread : hessian.decodeInt32 (errorBody hessian error) =
      (some (Int32.ofNat 0), (hessian.encodeUInt8 0).length) :=
    hr.decodeInt32_encodeUInt8 0 (hessian.encodeString error.message)
  have htotal : ¬context.bodySize < (hessian.encodeUInt8 0).length := by
    rw [hsize, errorBody, serializeRpcResult, List.length_append]
    exact Nat.not_lt.mpr (Nat.le_add_right _ _)
  have hresult : deserializeRpcResult hessian (errorBody hessian error) context =
      .ok { hasException := true } := by
    simp only [deserializeRpcResult, hsize, Nat.lt_irrefl, if_false, hread]
    rw [hsize] at htotal
    rw [show RpcResponseType.ofInt32 (Int32.ofNat 0) = .responseWithException from rfl]
    simp [RpcResponseType.hasException, RpcResponseType.hasValue, htotal]
  rw [decodeData, if_neg (by omega)]
  simp [htype, hresult, Except.map]

section Decode

variable (hsize : (errorBody hessian error).length ≤ 16 * 1024 * 1024) (requestId : UInt64)
include hsize

/-- A reply with a status that is not in the list is rejected with its header. -/
theorem decode_errorFrame_throw
    (hvalid : isValidResponseStatus (errorStatus error.type) = false) :
    ∃ fault, (decode hessian none (frame 2 (errorStatus error.type).toUInt8 requestId.toNat
      (errorBody hessian error))).status = .throw fault := by
  have hid : requestId.toNat < 256 ^ 8 := by
    have := requestId.toNat_lt
    omega
  have hheader := decodeHeader_frame (errorStatus error.type).toUInt8 hid hsize {}
  rw [ofUInt8_errorStatus, if_pos hvalid] at hheader
  rw [decode_none, @decode_header_error hessian {} _ _ rfl hheader]
  exact ⟨_, rfl⟩

/-- A reply with any other status is read to its last byte. -/
theorem decode_errorFrame_done (hr : hessian.RoundTrip)
    (hvalid : isValidResponseStatus (errorStatus error.type) = true) :
    ∃ reply, decode hessian none (frame 2 (errorStatus error.type).toUInt8 requestId.toNat
        (errorBody hessian error)) = ⟨none, [], .done reply⟩ ∧
      reply.messageType = .error ∧ reply.responseStatus = .error ∧
      reply.requestId = requestId := by
  have hid : requestId.toNat < 256 ^ 8 := by
    have := requestId.toNat_lt
    omega
  have hheader := decodeHeader_frame (errorStatus error.type).toUInt8 hid hsize {}
  rw [ofUInt8_errorStatus, if_neg (by simp [hvalid])] at hheader
  have hdata := decodeData_errorBody hr error
    ⟨messageSize, (errorBody hessian error).length, false,
      [] ++ (frame 2 (errorStatus error.type).toUInt8 requestId.toNat
        (errorBody hessian error)).take messageSize⟩
    { requestId := (UInt64.ofNat requestId.toNat).toInt64
      messageType := .response
      responseStatus := some (errorStatus error.type) } rfl rfl
  rw [decode_none, @decode_header hessian {} _ _ _ rfl hheader rfl, drop_frame,
    decode_data_done rfl rfl hdata,
    List.drop_length]
  refine ⟨_, rfl, messageType_toMetadataWithContext _ _, ?_, ?_⟩
  · have hne := errorStatus_ne_ok error.type
    simp [toMetadataWithContext, toMetadata, hne]
  · rw [requestId_toMetadataWithContext]
    simp

end Decode

/-- Of the error replies to any decoded message, exactly those for a route that is not found
and for a bad response are accepted by a codec. -/
theorem onError_decodes_iff (hr : hessian.RoundTrip) {s : State} (hs : Reached hessian s)
    {buffer : Bytes} (hd : (decode hessian s buffer).status = .done metadata)
    (he : error.message ≠ "") (hsize : (errorBody hessian error).length ≤ maxBodySize.toInt) :
    (∃ bytes, onError hessian metadata error = .ok bytes ∧ DecodesAsError hessian metadata bytes) ↔
      error.type = .routeNotFound ∨ error.type = .badResponse := by
  have hmax : maxBodySize.toInt = 16 * 1024 * 1024 := rfl
  have hsize : (errorBody hessian error).length ≤ 16 * 1024 * 1024 := by omega
  have hreply := ((regular_decode hessian hs.sound buffer).accepted hd).replyable
  rw [onError_eq_frame hreply he, ← isValidResponseStatus_errorStatus]
  constructor
  · rintro ⟨bytes, hbytes, reply, hdone, -⟩
    cases hbytes
    by_contra hvalid
    obtain ⟨fault, hthrow⟩ := decode_errorFrame_throw hsize metadata.requestId
      (Bool.eq_false_of_not_eq_true hvalid)
    rw [show (codec hessian).init = none from rfl, hthrow] at hdone
    cases hdone
  · intro hvalid
    obtain ⟨reply, hdone, htype, hstatus, hid⟩ :=
      decode_errorFrame_done hsize metadata.requestId hr hvalid
    refine ⟨_, rfl, reply, ?_, ?_, htype, hstatus, hid⟩
    · rw [show (codec hessian).init = none from rfl, hdone]
    · rw [show (codec hessian).init = none from rfl, hdone]

theorem onError_decodes_routeNotFound :
    ∃ metadata, (decode .compact none (DubboExample.request 7)).status = .done metadata ∧
      ((∃ bytes, onError .compact metadata ⟨.routeNotFound, "no route"⟩ = .ok bytes ∧
          DecodesAsError .compact metadata bytes) ↔
        ErrorType.routeNotFound = .routeNotFound ∨ ErrorType.routeNotFound = .badResponse) :=
  ⟨_, rfl, onError_decodes_iff Hessian2.compact_roundTrip .init
    (show (decode .compact none (DubboExample.request 7)).status = _ from rfl) (by decide)
      (by decide)⟩

/-- The reply that there is no healthy upstream is rejected for its status. -/
theorem onError_not_decodes_noHealthyUpstream :
    ∃ metadata bytes, (decode .compact none (DubboExample.request 7)).status = .done metadata ∧
      onError .compact metadata ⟨.noHealthyUpstream, "no host"⟩ = .ok bytes ∧
      ¬DecodesAsError .compact metadata bytes := by
  refine ⟨_, _, rfl, rfl, ?_⟩
  rintro ⟨reply, hdone, -⟩
  cases hdone

end MetaProtocolProxy.Dubbo.DubboCodec

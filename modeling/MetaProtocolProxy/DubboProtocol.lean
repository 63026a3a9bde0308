import MetaProtocolProxy.BigEndian
import MetaProtocolProxy.DubboMessage
import Mathlib.Data.List.Basic

/-!
# The Dubbo protocol

The header and body parsers and the frame writer of `dubbo_protocol_impl.cc`, and the
Hessian2 serializer behind them (`dubbo_hessian2_serializer_impl.cc`).

The Hessian2 library is a parameter (`Hessian2`) : its reader is a function of the
bytes from its offset on, which gives a value or null and the number of bytes it moved
over. `Hessian2.Local` says that a value depends on nothing but the bytes it was read
from, and `Hessian2.RoundTrip` that reading undoes writing.

A header is read from its own 16 bytes (`decodeHeader_append`), it fills the same
metadata when it is read again (`decodeHeader_again`), and whether a complete body is
accepted does not depend on the bytes behind it (`decodeData_append`).
-/

namespace MetaProtocolProxy.Dubbo

open BigEndian

/-! ## Hessian2 -/

/-- The reader and the writer of the Hessian2 library, for the types the proxy uses. -/
structure Hessian2 where
  decodeString : Bytes → Option String × ℕ
  decodeInt32 : Bytes → Option Int32 × ℕ
  encodeUInt8 : UInt8 → Bytes
  encodeString : String → Bytes

/-- A value that was read depends only on the bytes it was read from. -/
structure Hessian2.Local (hessian : Hessian2) : Prop where
  decodeString : ∀ {b value n}, hessian.decodeString b = (some value, n) →
    n ≤ b.length ∧ ∀ c, b.take n = c.take n → n ≤ c.length →
      hessian.decodeString c = (some value, n)
  decodeInt32 : ∀ {b value n}, hessian.decodeInt32 b = (some value, n) →
    n ≤ b.length ∧ ∀ c, b.take n = c.take n → n ≤ c.length → hessian.decodeInt32 c = (some value, n)

/-- Reading the number of a response type gives back what was written, and stops there. -/
structure Hessian2.RoundTrip (hessian : Hessian2) : Prop where
  decodeInt32_encodeUInt8 : ∀ value rest,
    hessian.decodeInt32 (hessian.encodeUInt8 value ++ rest) =
      (some (Int32.ofNat value.toNat), (hessian.encodeUInt8 value).length)

/-! ## The serializer -/

/-- `deserializeRpcInvocation` : four strings, read one after the other. -/
def deserializeRpcInvocation (hessian : Hessian2) (buffer : Bytes) (context : Context) :
    Except Fault RpcInvocation :=
  let dubboVersion := hessian.decodeString buffer
  let offset := dubboVersion.2
  let serviceName := hessian.decodeString (buffer.drop offset)
  let offset := offset + serviceName.2
  let serviceVersion := hessian.decodeString (buffer.drop offset)
  let offset := offset + serviceVersion.2
  let methodName := hessian.decodeString (buffer.drop offset)
  let offset := offset + methodName.2
  if context.bodySize < offset then
    .error (.exception
      s!"RpcInvocation size({offset}) larger than body size({context.bodySize})")
  else
    match dubboVersion.1, serviceName.1, serviceVersion.1, methodName.1 with
    | some _, some serviceName, some serviceVersion, some methodName =>
      .ok { serviceName, methodName, serviceVersion := some serviceVersion,
            parsedSize := context.headerSize + offset }
    | _, _, _, _ => .error (.exception "RpcInvocation has no request metadata")

/-- The value a response type says is missing. -/
def RpcResponseType.hasValue : RpcResponseType → Bool
  | .responseWithNullValue | .responseNullValueWithAttachments => false
  | _ => true

/-- What a response type says about the result : whether it is an exception. The types
without a name are not supported. -/
def RpcResponseType.hasException : RpcResponseType → Except Fault Bool
  | .responseWithException | .responseWithExceptionWithAttachments => .ok true
  | .responseWithNullValue | .responseNullValueWithAttachments
  | .responseWithValue | .responseValueWithAttachments => .ok false
  | .unnamed value => .error (.exception s!"not supported return type {value}")

/-- `deserializeRpcResult` : the number of the response type. What follows it in the
body is not read. -/
def deserializeRpcResult (hessian : Hessian2) (buffer : Bytes) (context : Context) :
    Except Fault RpcResult :=
  if buffer.length < context.bodySize then .error (.panic "ASSERT(buffer.length() >= bodySize)")
  else
    match hessian.decodeInt32 buffer with
    | (none, _) => .error (.exception "Cannot parse RpcResult type from buffer")
    | (some value, totalSize) =>
      let type := RpcResponseType.ofInt32 value
      match type.hasException with
      | .error fault => .error fault
      | .ok hasException =>
        if context.bodySize < totalSize then
          .error (.exception
            s!"RpcResult size({totalSize}) large than body size({context.bodySize})")
        else if type.hasValue = false ∧ context.bodySize ≠ totalSize then
          .error (.exception
            ("RpcResult is no value, but the rest of the body size(" ++
              toString (context.bodySize - totalSize) ++ ") not equal 0"))
        else .ok { hasException }

/-- `serializeRpcResult` : the response type as a compact integer, then the content. -/
def serializeRpcResult (hessian : Hessian2) (content : String) (type : RpcResponseType) : Bytes :=
  hessian.encodeUInt8 type.toUInt8 ++ hessian.encodeString content

/-! ## The protocol -/

/-- The two bytes in front of every frame. -/
def magicNumber : ℕ := 0xdabb

/-- The flag of a request. -/
def messageTypeMask : UInt8 := 0x80

/-- The flag of an event. -/
def eventMask : UInt8 := 0x20

/-- The flag of a request that has an answer. -/
def twoWayMask : UInt8 := 0x40

/-- The bits of the serialization type. -/
def serializationTypeMask : UInt8 := 0x1f

/-- Where the flags are. -/
def flagOffset : ℕ := 2

/-- Where the status of a response is. -/
def statusOffset : ℕ := 3

/-- Where the request id is. -/
def requestIDOffset : ℕ := 4

/-- Where the body size is. -/
def bodySizeOffset : ℕ := 12

/-- The size of a header. -/
def messageSize : ℕ := 16

/-- The largest body that is accepted. -/
def maxBodySize : Int32 := 16 * 1024 * 1024

/-- `isValidSerializationType`. -/
def isValidSerializationType : SerializationType → Bool
  | .hessian2 => true
  | _ => false

/-- The status `serverError` has a name but is not in this list. -/
def isValidResponseStatus : ResponseStatus → Bool
  | .ok | .clientTimeout | .serverTimeout | .badRequest | .badResponse | .serviceNotFound
  | .serviceError | .clientError | .serverThreadpoolExhaustedError => true
  | _ => false

/-- `peekInt<uint8_t>`. -/
def peekByte (off : ℕ) (buffer : Bytes) : UInt8 :=
  UInt8.ofNat (peek 1 off buffer)

/-- `parseRequestInfoFromBuffer`. -/
def parseRequestInfoFromBuffer (buffer : Bytes) (metadata : MessageMetadata) :
    Except Fault MessageMetadata :=
  let flag := peekByte flagOffset buffer
  let isTwoWay := flag &&& twoWayMask = twoWayMask
  let type := SerializationType.ofUInt8 (flag &&& serializationTypeMask)
  if isValidSerializationType type = false then
    .error (.exception ("invalid dubbo message serialization type " ++ toString type.toUInt8))
  else if ¬isTwoWay ∧ metadata.messageType ≠ .heartbeatRequest then
    .ok { metadata with messageType := .oneway, serializationType := type }
  else .ok { metadata with serializationType := type }

/-- `parseResponseInfoFromBuffer`. -/
def parseResponseInfoFromBuffer (buffer : Bytes) (metadata : MessageMetadata) :
    Except Fault MessageMetadata :=
  let status := ResponseStatus.ofUInt8 (peekByte statusOffset buffer)
  if isValidResponseStatus status = false then
    .error (.exception ("invalid dubbo message response status " ++ toString status.toUInt8))
  else .ok { metadata with responseStatus := some status }

/-- `decodeHeader` : the context and the metadata of a header, or nothing when more data
is needed. The buffer is only peeked at. What a header that throws has already written
into the metadata is not kept : the same bytes throw again before it is read. -/
def decodeHeader (buffer : Bytes) (metadata : MessageMetadata) :
    Except Fault (Option (Context × MessageMetadata)) :=
  if buffer.length < messageSize then .ok none
  else
    let magic := peek 2 0 buffer
    if magic ≠ magicNumber then
      .error (.exception s!"invalid dubbo message magic number {magic}")
    else
      let flag := peekByte flagOffset buffer
      let isEvent := decide (flag &&& eventMask = eventMask)
      let requestId := (UInt64.ofNat (peek 8 requestIDOffset buffer)).toInt64
      let bodySize := (UInt32.ofNat (peek 4 bodySizeOffset buffer)).toInt32
      if bodySize > maxBodySize ∨ bodySize < 0 then
        .error (.exception s!"invalid dubbo message size {bodySize}")
      else
        let metadata := { metadata with requestId }
        let parsed :=
          if flag &&& messageTypeMask = messageTypeMask then
            parseRequestInfoFromBuffer buffer
              { metadata with messageType := if isEvent then .heartbeatRequest else .request }
          else
            parseResponseInfoFromBuffer buffer
              { metadata with messageType := if isEvent then .heartbeatResponse else .response }
        let context : Context :=
          { headerSize := messageSize, bodySize := bodySize.toInt.toNat, isHeartbeat := isEvent,
            originMessage := [] }
        parsed.map fun metadata => some (context, metadata)

/-- `decodeData` : the metadata of a complete body, or nothing when more data is needed.
The buffer is only read. -/
def decodeData (hessian : Hessian2) (buffer : Bytes) (context : Context)
    (metadata : MessageMetadata) : Except Fault (Option MessageMetadata) :=
  if buffer.length < context.bodySize then .ok none
  else
    match metadata.messageType with
    | .oneway | .request =>
      (deserializeRpcInvocation hessian buffer context).map fun invocation =>
        some { metadata with invocationInfo := some invocation }
    | .response =>
      (deserializeRpcResult hessian buffer context).map fun result =>
        some (if result.hasException then { metadata with messageType := .exception } else metadata)
    | _ => .error (.panic "NOT_REACHED in decodeData")

/-- `encode`. -/
def encode (hessian : Hessian2) (metadata : MessageMetadata) (content : String)
    (type : RpcResponseType) : Except Fault Bytes :=
  match metadata.messageType with
  | .heartbeatResponse =>
    match metadata.responseStatus with
    | none => .error (.panic "ASSERT(metadata.hasResponseStatus())")
    | some status =>
      if content ≠ "" then .error (.panic "ASSERT(content.empty())")
      else
        .ok (toBytes 2 magicNumber ++ [metadata.serializationType.toUInt8 ^^^ eventMask] ++
          [status.toUInt8] ++ toBytes 8 metadata.requestId.toUInt64.toNat ++ toBytes 4 0)
  | .response =>
    match metadata.responseStatus with
    | none => .error (.panic "ASSERT(metadata.hasResponseStatus())")
    | some status =>
      if content = "" then .error (.panic "ASSERT(!content.empty())")
      else
        let body := serializeRpcResult hessian content type
        .ok (toBytes 2 magicNumber ++ [metadata.serializationType.toUInt8] ++ [status.toUInt8] ++
          toBytes 8 metadata.requestId.toUInt64.toNat ++ toBytes 4 body.length ++ body)
  | .request | .oneway | .exception => .error (.panic "NOT_IMPLEMENTED in encode")
  | .heartbeatRequest => .error (.panic "NOT_REACHED in encode")

/-! ## Headers -/

theorem decodeHeader_of_short {buffer : Bytes} (h : buffer.length < messageSize)
    (metadata : MessageMetadata) : decodeHeader buffer metadata = .ok none := by
  rw [decodeHeader, if_pos h]

theorem peekByte_append {off : ℕ} {buffer : Bytes} (h : off + 1 ≤ buffer.length) (x : Bytes) :
    peekByte off (buffer ++ x) = peekByte off buffer := by
  rw [peekByte, peekByte, peek_append h]

/-- A complete header is read from its own bytes. -/
theorem decodeHeader_append {buffer : Bytes} (h : messageSize ≤ buffer.length) (x : Bytes)
    (metadata : MessageMetadata) :
    decodeHeader (buffer ++ x) metadata = decodeHeader buffer metadata := by
  have h16 : 16 ≤ buffer.length := h
  have hlen : ¬(buffer ++ x).length < messageSize := by
    rw [List.length_append]
    omega
  have hmagic : peek 2 0 (buffer ++ x) = peek 2 0 buffer := peek_append (by omega) x
  have hflag : peekByte flagOffset (buffer ++ x) = peekByte flagOffset buffer :=
    peekByte_append (Nat.le_trans (by decide) h16) x
  have hstatus : peekByte statusOffset (buffer ++ x) = peekByte statusOffset buffer :=
    peekByte_append (Nat.le_trans (by decide) h16) x
  have hid : peek 8 requestIDOffset (buffer ++ x) = peek 8 requestIDOffset buffer :=
    peek_append (Nat.le_trans (by decide) h16) x
  have hsize : peek 4 bodySizeOffset (buffer ++ x) = peek 4 bodySizeOffset buffer :=
    peek_append (Nat.le_trans (by decide) h16) x
  simp only [decodeHeader, if_neg hlen, if_neg (Nat.not_lt.mpr h), parseRequestInfoFromBuffer,
    parseResponseInfoFromBuffer, hmagic, hflag, hstatus, hid, hsize]

/-- The flags of a header. -/
def flags (buffer : Bytes) : UInt8 :=
  peekByte flagOffset buffer

/-- The frame has the flag of a request. -/
def IsRequestFlag (buffer : Bytes) : Prop :=
  flags buffer &&& messageTypeMask = messageTypeMask

/-- The frame has the flag of an event. -/
def IsEventFlag (buffer : Bytes) : Prop :=
  flags buffer &&& eventMask = eventMask

/-- The frame has the flag of a request that has an answer. -/
def IsTwoWayFlag (buffer : Bytes) : Prop :=
  flags buffer &&& twoWayMask = twoWayMask

instance (buffer : Bytes) : Decidable (IsRequestFlag buffer) :=
  inferInstanceAs (Decidable (_ = _))

instance (buffer : Bytes) : Decidable (IsEventFlag buffer) :=
  inferInstanceAs (Decidable (_ = _))

instance (buffer : Bytes) : Decidable (IsTwoWayFlag buffer) :=
  inferInstanceAs (Decidable (_ = _))

/-- The serialization that a header announces. -/
def serializationId (buffer : Bytes) : UInt8 :=
  flags buffer &&& serializationTypeMask

/-- The message type that the flags of a header say. -/
def typeOfFlags (buffer : Bytes) : MessageType :=
  if IsRequestFlag buffer then
    if IsEventFlag buffer then .heartbeatRequest
    else if IsTwoWayFlag buffer then .request
    else .oneway
  else if IsEventFlag buffer then .heartbeatResponse
  else .response

/-- What `decodeHeader` checks. -/
structure CheckedHeader (buffer : Bytes) : Prop where
  magic : peek 2 0 buffer = magicNumber
  bodySize : (peek 4 bodySizeOffset buffer : ℤ) ≤ maxBodySize.toInt
  serialization : IsRequestFlag buffer →
    SerializationType.ofUInt8 (serializationId buffer) = .hessian2
  status : ¬IsRequestFlag buffer →
    isValidResponseStatus (.ofUInt8 (peekByte statusOffset buffer)) = true

/-- The body size of a header is in range as a signed number exactly if it is as an unsigned
one. -/
theorem bodySize_range (buffer : Bytes) :
    (((UInt32.ofNat (peek 4 bodySizeOffset buffer)).toInt32 > maxBodySize ∨
      (UInt32.ofNat (peek 4 bodySizeOffset buffer)).toInt32 < 0) ↔
        ¬(peek 4 bodySizeOffset buffer : ℤ) ≤ maxBodySize.toInt) := by
  have hlt : peek 4 bodySizeOffset buffer < 2 ^ 32 := peek_lt 4 bodySizeOffset buffer
  generalize peek 4 bodySizeOffset buffer = n at hlt ⊢
  have hmax : maxBodySize.toInt = 16 * 1024 * 1024 := rfl
  have hzero : (0 : Int32).toInt = 0 := rfl
  have hint : (UInt32.ofNat n).toInt32.toInt = (BitVec.ofNat 32 n).toInt := rfl
  rw [gt_iff_lt, Int32.lt_iff_toInt_lt, Int32.lt_iff_toInt_lt, hmax, hzero, hint,
    BitVec.toInt_eq_toNat_cond, BitVec.toNat_ofNat, Nat.mod_eq_of_lt hlt]
  split <;> omega

/-- The metadata of a header that passes the checks. -/
def headerMetadata (buffer : Bytes) (metadata : MessageMetadata) : MessageMetadata :=
  let metadata :=
    { metadata with
      requestId := (UInt64.ofNat (peek 8 requestIDOffset buffer)).toInt64
      messageType := typeOfFlags buffer }
  if IsRequestFlag buffer then
    { metadata with serializationType := .ofUInt8 (serializationId buffer) }
  else { metadata with responseStatus := some (.ofUInt8 (peekByte statusOffset buffer)) }

/-- The context that a header gives. -/
def headerContext (buffer : Bytes) : Context where
  headerSize := messageSize
  bodySize := (UInt32.ofNat (peek 4 bodySizeOffset buffer)).toInt32.toInt.toNat
  isHeartbeat := IsEventFlag buffer
  originMessage := []

theorem eq_hessian2_of_valid {type : SerializationType}
    (h : ¬isValidSerializationType type = false) : type = .hessian2 := by
  cases type with
  | hessian2 => rfl
  | unnamed value => exact absurd rfl h

section Header

variable {buffer : Bytes} {metadata : MessageMetadata}

/-- What the flags of a request leave of its metadata. -/
theorem parseRequestInfoFromBuffer_cases (hrequest : IsRequestFlag buffer)
    (hid : metadata.requestId = (UInt64.ofNat (peek 8 requestIDOffset buffer)).toInt64)
    (htype : metadata.messageType = if IsEventFlag buffer then .heartbeatRequest else .request) :
    (SerializationType.ofUInt8 (serializationId buffer) = .hessian2 ∧
        parseRequestInfoFromBuffer buffer metadata = .ok (headerMetadata buffer metadata)) ∨
      (SerializationType.ofUInt8 (serializationId buffer) ≠ .hessian2 ∧
        ∃ fault, fault.IsException ∧
          parseRequestInfoFromBuffer buffer metadata = .error fault) := by
  by_cases hvalid : isValidSerializationType (.ofUInt8 (serializationId buffer)) = false
  · refine Or.inr ⟨fun hhessian => ?_, _, ⟨_, rfl, by simp⟩, if_pos hvalid⟩
    rw [hhessian] at hvalid
    cases hvalid
  · refine Or.inl ⟨eq_hessian2_of_valid hvalid, ?_⟩
    have hparsed : parseRequestInfoFromBuffer buffer metadata =
        if ¬IsTwoWayFlag buffer ∧ metadata.messageType ≠ .heartbeatRequest then
          .ok { metadata with
            messageType := .oneway, serializationType := .ofUInt8 (serializationId buffer) }
        else .ok { metadata with serializationType := .ofUInt8 (serializationId buffer) } :=
      if_neg hvalid
    rw [hparsed, headerMetadata, if_pos hrequest, ← hid, typeOfFlags, if_pos hrequest, htype]
    by_cases hevent : IsEventFlag buffer
    · simp [hevent]
    · by_cases htwo : IsTwoWayFlag buffer <;> simp [hevent, htwo]

/-- What the status of a response leaves of its metadata. -/
theorem parseResponseInfoFromBuffer_cases (hresponse : ¬IsRequestFlag buffer)
    (hid : metadata.requestId = (UInt64.ofNat (peek 8 requestIDOffset buffer)).toInt64)
    (htype : metadata.messageType = if IsEventFlag buffer then .heartbeatResponse else .response) :
    (isValidResponseStatus (.ofUInt8 (peekByte statusOffset buffer)) = true ∧
        parseResponseInfoFromBuffer buffer metadata = .ok (headerMetadata buffer metadata)) ∨
      (isValidResponseStatus (.ofUInt8 (peekByte statusOffset buffer)) ≠ true ∧
        ∃ fault, fault.IsException ∧
          parseResponseInfoFromBuffer buffer metadata = .error fault) := by
  by_cases hvalid : isValidResponseStatus (.ofUInt8 (peekByte statusOffset buffer)) = false
  · refine Or.inr ⟨by rw [hvalid]; decide, _, ⟨_, rfl, by simp⟩, if_pos hvalid⟩
  · refine Or.inl ⟨Bool.eq_true_of_not_eq_false hvalid, ?_⟩
    have hparsed : parseResponseInfoFromBuffer buffer metadata =
        .ok { metadata with responseStatus := some (.ofUInt8 (peekByte statusOffset buffer)) } :=
      if_neg hvalid
    rw [hparsed, headerMetadata, if_neg hresponse, ← hid, typeOfFlags, if_neg hresponse, ← htype]

/-- A complete header that passes the checks is decoded, and any other is refused. -/
theorem decodeHeader_cases (hlength : messageSize ≤ buffer.length) (metadata : MessageMetadata) :
    (CheckedHeader buffer ∧ decodeHeader buffer metadata =
        .ok (some (headerContext buffer, headerMetadata buffer metadata))) ∨
      (¬CheckedHeader buffer ∧
        ∃ fault, fault.IsException ∧ decodeHeader buffer metadata = .error fault) := by
  rw [decodeHeader, if_neg (Nat.not_lt.mpr hlength)]
  dsimp only
  by_cases hmagic : peek 2 0 buffer = magicNumber
  swap
  · exact Or.inr ⟨fun h => hmagic h.magic, _, ⟨_, rfl, by simp⟩, if_pos hmagic⟩
  rw [if_neg (not_not.mpr hmagic)]
  by_cases hsize : (peek 4 bodySizeOffset buffer : ℤ) ≤ maxBodySize.toInt
  swap
  · exact Or.inr ⟨fun h => hsize h.bodySize, _, ⟨_, rfl, by simp [toString]⟩,
      if_pos ((bodySize_range buffer).mpr hsize)⟩
  rw [if_neg (mt (bodySize_range buffer).mp (not_not.mpr hsize))]
  simp only [decide_eq_true_eq]
  by_cases hrequest : IsRequestFlag buffer
  · have hflag : peekByte flagOffset buffer &&& messageTypeMask = messageTypeMask := hrequest
    rw [if_pos hflag]
    rcases @parseRequestInfoFromBuffer_cases _ { metadata with
        requestId := (UInt64.ofNat (peek 8 requestIDOffset buffer)).toInt64
        messageType := if IsEventFlag buffer then .heartbeatRequest else .request } hrequest rfl rfl
      with ⟨hhessian, hparse⟩ | ⟨hother, fault, hfault, hparse⟩
    · refine Or.inl ⟨⟨hmagic, hsize, fun _ => hhessian, fun h => absurd hrequest h⟩, ?_⟩
      exact congrArg _ hparse
    · refine Or.inr ⟨fun h => hother (h.serialization hrequest), fault, hfault, ?_⟩
      exact congrArg _ hparse
  · have hflag : ¬peekByte flagOffset buffer &&& messageTypeMask = messageTypeMask := hrequest
    rw [if_neg hflag]
    rcases @parseResponseInfoFromBuffer_cases _ { metadata with
        requestId := (UInt64.ofNat (peek 8 requestIDOffset buffer)).toInt64
        messageType := if IsEventFlag buffer then .heartbeatResponse else .response }
        hrequest rfl rfl
      with ⟨hstatus, hparse⟩ | ⟨hother, fault, hfault, hparse⟩
    · refine Or.inl ⟨⟨hmagic, hsize, fun h => absurd h hrequest, fun _ => hstatus⟩, ?_⟩
      exact congrArg _ hparse
    · refine Or.inr ⟨fun h => hother (h.status hrequest), fault, hfault, ?_⟩
      exact congrArg _ hparse

theorem decodeHeader_of_checked (hlength : messageSize ≤ buffer.length) (h : CheckedHeader buffer)
    (metadata : MessageMetadata) :
    decodeHeader buffer metadata =
      .ok (some (headerContext buffer, headerMetadata buffer metadata)) := by
  rcases decodeHeader_cases hlength metadata with ⟨-, hd⟩ | ⟨hnot, -⟩
  · exact hd
  · exact absurd h hnot

/-- A header that has been decoded was complete and passed the checks. -/
theorem decodeHeader_eq_some {metadata' : MessageMetadata} {context : Context}
    (h : decodeHeader buffer metadata = .ok (some (context, metadata'))) :
    messageSize ≤ buffer.length ∧ CheckedHeader buffer ∧ context = headerContext buffer ∧
      metadata' = headerMetadata buffer metadata := by
  rcases Nat.lt_or_ge buffer.length messageSize with hshort | hlength
  · rw [decodeHeader_of_short hshort] at h
    cases h
  rcases decodeHeader_cases hlength metadata with ⟨hchecked, hd⟩ | ⟨-, fault, -, hd⟩
  · rw [hd] at h
    cases h
    exact ⟨hlength, hchecked, rfl, rfl⟩
  · rw [hd] at h
    cases h

/-- A complete header is decided. -/
theorem decodeHeader_ne_none (hlength : messageSize ≤ buffer.length) (metadata : MessageMetadata) :
    decodeHeader buffer metadata ≠ .ok none := by
  rcases decodeHeader_cases hlength metadata with ⟨-, hd⟩ | ⟨-, fault, -, hd⟩ <;> simp [hd]

/-- A header that is rejected is rejected with an `EnvoyException`. -/
theorem decodeHeader_error {fault : Fault} (h : decodeHeader buffer metadata = .error fault) :
    fault.IsException := by
  rcases Nat.lt_or_ge buffer.length messageSize with hshort | hlength
  · rw [decodeHeader_of_short hshort] at h
    cases h
  rcases decodeHeader_cases hlength metadata with ⟨-, hd⟩ | ⟨-, fault', hfault, hd⟩
  · rw [hd] at h
    cases h
  · rw [hd] at h
    cases h
    exact hfault

end Header

/-- What is known of the metadata and the context of a header. -/
structure HeaderOf (buffer : Bytes) (context : Context) (metadata : MessageMetadata) : Prop where
  length : messageSize ≤ buffer.length
  headerSize : context.headerSize = messageSize
  bodySize : context.bodySize = (UInt32.ofNat (peek 4 bodySizeOffset buffer)).toInt32.toInt.toNat
  originMessage : context.originMessage = []
  requestId : metadata.requestId = (UInt64.ofNat (peek 8 requestIDOffset buffer)).toInt64
  messageType : metadata.messageType ≠ .exception
  isHeartbeat : metadata.messageType.isHeartbeat = true ↔
    peekByte flagOffset buffer &&& eventMask = eventMask
  isRequest : metadata.messageType.isRequest = true ↔
    peekByte flagOffset buffer &&& messageTypeMask = messageTypeMask

/-! What the flags of a header say. -/

theorem typeOfFlags_ne_exception (buffer : Bytes) : typeOfFlags buffer ≠ .exception := by
  unfold typeOfFlags
  split_ifs <;> simp

theorem isHeartbeat_typeOfFlags (buffer : Bytes) :
    (typeOfFlags buffer).isHeartbeat = true ↔ IsEventFlag buffer := by
  unfold typeOfFlags
  by_cases hevent : IsEventFlag buffer
  · simp only [hevent, if_true, iff_true]
    split <;> rfl
  · simp only [hevent, if_false, iff_false]
    split_ifs <;> simp [MessageType.isHeartbeat]

theorem isRequest_typeOfFlags (buffer : Bytes) :
    (typeOfFlags buffer).isRequest = true ↔ IsRequestFlag buffer := by
  unfold typeOfFlags
  by_cases hrequest : IsRequestFlag buffer
  · simp only [hrequest, if_true, iff_true]
    split_ifs <;> rfl
  · simp only [hrequest, if_false, iff_false]
    split <;> simp [MessageType.isRequest]

@[simp] theorem messageType_headerMetadata (buffer : Bytes) (metadata : MessageMetadata) :
    (headerMetadata buffer metadata).messageType = typeOfFlags buffer := by
  unfold headerMetadata
  split <;> rfl

@[simp] theorem requestId_headerMetadata (buffer : Bytes) (metadata : MessageMetadata) :
    (headerMetadata buffer metadata).requestId =
      (UInt64.ofNat (peek 8 requestIDOffset buffer)).toInt64 := by
  unfold headerMetadata
  split <;> rfl

theorem decodeHeader_spec {buffer : Bytes} {metadata metadata' : MessageMetadata}
    {context : Context} (h : decodeHeader buffer metadata = .ok (some (context, metadata'))) :
    HeaderOf buffer context metadata' := by
  obtain ⟨hlength, -, rfl, rfl⟩ := decodeHeader_eq_some h
  refine ⟨hlength, rfl, rfl, rfl, requestId_headerMetadata _ _, ?_, ?_, ?_⟩ <;>
    rw [messageType_headerMetadata]
  · exact typeOfFlags_ne_exception buffer
  · exact isHeartbeat_typeOfFlags buffer
  · exact isRequest_typeOfFlags buffer

/-- What every frame leaves in the metadata : no timeout, and the one serialization there is. -/
structure Usual (metadata : MessageMetadata) : Prop where
  timeout : metadata.timeout = none
  serializationType : metadata.serializationType = .hessian2

theorem decodeHeader_usual {buffer : Bytes} {metadata metadata' : MessageMetadata}
    {context : Context} (h : decodeHeader buffer metadata = .ok (some (context, metadata')))
    (hm : Usual metadata) : Usual metadata' := by
  obtain ⟨-, hchecked, -, rfl⟩ := decodeHeader_eq_some h
  unfold headerMetadata
  split
  · rename_i hrequest
    exact ⟨hm.timeout, hchecked.serialization hrequest⟩
  · exact ⟨hm.timeout, hm.serializationType⟩

/-- A header that is read again fills the same metadata. -/
theorem decodeHeader_again {buffer : Bytes} {metadata metadata' : MessageMetadata}
    {context : Context} (h : decodeHeader buffer metadata = .ok (some (context, metadata'))) :
    decodeHeader buffer metadata' = .ok (some (context, metadata')) := by
  obtain ⟨hlength, hchecked, rfl, rfl⟩ := decodeHeader_eq_some h
  rw [decodeHeader_of_checked hlength hchecked]
  unfold headerMetadata
  split <;> rfl

/-! ## Frames -/

/-- A frame : the header, and a body behind it. -/
def frame (flag status : UInt8) (requestId : ℕ) (body : Bytes) : Bytes :=
  toBytes 2 magicNumber ++ [flag, status] ++ toBytes 8 requestId ++ toBytes 4 body.length ++ body

section Frames

variable {flag : UInt8} {requestId : ℕ} {body : Bytes}

theorem length_frame (status : UInt8) :
    (frame flag status requestId body).length = messageSize + body.length := by
  simp [frame, messageSize]
  omega

theorem drop_frame (status : UInt8) :
    (frame flag status requestId body).drop messageSize = body := by
  unfold frame
  exact List.drop_left' (by simp [messageSize])

theorem toInt_bodySize {n : ℕ} (h : n ≤ 16 * 1024 * 1024) :
    (UInt32.ofNat n).toInt32.toInt = n := by
  have hbits : (UInt32.ofNat n).toInt32.toInt = (BitVec.ofNat 32 n).toInt := rfl
  rw [hbits, BitVec.toInt_ofNat']
  exact Int.bmod_eq_of_le (by omega) (by omega)

/-! What is read in the header of a frame. -/

theorem peek_magic_frame (flag status : UInt8) (requestId : ℕ) (body : Bytes) :
    peek 2 0 (frame flag status requestId body) = magicNumber := by
  simp only [frame, List.append_assoc]
  exact peek_toBytes (by decide) _

theorem peekByte_flag_frame (flag status : UInt8) (requestId : ℕ) (body : Bytes) :
    peekByte flagOffset (frame flag status requestId body) = flag := by
  simp only [frame, List.append_assoc, peekByte]
  rw [peek_append_right (by simp [flagOffset])]
  simp [peek, ofBytes]

theorem peekByte_status_frame (flag status : UInt8) (requestId : ℕ) (body : Bytes) :
    peekByte statusOffset (frame flag status requestId body) = status := by
  have hsplit : frame flag status requestId body = (toBytes 2 magicNumber ++ [flag]) ++
      (status :: (toBytes 8 requestId ++ toBytes 4 body.length ++ body)) := by
    simp [frame]
  rw [hsplit, peekByte, peek_append_right (by simp [statusOffset])]
  simp [peek, ofBytes]

theorem peek_requestID_frame (flag status : UInt8) (hid : requestId < 256 ^ 8) (body : Bytes) :
    peek 8 requestIDOffset (frame flag status requestId body) = requestId := by
  simp only [frame, List.append_assoc]
  rw [← List.append_assoc, peek_append_right (by simp [requestIDOffset])]
  exact peek_toBytes hid _

theorem peek_bodySize_frame (flag status : UInt8) (requestId : ℕ) (hsize : body.length < 256 ^ 4) :
    peek 4 bodySizeOffset (frame flag status requestId body) = body.length := by
  rw [frame, List.append_assoc, peek_append_right (by simp [bodySizeOffset])]
  exact peek_toBytes hsize _

/-- The header of a response. -/
theorem decodeHeader_frame (status : UInt8) (hid : requestId < 256 ^ 8)
    (hsize : body.length ≤ 16 * 1024 * 1024)
    (metadata : MessageMetadata) :
    decodeHeader (frame 2 status requestId body) metadata =
      if isValidResponseStatus (.ofUInt8 status) = false then
        .error (.exception ("invalid dubbo message response status " ++
          toString (ResponseStatus.ofUInt8 status).toUInt8))
      else
        .ok (some
          ({ headerSize := messageSize, bodySize := body.length, isHeartbeat := false,
             originMessage := [] },
           { metadata with
             requestId := (UInt64.ofNat requestId).toInt64
             messageType := .response
             responseStatus := some (.ofUInt8 status) })) := by
  have hlen : ¬(frame 2 status requestId body).length < messageSize := by
    rw [length_frame]
    omega
  have hbody := @peek_bodySize_frame body 2 status requestId (by omega)
  have hint := toInt_bodySize hsize
  have hsize' : ¬((UInt32.ofNat body.length).toInt32 > maxBodySize ∨
      (UInt32.ofNat body.length).toInt32 < 0) := by
    have hmax : maxBodySize.toInt = 16 * 1024 * 1024 := rfl
    have hzero : (0 : Int32).toInt = 0 := rfl
    rw [gt_iff_lt, Int32.lt_iff_toInt_lt, Int32.lt_iff_toInt_lt, hint, hmax, hzero]
    omega
  have htwo : ¬(2 : UInt8) &&& messageTypeMask = messageTypeMask := by decide
  have hevent : decide ((2 : UInt8) &&& eventMask = eventMask) = false := by decide
  simp only [decodeHeader, if_neg hlen, peek_magic_frame, ne_eq, not_true_eq_false, if_false,
    peekByte_flag_frame, peek_requestID_frame 2 status hid body, hbody, if_neg hsize', if_neg htwo,
    hevent, parseResponseInfoFromBuffer, peekByte_status_frame, hint, Bool.false_eq_true]
  by_cases hvalid : isValidResponseStatus (.ofUInt8 status) = false
  · rw [if_pos hvalid, if_pos hvalid]
    rfl
  · rw [if_neg hvalid, if_neg hvalid]
    rfl

end Frames

/-! ## Bodies -/

section Bodies

variable {hessian : Hessian2} {b c : Bytes} {context : Context}

/-- Buffers with the same first `k` bytes have the same bytes anywhere among them. -/
theorem take_drop_of_take_eq {k n : ℕ} (off : ℕ) (h : b.take k = c.take k) (hn : off + n ≤ k) :
    (b.drop off).take n = (c.drop off).take n := by
  have hb : (b.drop off).take n = ((b.take k).drop off).take n := by
    rw [List.drop_take, List.take_take, Nat.min_eq_left (by omega)]
  have hc : (c.drop off).take n = ((c.take k).drop off).take n := by
    rw [List.drop_take, List.take_take, Nat.min_eq_left (by omega)]
  rw [hb, hc, h]

/-- A string read within the first `k` bytes is the same in every buffer that has them. -/
theorem decodeString_of_take_eq (hl : hessian.Local) {k n : ℕ} (off : ℕ) {value : String}
    (hk : k ≤ c.length) (h : b.take k = c.take k)
    (hd : hessian.decodeString (b.drop off) = (some value, n)) (hn : off + n ≤ k) :
    hessian.decodeString (c.drop off) = (some value, n) :=
  (hl.decodeString hd).2 _ (take_drop_of_take_eq off h hn) (by rw [List.length_drop]; omega)

/-- An accepted invocation is read from the body alone. -/
theorem deserializeRpcInvocation_local (hl : hessian.Local) (hc : context.bodySize ≤ c.length)
    (h : b.take context.bodySize = c.take context.bodySize) {invocation : RpcInvocation}
    (hd : deserializeRpcInvocation hessian b context = .ok invocation) :
    deserializeRpcInvocation hessian c context = .ok invocation := by
  simp only [deserializeRpcInvocation] at hd
  split_ifs at hd with hsize
  split at hd
  case h_2 => cases hd
  case h_1 v₁ v₂ v₃ v₄ e₁ e₂ e₃ e₄ =>
    generalize h₁ : hessian.decodeString b = r₁ at *
    generalize h₂ : hessian.decodeString (b.drop r₁.2) = r₂ at *
    generalize h₃ : hessian.decodeString (b.drop (r₁.2 + r₂.2)) = r₃ at *
    generalize h₄ : hessian.decodeString (b.drop (r₁.2 + r₂.2 + r₃.2)) = r₄ at *
    obtain ⟨o₁, n₁⟩ := r₁
    obtain ⟨o₂, n₂⟩ := r₂
    obtain ⟨o₃, n₃⟩ := r₃
    obtain ⟨o₄, n₄⟩ := r₄
    obtain rfl : o₁ = some v₁ := e₁
    obtain rfl : o₂ = some v₂ := e₂
    obtain rfl : o₃ = some v₃ := e₃
    obtain rfl : o₄ = some v₄ := e₄
    dsimp only at *
    have g₁ : hessian.decodeString c = (some v₁, n₁) := by
      simpa using decodeString_of_take_eq hl 0 hc h (by simpa using h₁) (by omega)
    have g₂ := decodeString_of_take_eq hl _ hc h h₂ (by omega)
    have g₃ := decodeString_of_take_eq hl _ hc h h₃ (by omega)
    have g₄ := decodeString_of_take_eq hl _ hc h h₄ (by omega)
    simp only [deserializeRpcInvocation, g₁, g₂, g₃, g₄, if_neg hsize]
    exact hd

/-- An accepted result is read from the body alone. -/
theorem deserializeRpcResult_local (hl : hessian.Local) (hc : context.bodySize ≤ c.length)
    (h : b.take context.bodySize = c.take context.bodySize) {result : RpcResult}
    (hd : deserializeRpcResult hessian b context = .ok result) :
    deserializeRpcResult hessian c context = .ok result := by
  simp only [deserializeRpcResult] at hd
  split_ifs at hd with hb
  cases hr : hessian.decodeInt32 b with
  | mk o n =>
    rw [hr] at hd
    cases o with
    | none => cases hd
    | some value =>
      dsimp only at hd
      cases ht : (RpcResponseType.ofInt32 value).hasException with
      | error fault => simp only [ht, reduceCtorEq] at hd
      | ok hasException =>
        simp only [ht] at hd
        have hn : n ≤ context.bodySize := by
          by_contra hn
          rw [if_pos (by omega)] at hd
          cases hd
        have htake := take_drop_of_take_eq 0 h (show 0 + n ≤ _ by omega)
        have hg := (hl.decodeInt32 hr).2 c (by simpa using htake) (by omega)
        simp only [deserializeRpcResult, if_neg (Nat.not_lt.mpr hc), hg, ht]
        exact hd

theorem map_eq_ok_of_imp {α β : Type*} {x y : Except Fault α} {f : α → β} {r : β}
    (h : ∀ a, x = .ok a → y = .ok a) (hx : x.map f = .ok r) : y.map f = .ok r := by
  cases x with
  | error fault => cases hx
  | ok a => rw [h a rfl, ← hx]

theorem map_eq_ok {α β : Type*} {x : Except Fault α} {f : α → β} {r : β}
    (h : x.map f = .ok r) : ∃ a, x = .ok a ∧ f a = r := by
  cases x with
  | error fault => cases h
  | ok a =>
    cases h
    exact ⟨a, rfl, rfl⟩

theorem eq_error_of_map {α β : Type*} {x : Except Fault α} {f : α → β} {fault : Fault}
    (h : x.map f = .error fault) : x = .error fault := by
  cases x with
  | error fault' =>
    cases h
    rfl
  | ok a => cases h

/-- An accepted body is accepted in every buffer that starts with it. -/
theorem decodeData_local (hl : hessian.Local) (hb : context.bodySize ≤ b.length)
    (hc : context.bodySize ≤ c.length) (h : b.take context.bodySize = c.take context.bodySize)
    {metadata : MessageMetadata} {result : Option MessageMetadata}
    (hd : decodeData hessian b context metadata = .ok result) :
    decodeData hessian c context metadata = .ok result := by
  simp only [decodeData, if_neg (Nat.not_lt.mpr hb)] at hd
  simp only [decodeData, if_neg (Nat.not_lt.mpr hc)]
  cases hm : metadata.messageType <;> simp only [hm] at hd ⊢
  case response =>
    exact map_eq_ok_of_imp (fun _ => deserializeRpcResult_local hl hc h) hd
  case oneway =>
    exact map_eq_ok_of_imp (fun _ => deserializeRpcInvocation_local hl hc h) hd
  case request =>
    exact map_eq_ok_of_imp (fun _ => deserializeRpcInvocation_local hl hc h) hd
  all_goals cases hd

theorem deserializeRpcInvocation_error {fault : Fault}
    (h : deserializeRpcInvocation hessian b context = .error fault) :
    fault.IsException := by
  simp only [deserializeRpcInvocation] at h
  split_ifs at h with hsize
  · cases h
    exact ⟨_, rfl, by simp⟩
  · split at h <;> cases h
    exact ⟨_, rfl, by simp⟩

theorem RpcResponseType.hasException_error {type : RpcResponseType} {fault : Fault}
    (h : type.hasException = .error fault) : fault.IsException := by
  cases type <;> cases h
  exact ⟨_, rfl, by simp [toString]⟩

theorem deserializeRpcResult_error (hb : context.bodySize ≤ b.length) {fault : Fault}
    (h : deserializeRpcResult hessian b context = .error fault) :
    fault.IsException := by
  simp only [deserializeRpcResult, if_neg (Nat.not_lt.mpr hb)] at h
  rcases hr : hessian.decodeInt32 b with ⟨_ | value, n⟩
  · simp only [hr, Except.error.injEq] at h
    exact ⟨_, h.symm, by simp⟩
  · simp only [hr] at h
    cases ht : (RpcResponseType.ofInt32 value).hasException with
    | error fault' =>
      simp only [ht, Except.error.injEq] at h
      exact h ▸ RpcResponseType.hasException_error ht
    | ok hasException =>
      simp only [ht] at h
      split_ifs at h <;> cases h <;> exact ⟨_, rfl, by simp⟩

/-- A body that is rejected is rejected with an `EnvoyException`. -/
theorem decodeData_error {metadata : MessageMetadata} {fault : Fault}
    (hm : metadata.messageType.isHeartbeat = false) (he : metadata.messageType ≠ .exception)
    (h : decodeData hessian b context metadata = .error fault) :
    fault.IsException := by
  simp only [decodeData] at h
  split_ifs at h with hb
  cases hmt : metadata.messageType <;> simp only [hmt] at h hm he
  case exception => exact absurd rfl he
  case heartbeatRequest => cases hm
  case heartbeatResponse => cases hm
  case response => exact deserializeRpcResult_error (Nat.not_lt.mp hb) (eq_error_of_map h)
  case oneway => exact deserializeRpcInvocation_error (eq_error_of_map h)
  case request => exact deserializeRpcInvocation_error (eq_error_of_map h)

/-- A body adds an invocation to the metadata of a request, and to that of a response whether
it is an exception. -/
theorem decodeData_spec {metadata metadata' : MessageMetadata}
    (h : decodeData hessian b context metadata = .ok (some metadata')) :
    context.bodySize ≤ b.length ∧ (Usual metadata → Usual metadata') ∧
      metadata'.requestId = metadata.requestId ∧
      (metadata.messageType.isRequest = true → metadata'.messageType = metadata.messageType) ∧
      (metadata.messageType.isRequest = false →
        metadata'.messageType = .response ∨ metadata'.messageType = .exception) := by
  simp only [decodeData] at h
  split_ifs at h with hb
  · cases h
  refine ⟨Nat.not_lt.mp hb, ?_⟩
  cases hm : metadata.messageType <;> simp only [hm] at h
  case response =>
    obtain ⟨result, -, hresult⟩ := map_eq_ok h
    obtain rfl := Option.some.inj hresult
    cases result.hasException <;>
      exact ⟨fun h => ⟨h.timeout, h.serializationType⟩, by simp [hm, MessageType.isRequest]⟩
  case oneway =>
    obtain ⟨invocation, -, hresult⟩ := map_eq_ok h
    obtain rfl := Option.some.inj hresult
    exact ⟨fun h => ⟨h.timeout, h.serializationType⟩, by simp [MessageType.isRequest]⟩
  case request =>
    obtain ⟨invocation, -, hresult⟩ := map_eq_ok h
    obtain rfl := Option.some.inj hresult
    exact ⟨fun h => ⟨h.timeout, h.serializationType⟩, by simp [MessageType.isRequest]⟩
  all_goals cases h

theorem decodeData_of_short (h : b.length < context.bodySize) (metadata : MessageMetadata) :
    decodeData hessian b context metadata = .ok none := by
  rw [decodeData, if_pos h]

/-- A complete body is decided. -/
theorem decodeData_ne_none (hb : context.bodySize ≤ b.length) (metadata : MessageMetadata) :
    decodeData hessian b context metadata ≠ .ok none := by
  rw [decodeData, if_neg (Nat.not_lt.mpr hb)]
  cases metadata.messageType <;> simp only [ne_eq, reduceCtorEq, not_false_eq_true]
  case response => cases deserializeRpcResult hessian b context <;> simp [Except.map]
  all_goals cases deserializeRpcInvocation hessian b context <;> simp [Except.map]

end Bodies

end MetaProtocolProxy.Dubbo

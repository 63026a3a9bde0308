import MetaProtocolProxy.Codec
import MetaProtocolProxy.DubboProtocol

/-!
# The Dubbo codec

`DubboCodec` of `dubbo_codec.cc` : a state machine that takes the header of a frame out
of the buffer, then its body, and the conversions between the Dubbo metadata and the
generic one.

The codec has its own invariant (`Sound`) : between two calls there is no state machine,
or one that waits for a header, or one that waits for the body behind its header. Under
it `decode` ends in nothing but a message, a wait or an `EnvoyException`
(`regular_decode`), and every message it accepts can be replied to
(`onError_of_replyable`).
-/

namespace MetaProtocolProxy.Dubbo

/-! ## The state machine -/

/-- The states of the Dubbo state machine. -/
inductive ProtocolState where
  | stopIteration | waitForData | onDecodeStreamHeader | onDecodeStreamData | done
deriving DecidableEq, Repr

/-- The Dubbo state machine, from one call to the next. -/
structure DecoderStateMachine where
  metadata : MessageMetadata := {}
  context : Option Context := none
  state : ProtocolState := .onDecodeStreamHeader
deriving DecidableEq, Repr

namespace DecoderStateMachine

/-- A state handler leaves the machine and the buffer behind, and names the next state. -/
abbrev Outcome := DecoderStateMachine × Bytes × Except Fault ProtocolState

/-- `onDecodeStreamHeader`. -/
def onDecodeStreamHeader (machine : DecoderStateMachine) (buffer : Bytes) : Outcome :=
  match decodeHeader buffer machine.metadata with
  | .error fault => (machine, buffer, .error fault)
  | .ok none => (machine, buffer, .ok .waitForData)
  | .ok (some (context, metadata)) =>
    if metadata.messageType = .heartbeatRequest ∨ metadata.messageType = .heartbeatResponse then
      let size := context.headerSize + context.bodySize
      if buffer.length < size then
        -- The header stays in the buffer and is parsed again with the next bytes.
        ({ machine with metadata, context := some context }, buffer, .ok .waitForData)
      else
        let context :=
          { context with originMessage := context.originMessage ++ buffer.take size }
        ({ machine with metadata, context := some context }, buffer.drop size, .ok .done)
    else
      let context :=
        { context with originMessage := context.originMessage ++ buffer.take context.headerSize }
      ({ machine with metadata, context := some context }, buffer.drop context.headerSize,
        .ok .onDecodeStreamData)

/-- `onDecodeStreamData`. -/
def onDecodeStreamData (hessian : Hessian2) (machine : DecoderStateMachine) (buffer : Bytes) :
    Outcome :=
  match machine.context with
  | none => (machine, buffer, .error (.panic "null context in onDecodeStreamData"))
  | some context =>
    match decodeData hessian buffer context machine.metadata with
    | .error fault => (machine, buffer, .error fault)
    | .ok none => (machine, buffer, .ok .waitForData)
    | .ok (some metadata) =>
      let context :=
        { context with originMessage := context.originMessage ++ buffer.take context.bodySize }
      ({ machine with metadata, context := some context }, buffer.drop context.bodySize, .ok .done)

/-- `handleState` : one turn of `run`. -/
def handleState (hessian : Hessian2) (machine : DecoderStateMachine) (buffer : Bytes) : Outcome :=
  match machine.state with
  | .onDecodeStreamHeader => machine.onDecodeStreamHeader buffer
  | .onDecodeStreamData => machine.onDecodeStreamData hessian buffer
  | _ => (machine, buffer, .error (.panic "NOT_REACHED in handleState"))

/-- The loop of `run`, for `fuel` states. -/
def runFor (hessian : Hessian2) : ℕ → DecoderStateMachine → Bytes → Outcome
  | 0, machine, buffer => (machine, buffer, .ok machine.state)
  | fuel + 1, machine, buffer =>
    if machine.state = .done then (machine, buffer, .ok .done)
    else
      match machine.handleState hessian buffer with
      | (machine, buffer, .error fault) => (machine, buffer, .error fault)
      | (machine, buffer, .ok .waitForData) => (machine, buffer, .ok .waitForData)
      | (machine, buffer, .ok nextState) =>
        runFor hessian fuel { machine with state := nextState } buffer

/-- `run`. The header state is followed by the body state or by the end, and the body
state by the end, so the loop handles two states at most (`runFor_eq_run`). -/
def run (hessian : Hessian2) (machine : DecoderStateMachine) (buffer : Bytes) : Outcome :=
  runFor hessian 2 machine buffer

end DecoderStateMachine

namespace DecoderStateMachine

theorem runFor_done (hessian : Hessian2) {machine : DecoderStateMachine}
    (hs : machine.state = .done) (buffer : Bytes) :
    ∀ fuel, runFor hessian fuel machine buffer = (machine, buffer, .ok .done)
  | 0 => by rw [runFor, hs]
  | _ + 1 => by rw [runFor, if_pos hs]

theorem runFor_data (hessian : Hessian2) {machine : DecoderStateMachine}
    (hs : machine.state = .onDecodeStreamData) (buffer : Bytes) (fuel : ℕ) :
    runFor hessian (fuel + 1) machine buffer = runFor hessian 1 machine buffer := by
  simp only [runFor, handleState, onDecodeStreamData, hs, reduceCtorEq, if_false]
  cases machine.context with
  | none => rfl
  | some context =>
    dsimp only
    rcases decodeData hessian buffer context machine.metadata with fault | _ | metadata
    · rfl
    · rfl
    · exact runFor_done hessian rfl _ fuel

/-- More fuel than `run` has changes nothing. -/
theorem runFor_eq_run (hessian : Hessian2) {machine : DecoderStateMachine}
    (hs : machine.state = .onDecodeStreamHeader ∨ machine.state = .onDecodeStreamData)
    (buffer : Bytes) (fuel : ℕ) :
    runFor hessian (fuel + 2) machine buffer = run hessian machine buffer := by
  rcases hs with hs | hs
  · rw [run]
    unfold runFor
    simp only [handleState, onDecodeStreamHeader, hs, reduceCtorEq, if_false]
    rcases decodeHeader buffer machine.metadata with fault | _ | ⟨context, metadata⟩
    · rfl
    · rfl
    · dsimp only
      split_ifs
      · rfl
      · exact runFor_done hessian rfl _ _
      · exact runFor_data hessian rfl _ _
  · exact (runFor_data hessian hs buffer (fuel + 1)).trans (runFor_data hessian hs buffer 1).symm

end DecoderStateMachine

/-! ## The conversions -/

namespace DubboCodec

/-- `toMetadata`, on what the metadata holds so far. -/
def toMetadata (msgMetadata : MessageMetadata) (metadata : Metadata) : Metadata :=
  let metadata :=
    match msgMetadata.invocationInfo with
    | some invocation =>
      ((metadata.putString "interface" invocation.serviceName).putString "method"
        invocation.methodName).put "InvocationInfo" (.rpcInvocation invocation)
    | none => metadata
  let metadata := metadata.put "ProtocolType" (.protocolType msgMetadata.protoType)
  let metadata := metadata.put "ProtocolVersion" (.uint8 msgMetadata.protocolVersion)
  let metadata := metadata.put "MessageType" (.messageType msgMetadata.messageType)
  let metadata := { metadata with requestId := msgMetadata.requestId.toUInt64 }
  let metadata :=
    match msgMetadata.timeout with
    -- The optional itself is stored, not the number in it.
    | some _ => metadata.put "Timeout" (.optionalUInt32 msgMetadata.timeout)
    | none => metadata
  let metadata := metadata.put "TwoWay" (.bool msgMetadata.isTwoWay)
  let metadata :=
    metadata.put "SerializationType" (.serializationType msgMetadata.serializationType)
  let metadata :=
    match msgMetadata.responseStatus with
    | some status => metadata.put "ResponseStatus" (.responseStatus status)
    | none => metadata
  let metadata :=
    { metadata with
      messageType :=
        match msgMetadata.messageType with
        | .request => .request
        | .response => .response
        | .oneway => .oneway
        | .exception => .error
        | .heartbeatRequest | .heartbeatResponse => .heartbeat }
  match msgMetadata.responseStatus with
  | some status =>
    { metadata with responseStatus := if status = .ok then .ok else .error }
  | none => metadata

/-- `toMetadata` with the context of the frame. -/
def toMetadataWithContext (msgMetadata : MessageMetadata) (context : Context)
    (metadata : Metadata) : Metadata :=
  { toMetadata msgMetadata metadata with
    headerSize := context.headerSize
    bodySize := context.bodySize
    originMessage := context.originMessage }

/-- `std::any_cast`, through the view of a value at the type asked for. -/
def anyCast {α : Type} (view : AnyValue → Option α) (value : AnyValue) : Except Fault α :=
  match view value with
  | some a => .ok a
  | none => .error (.panic "bad_any_cast")

/-- A property that is asserted to be there. -/
def required {α : Type} (view : AnyValue → Option α) (metadata : Metadata) (key : String) :
    Except Fault α :=
  match metadata.get key with
  | some value => anyCast view value
  | none => .error (.panic "assert(ref.has_value())")

/-- A property that may be missing. -/
def optional {α : Type} (view : AnyValue → Option α) (metadata : Metadata) (key : String) :
    Except Fault (Option α) :=
  match metadata.get key with
  | some value => (anyCast view value).map some
  | none => .ok none

/-- `toMsgMetadata`, on a fresh `MessageMetadata`. -/
def toMsgMetadata (metadata : Metadata) : Except Fault MessageMetadata := do
  let invocationInfo ← optional (fun | .rpcInvocation i => some i | _ => none) metadata
    "InvocationInfo"
  let protoType ← required (fun | .protocolType t => some t | _ => none) metadata "ProtocolType"
  let protocolVersion ← required (fun | .uint8 v => some v | _ => none) metadata "ProtocolVersion"
  let messageType ← required (fun | .messageType t => some t | _ => none) metadata "MessageType"
  let timeout ← optional (fun | .uint32 t => some t | _ => none) metadata "Timeout"
  let isTwoWay ← required (fun | .bool b => some b | _ => none) metadata "TwoWay"
  let serializationType ←
    required (fun | .serializationType t => some t | _ => none) metadata "SerializationType"
  let responseStatus ←
    optional (fun | .responseStatus s => some s | _ => none) metadata "ResponseStatus"
  return { requestId := metadata.requestId.toInt64, invocationInfo, protoType, protocolVersion,
           messageType, timeout, isTwoWay, serializationType, responseStatus }

/-! ## The codec -/

/-- `decode_started_` and the state machine : there is a machine while a frame is being
decoded. -/
abbrev State := Option DecoderStateMachine

/-- `DubboCodec::decode`. -/
def decode (hessian : Hessian2) (codec : State) (buffer : Bytes) : Decoding State :=
  let machine := codec.getD {}
  match machine.run hessian buffer with
  | (machine, buffer, .error fault) => ⟨some machine, buffer, .throw fault⟩
  | (machine, buffer, .ok .waitForData) => ⟨some machine, buffer, .waitForData⟩
  | (machine, buffer, .ok .done) =>
    match machine.context with
    | none => ⟨some machine, buffer, .throw (.panic "null message context")⟩
    | some context =>
      ⟨none, buffer, .done (toMetadataWithContext machine.metadata context {})⟩
  | (machine, buffer, .ok _) =>
    ⟨some machine, buffer, .throw (.panic "ASSERT(state == ProtocolState::Done)")⟩

/-- `encodeHeartbeat`. -/
def encodeHeartbeat (hessian : Hessian2) (metadata : Metadata) : Except Fault Bytes := do
  let msgMetadata ← toMsgMetadata metadata
  Dubbo.encode hessian
    { msgMetadata with responseStatus := some .ok, messageType := .heartbeatResponse } ""
    .responseWithValue

/-- `DubboCodec::encode`. -/
def encode (hessian : Hessian2) (metadata : Metadata) : Except Fault Bytes :=
  match metadata.messageType with
  | .heartbeat => encodeHeartbeat hessian metadata
  | .request | .error => .ok []
  | .response | .oneway => .error (.panic "NOT_REACHED in encode")

/-- The Dubbo status of an error reply. -/
def errorStatus : ErrorType → ResponseStatus
  | .routeNotFound => .serviceNotFound
  | .badResponse => .badResponse
  | _ => .serverError

/-- `DubboCodec::onError`. -/
def onError (hessian : Hessian2) (metadata : Metadata) (error : Error) : Except Fault Bytes := do
  let msgMetadata ← toMsgMetadata metadata
  Dubbo.encode hessian
    { msgMetadata with responseStatus := some (errorStatus error.type), messageType := .response }
    error.message .responseWithException

/-- `DubboCodec`. Only `decode` has a state. -/
def codec (hessian : Hessian2) : Codec State where
  init := none
  decode := decode hessian
  encode _ := encode hessian
  onError _ := onError hessian

end DubboCodec

/-! ## One call of `decode` -/

namespace DubboCodec

open DecoderStateMachine

variable {hessian : Hessian2} {machine : DecoderStateMachine} {buffer : Bytes} {context : Context}
  {metadata : MessageMetadata} {fault : Fault}

theorem isHeartbeat_iff : metadata.messageType.isHeartbeat = true ↔
    metadata.messageType = .heartbeatRequest ∨ metadata.messageType = .heartbeatResponse := by
  cases metadata.messageType <;> simp [MessageType.isHeartbeat]

/-- A frame is started where no machine is. -/
theorem decode_none : decode hessian none buffer = decode hessian (some {}) buffer :=
  rfl

section Header

variable (hs : machine.state = .onDecodeStreamHeader)
include hs

theorem decode_header_error (h : decodeHeader buffer machine.metadata = .error fault) :
    decode hessian (some machine) buffer = ⟨some machine, buffer, .throw fault⟩ := by
  simp [decode, run, runFor, handleState, onDecodeStreamHeader, hs, h]

theorem decode_header_none (h : decodeHeader buffer machine.metadata = .ok none) :
    decode hessian (some machine) buffer = ⟨some machine, buffer, .waitForData⟩ := by
  simp [decode, run, runFor, handleState, onDecodeStreamHeader, hs, h]

variable (h : decodeHeader buffer machine.metadata = .ok (some (context, metadata)))
include h

/-- A heartbeat waits for its body in front of its header. -/
theorem decode_heartbeat_short (hb : metadata.messageType.isHeartbeat = true)
    (hl : buffer.length < context.headerSize + context.bodySize) :
    decode hessian (some machine) buffer =
      ⟨some { machine with metadata, context := some context }, buffer, .waitForData⟩ := by
  have hb' := isHeartbeat_iff.mp hb
  simp [decode, run, runFor, handleState, onDecodeStreamHeader, hs, h, hb', hl]

theorem decode_heartbeat (hb : metadata.messageType.isHeartbeat = true)
    (hl : context.headerSize + context.bodySize ≤ buffer.length) :
    decode hessian (some machine) buffer =
      ⟨none, buffer.drop (context.headerSize + context.bodySize),
        .done (toMetadataWithContext metadata
          { context with originMessage := context.originMessage ++
              buffer.take (context.headerSize + context.bodySize) } {})⟩ := by
  have hb' := isHeartbeat_iff.mp hb
  have hl' := Nat.not_lt.mpr hl
  simp [decode, run, runFor, handleState, onDecodeStreamHeader, hs, h, hb', hl']

/-- Behind any other header the machine goes on with the body. -/
theorem decode_header (hb : metadata.messageType.isHeartbeat = false) :
    decode hessian (some machine) buffer =
      decode hessian (some
        { metadata, state := .onDecodeStreamData,
          context := some { context with
            originMessage := context.originMessage ++ buffer.take context.headerSize } })
        (buffer.drop context.headerSize) := by
  have hb' : ¬(metadata.messageType = .heartbeatRequest ∨
      metadata.messageType = .heartbeatResponse) := by
    rw [← isHeartbeat_iff, hb]
    simp
  have hstep : machine.handleState hessian buffer =
      ({ machine with metadata, context := some { context with
            originMessage := context.originMessage ++ buffer.take context.headerSize } },
        buffer.drop context.headerSize, .ok .onDecodeStreamData) := by
    simp [handleState, onDecodeStreamHeader, hs, h, hb']
  simp only [decode, run, runFor, hstep, hs, Option.getD_some, reduceCtorEq, if_false]
  simp only [handleState, onDecodeStreamData]
  rcases decodeData hessian (buffer.drop context.headerSize)
    { context with originMessage := context.originMessage ++ buffer.take context.headerSize }
    metadata with f | _ | m <;> simp

end Header

section Data

variable (hs : machine.state = .onDecodeStreamData) (hc : machine.context = some context)
include hs hc

theorem decode_data_error (h : decodeData hessian buffer context machine.metadata = .error fault) :
    decode hessian (some machine) buffer = ⟨some machine, buffer, .throw fault⟩ := by
  simp [decode, run, runFor, handleState, onDecodeStreamData, hs, hc, h]

theorem decode_data_none (h : decodeData hessian buffer context machine.metadata = .ok none) :
    decode hessian (some machine) buffer = ⟨some machine, buffer, .waitForData⟩ := by
  simp [decode, run, runFor, handleState, onDecodeStreamData, hs, hc, h]

theorem decode_data_done
    (h : decodeData hessian buffer context machine.metadata = .ok (some metadata)) :
    decode hessian (some machine) buffer =
      ⟨none, buffer.drop context.bodySize,
        .done (toMetadataWithContext metadata
          { context with originMessage := context.originMessage ++
              buffer.take context.bodySize } {})⟩ := by
  simp [decode, run, runFor, handleState, onDecodeStreamData, hs, hc, h]

end Data

/-! ## The conversions, back and forth -/

theorem requestId_toMetadataWithContext (metadata : MessageMetadata) (context : Context) :
    (toMetadataWithContext metadata context {}).requestId = metadata.requestId.toUInt64 := by
  unfold toMetadataWithContext toMetadata
  cases metadata.responseStatus <;> cases metadata.timeout <;> rfl

/-- The generic type of a Dubbo message. -/
theorem messageType_toMetadataWithContext (metadata : MessageMetadata) (context : Context) :
    (toMetadataWithContext metadata context {}).messageType =
      match metadata.messageType with
      | .request => .request
      | .response => .response
      | .oneway => .oneway
      | .exception => .error
      | .heartbeatRequest | .heartbeatResponse => .heartbeat := by
  unfold toMetadataWithContext toMetadata
  cases metadata.responseStatus <;> rfl

/-- The properties of a decoded message. -/
theorem get_toMetadataWithContext (h : metadata.timeout = none) (context : Context)
    (key : String) :
    (toMetadataWithContext metadata context {}).get key =
      if key = "interface" then metadata.invocationInfo.map fun i => .string i.serviceName
      else if key = "method" then metadata.invocationInfo.map fun i => .string i.methodName
      else if key = "InvocationInfo" then metadata.invocationInfo.map .rpcInvocation
      else if key = "ProtocolType" then some (.protocolType metadata.protoType)
      else if key = "ProtocolVersion" then some (.uint8 metadata.protocolVersion)
      else if key = "MessageType" then some (.messageType metadata.messageType)
      else if key = "TwoWay" then some (.bool metadata.isTwoWay)
      else if key = "SerializationType" then
        some (.serializationType metadata.serializationType)
      else if key = "ResponseStatus" then metadata.responseStatus.map .responseStatus
      else none := by
  cases hi : metadata.invocationInfo <;> cases hr : metadata.responseStatus <;>
    simp only [toMetadataWithContext, toMetadata, Metadata.get, Metadata.put, Metadata.putString,
      Properties.get_put, Properties.get_nil, h, hi, hr] <;>
    grind

/-- What `toMetadata` stored is what `toMsgMetadata` reads, as long as there is no timeout. -/
theorem toMsgMetadata_toMetadata (h : metadata.timeout = none) (originMessage : Bytes)
    (type : MetaProtocolProxy.MessageType) :
    toMsgMetadata { toMetadataWithContext metadata context {} with
      originMessage, messageType := type } = .ok metadata := by
  have hget : ∀ key, ({ toMetadataWithContext metadata context {} with
      originMessage, messageType := type } : Metadata).get key = _ :=
    get_toMetadataWithContext h context
  have hid : ({ toMetadataWithContext metadata context {} with
      originMessage, messageType := type } : Metadata).requestId.toInt64 = metadata.requestId := by
    rw [show _ = _ from requestId_toMetadataWithContext metadata context]
    rfl
  generalize ({ toMetadataWithContext metadata context {} with
    originMessage, messageType := type } : Metadata) = stored at hget hid ⊢
  obtain ⟨isTwoWay, messageType, protoType, responseStatus, timeout, invocationInfo,
    serializationType, protocolVersion, requestId⟩ := metadata
  obtain rfl : timeout = none := h
  cases invocationInfo <;> cases responseStatus <;>
    simp [toMsgMetadata, required, optional, hget, hid, anyCast, Except.map, bind, Except.bind,
      pure, Except.pure]

/-- The metadata converts back to one that answers the same request, whatever became of the
original message. -/
def Replyable (metadata : Metadata) : Prop :=
  ∃ msgMetadata : MessageMetadata, Usual msgMetadata ∧
    msgMetadata.requestId.toUInt64 = metadata.requestId ∧
    ∀ originMessage type,
      toMsgMetadata { metadata with originMessage, messageType := type } = .ok msgMetadata

theorem Replyable.toMsgMetadata {metadata : Metadata} (h : Replyable metadata) :
    ∃ msgMetadata : MessageMetadata, Usual msgMetadata ∧
      msgMetadata.requestId.toUInt64 = metadata.requestId ∧
      DubboCodec.toMsgMetadata metadata = .ok msgMetadata := by
  obtain ⟨msgMetadata, husual, hid, hmsg⟩ := h
  exact ⟨msgMetadata, husual, hid, hmsg metadata.originMessage metadata.messageType⟩

theorem Replyable.originMessage {metadata : Metadata} (h : Replyable metadata)
    (originMessage : Bytes) : Replyable { metadata with originMessage } := by
  obtain ⟨msgMetadata, husual, hid, hmsg⟩ := h
  exact ⟨msgMetadata, husual, hid, fun originMessage type => hmsg originMessage type⟩

theorem replyable_toMetadata (h : Usual metadata) (context : Context) :
    Replyable (toMetadataWithContext metadata context {}) :=
  ⟨metadata, h, (requestId_toMetadataWithContext metadata context).symm,
    toMsgMetadata_toMetadata h.timeout⟩

/-! ## Between two calls -/

/-- The flags of a frame that starts with these bytes say a message type. -/
structure Flagged (frame : Bytes) (type : MessageType) : Prop where
  length : messageSize ≤ frame.length
  isHeartbeat : type.isHeartbeat = true ↔ peekByte flagOffset frame &&& eventMask = eventMask
  isRequest : type.isRequest = true ↔
    peekByte flagOffset frame &&& messageTypeMask = messageTypeMask

theorem Flagged.append {frame : Bytes} {type : MessageType} (h : Flagged frame type) (x : Bytes) :
    Flagged (frame ++ x) type := by
  have hflag : peekByte flagOffset (frame ++ x) = peekByte flagOffset frame :=
    peekByte_append (Nat.le_trans (by decide) h.length) x
  refine ⟨?_, hflag ▸ h.isHeartbeat, hflag ▸ h.isRequest⟩
  rw [List.length_append]
  exact Nat.le_add_right_of_le h.length

theorem flagged_take (h : HeaderOf buffer context metadata) {size : ℕ}
    (hsize : messageSize ≤ size) : Flagged (buffer.take size) metadata.messageType := by
  have hflag : peekByte flagOffset (buffer.take size) = peekByte flagOffset buffer := by
    rw [peekByte, peekByte, BigEndian.peek_take (Nat.le_trans (by decide) hsize)]
  refine ⟨?_, hflag ▸ h.isHeartbeat, hflag ▸ h.isRequest⟩
  rw [List.length_take]
  exact Nat.le_min.mpr ⟨hsize, h.length⟩

/-- With its body a message is what its flags have said. -/
theorem Flagged.decodeData {frame : Bytes} {metadata' : MessageMetadata}
    (h : Flagged frame metadata.messageType) (hb : metadata.messageType.isHeartbeat = false)
    (hd : Dubbo.decodeData hessian buffer context metadata = .ok (some metadata')) :
    metadata'.messageType.isHeartbeat = false ∧ Flagged frame metadata'.messageType := by
  obtain ⟨-, -, -, hrequest, hresponse⟩ := decodeData_spec hd
  cases hr : metadata.messageType.isRequest with
  | true =>
    rw [hrequest hr]
    exact ⟨hb, h⟩
  | false =>
    have hb' : metadata'.messageType.isHeartbeat = false := by
      rcases hresponse hr with h | h <;> rw [h] <;> rfl
    have hr' : metadata'.messageType.isRequest = false := by
      rcases hresponse hr with h | h <;> rw [h] <;> rfl
    exact ⟨hb', h.length, hb'.trans hb.symm ▸ h.isHeartbeat, hr'.trans hr.symm ▸ h.isRequest⟩

/-- The machine waits for a header, or for the body behind the header it has read. -/
inductive Sound : State → Prop
  | idle : Sound none
  | header {machine : DecoderStateMachine} (hs : machine.state = .onDecodeStreamHeader)
      (ht : Usual machine.metadata) : Sound (some machine)
  | data {machine : DecoderStateMachine} {context : Context}
      (hs : machine.state = .onDecodeStreamData) (hc : machine.context = some context)
      (hb : machine.metadata.messageType.isHeartbeat = false)
      (he : machine.metadata.messageType ≠ .exception) (ht : Usual machine.metadata)
      (hf : Flagged context.originMessage machine.metadata.messageType) : Sound (some machine)

/-- What is known of a decoded message. -/
structure Accepted (metadata : Metadata) : Prop where
  replyable : Replyable metadata
  /-- It is a response exactly if neither the request flag nor the event flag is set. -/
  flag : (metadata.messageType = .response ∨ metadata.messageType = .error) ↔
    peekByte flagOffset metadata.originMessage &&& (messageTypeMask ||| eventMask) = 0

theorem flags_eq_zero_iff (flag : UInt8) : flag &&& (messageTypeMask ||| eventMask) = 0 ↔
    ¬flag &&& eventMask = eventMask ∧ ¬flag &&& messageTypeMask = messageTypeMask := by
  have h : ∀ n : Fin 256, UInt8.ofFin n &&& (messageTypeMask ||| eventMask) = 0 ↔
      ¬UInt8.ofFin n &&& eventMask = eventMask ∧
        ¬UInt8.ofFin n &&& messageTypeMask = messageTypeMask := by
    decide +kernel
  exact h flag.toFin

theorem accepted_toMetadata (ht : Usual metadata)
    (hf : Flagged context.originMessage metadata.messageType) :
    Accepted (toMetadataWithContext metadata context {}) := by
  refine ⟨replyable_toMetadata ht context, ?_⟩
  rw [flags_eq_zero_iff, messageType_toMetadataWithContext]
  change _ ↔ ¬peekByte flagOffset context.originMessage &&& eventMask = eventMask ∧
    ¬peekByte flagOffset context.originMessage &&& messageTypeMask = messageTypeMask
  rw [← hf.isHeartbeat, ← hf.isRequest]
  cases metadata.messageType <;> simp [MessageType.isHeartbeat, MessageType.isRequest]

/-- How a call of `decode` from a sound state ends. -/
structure Regular (decoding : Decoding State) : Prop where
  sound : Sound decoding.codec
  accepted : ∀ {metadata}, decoding.status = .done metadata → Accepted metadata
  exception : ∀ {fault}, decoding.status = .throw fault → fault.IsException

section Regular

variable {s : State} {buffer' : Bytes}

theorem regular_wait (h : Sound s) : Regular ⟨s, buffer', .waitForData⟩ :=
  ⟨h, by rintro _ ⟨⟩, by rintro _ ⟨⟩⟩

theorem regular_throw (h : Sound s) (hf : fault.IsException) :
    Regular ⟨s, buffer', .throw fault⟩ := by
  refine ⟨h, by rintro _ ⟨⟩, ?_⟩
  rintro _ ⟨⟩
  exact hf

theorem regular_done {metadata : Metadata} (h : Accepted metadata) :
    Regular ⟨none, buffer', .done metadata⟩ := by
  refine ⟨.idle, ?_, by rintro _ ⟨⟩⟩
  rintro _ ⟨⟩
  exact h

theorem regular_decode_data (hs : machine.state = .onDecodeStreamData)
    (hc : machine.context = some context)
    (hb : machine.metadata.messageType.isHeartbeat = false)
    (he : machine.metadata.messageType ≠ .exception) (ht : Usual machine.metadata)
    (hf : Flagged context.originMessage machine.metadata.messageType) (buffer : Bytes) :
    Regular (decode hessian (some machine) buffer) := by
  rcases hd : decodeData hessian buffer context machine.metadata with fault | _ | metadata
  · rw [decode_data_error hs hc hd]
    exact regular_throw (.data hs hc hb he ht hf) (decodeData_error hb he hd)
  · rw [decode_data_none hs hc hd]
    exact regular_wait (.data hs hc hb he ht hf)
  · obtain ⟨-, husual, -⟩ := decodeData_spec hd
    rw [decode_data_done hs hc hd]
    exact regular_done (accepted_toMetadata (husual ht) ((hf.decodeData hb hd).2.append _))

theorem regular_decode_header (hs : machine.state = .onDecodeStreamHeader)
    (ht : Usual machine.metadata) (buffer : Bytes) :
    Regular (decode hessian (some machine) buffer) := by
  rcases hd : decodeHeader buffer machine.metadata with fault | _ | ⟨context, metadata⟩
  · rw [decode_header_error hs hd]
    exact regular_throw (.header hs ht) (decodeHeader_error hd)
  · rw [decode_header_none hs hd]
    exact regular_wait (.header hs ht)
  have hspec := decodeHeader_spec hd
  have husual := decodeHeader_usual hd ht
  cases hb : metadata.messageType.isHeartbeat with
  | false =>
    rw [decode_header hs hd hb]
    refine regular_decode_data rfl rfl hb hspec.messageType husual ?_ _
    rw [hspec.originMessage, hspec.headerSize, List.nil_append]
    exact flagged_take hspec (Nat.le_refl _)
  | true =>
    by_cases hl : buffer.length < context.headerSize + context.bodySize
    · rw [decode_heartbeat_short hs hd hb hl]
      exact regular_wait (.header hs husual)
    · rw [decode_heartbeat hs hd hb (Nat.not_lt.mp hl)]
      refine regular_done (accepted_toMetadata husual ?_)
      rw [hspec.originMessage, hspec.headerSize, List.nil_append]
      exact flagged_take hspec (Nat.le_add_right _ _)

end Regular

/-- From a sound state `decode` waits, accepts a message or throws an `EnvoyException`, and
is sound again. -/
theorem regular_decode (hessian : Hessian2) {s : State} (hs : Sound s) (buffer : Bytes) :
    Regular (decode hessian s buffer) := by
  cases hs with
  | idle =>
    rw [decode_none]
    exact regular_decode_header rfl ⟨rfl, rfl⟩ buffer
  | header hs ht => exact regular_decode_header hs ht buffer
  | data hs hc hb he ht hf => exact regular_decode_data hs hc hb he ht hf buffer

/-- The states a codec can come to, in any chunks. -/
inductive Reached (hessian : Hessian2) : State → Prop
  | init : Reached hessian (codec hessian).init
  | decode {s : State} (h : Reached hessian s) (buffer : Bytes) :
      Reached hessian (decode hessian s buffer).codec

theorem Reached.sound {s : State} (h : Reached hessian s) : Sound s := by
  induction h with
  | init => exact .idle
  | decode _ buffer ih => exact (regular_decode hessian ih buffer).sound

/-! ## Replies -/

theorem onError_of_replyable (hessian : Hessian2) {metadata : Metadata} (h : Replyable metadata)
    {error : Error}
    (he : error.message ≠ "") : ∃ bytes, onError hessian metadata error = .ok bytes := by
  obtain ⟨msgMetadata, -, -, hmsg⟩ := h.toMsgMetadata
  simp [onError, hmsg, bind, Except.bind, Dubbo.encode, he]

theorem encode_heartbeat_of_replyable (hessian : Hessian2) {metadata : Metadata}
    (h : Replyable metadata) :
    ∃ bytes, encode hessian { metadata with messageType := .heartbeat } = .ok bytes := by
  obtain ⟨msgMetadata, -, -, hmsg⟩ := h
  have hmsg' := hmsg metadata.originMessage .heartbeat
  simp [encode, encodeHeartbeat, hmsg', bind, Except.bind, Dubbo.encode]

theorem keeps_codec (hessian : Hessian2) : (codec hessian).Keeps Sound Replyable where
  init := .idle
  decode hs buffer := (regular_decode hessian hs buffer).sound
  done hs hd := ((regular_decode hessian hs _).accepted hd).replyable
  originMessage hm originMessage := hm.originMessage originMessage

theorem replies_codec (hessian : Hessian2) : (codec hessian).Replies Sound Replyable where
  throw hs hd := (regular_decode hessian hs _).exception hd
  onError _ hm he := onError_of_replyable hessian hm he
  heartbeat _ hm := encode_heartbeat_of_replyable hessian hm

end DubboCodec

end MetaProtocolProxy.Dubbo

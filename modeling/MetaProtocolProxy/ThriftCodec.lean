import MetaProtocolProxy.ThriftMachine

/-!
# The Thrift codec

`ThriftCodec` of `thrift_codec.cc` : it reads the start of a frame, runs the state machine on the
message, reads the end of the frame, and converts the metadata of Thrift to the generic one. The
original message is what the machine has written, in a frame of the transport.

The state machine refers to the protocol and the metadata of the codec, so the codec takes both
back from it.
-/

namespace MetaProtocolProxy.Thrift

variable {τ π : Type}

namespace ThriftCodec

/-- The members of `ThriftCodec`. -/
structure State (τ π : Type) where
  transport : τ
  protocol : π
  metadata : Option MessageMetadata := none
  stateMachine : Option (DecoderStateMachine π) := none
  frameStarted : Bool := false
  frameEnded : Bool := false

/-- `complete`. -/
def State.complete (s : State τ π) : State τ π :=
  { s with stateMachine := none, frameStarted := false, frameEnded := false }

/-! ## The conversions -/

/-- `toMetadata` without the original message. -/
def toMetadata (msgMetadata : MessageMetadata) : Except Fault Metadata :=
  let metadata : Metadata :=
    match msgMetadata.methodName with
    | some methodName => ({} : Metadata).putString "method" (stringOf methodName)
    | none => {}
  let metadata :=
    match msgMetadata.sequenceId with
    | some sequenceId => { metadata with requestId := sequenceId.toInt64.toUInt64 }
    | none => metadata
  match msgMetadata.messageType with
  | none => .error (.panic "ASSERT(msgMetadata.hasMessageType())")
  | some .call => .ok { metadata with messageType := .request }
  | some .reply => .ok { metadata with messageType := .response }
  | some .oneway => .ok { metadata with messageType := .oneway }
  | some .exception => .ok { metadata with messageType := .error }

/-- `toMetadata`, which frames the original message. -/
def toMetadataWithMessage (t : Transport τ) (transport : τ) (msgMetadata : MessageMetadata)
    (originMessage : Bytes) : Except Fault Metadata :=
  match toMetadata msgMetadata with
  | .error fault => .error fault
  | .ok metadata =>
    match t.encodeFrame transport msgMetadata originMessage with
    | .error what => .error (.exception what)
    | .ok originMessage => .ok { metadata with originMessage }

/-- `toMsgMetadata`, on a fresh `MessageMetadata`. -/
def toMsgMetadata (metadata : Metadata) : Except Fault MessageMetadata :=
  (metadata.getString "method").map fun method =>
    if method ≠ "" then { methodName := some (bytesOf method) } else {}

/-- Metadata that `toMsgMetadata` can read. -/
def Replyable (metadata : Metadata) : Prop :=
  ∃ method, metadata.getString "method" = .ok method

theorem getString_putString (metadata : Metadata) (key value : String)
    (h : metadata.get key = none) : (metadata.putString key value).getString key = .ok value := by
  have hget : (metadata.properties.put key (.string value)).get key = some (.string value) := by
    rw [Properties.get_put, if_pos rfl]
    change (metadata.get key).or _ = _
    rw [h, Option.none_or]
  change Properties.getString (metadata.properties.put key (.string value)) key = _
  rw [Properties.getString, hget]

theorem replyable_toMetadata {msgMetadata : MessageMetadata} {metadata : Metadata}
    (h : toMetadata msgMetadata = .ok metadata) : Replyable metadata := by
  have hmethod : Replyable (match msgMetadata.methodName with
      | some methodName => ({} : Metadata).putString "method" (stringOf methodName)
      | none => {}) := by
    cases msgMetadata.methodName with
    | none => exact ⟨"", rfl⟩
    | some methodName => exact ⟨_, getString_putString _ _ _ rfl⟩
  unfold toMetadata at h
  generalize (match msgMetadata.methodName with
    | some methodName => ({} : Metadata).putString "method" (stringOf methodName)
    | none => {}) = named at hmethod h
  generalize msgMetadata.sequenceId = sequenceId, msgMetadata.messageType = type at h
  rcases sequenceId with _ | sequenceId <;> rcases type with _ | ⟨⟨⟩⟩ <;> cases h <;> exact hmethod

theorem toMetadata_of_typed {msgMetadata : MessageMetadata} (h : msgMetadata.messageType ≠ none) :
    ∃ metadata, toMetadata msgMetadata = .ok metadata := by
  obtain ⟨type, htype⟩ := Option.ne_none_iff_exists'.mp h
  unfold toMetadata
  rw [htype]
  cases type <;> exact ⟨_, rfl⟩

/-! ## Decoding -/

/-- The protocol a transport reports is set where it was to be detected, and else has to be the
one there is. -/
def forceProtocol (p : Protocol π) (metadata : MessageMetadata) (protocol : π) :
    Except String π :=
  match metadata.protocol with
  | none => .ok protocol
  | some type =>
    if p.type protocol = .auto then .ok (p.setType type protocol)
    else if type ≠ p.type protocol then
      .error s!"transport reports protocol {type.name}, but configured for {(p.type protocol).name}"
    else .ok protocol

/-- What the codec takes back from a machine that has run. -/
def State.ran (s : State τ π) (machine : DecoderStateMachine π) : State τ π :=
  { s with
    protocol := machine.proto, metadata := some machine.metadata, stateMachine := some machine }

section Decode

variable (t : Transport τ) (p : Protocol π) (s : State τ π) (data : Bytes)

/-- The end of a frame, behind a machine that is done. -/
def endFrame (machine : DecoderStateMachine π) : Decoding (State τ π) :=
  match t.decodeFrameEnd s.transport data with
  | .error what => ⟨s, data, .throw (.exception what)⟩
  | .ok none => ⟨s, data, .waitForData⟩
  | .ok (some (_, transport, data)) =>
    let s := { s with transport }
    match toMetadataWithMessage t transport machine.metadata machine.originMessage with
    | .error fault => ⟨s, data, .throw fault⟩
    | .ok metadata => ⟨{ s with metadata := none }.complete, data, .done metadata⟩

/-- The state machine runs inside a frame. -/
def runMachine (machine : DecoderStateMachine π) : Decoding (State τ π) :=
  match machine.run p data with
  | (machine, data, result) =>
    let s := s.ran machine
    match result with
    | .error fault => ⟨s, data, .throw fault⟩
    | .ok rv =>
      if rv = .waitForData then ⟨s, data, .waitForData⟩
      else if rv ≠ .done then ⟨s, data, .throw (.panic "ASSERT(rv == ProtocolState::Done)")⟩
      else endFrame t s data machine

/-- A frame that has started : its protocol, and then the state machine, unless the transport has
read an exception of the application. -/
def enterFrame (metadata : MessageMetadata) : Decoding (State τ π) :=
  match forceProtocol p metadata s.protocol with
  | .error what => ⟨s, data, .throw (.exception what)⟩
  | .ok protocol =>
    let s := { s with protocol }
    match metadata.appException with
    | some (type, message) =>
      -- Forces new metadata if the codec is called again.
      ⟨{ s with metadata := none }, data, .throw (.exception
        s!"thrift AppException: type: {type.toNat}, message: {stringOf message}")⟩
    | none =>
      let machine : DecoderStateMachine π := { proto := protocol, metadata }
      runMachine t p { s with frameStarted := true, stateMachine := some machine } data machine

/-- The start of a frame. -/
def startFrame : Decoding (State τ π) :=
  let metadata := s.metadata.getD {}
  match t.decodeFrameStart metadata s.transport data with
  | .error what => ⟨{ s with metadata := some metadata }, data, .throw (.exception what)⟩
  | .ok none => ⟨{ s with metadata := some metadata }, data, .waitForData⟩
  | .ok (some (metadata, transport, data)) =>
    enterFrame t p { s with transport, metadata := some metadata } data metadata

/-- `decode`. -/
def decode : Decoding (State τ π) :=
  if s.frameEnded then ⟨s.complete, data, .done {}⟩
  else if !s.frameStarted then startFrame t p s data
  else
    match s.stateMachine with
    | none => ⟨s, data, .throw (.panic "ASSERT(state_machine_ != nullptr)")⟩
    | some machine => runMachine t p s data machine

end Decode

section Done

variable {t : Transport τ} {p : Protocol π} {s : State τ π}
  {machine machine' : DecoderStateMachine π}
  {data rest : Bytes}

/-- A frame that ends. -/
theorem endFrame_done {transport : τ} {metadata : Metadata}
    (hend : t.decodeFrameEnd s.transport data = .ok (some ((), transport, rest)))
    (hmetadata : toMetadataWithMessage t transport machine.metadata machine.originMessage =
      .ok metadata) :
    endFrame t s data machine =
      ⟨{ s with transport, metadata := none }.complete, rest, .done metadata⟩ := by
  rw [endFrame, hend]
  dsimp only
  rw [hmetadata]

/-- A machine that comes to the end of its message. -/
theorem runMachine_done (h : machine.run p data = (machine', rest, .ok .done)) :
    runMachine t p s data machine = endFrame t (s.ran machine') rest machine' := by
  rw [runMachine, h]
  rfl

/-- A frame that starts. -/
theorem decode_start {metadata : MessageMetadata} {transport : τ} {protocol : π}
    (hended : s.frameEnded = false) (hstarted : s.frameStarted = false)
    (hstart : t.decodeFrameStart (s.metadata.getD {}) s.transport data =
      .ok (some (metadata, transport, rest)))
    (hforce : forceProtocol p metadata s.protocol = .ok protocol)
    (happ : metadata.appException = none) :
    decode t p s data =
      runMachine t p
        { s with
          transport, protocol, metadata := some metadata, frameStarted := true,
          stateMachine := some { proto := protocol, metadata } } rest
        { proto := protocol, metadata } := by
  rw [decode, hended, hstarted]
  change startFrame t p s data = _
  rw [startFrame, hstart]
  change enterFrame t p _ rest metadata = _
  rw [enterFrame, hforce]
  dsimp only
  rw [happ, hended]

end Done

/-! ## Encoding -/

/-- `encode`. -/
def encode (metadata : Metadata) : Except Fault Bytes :=
  match metadata.messageType with
  | .heartbeat | .request | .error => .ok []
  | .response | .oneway => .error (.panic "NOT_REACHED in encode")

/-- A `TApplicationException` with a text and a number, as `onError` writes it. -/
def writeException (p : Protocol π) (protocol : π) (message : Bytes) (type : AppExceptionType) :
    Bytes :=
  p.writeStructBegin protocol (bytesOf "TApplicationException") ++
    (p.writeFieldBegin protocol (bytesOf "message") .string 1 ++ p.writeString protocol message ++
      p.writeFieldEnd protocol) ++
    (p.writeFieldBegin protocol (bytesOf "type") .i32 2 ++
      p.writeInt32 protocol (Int32.ofNat type.toNat) ++ p.writeFieldEnd protocol) ++
    p.writeFieldBegin protocol [] .stop 0 ++ p.writeStructEnd protocol

/-- `onError`. -/
def onError (p : Protocol π) (s : State τ π) (metadata : Metadata) (error : Error) :
    Except Fault Bytes :=
  (toMsgMetadata metadata).map fun msgMetadata =>
    let msgMetadata :=
      { msgMetadata with
        methodName := some (msgMetadata.methodName.getD [])
        sequenceId := some (msgMetadata.sequenceId.getD 0)
        messageType := some .exception }
    p.writeMessageBegin s.protocol msgMetadata ++
      writeException p s.protocol (bytesOf error.message) .internalError ++
      p.writeMessageEnd s.protocol

/-- `ThriftCodec`, with a transport and a protocol in their first states. -/
def codec (t : Transport τ) (p : Protocol π) (transport : τ) (protocol : π) :
    Codec (State τ π) where
  init := { transport, protocol }
  decode := decode t p
  encode _ := encode
  onError := onError p

end ThriftCodec

end MetaProtocolProxy.Thrift

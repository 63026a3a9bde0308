import MetaProtocolProxy.ThriftFrames

/-!
# Error replies of the Thrift codec

`onError` writes a `TApplicationException` for the metadata of a request. What it writes is the
encoding of a message (`onError_eq`), but of one with the number zero, since the number of the
request is not carried back from the generic metadata, and without the frame of the transport.

So the answer to a request is one that its client can match with it only if the transport adds
nothing to a message and the number of the request is zero (`answered_iff`). The transports are the
ones that add nothing (`Transport.Unframed`), and the ones whose frames begin with their size
(`Transport.Sized`) : a message begins with a version, which is no size.
-/

namespace MetaProtocolProxy.Thrift

variable {τ π : Type}

/-! ## Transports -/

/-- A transport that puts nothing around a message. -/
structure Transport.Unframed (t : Transport τ) : Prop where
  decodeFrameStart : ∀ metadata s {data}, data ≠ [] →
    t.decodeFrameStart metadata s data = .ok (some (metadata, s, data))
  decodeFrameEnd : ∀ s data, t.decodeFrameEnd s data = .ok (some ((), s, data))
  encodeFrame : ∀ s metadata {message}, message ≠ [] →
    t.encodeFrame s metadata message = .ok message

/-- A transport whose frames begin with their size, which is a signed integer of four bytes and not
negative. -/
structure Transport.Sized (t : Transport τ) : Prop where
  decodeFrameStart : ∀ {metadata s received read},
    t.decodeFrameStart metadata s received = .ok (some read) →
      4 ≤ received.length ∧ declaredSize received < 2 ^ 31

/-- A byte with its first bit set begins no size. -/
theorem declaredSize_ge {byte : UInt8} (h : 0x80 ≤ byte.toNat) {tail : Bytes}
    (hlength : 4 ≤ (byte :: tail).length) : 2 ^ 31 ≤ declaredSize (byte :: tail) := by
  obtain ⟨a, b, c, tail, rfl⟩ : ∃ a b c tail', tail = a :: b :: c :: tail' := by
    match tail, hlength with
    | a :: b :: c :: tail, _ => exact ⟨a, b, c, tail, rfl⟩
  have hsize : declaredSize (byte :: a :: b :: c :: tail) =
      ((byte.toNat * 256 + a.toNat) * 256 + b.toNat) * 256 + c.toNat := by
    simp [declaredSize, BigEndian.peek, BigEndian.ofBytes]
  omega

/-! ## The reply that is due -/

/-- The `TApplicationException` with the text of an error, for a method and a number. -/
def errorReply (name : Bytes) (sequenceId : Int32) (error : Error) : Message where
  name
  sequenceId
  type := .exception
  structName := bytesOf "TApplicationException"
  fields :=
    .cons (bytesOf "message") 1 (.primitive (.string (bytesOf error.message)))
      (.cons (bytesOf "type") 2
        (.primitive (.i32 (Int32.ofNat AppExceptionType.internalError.toNat))) .nil)

/-- A codec that finds `bytes` in its stream decodes one message of them, which is the error reply
to a request in the frame that the transport puts around it. -/
def Answers (t : Transport τ) (p : Protocol π) (s₀ s : π) (client : τ) (request : Message)
    (error : Error) (bytes : Bytes) : Prop :=
  ∃ generic transport metadata frame,
    (ThriftCodec.decode t p { transport := client, protocol := s₀ } bytes).status =
      .done generic ∧
    (ThriftCodec.decode t p { transport := client, protocol := s₀ } bytes).buffer = [] ∧
    t.encodeFrame transport ((errorReply request.name request.sequenceId error).metadata metadata)
      ((errorReply request.name request.sequenceId error).encode p s) = .ok frame ∧
    ThriftCodec.Reports (errorReply request.name request.sequenceId error) frame generic

/-- A codec that is between two frames finds a message in the frame that comes next. -/
structure ThriftCodec.Carries (t : Transport τ) (p : Protocol π) (s₀ s : π)
    (codec : ThriftCodec.State τ π) (data : Bytes) (message : Message) : Prop where
  frameStarted : codec.frameStarted = false
  frameEnded : codec.frameEnded = false
  frame : ∃ metadata transport transport' rest rest' originMessage,
    t.decodeFrameStart (codec.metadata.getD {}) codec.transport data =
        .ok (some (metadata, transport, message.encode p s ++ rest)) ∧
      ThriftCodec.forceProtocol p metadata codec.protocol = .ok s₀ ∧
      metadata.appException = none ∧
      t.decodeFrameEnd transport rest = .ok (some ((), transport', rest')) ∧
      t.encodeFrame transport' (message.metadata metadata) (message.encode p s) =
        .ok originMessage

/-! ## What is written -/

theorem wellFormed_errorReply {name : Bytes} (hname : name.length < 2 ^ 31) (sequenceId : Int32)
    {error : Error} (herror : (bytesOf error.message).length < 2 ^ 31) :
    (errorReply name sequenceId error).WellFormed := by
  refine ⟨hname, ?_⟩
  simp only [errorReply, Fields.WellFormed, Value.WellFormed, herror, and_true, true_and]
  decide

/-- What `onError` writes for a request : the reply with the number zero. -/
theorem onError_eq (p : Protocol π) {τ : Type} {codec : ThriftCodec.State τ π} {name : Bytes}
    {metadata : Metadata} (hmethod : metadata.getString "method" = .ok (stringOf name))
    (error : Error) :
    ThriftCodec.onError p codec metadata error =
      .ok ((errorReply name 0 error).encode p codec.protocol) := by
  have hname : (if stringOf name ≠ "" then
      { methodName := some (bytesOf (stringOf name)) } else {} : MessageMetadata).methodName.getD
        [] =
        name := by
    split
    · exact bytesOf_stringOf name
    · rename_i h
      have hnil : stringOf name = stringOf [] := not_not.mp h
      exact (stringOf_inj hnil).symm
  have hid : (if stringOf name ≠ "" then
      { methodName := some (bytesOf (stringOf name)) } else {} : MessageMetadata).sequenceId =
        none := by
    split <;> rfl
  have hmessage : { (if stringOf name ≠ "" then
      { methodName := some (bytesOf (stringOf name)) } else {} : MessageMetadata) with
        methodName := some name, sequenceId := some 0, messageType := some .exception } =
      (errorReply name 0 error).metadata {} := by
    split <;> rfl
  simp only [ThriftCodec.onError, ThriftCodec.toMsgMetadata, hmethod, Except.map, hname, hid,
    Option.getD_none, hmessage]
  simp only [Message.encode, ThriftCodec.writeException, errorReply, Value.encode, Fields.encode,
    Primitive.encode, Value.type, Primitive.type, List.append_assoc, List.nil_append]

/-! ## Who can read it -/

/-- A message begins with a version, whose first bit is set. -/
def Protocol.Versioned (p : Protocol π) (s : π) : Prop :=
  ∀ metadata, ∃ byte rest, p.writeMessageBegin s metadata = byte :: rest ∧ 0x80 ≤ byte.toNat

section Reply

variable {t : Transport τ} {p : Protocol π} {s₀ s : π}

theorem encode_ne_nil (hv : p.Versioned s) (message : Message) : message.encode p s ≠ [] := by
  obtain ⟨byte, rest, hbytes, -⟩ := hv (message.metadata {})
  rw [Message.encode, hbytes]
  exact List.cons_ne_nil _ _

/-- Without a frame a message is read. -/
theorem decode_unframed (hp : p.Progress) (hr : p.RoundTrip s₀ s) (hv : p.Versioned s)
    (ht : t.Unframed) (client : τ) {message : Message} (hm : message.WellFormed) :
    ∃ generic, ThriftCodec.decode t p { transport := client, protocol := s₀ }
        (message.encode p s) = ⟨{ transport := client, protocol := s }, [], .done generic⟩ ∧
      ThriftCodec.Reports message (message.encode p s) generic := by
  have hne := encode_ne_nil hv message
  have hstart : t.decodeFrameStart {} client (message.encode p s) =
      .ok (some ({}, client, message.encode p s ++ [])) := by
    rw [List.append_nil]
    exact ht.decodeFrameStart {} client hne
  exact ThriftCodec.decode_message hp hr hm rfl rfl hstart rfl rfl (ht.decodeFrameEnd _ _)
    (ht.encodeFrame _ _ hne)

/-- A version is no size of a frame. -/
theorem not_done_sized (hv : p.Versioned s) (ht : t.Sized) (client : τ) (message : Message)
    (generic : Metadata) :
    (ThriftCodec.decode t p { transport := client, protocol := s₀ } (message.encode p s)).status ≠
      .done generic := by
  obtain ⟨byte, rest, hbytes, hbyte⟩ := hv (message.metadata {})
  obtain ⟨tail, htail⟩ : ∃ tail, message.encode p s = byte :: tail := by
    rw [Message.encode, hbytes]
    exact ⟨_, rfl⟩
  rw [htail]
  change (ThriftCodec.startFrame t p _ (byte :: tail)).status ≠ _
  unfold ThriftCodec.startFrame
  dsimp only [Option.getD_none]
  rcases hstart : t.decodeFrameStart {} client (byte :: tail) with what | _ | read
  · simp
  · simp
  · obtain ⟨hlength, hsize⟩ := ht.decodeFrameStart hstart
    exact absurd (declaredSize_ge hbyte hlength) (Nat.not_le.mpr hsize)

theorem sequenceId_inj {a b : Int32} (h : a.toInt64.toUInt64 = b.toInt64.toUInt64) : a = b := by
  have hback := congrArg (fun n : UInt64 => n.toInt64.toInt32) h
  simpa using hback

/-- What the codec knows of a request it has decoded. -/
theorem ThriftCodec.Carries.decode (hp : p.Progress) (hr : p.RoundTrip s₀ s)
    {request : Message} (hm : request.WellFormed) {codec : ThriftCodec.State τ π} {data : Bytes}
    (h : ThriftCodec.Carries t p s₀ s codec data request) :
    ∃ codec' rest generic, ThriftCodec.decode t p codec data = ⟨codec', rest, .done generic⟩ ∧
      codec'.protocol = s ∧
      generic.getString "method" = .ok (stringOf request.name) := by
  obtain ⟨metadata, transport, transport', rest, rest', originMessage, hstart, hforce, happ, hend,
    hframe⟩ := h.frame
  obtain ⟨generic, hdecode, hreports⟩ :=
    ThriftCodec.decode_message hp hr hm h.frameStarted h.frameEnded hstart hforce happ hend hframe
  exact ⟨_, _, generic, hdecode, rfl, hreports.method⟩

/-- Exactly when what `onError` makes of the metadata of a request, after the request has been
decoded, is an answer to it. -/
theorem answered_iff (hp : p.Progress) (hr : p.RoundTrip s₀ s) (hv : p.Versioned s)
    (ht : t.Unframed ∨ t.Sized) {request : Message} (hm : request.WellFormed)
    {codec codec' : ThriftCodec.State τ π} {data rest : Bytes} {generic : Metadata}
    (hcarries : ThriftCodec.Carries t p s₀ s codec data request)
    (hdecode : ThriftCodec.decode t p codec data = ⟨codec', rest, .done generic⟩)
    {error : Error} (herror : (bytesOf error.message).length < 2 ^ 31) (client : τ) :
    (∃ bytes, ThriftCodec.onError p codec' generic error = .ok bytes ∧
      Answers t p s₀ s client request error bytes) ↔
      t.Unframed ∧ request.sequenceId = 0 := by
  obtain ⟨_, _, _, hdecode', hprotocol, hmethod⟩ := hcarries.decode hp hr hm
  rw [hdecode'] at hdecode
  cases hdecode
  rw [onError_eq p hmethod error, hprotocol]
  constructor
  · rintro ⟨_, ⟨⟩, reply, _, _, frame, hdone, -, -, hreply⟩
    rcases ht with hunframed | hsized
    · obtain ⟨reply', hdone', hreply'⟩ :=
        decode_unframed hp hr hv hunframed client (wellFormed_errorReply hm.1 0 herror)
      rw [hdone'] at hdone
      cases hdone
      exact ⟨hunframed, sequenceId_inj (hreply.requestId.symm.trans hreply'.requestId)⟩
    · exact absurd hdone (not_done_sized hv hsized client _ reply)
  · rintro ⟨hunframed, hzero⟩
    obtain ⟨reply, hdone, hreply⟩ :=
      decode_unframed hp hr hv hunframed client (wellFormed_errorReply hm.1 0 herror)
    refine ⟨_, rfl, ?_⟩
    rw [Answers, hzero]
    exact ⟨reply, client, {}, _, by rw [hdone], by rw [hdone],
      hunframed.encodeFrame _ _ (encode_ne_nil hv _), hreply⟩

end Reply

theorem FramedTransport.sized_transport : transport.Sized where
  decodeFrameStart {metadata s received read} h := by
    change Reader.fixed 4 (parseFrameStart metadata) s received = _ at h
    obtain ⟨m, hm, hlength, -, hparse⟩ := Reader.of_sized h
    cases hm
    refine ⟨hlength, ?_⟩
    unfold parseFrameStart at hparse
    split at hparse
    · cases hparse
    · rename_i hsize
      exact Nat.lt_of_le_of_lt (Nat.not_lt.mp (not_or.mp hsize).2) (by decide)

theorem UnframedTransport.unframed_transport : transport.Unframed where
  decodeFrameStart _ _ _ h := if_neg h
  decodeFrameEnd _ _ := rfl
  encodeFrame _ _ _ _ := rfl

theorem BinaryProtocol.versioned_protocol : protocol.Versioned () :=
  fun _ => ⟨0x80, _, rfl, by decide⟩

namespace ThriftExample

open BinaryProtocol (protocol)

theorem encode_message : message.encode protocol () ≠ [] :=
  encode_ne_nil BinaryProtocol.versioned_protocol message

theorem carries_framed :
    ThriftCodec.Carries FramedTransport.transport protocol () ()
      { transport := (), protocol := () } (FramedTransport.frame bytes ++ []) message where
  frameStarted := rfl
  frameEnded := rfl
  frame := ⟨_, (), (), [], [], _,
    FramedTransport.decodeFrameStart_frame encode_message (by decide +kernel) {} () [], rfl, rfl,
    rfl, FramedTransport.encodeFrame_eq encode_message (by decide +kernel) () _⟩

theorem carries_unframed :
    ThriftCodec.Carries UnframedTransport.transport protocol () ()
      { transport := (), protocol := () } (bytes ++ []) message where
  frameStarted := rfl
  frameEnded := rfl
  frame := ⟨{}, (), (), [], [], _, rfl, rfl, rfl, rfl, rfl⟩

/-- An error whose text is not long. -/
def routeNotFound : Error :=
  { type := .routeNotFound, message := "no route" }

end ThriftExample

open ThriftExample BinaryProtocol in
theorem answered_iff_message :
    (∃ codec rest generic,
      ThriftCodec.decode FramedTransport.transport protocol
          { transport := (), protocol := () } (FramedTransport.frame bytes ++ []) =
        ⟨codec, rest, .done generic⟩ ∧
      ((∃ reply, ThriftCodec.onError protocol codec generic routeNotFound = .ok reply ∧
          Answers FramedTransport.transport protocol () () () message routeNotFound reply) ↔
        FramedTransport.transport.Unframed ∧ message.sequenceId = 0)) ∧
    ∃ codec rest generic,
      ThriftCodec.decode UnframedTransport.transport protocol
          { transport := (), protocol := () } (bytes ++ []) = ⟨codec, rest, .done generic⟩ ∧
      ((∃ reply, ThriftCodec.onError protocol codec generic routeNotFound = .ok reply ∧
          Answers UnframedTransport.transport protocol () () () message routeNotFound reply) ↔
        UnframedTransport.transport.Unframed ∧ message.sequenceId = 0) := by
  constructor
  · obtain ⟨codec, rest, generic, hdecode, -⟩ :=
      carries_framed.decode progress_protocol roundTrip_protocol wellFormed_message
    exact ⟨codec, rest, generic, hdecode, answered_iff progress_protocol roundTrip_protocol
      versioned_protocol (Or.inr FramedTransport.sized_transport) wellFormed_message
      carries_framed hdecode (by decide +kernel) ()⟩
  · obtain ⟨codec, rest, generic, hdecode, -⟩ :=
      carries_unframed.decode progress_protocol roundTrip_protocol wellFormed_message
    exact ⟨codec, rest, generic, hdecode, answered_iff progress_protocol roundTrip_protocol
      versioned_protocol (Or.inl UnframedTransport.unframed_transport) wellFormed_message
      carries_unframed hdecode (by decide +kernel) ()⟩

open ThriftExample BinaryProtocol in
theorem not_answered_message :
    ∃ codec rest generic,
      ThriftCodec.decode FramedTransport.transport protocol
          { transport := (), protocol := () } (FramedTransport.frame bytes ++ []) =
        ⟨codec, rest, .done generic⟩ ∧
      ¬∃ reply, ThriftCodec.onError protocol codec generic routeNotFound = .ok reply ∧
        Answers FramedTransport.transport protocol () () () message routeNotFound reply := by
  obtain ⟨codec, rest, generic, hdecode, -, hmethod⟩ :=
    carries_framed.decode progress_protocol roundTrip_protocol wellFormed_message
  refine ⟨codec, rest, generic, hdecode, ?_⟩
  rintro ⟨reply, honError, answer, _, _, _, hdone, -⟩
  rw [onError_eq protocol hmethod routeNotFound] at honError
  cases honError
  exact not_done_sized versioned_protocol FramedTransport.sized_transport () _ answer hdone

end MetaProtocolProxy.Thrift

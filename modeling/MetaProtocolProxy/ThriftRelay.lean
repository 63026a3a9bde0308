import MetaProtocolProxy.Relay
import MetaProtocolProxy.ThriftChunking
import MetaProtocolProxy.ThriftTranscription

/-!
# Thrift messages on their way

A Thrift codec writes every message anew while it reads it. A `Link` is a protocol and a transport
with the frames that they put messages in. A proxy for it delivers what its client sends in frames
message by message, however the frames are cut, sends every request on in the frame it has come in,
and forwards the message that is in front of all that an upstream has sent, in its frame
(`carried_run`).
-/

namespace MetaProtocolProxy

open Resumable (Part Cuttable)

namespace Thrift

variable {τ π : Type}

/-- A transport and a protocol, in states that they stay in, and the frames that they put messages
in. `Fits` says of which bytes the transport makes a frame. -/
structure Link (τ π : Type) where
  transport : Transport τ
  protocol : Protocol π
  transportState : τ
  protocolState : π
  frame : Bytes → Bytes
  Fits : Bytes → Prop
  transportLocal : transport.Local
  transportProgress : transport.Progress
  protocolLocal : protocol.Local
  protocolProgress : protocol.Progress
  typed : protocol.Typed
  roundTrip : protocol.RoundTrip protocolState protocolState
  nonempty : ∀ {bytes}, Fits bytes → frame bytes ≠ []
  decodeFrameStart : ∀ {bytes}, Fits bytes → ∀ rest, ∃ metadata : MessageMetadata,
    transport.decodeFrameStart {} transportState (frame bytes ++ rest) =
        .ok (some (metadata, transportState, bytes ++ rest)) ∧
      ThriftCodec.forceProtocol protocol metadata protocolState = .ok protocolState ∧
      metadata.appException = none
  decodeFrameEnd : ∀ rest, transport.decodeFrameEnd transportState rest =
    .ok (some ((), transportState, rest))
  encodeFrame : ∀ {bytes}, Fits bytes → ∀ metadata,
    transport.encodeFrame transportState metadata bytes = .ok (frame bytes)

namespace Link

variable (link : Link τ π)

/-- The Thrift codec over the link. -/
def codec : Codec (ThriftCodec.State τ π) :=
  ThriftCodec.codec link.transport link.protocol link.transportState link.protocolState

/-- A message in its frame. -/
def bytes (message : Message) : Bytes :=
  link.frame (message.encode link.protocol link.protocolState)

/-- A message that can be sent over the link. -/
structure Carries (message : Message) : Prop where
  wellFormed : message.WellFormed
  fits : link.Fits (message.encode link.protocol link.protocolState)

/-- A message as the codec reports it. -/
def reported (message : Message) : Metadata :=
  { ({} : Metadata).putString "method" (stringOf message.name) with
    requestId := message.sequenceId.toInt64.toUInt64
    messageType := message.type.generic
    originMessage := link.bytes message }

/-- The front of a message, which the rest has not followed yet, or nothing. -/
def Begins (part : Bytes) : Prop :=
  part ≠ [] → ∃ message rest, link.Carries message ∧ rest ≠ [] ∧ part ++ rest = link.bytes message

variable {link}

theorem cuttable : Cuttable link.codec.round (ThriftCodec.Sound link.protocol)
    (fun s => s.frameStarted = false) :=
  ThriftCodec.cuttable_round link.transportLocal link.transportProgress link.protocolLocal
    link.protocolProgress link.transportState link.protocolState

theorem sound_init : ThriftCodec.Sound link.protocol link.codec.init :=
  ThriftCodec.sound_idle rfl rfl

theorem flows : link.codec.Flows (ThriftCodec.Sound link.protocol) ThriftCodec.Replyable :=
  ThriftCodec.flows_codec link.transportLocal link.transportProgress link.protocolLocal
    link.protocolProgress link.transportState link.protocolState link.typed

theorem toMetadataWithMessage_eq {message : Message} (h : link.Carries message)
    (metadata : MessageMetadata) :
    ThriftCodec.toMetadataWithMessage link.transport link.transportState (message.metadata metadata)
      (message.encode link.protocol link.protocolState) = .ok (link.reported message) := by
  unfold ThriftCodec.toMetadataWithMessage
  rw [link.encodeFrame h.fits]
  unfold ThriftCodec.toMetadata Message.metadata
  rcases message with ⟨name, sequenceId, type, structName, fields⟩
  cases type <;> rfl

/-- The codec reads a message from its frame, and starts again. -/
theorem reads {message : Message} (h : link.Carries message) :
    Resumable.Reads link.codec.round (·.originMessage) link.codec.init (link.reported message) where
  nonempty := link.nonempty h.fits
  emit := by
    obtain ⟨metadata, hstart, hforce, happ⟩ := link.decodeFrameStart h.fits []
    rw [List.append_nil] at hstart
    have hrun := DecoderStateMachine.run_message link.protocolProgress link.roundTrip h.wellFormed
      metadata []
    have hdecode : link.codec.decode link.codec.init (link.bytes message) =
        ⟨link.codec.init, [], .done (link.reported message)⟩ := by
      change ThriftCodec.decode link.transport link.protocol
        { transport := link.transportState, protocol := link.protocolState }
        (link.frame (message.encode link.protocol link.protocolState)) = _
      rw [ThriftCodec.decode_start rfl rfl hstart hforce happ, ThriftCodec.runMachine_done hrun,
        ThriftCodec.endFrame_done (link.decodeFrameEnd []) (toMetadataWithMessage_eq h metadata)]
      rfl
    change link.codec.round link.codec.init (link.bytes message) = _
    rw [Codec.round, hdecode]
    rfl

theorem Begins.part {part : Bytes} (h : link.Begins part) :
    Part link.codec.round (·.originMessage) link.codec.init part := fun hne =>
  let ⟨message, rest, hmessage, hrest, hall⟩ := h hne
  ⟨link.reported message, rest, reads hmessage, hrest, hall⟩

theorem of_reported (message : Message) :
    Delivery.of (link.reported message) = .stream (link.reported message) := by
  refine if_neg ?_
  rcases message with ⟨name, sequenceId, type, structName, fields⟩
  cases type <;> simp [reported, MessageType.generic]

end Link

end Thrift

namespace ConnectionManager

variable {σ : Type} {cfg : Config σ}

/-- A connection that is sent messages, and a part of one behind them, delivers these messages. -/
theorem delivered_of_part {I J fresh : σ → Prop} {R : Metadata → Prop} (hc : cfg.codec.Flows I R)
    (hcut : Cuttable cfg.codec.round J fresh) (h₀ : J cfg.codec.init) {messages : List Metadata}
    (hmessages : ∀ m ∈ messages, Resumable.Reads cfg.codec.round (·.originMessage) cfg.codec.init m)
    {part : Bytes} (hpart : Part cfg.codec.round (·.originMessage) cfg.codec.init part)
    {es : List Event}
    (hes : es.flatMap Event.received = messages.flatMap (·.originMessage) ++ part) :
    ((system cfg).run (new cfg) es).delivered = messages.map Delivery.of ∧
      ((system cfg).run (new cfg) es).decodingFailed = false := by
  have hall : ∀ (es' : List Event) (x : Bytes),
      es'.flatMap Event.received ++ x = messages.flatMap (·.originMessage) ++ part →
        Fed cfg I False (es'.flatMap Event.received) ((system cfg).run (new cfg) es') ∧
          ((system cfg).run (new cfg) es').decodingFailed = false ∧
          (x = [] → ((system cfg).run (new cfg) es').delivered = messages.map Delivery.of) := by
    intro es'
    induction es' using List.reverseRecOn with
    | nil =>
      intro x hx
      have hfed : Fed cfg I False [] (new cfg) := fed_new hc
      obtain ⟨p, ha, hfed'⟩ := hfed.progress
      have hcut' := hfed'.emitted_cut hcut h₀ hmessages hpart hx
      exact ⟨hfed, rfl, fun hnil => by rw [← hcut'.2 hnil, ← ha.emitted]; rfl⟩
    | append_singleton es' e ih =>
      intro x hx
      rw [List.flatMap_append, List.append_assoc] at hx
      obtain ⟨hfed, hfailed, -⟩ := ih _ hx
      have hstep := fed_step hc hfed (by rw [hfailed]; exact Bool.false_ne_true) e
      have hrun : (system cfg).run (new cfg) (es' ++ [e]) =
          step cfg ((system cfg).run (new cfg) es') e := Transition.run_append _ _ _
      obtain ⟨p, ha, hfed'⟩ := hstep.progress
      have hcut' := hfed'.emitted_cut hcut h₀ hmessages hpart (x := x) (by simpa using hx)
      rw [hrun, List.flatMap_append]
      refine ⟨by simpa using hstep, ha.failed.trans hcut'.1, fun hnil => ?_⟩
      rw [ha.emitted, hcut'.2 hnil]
  obtain ⟨-, hfailed, hdelivered⟩ := hall es [] (by rw [List.append_nil, hes])
  exact ⟨hdelivered rfl, hfailed⟩

section Thrift

variable {τ π : Type} (link : Thrift.Link τ π)

/-- What a proxy makes of the messages of its client. The answer to a request is known from the
bytes that its upstream sends, of which some may not have come. -/
structure Carried (cfg : Config (Thrift.ThriftCodec.State τ π)) (messages : List Thrift.Message)
    (es : List Event) (cm : ConnectionManager (Thrift.ThriftCodec.State τ π)) : Prop where
  requests : cm.requests = messages.map link.reported
  decodingFailed : cm.decodingFailed = false
  forwarded : ∀ i, cm.Forwarded i →
    ∃ message, messages[i]? = some message ∧ cm.forwarded i = link.bytes message
  answers : ∀ w ∈ cm.downstream.written, ∀ i response, w.message = some i →
    w.reply = .upstreamResponse response → ∃ request, cm.requests[i]? = some request ∧
      ∀ answer later more, link.Carries answer →
        upstreamSent cfg i request es ++ later = link.bytes answer ++ more →
          response = link.reported answer ∧ w.bytes = link.bytes answer ∧
            link.bytes answer <+: upstreamSent cfg i request es

variable {link}

/-- A response that a Thrift codec comes to is the message that is in front of the bytes, and all of
it has come. -/
theorem eq_reported {s : Thrift.ThriftCodec.State τ π} {sent rest later more : Bytes}
    {response : Metadata} {answer : Thrift.Message}
    (hround : link.codec.round link.codec.init sent = .emit response s rest)
    (hanswer : link.Carries answer) (hall : sent ++ later = link.bytes answer ++ more) :
    response = link.reported answer ∧ link.bytes answer <+: sent := by
  have hsent := (link.cuttable.emit link.sound_init hround).2.2.2.2 later
  have hown := (link.cuttable.emit link.sound_init (link.reads hanswer).emit).2.2.2.2 more
  rw [hall] at hsent
  injection hsent.symm.trans hown with hresponse _ hrest
  rw [List.nil_append] at hrest
  rw [← hrest, ← List.append_assoc] at hall
  exact ⟨hresponse, rest, (List.append_cancel_right hall).symm⟩

/-- With the Thrift codec over any link and the router as the only filter : the client sends
messages in frames, cut anywhere, and a part of one behind them. Over every order of the events, the
requests are these messages in their order, what is written to an upstream for one of them is
its frame, and what is forwarded for it is the frame of the message that its upstream sends first,
byte for byte, once all of it has come. -/
theorem carried_run {cfg : Config (Thrift.ThriftCodec.State τ π)} (hc : cfg.codec = link.codec)
    (hrouter : cfg.RouterOnly) {es : List Event} (hes : (system cfg).Admissible (new cfg) es)
    {messages : List Thrift.Message} (hmessages : ∀ message ∈ messages, link.Carries message)
    {part : Bytes} (hpart : link.Begins part)
    (hsent : es.flatMap Event.received = messages.flatMap link.bytes ++ part) :
    Carried link cfg messages es ((system cfg).run (new cfg) es) := by
  have hflat : (messages.map link.reported).flatMap (·.originMessage) =
      messages.flatMap link.bytes :=
    List.flatMap_map ..
  have hreads : ∀ m ∈ messages.map link.reported,
      Resumable.Reads link.codec.round (·.originMessage) link.codec.init m := by
    simpa using fun m hm => link.reads (hmessages m hm)
  rw [← hflat] at hsent
  have hdelivered := delivered_of_part (hc ▸ link.flows) (hc ▸ link.cuttable)
    (hc ▸ link.sound_init) (hc ▸ hreads) (hc ▸ hpart.part) hsent
  have hrequests : ((system cfg).run (new cfg) es).requests = messages.map link.reported := by
    unfold ConnectionManager.requests
    rw [hdelivered.1]
    simp [List.filterMap_map, Thrift.Link.of_reported]
  have halive := alive_run (Codec.keeps_true cfg.codec) hrouter hes
  have hrelayed := relayed_all (hc ▸ hearing_of_cuttable link.cuttable link.sound_init) hrouter hes
  refine ⟨hrequests, hdelivered.2, fun i hi => ?_, fun w hw i response hi hreply => ?_⟩
  · obtain ⟨request, hrequest, hforwarded⟩ := hi.request halive
    rw [hrequests, List.getElem?_map, Option.map_eq_some_iff] at hrequest
    obtain ⟨message, hmessage, rfl⟩ := hrequest
    exact ⟨message, hmessage, hforwarded⟩
  · obtain ⟨request, hrequest, horigin, s, rest, hround⟩ :=
      hrelayed.answers w hw i response hi hreply
    refine ⟨request, hrequest, fun answer later more hanswer hall => ?_⟩
    obtain ⟨heq, hfront⟩ := eq_reported (hc ▸ hround) hanswer hall
    exact ⟨heq, by rw [horigin, heq]; rfl, hfront⟩

end Thrift

end ConnectionManager

/-! ## An example -/

namespace Thrift.ThriftExample

open FramedTransport

/-- Framed messages of the strict binary protocol. -/
def framedLink : Link Unit Unit where
  transport := FramedTransport.transport
  protocol := BinaryProtocol.protocol
  transportState := ()
  protocolState := ()
  frame := frame
  Fits bytes := bytes ≠ [] ∧ bytes.length ≤ maxFrameSize
  transportLocal := local_transport
  transportProgress := progress_transport
  protocolLocal := BinaryProtocol.local_protocol
  protocolProgress := BinaryProtocol.progress_protocol
  typed := BinaryProtocol.typed_protocol
  roundTrip := BinaryProtocol.roundTrip_protocol
  nonempty _ h := by simpa [frame] using congrArg List.length h
  decodeFrameStart h rest := ⟨_, decodeFrameStart_frame h.1 h.2 {} () rest, rfl, rfl⟩
  decodeFrameEnd _ := rfl
  encodeFrame h metadata := encodeFrame_eq h.1 h.2 () metadata

/-- The message, under another number and of another type. -/
def numbered (sequenceId : Int32) (type : MessageType) : Message :=
  { message with sequenceId, type }

/-- A proxy with a route to one cluster, whose pool makes every request wait. -/
def routedConfig : Config (ThriftCodec.State Unit Unit) :=
  { config with
    route := fun _ _ => some ⟨"cluster"⟩
    getThreadLocalCluster := fun _ _ =>
      some { maintenanceMode := false, tcpConnPool := some .pending } }

/-- A call, a oneway call in another chunk, and the start of a third frame. Of the reply to the
first call a part has come with the connection. -/
def calls : List ConnectionManager.Event :=
  [.downstreamData ((framedLink.bytes (numbered 1 .call)).take 30) false,
    .downstreamData ((framedLink.bytes (numbered 1 .call)).drop 30 ++
      framedLink.bytes (numbered 2 .oneway) ++ [0]) false,
    .poolReady 0 "host" ((framedLink.bytes (numbered 1 .reply)).take 5),
    .poolReady 1 "host" [],
    .upstreamData 0 ((framedLink.bytes (numbered 1 .reply)).drop 5 ++ [0]) false]

theorem carries_numbered {sequenceId : Int32} {type : MessageType}
    (hfits : framedLink.Fits ((numbered sequenceId type).encode BinaryProtocol.protocol ())) :
    framedLink.Carries (numbered sequenceId type) :=
  ⟨wellFormed_message, hfits⟩

end Thrift.ThriftExample

open Thrift Thrift.ThriftExample in
theorem ConnectionManager.carried_run_calls :
    ConnectionManager.Carried framedLink routedConfig [numbered 1 .call, numbered 2 .oneway] calls
      ((ConnectionManager.system routedConfig).run (ConnectionManager.new routedConfig) calls) :=
  have hcall : framedLink.Carries (numbered 1 .call) :=
    carries_numbered ⟨by decide +kernel, by decide +kernel⟩
  have honeway : framedLink.Carries (numbered 2 .oneway) :=
    carries_numbered ⟨by decide +kernel, by decide +kernel⟩
  have hpart : framedLink.Begins [0] := fun _ =>
    ⟨numbered 1 .call, (framedLink.bytes (numbered 1 .call)).drop 1, hcall, by decide +kernel,
      by decide +kernel⟩
  ConnectionManager.carried_run rfl ⟨rfl, rfl⟩ (by decide +kernel) (by simp [hcall, honeway])
    hpart (by decide +kernel)

end MetaProtocolProxy

import Mathlib.Data.List.Forall2
import MetaProtocolProxy.Conservation
import MetaProtocolProxy.DubboMetadata
import MetaProtocolProxy.Moves
import MetaProtocolProxy.Reading
import MetaProtocolProxy.Resting

/-!
# Heartbeats

A heartbeat of the client is answered by the connection itself, with the id of the heartbeat
in a header without a body (`encode_heartbeat`). The header of a frame tells a request from a
response (`typeOfFlags`), but in the generic metadata both have the same type, and `onHeartbeat`
does not look at the other one. So the replies that an open connection has written are one for
every frame with the event bit, in the order of the frames (`heartbeats_run`), and they are
the replies to the requests exactly if the client sends no heartbeat response
(`heartbeatsAnswered_iff`).
-/

namespace MetaProtocolProxy

namespace Dubbo

open BigEndian

/-- A frame with the event bit and the request bit. -/
def IsHeartbeatRequest (frame : Bytes) : Prop :=
  IsEventFlag frame ∧ IsRequestFlag frame

/-- A frame with the event bit, and without the request bit. -/
def IsHeartbeatResponse (frame : Bytes) : Prop :=
  IsEventFlag frame ∧ ¬IsRequestFlag frame

instance (frame : Bytes) : Decidable (IsHeartbeatRequest frame) :=
  inferInstanceAs (Decidable (_ ∧ _))

instance (frame : Bytes) : Decidable (IsHeartbeatResponse frame) :=
  inferInstanceAs (Decidable (_ ∧ _))

namespace DubboCodec

variable {hessian : Hessian2} {buffer : Bytes}

/-! ## Frames -/

/-- As many bytes as the header says. -/
def IsFrame (frame : Bytes) : Prop :=
  frame.length = messageSize + announcedBodySize frame

instance (frame : Bytes) : Decidable (IsFrame frame) :=
  inferInstanceAs (Decidable (_ = _))

/-- No frame is in front of these bytes. -/
def Unfinished (rest : Bytes) : Prop :=
  ∀ frame, IsFrame frame → ¬frame <+: rest

theorem IsFrame.length_le {frame : Bytes} (h : IsFrame frame) : messageSize ≤ frame.length :=
  h.symm ▸ Nat.le_add_right _ _

theorem prefixFree_isFrame : Resumable.PrefixFree IsFrame := by
  rintro frame frame' h h' ⟨x, rfl⟩
  have hx : (frame ++ x).length = frame.length := by
    rw [h', announcedBodySize_append h.length_le, ← h]
  rw [List.length_append] at hx
  rw [List.eq_nil_of_length_eq_zero (show x.length = 0 by omega), List.append_nil]

theorem Whole.isFrame {metadata : Metadata} (h : Whole metadata) :
    IsFrame metadata.originMessage :=
  h.length.trans (by rw [h.headerSize, h.bodySize])

theorem unfinished_of_short {rest : Bytes}
    (h : messageSize ≤ rest.length → rest.length < messageSize + announcedBodySize rest) :
    Unfinished rest := by
  rintro frame hframe ⟨x, rfl⟩
  have hle := hframe.length_le
  rw [announcedBodySize_append hle, ← hframe, List.length_append] at h
  have hshort := h (Nat.le_add_right_of_le hle)
  omega

theorem short_of_wait {machine : DecoderStateMachine} {context : Context}
    (hs : machine.state = .onDecodeStreamData) (hc : machine.context = some context)
    (h : (decode hessian (some machine) buffer).status = .waitForData) :
    buffer.length < context.bodySize := by
  by_contra hwhole
  rcases hd : decodeData hessian buffer context machine.metadata with fault | _ | metadata
  · rw [decode_data_error hs hc hd] at h
    cases h
  · exact decodeData_ne_none (Nat.not_lt.mp hwhole) _ hd
  · rw [decode_data_done hs hc hd] at h
    cases h

theorem unfinished_of_wait_header {machine : DecoderStateMachine}
    (hs : machine.state = .onDecodeStreamHeader)
    (h : (decode hessian (some machine) buffer).status = .waitForData) : Unfinished buffer := by
  refine unfinished_of_short fun hlength => ?_
  rcases hd : decodeHeader buffer machine.metadata with fault | _ | ⟨context, metadata⟩
  · rw [decode_header_error hs hd] at h
    cases h
  · exact absurd hd (decodeHeader_ne_none hlength _)
  have hspec := decodeHeader_spec hd
  have hbody : context.bodySize = announcedBodySize buffer := hspec.bodySize
  rw [← hbody, ← hspec.headerSize]
  cases hb : metadata.messageType.isHeartbeat with
  | true =>
    by_contra hwhole
    rw [decode_heartbeat hs hd hb (Nat.not_lt.mp hwhole)] at h
    cases h
  | false =>
    rw [decode_header hs hd hb] at h
    have hshort := short_of_wait rfl rfl h
    rw [List.length_drop] at hshort
    dsimp only at hshort
    omega

/-- A codec that waits does so behind the last frame. -/
theorem unfinished_of_wait {s : State} (hs : Holding s)
    (h : (decode hessian s buffer).status = .waitForData) : Unfinished (held s ++ buffer) := by
  cases hs with
  | idle => exact unfinished_of_wait_header rfl h
  | header hs hheld =>
    rw [hheld]
    exact unfinished_of_wait_header hs h
  | @data machine context hs hc hsize hlength hbody =>
    have hheld : held (some machine) = context.originMessage := by simp [held, hc]
    have hshort := short_of_wait hs hc h
    rw [hheld]
    refine unfinished_of_short fun _ => ?_
    rw [announcedBodySize_append (Nat.le_of_eq hlength.symm), List.length_append, hlength, ← hbody]
    exact Nat.add_lt_add_left hshort _

/-! ## What is decoded of a heartbeat -/

/-- A message is a heartbeat if the header of its frame says so, and has the id that is in the
header then. -/
structure Announced (metadata : Metadata) : Prop where
  isHeartbeat : metadata.messageType = .heartbeat ↔ IsEventFlag metadata.originMessage
  requestId : metadata.messageType = .heartbeat →
    metadata.requestId.toNat = peek 8 requestIDOffset metadata.originMessage

theorem announced_toMetadata {metadata : MessageMetadata} {context : Context}
    (hf : Flagged context.originMessage metadata.messageType)
    (hid : metadata.messageType.isHeartbeat = true → metadata.requestId =
      (UInt64.ofNat (peek 8 requestIDOffset context.originMessage)).toInt64) :
    Announced (toMetadataWithContext metadata context {}) := by
  have htype : (toMetadataWithContext metadata context {}).messageType = .heartbeat ↔
      metadata.messageType.isHeartbeat = true := by
    rw [messageType_toMetadataWithContext]
    cases metadata.messageType <;> simp [MessageType.isHeartbeat]
  refine ⟨htype.trans hf.isHeartbeat, fun h => ?_⟩
  have hlt : peek 8 requestIDOffset context.originMessage < 2 ^ 64 := peek_lt 8 _ _
  rw [requestId_toMetadataWithContext, hid (htype.mp h), UInt64.toUInt64_toInt64,
    UInt64.toNat_ofNat_of_lt' hlt]
  rfl

theorem announced_data {machine : DecoderStateMachine} {context : Context}
    (hs : machine.state = .onDecodeStreamData) (hc : machine.context = some context)
    (hb : machine.metadata.messageType.isHeartbeat = false)
    (hf : Flagged context.originMessage machine.metadata.messageType) {metadata : Metadata}
    (h : (decode hessian (some machine) buffer).status = .done metadata) : Announced metadata := by
  rcases hd : decodeData hessian buffer context machine.metadata with fault | _ | metadata'
  · rw [decode_data_error hs hc hd] at h
    cases h
  · rw [decode_data_none hs hc hd] at h
    cases h
  · rw [decode_data_done hs hc hd] at h
    cases h
    obtain ⟨hb', hf'⟩ := hf.decodeData hb hd
    refine announced_toMetadata (hf'.append _) fun h => ?_
    rw [hb'] at h
    cases h

theorem announced_header {machine : DecoderStateMachine}
    (hs : machine.state = .onDecodeStreamHeader) {metadata : Metadata}
    (h : (decode hessian (some machine) buffer).status = .done metadata) : Announced metadata := by
  rcases hd : decodeHeader buffer machine.metadata with fault | _ | ⟨context, metadata'⟩
  · rw [decode_header_error hs hd] at h
    cases h
  · rw [decode_header_none hs hd] at h
    cases h
  have hspec := decodeHeader_spec hd
  cases hb : metadata'.messageType.isHeartbeat with
  | false =>
    rw [decode_header hs hd hb] at h
    refine announced_data rfl rfl hb ?_ h
    rw [hspec.originMessage, hspec.headerSize, List.nil_append]
    exact flagged_take hspec (Nat.le_refl _)
  | true =>
    by_cases hshort : buffer.length < context.headerSize + context.bodySize
    · rw [decode_heartbeat_short hs hd hb hshort] at h
      cases h
    · rw [decode_heartbeat hs hd hb (Nat.not_lt.mp hshort)] at h
      cases h
      have hsize : messageSize ≤ context.headerSize + context.bodySize :=
        hspec.headerSize ▸ Nat.le_add_right _ _
      refine announced_toMetadata ?_ fun _ => ?_
      · rw [hspec.originMessage, List.nil_append]
        exact flagged_take hspec hsize
      · rw [hspec.originMessage, List.nil_append, hspec.requestId]
        dsimp only
        rw [peek_take (Nat.le_trans (by decide) hsize)]

theorem announced_decode (hessian : Hessian2) {s : State} (hs : Sound s) {metadata : Metadata}
    (h : (decode hessian s buffer).status = .done metadata) : Announced metadata := by
  cases hs with
  | idle => exact announced_header rfl h
  | header hs ht => exact announced_header hs h
  | data hs hc hb he ht hf => exact announced_data hs hc hb hf h

/-- The Dubbo codec conserves its input, and says what the headers say. -/
theorem conserves_announced (hessian : Hessian2) :
    Resumable.Conserves (codec hessian).round (fun s => Sound s ∧ Holding s) held
      (·.originMessage) (fun metadata => Whole metadata ∧ Announced metadata) where
  wait := by
    rintro s b s' b' ⟨hs, hholding⟩ hr
    obtain ⟨hs', -⟩ := (steady_round hessian).wait hs hr
    obtain ⟨hholding', hall⟩ := (conserves_round hessian).wait hholding hr
    exact ⟨⟨hs', hholding'⟩, hall⟩
  emit := by
    rintro s b metadata s' b' ⟨hs, hholding⟩ hr
    obtain ⟨hs', -⟩ := (steady_round hessian).emit hs hr
    obtain ⟨hholding', hwhole, hall⟩ := (conserves_round hessian).emit hholding hr
    refine ⟨⟨hs', hholding'⟩, ⟨hwhole, @announced_decode b hessian _ hs _ ?_⟩, hall⟩
    simp only [Codec.round, codec] at hr
    generalize decode hessian s b = decoding at hr ⊢
    obtain ⟨t, c, status⟩ := decoding
    cases status with
    | waitForData => cases hr
    | done metadata => cases hr; rfl
    | throw fault => cases hr

/-- The messages of a decoder that has not failed are those of the frames it was given. -/
theorem emitted_frames {again : Prop} {frames : List Bytes} {rest : Bytes}
    {p : Resumable.Progress UInt8 State Metadata}
    (h : Resumable.Fed (codec hessian).round again (codec hessian).init (frames.flatten ++ rest) p)
    (hf : p.failed = false) (hframes : ∀ frame ∈ frames, IsFrame frame)
    (hrest : Unfinished rest) :
    p.emitted.map (·.originMessage) = frames ∧ ∀ metadata ∈ p.emitted, Announced metadata := by
  obtain ⟨⟨-, hholding⟩, hwhole, hall⟩ :=
    h.conserved (conserves_announced hessian) ⟨.idle, .idle⟩ rfl hf
  refine ⟨?_, fun metadata hm => (hwhole metadata hm).2⟩
  have hbehind : Unfinished (held p.state ++ p.buffer) := by
    obtain ⟨-, ⟨hnone, hnil⟩ | hwait | ⟨hfailed, -⟩⟩ := h.rests (steady_round hessian) .idle rfl
    · rw [hnone, hnil]
      exact unfinished_of_short (by simp [held, messageSize])
    · refine @unfinished_of_wait hessian _ _ hholding ?_
      simp only [Codec.round, codec] at hwait
      generalize decode hessian p.state p.buffer = decoding at hwait ⊢
      obtain ⟨s, b, status⟩ := decoding
      cases status with
      | waitForData => rfl
      | done metadata => cases hwait
      | throw fault => cases hwait
    · rw [hf] at hfailed
      cases hfailed
  refine prefixFree_isFrame.flatten_unique hbehind hrest ?_ hframes ?_
  · intro frame hframe
    obtain ⟨metadata, hm, rfl⟩ := List.mem_map.mp hframe
    exact (hwhole metadata hm).1.isFrame
  · rw [← List.flatMap_def, ← List.append_assoc]
    exact hall

/-! ## The reply -/

/-- The reply to the heartbeat with an id : a header with the event bit and no request bit. -/
def heartbeatReply (requestId : ℕ) : Bytes :=
  frame 0x22 20 requestId []

theorem length_heartbeatReply (requestId : ℕ) :
    (heartbeatReply requestId).length = messageSize :=
  (length_frame 20).trans (Nat.add_zero _)

/-- A fresh codec reads the bytes as one message, to the last byte : a heartbeat response with
the id of the frame, the status Ok and an empty body. -/
def IsHeartbeatReply (hessian : Hessian2) (frame bytes : Bytes) : Prop :=
  ∃ reply, decode hessian (codec hessian).init bytes = ⟨none, [], .done reply⟩ ∧
    reply.get "MessageType" = some (.messageType .heartbeatResponse) ∧
    reply.requestId.toNat = peek 8 requestIDOffset frame ∧
    reply.get "ResponseStatus" = some (.responseStatus .ok) ∧ reply.bodySize = 0

/-- The replies answer the heartbeat requests among the frames one to one, in order. -/
def HeartbeatsAnswered (hessian : Hessian2) (frames replies : List Bytes) : Prop :=
  List.Forall₂ (IsHeartbeatReply hessian) (frames.filter (IsHeartbeatRequest ·)) replies

/-- What is encoded for a heartbeat. -/
theorem encode_heartbeat {metadata : Metadata} (h : Replyable metadata) :
    encode hessian { metadata with messageType := .heartbeat } =
      .ok (heartbeatReply metadata.requestId.toNat) := by
  obtain ⟨msgMetadata, husual, hid, hmsg⟩ := h
  have hmsg := hmsg metadata.originMessage .heartbeat
  have hflag : (2 : UInt8) ^^^ 0x20 = 0x22 := by decide
  simp [encode, encodeHeartbeat, hmsg, bind, Except.bind, Dubbo.encode, husual.serializationType,
    hid, heartbeatReply, frame, SerializationType.toUInt8, ResponseStatus.toUInt8, eventMask,
    hflag]

theorem checkedHeader_heartbeatReply (requestId : ℕ) :
    CheckedHeader (heartbeatReply requestId) where
  magic := peek_magic_frame _ _ _ _
  bodySize := by
    rw [heartbeatReply, peek_bodySize_frame _ _ _ (by decide)]
    decide
  serialization h := by
    rw [IsRequestFlag, flags, heartbeatReply, peekByte_flag_frame] at h
    exact absurd h (by decide)
  status _ := by
    rw [heartbeatReply, peekByte_status_frame]
    rfl

/-- The header of a reply. -/
theorem decodeHeader_heartbeatReply {requestId : ℕ} (hid : requestId < 2 ^ 64) :
    decodeHeader (heartbeatReply requestId) {} =
      .ok (some (⟨messageSize, 0, true, []⟩,
        { requestId := (UInt64.ofNat requestId).toInt64, messageType := .heartbeatResponse,
          responseStatus := some .ok })) := by
  have hlength : messageSize ≤ (heartbeatReply requestId).length :=
    Nat.le_of_eq (length_heartbeatReply requestId).symm
  have hflags : flags (heartbeatReply requestId) = 0x22 := peekByte_flag_frame _ _ _ _
  have hevent : IsEventFlag (heartbeatReply requestId) := by
    rw [IsEventFlag, hflags]
    decide
  have hresponse : ¬IsRequestFlag (heartbeatReply requestId) := by
    rw [IsRequestFlag, hflags]
    decide
  have hcontext : headerContext (heartbeatReply requestId) = ⟨messageSize, 0, true, []⟩ := by
    rw [headerContext, heartbeatReply, peek_bodySize_frame _ _ _ (by decide), ← heartbeatReply,
      decide_eq_true hevent]
    rfl
  rw [decodeHeader_of_checked hlength (checkedHeader_heartbeatReply requestId), hcontext,
    headerMetadata, if_neg hresponse, typeOfFlags, if_neg hresponse, if_pos hevent,
    heartbeatReply, peek_requestID_frame _ _ hid, peekByte_status_frame]
  rfl

/-- The reply to a heartbeat is read as one. -/
theorem isHeartbeatReply (hessian : Hessian2) (frame : Bytes) :
    IsHeartbeatReply hessian frame (heartbeatReply (peek 8 requestIDOffset frame)) := by
  have hid : peek 8 requestIDOffset frame < 2 ^ 64 := peek_lt 8 _ _
  unfold IsHeartbeatReply
  generalize peek 8 requestIDOffset frame = requestId at hid ⊢
  have hlength := length_heartbeatReply requestId
  have hwhole : messageSize + 0 ≤ (heartbeatReply requestId).length := Nat.le_of_eq hlength.symm
  have hrest : (heartbeatReply requestId).drop (messageSize + 0) = [] :=
    List.drop_eq_nil_of_le (Nat.le_of_eq hlength)
  rw [show (codec hessian).init = none from rfl, decode_none,
    @decode_heartbeat hessian {} _ _ _ rfl (decodeHeader_heartbeatReply hid) rfl hwhole, hrest]
  refine ⟨_, rfl, ?_, ?_, ?_, rfl⟩
  · rw [get_toMetadataWithContext rfl]
    simp
  · rw [requestId_toMetadataWithContext, UInt64.toUInt64_toInt64]
    exact UInt64.toNat_ofNat_of_lt' hid
  · rw [get_toMetadataWithContext rfl]
    simp

/-- One reply for every frame with the event bit answers the requests exactly if there are no
responses. -/
theorem heartbeatsAnswered_map_iff (hessian : Hessian2) (frames : List Bytes) :
    HeartbeatsAnswered hessian frames ((frames.filter (IsEventFlag ·)).map fun frame =>
        heartbeatReply (peek 8 requestIDOffset frame)) ↔
      ∀ frame ∈ frames, ¬IsHeartbeatResponse frame := by
  have hfilter : frames.filter (IsHeartbeatRequest ·) =
      (frames.filter (IsEventFlag ·)).filter (IsRequestFlag ·) := by
    rw [List.filter_filter]
    refine List.filter_congr fun frame _ => Bool.eq_iff_iff.mpr ?_
    rw [Bool.and_eq_true, decide_eq_true_iff, decide_eq_true_iff, decide_eq_true_iff]
    exact and_comm
  rw [HeartbeatsAnswered, hfilter]
  constructor
  · intro h frame hframe hresponse
    have hlength := h.length_eq
    rw [List.length_map, List.length_filter_eq_length_iff] at hlength
    have hrequest := hlength frame (List.mem_filter.mpr ⟨hframe, decide_eq_true hresponse.1⟩)
    exact hresponse.2 (of_decide_eq_true hrequest)
  · intro h
    have hall : ∀ frame ∈ frames.filter (IsEventFlag ·), decide (IsRequestFlag frame) = true := by
      intro frame hframe
      obtain ⟨hmem, hevent⟩ := List.mem_filter.mp hframe
      by_contra hresponse
      exact h frame hmem ⟨of_decide_eq_true hevent, by simpa using hresponse⟩
    rw [List.filter_eq_self.mpr hall, List.forall₂_map_right_iff, List.forall₂_same]
    exact fun frame _ => isHeartbeatReply hessian frame

end DubboCodec

end Dubbo

/-! ## What the connection writes -/

variable {σ : Type} {cfg : Config σ}

/-- The heartbeat replies that were written to the client. -/
def Downstream.heartbeats (d : Downstream σ) : List Bytes :=
  (d.written.filter (·.reply = .heartbeat)).map (·.bytes)

/-- A message of a connection writes no heartbeat reply, and does not open it again. -/
theorem Touched.heartbeats {i : ℕ} {closes : Prop} {d d' : Downstream σ}
    (h : Touched i closes d d') :
    (d'.state = .open → d.state = .open) ∧ d'.heartbeats = d.heartbeats := by
  induction h with
  | refl => exact ⟨id, rfl⟩
  | inc _ _ ih | dec _ _ ih | panic _ _ ih => exact ih
  | write _ w _ hreply ih =>
    refine ⟨ih.1, ?_⟩
    rw [← ih.2]
    simp [Downstream.heartbeats, Downstream.write, hreply]
  | deferredMessage _ ih =>
    refine ⟨fun h => ih.1 ((Downstream.state_deferredMessage _ _).symm.trans h), ?_⟩
    rw [← ih.2, Downstream.heartbeats, Downstream.written_deferredMessage, Downstream.heartbeats]
  | @close d' _ _ type ih =>
    refine ⟨fun h => absurd h (d'.close_spec type).1, ?_⟩
    rw [← ih.2, Downstream.heartbeats, Downstream.written_close, Downstream.heartbeats]

/-- The reply to a message that is delivered as a heartbeat. -/
def Delivery.heartbeatReply : Delivery → Option Bytes
  | .stream _ => none
  | .heartbeat metadata => some (Dubbo.DubboCodec.heartbeatReply metadata.requestId.toNat)

/-- The replies to messages are those to the frames with the event bit. -/
theorem heartbeatReplies_eq : ∀ {emitted : List Metadata},
    (∀ metadata ∈ emitted, Dubbo.DubboCodec.Announced metadata) →
      (emitted.map Delivery.of).filterMap Delivery.heartbeatReply =
        ((emitted.map (·.originMessage)).filter (Dubbo.IsEventFlag ·)).map fun frame =>
          Dubbo.DubboCodec.heartbeatReply (BigEndian.peek 8 Dubbo.requestIDOffset frame)
  | [], _ => rfl
  | metadata :: emitted, h => by
    have ih := heartbeatReplies_eq fun m hm => h m (List.mem_cons_of_mem _ hm)
    have hannounced := h metadata (by simp)
    by_cases hb : metadata.messageType = .heartbeat
    · have hevent := hannounced.isHeartbeat.mp hb
      rw [List.map_cons, Delivery.of, if_pos hb, List.map_cons,
        List.filter_cons_of_pos (by simpa using hevent), List.map_cons,
        ← hannounced.requestId hb, ← ih]
      rfl
    · have hevent := fun h => hb (hannounced.isHeartbeat.mpr h)
      rw [List.map_cons, Delivery.of, if_neg hb, List.map_cons,
        List.filter_cons_of_neg (by simpa using hevent), ← ih]
      rfl

namespace ConnectionManager

open Dubbo.DubboCodec (Sound Replyable IsFrame Unfinished HeartbeatsAnswered)

/-- As long as the connection is open decoding has not failed, and every heartbeat has its
reply. -/
structure Answering (cm : ConnectionManager σ) : Prop where
  decodingFailed : cm.downstream.state = .open → cm.decodingFailed = false
  heartbeats : cm.downstream.state = .open →
    cm.downstream.heartbeats = cm.delivered.filterMap Delivery.heartbeatReply

theorem Answering.of_closed {cm : ConnectionManager σ} (h : cm.downstream.state ≠ .open) :
    Answering cm :=
  ⟨fun hopen => absurd hopen h, fun hopen => absurd hopen h⟩

theorem invariant_answering {hessian : Dubbo.Hessian2} {cfg : Config Dubbo.DubboCodec.State}
    (hc : cfg.codec = Dubbo.DubboCodec.codec hessian) :
    Invariant cfg Sound Replyable Answering where
  read h _ _ _ := ⟨h.decodingFailed, h.heartbeats⟩
  go h := ⟨h.decodingFailed, h.heartbeats⟩
  halfClose h _ := ⟨h.decodingFailed, h.heartbeats⟩
  stream h i message downstream hd := by
    obtain ⟨hstate, hheartbeats⟩ := hd.heartbeats
    exact ⟨fun hopen => h.decodingFailed (hstate hopen),
      fun hopen => hheartbeats.trans (h.heartbeats (hstate hopen))⟩
  newMessage {cm} h metadata _ := by
    have hdelivered : (cm.newMessage metadata).delivered.filterMap Delivery.heartbeatReply =
        cm.delivered.filterMap Delivery.heartbeatReply := by
      simp [newMessage, Delivery.heartbeatReply]
    exact ⟨h.decodingFailed, fun hopen => (h.heartbeats hopen).trans hdelivered.symm⟩
  onHeartbeat := by
    intro cm h _ metadata hR
    have hencode : ∀ s, cfg.codec.encode s { metadata with messageType := .heartbeat } =
        .ok (Dubbo.DubboCodec.heartbeatReply metadata.requestId.toNat) := by
      rw [hc]
      exact fun _ => Dubbo.DubboCodec.encode_heartbeat hR
    unfold onHeartbeat
    dsimp only
    split
    · exact .of_closed ‹_›
    rw [hencode]
    refine ⟨h.decodingFailed, fun hopen => ?_⟩
    have hheartbeats := h.heartbeats hopen
    simp only [Downstream.heartbeats] at hheartbeats
    simp [onDownstream, Downstream.heartbeats, Downstream.write, Downstream.inc,
      Delivery.heartbeatReply, hheartbeats]
  onDecodingError {cm} h := by
    refine .of_closed ?_
    have hclosed := (cm.downstream.close_spec .noFlush).1
    simpa [ConnectionManager.onDecodingError, onDownstream, Downstream.state_resetAllMessages,
      Downstream.inc] using hclosed
  resetAndClose h := .of_closed (Downstream.close_spec _ _).1
  closed {cm} h event := by
    refine .of_closed ?_
    simp [onDownstream, Downstream.closed, Downstream.onEvent, Downstream.state_resetAllMessages]

/-- While a connection is open, the heartbeat replies it has written are those to the frames with
the event bit. -/
theorem heartbeats_run {hessian : Dubbo.Hessian2} {cfg : Config Dubbo.DubboCodec.State}
    (hc : cfg.codec = Dubbo.DubboCodec.codec hessian) (es : List Event) {frames : List Bytes}
    {rest : Bytes} (hframes : ∀ frame ∈ frames, IsFrame frame) (hrest : Unfinished rest)
    (hreceived : es.flatMap Event.received = frames.flatten ++ rest)
    (hopen : ((system cfg).run (new cfg) es).downstream.state = .open) :
    ((system cfg).run (new cfg) es).downstream.heartbeats =
      (frames.filter (Dubbo.IsEventFlag ·)).map fun frame =>
        Dubbo.DubboCodec.heartbeatReply (BigEndian.peek 8 Dubbo.requestIDOffset frame) := by
  have hkeeps : cfg.codec.Keeps Sound Replyable := (flows_dubbo hc).toKeeps
  have hanswering := ((invariant_answering hc).run hkeeps ⟨fun _ => rfl, fun _ => rfl⟩ es).prop
  have hfed := fed_run_dubbo hc es
  generalize (system cfg).run (new cfg) es = cm at hfed hanswering hopen ⊢
  obtain ⟨p, ha, hp⟩ := hfed.progress
  rw [hc, hreceived] at hp
  obtain ⟨rfl, hannounced⟩ := Dubbo.DubboCodec.emitted_frames hp
    (ha.failed.symm.trans (hanswering.decodingFailed hopen)) hframes hrest
  rw [hanswering.heartbeats hopen, ha.emitted]
  exact heartbeatReplies_eq hannounced

/-- While a connection is open, its heartbeat replies answer the heartbeat requests of the client
exactly if the client has sent no heartbeat response. -/
theorem heartbeatsAnswered_iff {hessian : Dubbo.Hessian2} {cfg : Config Dubbo.DubboCodec.State}
    (hc : cfg.codec = Dubbo.DubboCodec.codec hessian) (es : List Event) {frames : List Bytes}
    {rest : Bytes} (hframes : ∀ frame ∈ frames, IsFrame frame) (hrest : Unfinished rest)
    (hreceived : es.flatMap Event.received = frames.flatten ++ rest)
    (hopen : ((system cfg).run (new cfg) es).downstream.state = .open) :
    HeartbeatsAnswered hessian frames ((system cfg).run (new cfg) es).downstream.heartbeats ↔
      ∀ frame ∈ frames, ¬Dubbo.IsHeartbeatResponse frame := by
  rw [heartbeats_run hc es hframes hrest hreceived hopen]
  exact Dubbo.DubboCodec.heartbeatsAnswered_map_iff hessian frames

/-- A heartbeat with a body, cut in it, behind a request, and the start of another heartbeat. -/
theorem heartbeatsAnswered_chunks :
    HeartbeatsAnswered .compact [DubboExample.request 1, Dubbo.frame 0xe2 0 7 [1, 2, 3]]
        ((system (DubboExample.config none)).run (new (DubboExample.config none))
          [.downstreamData (DubboExample.request 1 ++ (Dubbo.frame 0xe2 0 7 [1, 2, 3]).take 18)
            false, .downstreamData ((Dubbo.frame 0xe2 0 7 [1, 2, 3]).drop 18 ++ [0xda, 0xbb])
            false]).downstream.heartbeats ↔
      ∀ frame ∈ [DubboExample.request 1, Dubbo.frame 0xe2 0 7 [1, 2, 3]],
        ¬Dubbo.IsHeartbeatResponse frame :=
  @heartbeatsAnswered_iff Dubbo.Hessian2.compact _ rfl _ _ [0xda, 0xbb] (by decide +kernel)
    (Dubbo.DubboCodec.unfinished_of_short (by decide)) (by decide +kernel) (by decide +kernel)

/-- A heartbeat response of the client is replied to. -/
theorem not_heartbeatsAnswered_response :
    IsFrame (Dubbo.frame 0x22 20 7 []) ∧ Dubbo.IsHeartbeatResponse (Dubbo.frame 0x22 20 7 []) ∧
      ((system (DubboExample.config none)).run (new (DubboExample.config none))
        [.downstreamData (Dubbo.frame 0x22 20 7 []) false]).downstream.state = .open ∧
      ((system (DubboExample.config none)).run (new (DubboExample.config none))
        [.downstreamData (Dubbo.frame 0x22 20 7 []) false]).downstream.heartbeats =
          [Dubbo.frame 0x22 20 7 []] ∧
      ¬HeartbeatsAnswered .compact [Dubbo.frame 0x22 20 7 []]
        ((system (DubboExample.config none)).run (new (DubboExample.config none))
          [.downstreamData (Dubbo.frame 0x22 20 7 []) false]).downstream.heartbeats := by
  have hheartbeats : ((system (DubboExample.config none)).run (new (DubboExample.config none))
      [.downstreamData (Dubbo.frame 0x22 20 7 []) false]).downstream.heartbeats =
        [Dubbo.frame 0x22 20 7 []] := by decide +kernel
  refine ⟨by decide +kernel, by decide +kernel, by decide +kernel, hheartbeats, ?_⟩
  rw [hheartbeats]
  have hrequests : [Dubbo.frame 0x22 20 7 []].filter (Dubbo.IsHeartbeatRequest ·) = [] := by
    decide +kernel
  intro h
  rw [HeartbeatsAnswered, hrequests] at h
  cases h

end ConnectionManager

end MetaProtocolProxy

import MetaProtocolProxy.Chunking

/-!
# Bytes of a client's stream

Bytes from the client are in three places : the buffer of the connection, the context of the
frame that is being decoded, and the original bytes of the messages delivered. A header moves
to the context when it is read, a heartbeat all at once, and the context goes into the message
(`conserves_round`). So until decoding fails, the three together are the bytes received, in
this order (`conserved_run`).
-/

namespace MetaProtocolProxy

namespace Dubbo.DubboCodec

variable {hessian : Hessian2} {buffer : Bytes}

/-- The body size in the header of a frame. -/
def announcedBodySize (frame : Bytes) : ℕ :=
  (UInt32.ofNat (BigEndian.peek 4 bodySizeOffset frame)).toInt32.toInt.toNat

/-- The original bytes of a message are a whole frame. -/
structure Whole (metadata : Metadata) : Prop where
  length : metadata.originMessage.length = metadata.headerSize + metadata.bodySize
  headerSize : metadata.headerSize = messageSize
  bodySize : metadata.bodySize = announcedBodySize metadata.originMessage

/-- The bytes of an unfinished frame in its context. -/
def held (s : State) : Bytes :=
  (s.bind (·.context)).elim [] (·.originMessage)

/-- In front of a header nothing is held, and behind it the header is. -/
inductive Holding : State → Prop
  | idle : Holding none
  | header {machine : DecoderStateMachine} (hs : machine.state = .onDecodeStreamHeader)
      (hheld : held (some machine) = []) : Holding (some machine)
  | data {machine : DecoderStateMachine} {context : Context}
      (hs : machine.state = .onDecodeStreamData) (hc : machine.context = some context)
      (hheader : context.headerSize = messageSize)
      (hlength : context.originMessage.length = messageSize)
      (hbody : context.bodySize = announcedBodySize context.originMessage) :
      Holding (some machine)

theorem announcedBodySize_append {frame : Bytes} (h : messageSize ≤ frame.length) (x : Bytes) :
    announcedBodySize (frame ++ x) = announcedBodySize frame := by
  rw [announcedBodySize, announcedBodySize, BigEndian.peek_append (Nat.le_trans (by decide) h)]

theorem announcedBodySize_take {size : ℕ} (h : messageSize ≤ size) (frame : Bytes) :
    announcedBodySize (frame.take size) = announcedBodySize frame := by
  rw [announcedBodySize, announcedBodySize, BigEndian.peek_take (Nat.le_trans (by decide) h)]

/-- Where a call of `decode` leaves the bytes it finds. -/
structure Conserving (s : State) (buffer : Bytes) (decoding : Decoding State) : Prop where
  wait : decoding.status = .waitForData →
    Holding decoding.codec ∧ held decoding.codec ++ decoding.buffer = held s ++ buffer
  done : ∀ {metadata}, decoding.status = .done metadata → decoding.codec = none ∧
    Whole metadata ∧ metadata.originMessage ++ decoding.buffer = held s ++ buffer

section Conserving

variable {s s' : State} {buffer' : Bytes} {fault : Fault}

theorem conserving_wait (h : Holding s') (hheld : held s' ++ buffer' = held s ++ buffer) :
    Conserving s buffer ⟨s', buffer', .waitForData⟩ :=
  ⟨fun _ => ⟨h, hheld⟩, by rintro _ ⟨⟩⟩

theorem conserving_throw : Conserving s buffer ⟨s', buffer', .throw fault⟩ :=
  ⟨by rintro ⟨⟩, by rintro _ ⟨⟩⟩

/-- A frame that is taken off whole. -/
theorem conserving_done {metadata : MessageMetadata} {context : Context}
    (hheader : context.headerSize = messageSize)
    (hlength : context.originMessage.length = context.headerSize + context.bodySize)
    (hbody : context.bodySize = announcedBodySize context.originMessage)
    (hheld : context.originMessage ++ buffer' = held s ++ buffer) :
    Conserving s buffer ⟨none, buffer', .done (toMetadataWithContext metadata context {})⟩ := by
  refine ⟨by rintro ⟨⟩, ?_⟩
  rintro _ ⟨⟩
  exact ⟨rfl, ⟨hlength, hheader, hbody⟩, hheld⟩

variable {machine : DecoderStateMachine} {context : Context}

theorem conserving_data (hs : machine.state = .onDecodeStreamData)
    (hc : machine.context = some context) (hheader : context.headerSize = messageSize)
    (hlength : context.originMessage.length = messageSize)
    (hbody : context.bodySize = announcedBodySize context.originMessage)
    (hheld : context.originMessage ++ buffer' = held s ++ buffer) :
    Conserving s buffer (decode hessian (some machine) buffer') := by
  rcases hd : decodeData hessian buffer' context machine.metadata with fault | _ | metadata
  · rw [decode_data_error hs hc hd]
    exact conserving_throw
  · rw [decode_data_none hs hc hd]
    refine conserving_wait (.data hs hc hheader hlength hbody) ?_
    simpa [held, hc] using hheld
  · have hle : context.bodySize ≤ buffer'.length := by
      by_contra hshort
      rw [decodeData_of_short (by omega)] at hd
      cases hd
    rw [decode_data_done hs hc hd]
    refine conserving_done hheader ?_ ?_ ?_
    · rw [List.length_append, List.length_take, Nat.min_eq_left hle, hlength, hheader]
    · rw [announcedBodySize_append (Nat.le_of_eq hlength.symm)]
      exact hbody
    · rw [List.append_assoc, List.take_append_drop]
      exact hheld

theorem conserving_header (hs : machine.state = .onDecodeStreamHeader)
    (hheld : held (some machine) = []) (hs' : held s = []) :
    Conserving s buffer (decode hessian (some machine) buffer) := by
  rcases hd : decodeHeader buffer machine.metadata with fault | _ | ⟨context, metadata⟩
  · rw [decode_header_error hs hd]
    exact conserving_throw
  · rw [decode_header_none hs hd]
    exact conserving_wait (.header hs hheld) (by rw [hheld, hs'])
  have hspec := decodeHeader_spec hd
  have hbody : context.bodySize = announcedBodySize buffer := hspec.bodySize
  have hsize : messageSize ≤ context.headerSize := Nat.le_of_eq hspec.headerSize.symm
  have hlength : context.headerSize ≤ buffer.length := hspec.headerSize ▸ hspec.length
  cases hb : metadata.messageType.isHeartbeat with
  | false =>
    rw [decode_header hs hd hb]
    refine conserving_data rfl rfl hspec.headerSize ?_ ?_ ?_
    · rw [hspec.originMessage, List.nil_append, List.length_take, Nat.min_eq_left hlength,
        hspec.headerSize]
    · rw [hspec.originMessage, List.nil_append, announcedBodySize_take hsize]
      exact hbody
    · rw [hspec.originMessage, List.nil_append, List.take_append_drop, hs', List.nil_append]
  | true =>
    by_cases hshort : buffer.length < context.headerSize + context.bodySize
    · rw [decode_heartbeat_short hs hd hb hshort]
      refine conserving_wait (.header hs hspec.originMessage) ?_
      rw [hs', show held _ = context.originMessage from rfl, hspec.originMessage]
    · have hwhole := Nat.not_lt.mp hshort
      rw [decode_heartbeat hs hd hb hwhole]
      refine conserving_done hspec.headerSize ?_ ?_ ?_
      · rw [hspec.originMessage, List.nil_append, List.length_take, Nat.min_eq_left hwhole]
      · rw [hspec.originMessage, List.nil_append,
          announcedBodySize_take (Nat.le_add_right_of_le hsize)]
        exact hbody
      · rw [hspec.originMessage, List.nil_append, List.take_append_drop, hs', List.nil_append]

end Conserving

/-- A call of `decode` loses no byte. -/
theorem conserving_decode (hessian : Hessian2) {s : State} (hs : Holding s) (buffer : Bytes) :
    Conserving s buffer (decode hessian s buffer) := by
  cases hs with
  | idle => exact decode_none ▸ conserving_header rfl rfl rfl
  | header hs hheld => exact conserving_header hs hheld hheld
  | data hs hc hheader hlength hbody =>
    exact conserving_data hs hc hheader hlength hbody (by simp [held, hc])

/-- The Dubbo codec conserves its input. -/
theorem conserves_round (hessian : Hessian2) :
    Resumable.Conserves (codec hessian).round Holding held (·.originMessage) Whole where
  wait := by
    intro s b s' b' hs hr
    have hconserving := conserving_decode hessian hs b
    simp only [Codec.round, codec] at hr
    generalize decode hessian s b = decoding at hconserving hr
    obtain ⟨t, c, status⟩ := decoding
    cases status with
    | waitForData =>
      cases hr
      exact hconserving.wait rfl
    | done metadata => cases hr
    | throw fault => cases hr
  emit := by
    intro s b metadata s' b' hs hr
    have hconserving := conserving_decode hessian hs b
    simp only [Codec.round, codec] at hr
    generalize decode hessian s b = decoding at hconserving hr
    obtain ⟨t, c, status⟩ := decoding
    cases status with
    | waitForData => cases hr
    | done metadata =>
      cases hr
      obtain ⟨rfl, hwhole, hall⟩ := hconserving.done rfl
      exact ⟨.idle, hwhole, by simpa [held] using hall⟩
    | throw fault => cases hr

end Dubbo.DubboCodec

/-- The message of a callback. -/
def Delivery.metadata : Delivery → Metadata
  | .stream metadata | .heartbeat metadata => metadata

@[simp] theorem Delivery.metadata_of (metadata : Metadata) :
    (Delivery.of metadata).metadata = metadata := by
  unfold Delivery.of
  split <;> rfl

namespace ConnectionManager

open Dubbo.DubboCodec (Whole held Holding)

/-- In every state of a run in which decoding has not failed, the original bytes of the messages
delivered, what the context holds and the buffer are the bytes received, and every message is a
whole frame. -/
theorem conserved_run {hessian : Dubbo.Hessian2} {cfg : Config Dubbo.DubboCodec.State}
    (hc : cfg.codec = Dubbo.DubboCodec.codec hessian) (es : List Event)
    (h : ((system cfg).run (new cfg) es).decodingFailed = false) :
    ((system cfg).run (new cfg) es).delivered.flatMap (·.metadata.originMessage) ++
        held ((system cfg).run (new cfg) es).downstream.codec ++
        ((system cfg).run (new cfg) es).requestBuffer = es.flatMap Event.received ∧
      ∀ d ∈ ((system cfg).run (new cfg) es).delivered, Whole d.metadata := by
  have hfed := fed_run_dubbo hc es
  generalize (system cfg).run (new cfg) es = cm at hfed h ⊢
  obtain ⟨p, ha, hp⟩ := hfed.progress
  rw [hc] at hp
  obtain ⟨-, hwhole, hall⟩ := hp.conserved (Dubbo.DubboCodec.conserves_round hessian) .idle rfl
    (ha.failed.symm.trans h)
  refine ⟨?_, fun d hd => ?_⟩
  · rw [ha.emitted, ha.state, ha.buffer, ← hall, List.flatMap_map]
    simp
  · rw [ha.emitted] at hd
    obtain ⟨metadata, hm, rfl⟩ := List.mem_map.mp hd
    rw [Delivery.metadata_of]
    exact hwhole metadata hm

/-- A request, and the header of the next one with a part of its body. -/
theorem conserved_run_chunks :
    ((system (DubboExample.config none)).run (new (DubboExample.config none))
          [.downstreamData (DubboExample.request 1 ++ (DubboExample.request 2).take 20)
            false]).delivered.flatMap (·.metadata.originMessage) ++
        held ((system (DubboExample.config none)).run (new (DubboExample.config none))
          [.downstreamData (DubboExample.request 1 ++ (DubboExample.request 2).take 20)
            false]).downstream.codec ++
        ((system (DubboExample.config none)).run (new (DubboExample.config none))
          [.downstreamData (DubboExample.request 1 ++ (DubboExample.request 2).take 20)
            false]).requestBuffer =
        [Event.downstreamData (DubboExample.request 1 ++ (DubboExample.request 2).take 20)
          false].flatMap Event.received ∧
      ∀ d ∈ ((system (DubboExample.config none)).run (new (DubboExample.config none))
          [.downstreamData (DubboExample.request 1 ++ (DubboExample.request 2).take 20)
            false]).delivered, Whole d.metadata :=
  @conserved_run Dubbo.Hessian2.compact _ rfl _ (by decide +kernel)

end ConnectionManager

end MetaProtocolProxy

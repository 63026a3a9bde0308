import MetaProtocolProxy.Chunking
import MetaProtocolProxy.Loops

/-!
# Decoding comes to an end

The loop of `dispatch` calls the decoder until it waits, throws, or leaves the buffer empty. It has
no bound of its own, so that it ends rests on the codec : a call that completes a message has taken
a byte off the buffer, or an earlier call that has begun the message has (`Codec.Takes`). So at most
one turn of the loop takes nothing, and the loop ends (`ends_dispatchLoop`).

`History` is how a connection has read what it received, turn by turn, with the number of bytes
each message has taken. None has taken no byte (`History.accounted`).
-/

namespace MetaProtocolProxy

variable {σ : Type}

/-! ## What a call takes off the buffer -/

/-- What a call of `decode` takes off the buffer, where `begun` says that a byte of the next message
has been taken. -/
structure Decoding.Takes (I : σ → Prop) (begun : σ → Bool) (s : σ) (buffer : Bytes)
    (decoding : Decoding σ) : Prop where
  inv : I decoding.codec
  le : decoding.buffer.length ≤ buffer.length
  begins : begun s = false → begun decoding.codec = true → decoding.buffer.length < buffer.length
  done : ∀ {metadata}, decoding.status = .done metadata → begun decoding.codec = false ∧
    (begun s = false → decoding.buffer.length < buffer.length)

/-- A codec that takes a byte for every message it completes. -/
structure Codec.Takes (codec : Codec σ) (I : σ → Prop) (begun : σ → Bool) : Prop where
  init : I codec.init
  fresh : begun codec.init = false
  decode : ∀ {s}, I s → ∀ buffer, (codec.decode s buffer).Takes I begun s buffer

/-- A message is complete. -/
def Decoded.isMessage : Decoded → Bool
  | .stream _ | .heartbeat _ => true
  | .waitForData | .throw _ => false

/-- What a call takes that does not reach the codec. -/
theorem takes_none {I : σ → Prop} {begun : σ → Bool} {s : σ} (hi : I s) (buffer : Bytes)
    (fault : Fault) : Decoding.Takes I begun s buffer ⟨s, buffer, .throw fault⟩ where
  inv := hi
  le := Nat.le_refl _
  begins h h' := absurd (h.symm.trans h') (by simp)
  done := by rintro _ ⟨⟩

/-- A decoder takes what its codec takes, and calls back for a message that is done only. -/
theorem DecoderBase.takes_decode {codec : Codec σ} {I : σ → Prop} {begun : σ → Bool}
    (hc : codec.Takes I begun) {s : σ} (hi : I s) (decoder : DecoderBase) (data : Bytes) :
    ∃ status, Decoding.Takes I begun s data
        ⟨(decoder.decode codec s data).2.1, (decoder.decode codec s data).2.2.1, status⟩ ∧
      ((decoder.decode codec s data).2.2.2.isMessage = true → ∃ metadata,
        status = .done metadata) := by
  have htakes := hc.decode hi data
  unfold DecoderBase.decode
  dsimp only
  generalize (if decoder.decodeStarted then decoder else decoder.start) = started
  split
  · exact ⟨.throw (.panic ""), takes_none hi data _, by rintro ⟨⟩⟩
  · exact ⟨.throw (.panic ""), takes_none hi data _, by rintro ⟨⟩⟩
  · generalize codec.decode s data = decoding at htakes ⊢
    obtain ⟨s', rest, status⟩ := decoding
    refine ⟨status, ?_⟩
    cases status with
    | waitForData => exact ⟨htakes, by rintro ⟨⟩⟩
    | throw fault => exact ⟨htakes, by rintro ⟨⟩⟩
    | done metadata =>
      dsimp only
      split_ifs
      · exact ⟨htakes, fun _ => ⟨metadata, rfl⟩⟩
      · exact ⟨htakes, by rintro ⟨⟩⟩
      · exact ⟨htakes, fun _ => ⟨metadata, rfl⟩⟩

namespace ConnectionManager

variable {cfg : Config σ} {I : σ → Prop} {begun : σ → Bool} {cm cm' : ConnectionManager σ}
  {received : Bytes}

/-! ## Turns -/

/-- A turn reads by one call of the decoder, and delivers what it completes. -/
structure TurnReads (cfg : Config σ) (cm cm' : ConnectionManager σ) (again : Bool) : Prop where
  codec : cm'.downstream.codec = (cm.decode cfg).1.downstream.codec
  buffer : cm'.requestBuffer = (cm.decode cfg).1.requestBuffer
  delivered : cm'.delivered.length = cm.delivered.length + (cm.decode cfg).2.isMessage.toNat
  message : again = true → (cm.decode cfg).2.isMessage = true

theorem turnReads {again : Bool} (h : Turn cfg cm cm' again) : TurnReads cfg cm cm' again := by
  have hheartbeat : ∀ metadata (cm : ConnectionManager σ),
      (cm.onHeartbeat cfg metadata).2.downstream.codec = cm.downstream.codec ∧
        (cm.onHeartbeat cfg metadata).2.requestBuffer = cm.requestBuffer ∧
        (cm.onHeartbeat cfg metadata).2.delivered.length = cm.delivered.length + 1 := by
    intro metadata cm
    obtain ⟨ws, hcm, -⟩ := onHeartbeat_spec cfg metadata cm
    rw [hcm]
    exact ⟨rfl, rfl, by simp⟩
  have herror : ∀ cm : ConnectionManager σ,
      cm.onDecodingError.downstream.codec = cm.downstream.codec := by
    intro cm
    simp [onDecodingError, onDownstream, Downstream.codec_resetAllMessages, Downstream.inc,
      Downstream.codec_close]
  cases h with
  | wait hdecoded => exact ⟨rfl, rfl, by rw [hdecoded]; rfl, by rintro ⟨⟩⟩
  | error hdecoded => exact ⟨herror _, rfl, by rw [hdecoded]; rfl, by rintro ⟨⟩⟩
  | panic hdecoded => exact ⟨rfl, rfl, by rw [hdecoded]; rfl, by rintro ⟨⟩⟩
  | @stream metadata hdecoded =>
    have hk := kept_newStream cfg metadata (cm.decode cfg).1
    refine ⟨hk.codec, hk.requestBuffer, ?_, fun _ => by rw [hdecoded]; rfl⟩
    rw [hdecoded]
    exact (congrArg List.length hk.delivered).trans (by simp [decode, Decoded.isMessage])
  | @heartbeat metadata hdecoded hreply =>
    obtain ⟨hcodec, hbuffer, hdelivered⟩ := hheartbeat metadata (cm.decode cfg).1
    exact ⟨hcodec, hbuffer, by rw [hdecoded]; exact hdelivered, fun _ => by rw [hdecoded]; rfl⟩
  | @heartbeatError metadata hdecoded what hreply =>
    obtain ⟨hcodec, hbuffer, hdelivered⟩ := hheartbeat metadata (cm.decode cfg).1
    exact ⟨(herror _).trans hcodec, hbuffer, by rw [hdecoded]; exact hdelivered, by rintro ⟨⟩⟩
  | @heartbeatPanic metadata hdecoded site hreply =>
    obtain ⟨hcodec, hbuffer, hdelivered⟩ := hheartbeat metadata (cm.decode cfg).1
    exact ⟨hcodec, hbuffer, by rw [hdecoded]; exact hdelivered, by rintro ⟨⟩⟩

/-- What a turn takes off the buffer of the connection. -/
theorem takes_turn (hc : cfg.codec.Takes I begun) (hi : I cm.downstream.codec) {again : Bool}
    (h : Turn cfg cm cm' again) : ∃ status, Decoding.Takes I begun cm.downstream.codec
        cm.requestBuffer ⟨cm'.downstream.codec, cm'.requestBuffer, status⟩ ∧
      ((cm.decode cfg).2.isMessage = true → ∃ metadata, status = .done metadata) := by
  have hreads := turnReads h
  rw [hreads.codec, hreads.buffer]
  exact DecoderBase.takes_decode hc hi cm.decoder cm.requestBuffer

/-! ## The loop -/

/-- A turn of the loop of `dispatch`, which underflow ends, or an exception. -/
inductive Dispatches (cfg : Config σ) (cm : ConnectionManager σ) :
    ConnectionManager σ ⊕ ConnectionManager σ → Prop
  | stop {cm' : ConnectionManager σ} (h : Turn cfg cm cm' false) : Dispatches cfg cm (.inl cm')
  | underflow {cm' : ConnectionManager σ} (h : Turn cfg cm cm' true)
      (hb : cm'.requestBuffer = []) :
      Dispatches cfg cm (.inl cm')
  | again {cm' : ConnectionManager σ} (h : Turn cfg cm cm' true) (hb : cm'.requestBuffer ≠ []) :
      Dispatches cfg cm (.inr cm')

/-- The turns the loop may still take : one more than there are bytes, if a message has begun. -/
def turnsLeft (begun : σ → Bool) (cm : ConnectionManager σ) : ℕ :=
  if begun cm.downstream.codec then cm.requestBuffer.length else cm.requestBuffer.length - 1

theorem descends_dispatches (hc : cfg.codec.Takes I begun) :
    Loops.Descends (Dispatches cfg) (fun cm => I cm.downstream.codec) (turnsLeft begun) where
  total {cm} _ := by
    obtain ⟨cm', _ | _, hturn⟩ := exists_turn cfg cm
    · exact ⟨_, .stop hturn⟩
    · by_cases hb : cm'.requestBuffer = []
      · exact ⟨_, .underflow hturn hb⟩
      · exact ⟨_, .again hturn hb⟩
  again {cm cm'} hi hturn := by
    cases hturn with
    | again hturn hb =>
      obtain ⟨status, htakes, hmessage⟩ := takes_turn hc hi hturn
      obtain ⟨metadata, hdone⟩ := hmessage ((turnReads hturn).message rfl)
      obtain ⟨hbegun, hlt⟩ := htakes.done hdone
      have hle := htakes.le
      have hpos := List.length_pos_iff.mpr hb
      refine ⟨htakes.inv, ?_⟩
      dsimp only at hbegun hlt hle
      cases hb : begun cm.downstream.codec with
      | false =>
        have hlt' := hlt hb
        simp only [turnsLeft, hbegun, hb, Bool.false_eq_true, if_false]
        omega
      | true =>
        simp only [turnsLeft, hbegun, hb, Bool.false_eq_true, if_false, if_true]
        omega

theorem follows_dispatchLoop : Loops.Follows (Dispatches cfg) (dispatchLoop cfg) where
  stop {cm cm'} hturn fuel := by
    cases hturn with
    | stop hturn => exact dispatchLoop_turn hturn fuel
    | underflow hturn hb => rw [dispatchLoop_turn hturn, if_pos rfl, if_pos hb]
  again {cm cm'} hturn fuel := by
    cases hturn with
    | again hturn hb => rw [dispatchLoop_turn hturn, if_pos rfl, if_neg hb]

/-- The loop ends, and as it does with a turn for every byte and one more. -/
theorem ends_dispatchLoop (hc : cfg.codec.Takes I begun) (hi : I cm.downstream.codec) :
    Loops.Ends (Dispatches cfg) cm (dispatchLoop cfg (cm.requestBuffer.length + 1) cm) := by
  refine (descends_dispatches hc).ends_of_fuel follows_dispatchLoop _ hi ?_
  unfold turnsLeft
  split_ifs <;> omega

/-! ## What the messages have taken -/

/-- How a connection has read what it received, turn by turn : the number of bytes that each message
completed has taken off the buffer, and the number that has been taken since. -/
inductive History (cfg : Config σ) : Bytes → ConnectionManager σ → List ℕ → ℕ → Prop
  | start : History cfg [] (new cfg) [] 0
  /-- Bytes from the client. -/
  | data {received cm counts since} (h : History cfg received cm counts since) (data : Bytes) :
      History cfg (received ++ data) { cm with requestBuffer := cm.requestBuffer ++ data } counts
        since
  /-- Something that does not read. -/
  | other {received cm cm' counts since} (h : History cfg received cm counts since)
      (hcodec : cm'.downstream.codec = cm.downstream.codec)
      (hbuffer : cm'.requestBuffer = cm.requestBuffer) (hdelivered : cm'.delivered = cm.delivered) :
      History cfg received cm' counts since
  /-- A turn of the loop of `dispatch` that completes no message. -/
  | turn {received cm cm' counts since again} (h : History cfg received cm counts since)
      (hturn : Turn cfg cm cm' again) (hmessage : (cm.decode cfg).2.isMessage = false) :
      History cfg received cm' counts
        (since + (cm.requestBuffer.length - cm'.requestBuffer.length))
  /-- A turn that completes one. -/
  | message {received cm cm' counts since again} (h : History cfg received cm counts since)
      (hturn : Turn cfg cm cm' again) (hmessage : (cm.decode cfg).2.isMessage = true) :
      History cfg received cm'
        (counts ++ [since + (cm.requestBuffer.length - cm'.requestBuffer.length)]) 0

theorem History.of_kept {counts : List ℕ} {since : ℕ} (h : History cfg received cm counts since)
    (hk : Kept cm cm') : History cfg received cm' counts since :=
  h.other hk.codec hk.requestBuffer hk.delivered

/-- Every message delivered has taken a byte, and all bytes that are not in the buffer have been
taken. -/
structure Accounted (received : Bytes) (cm : ConnectionManager σ) (counts : List ℕ) (since : ℕ) :
    Prop where
  messages : counts.length = cm.delivered.length
  pos : ∀ count ∈ counts, 0 < count
  all : counts.sum + since + cm.requestBuffer.length = received.length

/-- A message that has begun has taken a byte. -/
theorem History.accounted (hc : cfg.codec.Takes I begun) {counts : List ℕ} {since : ℕ}
    (h : History cfg received cm counts since) :
    I cm.downstream.codec ∧ (begun cm.downstream.codec = true → 0 < since) ∧
      Accounted received cm counts since := by
  induction h with
  | start =>
    have hfresh : begun (new cfg).downstream.codec = false := hc.fresh
    exact ⟨hc.init, fun h => absurd (hfresh.symm.trans h) (by simp), rfl, by simp, rfl⟩
  | data _ data ih =>
    obtain ⟨hi, hbegun, hmessages, hpos, hall⟩ := ih
    refine ⟨hi, hbegun, hmessages, hpos, ?_⟩
    rw [List.length_append, List.length_append, ← Nat.add_assoc, hall]
  | other _ hcodec hbuffer hdelivered ih =>
    obtain ⟨hi, hbegun, hmessages, hpos, hall⟩ := ih
    exact ⟨hcodec ▸ hi, hcodec ▸ hbegun, hdelivered ▸ hmessages, hpos, hbuffer ▸ hall⟩
  | @turn received cm cm' counts since again _ hturn hmessage ih =>
    obtain ⟨hi, hbegun, hmessages, hpos, hall⟩ := ih
    obtain ⟨status, htakes, -⟩ := takes_turn hc hi hturn
    have hle := htakes.le
    have hbegins := htakes.begins
    dsimp only at hle hbegins
    refine ⟨htakes.inv, fun h => ?_, ?_, hpos, by omega⟩
    · cases hb : begun cm.downstream.codec with
      | false => have := hbegins hb h; omega
      | true => have := hbegun hb; omega
    · rw [(turnReads hturn).delivered, hmessage]
      exact hmessages
  | @message received cm cm' counts since again _ hturn hmessage ih =>
    obtain ⟨hi, hbegun, hmessages, hpos, hall⟩ := ih
    obtain ⟨status, htakes, hdone⟩ := takes_turn hc hi hturn
    obtain ⟨metadata, hdone⟩ := hdone hmessage
    obtain ⟨hfresh, hlt⟩ := htakes.done hdone
    have hle := htakes.le
    dsimp only at hle hfresh hlt
    have htaken : 0 < since + (cm.requestBuffer.length - cm'.requestBuffer.length) := by
      cases hb : begun cm.downstream.codec with
      | false => have := hlt hb; omega
      | true => have := hbegun hb; omega
    refine ⟨htakes.inv, fun h => absurd (hfresh.symm.trans h) (by simp), ?_, ?_, ?_⟩
    · rw [(turnReads hturn).delivered, hmessage]
      simp [hmessages]
    · intro count hcount
      rcases List.mem_append.mp hcount with h | h
      · exact hpos count h
      · rwa [List.mem_singleton.mp h]
    · rw [List.sum_append, List.sum_singleton]
      omega

/-- Some history. -/
def Read (cfg : Config σ) (received : Bytes) (cm : ConnectionManager σ) : Prop :=
  ∃ counts since, History cfg received cm counts since

theorem Read.of_kept (h : Read cfg received cm) (hk : Kept cm cm') : Read cfg received cm' := by
  obtain ⟨counts, since, h⟩ := h
  exact ⟨counts, since, h.of_kept hk⟩

theorem Read.turn (h : Read cfg received cm) {again : Bool} (hturn : Turn cfg cm cm' again) :
    Read cfg received cm' := by
  obtain ⟨counts, since, h⟩ := h
  cases hmessage : (cm.decode cfg).2.isMessage with
  | false => exact ⟨_, _, h.turn hturn hmessage⟩
  | true => exact ⟨_, _, h.message hturn hmessage⟩

theorem dispatching_read : Dispatching cfg (Read cfg) (Read cfg) where
  weaken h := h
  kept h hk := h.of_kept hk
  kept' h hk := h.of_kept hk
  go := by
    rintro received cm ⟨counts, since, h⟩
    exact ⟨counts, since, h.other rfl rfl rfl⟩
  after := by
    rintro received cm cm' ⟨counts, since, h⟩ ha
    have hk := kept_resetAndClose cm
    cases ha with
    | more => exact ⟨counts, since, h⟩
    | reset => exact ⟨counts, since, h.of_kept hk⟩
    | halfClose | assert => exact ⟨counts, since, h.other rfl rfl rfl⟩
  dispatch := by
    rintro received cm ⟨counts, since, h⟩ data
    have hdata : Read cfg (received ++ data)
        { cm with requestBuffer := cm.requestBuffer ++ data } := ⟨counts, since, h.data data⟩
    exact dispatch_rule (fun h => h) (fun h hturn => Read.turn h hturn)
      (fun h hturn => Read.turn h hturn) hdata

/-- Every run is a history. -/
theorem read_run (cfg : Config σ) (es : List Event) :
    Read cfg (es.flatMap Event.received) ((system cfg).run (new cfg) es) := by
  have hrun : ∀ (es : List Event) {received : Bytes} {cm : ConnectionManager σ},
      Read cfg received cm →
        Read cfg (received ++ es.flatMap Event.received) ((system cfg).run cm es) := by
    intro es
    induction es with
    | nil => intro received cm h; simpa using h
    | cons e es ih =>
      intro received cm h
      rw [List.flatMap_cons, ← List.append_assoc]
      exact ih (dispatching_read.step h e)
  exact hrun es ⟨[], 0, .start⟩

/-- Decoding terminates : from every state that a connection can come to while it reads, with any
bytes in its buffer, the loop of `dispatch` ends, and every message that has been completed has
taken a byte. The states of a run are such states. -/
structure DecodingTerminates (cfg : Config σ) : Prop where
  dispatch : ∀ {received cm counts since}, History cfg received cm counts since →
    Loops.Ends (Dispatches cfg) cm (dispatchLoop cfg (cm.requestBuffer.length + 1) cm)
  taken : ∀ {received cm counts since}, History cfg received cm counts since →
    Accounted received cm counts since
  run : ∀ es : List Event, ∃ counts since,
    History cfg (es.flatMap Event.received) ((system cfg).run (new cfg) es) counts since

theorem decodingTerminates (hc : cfg.codec.Takes I begun) : DecodingTerminates cfg where
  dispatch h := ends_dispatchLoop hc (h.accounted hc).1
  taken h := (h.accounted hc).2.2
  run es := read_run cfg es

end ConnectionManager

/-! ## Dubbo -/

namespace Dubbo.DubboCodec

variable {hessian : Hessian2} {buffer : Bytes} {machine : DecoderStateMachine} {context : Context}

/-- The header of the next frame has been taken. -/
def begun (s : State) : Bool :=
  s.any fun machine => machine.state = .onDecodeStreamData

/-- A body is taken off the buffer, and nothing else. -/
theorem length_decode_data (hs : machine.state = .onDecodeStreamData)
    (hc : machine.context = some context) (buffer : Bytes) :
    (decode hessian (some machine) buffer).buffer.length ≤ buffer.length ∧
      ∀ {metadata}, (decode hessian (some machine) buffer).status = .done metadata →
        begun (decode hessian (some machine) buffer).codec = false := by
  rcases hd : decodeData hessian buffer context machine.metadata with fault | _ | metadata
  · rw [decode_data_error hs hc hd]
    exact ⟨Nat.le_refl _, by rintro _ ⟨⟩⟩
  · rw [decode_data_none hs hc hd]
    exact ⟨Nat.le_refl _, by rintro _ ⟨⟩⟩
  · rw [decode_data_done hs hc hd, List.length_drop]
    exact ⟨Nat.sub_le _ _, fun _ => rfl⟩

/-- A call in front of a header takes the header, or it waits or throws. -/
theorem length_decode_header (hs : machine.state = .onDecodeStreamHeader) (buffer : Bytes) :
    (decode hessian (some machine) buffer).buffer.length < buffer.length ∧
        (∀ {metadata}, (decode hessian (some machine) buffer).status = .done metadata →
          begun (decode hessian (some machine) buffer).codec = false) ∨
      (decode hessian (some machine) buffer).buffer = buffer ∧
        begun (decode hessian (some machine) buffer).codec = false ∧
        ∀ metadata, (decode hessian (some machine) buffer).status ≠ .done metadata := by
  have hwaits : begun (some machine) = false := by simp [begun, hs]
  rcases hd : decodeHeader buffer machine.metadata with fault | _ | ⟨context, metadata⟩
  · rw [decode_header_error hs hd]
    exact Or.inr ⟨rfl, hwaits, by rintro _ ⟨⟩⟩
  · rw [decode_header_none hs hd]
    exact Or.inr ⟨rfl, hwaits, by rintro _ ⟨⟩⟩
  have hspec := decodeHeader_spec hd
  have hpos : 0 < context.headerSize := hspec.headerSize ▸ Nat.succ_pos _
  have hlength : context.headerSize ≤ buffer.length := hspec.headerSize ▸ hspec.length
  cases hb : metadata.messageType.isHeartbeat with
  | false =>
    rw [decode_header hs hd hb]
    have hdata := @length_decode_data hessian
      { metadata, state := .onDecodeStreamData,
        context := some { context with
          originMessage := context.originMessage ++ buffer.take context.headerSize } }
      _ rfl rfl (buffer.drop context.headerSize)
    rw [List.length_drop] at hdata
    exact Or.inl ⟨by omega, hdata.2⟩
  | true =>
    by_cases hl : buffer.length < context.headerSize + context.bodySize
    · rw [decode_heartbeat_short hs hd hb hl]
      exact Or.inr ⟨rfl, by simp [begun, hs], by rintro _ ⟨⟩⟩
    · rw [decode_heartbeat hs hd hb (Nat.not_lt.mp hl), List.length_drop]
      exact Or.inl ⟨by omega, fun _ => rfl⟩

/-- A Dubbo message takes at least its header. -/
theorem takes_codec (hessian : Hessian2) : (codec hessian).Takes Sound begun where
  init := .idle
  fresh := rfl
  decode {s} hs buffer := by
    have hinv := (regular_decode hessian hs buffer).sound
    have hheader : ∀ machine : DecoderStateMachine, machine.state = .onDecodeStreamHeader →
        decode hessian s buffer = decode hessian (some machine) buffer →
        Decoding.Takes Sound begun s buffer (decode hessian s buffer) := by
      intro machine hstate heq
      rw [heq] at hinv ⊢
      rcases @length_decode_header hessian machine hstate buffer with
        ⟨hlt, hdone⟩ | ⟨hbuffer, hfresh, hwaits⟩
      · exact ⟨hinv, Nat.le_of_lt hlt, fun _ _ => hlt, fun h => ⟨hdone h, fun _ => hlt⟩⟩
      · exact ⟨hinv, Nat.le_of_eq (congrArg List.length hbuffer),
          fun _ h => absurd (hfresh.symm.trans h) (by simp), fun h => absurd h (hwaits _)⟩
    cases hs with
    | idle => exact hheader {} rfl decode_none
    | @header machine hstate => exact hheader machine hstate rfl
    | @data machine context hstate hc =>
      have hbegun : begun (some machine) = true := by simp [begun, hstate]
      obtain ⟨hle, hdone⟩ := @length_decode_data hessian machine context hstate hc buffer
      exact ⟨hinv, hle, fun h => absurd (h.symm.trans hbegun) (by simp),
        fun h => ⟨hdone h, fun h' => absurd (h'.symm.trans hbegun) (by simp)⟩⟩

end Dubbo.DubboCodec

end MetaProtocolProxy

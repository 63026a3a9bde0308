import MetaProtocolProxy.Codec

/-!
# The generic decoder

`DecoderBase` and its state machine (`decoder.h`, `decoder.cc`) drive a codec over a
buffer and call back with what it decodes : a heartbeat, or a stream and then its
message. The callbacks belong to the owner of the decoder, so a call of `onData` is
split where it calls back : `DecoderBase.decode` is everything before, and
`DecoderBase.complete` what follows a callback that returns. A callback that throws
leaves the decoder as `decode` left it.
-/

namespace MetaProtocolProxy

/-- The states of `DecoderStateMachine`. -/
inductive ProtocolState where
  | waitForData | onDecodeStreamData | done
deriving DecidableEq, Repr

/-- What `DecoderBase` keeps besides its codec : the state of the state machine, if there
is one, and whether there is an active stream. -/
structure DecoderBase where
  stateMachine : Option ProtocolState := none
  stream : Bool := false
  decodeStarted : Bool := false
deriving DecidableEq, Repr

/-- What a call of `onData` comes to before it calls back. -/
inductive Decoded where
  | waitForData
  | heartbeat (metadata : Metadata)
  | stream (metadata : Metadata)
  | throw (fault : Fault)
deriving DecidableEq, Repr

namespace DecoderBase

/-- Start to decode a message. -/
def start (decoder : DecoderBase) : DecoderBase :=
  { decoder with stateMachine := some .onDecodeStreamData, decodeStarted := true }

/-- Finish decoding a message. -/
def complete (decoder : DecoderBase) : DecoderBase :=
  { decoder with stateMachine := none, stream := false, decodeStarted := false }

/-- `reset` is `complete`. -/
def reset (decoder : DecoderBase) : DecoderBase :=
  decoder.complete

/-- `onData` and `DecoderStateMachine::onDecodeStream` up to the callback. -/
def decode {σ : Type} (codec : Codec σ) (decoder : DecoderBase) (s : σ) (data : Bytes) :
    DecoderBase × σ × Bytes × Decoded :=
  let decoder := if decoder.decodeStarted then decoder else decoder.start
  match decoder.stateMachine with
  | none => (decoder, s, data, .throw (.panic "ASSERT(state_machine_ != nullptr)"))
  | some .done => (decoder, s, data, .throw (.panic "ASSERT(state_ != ProtocolState::Done)"))
  | some _ =>
    match codec.decode s data with
    | ⟨s, data, .waitForData⟩ =>
      ({ decoder with stateMachine := some .waitForData }, s, data, .waitForData)
    | ⟨s, data, .throw fault⟩ => (decoder, s, data, .throw fault)
    | ⟨s, data, .done metadata⟩ =>
      if metadata.messageType = .heartbeat then (decoder, s, data, .heartbeat metadata)
      else if decoder.stream then (decoder, s, data, .throw (.panic "ASSERT(!stream_)"))
      else ({ decoder with stream := true }, s, data, .stream metadata)

end DecoderBase

/-! ## The decoder between two calls -/

/-- What the end of a call of the codec comes to, for a decoder with no open message. -/
def DecodeStatus.decoded : DecodeStatus → Decoded
  | .waitForData => .waitForData
  | .throw fault => .throw fault
  | .done metadata =>
    if metadata.messageType = .heartbeat then .heartbeat metadata else .stream metadata

theorem DecodeStatus.eq_throw_of_decoded {status : DecodeStatus} {fault : Fault}
    (h : status.decoded = .throw fault) : status = .throw fault := by
  cases status with
  | waitForData => cases h
  | throw => cases h; rfl
  | done metadata =>
    dsimp only [decoded] at h
    split at h <;> cases h

theorem DecodeStatus.eq_done_of_heartbeat {status : DecodeStatus} {metadata : Metadata}
    (h : status.decoded = .heartbeat metadata) :
    status = .done metadata ∧ metadata.messageType = .heartbeat := by
  cases status with
  | waitForData | throw => cases h
  | done metadata =>
    dsimp only [decoded] at h
    split at h
    · cases h
      exact ⟨rfl, ‹_›⟩
    · cases h

theorem DecodeStatus.eq_done_of_stream {status : DecodeStatus} {metadata : Metadata}
    (h : status.decoded = .stream metadata) : status = .done metadata := by
  cases status with
  | waitForData | throw => cases h
  | done metadata =>
    dsimp only [decoded] at h
    split at h
    · cases h
    · cases h
      rfl

/-- No message is open, and there is a state machine that is not done once decoding has
started. -/
structure DecoderBase.Ready (decoder : DecoderBase) : Prop where
  stream : decoder.stream = false
  started : decoder.decodeStarted = true → decoder.stateMachine ≠ none
  done : decoder.stateMachine ≠ some .done

namespace DecoderBase

variable {σ : Type}

theorem ready_complete (decoder : DecoderBase) : decoder.complete.Ready :=
  ⟨rfl, by rintro ⟨⟩, by simp [complete]⟩

/-- A decoder that is ready does what its codec does. -/
theorem decode_of_ready {decoder : DecoderBase} (h : decoder.Ready) (codec : Codec σ) (s : σ)
    (data : Bytes) : ∃ decoder', decoder.decode codec s data =
      (decoder', (codec.decode s data).codec, (codec.decode s data).buffer,
        (codec.decode s data).status.decoded) ∧
      ((∀ metadata, (codec.decode s data).status = .done metadata →
        metadata.messageType = .heartbeat) → decoder'.Ready) := by
  have hstart : (if decoder.decodeStarted then decoder else decoder.start).Ready ∧
      ∃ state, (if decoder.decodeStarted then decoder else decoder.start).stateMachine =
        some state := by
    split
    · rename_i hstarted
      exact ⟨h, Option.ne_none_iff_exists'.mp (h.started hstarted)⟩
    · exact ⟨⟨h.stream, by simp [start], by simp [start]⟩, _, rfl⟩
  unfold decode
  dsimp only
  generalize (if decoder.decodeStarted then decoder else decoder.start) = started at hstart ⊢
  obtain ⟨hready, state, hstate⟩ := hstart
  have hdone : state ≠ .done := by
    rintro rfl
    exact hready.done hstate
  obtain ⟨s', data', status⟩ := codec.decode s data
  rw [hstate]
  cases state
  case done => exact absurd rfl hdone
  all_goals
    cases status with
    | waitForData => exact ⟨_, rfl, fun _ => ⟨hready.stream, by simp, by simp⟩⟩
    | throw fault => exact ⟨_, rfl, fun _ => hready⟩
    | done metadata =>
      dsimp only [DecodeStatus.decoded]
      split
      · exact ⟨_, rfl, fun _ => hready⟩
      · rename_i hne
        rw [hready.stream]
        exact ⟨_, rfl, fun hall => absurd (hall metadata rfl) hne⟩

end DecoderBase

end MetaProtocolProxy

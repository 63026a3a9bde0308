import MetaProtocolProxy.ThriftChunking
import MetaProtocolProxy.ThriftReading
import MetaProtocolProxy.ThriftTranscription

/-!
# Thrift frames

A framed transport puts the size of a message in front of it. `decodeFrameStart` takes the size off
and records it, and `decodeFrameEnd` takes nothing. In between the state machine reads a message of
the protocol, wherever that ends (`decode_of_holds`), and nothing compares what it has read with
the size. So `decode` removes what the size says exactly if the message that it finds behind the
size happens to be that long (`respects_iff`).
-/

namespace MetaProtocolProxy.Thrift

variable {τ π : Type} {t : Transport τ} {p : Protocol π}

/-- The size in front of a frame. -/
def declaredSize (received : Bytes) : ℕ :=
  BigEndian.peek 4 0 received

/-- A transport that takes off the size in front of a frame, and nothing behind it. -/
structure Transport.Framed (t : Transport τ) : Prop where
  decodeFrameStart : ∀ {metadata s received metadata' s' data},
    t.decodeFrameStart metadata s received = .ok (some (metadata', s', data)) →
      4 ≤ received.length ∧ data = received.drop 4 ∧
        metadata' = { metadata with frameSize := some (UInt32.ofNat (declaredSize received)) }
  decodeFrameEnd : ∀ s data, t.decodeFrameEnd s data = .ok (some ((), s, data))

theorem Transport.Framed.progress (h : t.Framed) : t.Progress where
  decodeFrameStart metadata := by
    intro s b a s' b' hr
    obtain ⟨-, rfl, -⟩ := h.decodeFrameStart hr
    rw [List.length_drop]
    exact Nat.sub_le _ _
  decodeFrameEnd := by
    intro s b a s' b' hr
    rw [h.decodeFrameEnd] at hr
    cases hr
    exact Nat.le_refl _

namespace ThriftCodec

/-- A codec that started a frame in `s₀` and has received these bytes since then, in any chunks, is
in `s` with a buffer. -/
inductive ReadingFrame (t : Transport τ) (p : Protocol π) (s₀ : State τ π) :
    Bytes → State τ π → Bytes → Prop
  | start (data : Bytes) : ReadingFrame t p s₀ data s₀ data
  | chunk {received s buffer s' buffer'} (h : ReadingFrame t p s₀ received s buffer)
      (hwait : decode t p s buffer = ⟨s', buffer', .waitForData⟩) (data : Bytes) :
      ReadingFrame t p s₀ (received ++ data) s' (buffer' ++ data)

/-- The chunks do not matter. -/
theorem ReadingFrame.decode_eq (ht : t.Local) (htp : t.Progress) (hl : p.Local) (hp : p.Progress)
    {s₀ s : State τ π} {received buffer : Bytes} (hs : Sound p s₀)
    (h : ReadingFrame t p s₀ received s buffer) :
    Sound p s ∧ ∀ x, decode t p s (buffer ++ x) = decode t p s₀ (received ++ x) := by
  induction h with
  | start data => exact ⟨hs, fun x => rfl⟩
  | @chunk received s buffer s' buffer' _ hwait data ih =>
    obtain ⟨hsound, hmore⟩ := ih
    have ho := decode_outcome ht htp hl hp hsound buffer
    rw [hwait] at ho
    cases ho with
    | wait hs' hmore' =>
      refine ⟨hs', fun x => ?_⟩
      rw [List.append_assoc, List.append_assoc, ← hmore, hmore']

/-- A frame starts with the bytes received, and a message behind its size, which a tape comes to
the end of. -/
def Holds (t : Transport τ) (p : Protocol π) (transport : τ) (protocol : π) (received : Bytes)
    (transport' : τ) (metadata : MessageMetadata) (tape : Tape π) : Prop :=
  ∃ metadata₀ data,
    t.decodeFrameStart {} transport received = .ok (some (metadata₀, transport', data)) ∧
      ParsesMessage p metadata₀ metadata ⟨protocol, data, []⟩ tape

section Holds

variable {transport transport' : τ} {protocol : π} {received : Bytes} {metadata : MessageMetadata}
  {tape : Tape π}

/-- In a frame the machine runs on what is behind the size. -/
theorem decode_of_framed (hf : t.Framed) {metadata₀ : MessageMetadata} {data : Bytes}
    (h : t.decodeFrameStart {} transport received = .ok (some (metadata₀, transport', data))) :
    decode t p { transport, protocol } received =
      runMachine t p
        { transport := transport', protocol, metadata := some metadata₀, frameStarted := true,
          stateMachine := some { proto := protocol, metadata := metadata₀ } } data
        { proto := protocol, metadata := metadata₀ } := by
  obtain ⟨-, -, hmetadata⟩ := hf.decodeFrameStart h
  refine decode_start rfl rfl h ?_ ?_
  · rw [forceProtocol, hmetadata]
  · rw [hmetadata]

/-- At the end of a message the codec ends the frame, wherever the size says that it ends. -/
theorem decode_of_holds (hf : t.Framed) (hp : p.Progress)
    (h : Holds t p transport protocol received transport' metadata tape) :
    ∃ s machine, decode t p { transport, protocol } received = endFrame t s tape.buffer machine ∧
      machine.metadata = metadata ∧ machine.originMessage = tape.written ∧
      { s with metadata := none }.complete =
        ({ transport := transport', protocol := tape.protocol } : State τ π) ∧
      s.transport = transport' := by
  obtain ⟨metadata₀, data, hstart, hmessage⟩ := h
  have hrun := (DecoderStateMachine.run_message_iff hp).mpr ⟨metadata, tape, hmessage, rfl, rfl⟩
  exact ⟨_, _, (decode_of_framed hf hstart).trans (runMachine_done hrun), rfl, rfl, rfl, rfl⟩

theorem decode_of_toMetadata (hf : t.Framed) (hp : p.Progress)
    (h : Holds t p transport protocol received transport' metadata tape) {generic : Metadata}
    (hgeneric : toMetadataWithMessage t transport' metadata tape.written = .ok generic) :
    decode t p { transport, protocol } received =
      ⟨{ transport := transport', protocol := tape.protocol }, tape.buffer, .done generic⟩ := by
  obtain ⟨s, machine, hdecode, rfl, hwritten, hcomplete, rfl⟩ := decode_of_holds hf hp h
  rw [← hwritten] at hgeneric
  rw [hdecode, endFrame_done (hf.decodeFrameEnd _ _) hgeneric, hcomplete]

theorem throw_of_toMetadata (hf : t.Framed) (hp : p.Progress)
    (h : Holds t p transport protocol received transport' metadata tape) {fault : Fault}
    (hfault : toMetadataWithMessage t transport' metadata tape.written = .error fault) :
    (decode t p { transport, protocol } received).status = .throw fault := by
  obtain ⟨s, machine, hdecode, rfl, hwritten, -, rfl⟩ := decode_of_holds hf hp h
  rw [← hwritten] at hfault
  rw [hdecode, endFrame, hf.decodeFrameEnd]
  dsimp only
  rw [hfault]

/-- A codec that finds a message and is done has read it, and nothing behind it. -/
theorem done_of_holds (hf : t.Framed) (hp : p.Progress)
    (h : Holds t p transport protocol received transport' metadata tape) {s' : State τ π}
    {rest : Bytes} {generic : Metadata}
    (hdecode : decode t p { transport, protocol } received = ⟨s', rest, .done generic⟩) :
    toMetadataWithMessage t transport' metadata tape.written = .ok generic ∧
      rest = tape.buffer := by
  rcases hgeneric : toMetadataWithMessage t transport' metadata tape.written with fault | generic'
  · have hthrow := throw_of_toMetadata hf hp h hgeneric
    rw [hdecode] at hthrow
    cases hthrow
  · rw [decode_of_toMetadata hf hp h hgeneric] at hdecode
    cases hdecode
    exact ⟨rfl, rfl⟩

/-- The codec is done with a frame only behind a message that it has found there. -/
theorem holds_of_decode (hf : t.Framed) (hp : p.Progress) {s' : State τ π} {rest : Bytes}
    {generic : Metadata}
    (h : decode t p { transport, protocol } received = ⟨s', rest, .done generic⟩) :
    ∃ transport' metadata tape, Holds t p transport protocol received transport' metadata tape ∧
      toMetadataWithMessage t transport' metadata tape.written = .ok generic ∧
      rest = tape.buffer := by
  rcases hstart : t.decodeFrameStart {} transport received
    with what | _ | ⟨metadata₀, transport', data⟩
  · rw [decode_idle _ rfl rfl, startFrame] at h
    dsimp only [Option.getD_none] at h
    rw [hstart] at h
    cases h
  · rw [decode_idle _ rfl rfl, startFrame] at h
    dsimp only [Option.getD_none] at h
    rw [hstart] at h
    cases h
  rcases hrun : DecoderStateMachine.run p { proto := protocol, metadata := metadata₀ } data
    with ⟨machine, buffer, result⟩
  by_cases hdone : result = .ok .done
  · subst hdone
    obtain ⟨metadata, tape, hmessage, -, -⟩ := (DecoderStateMachine.run_message_iff hp).mp hrun
    have hholds : Holds t p transport protocol received transport' metadata tape :=
      ⟨metadata₀, data, hstart, hmessage⟩
    exact ⟨transport', metadata, tape, hholds, done_of_holds hf hp hholds h⟩
  · rw [decode_of_framed hf hstart, runMachine, hrun] at h
    rcases result with fault | next
    · cases h
    · have hne : next ≠ .done := fun hnext => hdone (by rw [hnext])
      dsimp only at h
      rw [if_pos hne] at h
      split at h <;> cases h

end Holds

/-! ## Where a frame ends -/

/-- What is left behind a frame is what comes after the size and as many bytes as it says. -/
def EndsWithFrame (received rest : Bytes) : Prop :=
  4 + declaredSize received ≤ received.length ∧ rest = received.drop (4 + declaredSize received)

/-- The codec is done with a frame at its end only, and rejects a frame with a message that ends
elsewhere. -/
structure Respects (t : Transport τ) (p : Protocol π) (transport : τ) (protocol : π)
    (received : Bytes) : Prop where
  done : ∀ {s buffer s' rest generic},
    ReadingFrame t p { transport, protocol } received s buffer →
      decode t p s buffer = ⟨s', rest, .done generic⟩ → EndsWithFrame received rest
  rejected : ∀ {s buffer transport' metadata tape},
    ReadingFrame t p { transport, protocol } received s buffer →
      Holds t p transport protocol received transport' metadata tape →
        ¬EndsWithFrame received tape.buffer →
          ∃ what, (decode t p s buffer).status = .throw (.exception what)

/-- A message that is found in the frame, and can be framed again, ends where the size says. -/
def Fits (t : Transport τ) (p : Protocol π) (transport : τ) (protocol : π) (received : Bytes) :
    Prop :=
  ∀ {transport' metadata tape bytes},
    Holds t p transport protocol received transport' metadata tape →
      t.encodeFrame transport' metadata tape.written = .ok bytes →
        EndsWithFrame received tape.buffer

section Respects

variable {transport transport' : τ} {protocol : π} {received : Bytes} {metadata : MessageMetadata}
  {tape : Tape π}

/-- The metadata of a message that is found can be converted. -/
theorem toMetadata_of_holds (hy : p.Typed)
    (h : Holds t p transport protocol received transport' metadata tape) :
    ∃ generic, toMetadata metadata = .ok generic := by
  obtain ⟨_, _, _, _, _, hbegin, _, _⟩ := h
  exact toMetadata_of_typed (hy hbegin.read)

/-- What the codec makes of a message is decided by the frame around it. -/
theorem toMetadataWithMessage_of_holds (hy : p.Typed)
    (h : Holds t p transport protocol received transport' metadata tape) :
    (∃ bytes generic, t.encodeFrame transport' metadata tape.written = .ok bytes ∧
      toMetadataWithMessage t transport' metadata tape.written = .ok generic) ∨
    ∃ what, t.encodeFrame transport' metadata tape.written = .error what ∧
      toMetadataWithMessage t transport' metadata tape.written = .error (.exception what) := by
  obtain ⟨generic, hgeneric⟩ := toMetadata_of_holds hy h
  unfold toMetadataWithMessage
  rw [hgeneric]
  dsimp only
  rcases t.encodeFrame transport' metadata tape.written with what | bytes
  · exact Or.inr ⟨what, rfl, rfl⟩
  · exact Or.inl ⟨bytes, _, rfl, rfl⟩

/-- The boundary of a frame is respected exactly if the message in it fits the size. -/
theorem respects_iff (hf : t.Framed) (ht : t.Local) (hl : p.Local) (hp : p.Progress)
    (hy : p.Typed) (transport : τ) (protocol : π) (received : Bytes) :
    Respects t p transport protocol received ↔ Fits t p transport protocol received := by
  have hwhole : ∀ {s buffer}, ReadingFrame t p { transport, protocol } received s buffer →
      decode t p s buffer = decode t p { transport, protocol } received := by
    intro s buffer h
    have heq := (h.decode_eq ht hf.progress hl hp (sound_idle rfl rfl)).2 []
    rwa [List.append_nil, List.append_nil] at heq
  constructor
  · intro hrespects transport' metadata tape bytes hholds hframe
    rcases toMetadataWithMessage_of_holds hy hholds
      with ⟨_, generic, -, hgeneric⟩ | ⟨what, herror, -⟩
    · exact hrespects.done (.start received) (decode_of_toMetadata hf hp hholds hgeneric)
    · rw [hframe] at herror
      cases herror
  · intro hfits
    refine ⟨fun hreading hdecode => ?_, fun hreading hholds hends => ?_⟩
    · rw [hwhole hreading] at hdecode
      obtain ⟨transport', metadata, tape, hholds, hgeneric, rfl⟩ := holds_of_decode hf hp hdecode
      rcases toMetadataWithMessage_of_holds hy hholds
        with ⟨bytes, _, hframe, -⟩ | ⟨what, -, herror⟩
      · exact hfits hholds hframe
      · rw [hgeneric] at herror
        cases herror
    · rw [hwhole hreading]
      rcases toMetadataWithMessage_of_holds hy hholds
        with ⟨bytes, _, hframe, -⟩ | ⟨what, -, herror⟩
      · exact absurd (hfits hholds hframe) hends
      · exact ⟨what, throw_of_toMetadata hf hp hholds herror⟩

end Respects

end ThriftCodec

theorem FramedTransport.framed_transport : transport.Framed where
  decodeFrameStart {metadata s received metadata' s' data} h := by
    change Reader.fixed 4 (parseFrameStart metadata) s received = _ at h
    obtain ⟨m, hm, hle, hdata, hparse⟩ := Reader.of_sized h
    cases hm
    refine ⟨hle, hdata, ?_⟩
    unfold parseFrameStart at hparse
    split at hparse
    · cases hparse
    · cases hparse
      rfl
  decodeFrameEnd _ _ := rfl

namespace ThriftExample

open FramedTransport

/-- The message behind any size. -/
theorem decode_sized {n : ℕ} (hpos : n ≠ 0) (hmax : n ≤ maxFrameSize) (rest : Bytes) :
    ∃ generic,
      ThriftCodec.decode transport BinaryProtocol.protocol { transport := (), protocol := () }
          (BigEndian.toBytes 4 n ++ (bytes ++ rest)) =
        ⟨{ transport := (), protocol := () }, rest, .done generic⟩ := by
  have hbytes : bytes ≠ [] := by decide +kernel
  have hlength : bytes.length ≤ maxFrameSize := by decide +kernel
  have hstart := decodeFrameStart_toBytes hpos hmax {} () (bytes ++ rest)
  have hframe := encodeFrame_eq hbytes hlength ()
    (message.metadata { frameSize := some (UInt32.ofNat n) })
  have hdecode := fun codec : ThriftCodec.State Unit Unit =>
    @ThriftCodec.decode_message _ _ _ _ BinaryProtocol.progress_protocol
      BinaryProtocol.roundTrip_protocol _ wellFormed_message _ transport codec
  obtain ⟨generic, hdone, -⟩ :=
    hdecode { transport := (), protocol := () } rfl rfl hstart rfl rfl rfl hframe
  exact ⟨generic, hdone⟩

end ThriftExample

open ThriftExample FramedTransport BinaryProtocol in
theorem ThriftCodec.respects_iff_frame :
    ThriftCodec.Respects transport protocol () () (frame bytes ++ [1]) :=
  (respects_iff framed_transport local_transport local_protocol progress_protocol typed_protocol
    () () (frame bytes ++ [1])).mpr fun hholds _ => by
      have hlength : bytes.length ≤ maxFrameSize := by decide +kernel
      obtain ⟨generic, hdecode⟩ := decode_sized (n := bytes.length) (by decide +kernel) hlength [1]
      rw [frame, List.append_assoc] at hholds
      obtain ⟨-, hrest⟩ := done_of_holds framed_transport progress_protocol hholds hdecode
      rw [← hrest]
      unfold EndsWithFrame
      decide +kernel

open ThriftExample FramedTransport BinaryProtocol in
/-- A message that is longer than its frame runs out of it, and one that is shorter leaves its tail
to the next frame. -/
theorem ThriftCodec.not_respects_sized :
    ¬Respects transport protocol () () (BigEndian.toBytes 4 1 ++ (bytes ++ [])) ∧
      ¬Respects transport protocol () ()
        (BigEndian.toBytes 4 (bytes.length + 1) ++ (bytes ++ [0])) := by
  constructor
  · intro h
    obtain ⟨generic, hdecode⟩ := decode_sized (n := 1) (by decide) (by decide) []
    have hends := h.done (.start _) hdecode
    revert hends
    unfold EndsWithFrame
    decide +kernel
  · intro h
    obtain ⟨generic, hdecode⟩ :=
      decode_sized (n := bytes.length + 1) (by decide) (by decide +kernel) [0]
    have hends := h.done (.start _) hdecode
    revert hends
    unfold EndsWithFrame
    decide +kernel

end MetaProtocolProxy.Thrift

import MetaProtocolProxy.Chunking
import MetaProtocolProxy.ThriftCodec
import MetaProtocolProxy.ThriftStack

/-!
# Chunks of a Thrift stream

The state machine of the Thrift codec may wait in any state, inside any nesting of values. Where
it waits it has read and written nothing since its last step, so it goes on with more bytes as it
would have gone on with all of them at once (`run_outcome`), and so does the codec around it
(`decode_outcome`).

An exception closes the connection, so a codec that has thrown is not called again. Up to there a
connection delivers the messages of the bytes it has received, and fails where they fail, however
they were cut and whatever happened between the chunks (`decoded_run_eq`).
-/

namespace MetaProtocolProxy.Thrift

variable {τ π : Type} {p : Protocol π} {t : Transport τ}

/-! ## The machine -/

namespace DecoderStateMachine

variable {machine : DecoderStateMachine π} {buffer : Bytes}

/-- The stack of the machine belongs to its state, and behind the begin of the message there is a
message type. -/
structure Sound (p : Protocol π) (machine : DecoderStateMachine π) : Prop where
  stack : Disciplined machine.state machine.stack
  typed : p.Typed → machine.state ≠ .messageBegin → machine.metadata.messageType ≠ none

theorem sound_new (proto : π) (metadata : MessageMetadata) : Sound p { proto, metadata } :=
  ⟨by simp [Disciplined], fun _ h => absurd rfl h⟩

/-- The begin of a message leaves a message type behind. -/
theorem typed_messageBegin (hp : p.Typed) {machine' : DecoderStateMachine π} {buffer' : Bytes}
    {next : ProtocolState}
    (h : machine.messageBegin p buffer = (machine', buffer', .ok next))
    (hne : next ≠ .waitForData) :
    machine'.metadata.messageType ≠ none := by
  rw [messageBegin_eq] at h
  rcases hr : p.readMessageBegin machine.metadata machine.proto buffer
    with what | _ | ⟨metadata, proto, rest⟩
  · rw [hr] at h
    cases h
  · rw [hr] at h
    cases h
    exact absurd rfl hne
  · rw [hr] at h
    cases h
    exact hp hr

/-- A step keeps the machine sound. -/
theorem Sound.step (h : Sound p machine) {machine' : DecoderStateMachine π} {buffer' : Bytes}
    {next : ProtocolState}
    (hstep : machine.handleState p buffer = (machine', buffer', .ok next))
    (hne : next ≠ .waitForData) (hnext : Disciplined next machine'.stack)
    (hmetadata : machine.state ≠ .messageBegin → machine'.metadata = machine.metadata) :
    Sound p { machine' with state := next } := by
  refine ⟨hnext, fun hp _ => ?_⟩
  by_cases hbegin : machine.state = .messageBegin
  · rw [handleState, hbegin] at hstep
    have htyped := typed_messageBegin hp hstep hne
    exact htyped
  · have htyped := h.typed hp hbegin
    rwa [← hmetadata hbegin] at htyped

/-- What a run can end with, and what it ends with when there are more bytes behind the
buffer. -/
inductive RunOutcome (p : Protocol π) (machine : DecoderStateMachine π) (buffer : Bytes) :
    Outcome π → Prop
  | wait {machine' buffer'} (hs : Sound p machine')
      (hmore : ∀ x, machine.run p (buffer ++ x) = machine'.run p (buffer' ++ x)) :
      RunOutcome p machine buffer (machine', buffer', .ok .waitForData)
  | done {machine' buffer'} (hs : Sound p machine') (hdone : machine'.state = .done)
      (hle : buffer'.length ≤ buffer.length)
      (hlt : machine.state = .messageBegin → buffer'.length < buffer.length)
      (hmore : ∀ x, machine.run p (buffer ++ x) = (machine', buffer' ++ x, .ok .done)) :
      RunOutcome p machine buffer (machine', buffer', .ok .done)
  | throw {machine' buffer' what} (hs : Sound p machine')
      (hmore : ∀ x,
        machine.run p (buffer ++ x) = (machine', buffer' ++ x, .error (.exception what))) :
      RunOutcome p machine buffer (machine', buffer', .error (.exception what))

theorem run_outcome (hl : p.Local) (hp : p.Progress) :
    ∀ (n : ℕ) (machine : DecoderStateMachine π) (buffer : Bytes), machine.measure buffer = n →
      Sound p machine → RunOutcome p machine buffer (machine.run p buffer) := by
  intro n
  induction n using Nat.strongRecOn with
  | ind n ih =>
    intro machine buffer hn hs
    by_cases hdone : machine.state = .done
    · have hrun : ∀ buffer, machine.run p buffer = (machine, buffer, .ok .done) := fun buffer => by
        rw [run_eq hp hs.stack, if_pos hdone]
      rw [hrun]
      exact .done hs hdone (Nat.le_refl _) (fun h => by rw [hdone] at h; cases h)
        fun x => hrun (buffer ++ x)
    have hhandled := handled_handleState p machine buffer
    rcases hstep : machine.handleState p buffer with ⟨machine', buffer', result⟩
    have hrun := run_eq hp hs.stack buffer
    rw [if_neg hdone, hstep] at hrun
    rw [hstep] at hhandled
    cases hhandled with
    | wait =>
      rw [hrun]
      exact .wait hs fun x => rfl
    | throw hmore =>
      rw [hrun]
      refine .throw hs fun x => ?_
      rw [run_eq hp hs.stack, if_neg hdone, hmore hl x]
    | stuck hstuck => exact absurd hstuck (hs.stack.not_stuck hdone)
    | @step _ _ next reads hcontrol hmetadata hlength hmore =>
      have hnext := hcontrol.disciplined hs.stack
      have hne := hnext.ne.2.1
      dsimp only at hrun
      rw [if_neg hne] at hrun
      rw [hrun]
      have hle := hlength hp
      have hlt : machine.state = .messageBegin → buffer'.length < buffer.length := by
        intro hbegin
        rw [hbegin] at hcontrol
        rw [hcontrol.reads_of_messageBegin] at hle
        exact hle
      have hmore' : ∀ x, machine.run p (buffer ++ x) =
          run p { machine' with state := next } (buffer' ++ x) := by
        intro x
        rw [run_eq hp hs.stack, if_neg hdone, hmore hl x]
        exact if_neg hne
      have hnext' := ih _ (hn ▸ (measure_handleState hp hs.stack hstep hne).1)
        { machine' with state := next }
        buffer' rfl (hs.step hstep hne hnext hmetadata)
      generalize run p { machine' with state := next } buffer' = outcome at hnext' ⊢
      cases hnext' with
      | wait hs' hmore'' => exact .wait hs' fun x => (hmore' x).trans (hmore'' x)
      | done hs' hdone' hle' hlt' hmore'' =>
        exact .done hs' hdone' (Nat.le_trans hle' (Nat.le_trans (Nat.le_add_right _ _) hle))
          (fun h => Nat.lt_of_le_of_lt hle' (hlt h)) fun x => (hmore' x).trans (hmore'' x)
      | throw hs' hmore'' => exact .throw hs' fun x => (hmore' x).trans (hmore'' x)

end DecoderStateMachine

/-! ## The codec -/

namespace ThriftCodec

/-- Between two calls the codec looks for a frame, or a sound machine waits in one. -/
structure Sound (p : Protocol π) (s : State τ π) : Prop where
  ended : s.frameEnded = false
  machine : s.frameStarted = true → ∃ machine, s.stateMachine = some machine ∧ machine.Sound p

/-- What a call of `decode` can end with, and what `whole`, the call on any bytes, ends with when
there are more bytes behind the buffer. -/
inductive Outcome (t : Transport τ) (p : Protocol π) (whole : Bytes → Decoding (State τ π))
    (buffer : Bytes) (fresh : Prop) : Decoding (State τ π) → Prop
  | wait {s' buffer'} (hs : Sound p s')
      (hmore : ∀ x, whole (buffer ++ x) = decode t p s' (buffer' ++ x)) :
      Outcome t p whole buffer fresh ⟨s', buffer', .waitForData⟩
  | done {s' buffer' metadata} (hs : Sound p s') (hstarted : s'.frameStarted = false)
      (hreply : Replyable metadata) (hle : buffer'.length ≤ buffer.length)
      (hlt : fresh → buffer'.length < buffer.length)
      (hmore : ∀ x, whole (buffer ++ x) = ⟨s', buffer' ++ x, .done metadata⟩) :
      Outcome t p whole buffer fresh ⟨s', buffer', .done metadata⟩
  | throw {s' buffer' fault} (hs : Sound p s') (hfault : p.Typed → ∃ what, fault = .exception what)
      (hmore : ∀ x, whole (buffer ++ x) = ⟨s', buffer' ++ x, .throw fault⟩) :
      Outcome t p whole buffer fresh ⟨s', buffer', .throw fault⟩

section Outcome

variable {s : State τ π} {machine : DecoderStateMachine π} {buffer : Bytes}

theorem decode_running (s : State τ π) (hended : s.frameEnded = false)
    (hstarted : s.frameStarted = true)
    (hmachine : s.stateMachine = some machine) (buffer : Bytes) :
    decode t p s buffer = runMachine t p s buffer machine := by
  simp [decode, hended, hstarted, hmachine]

theorem decode_idle (s : State τ π) (hended : s.frameEnded = false)
    (hstarted : s.frameStarted = false)
    (buffer : Bytes) : decode t p s buffer = startFrame t p s buffer := by
  simp [decode, hended, hstarted]

/-- The end of a frame. -/
theorem endFrame_outcome (ht : t.Local) (htp : t.Progress) (hp : p.Progress)
    (hended : s.frameEnded = false) (hstarted : s.frameStarted = true) (hs : machine.Sound p)
    (hdone : machine.state = .done) {whole : Bytes → Decoding (State τ π)} {fresh : Prop}
    {buffer' : Bytes} (hle : buffer'.length ≤ buffer.length)
    (hlt : fresh → buffer'.length < buffer.length)
    (hwhole : ∀ x, whole (buffer ++ x) = endFrame t (s.ran machine) (buffer' ++ x) machine) :
    Outcome t p whole buffer fresh (endFrame t (s.ran machine) buffer' machine) := by
  have hran : Sound p (s.ran machine) := ⟨hended, fun _ => ⟨machine, rfl, hs⟩⟩
  unfold endFrame at hwhole ⊢
  rcases hend : t.decodeFrameEnd (s.ran machine).transport buffer'
    with what | _ | ⟨⟨⟩, transport, rest⟩
  · refine .throw hran (fun _ => ⟨_, rfl⟩) fun x => ?_
    rw [hwhole, ht.decodeFrameEnd.error hend x]
  · refine .wait hran fun x => ?_
    have hdecode : decode t p (s.ran machine) (buffer' ++ x) =
        endFrame t (s.ran machine) (buffer' ++ x) machine := by
      rw [decode_running (s.ran machine) hended hstarted rfl, runMachine,
        DecoderStateMachine.run_eq hp hs.stack,
        if_pos hdone]
      rfl
    rw [hwhole, hdecode, endFrame]
  · have hmore := ht.decodeFrameEnd.ok hend
    have hrest := htp.decodeFrameEnd hend
    dsimp only
    unfold toMetadataWithMessage at hwhole ⊢
    rcases htyped : toMetadata machine.metadata with fault | metadata
    · refine .throw ⟨hended, fun _ => ⟨machine, rfl, hs⟩⟩ (fun hp => ?_) fun x => ?_
      · obtain ⟨metadata, hmetadata⟩ :=
          toMetadata_of_typed (hs.typed hp (by rw [hdone]; simp))
        rw [hmetadata] at htyped
        cases htyped
      · rw [hwhole, hmore]
        dsimp only
        rw [htyped]
    · dsimp only
      rcases hframe : t.encodeFrame transport machine.metadata machine.originMessage
        with what | originMessage
      · refine .throw ⟨hended, fun _ => ⟨machine, rfl, hs⟩⟩ (fun _ => ⟨_, rfl⟩) fun x => ?_
        rw [hwhole, hmore]
        dsimp only
        rw [htyped]
        dsimp only
        rw [hframe]
      · refine .done ⟨rfl, by rintro ⟨⟩⟩ rfl (@replyable_toMetadata machine.metadata metadata
          htyped)
          (Nat.le_trans hrest hle) (fun h => Nat.lt_of_le_of_lt hrest (hlt h)) fun x => ?_
        rw [hwhole, hmore]
        dsimp only
        rw [htyped]
        dsimp only
        rw [hframe]

/-- The machine inside a frame. -/
theorem runMachine_outcome (s : State τ π) (ht : t.Local) (htp : t.Progress) (hl : p.Local)
    (hp : p.Progress) (hended : s.frameEnded = false) (hstarted : s.frameStarted = true)
    (hs : machine.Sound p) {whole : Bytes → Decoding (State τ π)} {fresh : Prop}
    (hfresh : fresh → machine.state = .messageBegin) {buffer' : Bytes}
    (hle : buffer'.length ≤ buffer.length)
    (hwhole : ∀ x, whole (buffer ++ x) = runMachine t p s (buffer' ++ x) machine) :
    Outcome t p whole buffer fresh (runMachine t p s buffer' machine) := by
  have hrun := DecoderStateMachine.run_outcome hl hp _ machine buffer' rfl hs
  unfold runMachine at hwhole ⊢
  generalize machine.run p buffer' = outcome at hrun ⊢
  cases hrun with
  | @wait machine' _ hs' hmore =>
    refine .wait ⟨hended, fun _ => ⟨_, rfl, hs'⟩⟩ fun x => ?_
    rw [hwhole, hmore]
    exact Eq.symm (decode_running (s.ran machine') hended hstarted rfl _)
  | throw hs' hmore =>
    refine .throw ⟨hended, fun _ => ⟨_, rfl, hs'⟩⟩ (fun _ => ⟨_, rfl⟩) fun x => ?_
    rw [hwhole, hmore]
  | done hs' hdone hle' hlt' hmore =>
    refine endFrame_outcome ht htp hp hended hstarted hs' hdone (Nat.le_trans hle' hle)
      (fun h => Nat.lt_of_lt_of_le (hlt' (hfresh h)) hle) fun x => ?_
    rw [hwhole, hmore]
    rfl

theorem sound_idle (hended : s.frameEnded = false) (hstarted : s.frameStarted = false) :
    Sound p s :=
  ⟨hended, fun h => by rw [hstarted] at h; cases h⟩

/-- A frame that has started. -/
theorem enterFrame_outcome (s : State τ π) (ht : t.Local) (htp : t.Progress) (hl : p.Local)
    (hp : p.Progress) (hended : s.frameEnded = false) (hstarted : s.frameStarted = false)
    {metadata : MessageMetadata} {whole : Bytes → Decoding (State τ π)} {buffer' : Bytes}
    (hle : buffer'.length ≤ buffer.length)
    (hwhole : ∀ x, whole (buffer ++ x) = enterFrame t p s (buffer' ++ x) metadata) :
    Outcome t p whole buffer True (enterFrame t p s buffer' metadata) := by
  unfold enterFrame at hwhole ⊢
  rcases hforce : forceProtocol p metadata s.protocol with what | protocol
  · rw [hforce] at hwhole
    exact .throw (sound_idle hended hstarted) (fun _ => ⟨_, rfl⟩) hwhole
  · rw [hforce] at hwhole
    dsimp only at hwhole ⊢
    rcases happ : metadata.appException with _ | ⟨type, message⟩
    · rw [happ] at hwhole
      exact runMachine_outcome { s with protocol, frameStarted := true, stateMachine := _ } ht htp
        hl hp
        hended rfl (DecoderStateMachine.sound_new _ _) (fun _ => rfl) hle hwhole
    · rw [happ] at hwhole
      exact .throw (sound_idle hended hstarted) (fun _ => ⟨_, rfl⟩) hwhole

/-- The start of a frame. -/
theorem startFrame_outcome (ht : t.Local) (htp : t.Progress) (hl : p.Local) (hp : p.Progress)
    (hended : s.frameEnded = false) (hstarted : s.frameStarted = false) (buffer : Bytes) :
    Outcome t p (startFrame t p s) buffer True (startFrame t p s buffer) := by
  rcases hstart : t.decodeFrameStart (s.metadata.getD {}) s.transport buffer
    with what | _ | ⟨metadata, transport, rest⟩
  · have hthrow : ∀ {b}, t.decodeFrameStart (s.metadata.getD {}) s.transport b = .error what →
        startFrame t p s b =
          ⟨{ s with metadata := some (s.metadata.getD {}) }, b, .throw (.exception what)⟩ := by
      intro b h
      rw [startFrame, h]
    rw [hthrow hstart]
    exact .throw (sound_idle hended hstarted) (fun _ => ⟨_, rfl⟩) fun x =>
      hthrow ((ht.decodeFrameStart _).error hstart x)
  · have hwait : startFrame t p s buffer =
        ⟨{ s with metadata := some (s.metadata.getD {}) }, buffer, .waitForData⟩ := by
      rw [startFrame, hstart]
    rw [hwait]
    refine .wait (sound_idle hended hstarted) fun x => ?_
    exact (decode_idle { s with metadata := some (s.metadata.getD {}) } hended hstarted _).symm
  · have henter : ∀ {b rest}, t.decodeFrameStart (s.metadata.getD {}) s.transport b =
          .ok (some (metadata, transport, rest)) →
        startFrame t p s b =
          enterFrame t p { s with transport, metadata := some metadata } rest metadata := by
      intro b rest h
      rw [startFrame, h]
    rw [henter hstart]
    exact enterFrame_outcome { s with transport, metadata := some metadata } ht htp hl hp hended
      hstarted ((htp.decodeFrameStart _) hstart)
      fun x => henter ((ht.decodeFrameStart _).ok hstart x)

/-- What a call of `decode` can end with. -/
theorem decode_outcome (ht : t.Local) (htp : t.Progress) (hl : p.Local) (hp : p.Progress)
    (hs : Sound p s) (buffer : Bytes) :
    Outcome t p (decode t p s) buffer (s.frameStarted = false) (decode t p s buffer) := by
  cases hstarted : s.frameStarted with
  | false =>
    have hdecode : decode t p s = startFrame t p s :=
      funext (decode_idle s hs.ended hstarted)
    rw [hdecode]
    simpa using startFrame_outcome ht htp hl hp hs.ended hstarted buffer
  | true =>
    obtain ⟨machine, hmachine, hsound⟩ := hs.machine hstarted
    have hdecode : decode t p s = fun buffer => runMachine t p s buffer machine :=
      funext (decode_running s hs.ended hstarted hmachine)
    rw [hdecode]
    exact runMachine_outcome s ht htp hl hp hs.ended hstarted hsound (by rintro ⟨⟩)
      (Nat.le_refl _) fun _ => rfl

end Outcome

/-! ## The connection -/

section Connection

variable (ht : t.Local) (htp : t.Progress) (hl : p.Local) (hp : p.Progress) (transport : τ)
  (protocol : π)
include ht htp hl hp

/-- The place where a Thrift stream is cut is invisible to the codec, until it throws. -/
theorem cuttable_round : Resumable.Cuttable (codec t p transport protocol).round (Sound p)
    (fun s => s.frameStarted = false) where
  wait := by
    intro s b s' b' hs hr
    have ho := decode_outcome ht htp hl hp hs b
    simp only [Codec.round, codec] at hr ⊢
    generalize decode t p s b = d at ho hr
    cases ho with
    | wait hs' hmore =>
      cases hr
      exact ⟨hs', fun x => by rw [hmore x]⟩
    | done | throw => cases hr
  emit := by
    intro s b o s' b' hs hr
    have ho := decode_outcome ht htp hl hp hs b
    simp only [Codec.round, codec] at hr ⊢
    generalize decode t p s b = d at ho hr
    cases ho with
    | done hs' hstarted _ hle hlt hmore =>
      cases hr
      exact ⟨hs', hstarted, hle, hlt, fun x => by rw [hmore x]; rfl⟩
    | wait | throw => cases hr
  fail := by
    intro s b s' b' hs hr x
    have ho := decode_outcome ht htp hl hp hs b
    simp only [Codec.round, codec] at hr ⊢
    generalize decode t p s b = d at ho hr
    cases ho with
    | throw _ _ hmore =>
      cases hr
      exact ⟨_, by rw [hmore x]; rfl⟩
    | wait | done => cases hr

theorem flows_codec (hy : p.Typed) : (codec t p transport protocol).Flows (Sound p) Replyable where
  init := sound_idle rfl rfl
  decode hs buffer := by
    have ho := decode_outcome ht htp hl hp hs buffer
    change Sound p (decode t p _ buffer).codec
    generalize decode t p _ buffer = d at ho ⊢
    cases ho with
    | wait hs' | done hs' | throw hs' => exact hs'
  done {s buffer metadata} hs hd := by
    have ho := decode_outcome ht htp hl hp hs buffer
    change (decode t p s buffer).status = _ at hd
    generalize decode t p s buffer = d at ho hd
    cases ho with
    | done _ _ hreply =>
      cases hd
      exact hreply
    | wait | throw => cases hd
  originMessage hm _ := hm
  throw {s buffer fault} hs hd := by
    have ho := decode_outcome ht htp hl hp hs buffer
    change (decode t p s buffer).status = _ at hd
    generalize decode t p s buffer = d at ho hd
    cases ho with
    | throw _ hfault =>
      cases hd
      exact hfault hy
    | wait | done => cases hd
  heartbeat _ _ := ⟨[], rfl⟩

end Connection

end ThriftCodec

open ConnectionManager (Event system new At fed_run fed_new)

/-- What a connection delivers before an exception closes it, and where in its stream that is,
depends on the bytes the client has sent, of which it has left `rest` unread then, and not on the
chunks they came in nor on what happened between them. -/
theorem decoded_run_eq (ht : t.Local) (htp : t.Progress) (hl : p.Local) (hp : p.Progress)
    (hy : p.Typed) {transport : τ} {protocol : π} {cfg : Config (ThriftCodec.State τ π)}
    (hc : cfg.codec = ThriftCodec.codec t p transport protocol) (es : List Event)
    (hopen : ∀ es₁ e es₂, es = es₁ ++ e :: es₂ →
      ((system cfg).run (new cfg) es₁).decodingFailed = false)
    (rest : Bytes) (hrest : ((system cfg).run (new cfg) es).decodingFailed = false → rest = []) :
    ((system cfg).run (new cfg) es).delivered =
        ((system cfg).run (new cfg)
          [.downstreamData (es.flatMap Event.received ++ rest) false]).delivered ∧
      ((system cfg).run (new cfg) es).decodingFailed =
        ((system cfg).run (new cfg)
          [.downstreamData (es.flatMap Event.received ++ rest) false]).decodingFailed ∧
      (((system cfg).run (new cfg) es).decodingFailed = true →
        ((system cfg).run (new cfg) es).requestBuffer ++ rest =
          ((system cfg).run (new cfg)
            [.downstreamData (es.flatMap Event.received ++ rest) false]).requestBuffer) := by
  have hflows : cfg.codec.Flows (ThriftCodec.Sound p) ThriftCodec.Replyable :=
    hc ▸ ThriftCodec.flows_codec ht htp hl hp transport protocol hy
  have hrun : ∀ es' : List Event, (∀ es₁ e es₂, es' = es₁ ++ e :: es₂ →
        ((system cfg).run (new cfg) es₁).decodingFailed = false) →
      ∃ q, At ((system cfg).run (new cfg) es') q ∧
        Resumable.Fed cfg.codec.round False cfg.codec.init (es'.flatMap Event.received) q := by
    intro es' hopen'
    refine (fed_run hflows (fed_new hflows) es' fun es₁ e es₂ hes hfailed => ?_).progress
    rw [hopen' es₁ e es₂ hes] at hfailed
    cases hfailed
  obtain ⟨q, ha, hf⟩ := hrun es hopen
  obtain ⟨q', ha', hf'⟩ := hrun [.downstreamData (es.flatMap Event.received ++ rest) false] (by
    intro es₁ e es₂ hes
    cases es₁ with
    | nil => rfl
    | cons e₁ es₁ => simp at hes)
  rw [hc] at hf hf'
  have hsame := hf.unique_closed (ThriftCodec.cuttable_round ht htp hl hp transport protocol)
    (ThriftCodec.sound_idle rfl rfl) hf' (fun h => hrest (ha.failed.trans h)) (fun _ => rfl)
    (by simp [Event.received])
  obtain ⟨hemitted, hfailed, hbuffer⟩ := hsame
  refine ⟨by rw [ha.emitted, ha'.emitted, hemitted], by rw [ha.failed, ha'.failed, hfailed],
    fun h => ?_⟩
  rw [ha.buffer, ha'.buffer, hbuffer (ha.failed.symm.trans h), List.append_nil]

namespace ThriftExample

open FramedTransport (frame)

/-- A proxy for framed messages of the strict binary protocol, with no routes. -/
def config : Config (ThriftCodec.State Unit Unit) where
  codec := ThriftCodec.codec FramedTransport.transport BinaryProtocol.protocol () ()
  applicationProtocol := "thrift"
  decoderFilters := [.router]
  encoderFilters := [.router]
  route _ _ := none
  getThreadLocalCluster _ _ := none

/-- A call in two chunks, cut in its name, and behind it the size of a frame that is empty. -/
def chunks : List Event :=
  [.downstreamData ((frame (call 1)).take 13) false,
    .downstreamData ((frame (call 1)).drop 13 ++ [0, 0, 0, 0]) false]

end ThriftExample

open ThriftExample in
theorem decoded_run_eq_chunks :
    ((system config).run (new config) chunks).delivered =
        ((system config).run (new config)
          [.downstreamData (chunks.flatMap Event.received ++ [1]) false]).delivered ∧
      ((system config).run (new config) chunks).decodingFailed =
        ((system config).run (new config)
          [.downstreamData (chunks.flatMap Event.received ++ [1]) false]).decodingFailed ∧
      (((system config).run (new config) chunks).decodingFailed = true →
        ((system config).run (new config) chunks).requestBuffer ++ [1] =
          ((system config).run (new config)
            [.downstreamData (chunks.flatMap Event.received ++ [1]) false]).requestBuffer) :=
  decoded_run_eq FramedTransport.local_transport FramedTransport.progress_transport
    BinaryProtocol.local_protocol BinaryProtocol.progress_protocol BinaryProtocol.typed_protocol rfl
    chunks (by
      intro es₁ e es₂ hes
      rcases es₁ with _ | ⟨e₁, _ | ⟨e₂', es₁⟩⟩
      · rfl
      · obtain ⟨rfl, -⟩ := List.cons.inj hes
        decide +kernel
      · simp [chunks] at hes)
    [1] (by decide +kernel)

end MetaProtocolProxy.Thrift

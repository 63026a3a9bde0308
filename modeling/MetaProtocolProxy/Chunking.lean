import MetaProtocolProxy.DubboChunking
import MetaProtocolProxy.DubboProxy
import MetaProtocolProxy.Quiet

/-!
# Chunks of a client's stream

A connection reads requests through three machines, of which two keep a state between
chunks, and `dispatch` is called with every chunk and, with no new bytes, whenever a
message goes on. What it delivers is nevertheless a function of the bytes the client has
sent : a connection is the decoder without layers that is given the stream in chunks (`Fed`),
from every event to the next (`fed_step`), whatever the messages do meanwhile. So the
messages of a run, and where an exception ends them, are those of the stream in one
chunk (`delivered_run_eq`).
-/

namespace MetaProtocolProxy

variable {σ : Type}

/-- The callback for a decoded message. -/
def Delivery.of (metadata : Metadata) : Delivery :=
  if metadata.messageType = .heartbeat then .heartbeat metadata else .stream metadata

/-- The bytes an event brings from the client. -/
def ConnectionManager.Event.received : ConnectionManager.Event → Bytes
  | .downstreamData data _ => data
  | _ => []

namespace ConnectionManager

/-! ## What the messages leave alone -/

/-- From `cm` to `cm'` the position in the client's stream stays where it is. -/
structure Kept (cm cm' : ConnectionManager σ) : Prop where
  codec : cm'.downstream.codec = cm.downstream.codec
  requestBuffer : cm'.requestBuffer = cm.requestBuffer
  decoder : cm'.decoder = cm.decoder
  stopped : cm'.stopped = cm.stopped
  delivered : cm'.delivered = cm.delivered
  decodingFailed : cm'.decodingFailed = cm.decodingFailed

theorem Kept.refl (cm : ConnectionManager σ) : Kept cm cm :=
  ⟨rfl, rfl, rfl, rfl, rfl, rfl⟩

theorem kept_onStream {cm : ConnectionManager σ} {i : ℕ} {f : Stream σ → Stream σ}
    (h : (f (cm.stream i)).downstream.codec = cm.downstream.codec) : Kept cm (cm.onStream i f) :=
  ⟨h, rfl, rfl, rfl, rfl, rfl⟩

theorem kept_onDownstream {cm : ConnectionManager σ} {f : Downstream σ → Downstream σ}
    (h : (f cm.downstream).codec = cm.downstream.codec) : Kept cm (cm.onDownstream f) :=
  ⟨h, rfl, rfl, rfl, rfl, rfl⟩

theorem kept_resetAndClose (cm : ConnectionManager σ) : Kept cm cm.resetAndClose :=
  kept_onDownstream ((Downstream.codec_close _ _).trans (Downstream.codec_resetAllMessages _ _))

/-- A connection that nothing stops goes on, or is reset. -/
theorem kept_after {cm cm' : ConnectionManager σ} (hstopped : cm.stopped = false)
    (h : AfterDispatch cm cm') : Kept cm cm' := by
  cases h with
  | more => exact .refl cm
  | reset => exact kept_resetAndClose cm
  | halfClose h | assert h => cases hstopped.symm.trans h

/-- A new message leaves the position alone and is delivered. -/
theorem kept_newStream (cfg : Config σ) (metadata : Metadata) (cm : ConnectionManager σ) :
    Kept { cm with delivered := cm.delivered ++ [Delivery.stream metadata] }
      (cm.newStream cfg metadata) :=
  ⟨(Stream.onStreamDecoded_written cfg metadata _).2.1, rfl, rfl, rfl, rfl, rfl⟩

/-- Properties of the bytes received and the connection, `P` before an event and `Q` behind it, that
depend on the position in the stream only, and that `dispatch` leads from one to the other. -/
structure Dispatching (cfg : Config σ) (P Q : Bytes → ConnectionManager σ → Prop) : Prop where
  weaken : ∀ {received cm}, P received cm → Q received cm
  kept : ∀ {received cm cm'}, P received cm → Kept cm cm' → P received cm'
  kept' : ∀ {received cm cm'}, Q received cm → Kept cm cm' → Q received cm'
  go : ∀ {received cm}, P received cm → P received { cm with stopped := false }
  after : ∀ {received cm cm'}, Q received cm → AfterDispatch cm cm' → Q received cm'
  dispatch : ∀ {received cm}, P received cm → ∀ data : Bytes,
    Q (received ++ data) ({ cm with requestBuffer := cm.requestBuffer ++ data }.dispatch cfg)

section Dispatching

variable {cfg : Config σ} {P Q : Bytes → ConnectionManager σ → Prop} {received : Bytes}
  {cm : ConnectionManager σ} (hd : Dispatching cfg P Q)
include hd

theorem Dispatching.continueDecoding (h : P received cm) :
    Q received (cm.continueDecoding cfg) := by
  have hdispatch := hd.dispatch (hd.go h) []
  rw [List.append_nil, List.append_nil] at hdispatch
  exact hd.after hdispatch (continueDecoding_after cfg cm)

theorem Dispatching.continueMessage (h : P received cm) (i position : ℕ) :
    Q received (cm.continueMessage cfg i position) := by
  have hquiet := Stream.quiet_continueDecoding cfg position (cm.stream i)
  unfold ConnectionManager.continueMessage
  generalize (cm.stream i).continueDecoding cfg position = r at hquiet ⊢
  obtain ⟨_ | _, s⟩ := r
  · exact hd.kept' (hd.weaken h) ⟨hquiet.codec, rfl, rfl, rfl, rfl, rfl⟩
  · exact hd.continueDecoding (hd.kept h ⟨hquiet.codec, rfl, rfl, rfl, rfl, rfl⟩)

/-- Whatever an event does, it reads by `dispatch` only. -/
theorem Dispatching.step (h : P received cm) (e : Event) :
    Q (received ++ e.received) (step cfg cm e) := by
  have hkept : ∀ {cm'}, Kept cm cm' → Q (received ++ []) cm' := fun hk =>
    (List.append_nil received).symm ▸ hd.kept' (hd.weaken h) hk
  have hnone : ∀ {cm'}, Q received cm' → Q (received ++ []) cm' := fun h' =>
    (List.append_nil received).symm ▸ h'
  cases e with
  | downstreamData data endStream =>
    exact hd.after (hd.dispatch h data) (onData_after cfg data endStream cm)
  | downstreamClose event => exact hkept (kept_onDownstream (Downstream.codec_closed _ _))
  | poolReady i host leftover =>
    have hready := hd.kept h (@kept_onStream _ _ i _
      (Stream.quiet_onPoolReadyConnection host leftover _).codec)
    refine hnone (hd.kept' (hd.continueMessage hready i (routerPosition cfg)) ?_)
    exact kept_onStream (f := fun s => s.onRequestComplete.encodeData)
      ((Stream.quiet_onRequest _ _).trans (Stream.quiet_encodeData _)).codec
  | poolFailure i reason host =>
    have hreset := hd.kept h (@kept_onStream _ _ i _
      (Stream.quiet_onPoolFailureReset cfg reason host _).codec)
    refine hnone ?_
    unfold ConnectionManager.step onPoolFailure
    cases reason
    case overflow => exact hd.weaken hreset
    all_goals exact hd.continueMessage hreset i (routerPosition cfg)
  | upstreamData i data endStream =>
    exact hkept (kept_onStream (Stream.codec_onUpstreamData cfg _ endStream _))
  | upstreamClose i event =>
    exact hkept (kept_onStream (Stream.quiet_upstreamClosed cfg event _).codec)
  | continueDecoding i position => exact hnone (hd.continueMessage h i position)
  | continueEncoding i position =>
    exact hkept (kept_onStream (Stream.quiet_continueEncoding cfg position _).codec)
  | release i => exact hkept (kept_onStream (Stream.quiet_destroy cfg _).codec)

end Dispatching

/-! ## Following the stream -/

section Follows

variable {cfg : Config σ} {cm cm' : ConnectionManager σ} {I : σ → Prop} {R : Metadata → Prop}
  {again : Prop} {received : Bytes}

/-- The decoder of the whole stream, in the middle of it. -/
abbrev Progress (σ : Type) := Resumable.Progress UInt8 σ Metadata

/-- The connection has come as far as a decoder without layers. -/
structure At (cm : ConnectionManager σ) (p : Progress σ) : Prop where
  state : cm.downstream.codec = p.state
  buffer : cm.requestBuffer = p.buffer
  emitted : cm.delivered = p.emitted.map Delivery.of
  failed : cm.decodingFailed = p.failed

theorem At.of_kept {p : Progress σ} (h : At cm p) (hk : Kept cm cm') : At cm' p :=
  ⟨hk.codec.trans h.state, hk.requestBuffer.trans h.buffer, hk.delivered.trans h.emitted,
    hk.decodingFailed.trans h.failed⟩

/-- The machines of the connection are in order. -/
structure Ordered (I : σ → Prop) (cm : ConnectionManager σ) : Prop where
  ready : cm.decoder.Ready
  sound : I cm.downstream.codec
  stopped : cm.stopped = false

theorem Ordered.of_kept (h : Ordered I cm) (hk : Kept cm cm') : Ordered I cm' :=
  ⟨hk.decoder ▸ h.ready, hk.codec ▸ h.sound, hk.stopped.trans h.stopped⟩

/-- A heartbeat is answered, or the client is gone ; both leave the position alone. -/
theorem kept_onHeartbeat (hc : cfg.codec.Flows I R) (hi : I cm.downstream.codec)
    {metadata : Metadata} (hm : R metadata) :
    ∃ cm', cm.onHeartbeat cfg metadata = (.ok (), cm') ∧
      Kept { cm with delivered := cm.delivered ++ [Delivery.heartbeat metadata] } cm' := by
  have hi' : I (onDownstream (Downstream.inc .requestEvent)
      { cm with
        delivered := cm.delivered ++ [Delivery.heartbeat metadata] }).downstream.codec := hi
  obtain ⟨bytes, hencode⟩ := hc.heartbeat hi' hm
  unfold onHeartbeat
  dsimp only
  split
  · exact ⟨_, rfl, .mk rfl rfl rfl rfl rfl rfl⟩
  · rw [hencode]
    exact ⟨_, rfl, .mk rfl rfl rfl rfl rfl rfl⟩

/-- A message is complete, and the decoder starts the next one. -/
theorem Kept.completed (h : Kept cm cm') (hI : I cm.downstream.codec)
    (hstopped : cm.stopped = false)
    {emitted : List Metadata} {metadata : Metadata} {failed : Bool}
    (hdelivered : cm.delivered = emitted.map Delivery.of ++ [Delivery.of metadata])
    (hfailed : cm.decodingFailed = failed) :
    Ordered I cm'.complete ∧
      At cm'.complete ⟨cm.downstream.codec, cm.requestBuffer, emitted ++ [metadata], failed⟩ := by
  refine ⟨⟨DecoderBase.ready_complete cm'.decoder, h.codec ▸ hI, h.stopped.trans hstopped⟩,
    ⟨h.codec, h.requestBuffer, ?_, h.decodingFailed.trans hfailed⟩⟩
  rw [List.map_append]
  exact h.delivered.trans hdelivered

/-- The loop of `dispatch` is the loop of the decoder without layers. -/
theorem at_dispatchLoop (hc : cfg.codec.Flows I R) :
    ∀ (fuel : ℕ) {cm : ConnectionManager σ} {p : Progress σ}, Ordered I cm →
      At cm p → Ordered I (dispatchLoop cfg fuel cm) ∧
        At (dispatchLoop cfg fuel cm) (Resumable.dispatch cfg.codec.round fuel p)
  | 0, _, _, ho, ha => ⟨ho, ha⟩
  | fuel + 1, cm, p, ho, ha => by
    obtain ⟨decoder, hdecode, hready⟩ :=
      DecoderBase.decode_of_ready ho.ready cfg.codec cm.downstream.codec cm.requestBuffer
    have hkeep := hc.decode ho.sound cm.requestBuffer
    obtain ⟨state, buffer, emitted, failed⟩ := p
    obtain ⟨rfl, rfl, hemitted, hfailed⟩ := ha
    have hnext : ∀ {cm' : ConnectionManager σ} {s' b' metadata}, Ordered I cm' →
        At cm' ⟨s', b', emitted ++ [metadata], failed⟩ →
        Ordered I (if cm'.requestBuffer = [] then cm' else dispatchLoop cfg fuel cm') ∧
          At (if cm'.requestBuffer = [] then cm' else dispatchLoop cfg fuel cm')
            (match b' with
              | [] => ⟨s', [], emitted ++ [metadata], failed⟩
              | a :: b => Resumable.dispatch cfg.codec.round fuel
                  ⟨s', a :: b, emitted ++ [metadata], failed⟩) := by
      intro cm' s' b' metadata ho' ha'
      rw [ha'.buffer]
      cases b' with
      | nil => exact ⟨ho', ha'⟩
      | cons a b => exact at_dispatchLoop hc fuel ho' ha'
    unfold dispatchLoop Resumable.dispatch decode
    rw [hdecode]
    have hthrow := fun fault => @Codec.Flows.throw _ _ _ _ hc _ cm.requestBuffer fault ho.sound
    have hdone := fun metadata => @Codec.Keeps.done _ _ _ _ hc.toKeeps _ cm.requestBuffer metadata
      ho.sound
    rcases hd : cfg.codec.decode cm.downstream.codec cm.requestBuffer with ⟨s', b', status⟩
    rw [Codec.round, hd]
    rw [hd] at hkeep hready hthrow hdone
    cases status with
    | waitForData =>
      exact ⟨⟨hready (by simp), hkeep, ho.stopped⟩, rfl, rfl, hemitted, hfailed⟩
    | throw fault =>
      obtain ⟨what, rfl⟩ := hthrow fault rfl
      have hcodec : ∀ d : Downstream σ,
          (((d.close .noFlush).inc .requestDecodingError).resetAllMessages true).codec = d.codec :=
        fun d => (Downstream.codec_resetAllMessages _ _).trans (Downstream.codec_close _ d)
      refine ⟨⟨hready (by simp), ?_, ho.stopped⟩, hcodec _, rfl, hemitted, rfl⟩
      exact (hcodec { cm.downstream with codec := s' }).symm ▸ hkeep
    | done metadata =>
      dsimp only [DecodeStatus.decoded]
      have hdelivered : ∀ delivery, Delivery.of metadata = delivery →
          cm.delivered ++ [delivery] = emitted.map Delivery.of ++ [Delivery.of metadata] := by
        rintro _ rfl
        rw [hemitted]
      by_cases hb : metadata.messageType = .heartbeat
      · simp only [hb, if_true]
        obtain ⟨cm', hcm', hk⟩ := @kept_onHeartbeat _ cfg
          { cm with decoder, requestBuffer := b', downstream := { cm.downstream with codec := s' } }
          I R hc hkeep metadata (hdone metadata rfl)
        rw [hcm']
        dsimp only
        obtain ⟨ho', ha'⟩ :=
          hk.completed hkeep ho.stopped (hdelivered _ (by simp [Delivery.of, hb]))
          hfailed
        cases b' with
        | nil => exact hnext ho' ha'
        | cons a b => exact hnext ho' ha'
      · simp only [hb, if_false]
        have hk := kept_newStream cfg metadata
          { cm with decoder, requestBuffer := b', downstream := { cm.downstream with codec := s' } }
        generalize newStream cfg metadata _ = cm' at hk ⊢
        obtain ⟨ho', ha'⟩ :=
          hk.completed hkeep ho.stopped (hdelivered _ (by simp [Delivery.of, hb]))
          hfailed
        cases b' with
        | nil => exact hnext ho' ha'
        | cons a b => exact hnext ho' ha'

/-- The connection is a decoder that has been given the bytes received in chunks, also after it
has failed if `again`. -/
structure Fed (cfg : Config σ) (I : σ → Prop) (again : Prop) (received : Bytes)
    (cm : ConnectionManager σ) : Prop where
  ordered : Ordered I cm
  progress : ∃ p : Progress σ, At cm p ∧
    Resumable.Fed cfg.codec.round again cfg.codec.init received p

theorem Fed.of_kept (h : Fed cfg I again received cm) (hk : Kept cm cm') :
    Fed cfg I again received cm' := by
  obtain ⟨p, ha, hf⟩ := h.progress
  exact ⟨h.ordered.of_kept hk, p, ha.of_kept hk, hf⟩

variable (hc : cfg.codec.Flows I R)
include hc

theorem fed_new : Fed cfg I again [] (new cfg) :=
  ⟨⟨⟨rfl, by simp [new], by simp [new]⟩, hc.init, rfl⟩, ⟨cfg.codec.init, [], [], false⟩,
    ⟨rfl, rfl, rfl, rfl⟩, .start⟩

/-- `dispatch` on new bytes, or on none. -/
theorem Fed.dispatch (h : Fed cfg I again received cm) (hagain : cm.decodingFailed = true → again)
    (data : Bytes) :
    Fed cfg I again (received ++ data)
      ({ cm with requestBuffer := cm.requestBuffer ++ data }.dispatch cfg) := by
  obtain ⟨p, ha, hf⟩ := h.progress
  have ho' : Ordered I { cm with requestBuffer := cm.requestBuffer ++ data } :=
    ⟨h.ordered.ready, h.ordered.sound, h.ordered.stopped⟩
  have ha' : At { cm with requestBuffer := cm.requestBuffer ++ data }
      { p with buffer := cm.requestBuffer ++ data } :=
    ⟨ha.state, rfl, ha.emitted, ha.failed⟩
  have hf' := hf.feed (fun hp => hagain (ha.failed.trans hp)) data
  unfold Resumable.feed at hf'
  rw [← ha.buffer] at hf'
  unfold ConnectionManager.dispatch
  split_ifs with hnil hstopped
  · rw [if_pos (List.isEmpty_iff.mpr hnil)] at hf'
    exact ⟨ho', _, ha', hf'⟩
  · rw [ho'.stopped] at hstopped
    cases hstopped
  · rw [if_neg (fun h => hnil (List.isEmpty_iff.mp h))] at hf'
    obtain ⟨ho'', ha''⟩ := at_dispatchLoop hc ((cm.requestBuffer ++ data).length + 1) ho' ha'
    exact ⟨ho'', _, ha'', hf'⟩

theorem dispatching_fed : Dispatching cfg
    (fun received cm => Fed cfg I again received cm ∧ (cm.decodingFailed = true → again))
    (Fed cfg I again) where
  weaken h := h.1
  kept h hk := ⟨h.1.of_kept hk, hk.decodingFailed ▸ h.2⟩
  kept' h hk := h.of_kept hk
  go h := ⟨h.1.of_kept ⟨rfl, rfl, rfl, h.1.ordered.stopped.symm, rfl, rfl⟩, h.2⟩
  after h ha := h.of_kept (kept_after h.ordered.stopped ha)
  dispatch h data := h.1.dispatch hc h.2 data

/-- Whatever an event does, the connection follows the bytes received. -/
theorem fed_step (h : Fed cfg I again received cm) (hagain : cm.decodingFailed = true → again)
    (e : Event) : Fed cfg I again (received ++ e.received) (step cfg cm e) :=
  (dispatching_fed hc).step ⟨h, hagain⟩ e

theorem fed_run (h : Fed cfg I again received cm) (es : List Event)
    (hagain : ∀ es₁ e es₂, es = es₁ ++ e :: es₂ →
      ((system cfg).run cm es₁).decodingFailed = true → again) :
    Fed cfg I again (received ++ es.flatMap Event.received) ((system cfg).run cm es) := by
  induction es generalizing cm received with
  | nil => simpa using h
  | cons e es ih =>
    rw [List.flatMap_cons, ← List.append_assoc]
    refine ih (fed_step hc h (hagain [] e es rfl) e) fun es₁ e' es₂ hes => ?_
    exact hagain (e :: es₁) e' es₂ (by rw [hes, List.cons_append])

end Follows

/-! ## Dubbo -/

section Dubbo

variable {hessian : Dubbo.Hessian2} {cfg : Config Dubbo.DubboCodec.State}

theorem flows_dubbo (hc : cfg.codec = Dubbo.DubboCodec.codec hessian) :
    cfg.codec.Flows Dubbo.DubboCodec.Sound Dubbo.DubboCodec.Replyable := by
  rw [hc]
  exact (Dubbo.DubboCodec.keeps_codec hessian).flows (Dubbo.DubboCodec.replies_codec hessian)

/-- A run, in which a Dubbo codec that has thrown may be called again. -/
theorem fed_run_dubbo (hc : cfg.codec = Dubbo.DubboCodec.codec hessian) (es : List Event) :
    Fed cfg Dubbo.DubboCodec.Sound True (es.flatMap Event.received)
      ((system cfg).run (new cfg) es) :=
  fed_run (flows_dubbo hc) (fed_new (flows_dubbo hc)) es fun _ _ _ _ _ => trivial

/-- What a connection delivers, and whether an exception ends it, depends on the bytes the
client has sent, not on the chunks they came in nor on what happened between them. -/
theorem delivered_run_eq (hl : hessian.Local) (hc : cfg.codec = Dubbo.DubboCodec.codec hessian)
    (es : List Event) :
    ((system cfg).run (new cfg) es).delivered =
        ((system cfg).run (new cfg)
          [.downstreamData (es.flatMap Event.received) false]).delivered ∧
      ((system cfg).run (new cfg) es).decodingFailed =
        ((system cfg).run (new cfg)
          [.downstreamData (es.flatMap Event.received) false]).decodingFailed := by
  obtain ⟨p, ha, hf⟩ := (fed_run_dubbo hc es).progress
  obtain ⟨p', ha', hf'⟩ :=
    (fed_run_dubbo hc [.downstreamData (es.flatMap Event.received) false]).progress
  rw [hc] at hf hf'
  simp only [List.flatMap_cons, List.flatMap_nil, List.append_nil, Event.received] at hf'
  obtain ⟨hemitted, hfailed, -⟩ := hf.unique (Dubbo.DubboCodec.splittable_round hl)
    ⟨.idle, Dubbo.DubboCodec.hungry_none⟩ hf'
  exact ⟨by rw [ha.emitted, ha'.emitted, hemitted], by rw [ha.failed, ha'.failed, hfailed]⟩

end Dubbo

/-- A request in two chunks, cut in its header, with a call in between that has no bytes. -/
theorem delivered_run_eq_chunks :
    ((system (DubboExample.config none)).run (new (DubboExample.config none))
          [.downstreamData ((DubboExample.request 1).take 5) false, .downstreamData [] false,
            .downstreamData ((DubboExample.request 1).drop 5) false]).delivered =
        ((system (DubboExample.config none)).run (new (DubboExample.config none))
          [.downstreamData ([.downstreamData ((DubboExample.request 1).take 5) false,
            .downstreamData [] false,
            .downstreamData ((DubboExample.request 1).drop 5) false].flatMap
              Event.received) false]).delivered ∧
      ((system (DubboExample.config none)).run (new (DubboExample.config none))
          [.downstreamData ((DubboExample.request 1).take 5) false, .downstreamData [] false,
            .downstreamData ((DubboExample.request 1).drop 5) false]).decodingFailed =
        ((system (DubboExample.config none)).run (new (DubboExample.config none))
          [.downstreamData ([.downstreamData ((DubboExample.request 1).take 5) false,
            .downstreamData [] false,
            .downstreamData ((DubboExample.request 1).drop 5) false].flatMap
              Event.received) false]).decodingFailed :=
  delivered_run_eq Dubbo.Hessian2.compact_local rfl _

end ConnectionManager

end MetaProtocolProxy

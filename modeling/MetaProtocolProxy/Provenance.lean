import MetaProtocolProxy.Course
import MetaProtocolProxy.DubboReply
import MetaProtocolProxy.Heartbeats

/-!
# Where the bytes for a client come from

Nothing is written to a client without a reason (`Grounds`) : a heartbeat it has sent, an error that
the codec has put into bytes for one of its requests, or a response forwarded for one. This holds
for every codec and every chain of filters (`grounded_run`). With the Dubbo codec a heartbeat reply
and a local reply are therefore frames, with the id of the heartbeat or of the request
(`framed_run`).
-/

namespace MetaProtocolProxy

variable {σ : Type} {cfg : Config σ} {I : σ → Prop} {R : Metadata → Prop}

/-! ## What a message writes -/

namespace Stream

/-- A write for a message with `metadata`, up to the bytes taken off it : a local reply that the
codec has encoded, or a response. -/
inductive Says (cfg : Config σ) (codec : σ) (id : ℕ) (metadata : Metadata) : Write → Prop
  | localReply {error : Error} {originMessage bytes : Bytes} {endStream : Bool}
      (h : cfg.codec.onError codec { metadata with originMessage } error = .ok bytes) :
      Says cfg codec id metadata ⟨some id, .localReply error, bytes, endStream⟩
  | upstreamResponse (response : Metadata) :
      Says cfg codec id metadata
        ⟨some id, .upstreamResponse response, response.originMessage, false⟩

theorem Says.of_eq {codec : σ} {id : ℕ} {metadata : Metadata} {originMessage : Bytes} {w : Write}
    (h : Says cfg codec id { metadata with originMessage } w) : Says cfg codec id metadata w := by
  cases h with
  | localReply h => exact .localReply h
  | upstreamResponse response => exact .upstreamResponse response

/-- What a deed writes. -/
theorem Deed.says {s t : Stream σ} (h : Deed cfg s t) {metadata : Metadata}
    (hm : s.message.metadata = some metadata) : ∃ ws,
      t.downstream.written = s.downstream.written ++ ws ∧
        ∀ w ∈ ws, Says cfg s.downstream.codec s.message.id metadata w := by
  have hnone : ∀ {d : Downstream σ}, d.written = s.downstream.written → ∃ ws,
      d.written = s.downstream.written ++ ws ∧
        ∀ w ∈ ws, Says cfg s.downstream.codec s.message.id metadata w := fun h => ⟨[], by simp [h]⟩
  cases h with
  | onMessage h => exact hnone rfl
  | panic site => exact hnone rfl
  | inc h => exact hnone rfl
  | deferredMessage => exact hnone (Downstream.written_deferredMessage _ _)
  | close type => exact hnone (Downstream.written_close type _)
  | sendLocalReply error endStream =>
    rcases downstream_sendLocalReply cfg error endStream s with ⟨hnil, -⟩ | ⟨metadata', hm', hd⟩
    · cases hnil.symm.trans hm
    obtain rfl := Option.some.inj (hm'.symm.trans hm)
    rw [hd]
    rcases Downstream.sendLocalReply_cases cfg s.message.id metadata' error endStream
      s.downstream with ⟨-, h⟩ | ⟨-, ⟨site, h⟩ | h | ⟨bytes, hbytes, h⟩⟩ <;> rw [h]
    · exact hnone rfl
    · exact hnone rfl
    · exact hnone rfl
    · refine ⟨_, rfl, fun w hw => ?_⟩
      obtain rfl := List.mem_singleton.mp hw
      exact .localReply hbytes
  | respond response h =>
    refine ⟨[⟨some s.message.id, .upstreamResponse response, response.originMessage, false⟩], ?_,
      fun w hw => ?_⟩
    · rw [downstream_respond]
      unfold Downstream.respond
      dsimp only
      split_ifs <;> rfl
    · obtain rfl := List.mem_singleton.mp hw
      exact .upstreamResponse response

theorem Acts.says {s t : Stream σ} (h : Acts cfg s t) {metadata : Metadata}
    (hm : s.message.metadata = some metadata) : ∃ ws,
      t.downstream.written = s.downstream.written ++ ws ∧
        ∀ w ∈ ws, Says cfg s.downstream.codec s.message.id metadata w := by
  induction h with
  | refl => exact ⟨[], by simp⟩
  | tail hacts hd ih =>
    obtain ⟨ws, hws, hall⟩ := ih
    have hstill := Acts.still hacts
    obtain ⟨originMessage, hm'⟩ := hstill.metadata metadata hm
    obtain ⟨ws', hws', hlast⟩ := hd.says hm'
    refine ⟨ws ++ ws', by rw [hws', hws, List.append_assoc], fun w hw => ?_⟩
    rcases List.mem_append.mp hw with hw | hw
    · exact hall w hw
    · have hsaid := hlast w hw
      rw [Acts.codec hacts, hstill.id] at hsaid
      exact hsaid.of_eq

theorem written_finalizeRequest (s : Stream σ) :
    s.finalizeRequest.downstream.written = s.downstream.written := by
  unfold finalizeRequest
  dsimp only
  split
  · rfl
  · unfold countRequest
    split_ifs
    · split
      · exact Downstream.written_deferredMessage _ _
      · exact Downstream.written_deferredMessage _ _
      · exact Downstream.written_deferredMessage _ _
    · split <;> rfl

end Stream

/-! ## What a connection writes -/

namespace ConnectionManager

/-- The reason for a write, in what the connection has delivered. -/
inductive Grounds (cfg : Config σ) (I : σ → Prop) (R : Metadata → Prop) (cm : ConnectionManager σ) :
    Write → Prop
  | heartbeat {metadata : Metadata} {codec : σ} {bytes : Bytes}
      (hdelivered : Delivery.heartbeat metadata ∈ cm.delivered) (hR : R metadata)
      (hcodec : I codec)
      (hbytes : cfg.codec.encode codec { metadata with messageType := .heartbeat } = .ok bytes) :
      Grounds cfg I R cm ⟨none, .heartbeat, bytes, false⟩
  | message {i : ℕ} {request : Metadata} {codec : σ} {w : Write}
      (hrequest : cm.requests[i]? = some request) (hR : R request) (hcodec : I codec)
      (hsaid : Stream.Says cfg codec i request w) : Grounds cfg I R cm w

/-- Every write has a reason. -/
def Grounded (cfg : Config σ) (I : σ → Prop) (R : Metadata → Prop) (cm : ConnectionManager σ) :
    Prop :=
  ∀ w ∈ cm.downstream.written, Grounds cfg I R cm w

variable {cm cm' : ConnectionManager σ}

/-- A reason stays one when more is delivered. -/
theorem Grounds.mono (h : cm.delivered <+: cm'.delivered) {w : Write}
    (hw : Grounds cfg I R cm w) : Grounds cfg I R cm' w := by
  have hrequests : ∀ {i : ℕ} {request : Metadata}, cm.requests[i]? = some request →
      cm'.requests[i]? = some request := by
    intro i request hi
    obtain ⟨more, hmore⟩ := h
    rw [requests, ← hmore, List.filterMap_append]
    exact (List.getElem?_append_left (List.getElem?_eq_some_iff.mp hi).1).trans hi
  cases hw with
  | heartbeat hdelivered hR hcodec hbytes =>
    exact .heartbeat (h.subset hdelivered) hR hcodec hbytes
  | message hrequest hR hcodec hsaid =>
    exact .message (hrequests hrequest) hR hcodec hsaid

theorem Grounded.mono (h : cm.Grounded cfg I R) (ws : List Write)
    (hdelivered : cm.delivered <+: cm'.delivered)
    (hwritten : cm'.downstream.written = cm.downstream.written ++ ws)
    (hws : ∀ w ∈ ws, Grounds cfg I R cm' w) : cm'.Grounded cfg I R := by
  intro w hw
  rw [hwritten] at hw
  rcases List.mem_append.mp hw with hw | hw
  · exact (h w hw).mono hdelivered
  · exact hws w hw

/-- Nothing is written, and nothing delivered. -/
theorem Grounded.of_eq (h : cm.Grounded cfg I R) (hdelivered : cm'.delivered = cm.delivered)
    (hwritten : cm'.downstream.written = cm.downstream.written) : cm'.Grounded cfg I R :=
  h.mono [] (hdelivered ▸ List.prefix_rfl) (hwritten.trans (List.append_nil _).symm) (by simp)

/-- What a message writes has a reason, where the message is in order. -/
theorem Grounded.setStream (h : cm.Grounded cfg I R) (hproper : Proper I R cm) {i : ℕ}
    (hi : i < cm.created) {s t : Stream σ} (hs : s.message = cm.messages i)
    (hcodec : s.downstream.codec = cm.downstream.codec)
    (hwritten : s.downstream.written = cm.downstream.written) (hacts : Stream.Acts cfg s t)
    {u : Stream σ} (hu : u.downstream.written = t.downstream.written) :
    (cm.setStream i u).Grounded cfg I R := by
  obtain ⟨request, hrequest⟩ := hproper.exists_request hi
  obtain ⟨hR, originMessage, hm⟩ := hproper.request i request hrequest
  obtain ⟨ws, hws, hall⟩ := hacts.says (hs ▸ hm)
  refine h.mono ws List.prefix_rfl ?_ fun w hw => ?_
  · exact hu.trans (hws.trans (by rw [hwritten]))
  · have hsaid := (hall w hw).of_eq
    rw [hs, hproper.id, hcodec] at hsaid
    exact .message hrequest hR hproper.codec hsaid

theorem course_grounded : Course cfg I R (Grounded (σ := σ) cfg I R) where
  read h _ _ _ := h.of_eq rfl rfl
  go h := h.of_eq rfl rfl
  halfClose h := h.of_eq rfl rfl
  panic h _ := h.of_eq rfl rfl
  deed hproper h _ hi _ hd := h.setStream hproper hi rfl rfl rfl hd.acts rfl
  newStream := by
    intro cm hproper h metadata hR s hacts
    have hrequest : (cm.requests ++ [metadata])[cm.created]? = some metadata := by
      rw [List.getElem?_append_right (Nat.le_of_eq hproper.created), hproper.created, Nat.sub_self]
      rfl
    have hmetadata : (cm.born metadata).message.metadata = some metadata := by
      simp [born, Stream.decoded, Stream.onMessage]
    have hid : (cm.born metadata).message.id = cm.created := by
      simp [born, Stream.decoded, Stream.onMessage, Stream.inc, Stream.onDownstream, stream,
        newMessage]
    obtain ⟨ws, hws, hall⟩ := hacts.says hmetadata
    rw [hid] at hall
    have hborn : ∀ {u : Stream σ}, u.downstream.written = s.downstream.written →
        ((cm.newMessage metadata).setStream cm.created u).Grounded cfg I R := by
      intro u hu
      refine h.mono ws (List.prefix_append _ _) (hu.trans hws) fun w hw => ?_
      exact .message ((congrArg (·[cm.created]?) (requests_newMessage metadata cm)).trans hrequest)
        hR hproper.codec (hall w hw)
    exact ⟨hborn rfl, hborn (Stream.written_finalizeRequest s)⟩
  finalizeRequest _ h _ _ _ := h.of_eq rfl (Stream.written_finalizeRequest _)
  destroy hproper h _ hi _ _ hacts := h.setStream hproper hi rfl rfl rfl hacts rfl
  onHeartbeat := by
    intro cm hproper h metadata hR
    have hdelivered : (cm.onHeartbeat cfg metadata).2.delivered =
        cm.delivered ++ [Delivery.heartbeat metadata] := by
      obtain ⟨ws, hcm, -⟩ := onHeartbeat_spec cfg metadata cm
      rw [hcm]
    have hwritten : ∃ ws, (cm.onHeartbeat cfg metadata).2.downstream.written =
        cm.downstream.written ++ ws ∧ ∀ w ∈ ws, ∃ bytes, w = ⟨none, .heartbeat, bytes, false⟩ ∧
          cfg.codec.encode cm.downstream.codec { metadata with messageType := .heartbeat } =
            .ok bytes := by
      unfold onHeartbeat
      dsimp only
      split
      · exact ⟨[], by simp [onDownstream, Downstream.inc], by simp⟩
      · split
        · exact ⟨[], by simp [onDownstream, Downstream.inc], by simp⟩
        · rename_i bytes hbytes
          exact ⟨[⟨none, .heartbeat, bytes, false⟩], rfl, fun w hw =>
            ⟨bytes, List.mem_singleton.mp hw, hbytes⟩⟩
    obtain ⟨ws, hws, hheartbeat⟩ := hwritten
    refine h.mono ws (hdelivered ▸ List.prefix_append _ _) hws fun w hw => ?_
    obtain ⟨bytes, rfl, hbytes⟩ := hheartbeat w hw
    exact .heartbeat (hdelivered ▸ List.mem_append_right _ List.mem_cons_self) hR hproper.codec
      hbytes
  onDecodingError h := h.of_eq rfl ((Downstream.written_resetAllMessages _ _).trans
    (Downstream.written_close .noFlush _))
  resetAndClose h := h.of_eq rfl ((Downstream.written_close .flushWrite _).trans
    (Downstream.written_resetAllMessages _ _))
  closed h event := h.of_eq rfl (Downstream.written_closed event _)

/-- With every codec and every chain of filters : whatever is written to a client has a reason. -/
theorem grounded_run {cfg : Config σ} (hk : cfg.codec.Keeps I R) {es : List Event}
    (h : (system cfg).Admissible (new cfg) es) :
    ((system cfg).run (new cfg) es).Grounded cfg I R :=
  (course_grounded.run hk (by rintro w ⟨⟩) h).prop

/-! ## Dubbo -/

open Dubbo.DubboCodec (Replyable heartbeatReply errorStatus errorBody)

/-- What a Dubbo proxy writes of its own accord is a frame with the id of what it answers. -/
inductive Framed (hessian : Dubbo.Hessian2) (cm : ConnectionManager Dubbo.DubboCodec.State) :
    Write → Prop
  | heartbeat {metadata : Metadata} (hdelivered : Delivery.heartbeat metadata ∈ cm.delivered) :
      Framed hessian cm ⟨none, .heartbeat, heartbeatReply metadata.requestId.toNat, false⟩
  | localReply {i : ℕ} {request : Metadata} {error : Error} {endStream : Bool}
      (hrequest : cm.requests[i]? = some request) (herror : error.message ≠ "") :
      Framed hessian cm ⟨some i, .localReply error,
        Dubbo.frame 2 (errorStatus error.type).toUInt8 request.requestId.toNat
          (errorBody hessian error), endStream⟩
  | upstreamResponse {i : ℕ} {request : Metadata} (response : Metadata)
      (hrequest : cm.requests[i]? = some request) :
      Framed hessian cm ⟨some i, .upstreamResponse response, response.originMessage, false⟩

/-- An error without a text is not encoded. -/
theorem message_ne_of_onError {hessian : Dubbo.Hessian2} {metadata : Metadata} {error : Error}
    {bytes : Bytes} (hm : Replyable metadata)
    (h : Dubbo.DubboCodec.onError hessian metadata error = .ok bytes) : error.message ≠ "" := by
  intro herror
  obtain ⟨msgMetadata, -, -, hmsg⟩ := hm.toMsgMetadata
  simp [Dubbo.DubboCodec.onError, hmsg, bind, Except.bind, Dubbo.encode, herror] at h

theorem Grounds.framed {hessian : Dubbo.Hessian2} {cfg : Config Dubbo.DubboCodec.State}
    (hc : cfg.codec = Dubbo.DubboCodec.codec hessian) {I : Dubbo.DubboCodec.State → Prop}
    {cm : ConnectionManager Dubbo.DubboCodec.State} {w : Write}
    (h : Grounds cfg I Replyable cm w) : Framed hessian cm w := by
  cases h with
  | @heartbeat metadata codec bytes hdelivered hR hcodec hbytes =>
    have hencode : Dubbo.DubboCodec.encode hessian { metadata with messageType := .heartbeat } =
        .ok bytes := by
      rw [← hbytes, hc]
      rfl
    cases (Dubbo.DubboCodec.encode_heartbeat hR).symm.trans hencode
    exact .heartbeat hdelivered
  | @message i request codec w hrequest hR hcodec hsaid =>
    cases hsaid with
    | @localReply error originMessage bytes endStream hbytes =>
      have hreply := (Dubbo.DubboCodec.keeps_codec hessian).originMessage hR originMessage
      have herror : Dubbo.DubboCodec.onError hessian { request with originMessage } error =
          .ok bytes := by
        rw [← hbytes, hc]
        rfl
      have hmessage := message_ne_of_onError hreply herror
      obtain rfl : Dubbo.frame 2 (errorStatus error.type).toUInt8 request.requestId.toNat
          (errorBody hessian error) = bytes :=
        Except.ok.inj ((Dubbo.DubboCodec.onError_eq_frame hreply hmessage).symm.trans herror)
      exact .localReply hrequest hmessage
    | upstreamResponse response => exact .upstreamResponse response hrequest

/-- What has its grounds is a frame. -/
theorem Grounded.framed {hessian : Dubbo.Hessian2} {cfg : Config Dubbo.DubboCodec.State}
    (hc : cfg.codec = Dubbo.DubboCodec.codec hessian) {I : Dubbo.DubboCodec.State → Prop}
    {cm : ConnectionManager Dubbo.DubboCodec.State} (h : cm.Grounded cfg I Replyable) :
    ∀ w ∈ cm.downstream.written, Framed hessian cm w :=
  fun w hw => (h w hw).framed hc

/-- With the Dubbo codec and every chain of filters : a heartbeat reply is the reply frame with the
id of a heartbeat that was received, a local reply is the error frame with the id of its request,
and every other write is the bytes of a response for some request. -/
theorem framed_run (hessian : Dubbo.Hessian2) {cfg : Config Dubbo.DubboCodec.State}
    (hc : cfg.codec = Dubbo.DubboCodec.codec hessian) {es : List Event}
    (h : (system cfg).Admissible (new cfg) es) :
    ∀ w ∈ ((system cfg).run (new cfg) es).downstream.written,
      Framed hessian ((system cfg).run (new cfg) es) w := by
  have hk : cfg.codec.Keeps Dubbo.DubboCodec.Sound Replyable :=
    hc ▸ Dubbo.DubboCodec.keeps_codec hessian
  exact (grounded_run hk h).framed hc

/-- A proxy without routes. -/
def unrouted : Config Dubbo.DubboCodec.State :=
  dubboConfig .compact (fun _ _ => none) fun _ _ => none

/-- A heartbeat and a request, which are both answered by the proxy. -/
theorem framed_run_unrouted :
    ((system unrouted).run (new unrouted)
        [.downstreamData (Dubbo.frame 0xe2 20 7 [] ++ DubboExample.request 9)
          false]).downstream.written.length = 2 ∧
      ∀ w ∈ ((system unrouted).run (new unrouted)
          [.downstreamData (Dubbo.frame 0xe2 20 7 [] ++ DubboExample.request 9)
            false]).downstream.written,
        Framed .compact ((system unrouted).run (new unrouted)
          [.downstreamData (Dubbo.frame 0xe2 20 7 [] ++ DubboExample.request 9) false]) w :=
  ⟨by decide +kernel, framed_run .compact rfl (by decide +kernel)⟩

end ConnectionManager

end MetaProtocolProxy

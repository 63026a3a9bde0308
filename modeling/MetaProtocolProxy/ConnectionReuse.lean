import MetaProtocolProxy.OnewayRelease
import MetaProtocolProxy.Relay

/-!
# Connections that are used again

A connection goes back to the pool when the response of its request is complete, with the bytes that
are left in its buffer, and the pool lends it again with them. However the upstream has cut what it
sends, nothing is left exactly if nothing follows the response in what it has sent
(`leavesNothing_iff`). If so, every connection is lent without bytes, and the answer to a request
is read from what its upstream has sent since the request was written (`returned_empty_iff`).
-/

namespace MetaProtocolProxy

variable {σ : Type} {cfg : Config σ} {I : σ → Prop} {R : Metadata → Prop}

/-! ## Whole messages -/

/-- A codec reads a message from these bytes and leaves none of them. -/
def Codec.Whole (codec : Codec σ) (message : Metadata) (frame : Bytes) : Prop :=
  ∃ s, codec.round codec.init frame = .emit message s []

/-- A codec that does not see where its input is cut, nor what follows a message. -/
structure Codec.Framing (codec : Codec σ) (J fresh : σ → Prop) : Prop where
  cuttable : Resumable.Cuttable codec.round J fresh
  init : J codec.init
  whole : ∀ {input message s rest}, codec.round codec.init input = .emit message s rest →
    ∃ frame, input = frame ++ rest ∧ codec.Whole message frame

/-- A whole message is read in front of whatever follows it. -/
theorem Codec.Framing.emit {codec : Codec σ} {J fresh : σ → Prop} (h : codec.Framing J fresh)
    {message : Metadata} {frame : Bytes} (hw : codec.Whole message frame) (rest : Bytes) :
    ∃ s, codec.round codec.init (frame ++ rest) = .emit message s rest := by
  obtain ⟨s, hs⟩ := hw
  exact ⟨s, (h.cuttable.emit h.init hs).2.2.2.2 rest⟩

theorem Codec.round_emit_iff {codec : Codec σ} {s s' : σ} {buffer rest : Bytes}
    {message : Metadata} : codec.round s buffer = .emit message s' rest ↔
      (codec.decode s buffer).status = .done message ∧ (codec.decode s buffer).codec = s' ∧
        (codec.decode s buffer).buffer = rest := by
  unfold Codec.round Decoding.round
  cases (codec.decode s buffer).status <;> simp

namespace Stream

/-! ## The status of a response -/

/-- The response is complete exactly when the data completes a message with the id of the request,
and the client is there. -/
theorem status_upstreamData_iff (hk : cfg.codec.Keeps I R) (hc : cfg.RouterOnly) {s : Stream σ}
    {metadata : Metadata} (hm : s.message.metadata = some metadata) {o : Bytes}
    (hs : s.message.Coherent I R o) (hI : I s.downstream.codec) {r : UpstreamRequest}
    {c : UpstreamConnection} (hw : s.message.Waits I r c) (hp : s.message.phase = .waiting)
    (data : Bytes) :
    ((s.startResponse cfg).upstreamData cfg data).2.1 = .complete ↔
      s.downstream.state = .open ∧ ∃ response,
        (cfg.codec.decode (s.message.startedDecoder cfg).codec data).status = .done response ∧
          response.messageType ≠ .heartbeat ∧ response.requestId = metadata.requestId := by
  have hfresh := ConnectionManager.fresh_startedDecoder hk.init hw
  have hresponds : Responds R o (cfg.codec.Replies I R) 0 false s (s.startResponse cfg) :=
    responds_startResponse hs hp
  have hstart := startResponse_eq cfg hw
  generalize s.startResponse cfg = t at hresponds hstart ⊢
  have hmt : t.message.metadata = some metadata := by rw [hstart]; exact hm
  have hdt : t.message.responseDecoder = some (s.message.startedDecoder cfg) := by
    rw [hstart]
    rfl
  obtain ⟨decoder, hdecode, -⟩ :=
    DecoderBase.decode_of_ready hfresh.ready cfg.codec (s.message.startedDecoder cfg).codec data
  cases hstatus : (cfg.codec.decode (s.message.startedDecoder cfg).codec data).status with
  | waitForData =>
    rw [hstatus] at hdecode
    rw [upstreamData_more hdt hfresh.responseStatus hdecode (by rintro _ ⟨⟩) (by rintro _ ⟨⟩)]
    simp
  | throw fault =>
    rw [hstatus] at hdecode
    cases fault with
    | panic site =>
      rw [upstreamData_more hdt hfresh.responseStatus hdecode (by rintro _ ⟨⟩) (by rintro _ ⟨⟩)]
      simp
    | exception what =>
      have hreset : (t.upstreamData cfg data).2.1 = .reset := by
        unfold upstreamData responseDecoderOnData
        rw [hdt]
        dsimp only
        rw [hdecode]
        rfl
      rw [hreset]
      simp
  | done response =>
    rw [hstatus] at hdecode
    by_cases hheartbeat : response.messageType = .heartbeat
    · rw [show (DecodeStatus.done response).decoded = .heartbeat response from
        if_pos hheartbeat] at hdecode
      rw [upstreamData_more hdt hfresh.responseStatus hdecode (by rintro _ ⟨⟩) (by rintro _ ⟨⟩)]
      simp [hheartbeat]
    · rw [show (DecodeStatus.done response).decoded = .stream response from
        if_neg hheartbeat] at hdecode
      obtain ⟨n, status, v, hdata, hcomplete, -, -⟩ :=
        upstreamData_stream hc hresponds hmt hI hdt hdecode
      rw [hdata, hcomplete]
      simp [hheartbeat]

/-- A connection that is reset does not go back to the pool. -/
theorem returned_resetUpstreamStream (s : Stream σ) :
    (s.resetUpstreamStream cfg).message.router.returned = s.message.router.returned := by
  unfold resetUpstreamStream
  split
  · rfl
  · rename_i request _
    have hcancel : ((s.onRequest fun r => { r with streamReset := true }).cancelHandle
        request).message.router.returned = s.message.router.returned := by
      unfold cancelHandle
      split <;> rfl
    unfold closeConnection
    split
    · rename_i connection _
      have hclose : ∀ t : Stream σ,
          (t.closeUpstream cfg connection).message.router = t.message.router := by
        intro t
        unfold closeUpstream
        split
        · exact router_onUpstreamEvent _ _
        · rfl
      change (closeUpstream cfg connection _).message.router.returned = _
      rw [hclose]
      exact hcancel
    · exact hcancel

/-- Nor does one whose response is not complete, while the upstream goes on. -/
theorem returned_onUpstreamData_of_ne (cfg : Config σ) (data : Bytes) {s : Stream σ}
    {r : UpstreamRequest} (h : s.message.router.upstreamRequest = some r)
    (hstatus : ((s.startResponse cfg).upstreamData cfg data).2.1 ≠ .complete) :
    (s.onUpstreamData cfg data false).message.router.returned = s.message.router.returned := by
  obtain ⟨r', hrouter, -⟩ := router_upstreamData cfg data h
  unfold onUpstreamData
  rw [h]
  generalize (s.startResponse cfg).upstreamData cfg data = result at hstatus hrouter ⊢
  obtain ⟨rest, status, t⟩ := result
  replace hrouter : t.message.router = { s.message.router with upstreamRequest := some r' } :=
    hrouter
  have hleave : (t.leaveUpstreamData rest).message.router.returned =
      s.message.router.returned := by
    simp [leaveUpstreamData, onRequest, onRouter, onMessage, hrouter]
  cases status with
  | complete => exact absurd rfl hstatus
  | reset => exact (returned_resetUpstreamStream _).trans hleave
  | moreData => exact hleave
  | retry => exact hleave

end Stream

namespace ConnectionManager

/-! ## The end of a response -/

/-- The connections that a message gives back to the pool by an event. -/
def givenBack (cfg : Config σ) (cm : ConnectionManager σ) (i : ℕ) (e : Event) :
    List UpstreamConnection :=
  ((cm.step cfg e).messages i).router.returned.drop (cm.messages i).router.returned.length

/-- A connection that is given back for a complete response holds no bytes. -/
def LeavesNothing (cfg : Config σ) (cm : ConnectionManager σ) : Event → Prop
  | .upstreamData i data endStream => cm.responseStatus cfg i data = .complete →
    ∀ c ∈ cm.givenBack cfg i (.upstreamData i data endStream), c.buffer = []
  | _ => True

instance (cfg : Config σ) (cm : ConnectionManager σ) :
    (e : Event) → Decidable (cm.LeavesNothing cfg e)
  | .upstreamData _ _ _ => inferInstanceAs (Decidable (_ → _))
  | .downstreamData _ _ | .downstreamClose _ | .poolReady _ _ _ | .poolFailure _ _ _
  | .upstreamClose _ _ | .continueDecoding _ _ | .continueEncoding _ _ | .release _ =>
    inferInstanceAs (Decidable True)

/-- Nothing follows the response to a request : where all that its upstream has sent begins with a
whole message that has the id of the request, that is all. -/
def EndsWithResponse (codec : Codec σ) (request : Metadata) (sent : Bytes) : Prop :=
  ∀ response frame rest, sent = frame ++ rest → codec.Whole response frame →
    response.messageType ≠ .heartbeat → response.requestId = request.requestId → rest = []

/-- While the client is there, no upstream sends anything behind the response to its request. -/
def SendsNothingBehind (cfg : Config σ) (es : List Event) : Prop :=
  ∀ es₁ i data endStream es₂, es = es₁ ++ .upstreamData i data endStream :: es₂ →
    ((system cfg).run (new cfg) es₁).downstream.state = .open →
    ∀ request, ((system cfg).run (new cfg) es₁).requests[i]? = some request →
      EndsWithResponse cfg.codec request
        (upstreamSent cfg i request (es₁ ++ [.upstreamData i data endStream]))

/-- What the router gives back for a complete response is the connection with what the codec has
left of its buffer. -/
theorem leavesNothing_upstreamData {cm : ConnectionManager σ} {i : ℕ} {data : Bytes}
    {endStream : Bool} {r : UpstreamRequest} {c : UpstreamConnection}
    (hw : (cm.messages i).Waits I r c)
    (hready : ((cm.messages i).startedDecoder cfg).decoder.Ready) :
    cm.LeavesNothing cfg (.upstreamData i data endStream) ↔
      (cm.responseStatus cfg i data = .complete →
        (cfg.codec.decode ((cm.messages i).startedDecoder cfg).codec
          ((cm.messages i).upstreamBuffer ++ data)).buffer = []) := by
  refine imp_congr_right fun hcomplete => ?_
  have hunread : (cm.stream i).unread cfg (cm.upstreamBuffer i ++ data) =
      (cfg.codec.decode ((cm.messages i).startedDecoder cfg).codec
        ((cm.messages i).upstreamBuffer ++ data)).buffer := by
    obtain ⟨decoder, hdecode, -⟩ := DecoderBase.decode_of_ready hready cfg.codec
      ((cm.messages i).startedDecoder cfg).codec ((cm.messages i).upstreamBuffer ++ data)
    unfold Stream.unread
    rw [Stream.startResponse_eq cfg (s := cm.stream i) hw]
    exact congrArg (·.2.2.1) hdecode
  have hreturned := Stream.returned_onUpstreamData cfg (cm.upstreamBuffer i ++ data) endStream
    (s := cm.stream i) hw.request hw.connData hcomplete
  have hmessage : ((cm.step cfg (.upstreamData i data endStream)).messages i) =
      ((cm.stream i).onUpstreamData cfg (cm.upstreamBuffer i ++ data) endStream).message :=
    Function.update_self _ _ _
  unfold givenBack
  rw [hmessage, hreturned, hunread]
  simp [stream]

/-- However the upstream has cut what it sends, the buffer is empty behind a response exactly if
nothing follows the response. -/
theorem leavesNothing_iff {J fresh : σ → Prop} (hf : cfg.codec.Framing J fresh)
    (hc : cfg.RouterOnly) {es : List Event} {i : ℕ} {data : Bytes} {endStream : Bool}
    (h : (system cfg).Admissible (new cfg) (es ++ [.upstreamData i data endStream])) :
    ((system cfg).run (new cfg) es).LeavesNothing cfg (.upstreamData i data endStream) ↔
      (((system cfg).run (new cfg) es).downstream.state = .open →
        ∀ request, ((system cfg).run (new cfg) es).requests[i]? = some request →
          EndsWithResponse cfg.codec request
            (upstreamSent cfg i request (es ++ [.upstreamData i data endStream]))) := by
  have hk := Codec.keeps_true cfg.codec
  obtain ⟨hes, he, -⟩ := Transition.admissible_append.mp h
  have halive := alive_run hk hc hes
  have hall := relayed_all (hearing_of_cuttable hf.cuttable hf.init) hc hes
  generalize (system cfg).run (new cfg) es = cm at he halive hall ⊢
  obtain ⟨hfault, hi, -, hwaiting⟩ := he
  obtain ⟨request, hliving⟩ := halive.living i hi
  have hp := phase_of_waiting hliving.coherent hwaiting
  obtain ⟨r, c, hw⟩ := hliving.coherent.waiting hp
  have hfresh : ActiveMessage.Fresh _ ((cm.messages i).startedDecoder cfg) :=
    fresh_startedDecoder hk.init hw
  obtain ⟨metadata, hm, -, hid⟩ := hliving.metadata
  have hsent : upstreamSent cfg i request (es ++ [.upstreamData i data endStream]) =
      upstreamSent cfg i request es ++ data := by
    rw [upstreamSent_concat, show (Event.upstreamData i data endStream).sent i = data from
      if_pos rfl]
  have hround := (hall.waiting hfault i request hliving.decoded hp).2 data
  have hcomplete := Stream.status_upstreamData_iff hk hc (s := cm.stream i) hm hliving.coherent
    trivial hw hp (cm.upstreamBuffer i ++ data)
  rw [leavesNothing_upstreamData hw hfresh.ready]
  constructor
  · intro hempty hopen request' hrequest response frame rest hframe hwhole htype hresponse
    obtain rfl : request = request' := Option.some.inj (hliving.decoded.symm.trans hrequest)
    obtain ⟨s, hemit⟩ := hf.emit hwhole rest
    rw [← hframe, hsent, ← hround] at hemit
    obtain ⟨hdone, -, hrest⟩ := Codec.round_emit_iff.mp hemit
    rw [← hrest]
    exact hempty (hcomplete.mpr ⟨hopen, response, hdone, htype, hresponse.trans hid.symm⟩)
  · intro hends hstatus
    obtain ⟨hopen, response, hdone, htype, hresponse⟩ := hcomplete.mp hstatus
    have hemit := Codec.round_emit_iff.mpr ⟨hdone, rfl, rfl⟩
    obtain ⟨frame, hframe, hwhole⟩ := hf.whole (hround.symm.trans hemit)
    exact hends hopen request hliving.decoded response frame _ (hsent.trans hframe) hwhole htype
      (hresponse.trans hid)

/-- Over a run of which every connection comes back empty, nothing is sent behind a response. -/
theorem always_leavesNothing_iff {J fresh : σ → Prop} (hf : cfg.codec.Framing J fresh)
    (hc : cfg.RouterOnly) {es : List Event} (h : (system cfg).Admissible (new cfg) es) :
    (system cfg).Always (fun cm => cm.LeavesNothing cfg) (new cfg) es ↔
      SendsNothingBehind cfg es := by
  rw [Transition.always_iff_forall]
  have hbegins : ∀ {es₁ e es₂}, es = es₁ ++ e :: es₂ →
      (system cfg).Admissible (new cfg) (es₁ ++ [e]) := by
    rintro es₁ e es₂ rfl
    rw [List.append_cons] at h
    exact (Transition.admissible_append.mp h).1
  constructor
  · intro hleaves es₁ i data endStream es₂ hes
    exact (leavesNothing_iff hf hc (hbegins hes)).mp (hleaves es₁ _ es₂ hes)
  · intro hends es₁ e es₂ hes
    cases e with
    | upstreamData i data endStream =>
      exact (leavesNothing_iff hf hc (hbegins hes)).mpr (hends es₁ i data endStream es₂ hes)
    | _ => exact trivial

/-! ## The next request on a connection -/

/-- A connection is lent with these bytes in its buffer. -/
def Lends (cfg : Config σ) (cm : ConnectionManager σ) (e : Event) (leftover : Bytes) : Prop :=
  (∃ i host, e = .poolReady i host leftover) ∨
    ∃ i request host, cm.created ≤ i ∧ (cm.step cfg e).requests[i]? = some request ∧
      cfg.pool i request = some (.ready host leftover)

/-- What is left in the buffer of a connection stays there : a connection is lent without bytes, or
with those with which it was given back, by an upstream that had not ended its data. -/
def PoolKeeps (cfg : Config σ) (es : List Event) : Prop :=
  ∀ es₁ e es₂ leftover, es = es₁ ++ e :: es₂ →
    ((system cfg).run (new cfg) es₁).Lends cfg e leftover →
      leftover = [] ∨ ∃ es₃ i data es₄, es₁ = es₃ ++ .upstreamData i data false :: es₄ ∧
        ∃ c ∈ ((system cfg).run (new cfg) es₃).givenBack cfg i (.upstreamData i data false),
          c.buffer = leftover

/-- The bytes that an event brings from the upstream behind the request of a message. -/
def Event.upstreamBytes (i : ℕ) : Event → Bytes
  | .upstreamData j data _ => if j = i then data else []
  | _ => []

/-- Every answer that is forwarded is what the codec reads from the bytes that the upstream has sent
since the request was written. -/
def Independent (cfg : Config σ) (es : List Event) : Prop :=
  ∀ w ∈ ((system cfg).run (new cfg) es).downstream.written, ∀ i response, w.message = some i →
    w.reply = .upstreamResponse response → w.bytes = response.originMessage ∧
      ∃ s rest, cfg.codec.round cfg.codec.init (es.flatMap (Event.upstreamBytes i)) =
        .emit response s rest

/-- Where no connection comes back with bytes, none is lent with bytes. -/
theorem lends_nothing {es : List Event} (h : (system cfg).Admissible (new cfg) es)
    (hleaves : (system cfg).Always (fun cm => cm.LeavesNothing cfg) (new cfg) es)
    (hpool : PoolKeeps cfg es) {es₁ es₂ : List Event} {e : Event} {leftover : Bytes}
    (hes : es = es₁ ++ e :: es₂) (hlends : ((system cfg).run (new cfg) es₁).Lends cfg e leftover) :
    leftover = [] := by
  obtain rfl | ⟨es₃, i, data, es₄, rfl, c, hc, rfl⟩ := hpool es₁ e es₂ leftover hes hlends
  · rfl
  have hes' : es = es₃ ++ .upstreamData i data false :: (es₄ ++ e :: es₂) := by
    rw [hes, List.append_assoc, List.cons_append]
  have hhere := Transition.always_iff_forall.mp hleaves es₃ _ _ hes'
  obtain ⟨-, -, -, hwaiting⟩ := Transition.always_iff_forall.mp h es₃ _ _ hes'
  generalize (system cfg).run (new cfg) es₃ = cm at hc hhere hwaiting
  obtain ⟨connection, hconnection, -⟩ := (Option.any_eq_true _ _).mp hwaiting
  obtain ⟨r, hr, -⟩ := Option.bind_eq_some_iff.mp hconnection
  by_cases hcomplete : cm.responseStatus cfg i data = .complete
  · exact hhere hcomplete c hc
  · have hmessage : ((cm.step cfg (.upstreamData i data false)).messages i) =
        ((cm.stream i).onUpstreamData cfg (cm.upstreamBuffer i ++ data) false).message :=
      Function.update_self _ _ _
    unfold givenBack at hc
    rw [hmessage, Stream.returned_onUpstreamData_of_ne cfg _ (s := cm.stream i) hr hcomplete] at hc
    simp [stream] at hc

/-- Where no connection is lent with bytes, all that has come for a request has come behind it. -/
theorem upstreamSent_eq (hc : cfg.RouterOnly) {es : List Event}
    (h : (system cfg).Admissible (new cfg) es)
    (hnothing : ∀ {es₁ e es₂ leftover}, es = es₁ ++ e :: es₂ →
      ((system cfg).run (new cfg) es₁).Lends cfg e leftover → leftover = [])
    {i : ℕ} {request : Metadata}
    (hi : ((system cfg).run (new cfg) es).requests[i]? = some request) :
    upstreamSent cfg i request es = es.flatMap (Event.upstreamBytes i) := by
  have hleftover : cfg.leftover i request = [] := by
    by_cases hready : ∃ host leftover, cfg.pool i request = some (.ready host leftover)
    swap
    · exact Config.leftover_of_ne fun host leftover hpool => hready ⟨host, leftover, hpool⟩
    obtain ⟨host, leftover, hpool⟩ := hready
    rw [Config.leftover_of_ready hpool]
    obtain ⟨es₁, e, es₂, hes, hnot, hsince⟩ := Transition.exists_since
      (P := fun cm : ConnectionManager σ => cm.requests[i]? = some request)
      (S := system cfg) (s := new cfg) (by rintro ⟨⟩) es hi
    have hhere := hsince [] es₂ rfl
    rw [Transition.run_append] at hhere
    have hes' := hes ▸ h
    obtain ⟨hes₁, he, -⟩ := Transition.admissible_append.mp hes'
    have hk := Codec.keeps_true cfg.codec
    have hlived := lived_step hk hc (alive_run hk hc hes₁) he
    refine hnothing hes (Or.inr ⟨i, request, host, Nat.not_lt.mp fun hlt => hnot ?_, hhere, hpool⟩)
    exact (hlived.reads.requests i hlt).symm.trans hhere
  unfold upstreamSent
  rw [hleftover, List.nil_append]
  refine List.flatMap_congr fun e he => ?_
  cases e with
  | poolReady j host leftover =>
    obtain ⟨es₁, es₂, hes⟩ := List.append_of_mem he
    obtain rfl := hnothing hes (Or.inl ⟨j, host, rfl⟩)
    exact ite_self _
  | _ => rfl

/-- With a codec that does not see where its input is cut, and with the router as the only filter,
over every order of the events and every chunking of what the upstreams send : no connection comes
back to the pool with bytes, and every answer is read from what its upstream has sent since the
request was written, exactly if no upstream sends anything behind the response to its request. -/
theorem returned_empty_iff {J fresh : σ → Prop} (hf : cfg.codec.Framing J fresh)
    (hc : cfg.RouterOnly) {es : List Event} (h : (system cfg).Admissible (new cfg) es)
    (hpool : PoolKeeps cfg es) :
    ((system cfg).Always (fun cm => cm.LeavesNothing cfg) (new cfg) es ∧ Independent cfg es) ↔
      SendsNothingBehind cfg es := by
  rw [← always_leavesNothing_iff hf hc h]
  refine ⟨And.left, fun hleaves => ⟨hleaves, fun w hw i response hi hreply => ?_⟩⟩
  have hall := relayed_all (hearing_of_cuttable hf.cuttable hf.init) hc h
  obtain ⟨request, hrequest, horigin, s, rest, hround⟩ := hall.answers w hw i response hi hreply
  refine ⟨horigin, s, rest, ?_⟩
  rw [← upstreamSent_eq hc h (lends_nothing h hleaves hpool) hrequest]
  exact hround

/-! ## Dubbo -/

section Dubbo

open Dubbo.DubboCodec (State Sound Hungry hungry_none splittable_round restarts_round)

/-- The Dubbo codec reads frames. -/
theorem framing_dubbo {hessian : Dubbo.Hessian2} (hl : hessian.Local) :
    (Dubbo.DubboCodec.codec hessian).Framing (fun s => Sound s ∧ Hungry s) fun _ => True where
  cuttable := (splittable_round hl).cuttable
  init := ⟨.idle, hungry_none⟩
  whole {input message s rest} h := by
    obtain ⟨-, -, hall, hreads⟩ := ((restarts_round hessian).stands input).emit
      (splittable_round hl) (restarts_round hessian) ⟨.idle, hungry_none⟩ h
    exact ⟨message.originMessage, hall.symm, none, hreads.2⟩

/-- A proxy whose second request gets the connection of the first, with the response that the
upstream had sent on it. -/
def reusing : Config State :=
  dubboConfig .compact (fun _ _ => some ⟨"cluster"⟩) fun message _ =>
    some { maintenanceMode := false
           tcpConnPool :=
             some (.ready "host" (if message = 0 then [] else DubboExample.response 2)) }

/-- The upstream sends two responses for the first request. -/
def twoResponses : List Event :=
  [.downstreamData (DubboExample.request 1) false,
    .upstreamData 0 (DubboExample.response 1 ++ DubboExample.response 2) false,
    .downstreamData (DubboExample.request 2) false, .upstreamData 1 [] false]

/-- The bytes behind the first response are still there when the connection is lent again. -/
theorem poolKeeps_twoResponses : PoolKeeps reusing twoResponses := by
  intro es₁ e es₂ leftover hes hlends
  obtain ⟨i, host, rfl⟩ | ⟨i, request, host, -, hrequest, hpool⟩ := hlends
  · have hmem : Event.poolReady i host leftover ∈ twoResponses := by simp [hes]
    simp [twoResponses] at hmem
  have hleftover : leftover = if i = 0 then [] else DubboExample.response 2 := by
    injection Option.some.inj hpool with _ hleftover
    exact hleftover.symm
  by_cases hi : i = 0
  · exact Or.inl (hleftover.trans (if_pos hi))
  refine Or.inr ⟨[.downstreamData (DubboExample.request 1) false], 0,
    DubboExample.response 1 ++ DubboExample.response 2, es₁.drop 2, ?_, ?_⟩
  · obtain ⟨hlt, -⟩ := List.getElem?_eq_some_iff.mp hrequest
    rcases es₁ with _ | ⟨e₁, _ | ⟨e₂, es⟩⟩
    · injection hes with he
      subst he
      have hone : ((new reusing).step reusing
        (.downstreamData (DubboExample.request 1) false)).requests.length = 1 := by decide +kernel
      exact absurd (hone ▸ hlt) (by omega)
    · injection hes with he₁ hes
      injection hes with he
      subst he₁ he
      have hone : (((system reusing).run (new reusing)
          [.downstreamData (DubboExample.request 1) false]).step reusing
            (.upstreamData 0 (DubboExample.response 1 ++ DubboExample.response 2)
              false)).requests.length = 1 := by
        decide +kernel
      exact absurd (hone ▸ hlt) (by omega)
    · injection hes with he₁ hes
      injection hes with he₂ hes
      subst he₁ he₂
      rfl
  · have hgiven : (((system reusing).run (new reusing)
        [.downstreamData (DubboExample.request 1) false]).givenBack reusing 0
          (.upstreamData 0 (DubboExample.response 1 ++ DubboExample.response 2) false)).map
        (·.buffer) = [DubboExample.response 2] := by
      decide +kernel
    obtain ⟨c, hc, hbuffer⟩ := List.mem_map.mp (hgiven ▸ List.mem_singleton_self _)
    exact ⟨c, hc, hbuffer.trans (hleftover.trans (if_neg hi)).symm⟩

theorem returned_empty_twoResponses :
    ((system reusing).Always (fun cm => cm.LeavesNothing reusing) (new reusing) twoResponses ∧
      Independent reusing twoResponses) ↔ SendsNothingBehind reusing twoResponses :=
  returned_empty_iff (framing_dubbo Dubbo.Hessian2.compact_local) ⟨rfl, rfl⟩ (by decide +kernel)
    poolKeeps_twoResponses

/-- The connection comes back with the second response, and that is the answer of the next
request. -/
theorem not_returned_empty_twoResponses :
    (system reusing).Admissible (new reusing) twoResponses ∧
      ¬(system reusing).Always (fun cm => cm.LeavesNothing reusing) (new reusing) twoResponses ∧
      (((system reusing).run (new reusing) twoResponses).messages 0).router.returned.map
        (·.buffer) =
        [DubboExample.response 2] ∧
      (((system reusing).run (new reusing) twoResponses).downstream.answers 1).map (·.bytes) =
        [DubboExample.response 2] ∧
      twoResponses.flatMap (Event.upstreamBytes 1) = [] := by
  decide +kernel

end Dubbo

end ConnectionManager

end MetaProtocolProxy

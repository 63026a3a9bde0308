import MetaProtocolProxy.LocalReply
import MetaProtocolProxy.NextHop
import MetaProtocolProxy.Rejection

/-!
# The way of a response

A response comes in chunks, some of which may have come before its request was written, and is read
by a decoder of its own, started with the first chunk. Between the chunks that decoder stands where
one stands that is given everything at once (`Hears`), so what is forwarded to the client is the
frame that is in front of all the upstream has sent for the request, byte for byte
(`relayed_run`).
-/

namespace MetaProtocolProxy

variable {σ : Type} {cfg : Config σ} {I : σ → Prop} {R : Metadata → Prop}

/-- What is left in the buffer of the connection that a message gets at once. -/
def Config.leftover (cfg : Config σ) (i : ℕ) (request : Metadata) : Bytes :=
  match cfg.pool i request with
  | some (.ready _ leftover) => leftover
  | _ => []

theorem Config.leftover_of_ready {i : ℕ} {request : Metadata} {host : Host} {leftover : Bytes}
    (h : cfg.pool i request = some (.ready host leftover)) : cfg.leftover i request = leftover := by
  unfold Config.leftover
  rw [h]

theorem Config.leftover_of_ne {i : ℕ} {request : Metadata}
    (h : ∀ host leftover, cfg.pool i request ≠ some (.ready host leftover)) :
    cfg.leftover i request = [] := by
  unfold Config.leftover
  split
  · exact absurd ‹_› (h _ _)
  · rfl

namespace ActiveMessage

/-- What is in the buffer of the connection of a message. -/
def upstreamBuffer (m : ActiveMessage σ) : Bytes :=
  (m.router.upstreamRequest.bind (·.connData)).elim [] (·.buffer)

/-- Nothing of a response has been read, and `leftover` is there to be read. -/
structure Unheard (leftover : Bytes) (m : ActiveMessage σ) : Prop where
  responseDecoder : m.responseDecoder = none
  upstreamBuffer : m.upstreamBuffer = leftover

/-- The response decoder of a message that waits, which may have to be started. -/
def startedDecoder (cfg : Config σ) (m : ActiveMessage σ) : ActiveResponseDecoder σ :=
  m.responseDecoder.getD { codec := cfg.codec.init }

end ActiveMessage

namespace Stream

open ActiveMessage (Unheard)

variable {leftover : Bytes}

/-! ## Before the first chunk -/

theorem unheard_onRequest {s : Stream σ} (h : s.message.Unheard leftover)
    {f : UpstreamRequest → UpstreamRequest}
    (hf : ∀ r, (f r).connData.elim [] (·.buffer) = r.connData.elim [] (·.buffer)) :
    (s.onRequest f).message.Unheard leftover := by
  refine ⟨h.responseDecoder, Eq.trans ?_ h.upstreamBuffer⟩
  unfold ActiveMessage.upstreamBuffer onRequest onRouter onMessage
  cases hr : s.message.router.upstreamRequest with
  | none => simp [hr]
  | some r => simpa [hr] using hf r

/-- The request is written, and the buffer stays as it is. -/
theorem unheard_encodeData {s : Stream σ} (h : s.message.Unheard leftover) :
    s.onRequestComplete.encodeData.message.Unheard leftover := by
  have hcomplete : s.onRequestComplete.message.Unheard leftover := unheard_onRequest h fun _ => rfl
  unfold encodeData
  split
  · exact ⟨hcomplete.responseDecoder, hcomplete.upstreamBuffer⟩
  · have hwritten := unheard_onRequest hcomplete (f := fun r =>
      { r with connData := r.connData.map fun c =>
          { c with written := if c.isOpen then
              c.written ++ [s.onRequestComplete.message.router.upstreamRequestBuffer]
            else c.written } }) fun r => by cases r.connData <;> rfl
    exact ⟨hwritten.responseDecoder, hwritten.upstreamBuffer⟩

/-- A connection of the pool. -/
theorem unheard_onPoolReadyConnection {s : Stream σ} (hr : s.message.router.upstreamRequest.isSome)
    (hdecoder : s.message.responseDecoder = none) (host : Host) (leftover : Bytes) :
    (s.onPoolReadyConnection host leftover).message.Unheard leftover := by
  obtain ⟨r, hr⟩ := Option.isSome_iff_exists.mp hr
  refine ⟨hdecoder, ?_⟩
  simp [onPoolReadyConnection, onUpstreamHostSelected, onRequest, onRouter, onMessage, hr,
    ActiveMessage.upstreamBuffer]

theorem unheard_finalizeRequest {s : Stream σ} (h : s.message.Unheard leftover) :
    (s.onMessage fun m => { m with filterAction := false }).finalizeRequest.message.Unheard
      leftover := by
  rw [message_finalizeRequest]
  exact ⟨h.responseDecoder, h.upstreamBuffer⟩

/-- A message that gets its connection at once. -/
theorem unheard_onStreamDecoded (hc : cfg.RouterOnly) {i : ℕ} {metadata : Metadata} {host : Host}
    (hpool : cfg.pool i metadata = some (.ready host leftover)) (d : Downstream σ) :
    ((⟨{ id := i }, d⟩ : Stream σ).onStreamDecoded cfg metadata).message.Unheard leftover := by
  have hspec := routerOnMessageDecoded_spec cfg (s := born i metadata d) rfl rfl
  rw [show (born i metadata d).message.id = i from rfl, hpool] at hspec
  replace hspec : (born i metadata d).routerOnMessageDecoded cfg =
    (requested cfg i metadata d).startRequest cfg (.ready host leftover) := hspec
  rw [onStreamDecoded_eq hc hspec]
  exact unheard_finalizeRequest (unheard_encodeData (unheard_onPoolReadyConnection rfl rfl host
    leftover))

/-! ## A chunk -/

/-- A chunk that completes nothing : the response decoder keeps its codec, and the connection what
the codec has left. -/
theorem onUpstreamData_more {s : Stream σ} {r : UpstreamRequest} {c : UpstreamConnection}
    (hw : s.message.Waits I r c) (hready : (s.message.startedDecoder cfg).decoder.Ready)
    (hstatus : (s.message.startedDecoder cfg).responseStatus = .moreData) {data : Bytes}
    (hwait : (cfg.codec.decode (s.message.startedDecoder cfg).codec data).status = .waitForData) :
    ((s.onUpstreamData cfg data false).message.startedDecoder cfg).codec =
        (cfg.codec.decode (s.message.startedDecoder cfg).codec data).codec ∧
      (s.onUpstreamData cfg data false).message.upstreamBuffer =
        (cfg.codec.decode (s.message.startedDecoder cfg).codec data).buffer := by
  have hstart := startResponse_eq cfg hw
  have hd : (s.startResponse cfg).message.responseDecoder =
      some (s.message.startedDecoder cfg) := by
    rw [hstart]
    rfl
  obtain ⟨decoder, hdecode, -⟩ := DecoderBase.decode_of_ready hready cfg.codec
    (s.message.startedDecoder cfg).codec data
  rw [hwait] at hdecode
  have hmore := upstreamData_more hd hstatus hdecode (by rintro _ ⟨⟩) (by rintro _ ⟨⟩)
  rw [onUpstreamData_eq hw.request hmore false, hstart]
  simp [settle, leaveUpstreamData, onResponseDecoder, onRequest, onRouter, onMessage, alarmed,
    onDownstream, DecodeStatus.decoded, Decoded.alarm, ActiveMessage.startedDecoder,
    ActiveMessage.upstreamBuffer, hw.connData]

/-- What is written for a response is the response that was decoded. -/
theorem written_onResponseDecoded (hc : cfg.RouterOnly) (response : Metadata) {s : Stream σ}
    {r : UpstreamRequest} {c : UpstreamConnection} (hh : s.message.Holds r c)
    (hd : s.message.responseDecoder.isSome) {w : Write}
    (hmem : w ∈ (s.onResponseDecoded cfg response).2.downstream.written) :
    w ∈ s.downstream.written ∨
      w = ⟨some s.message.id, .upstreamResponse response, response.originMessage, false⟩ := by
  obtain ⟨encoderCalls, hencode⟩ := encodeResponse_eq hc response hh
  obtain ⟨decoder, hd⟩ := Option.isSome_iff_exists.mp hd
  have hassert : (s.downstream.assert
      (response.messageType = .response ∨ response.messageType = .error)
      "ASSERT(Response || Error)").written = s.downstream.written := by
    unfold Downstream.assert
    split <;> rfl
  unfold onResponseDecoded at hmem
  rw [hencode] at hmem
  dsimp only at hmem
  rw [if_neg (by simp), hd] at hmem
  split at hmem
  · exact Or.inl (hassert ▸ hmem)
  · simp only [onResponseDecoder, onMessage, written_countResponse, forwardResponse, onDownstream,
      Downstream.write, hassert, Option.map_some, Option.bind_some, Option.getD_some,
      List.mem_append, List.mem_singleton] at hmem
    exact hmem

/-- The response that is written for a message is the one that the chunk completes. -/
theorem mem_written_onUpstreamData (hc : cfg.RouterOnly) {s : Stream σ} {r : UpstreamRequest}
    {c : UpstreamConnection} (hw : s.message.Waits I r c)
    (hready : (s.message.startedDecoder cfg).decoder.Ready) {data : Bytes} {endStream : Bool}
    {w : Write} (hmem : w ∈ (s.onUpstreamData cfg data endStream).downstream.written)
    {response : Metadata} (hreply : w.reply = .upstreamResponse response) :
    w ∈ s.downstream.written ∨
      (cfg.codec.decode (s.message.startedDecoder cfg).codec data).status = .done response ∧
        w = ⟨some s.message.id, .upstreamResponse response, response.originMessage, false⟩ := by
  have hsome : s.message.router.upstreamRequest.isSome := by rw [hw.request]; rfl
  have hlocal : ∀ {t u : Stream σ}, Quiet t u → w ∈ u.downstream.written →
      w ∈ t.downstream.written := by
    intro t u hquiet hu
    obtain ⟨ws, hws, hall⟩ := hquiet.written
    rw [hws] at hu
    rcases List.mem_append.mp hu with hu | hu
    · exact hu
    · obtain ⟨-, error, herror⟩ := hall w hu
      cases herror.symm.trans hreply
  have hstart := startResponse_eq cfg hw
  have hd : (s.startResponse cfg).message.responseDecoder =
      some (s.message.startedDecoder cfg) := by
    rw [hstart]
    rfl
  obtain ⟨decoder, hdecode, -⟩ := DecoderBase.decode_of_ready hready cfg.codec
    (s.message.startedDecoder cfg).codec data
  replace hmem := hlocal ((upstreamData_quiet cfg data _).trans
    (onUpstreamData_quiet cfg data endStream hsome)) hmem
  have hfirst : w ∈ (s.startResponse cfg).downstream.written → w ∈ s.downstream.written :=
    hlocal (quiet_startResponse cfg s)
  have hid : (s.startResponse cfg).message.id = s.message.id := by rw [hstart]
  have hholds : (s.startResponse cfg).message.Holds { r with responseStarted := true } c := by
    rw [hstart]
    exact ⟨rfl, hw.connPoolHandle, hw.connData, hw.isOpen, hw.upstreamHost, hw.responseComplete,
      hw.streamReset⟩
  generalize s.startResponse cfg = t at hd hmem hfirst hid hholds
  obtain ⟨u, hu⟩ : ∃ u, u = t.onResponseDecoder fun d =>
      { d with
        decoder, codec := (cfg.codec.decode (s.message.startedDecoder cfg).codec data).codec } :=
    ⟨_, rfl⟩
  have hut : w ∈ u.downstream.written → w ∈ t.downstream.written := by rw [hu]; exact id
  unfold responseDecoderOnData at hmem
  rw [hd] at hmem
  dsimp only at hmem
  rw [hdecode] at hmem
  dsimp only at hmem
  rw [← hu] at hmem
  cases hstatus : (cfg.codec.decode (s.message.startedDecoder cfg).codec data).status with
  | waitForData =>
    rw [hstatus] at hmem
    exact Or.inl (hfirst (hut hmem))
  | throw fault =>
    rw [hstatus] at hmem
    cases fault with
    | exception what => exact Or.inl (hfirst (hut hmem))
    | panic site => exact Or.inl (hfirst (hut hmem))
  | done metadata =>
    rw [hstatus] at hmem
    by_cases hheartbeat : metadata.messageType = .heartbeat
    · rw [show (DecodeStatus.done metadata).decoded = .heartbeat metadata from
        if_pos hheartbeat] at hmem
      exact Or.inl (hfirst (hut hmem))
    · rw [show (DecodeStatus.done metadata).decoded = .stream metadata from
        if_neg hheartbeat] at hmem
      dsimp only at hmem
      have hdecoded : w ∈ (u.onResponseDecoded cfg metadata).2.downstream.written := by
        generalize u.onResponseDecoded cfg metadata = result at hmem ⊢
        obtain ⟨_ | ex, v⟩ := result
        · exact hlocal (quiet_responseDecoded _ v) hmem
        · exact hmem
      rcases written_onResponseDecoded hc metadata (r := { r with responseStarted := true })
        (c := c) (by
          rw [hu]
          exact ⟨hholds.request, hholds.connPoolHandle, hholds.connData, hholds.isOpen,
            hholds.upstreamHost, hholds.responseComplete, hholds.streamReset⟩)
        (by rw [hu]; simp [onResponseDecoder, onMessage, hd]) hdecoded with hold | rfl
      · exact Or.inl (hfirst (hut hold))
      · cases hreply
        refine Or.inr ⟨rfl, ?_⟩
        rw [hu, ← hid]
        rfl

end Stream

namespace ConnectionManager

/-! ## New messages -/

/-- Behind the first `n` messages, which are those of `f`, every message that has got its connection
at once has seen nothing of its response. -/
structure Bears (cfg : Config σ) (n : ℕ) (f : ℕ → ActiveMessage σ) (cm : ConnectionManager σ) :
    Prop where
  requests : cm.requests.length = cm.created
  created : n ≤ cm.created
  messages : ∀ i < n, cm.messages i = f i
  newborn : ∀ i, n ≤ i → ∀ request, cm.requests[i]? = some request → ∀ host leftover,
    cfg.pool i request = some (.ready host leftover) → (cm.messages i).Unheard leftover

section Bears

variable {n : ℕ} {f : ℕ → ActiveMessage σ} {cm cm' : ConnectionManager σ}

theorem bears_refl (cfg : Config σ) (h : cm.requests.length = cm.created) :
    cm.Bears cfg cm.created cm.messages := by
  refine ⟨h, Nat.le_refl _, fun _ _ => rfl, fun i hi request hrequest => ?_⟩
  have hlt := (List.getElem?_eq_some_iff.mp hrequest).1
  omega

theorem Bears.of_eq (h : cm.Bears cfg n f) (hmessages : cm'.messages = cm.messages)
    (hcreated : cm'.created = cm.created) (hrequests : cm'.requests = cm.requests) :
    cm'.Bears cfg n f := by
  obtain ⟨hlength, hn, hold, hnew⟩ := h
  exact ⟨by rw [hrequests, hcreated, hlength], hcreated ▸ hn, hmessages ▸ hold,
    hmessages ▸ hrequests ▸ hnew⟩

theorem Bears.newStream (hc : cfg.RouterOnly) (h : cm.Bears cfg n f) (metadata : Metadata) :
    (cm.newStream cfg metadata).Bears cfg n f := by
  have hrequests : (cm.newStream cfg metadata).requests = cm.requests ++ [metadata] := by
    rw [newStream_eq]
    simp [ConnectionManager.requests]
  have hcreated : (cm.newStream cfg metadata).created = cm.created + 1 := by rw [newStream_eq]
  have hother : ∀ {i}, i ≠ cm.created →
      (cm.newStream cfg metadata).messages i = cm.messages i := fun hne => by
    rw [newStream_eq]
    exact Function.update_of_ne hne _ _
  refine ⟨?_, ?_, fun i hi => ?_, fun i hi request hrequest host leftover hpool => ?_⟩
  · rw [hrequests, hcreated, List.length_append, h.requests, List.length_singleton]
  · have hn := h.created
    omega
  · rw [hother (by have hn := h.created; omega)]
    exact h.messages i hi
  · rw [hrequests] at hrequest
    by_cases hne : i = cm.created
    · subst hne
      rw [List.getElem?_append_right (Nat.le_of_eq h.requests), h.requests,
        Nat.sub_self] at hrequest
      obtain rfl : metadata = request := Option.some.inj hrequest
      rw [newStream_eq]
      dsimp only
      rw [Function.update_self]
      exact Stream.unheard_onStreamDecoded hc hpool _
    · have hlength := (List.getElem?_eq_some_iff.mp hrequest).1
      rw [List.length_append, h.requests, List.length_singleton] at hlength
      rw [List.getElem?_append_left (by rw [h.requests]; omega)] at hrequest
      rw [hother hne]
      exact h.newborn i hi request hrequest host leftover hpool

theorem Bears.onHeartbeat (h : cm.Bears cfg n f) (metadata : Metadata) :
    (cm.onHeartbeat cfg metadata).2.Bears cfg n f := by
  obtain ⟨ws, hcm, -⟩ := onHeartbeat_spec cfg metadata cm
  rw [hcm]
  exact h.of_eq rfl rfl (by simp [ConnectionManager.requests])

theorem Bears.turn (hc : cfg.RouterOnly) (h : cm.Bears cfg n f) {again : Bool}
    (hturn : Turn cfg cm cm' again) : cm'.Bears cfg n f := by
  have hread : (cm.decode cfg).1.Bears cfg n f := h.of_eq rfl rfl rfl
  cases hturn with
  | wait => exact hread
  | error => exact hread.of_eq rfl rfl rfl
  | panic => exact hread.of_eq rfl rfl rfl
  | stream => exact (hread.newStream hc _).of_eq rfl rfl rfl
  | heartbeat => exact (hread.onHeartbeat _).of_eq rfl rfl rfl
  | heartbeatError => exact (hread.onHeartbeat _).of_eq rfl rfl rfl
  | heartbeatPanic => exact (hread.onHeartbeat _).of_eq rfl rfl rfl

theorem Bears.dispatch (hc : cfg.RouterOnly) (h : cm.Bears cfg n f) :
    (cm.dispatch cfg).Bears cfg n f :=
  dispatch_rule id (fun h hturn => h.turn hc hturn) (fun h hturn => h.turn hc hturn) h

theorem Bears.after (h : cm.Bears cfg n f) (ha : AfterDispatch cm cm') : cm'.Bears cfg n f := by
  cases ha <;> exact h.of_eq rfl rfl rfl

theorem Bears.onData (hc : cfg.RouterOnly) (h : cm.Bears cfg n f) (data : Bytes)
    (endStream : Bool) : (cm.onData cfg data endStream).Bears cfg n f := by
  have hbuffer : ({ cm with requestBuffer := cm.requestBuffer ++ data }).Bears cfg n f :=
    h.of_eq rfl rfl rfl
  exact (hbuffer.dispatch hc).after (onData_after cfg data endStream cm)

theorem Bears.continueDecoding (hc : cfg.RouterOnly) (h : cm.Bears cfg n f) :
    (cm.continueDecoding cfg).Bears cfg n f := by
  have hgo : ({ cm with stopped := false }).Bears cfg n f := h.of_eq rfl rfl rfl
  exact (hgo.dispatch hc).after (continueDecoding_after cfg cm)

theorem Bears.setStream (h : cm.Bears cfg n f) {i : ℕ} (hi : i < n) (s : Stream σ) :
    (cm.setStream i s).Bears cfg n (Function.update f i s.message) := by
  refine ⟨h.requests, h.created, fun j hj => ?_,
    fun j hj request hrequest host leftover hpool => ?_⟩
  · unfold ConnectionManager.setStream
    dsimp only
    by_cases hji : j = i
    · rw [hji, Function.update_self, Function.update_self]
    · rw [Function.update_of_ne hji, Function.update_of_ne hji]
      exact h.messages j hj
  · have hother : (cm.setStream i s).messages j = cm.messages j :=
      Function.update_of_ne (by omega) _ _
    rw [hother]
    exact h.newborn j hj request hrequest host leftover hpool

theorem Bears.continueMessage (hc : cfg.RouterOnly) (h : cm.Bears cfg n f) {i : ℕ} (hi : i < n)
    (position : ℕ) : (cm.continueMessage cfg i position).Bears cfg n
      (Function.update f i ((cm.stream i).continueDecoding cfg position).2.message) := by
  unfold ConnectionManager.continueMessage
  generalize (cm.stream i).continueDecoding cfg position = r
  obtain ⟨_ | _, s⟩ := r
  · exact h.setStream hi s
  · exact (h.setStream hi s).continueDecoding hc

/-- No event makes a message that has seen something of its response. -/
theorem bears_step (hc : cfg.RouterOnly) (h : cm.requests.length = cm.created) {e : Event}
    (he : cm.Enabled cfg e) : ∃ f, (step cfg cm e).Bears cfg cm.created f := by
  have hcm := bears_refl cfg h
  obtain ⟨-, hpermitted⟩ := he
  cases e with
  | downstreamData data endStream => exact ⟨_, hcm.onData hc data endStream⟩
  | downstreamClose event => exact ⟨_, hcm.of_eq rfl rfl rfl⟩
  | poolReady i host leftover =>
    exact ⟨_, ((hcm.setStream hpermitted.1 _).continueMessage hc hpermitted.1 _).setStream
      hpermitted.1 _⟩
  | poolFailure i reason host =>
    unfold step onPoolFailure
    cases reason with
    | overflow => exact ⟨_, hcm.setStream hpermitted.1 _⟩
    | _ => exact ⟨_, (hcm.setStream hpermitted.1 _).continueMessage hc hpermitted.1 _⟩
  | continueDecoding i position => exact ⟨_, hcm.continueMessage hc hpermitted.1 position⟩
  | upstreamData i data endStream => exact ⟨_, hcm.setStream hpermitted.1 _⟩
  | upstreamClose i event => exact ⟨_, hcm.setStream hpermitted.1 _⟩
  | continueEncoding i position => exact ⟨_, hcm.setStream hpermitted.1 _⟩
  | release i => exact ⟨_, hcm.setStream hpermitted.1 _⟩

/-- A message that gets its connection has seen nothing of its response. -/
theorem unheard_onPoolReady (hc : cfg.RouterOnly) (h : cm.requests.length = cm.created) {i : ℕ}
    (hi : i < cm.created) {o : Bytes} {metadata : Metadata}
    (hm : (cm.messages i).metadata = some metadata) (hs : (cm.messages i).Coherent I R o)
    (hp : (cm.messages i).phase = .pooling) (host : Host) (leftover : Bytes) :
    ((cm.onPoolReady cfg i host leftover).messages i).Unheard leftover := by
  obtain ⟨r, hpools⟩ := hs.pooling hp
  have hready := Stream.unheard_onPoolReadyConnection (s := cm.stream i)
    (Option.isSome_iff_exists.mpr ⟨r, hpools.request⟩) hpools.responseDecoder host leftover
  have hcontinue := Stream.continueDecoding_eq hc
    (s := (cm.stream i).onPoolReadyConnection host leftover) hm (hpools.originMessage metadata hm)
    hpools.filterAction hpools.pendingStreamDecoded
  have hgoes := ((bears_refl cfg h).setStream hi
    ((cm.stream i).onPoolReadyConnection host leftover)).continueMessage hc hi 0
  rw [stream_setStream, hcontinue] at hgoes
  have hmessage := hgoes.messages i hi
  rw [Function.update_self] at hmessage
  unfold onPoolReady
  rw [routerPosition_eq hc]
  unfold onStream
  dsimp only
  generalize ((cm.setStream i ((cm.stream i).onPoolReadyConnection host leftover)
    ).continueMessage cfg i 0) = cm₁ at hmessage ⊢
  have hunheard : (cm₁.stream i).message.Unheard leftover := by
    rw [show (cm₁.stream i).message = _ from hmessage]
    exact Stream.unheard_finalizeRequest hready
  have hwritten := Stream.unheard_encodeData hunheard
  unfold setStream
  dsimp only
  rwa [Function.update_self]

end Bears

/-! ## What an upstream has sent -/

/-- The bytes an event brings from the upstream of a message. -/
def Event.sent (i : ℕ) : Event → Bytes
  | .poolReady j _ leftover => if j = i then leftover else []
  | .upstreamData j data _ => if j = i then data else []
  | _ => []

theorem Event.sent_of_ne {e : Event} {i : ℕ} (h : e.message ≠ some i) : e.sent i = [] := by
  cases e with
  | poolReady j host leftover => exact if_neg fun hj => h (congrArg some hj)
  | upstreamData j data endStream => exact if_neg fun hj => h (congrArg some hj)
  | _ => rfl

/-- All that the upstream of a message has sent, with what its connection was lent with. -/
def upstreamSent (cfg : Config σ) (i : ℕ) (request : Metadata) (es : List Event) : Bytes :=
  cfg.leftover i request ++ es.flatMap (Event.sent i)

theorem upstreamSent_concat (cfg : Config σ) (i : ℕ) (request : Metadata) (es : List Event)
    (e : Event) : upstreamSent cfg i request (es ++ [e]) =
      upstreamSent cfg i request es ++ e.sent i := by
  simp [upstreamSent]

/-- What is kept of a codec that reads a response in chunks : `H` of what was sent, its state and
its buffer, and `A` of the response it comes to and of what was sent. -/
structure Hearing (codec : Codec σ) (H : Bytes → σ → Bytes → Prop) (A : Metadata → Bytes → Prop) :
    Prop where
  start : ∀ sent, H sent codec.init sent
  append : ∀ {sent s b}, H sent s b → ∀ data, H (sent ++ data) s (b ++ data)
  wait : ∀ {sent s b}, H sent s b → (codec.decode s b).status = .waitForData →
    H sent (codec.decode s b).codec (codec.decode s b).buffer
  done : ∀ {sent s b response}, H sent s b → (codec.decode s b).status = .done response →
    A response sent
  more : ∀ {response sent}, A response sent → ∀ data, A response (sent ++ data)

/-- A codec that does not see where its input is cut comes, between two chunks and at the end of a
response, to what it would come to with all that was sent. -/
theorem hearing_of_cuttable {codec : Codec σ} {J fresh : σ → Prop}
    (hc : Resumable.Cuttable codec.round J fresh) (h₀ : J codec.init) :
    Hearing codec
      (fun sent s b => J s ∧ ∀ x, codec.round s (b ++ x) = codec.round codec.init (sent ++ x))
      (fun response sent => ∃ s rest, codec.round codec.init sent = .emit response s rest) where
  start _ := ⟨h₀, fun _ => rfl⟩
  append h data := ⟨h.1, fun x => by rw [List.append_assoc, h.2, List.append_assoc]⟩
  wait {sent s b} h hwait := by
    have hround : codec.round s b = .wait (codec.decode s b).codec (codec.decode s b).buffer := by
      rw [Codec.round, Decoding.round, hwait]
    obtain ⟨hkept, hmore⟩ := hc.wait h.1 hround
    exact ⟨hkept, fun x => (hmore x).symm.trans (h.2 x)⟩
  done {sent s b response} h hdone := by
    have hround : codec.round s b =
        .emit response (codec.decode s b).codec (codec.decode s b).buffer := by
      rw [Codec.round, Decoding.round, hdone]
    have hall := h.2 []
    rw [List.append_nil, List.append_nil] at hall
    exact ⟨_, _, hall.symm.trans hround⟩
  more := by
    rintro response sent ⟨s, rest, hround⟩ data
    exact ⟨s, rest ++ data, (hc.emit h₀ hround).2.2.2.2 data⟩

/-- What is known of a connection behind a run : of the messages that wait for the pool, of those
that wait for their response, and of the responses that were forwarded. -/
structure Relayed (cfg : Config σ) (H : Bytes → σ → Bytes → Prop) (A : Metadata → Bytes → Prop)
    (es : List Event) (cm : ConnectionManager σ) : Prop where
  unborn : ∀ i, cm.created ≤ i → es.flatMap (Event.sent i) = []
  pooling : ∀ i request, cm.requests[i]? = some request → (cm.messages i).phase = .pooling →
    upstreamSent cfg i request es = []
  waiting : cm.downstream.fault = none → ∀ i request, cm.requests[i]? = some request →
    (cm.messages i).phase = .waiting → H (upstreamSent cfg i request es)
      ((cm.messages i).startedDecoder cfg).codec (cm.messages i).upstreamBuffer
  answers : ∀ w ∈ cm.downstream.written, ∀ i response, w.message = some i →
    w.reply = .upstreamResponse response → ∃ request, cm.requests[i]? = some request ∧
      w.bytes = response.originMessage ∧ A response (upstreamSent cfg i request es)

section Relayed

variable {H : Bytes → σ → Bytes → Prop} {A : Metadata → Bytes → Prop} {cm : ConnectionManager σ}
  {es : List Event} {e : Event} {i : ℕ} {request : Metadata}

theorem Hearing.unheard (hh : Hearing cfg.codec H A) {leftover : Bytes} {m : ActiveMessage σ}
    (h : m.Unheard leftover) : H leftover (m.startedDecoder cfg).codec m.upstreamBuffer := by
  have hcodec : (m.startedDecoder cfg).codec = cfg.codec.init := by
    unfold ActiveMessage.startedDecoder
    rw [h.responseDecoder]
    rfl
  rw [hcodec, h.upstreamBuffer]
  exact hh.start leftover

/-- The response decoder of a message that waits. -/
theorem fresh_startedDecoder (hinit : I cfg.codec.init) {m : ActiveMessage σ}
    {r : UpstreamRequest} {c : UpstreamConnection} (hw : m.Waits I r c) :
    ActiveMessage.Fresh I (m.startedDecoder cfg) := by
  unfold ActiveMessage.startedDecoder
  cases hr : m.responseDecoder with
  | none => exact ⟨hinit, ⟨rfl, by rintro ⟨⟩, by rintro ⟨⟩⟩, rfl⟩
  | some decoder => exact hw.responseDecoder decoder hr

/-- The message that a chunk leaves waiting is one whose decoder waits. -/
theorem waits_of_row {p : Prop} {n : ℕ} {released endStream : Bool} {data : Bytes}
    (hready : ((cm.messages i).startedDecoder cfg).decoder.Ready)
    (halarm : (cm.incoming cfg i data).alarm = none)
    (hrow : Stream.UpstreamRow p request cm.downstream endStream n released .waiting
      (cm.incoming cfg i data)) :
    (cfg.codec.decode ((cm.messages i).startedDecoder cfg).codec
      ((cm.messages i).upstreamBuffer ++ data)).status = .waitForData ∧ endStream = false := by
  obtain ⟨decoder, hdecode, -⟩ := DecoderBase.decode_of_ready hready cfg.codec
    ((cm.messages i).startedDecoder cfg).codec ((cm.messages i).upstreamBuffer ++ data)
  have hincoming : cm.incoming cfg i data = (cfg.codec.decode
      ((cm.messages i).startedDecoder cfg).codec
        ((cm.messages i).upstreamBuffer ++ data)).status.decoded :=
    congrArg (·.2.2.2) hdecode
  rw [hincoming] at halarm hrow
  cases hstatus : (cfg.codec.decode ((cm.messages i).startedDecoder cfg).codec
    ((cm.messages i).upstreamBuffer ++ data)).status with
  | waitForData =>
    rw [hstatus] at hrow
    cases endStream with
    | false => exact ⟨rfl, rfl⟩
    | true => cases hrow.2.2
  | throw fault =>
    rw [hstatus] at halarm hrow
    cases fault with
    | exception what => cases hrow.2.2
    | panic site => cases halarm
  | done metadata =>
    rw [hstatus] at halarm hrow
    by_cases hheartbeat : metadata.messageType = .heartbeat
    · rw [show (DecodeStatus.done metadata).decoded = .heartbeat metadata from
        if_pos hheartbeat] at halarm
      cases halarm
    · rw [show (DecodeStatus.done metadata).decoded = .stream metadata from
        if_neg hheartbeat] at hrow
      cases hrow.2.2

/-- A message that waits behind an event heard of its upstream what it has sent. -/
theorem Relayed.waiting_step (hh : Hearing cfg.codec H A) (hk : cfg.codec.Keeps I R)
    (hc : cfg.RouterOnly) (halive : cm.Alive I R) (h : Relayed cfg H A es cm)
    (he : cm.Enabled cfg e) (hfault : (step cfg cm e).downstream.fault = none)
    (hi : (step cfg cm e).requests[i]? = some request)
    (hp : ((step cfg cm e).messages i).phase = .waiting) :
    H (upstreamSent cfg i request (es ++ [e]))
      (((step cfg cm e).messages i).startedDecoder cfg).codec
      ((step cfg cm e).messages i).upstreamBuffer := by
  have hlived := lived_step hk hc halive he
  rw [upstreamSent_concat]
  by_cases hlt : i < cm.created
  swap
  · obtain ⟨f, hbears⟩ := bears_step hc halive.sane.requests he
    have hle := Nat.not_lt.mp hlt
    have hown : e.message ≠ some i := fun hown => hlt (he.lt_created hown)
    obtain ⟨request', n, released, phase, hborn, -⟩ :=
      hlived.reads.born i (hlived.reads.sane.lt_created hi) hle
    obtain rfl : request' = request := Option.some.inj (hborn.living.decoded.symm.trans hi)
    obtain ⟨d, -, hrow⟩ := hborn.row
    obtain ⟨host, leftover, hpool⟩ := hrow.waiting_iff.mp (hborn.phase.symm.trans hp)
    have hunheard := hbears.newborn i hle request' hi host leftover hpool
    unfold upstreamSent
    rw [Event.sent_of_ne hown, h.unborn i hle, List.append_nil, List.append_nil,
      Config.leftover_of_ready hpool]
    exact hh.unheard hunheard
  replace hi : cm.requests[i]? = some request := (hlived.reads.requests i hlt).symm.trans hi
  by_cases hown : e.message = some i
  swap
  · rw [(hlived.other hlt hown).1] at hp ⊢
    rw [Event.sent_of_ne hown, List.append_nil]
    exact h.waiting he.1 i request hi hp
  obtain ⟨request', n, released, phase, hliving, hliving', hrow, hfate⟩ := hlived.own i hown
  obtain rfl : phase = .waiting := hfate.phase.symm.trans hp
  cases e with
  | poolReady j host leftover =>
    obtain rfl : j = i := Option.some.inj hown
    obtain ⟨metadata, hm, -⟩ := hliving.metadata
    have hunheard := unheard_onPoolReady hc halive.sane.requests hlt hm hliving.coherent hrow.1 host
      leftover
    rw [h.pooling j request hi hrow.1, List.nil_append,
      show (Event.poolReady j host leftover).sent j = leftover from if_pos rfl]
    exact hh.unheard hunheard
  | upstreamData j data endStream =>
    obtain rfl : j = i := Option.some.inj hown
    obtain ⟨hwaiting, hrow⟩ := hrow
    obtain ⟨r, c, hw⟩ := hliving.coherent.waiting hwaiting
    have hfresh := fresh_startedDecoder hk.init hw
    have hheard := hh.append (h.waiting he.1 j request hi hwaiting) data
    have halarm : cm.alarm cfg (.upstreamData j data endStream) = none := by
      by_contra hsome
      have hstopped := hlived.stopped (Option.isSome_iff_ne_none.mpr hsome)
      rw [hfault] at hstopped
      cases hstopped
    obtain ⟨hwait, rfl⟩ := waits_of_row hfresh.ready halarm hrow
    obtain ⟨hcodec', hbuffer⟩ := Stream.onUpstreamData_more (s := cm.stream j) hw hfresh.ready
      hfresh.responseStatus hwait
    have hmessage : (step cfg cm (.upstreamData j data false)).messages j =
        ((cm.stream j).onUpstreamData cfg (cm.upstreamBuffer j ++ data) false).message :=
      Function.update_self _ _ _
    rw [show (Event.upstreamData j data false).sent j = data from if_pos rfl, hmessage]
    exact hcodec'.symm ▸ hbuffer.symm ▸ hh.wait hheard hwait
  | poolFailure j reason host => cases hrow.2.2.2
  | upstreamClose j event => cases hrow.2.2.2
  | release j => cases hrow.2.2
  | downstreamData data endStream => cases hrow
  | downstreamClose event => cases hrow
  | continueDecoding j position => cases hrow
  | continueEncoding j position => cases hrow

/-- What is forwarded behind an event is the first frame of what its upstream has sent. -/
theorem Relayed.answers_step (hh : Hearing cfg.codec H A) (hk : cfg.codec.Keeps I R)
    (hc : cfg.RouterOnly) (halive : cm.Alive I R) (h : Relayed cfg H A es cm)
    (he : cm.Enabled cfg e) {w : Write} (hmem : w ∈ (step cfg cm e).downstream.written)
    (hi : w.message = some i) {response : Metadata}
    (hreply : w.reply = .upstreamResponse response) :
    ∃ request, (step cfg cm e).requests[i]? = some request ∧
      w.bytes = response.originMessage ∧ A response (upstreamSent cfg i request (es ++ [e])) := by
  have hlived := lived_step hk hc halive he
  have hkept : ∀ {i : ℕ} {request : Metadata}, cm.requests[i]? = some request →
      (step cfg cm e).requests[i]? = some request := fun hrequest =>
    (hlived.reads.requests _ (halive.sane.lt_created hrequest)).trans hrequest
  have hold : w ∈ cm.downstream.written → ∃ request,
      (step cfg cm e).requests[i]? = some request ∧
        w.bytes = response.originMessage ∧
          A response (upstreamSent cfg i request (es ++ [e])) := by
    intro hw
    obtain ⟨request, hrequest, horigin, hcomes⟩ := h.answers w hw i response hi hreply
    exact ⟨request, hkept hrequest, horigin,
      upstreamSent_concat cfg i request es e ▸ hh.more hcomes _⟩
  by_cases hdata : ∃ j data endStream, e = .upstreamData j data endStream
  swap
  · obtain ⟨ws, hws, hall⟩ := (silent_step he fun j data endStream hd =>
      hdata ⟨j, data, endStream, hd⟩).written
    rw [hws] at hmem
    rcases List.mem_append.mp hmem with hmem | hmem
    · exact hold hmem
    · exact absurd hreply (hall w hmem response)
  obtain ⟨j, data, endStream, rfl⟩ := hdata
  obtain ⟨hj, -, hwaiting⟩ := he.2
  obtain ⟨request, hliving⟩ := halive.living j hj
  have hp := phase_of_waiting hliving.coherent hwaiting
  obtain ⟨r, c, hw⟩ := hliving.coherent.waiting hp
  have hfresh := fresh_startedDecoder hk.init hw
  rcases Stream.mem_written_onUpstreamData hc (s := cm.stream j) hw hfresh.ready hmem hreply with
    hmem | ⟨hdone, rfl⟩
  · exact hold hmem
  · obtain rfl : j = i :=
      (halive.sane.numbered.id j).symm.trans (Option.some.inj hi)
    refine ⟨request, hkept hliving.decoded, rfl, ?_⟩
    rw [upstreamSent_concat,
      show (Event.upstreamData j data endStream).sent j = data from if_pos rfl]
    exact hh.done (hh.append (h.waiting he.1 j request hliving.decoded hp) data) hdone

/-- A message that waits for the pool has no upstream that could have sent something. -/
theorem Relayed.pooling_step (hk : cfg.codec.Keeps I R) (hc : cfg.RouterOnly)
    (halive : cm.Alive I R) (h : Relayed cfg H A es cm) (he : cm.Enabled cfg e)
    (hi : (step cfg cm e).requests[i]? = some request)
    (hp : ((step cfg cm e).messages i).phase = .pooling) :
    upstreamSent cfg i request (es ++ [e]) = [] := by
  have hlived := lived_step hk hc halive he
  have hown : e.message ≠ some i := by
    intro hown
    obtain ⟨request', n, released, phase, -, -, hrow, hfate⟩ := hlived.own i hown
    obtain rfl : phase = .pooling := hfate.phase.symm.trans hp
    cases e with
    | poolReady j host leftover => cases hrow.2.2.2
    | poolFailure j reason host => cases hrow.2.2.2
    | upstreamData j data endStream =>
      obtain ⟨-, hrow⟩ := hrow
      unfold Stream.UpstreamRow at hrow
      split at hrow
      · cases hrow.2.2
      · cases hrow.2.2
      all_goals
        split at hrow
        · cases hrow.2.2
        · cases hrow.2.2
    | upstreamClose j event => cases hrow.2.2.2
    | release j => cases hrow.2.2
    | downstreamData data endStream => cases hrow
    | downstreamClose event => cases hrow
    | continueDecoding j position => cases hrow
    | continueEncoding j position => cases hrow
  rw [upstreamSent_concat, Event.sent_of_ne hown, List.append_nil]
  by_cases hlt : i < cm.created
  · rw [(hlived.other hlt hown).1] at hp
    exact h.pooling i request ((hlived.reads.requests i hlt).symm.trans hi) hp
  · have hle := Nat.not_lt.mp hlt
    obtain ⟨request', n, released, phase, hborn, -⟩ :=
      hlived.reads.born i (hlived.reads.sane.lt_created hi) hle
    obtain rfl : request' = request := Option.some.inj (hborn.living.decoded.symm.trans hi)
    obtain ⟨d, -, hrow⟩ := hborn.row
    have hnot : ∀ host leftover, cfg.pool i request' ≠ some (.ready host leftover) := by
      intro host leftover hpool
      have hwaiting := hrow.waiting_iff.mpr ⟨host, leftover, hpool⟩
      rw [hborn.phase.symm.trans hp] at hwaiting
      cases hwaiting
    unfold upstreamSent
    rw [h.unborn i hle, List.append_nil, Config.leftover_of_ne hnot]

theorem relayed_all (hh : Hearing cfg.codec H A) (hc : cfg.RouterOnly) {es : List Event}
    (hes : (system cfg).Admissible (new cfg) es) :
    Relayed cfg H A es ((system cfg).run (new cfg) es) := by
  have hk := Codec.keeps_true cfg.codec
  refine Transition.history (P := fun es cm => Relayed cfg H A es cm) ?_ ?_ es hes
  · exact ⟨fun _ _ => rfl, by rintro i request ⟨⟩, by rintro - i request ⟨⟩, by rintro w ⟨⟩⟩
  intro es e hadmissible he h
  have halive := alive_run hk hc hadmissible
  have hlived := lived_step hk hc halive he
  refine ⟨fun i hi => ?_, fun i request hi hp => h.pooling_step hk hc halive he hi hp,
    fun hfault i request hi hp => h.waiting_step hh hk hc halive he hfault hi hp,
    fun w hw i response hi hreply => h.answers_step hh hk hc halive he hw hi hreply⟩
  have hle := Nat.le_trans hlived.created hi
  have hown : e.message ≠ some i := fun hown => absurd (he.lt_created hown) (Nat.not_lt.mpr hle)
  rw [List.flatMap_append, h.unborn i hle]
  simp [Event.sent_of_ne hown]

end Relayed

/-! ## Dubbo -/

section Dubbo

open Dubbo.DubboCodec (State Sound Hungry Holding held hungry_none splittable_round restarts_round)

variable {hessian : Dubbo.Hessian2} {cfg : Config State}

/-- A codec in the middle of a response stands where one started on it would. -/
structure Hears (hessian : Dubbo.Hessian2) (sent : Bytes) (s : State) (b : Bytes) : Prop where
  stands : Resumable.Stands (Dubbo.DubboCodec.codec hessian).round (fun s => Sound s ∧ Holding s)
    held none sent s b
  hungry : Sound s ∧ Hungry s

/-- The response is the first frame of what the upstream has sent, and is read again from its own
bytes. -/
structure Relays (hessian : Dubbo.Hessian2) (bytes : Bytes) (response : Metadata) (sent : Bytes) :
    Prop where
  origin : bytes = response.originMessage
  reread : Reread hessian response
  first : bytes <+: sent

/-- What a call of `decode` ends with as a round. -/
theorem round_of_status {s : State} {buffer : Bytes} {status : DecodeStatus}
    (h : (Dubbo.DubboCodec.decode hessian s buffer).status = status) :
    (Dubbo.DubboCodec.codec hessian).round s buffer =
      (⟨(Dubbo.DubboCodec.decode hessian s buffer).codec,
        (Dubbo.DubboCodec.decode hessian s buffer).buffer, status⟩ : Decoding State).round := by
  rw [← h]
  rfl

/-- The Dubbo codec hears. -/
theorem hearing_dubbo (hl : hessian.Local) : Hearing (Dubbo.DubboCodec.codec hessian)
    (Hears hessian) (fun response sent => Relays hessian response.originMessage response sent) where
  start sent := ⟨(restarts_round hessian).stands sent, .idle, hungry_none⟩
  append h data := ⟨h.stands.append data, h.hungry⟩
  wait h hwait := by
    have hround := round_of_status hwait
    exact ⟨h.stands.wait (splittable_round hl) (restarts_round hessian) h.hungry hround,
      ((splittable_round hl).wait h.hungry hround).1⟩
  done h hdone := by
    obtain ⟨-, -, hall, hreads⟩ := h.stands.emit (splittable_round hl) (restarts_round hessian)
      ⟨.idle, hungry_none⟩ (round_of_status hdone)
    exact ⟨rfl, hreads, hall ▸ List.prefix_append _ _⟩
  more h data := ⟨h.origin, h.reread, h.first.trans (List.prefix_append _ _)⟩

/-- With the Dubbo codec and the router as the only filter, over every order of the events : what is
forwarded for a request is the first frame of all that its upstream has sent, byte for byte,
however it was cut into chunks; and while a message waits, its response decoder and the buffer of
its connection hold all that its upstream has sent. -/
theorem relayed_run (hl : hessian.Local) (hcodec : cfg.codec = Dubbo.DubboCodec.codec hessian)
    (hc : cfg.RouterOnly) {es : List Event} (hes : (system cfg).Admissible (new cfg) es) :
    (∀ w ∈ ((system cfg).run (new cfg) es).downstream.written, ∀ i response,
      w.message = some i → w.reply = .upstreamResponse response →
        ∃ request, ((system cfg).run (new cfg) es).requests[i]? = some request ∧
          Relays hessian w.bytes response (upstreamSent cfg i request es)) ∧
      (((system cfg).run (new cfg) es).downstream.fault = none → ∀ i request,
        ((system cfg).run (new cfg) es).requests[i]? = some request →
          ((system cfg).run (new cfg) es).Waiting i →
            held ((((system cfg).run (new cfg) es).messages i).startedDecoder cfg).codec ++
                ((system cfg).run (new cfg) es).upstreamBuffer i =
              upstreamSent cfg i request es) := by
  have hall := relayed_all (hcodec ▸ hearing_dubbo hl) hc hes
  have halive := alive_run (Codec.keeps_true cfg.codec) hc hes
  refine ⟨fun w hw i response hi hreply => ?_, fun hfault i request hi hwaiting => ?_⟩
  · obtain ⟨request, hrequest, horigin, hrelays⟩ := hall.answers w hw i response hi hreply
    exact ⟨request, hrequest, horigin.symm ▸ hrelays⟩
  · obtain ⟨request', hliving⟩ := halive.living i (halive.sane.lt_created hi)
    exact (hall.waiting hfault i request hi
      (phase_of_waiting hliving.coherent hwaiting)).stands.all

/-- A response in two chunks, of which the first was in the buffer when the connection was lent, and
the start of another one. -/
def leftover : List Event :=
  [.downstreamData (DubboExample.request 1 ++ DubboExample.request 2) false,
    .poolReady 0 "host" ((DubboExample.response 1).take 10),
    .poolReady 1 "host" [], .upstreamData 1 ((DubboExample.response 2).take 16) false,
    .upstreamData 0 ((DubboExample.response 1).drop 10 ++ [0]) false]

theorem relayed_run_leftover :
    (∀ w ∈ ((system (DubboExample.config (some .pending))).run
      (new (DubboExample.config (some .pending))) leftover).downstream.written, ∀ i response,
      w.message = some i → w.reply = .upstreamResponse response →
        ∃ request, ((system (DubboExample.config (some .pending))).run
          (new (DubboExample.config (some .pending))) leftover).requests[i]? = some request ∧
          Relays .compact w.bytes response
            (upstreamSent (DubboExample.config (some .pending)) i request leftover)) ∧
      (((system (DubboExample.config (some .pending))).run
        (new (DubboExample.config (some .pending))) leftover).downstream.fault = none →
        ∀ i request, ((system (DubboExample.config (some .pending))).run
          (new (DubboExample.config (some .pending))) leftover).requests[i]? = some request →
          ((system (DubboExample.config (some .pending))).run
            (new (DubboExample.config (some .pending))) leftover).Waiting i →
            held ((((system (DubboExample.config (some .pending))).run
                (new (DubboExample.config (some .pending))) leftover).messages i).startedDecoder
                  (DubboExample.config (some .pending))).codec ++
                ((system (DubboExample.config (some .pending))).run
                  (new (DubboExample.config (some .pending))) leftover).upstreamBuffer i =
              upstreamSent (DubboExample.config (some .pending)) i request leftover) :=
  relayed_run Dubbo.Hessian2.compact_local rfl ⟨rfl, rfl⟩ (by decide +kernel)

end Dubbo

end ConnectionManager

end MetaProtocolProxy

import Mathlib.Tactic.SplitIfs
import MetaProtocolProxy.RouterLife

/-!
# What a response does to an exchange

Data from the upstream is the event with the most outcomes : the response decoder may wait,
complete a response or reject it, and each of these ends in another call of the router.
While it is handled the message still holds its connection (`Responds`), and every way out
of `onUpstreamData` leads from there to one row of `UpstreamRow`.
-/

namespace MetaProtocolProxy

variable {σ : Type} {cfg : Config σ} {I : σ → Prop} {R : Metadata → Prop} {o : Bytes}

/-- What stops the process when a response decoder calls back : a heartbeat, a message that is
no response, or a panic of the codec. -/
def Decoded.alarm : Decoded → Option String
  | .waitForData | .throw (.exception _) => none
  | .heartbeat _ => some "NOT_IMPLEMENTED in onHeartbeat"
  | .throw (.panic site) => some site
  | .stream response =>
    if response.messageType = .response ∨ response.messageType = .error then none
    else some "ASSERT(Response || Error)"

namespace Stream

open Downstream (Does One)

/-! ## Data from the upstream -/

/-- What the response decoder makes of the data. -/
def incoming (cfg : Config σ) (data : Bytes) (s : Stream σ) : Decoded :=
  let decoder := s.message.responseDecoder.getD { codec := cfg.codec.init }
  (decoder.decoder.decode cfg.codec decoder.codec data).2.2.2

/-- From `s` to `u` a response is being handled : `n` answers are written, the message is
released or not, and it still holds its connection. -/
structure Responds (R : Metadata → Prop) (o : Bytes) (p : Prop) (n : ℕ) (released : Bool)
    (s u : Stream σ) : Prop where
  id : u.message.id = s.message.id
  kind : u.message.kind = s.message.kind
  metadata : ∃ metadata, u.message.metadata = some metadata ∧ R metadata
  filterComplete : u.message.router.filterComplete = false
  unused : u.message.router.returned = [] ∧ u.message.router.closed = [] ∧
    u.message.router.cancelled = 0
  holds : ∃ r c, u.message.Holds r c ∧ c.written = [o]
  writes : s.message.writes ≠ []
  cancelled : s.message.router.cancelled = 0
  does : s.downstream.Does p s.message.id n released u.downstream

section Responds

variable {p : Prop} {n n' : ℕ} {released : Bool} {s u : Stream σ}

/-- What follows concerns the connection and the flags of the filters and the decoder. -/
theorem Responds.andThen (h : Responds R o p n false s u) (u' : Stream σ)
    (hid : u'.message.id = u.message.id)
    (hmetadata : u'.message.metadata = u.message.metadata)
    (hrouter : u'.message.router = u.message.router)
    (hdoes : u.downstream.Does p u.message.id n' released u'.downstream) :
    Responds R o p (n + n') released s u' := by
  obtain ⟨r, c, hholds, hwritten⟩ := h.holds
  refine ⟨hid.trans h.id, Eq.trans ?_ h.kind, hmetadata ▸ h.metadata, hrouter ▸ h.filterComplete,
    hrouter ▸ h.unused, ⟨r, c, ?_, hwritten⟩, h.writes, h.cancelled,
    h.does.trans (h.id ▸ hdoes)⟩
  · unfold ActiveMessage.kind
    rw [hmetadata]
  · exact ⟨hrouter ▸ hholds.request, hholds.connPoolHandle, hholds.connData, hholds.isOpen,
      hholds.upstreamHost, hholds.responseComplete, hholds.streamReset⟩

/-- The bytes that are left stay with the connection. -/
theorem Responds.leave (h : Responds R o p n released s u) (rest : Bytes) :
    Responds R o p n released s (u.leaveUpstreamData rest) := by
  obtain ⟨r, c, hholds, hwritten⟩ := h.holds
  refine ⟨h.id, h.kind, h.metadata, h.filterComplete, h.unused,
    ⟨{ r with connData := some { c with buffer := rest } }, { c with buffer := rest },
      ⟨?_, hholds.connPoolHandle, rfl, hholds.isOpen, hholds.upstreamHost, hholds.responseComplete,
        hholds.streamReset⟩, hwritten⟩, h.writes, h.cancelled, h.does⟩
  simp [leaveUpstreamData, onRequest, onRouter, onMessage, hholds.request, hholds.connData]

/-- The response is complete, and the connection goes back. -/
theorem Responds.complete (h : Responds R o p n released s u) :
    Turns I R o p n released .finished s u.onResponseComplete.cleanup := by
  obtain ⟨r, c, hholds, hwritten⟩ := h.holds
  obtain ⟨hreturned, hclosed, hcancelled⟩ := h.unused
  have heq : u.onResponseComplete.cleanup = ⟨{ u.message with router :=
      { u.message.router with upstreamRequest := none, returned := [c] } }, u.downstream⟩ := by
    simp [onResponseComplete, cleanup, onRequest, onRouter, onMessage, hholds.request,
      hholds.connData, hreturned]
  rw [heq]
  have hwrites : ({ u.message with router :=
      { u.message.router with upstreamRequest := none, returned := [c] } } :
        ActiveMessage σ).writes = [[o]] := by
    simp [ActiveMessage.writes, ActiveMessage.connections, hclosed, hwritten]
  refine ⟨h.id, h.kind, ?_, ?_, Or.inl ?_, rfl, h.does⟩
  · refine ActiveMessage.coherent_of_finished rfl h.metadata h.filterComplete ?_ (Or.inr hwrites)
    change u.message.router.cancelled ≤ 1
    rw [hcancelled]
    exact Nat.zero_le 1
  · rw [hwrites]
    exact ⟨by rintro ⟨⟩, fun hnone => absurd hnone.1 h.writes⟩
  · exact hcancelled.trans h.cancelled.symm

/-- The response is given up, and the connection closed. -/
theorem Responds.reset (h : Responds R o p n released s u) (cfg : Config σ) :
    Turns I R o p n released .finished s (u.resetUpstreamStream cfg) := by
  obtain ⟨r, c, hholds, hwritten⟩ := h.holds
  obtain ⟨hreturned, hclosed, hcancelled⟩ := h.unused
  have heq := resetUpstreamStream_eq cfg hholds.request (by
    rw [hholds.connPoolHandle]
    rintro ⟨⟩)
  rw [heq]
  have hwrites : ({ u.message with router :=
      { u.message.router with
        upstreamRequest :=
          some { r with streamReset := true, connPoolHandle := false, connData := none }
        closed := u.message.router.closed ++ r.connData.toList
        cancelled := u.message.router.cancelled + if r.connPoolHandle then 1 else 0 } } :
        ActiveMessage σ).writes = [[o]] := by
    simp [ActiveMessage.writes, ActiveMessage.connections, hreturned, hclosed, hholds.connData,
      hwritten]
  refine ⟨h.id, h.kind, ?_, ?_, Or.inl ?_, rfl, h.does⟩
  · refine ActiveMessage.coherent_of_finished rfl h.metadata h.filterComplete ?_ (Or.inr hwrites)
    change u.message.router.cancelled + (if r.connPoolHandle then 1 else 0) ≤ 1
    simp [hcancelled, hholds.connPoolHandle]
  · rw [hwrites]
    exact ⟨by rintro ⟨⟩, fun hnone => absurd hnone.1 h.writes⟩
  · simp [hcancelled, hholds.connPoolHandle, h.cancelled]

/-- More data has to come. -/
theorem Responds.more (h : Responds R o p n released s u)
    {decoder : ActiveResponseDecoder σ} (hd : u.message.responseDecoder = some decoder)
    (hfresh : ActiveMessage.Fresh I decoder)
    (hstarted : u.message.router.upstreamRequest.any (·.responseStarted) = true) :
    Turns I R o p n released .waiting s u := by
  obtain ⟨r, c, hholds, hwritten⟩ := h.holds
  have hw : u.message.Waits I r c := by
    refine ⟨hholds, ?_, fun decoder' hd' => ?_⟩
    · rw [hd]
      rw [hholds.request] at hstarted
      simpa using hstarted
    · rw [hd] at hd'
      cases hd'
      exact hfresh
  refine ⟨h.id, h.kind, hw.coherent hwritten h.metadata h.filterComplete h.unused, ?_,
    Or.inl (h.unused.2.2.trans h.cancelled.symm), hholds.phase, h.does⟩
  rw [hholds.writes h.unused.1 h.unused.2.1]
  simp

end Responds

/-! ## The response decoder -/

/-- The message with the connection as the alarm leaves it. -/
def alarmed (alarm : Option String) (s : Stream σ) : Stream σ :=
  s.onDownstream fun d => alarm.elim d fun site => d.panic site

theorem state_alarmed (alarm : Option String) (s : Stream σ) :
    (s.alarmed alarm).downstream.state = s.downstream.state := by
  cases alarm <;> rfl

/-- The response decoder is there when data comes. -/
theorem startResponse_eq (cfg : Config σ) {s : Stream σ} {r : UpstreamRequest}
    {c : UpstreamConnection} (hw : s.message.Waits I r c) :
    s.startResponse cfg = ⟨{ s.message with
      responseDecoder := some (s.message.responseDecoder.getD { codec := cfg.codec.init })
      router := { s.message.router with
        upstreamRequest := some { r with responseStarted := true } } }, s.downstream⟩ := by
  have hstarted := hw.responseStarted
  obtain ⟨⟨id, metadata, responseDecoder, cachedRoute, filterAction, encoderFilterAction,
    pendingStreamDecoded, localResponseSent, router, decoderCalls, encoderCalls, destroyed⟩,
    downstream⟩ := s
  obtain ⟨upstreamRequest, buffer, filterComplete, returned, closed, cancelled⟩ := router
  obtain ⟨connPoolHandle, connData, upstreamHost, requestComplete, responseStarted,
    responseComplete, streamReset⟩ := r
  obtain rfl : upstreamRequest = some ⟨connPoolHandle, connData, upstreamHost, requestComplete,
    responseStarted, responseComplete, streamReset⟩ := hw.request
  obtain rfl : responseComplete = false := hw.responseComplete
  obtain rfl : responseStarted = responseDecoder.isSome := hstarted
  cases responseDecoder with
  | none =>
    simp [startResponse, startUpstreamResponse, assert, onDownstream, Downstream.assert, onRequest,
      onRouter, onMessage]
  | some decoder =>
    simp [startResponse, assert, onDownstream, Downstream.assert]

/-- The router lets every response through. -/
theorem encodeResponse_eq (hc : cfg.RouterOnly) (response : Metadata) {s : Stream σ}
    {r : UpstreamRequest} {c : UpstreamConnection} (hh : s.message.Holds r c) :
    ∃ encoderCalls, s.encodeResponse cfg response =
      (.continue, ⟨{ s.message with
        responseDecoder := s.message.responseDecoder.map fun d =>
          { d with metadata := some response }
        encoderFilterAction := false, encoderCalls },
        s.downstream.assert (response.messageType = .response ∨ response.messageType = .error)
          "ASSERT(Response || Error)"⟩) := by
  obtain ⟨host, hhost⟩ := Option.isSome_iff_exists.mp hh.upstreamHost
  unfold encodeResponse applyMessageEncodedFilters applyEncoderFilters
  simp only [onMessage, onResponseDecoder, assert, onDownstream, commonPrefix,
    hc.encoderFilters, List.drop_zero, Bool.true_eq_false, if_false]
  cases hsent : s.message.localResponseSent with
  | true => exact ⟨s.message.encoderCalls, by simp⟩
  | false =>
    refine ⟨s.message.encoderCalls ++ [0], ?_⟩
    simp [encoderFilterLoop, filterOnMessageEncoded, routerOnMessageEncoded, withHost, hh.request,
      hhost, onMessage]

/-! ## What the data comes to -/

theorem responds_startResponse {p : Prop} {s : Stream σ} (hs : s.message.Coherent I R o)
    (hp : s.message.phase = .waiting) : Responds R o p 0 false s (s.startResponse cfg) := by
  obtain ⟨r, c, hw⟩ := hs.waiting hp
  have hu := hs.unused (by rw [hp]; decide)
  rw [startResponse_eq cfg hw]
  refine ⟨rfl, rfl, hs.metadata, hs.filterComplete, hu, ⟨{ r with responseStarted := true }, c,
    ⟨rfl, hw.connPoolHandle, hw.connData, hw.isOpen, hw.upstreamHost, hw.responseComplete,
      hw.streamReset⟩, hs.written hw⟩, ?_, hu.2.2, .refl _ _ _⟩
  rw [hw.toHolds.writes hu.1 hu.2.1]
  simp

theorem Responds.alarmed {p : Prop} {n : ℕ} {released : Bool} {s u : Stream σ}
    (h : Responds R o p n released s u) (alarm : Option String) :
    Responds R o p n released (s.alarmed alarm) (u.alarmed alarm) := by
  refine ⟨h.id, h.kind, h.metadata, h.filterComplete, h.unused, h.holds, h.writes, h.cancelled, ?_⟩
  cases alarm with
  | none => exact h.does
  | some site => exact h.does.panic site

theorem message_onResponseDecoder {s : Stream σ} {decoder : ActiveResponseDecoder σ}
    (hd : s.message.responseDecoder = some decoder)
    (f : ActiveResponseDecoder σ → ActiveResponseDecoder σ) :
    (s.onResponseDecoder f).message = { s.message with responseDecoder := some (f decoder) } := by
  simp [onResponseDecoder, onMessage, hd]

/-- The response decoder is not what the exchange looks at. -/
theorem Responds.onResponseDecoder {p : Prop} {n : ℕ} {s u : Stream σ}
    (h : Responds R o p n false s u) (f : ActiveResponseDecoder σ → ActiveResponseDecoder σ) :
    Responds R o p n false s (u.onResponseDecoder f) :=
  h.andThen (u.onResponseDecoder f) rfl rfl rfl (.refl _ _ _)

/-- No more data comes for an incomplete response. -/
theorem Responds.endStream {s u : Stream σ}
    (h : Responds R o (cfg.codec.Replies I R) 0 false s u) {metadata : Metadata}
    (hm : u.message.metadata = some metadata) (hI : I u.downstream.codec)
    (hstate : u.downstream.state = s.downstream.state) :
    ∃ n, (if metadata.isOneway then n = 0 else One (cfg.codec.Replies I R) n s.downstream) ∧
      Turns I R o (cfg.codec.Replies I R) n metadata.isOneway .finished s
        ((u.onResetStream cfg .remoteConnectionFailure).onResponseComplete.cleanup) := by
  obtain ⟨r, c, hholds, -⟩ := h.holds
  obtain ⟨metadata', hm', hR⟩ := h.metadata
  rw [hm] at hm'
  cases hm'
  obtain ⟨n, d, heq, hdoes, hn⟩ := onResetStream_spec cfg .remoteConnectionFailure hm hR
    h.filterComplete hI (Or.inr (by rw [hholds.request]; exact hholds.upstreamHost))
  rw [heq]
  have hreset : Responds R o (cfg.codec.Replies I R) (0 + n) metadata.isOneway s
      ⟨{ u.message with localResponseSent := u.message.localResponseSent || !metadata.isOneway },
        d⟩ :=
    h.andThen _ rfl rfl rfl hdoes
  rw [Nat.zero_add] at hreset
  refine ⟨n, ?_, hreset.complete⟩
  split at hn
  · rwa [if_pos ‹_›]
  · rw [if_neg ‹_›]
    exact hn.of_state hstate.symm

/-- What data from the upstream comes to, by what the response decoder makes of it. -/
def UpstreamRow (p : Prop) (metadata : Metadata) (d : Downstream σ) (endStream : Bool) (n : ℕ)
    (released : Bool) (phase : Phase) : Decoded → Prop
  | .stream response =>
    (if response.requestId = metadata.requestId then One True n d
      else n ≤ 2 ∧ (d.state = .open → 1 ≤ n) ∧ (d.state ≠ .open → n = 0)) ∧
    released = true ∧ phase = .finished
  | .throw (.exception _) => One p n d ∧ released = true ∧ phase = .finished
  | .waitForData | .heartbeat _ | .throw (.panic _) =>
    if endStream then
      (if metadata.isOneway then n = 0 else One p n d) ∧ released = metadata.isOneway ∧
        phase = .finished
    else n = 0 ∧ released = false ∧ phase = .waiting

/-- The counters of a response. -/
theorem countResponse_spec (p : Prop) (i : ℕ) (metadata : Metadata) (s : Stream σ) :
    (s.countResponse metadata).message = s.message ∧
      s.downstream.Does p i 0 false (s.countResponse metadata).downstream := by
  have hresponse := (Downstream.does_inc (p := p) (i := i) .response s.downstream).after
    (Downstream.does_inc .responseDecodingSuccess _)
  unfold countResponse
  dsimp only
  split_ifs
  · exact ⟨rfl, (hresponse.after (Downstream.does_inc _ _)).after (Downstream.does_inc _ _)⟩
  · exact ⟨rfl, hresponse.after (Downstream.does_inc _ _)⟩
  · exact ⟨rfl, (hresponse.after (Downstream.does_inc _ _)).after (Downstream.does_inc _ _)⟩
  · exact ⟨rfl, hresponse.after (Downstream.does_inc _ _)⟩

/-- A response that is decoded is forwarded if the client is there. -/
theorem onResponseDecoded_spec (p : Prop) (hc : cfg.RouterOnly) {u : Stream σ}
    {r : UpstreamRequest} {c : UpstreamConnection} (hh : u.message.Holds r c)
    {decoder : ActiveResponseDecoder σ} (hd : u.message.responseDecoder = some decoder)
    (response : Metadata) :
    ∃ ex v decoder', u.onResponseDecoded cfg response = (ex, v) ∧ v.message.id = u.message.id ∧
      v.message.metadata = u.message.metadata ∧ v.message.router = u.message.router ∧
      v.message.responseDecoder = some decoder' ∧ decoder'.metadata = some response ∧
      if u.downstream.state = .open then
        ex = none ∧ decoder'.complete = true ∧ decoder'.responseStatus = .complete ∧
          (u.alarmed (Decoded.stream response).alarm).downstream.Does p u.message.id 1 false
            v.downstream
      else ex = some .downstreamConnectionClose ∧
        (u.alarmed (Decoded.stream response).alarm).downstream.Does p u.message.id 0 false
          v.downstream := by
  obtain ⟨encoderCalls, hencode⟩ := encodeResponse_eq hc response hh
  have hassert : u.downstream.assert
      (response.messageType = .response ∨ response.messageType = .error)
        "ASSERT(Response || Error)" =
      (u.alarmed (Decoded.stream response).alarm).downstream := by
    unfold Downstream.assert alarmed Decoded.alarm onDownstream
    by_cases h : response.messageType = .response ∨ response.messageType = .error
    · simp [h]
    · simp [h]
  have hstate : (u.alarmed (Decoded.stream response).alarm).downstream.state =
      u.downstream.state := by
    rw [← hassert]
    unfold Downstream.assert
    split <;> rfl
  rw [hassert] at hencode
  obtain ⟨t, ht⟩ : ∃ t : Stream σ, t = ⟨{ u.message with
    responseDecoder := u.message.responseDecoder.map fun d => { d with metadata := some response }
    encoderFilterAction := false, encoderCalls },
    (u.alarmed (Decoded.stream response).alarm).downstream⟩ := ⟨_, rfl⟩
  rw [← ht] at hencode
  have htstate : t.downstream.state = u.downstream.state := by
    rw [ht]
    exact hstate
  unfold onResponseDecoded
  rw [hencode]
  by_cases hopen : u.downstream.state = .open
  · have hmetadata : (t.message.responseDecoder.bind (·.metadata)).getD response = response := by
      simp [ht, hd]
    obtain ⟨hmessage, hcount⟩ := countResponse_spec p u.message.id response
      (t.forwardResponse response)
    replace hmessage : ((t.forwardResponse response).countResponse response).message = t.message :=
      hmessage
    have hwrite : (u.alarmed (Decoded.stream response).alarm).downstream.Does p u.message.id 1 false
        (t.forwardResponse response).downstream := by
      rw [ht]
      exact Downstream.does_write rfl _
    simp only [ne_eq, not_true, if_false, htstate, hopen, if_true, hmetadata]
    refine ⟨none, _, { decoder with
      metadata := some response, complete := true, responseStatus := .complete }, rfl, ?_, ?_, ?_,
      ?_, rfl, rfl, rfl, rfl, hwrite.quiet hcount⟩
    · simp only [onResponseDecoder, onMessage, hmessage]
      rw [ht]
    · simp only [onResponseDecoder, onMessage, hmessage]
      rw [ht]
    · simp only [onResponseDecoder, onMessage, hmessage]
      rw [ht]
    · simp only [onResponseDecoder, onMessage, hmessage]
      rw [ht, hd]
      rfl
  · simp only [ne_eq, not_true, if_false, htstate, hopen, not_false_eq_true, if_true]
    refine ⟨_, t, { decoder with metadata := some response }, rfl, ?_, ?_, ?_, ?_, rfl, rfl, ?_⟩
    · rw [ht]
    · rw [ht]
    · rw [ht]
    · rw [ht, hd]
      rfl
    · rw [ht]
      exact .refl _ _ _

/-- A forwarded response has been decoded to its end. -/
theorem responseDecoded_eq (data : Bytes) {s : Stream σ} {decoder : ActiveResponseDecoder σ}
    (hd : s.message.responseDecoder = some decoder) (hcomplete : decoder.complete = true) :
    s.responseDecoded data = (data, .ok decoder.responseStatus,
      ⟨{ s.message with
        responseDecoder := some { decoder with decoder := decoder.decoder.complete } },
        s.downstream⟩) := by
  unfold responseDecoded
  simp [onResponseDecoder, onMessage, hd, assert, onDownstream, Downstream.assert, hcomplete]

/-- The data completes a response : it is forwarded if the client is there, and an error
follows it if it has another id. -/
theorem upstreamData_stream (hc : cfg.RouterOnly) {s t : Stream σ}
    (h : Responds R o (cfg.codec.Replies I R) 0 false s t) {metadata : Metadata}
    (hm : t.message.metadata = some metadata) (hI : I s.downstream.codec)
    {responseDecoder : ActiveResponseDecoder σ}
    (hd : t.message.responseDecoder = some responseDecoder) {data rest : Bytes}
    {decoder : DecoderBase} {codec : σ} {response : Metadata}
    (hdecode : responseDecoder.decoder.decode cfg.codec responseDecoder.codec data =
      (decoder, codec, rest, .stream response)) :
    ∃ n status v, t.upstreamData cfg data = (rest, status, v) ∧
      (status = if s.downstream.state = .open ∧ response.requestId = metadata.requestId then
        .complete else .reset) ∧
      Responds R o (cfg.codec.Replies I R) n true (s.alarmed (Decoded.stream response).alarm) v ∧
      if response.requestId = metadata.requestId then One True n s.downstream
      else n ≤ 2 ∧ (s.downstream.state = .open → 1 ≤ n) ∧ (s.downstream.state ≠ .open → n = 0) := by
  have hstate : t.downstream.state = s.downstream.state := h.does.state
  obtain ⟨r, c, hholds, -⟩ := h.holds
  obtain ⟨metadata', hm', hR⟩ := h.metadata
  rw [hm] at hm'
  cases hm'
  obtain ⟨u, hu⟩ : ∃ u, u = t.onResponseDecoder fun d => { d with decoder, codec } := ⟨_, rfl⟩
  have hmessage : u.message = { t.message with
      responseDecoder := some { responseDecoder with decoder, codec } } :=
    hu ▸ message_onResponseDecoder hd _
  have hdown : u.downstream = t.downstream := by rw [hu]; rfl
  have hresponds : Responds R o (cfg.codec.Replies I R) 0 false s u := hu ▸ h.onResponseDecoder _
  have hu' : u.message.Holds r c := by
    rw [hmessage]
    exact ⟨hholds.request, hholds.connPoolHandle, hholds.connData, hholds.isOpen,
      hholds.upstreamHost, hholds.responseComplete, hholds.streamReset⟩
  obtain ⟨ex, v, decoder', heq, hid, hmetadata, hrouter, hd', hresponse, hrow⟩ :=
    onResponseDecoded_spec (cfg.codec.Replies I R) hc hu' (by rw [hmessage]) response
  have halarmed := hresponds.alarmed (Decoded.stream response).alarm
  unfold upstreamData responseDecoderOnData
  rw [hd]
  dsimp only
  rw [hdecode]
  dsimp only
  rw [← hu, heq]
  rw [hdown, hstate] at hrow
  by_cases hopen : s.downstream.state = .open
  · rw [if_pos hopen] at hrow
    obtain ⟨rfl, hcomplete, hstatus, hdoes⟩ := hrow
    have hdecoded := responseDecoded_eq rest hd' hcomplete
    obtain ⟨w, hw⟩ : ∃ w : Stream σ, w = ⟨{ v.message with
      responseDecoder := some { decoder' with decoder := decoder'.decoder.complete } },
      v.downstream⟩ := ⟨_, rfl⟩
    rw [← hw, hstatus] at hdecoded
    dsimp only
    rw [hdecoded]
    have hmw : w.message.metadata = some metadata := by
      rw [hw]
      exact hmetadata.trans (by rw [hmessage]; exact hm)
    have hforwarded : Responds R o (cfg.codec.Replies I R) 1 false
        (s.alarmed (Decoded.stream response).alarm) w := by
      rw [← Nat.zero_add 1]
      exact halarmed.andThen w (by rw [hw]; exact hid) (by rw [hw]; exact hmetadata)
        (by rw [hw]; exact hrouter) (by rw [hw]; exact hdoes)
    have hrequest : w.requestId = metadata.requestId := by
      unfold requestId
      rw [hmw]
    have hreply : w.responseRequestId = response.requestId := by
      rw [hw]
      simp [responseRequestId, hresponse]
    dsimp only
    rw [hrequest, hreply]
    by_cases hids : response.requestId = metadata.requestId
    · rw [if_neg (by simp [hids])]
      refine ⟨1, .complete, _, rfl, (if_pos ⟨hopen, hids⟩).symm, ?_, ?_⟩
      · exact hforwarded.andThen w.deferredMessage rfl rfl rfl (Downstream.does_deferredMessage _ _)
      · rw [if_pos hids]
        exact ⟨Nat.le_refl 1, fun hne => absurd hopen hne, fun _ _ => rfl⟩
    · rw [if_pos (Ne.symm hids)]
      have hIw : I w.downstream.codec := by
        rw [hforwarded.does.codec]
        cases (Decoded.stream response).alarm <;> exact hI
      obtain ⟨n, d, hexception, hreply', hone⟩ := onResponseException_spec cfg hmw hR hIw
        ("meta protocol " ++ cfg.applicationProtocol ++
          " response: request ID is not equal, " ++ toString metadata.requestId ++ ":" ++
          toString response.requestId) (fun _ => by simp)
      rw [hexception]
      refine ⟨1 + n, .reset, _, rfl, (if_neg fun h => hids h.2).symm,
        hforwarded.andThen _ rfl rfl rfl hreply', ?_⟩
      rw [if_neg hids]
      have hle := hone.le
      exact ⟨by omega, fun _ => Nat.le_add_right 1 n, fun hne => absurd hopen hne⟩
  · rw [if_neg hopen] at hrow
    obtain ⟨rfl, hdoes⟩ := hrow
    refine ⟨0, .reset, _, rfl, (if_neg fun h => hopen h.1).symm, ?_, ?_⟩
    · have hgone := halarmed.andThen v hid hmetadata hrouter hdoes
      exact hgone.andThen (v.onReset.inc .responseErrorCausedConnectionClose) rfl rfl rfl
        ((Downstream.does_deferredMessage _ _).quiet (Downstream.does_inc _ _))
    · split
      · exact ⟨Nat.zero_le 1, fun _ => rfl, fun _ ho => absurd ho hopen⟩
      · exact ⟨Nat.zero_le 2, fun ho => absurd ho hopen, fun _ => rfl⟩

/-- The data cannot be decoded : the client is told. -/
theorem upstreamData_exception {s t : Stream σ}
    (h : Responds R o (cfg.codec.Replies I R) 0 false s t) {metadata : Metadata}
    (hm : t.message.metadata = some metadata) (hI : I s.downstream.codec)
    {responseDecoder : ActiveResponseDecoder σ}
    (hd : t.message.responseDecoder = some responseDecoder) {data rest : Bytes}
    {decoder : DecoderBase} {codec : σ} {what : String}
    (hwhat : cfg.codec.Replies I R → what ≠ "")
    (hdecode : responseDecoder.decoder.decode cfg.codec responseDecoder.codec data =
      (decoder, codec, rest, .throw (.exception what))) :
    ∃ n v, t.upstreamData cfg data = (rest, .reset, v) ∧
      Responds R o (cfg.codec.Replies I R) n true s v ∧
      One (cfg.codec.Replies I R) n s.downstream := by
  obtain ⟨metadata', hm', hR⟩ := h.metadata
  rw [hm] at hm'
  cases hm'
  have hresponds := h.onResponseDecoder fun d => { d with decoder, codec }
  obtain ⟨u, hu⟩ : ∃ u, u = t.onResponseDecoder fun d => { d with decoder, codec } := ⟨_, rfl⟩
  rw [← hu] at hresponds
  have hmu : u.message.metadata = some metadata := by rw [hu]; exact hm
  have hIu : I u.downstream.codec := by rw [hresponds.does.codec]; exact hI
  obtain ⟨n, d, hexception, hdoes, hone⟩ := onResponseException_spec cfg hmu hR hIu what hwhat
  have hanswered :=
    hresponds.andThen ⟨{ u.message with localResponseSent := true }, d⟩ rfl rfl rfl hdoes
  rw [Nat.zero_add] at hanswered
  refine ⟨n, _, ?_, hanswered, hone.of_state hresponds.does.state.symm⟩
  rw [← hexception]
  simp [upstreamData, responseDecoderOnData, hd, hdecode, hu]

/-- The data completes nothing. -/
theorem upstreamData_more {t : Stream σ} {responseDecoder : ActiveResponseDecoder σ}
    (hd : t.message.responseDecoder = some responseDecoder)
    (hstatus : responseDecoder.responseStatus = .moreData) {data rest : Bytes}
    {decoder : DecoderBase} {codec : σ} {decoded : Decoded}
    (hdecode : responseDecoder.decoder.decode cfg.codec responseDecoder.codec data =
      (decoder, codec, rest, decoded))
    (hstream : ∀ response, decoded ≠ .stream response)
    (hexception : ∀ what, decoded ≠ .throw (.exception what)) :
    t.upstreamData cfg data = (rest, .moreData,
      (t.onResponseDecoder fun d => { d with decoder, codec }).alarmed decoded.alarm) := by
  unfold upstreamData responseDecoderOnData
  rw [hd]
  dsimp only
  rw [hdecode]
  cases decoded with
  | waitForData =>
    dsimp only
    rw [hstatus]
    rfl
  | heartbeat response => rfl
  | stream response => exact absurd rfl (hstream response)
  | throw fault =>
    cases fault with
    | exception what => exact absurd rfl (hexception what)
    | panic site => rfl

/-- What the router does with the status of the data. -/
def settle (cfg : Config σ) (endStream : Bool) (status : UpstreamResponseStatus)
    (u : Stream σ) : Stream σ :=
  match status with
  | .complete => u.onResponseComplete.cleanup
  | .reset => u.resetUpstreamStream cfg
  | .moreData | .retry =>
    if endStream then
      (u.onResetStream cfg .remoteConnectionFailure).onResponseComplete.cleanup
    else u

theorem onUpstreamData_eq {s v : Stream σ} {r : UpstreamRequest}
    (hr : s.message.router.upstreamRequest = some r) {data rest : Bytes}
    {status : UpstreamResponseStatus}
    (h : (s.startResponse cfg).upstreamData cfg data = (rest, status, v)) (endStream : Bool) :
    s.onUpstreamData cfg data endStream =
      settle cfg endStream status (v.leaveUpstreamData rest) := by
  unfold onUpstreamData
  rw [hr]
  dsimp only
  rw [h]
  rfl

/-- More data has to come, or the upstream has ended. -/
theorem turns_more {s t : Stream σ} (h : Responds R o (cfg.codec.Replies I R) 0 false s t)
    {metadata : Metadata} (hm : t.message.metadata = some metadata) (hI : I s.downstream.codec)
    {responseDecoder : ActiveResponseDecoder σ}
    (hd : t.message.responseDecoder = some responseDecoder)
    (hstarted : t.message.router.upstreamRequest.any (·.responseStarted) = true)
    {decoder : DecoderBase} {codec : σ}
    (hfresh : ActiveMessage.Fresh I { responseDecoder with decoder, codec })
    (alarm : Option String) (rest : Bytes) (endStream : Bool) :
    ∃ n released phase,
      (if endStream then
        (if metadata.isOneway then n = 0 else One (cfg.codec.Replies I R) n s.downstream) ∧
          released = metadata.isOneway ∧ phase = .finished
      else n = 0 ∧ released = false ∧ phase = .waiting) ∧
      Turns I R o (cfg.codec.Replies I R) n released phase (s.alarmed alarm)
        (settle cfg endStream .moreData (((t.onResponseDecoder fun d =>
          { d with decoder, codec }).alarmed alarm).leaveUpstreamData rest)) := by
  have hresponds := (h.onResponseDecoder fun d => { d with decoder, codec }).alarmed alarm
  have hleave := hresponds.leave rest
  cases endStream with
  | true =>
    have hIu : I ((t.onResponseDecoder fun d =>
        { d with decoder, codec }).alarmed alarm).downstream.codec := by
      rw [hresponds.does.codec]
      cases alarm <;> exact hI
    obtain ⟨n, hn, hturns⟩ := hleave.endStream hm hIu hresponds.does.state
    refine ⟨n, metadata.isOneway, .finished, ⟨?_, rfl, rfl⟩, hturns⟩
    split at hn
    · rwa [if_pos ‹_›]
    · rw [if_neg ‹_›]
      exact hn.of_state (state_alarmed _ s).symm
  | false =>
    obtain ⟨r, c, hholds, -⟩ := h.holds
    refine ⟨0, false, .waiting, ⟨rfl, rfl, rfl⟩, hleave.more ?_ hfresh ?_⟩
    · exact congrArg (·.responseDecoder) (message_onResponseDecoder hd _)
    · rw [hholds.request] at hstarted
      simpa [leaveUpstreamData, onRequest, onRouter, onMessage, onResponseDecoder, alarmed,
        onDownstream, hholds.request] using hstarted

/-- Data from the upstream. -/
theorem turns_onUpstreamData (hk : cfg.codec.Keeps I R) (hc : cfg.RouterOnly) {s : Stream σ}
    {metadata : Metadata} (hm : s.message.metadata = some metadata)
    (hs : s.message.Coherent I R o) (hp : s.message.phase = .waiting) (hI : I s.downstream.codec)
    (data : Bytes) (endStream : Bool) :
    ∃ n released phase,
      UpstreamRow (cfg.codec.Replies I R) metadata s.downstream endStream n released phase
        (s.incoming cfg data) ∧
      Turns I R o (cfg.codec.Replies I R) n released phase (s.alarmed (s.incoming cfg data).alarm)
        (s.onUpstreamData cfg data endStream) := by
  obtain ⟨r, c, hw⟩ := hs.waiting hp
  obtain ⟨D, hD⟩ : ∃ D, D = s.message.responseDecoder.getD { codec := cfg.codec.init } := ⟨_, rfl⟩
  have hfresh : ActiveMessage.Fresh I D := by
    rw [hD]
    cases hr : s.message.responseDecoder with
    | none => exact ⟨hk.init, ⟨rfl, by rintro ⟨⟩, by rintro ⟨⟩⟩, rfl⟩
    | some decoder => exact hw.responseDecoder decoder hr
  have hresponds : Responds R o (cfg.codec.Replies I R) 0 false s (s.startResponse cfg) :=
    responds_startResponse hs hp
  have hstart := startResponse_eq cfg hw
  have hsettle : ∀ {rest status v},
      (s.startResponse cfg).upstreamData cfg data = (rest, status, v) →
      s.onUpstreamData cfg data endStream =
        settle cfg endStream status (v.leaveUpstreamData rest) :=
    fun h => onUpstreamData_eq hw.request h endStream
  generalize s.startResponse cfg = t at hresponds hstart hsettle
  have hmt : t.message.metadata = some metadata := by rw [hstart]; exact hm
  have hdt : t.message.responseDecoder = some D := by rw [hstart, hD]
  have hstarted : t.message.router.upstreamRequest.any (·.responseStarted) = true := by
    rw [hstart]
    rfl
  obtain ⟨decoder, hdecode, hready⟩ :=
    DecoderBase.decode_of_ready hfresh.ready cfg.codec D.codec data
  have hIcodec := hk.decode hfresh.codec data
  have hwhat : ∀ what, (cfg.codec.decode D.codec data).status = .throw (.exception what) →
      cfg.codec.Replies I R → what ≠ "" := by
    intro what hthrow hp
    obtain ⟨what', heq, hne⟩ := hp.throw hfresh.codec hthrow
    cases heq
    exact hne
  have hincoming : s.incoming cfg data = (cfg.codec.decode D.codec data).status.decoded := by
    unfold incoming
    rw [← hD]
    exact congrArg (·.2.2.2) hdecode
  rw [hincoming]
  generalize cfg.codec.decode D.codec data = result at hdecode hready hIcodec hwhat ⊢
  obtain ⟨codec, rest, status⟩ := result
  dsimp only at hdecode hready hIcodec hwhat ⊢
  have hmore : decoder.Ready → (∀ response, status.decoded ≠ .stream response) →
      (∀ what, status.decoded ≠ .throw (.exception what)) → ∃ n released phase,
      (if endStream then
        (if metadata.isOneway then n = 0 else One (cfg.codec.Replies I R) n s.downstream) ∧
          released = metadata.isOneway ∧ phase = .finished
      else n = 0 ∧ released = false ∧ phase = .waiting) ∧
      Turns I R o (cfg.codec.Replies I R) n released phase (s.alarmed status.decoded.alarm)
        (s.onUpstreamData cfg data endStream) := by
    intro hready hstream hexception
    rw [hsettle (upstreamData_more hdt hfresh.responseStatus hdecode hstream hexception)]
    exact turns_more hresponds hmt hI hdt hstarted ⟨hIcodec, hready, hfresh.responseStatus⟩ _ rest
      endStream
  cases status with
  | waitForData => exact hmore (hready (by simp)) (by rintro _ ⟨⟩) (by rintro _ ⟨⟩)
  | throw fault =>
    cases fault with
    | panic site => exact hmore (hready (by simp)) (by rintro _ ⟨⟩) (by rintro _ ⟨⟩)
    | exception what =>
      obtain ⟨n, v, hdata, hanswered, hone⟩ :=
        upstreamData_exception hresponds hmt hI hdt (hwhat what rfl) hdecode
      refine ⟨n, true, .finished, ⟨hone, rfl, rfl⟩, ?_⟩
      rw [hsettle hdata]
      exact (hanswered.leave rest).reset cfg
  | done response =>
    dsimp only [DecodeStatus.decoded] at hdecode hmore ⊢
    by_cases hheartbeat : response.messageType = .heartbeat
    · rw [if_pos hheartbeat] at hmore ⊢
      exact hmore (hready (by simpa using hheartbeat)) (by rintro _ ⟨⟩) (by rintro _ ⟨⟩)
    · rw [if_neg hheartbeat] at hdecode ⊢
      obtain ⟨n, status, v, hdata, hstatus, hdone, hn⟩ :=
        upstreamData_stream hc hresponds hmt hI hdt hdecode
      refine ⟨n, true, .finished, ⟨hn, rfl, rfl⟩, ?_⟩
      rw [hsettle hdata, hstatus]
      split
      · exact (hdone.leave rest).complete
      · exact (hdone.leave rest).reset cfg

end Stream

end MetaProtocolProxy

import MetaProtocolProxy.LifeCycle
import MetaProtocolProxy.DubboProxy
import MetaProtocolProxy.Views

/-!
# What the bytes of an upstream can do

A chunk from the upstream is decoded for one message at most. If the message is no response
the process stops in a place that is not implemented, and with the Dubbo codec nothing else
stops it (`unaborted_iff`). If it is a response and more bytes follow, they stay in the
buffer, and the connection goes back to the pool with them (`returned_onUpstreamData`).
-/

namespace MetaProtocolProxy

variable {σ : Type}

namespace Stream

/-- What the codec leaves of data from the upstream. -/
def unread (cfg : Config σ) (data : Bytes) (s : Stream σ) : Bytes :=
  match (s.startResponse cfg).message.responseDecoder with
  | none => data
  | some decoder => (decoder.decoder.decode cfg.codec decoder.codec data).2.2.1

/-- Nothing behind the decoder takes bytes off the buffer. -/
theorem upstreamData_unread (cfg : Config σ) (data : Bytes) (s : Stream σ) :
    ((s.startResponse cfg).upstreamData cfg data).1 = s.unread cfg data := by
  have hdecoder : ((s.startResponse cfg).responseDecoderOnData cfg data).1 = s.unread cfg data := by
    unfold responseDecoderOnData unread
    generalize s.startResponse cfg = t
    cases t.message.responseDecoder with
    | none => rfl
    | some responseDecoder =>
      dsimp only
      obtain ⟨decoder, codec, rest, decoded⟩ :=
        responseDecoder.decoder.decode cfg.codec responseDecoder.codec data
      rcases decoded with _ | metadata | metadata | what | site
      · rfl
      · rfl
      · dsimp only
        generalize (t.onResponseDecoder fun d => { d with decoder, codec }).onResponseDecoded cfg
          metadata = r
        obtain ⟨_ | ex, u⟩ := r
        · unfold responseDecoded
          dsimp only
          split <;> rfl
        · rfl
      · rfl
      · rfl
  rw [← hdecoder]
  unfold upstreamData
  generalize (s.startResponse cfg).responseDecoderOnData cfg data = r
  obtain ⟨rest, (_ | what) | (_ | _ | _ | _), t⟩ := r
  · rfl
  · rfl
  · rfl
  · dsimp only
    split <;> rfl
  · rfl
  · rfl

/-- Until its status is known a response leaves the connection alone. -/
theorem router_upstreamData (cfg : Config σ) (data : Bytes) {s : Stream σ} {r : UpstreamRequest}
    (h : s.message.router.upstreamRequest = some r) :
    ∃ r', ((s.startResponse cfg).upstreamData cfg data).2.2.message.router =
        { s.message.router with upstreamRequest := some r' } ∧ r'.connData = r.connData := by
  have hblind : ActiveMessage.Blind (σ := σ) (fun m => m.router) :=
    ⟨fun _ => rfl, fun _ _ => rfl, fun _ _ => rfl, fun _ _ => rfl, fun _ _ => rfl⟩
  have hstart : ∃ r', (s.startResponse cfg).message.router =
      { s.message.router with upstreamRequest := some r' } ∧ r'.connData = r.connData := by
    unfold startResponse
    dsimp only
    split
    · exact ⟨r, by rw [← h]; rfl, rfl⟩
    · refine ⟨{ r with responseStarted := true }, ?_, rfl⟩
      simp [onRequest, onRouter, onMessage, startUpstreamResponse, assert, onDownstream, h]
  obtain ⟨r', hr', hconn⟩ := hstart
  exact ⟨r', (view_upstreamData hblind cfg data _).trans hr', hconn⟩

/-- The connection goes back to the pool with the bytes that are left of the data. -/
theorem returned_onUpstreamData (cfg : Config σ) (data : Bytes) (endStream : Bool) {s : Stream σ}
    {r : UpstreamRequest} {c : UpstreamConnection}
    (h : s.message.router.upstreamRequest = some r) (hc : r.connData = some c)
    (hstatus : ((s.startResponse cfg).upstreamData cfg data).2.1 = .complete) :
    (s.onUpstreamData cfg data endStream).message.router.returned =
      s.message.router.returned ++ [{ c with buffer := s.unread cfg data }] := by
  obtain ⟨r', hrouter, hconn⟩ := router_upstreamData cfg data h
  have hrest := upstreamData_unread cfg data s
  unfold onUpstreamData
  rw [h]
  generalize (s.startResponse cfg).upstreamData cfg data = result at hstatus hrest hrouter ⊢
  obtain ⟨rest, status, t⟩ := result
  obtain rfl : status = .complete := hstatus
  obtain rfl : rest = s.unread cfg data := hrest
  replace hrouter : t.message.router = { s.message.router with upstreamRequest := some r' } :=
    hrouter
  simp [leaveUpstreamData, onResponseComplete, cleanup, onRequest, onRouter, onMessage, hrouter,
    hconn,
    hc]

end Stream

namespace ConnectionManager

/-- What `upstreamData` says of the bytes that have come for a message, with the new ones. -/
def responseStatus (cfg : Config σ) (i : ℕ) (data : Bytes) (cm : ConnectionManager σ) :
    UpstreamResponseStatus :=
  (((cm.stream i).startResponse cfg).upstreamData cfg (cm.upstreamBuffer i ++ data)).2.1

/-! ## Frames that are no responses -/

/-- Every message that an upstream completes is a response frame : neither the flag of a request
nor the flag of an event is set. -/
def ResponseFrames (cfg : Config σ) (cm : ConnectionManager σ) : Event → Prop
  | .upstreamData i data _ => ∀ metadata,
    (cm.incoming cfg i data = .heartbeat metadata ∨ cm.incoming cfg i data = .stream metadata) →
      Dubbo.peekByte Dubbo.flagOffset metadata.originMessage &&&
        (Dubbo.messageTypeMask ||| Dubbo.eventMask) = 0
  | _ => True

/-- With the Dubbo codec nothing else stops the process. -/
theorem alarm_eq_none_iff {hessian : Dubbo.Hessian2} {cfg : Config Dubbo.DubboCodec.State}
    (hcodec : cfg.codec = Dubbo.DubboCodec.codec hessian)
    {cm : ConnectionManager Dubbo.DubboCodec.State}
    (h : cm.Alive Dubbo.DubboCodec.Sound Dubbo.DubboCodec.Replyable) {e : Event}
    (he : cm.Enabled cfg e) : cm.alarm cfg e = none ↔ cm.ResponseFrames cfg e := by
  have hk : cfg.codec.Keeps Dubbo.DubboCodec.Sound Dubbo.DubboCodec.Replyable :=
    hcodec ▸ Dubbo.DubboCodec.keeps_codec hessian
  cases e with
  | upstreamData i data endStream =>
    obtain ⟨-, hi, -, hwaiting⟩ := he
    obtain ⟨request, hliving⟩ := h.living i hi
    obtain ⟨s, hs, hincoming⟩ :=
      hliving.incoming hk (phase_of_waiting hliving.coherent hwaiting) data
    have hregular := Dubbo.DubboCodec.regular_decode hessian hs (cm.upstreamBuffer i ++ data)
    have hdecode : cfg.codec.decode s (cm.upstreamBuffer i ++ data) =
        Dubbo.DubboCodec.decode hessian s (cm.upstreamBuffer i ++ data) := by
      rw [hcodec]
      rfl
    unfold alarm ResponseFrames
    dsimp only
    rw [hincoming, hdecode]
    rcases hstatus : (Dubbo.DubboCodec.decode hessian s (cm.upstreamBuffer i ++ data)).status
      with _ | metadata | fault
    · simp [DecodeStatus.decoded, Decoded.alarm]
    · have hflag := (hregular.accepted hstatus).flag
      unfold DecodeStatus.decoded
      by_cases hheartbeat : metadata.messageType = .heartbeat
      · have hne : ¬(metadata.messageType = .response ∨ metadata.messageType = .error) := by
          rw [hheartbeat]
          simp
        rw [hflag] at hne
        simp [hheartbeat, Decoded.alarm, hne]
      · simp [hheartbeat, Decoded.alarm, hflag]
    · obtain ⟨what, rfl, -⟩ := hregular.exception hstatus
      simp [DecodeStatus.decoded, Decoded.alarm]
  | _ => exact iff_of_true rfl trivial

theorem unaborted_step {hessian : Dubbo.Hessian2} {cfg : Config Dubbo.DubboCodec.State}
    (hcodec : cfg.codec = Dubbo.DubboCodec.codec hessian) (hc : cfg.RouterOnly)
    {cm : ConnectionManager Dubbo.DubboCodec.State}
    (h : cm.Alive Dubbo.DubboCodec.Sound Dubbo.DubboCodec.Replyable) {e : Event}
    (he : cm.Enabled cfg e) :
    (cm.step cfg e).downstream.fault = none ↔ cm.ResponseFrames cfg e := by
  have hlived := lived_step (hcodec ▸ Dubbo.DubboCodec.keeps_codec hessian) hc h he
  rw [← alarm_eq_none_iff hcodec h he]
  refine ⟨fun hfault => ?_, fun halarm => ?_⟩
  · by_contra hsome
    have hstopped := hlived.stopped (Option.isSome_iff_ne_none.mpr hsome)
    rw [hfault] at hstopped
    cases hstopped
  · rw [hlived.reads.fault (hcodec ▸ Dubbo.DubboCodec.replies_codec hessian), alarmed, halarm]
    exact he.1

/-- With the Dubbo codec and the router as the only filter, the process stops in no state of a
run exactly if everything that an upstream completes is a response frame. -/
theorem unaborted_iff (hessian : Dubbo.Hessian2) {cfg : Config Dubbo.DubboCodec.State}
    (hcodec : cfg.codec = Dubbo.DubboCodec.codec hessian) (hc : cfg.RouterOnly) {es : List Event}
    (h : (system cfg).Admissible (new cfg) es) :
    (system cfg).Throughout (fun cm => cm.downstream.fault = none) (new cfg) es ↔
      (system cfg).Always (fun cm => cm.ResponseFrames cfg) (new cfg) es := by
  have hk : cfg.codec.Keeps Dubbo.DubboCodec.Sound Dubbo.DubboCodec.Replyable :=
    hcodec ▸ Dubbo.DubboCodec.keeps_codec hessian
  exact Transition.throughout_iff_always
    (J := fun cm => cm.Alive Dubbo.DubboCodec.Sound Dubbo.DubboCodec.Replyable)
    (fun _ _ hcm he => alive_step hk hc hcm he)
    (fun _ _ hcm _ he => unaborted_step hcodec hc hcm he) (alive_new hk) rfl h

/-- The upstream sends a request where a response is due. -/
def requestBack : List Event :=
  [.downstreamData (DubboExample.request 1) false, .upstreamData 0 (DubboExample.request 1) false]

theorem unaborted_requestBack :
    (system (DubboExample.config (some (.ready "host" [])))).Throughout
        (fun cm => cm.downstream.fault = none) (new (DubboExample.config (some (.ready "host" []))))
        requestBack ↔
      (system (DubboExample.config (some (.ready "host" [])))).Always
        (fun cm => cm.ResponseFrames (DubboExample.config (some (.ready "host" []))))
        (new (DubboExample.config (some (.ready "host" [])))) requestBack :=
  unaborted_iff .compact rfl ⟨rfl, rfl⟩ (by decide +kernel)

theorem not_unaborted_requestBack :
    (system (DubboExample.config (some (.ready "host" [])))).Admissible
        (new (DubboExample.config (some (.ready "host" [])))) requestBack ∧
      ¬(system (DubboExample.config (some (.ready "host" [])))).Throughout
        (fun cm => cm.downstream.fault = none) (new (DubboExample.config (some (.ready "host" []))))
        requestBack := by
  refine ⟨by decide +kernel, fun h => ?_⟩
  have hsome : ((system (DubboExample.config (some (.ready "host" [])))).run
      (new (DubboExample.config (some (.ready "host" [])))) requestBack).downstream.fault =
        some "ASSERT(Response || Error)" := by
    decide +kernel
  rw [h.last] at hsome
  cases hsome

end ConnectionManager

end MetaProtocolProxy

import MetaProtocolProxy.Locality
import MetaProtocolProxy.Quiet

/-!
# The moves of a connection

Whatever an event does to a connection, it does by a few moves : the connection reads, takes in
a message or a heartbeat, a message does something, or everything is reset. A property
that each move keeps (`Invariant`) holds after every event (`Holds.step`) and in
every state a connection can come to (`Invariant.run`).
-/

namespace MetaProtocolProxy

variable {σ : Type} {cfg : Config σ} {I : σ → Prop} {R : Metadata → Prop}

theorem Touched.codec {i : ℕ} {closes : Prop} {d d' : Downstream σ} (h : Touched i closes d d') :
    d'.codec = d.codec := by
  induction h with
  | refl => rfl
  | deferredMessage _ ih => exact (Downstream.codec_deferredMessage _ _).trans ih
  | close _ _ _ ih => exact (Downstream.codec_close _ _).trans ih
  | _ => assumption

/-- What the decoder calls back with is a message of the codec. -/
theorem DecoderBase.keeps_decode (hk : cfg.codec.Keeps I R) {s : σ} (hs : I s)
    (decoder : DecoderBase) (data : Bytes) :
    I (decoder.decode cfg.codec s data).2.1 ∧ ∀ metadata,
      (decoder.decode cfg.codec s data).2.2.2 = .heartbeat metadata ∨
        (decoder.decode cfg.codec s data).2.2.2 = .stream metadata → R metadata := by
  have hI := hk.decode hs data
  have hR := fun metadata => @Codec.Keeps.done _ _ _ _ hk _ data metadata hs
  unfold DecoderBase.decode
  dsimp only
  generalize (if decoder.decodeStarted then decoder else decoder.start) = started
  split
  · exact ⟨hs, by rintro _ (⟨⟨⟩⟩ | ⟨⟨⟩⟩)⟩
  · exact ⟨hs, by rintro _ (⟨⟨⟩⟩ | ⟨⟨⟩⟩)⟩
  · generalize cfg.codec.decode s data = decoding at hI hR ⊢
    obtain ⟨s', rest, status⟩ := decoding
    cases status with
    | waitForData => exact ⟨hI, by rintro _ (⟨⟨⟩⟩ | ⟨⟨⟩⟩)⟩
    | throw fault => exact ⟨hI, by rintro _ (⟨⟨⟩⟩ | ⟨⟨⟩⟩)⟩
    | done metadata =>
      have hdone := hR metadata rfl
      dsimp only
      split_ifs
      · exact ⟨hI, by rintro _ (⟨⟨⟩⟩ | ⟨⟨⟩⟩); exact hdone⟩
      · exact ⟨hI, by rintro _ (⟨⟨⟩⟩ | ⟨⟨⟩⟩)⟩
      · exact ⟨hI, by rintro _ (⟨⟨⟩⟩ | ⟨⟨⟩⟩); exact hdone⟩

namespace ConnectionManager

/-- A message that nothing has happened to comes to the front of the list. -/
def newMessage (metadata : Metadata) (cm : ConnectionManager σ) : ConnectionManager σ :=
  { cm with
    created := cm.created + 1
    delivered := cm.delivered ++ [Delivery.stream metadata]
    downstream := { (cm.downstream.inc .requestActive) with
      activeMessageList := cm.created :: cm.downstream.activeMessageList }
    messages := Function.update cm.messages cm.created { id := cm.created } }

theorem newStream_eq_onStream (cfg : Config σ) (metadata : Metadata) (cm : ConnectionManager σ) :
    cm.newStream cfg metadata =
      (cm.newMessage metadata).onStream cm.created (Stream.onStreamDecoded cfg metadata) :=
  rfl

/-- A property that every move of a connection keeps, for a codec with states in `I` that
accepts messages in `R`. -/
structure Invariant (cfg : Config σ) (I : σ → Prop) (R : Metadata → Prop)
    (P : ConnectionManager σ → Prop) : Prop where
  read : ∀ {cm}, P cm → ∀ decoder requestBuffer codec,
    P { cm with decoder, requestBuffer, downstream := { cm.downstream with codec } }
  go : ∀ {cm}, P cm → P { cm with stopped := false }
  halfClose : ∀ {cm}, P cm → cm.stopped = true → P { cm with halfClosed := true }
  stream : ∀ {cm}, P cm → ∀ i message downstream, Touched i True cm.downstream downstream →
    P { cm with downstream, messages := Function.update cm.messages i message }
  newMessage : ∀ {cm}, P cm → ∀ metadata, R metadata → P (cm.newMessage metadata)
  onHeartbeat : ∀ {cm}, P cm → I cm.downstream.codec → ∀ metadata, R metadata →
    P (cm.onHeartbeat cfg metadata).2
  onDecodingError : ∀ {cm}, P cm → P cm.onDecodingError
  resetAndClose : ∀ {cm}, P cm → P cm.resetAndClose
  closed : ∀ {cm}, P cm → ∀ event, P (cm.onDownstream (Downstream.closed event))

/-- An invariant, with what it rests on. -/
structure Holds (I : σ → Prop) (P : ConnectionManager σ → Prop) (cm : ConnectionManager σ) :
    Prop where
  codec : I cm.downstream.codec
  id : ∀ i, (cm.messages i).id = i
  prop : P cm

section Holds

variable {P : ConnectionManager σ → Prop} {cm : ConnectionManager σ}
  (hP : Invariant cfg I R P)
include hP

theorem Holds.setStream (h : Holds I P cm) {i : ℕ} {s : Stream σ} (hid : s.message.id = i)
    (hs : Touched i True cm.downstream s.downstream) : Holds I P (cm.setStream i s) := by
  refine ⟨hs.codec.symm ▸ h.codec, fun j => ?_, hP.stream h.prop i s.message s.downstream hs⟩
  by_cases hj : j = i
  · simpa [ConnectionManager.setStream, hj] using hid
  · simpa [ConnectionManager.setStream, Function.update_of_ne hj] using h.id j

theorem Holds.onStream (h : Holds I P cm) {i : ℕ} {f : Stream σ → Stream σ}
    (hf : Stream.Local cfg i True f) : Holds I P (cm.onStream i f) := by
  obtain ⟨hid, htouched⟩ := hf.touched (s := cm.stream i) (h.id i)
  exact h.setStream hP hid htouched

theorem Holds.panic (h : Holds I P cm) (site : String) :
    Holds I P (cm.onDownstream (Downstream.panic site)) := by
  have hpanic := h.setStream (s := (cm.stream 0).panic site) hP (h.id 0)
    (Touched.panic .refl site)
  simpa [ConnectionManager.setStream, ConnectionManager.onDownstream, stream, Stream.panic,
    Stream.onDownstream] using hpanic

theorem Holds.newStream (h : Holds I P cm) {metadata : Metadata} (hR : R metadata) :
    Holds I P (cm.newStream cfg metadata) := by
  rw [newStream_eq_onStream]
  have hnew : Holds I P (cm.newMessage metadata) := by
    refine ⟨h.codec, fun i => ?_, hP.newMessage h.prop metadata hR⟩
    by_cases hi : i = cm.created
    · simp [newMessage, hi]
    · simpa [newMessage, Function.update_of_ne hi] using h.id i
  exact hnew.onStream hP fun hr _ _ hb =>
    hb.onStreamDecoded hr (fun _ _ => Or.inr trivial) metadata

theorem Holds.onDecodingError (h : Holds I P cm) : Holds I P cm.onDecodingError := by
  refine ⟨?_, h.id, hP.onDecodingError h.prop⟩
  simpa [ConnectionManager.onDecodingError, onDownstream, Downstream.codec_resetAllMessages,
    Downstream.inc, Downstream.codec_close] using h.codec

theorem Holds.resetAndClose (h : Holds I P cm) : Holds I P cm.resetAndClose := by
  refine ⟨?_, h.id, hP.resetAndClose h.prop⟩
  simpa [ConnectionManager.resetAndClose, onDownstream, Downstream.codec_resetAllMessages,
    Downstream.codec_close] using h.codec

theorem Holds.onHeartbeat (h : Holds I P cm) {metadata : Metadata} (hR : R metadata) :
    Holds I P (cm.onHeartbeat cfg metadata).2 := by
  have hprop := hP.onHeartbeat h.prop h.codec metadata hR
  obtain ⟨ws, hcm, -⟩ := onHeartbeat_spec cfg metadata cm
  rw [hcm] at hprop ⊢
  exact ⟨h.codec, h.id, hprop⟩

theorem Holds.go (h : Holds I P cm) : Holds I P { cm with stopped := false } :=
  ⟨h.codec, h.id, hP.go h.prop⟩

theorem Holds.buffer (h : Holds I P cm) (requestBuffer : Bytes) :
    Holds I P { cm with requestBuffer } :=
  ⟨h.codec, h.id, hP.read h.prop cm.decoder requestBuffer cm.downstream.codec⟩

theorem Holds.complete (h : Holds I P cm) : Holds I P cm.complete :=
  ⟨h.codec, h.id, hP.read h.prop cm.decoder.complete cm.requestBuffer cm.downstream.codec⟩

variable (hk : cfg.codec.Keeps I R)
include hk

/-! ## Reading -/

theorem Holds.decode (h : Holds I P cm) : Holds I P (cm.decode cfg).1 ∧ ∀ metadata,
    (cm.decode cfg).2 = .heartbeat metadata ∨ (cm.decode cfg).2 = .stream metadata →
      R metadata := by
  obtain ⟨hI, hR⟩ := DecoderBase.keeps_decode hk h.codec cm.decoder cm.requestBuffer
  exact ⟨⟨hI, h.id, hP.read h.prop _ _ _⟩, hR⟩

theorem Holds.turn (h : Holds I P cm) {cm' : ConnectionManager σ} {again : Bool}
    (hturn : Turn cfg cm cm' again) : Holds I P cm' := by
  obtain ⟨hread, hR⟩ := h.decode hP hk
  cases hturn with
  | wait => exact hread
  | error => exact hread.onDecodingError hP
  | panic => exact hread.panic hP _
  | stream hdecoded => exact (hread.newStream hP (hR _ (Or.inr hdecoded))).complete hP
  | heartbeat hdecoded => exact (hread.onHeartbeat hP (hR _ (Or.inl hdecoded))).complete hP
  | heartbeatError hdecoded =>
    exact (hread.onHeartbeat hP (hR _ (Or.inl hdecoded))).onDecodingError hP
  | heartbeatPanic hdecoded => exact (hread.onHeartbeat hP (hR _ (Or.inl hdecoded))).panic hP _

theorem Holds.dispatch (h : Holds I P cm) : Holds I P (cm.dispatch cfg) :=
  dispatch_rule (fun h => h) (fun h hturn => h.turn hP hk hturn)
    (fun h hturn => h.turn hP hk hturn) h

omit hk in
theorem Holds.after (h : Holds I P cm) {cm' : ConnectionManager σ} (ha : AfterDispatch cm cm') :
    Holds I P cm' := by
  cases ha with
  | more => exact h
  | reset => exact h.resetAndClose hP
  | halfClose hstopped => exact ⟨h.codec, h.id, hP.halfClose h.prop hstopped⟩
  | assert => exact h.panic hP _

theorem Holds.onData (h : Holds I P cm) (data : Bytes) (endStream : Bool) :
    Holds I P (cm.onData cfg data endStream) :=
  ((h.buffer hP (cm.requestBuffer ++ data)).dispatch hP hk).after hP
    (onData_after cfg data endStream cm)

theorem Holds.continueDecoding (h : Holds I P cm) : Holds I P (cm.continueDecoding cfg) :=
  ((h.go hP).dispatch hP hk).after hP (continueDecoding_after cfg cm)

theorem Holds.continueMessage (h : Holds I P cm) (i position : ℕ) :
    Holds I P (cm.continueMessage cfg i position) := by
  have hcontinue := @Stream.touched_continueDecoding _ _ (cm.stream i) cfg (h.id i) position
  unfold ConnectionManager.continueMessage
  generalize (cm.stream i).continueDecoding cfg position = r at hcontinue ⊢
  obtain ⟨_ | _, s⟩ := r
  · exact h.setStream hP hcontinue.1 hcontinue.2
  · exact (h.setStream hP hcontinue.1 hcontinue.2).continueDecoding hP hk

/-! ## Events -/

/-- An invariant holds after every event. -/
theorem Holds.step (h : Holds I P cm) (e : Event) : Holds I P (step cfg cm e) := by
  have hw : cfg.Within True := fun _ _ => Or.inr trivial
  cases e with
  | downstreamData data endStream => exact h.onData hP hk data endStream
  | downstreamClose event =>
    exact ⟨(Downstream.codec_closed event _).symm ▸ h.codec, h.id, hP.closed h.prop event⟩
  | poolReady i host leftover =>
    have hready := h.onStream (i := i) hP
      (f := Stream.onPoolReadyConnection host leftover) fun _ _ _ hb =>
        (hb.onRequest _).onRequest _
    exact (hready.continueMessage hP hk i (routerPosition cfg)).onStream hP
      fun hr _ _ hb => (hb.onRequest _).encodeData hr
  | poolFailure i reason host =>
    have hreset := h.onStream (i := i) hP
      (f := Stream.onPoolFailureReset cfg reason host) fun hr _ _ hb =>
        hb.onPoolFailureReset hr reason host
    unfold ConnectionManager.step onPoolFailure
    cases reason with
    | overflow => exact hreset
    | _ => exact hreset.continueMessage hP hk i (routerPosition cfg)
  | upstreamData i data endStream =>
    exact h.onStream hP fun hr _ _ hb => hb.onUpstreamData hr hw _ endStream
  | upstreamClose i event => exact h.onStream hP fun hr _ _ hb => hb.upstreamClosed hr event
  | continueDecoding i position => exact h.continueMessage hP hk i position
  | continueEncoding i position =>
    exact h.onStream hP fun hr _ _ hb => hb.continueEncoding hr hw position
  | release i => exact h.onStream hP fun hr _ _ hb => hb.destroy hr

/-- An invariant holds throughout a run. -/
theorem Holds.run (h : Holds I P cm) (es : List Event) : Holds I P ((system cfg).run cm es) := by
  induction es generalizing cm with
  | nil => exact h
  | cons e es ih => exact ih (h.step hP hk e)

/-- An invariant that holds of a new connection holds in every state it can come to. -/
theorem Invariant.run (hnew : P (new cfg)) (es : List Event) :
    Holds I P ((system cfg).run (new cfg) es) :=
  Holds.run hP hk ⟨hk.init, fun _ => rfl, hnew⟩ es

end Holds

/-! ## The flags -/

/-- A connection that nothing stops is not half closed. -/
structure Flowing (cm : ConnectionManager σ) : Prop where
  stopped : cm.stopped = false
  halfClosed : cm.halfClosed = false

theorem Flowing.of_eq {cm cm' : ConnectionManager σ} (h : cm.Flowing)
    (hstopped : cm'.stopped = cm.stopped) (hhalfClosed : cm'.halfClosed = cm.halfClosed) :
    cm'.Flowing :=
  ⟨hstopped.trans h.stopped, hhalfClosed.trans h.halfClosed⟩

/-- No move stops the connection. -/
theorem invariant_flowing : Invariant cfg I R (Flowing (σ := σ)) where
  read h _ _ _ := h.of_eq rfl rfl
  go h := ⟨rfl, h.halfClosed⟩
  halfClose h hstopped := absurd (h.stopped.symm.trans hstopped) (by simp)
  stream h _ _ _ _ := h.of_eq rfl rfl
  newMessage h _ _ := h.of_eq rfl rfl
  onHeartbeat := by
    intro cm h _ metadata _
    obtain ⟨ws, hcm, -⟩ := onHeartbeat_spec cfg metadata cm
    rw [hcm]
    exact h.of_eq rfl rfl
  onDecodingError h := h.of_eq rfl rfl
  resetAndClose h := h.of_eq rfl rfl
  closed h _ := h.of_eq rfl rfl

theorem flowing_run (cfg : Config σ) (es : List Event) :
    Holds (fun _ => True) Flowing ((system cfg).run (new cfg) es) :=
  invariant_flowing.run cfg.codec.keeps_true ⟨rfl, rfl⟩ es

end ConnectionManager

end MetaProtocolProxy

import MetaProtocolProxy.Deeds
import MetaProtocolProxy.Moves

/-!
# The course of a connection

What a connection does is split as finely as what its messages do : a message does one deed, is
born, finalized or destroyed, and between that the connection reads, answers a heartbeat or resets
what is pending (`Course`). A property kept by each of these holds in every state of a run
(`Course.run`). Every such state is known to be in order : a message that exists has the request it
was decoded from, whatever was taken off its bytes (`Proper`).
-/

namespace MetaProtocolProxy

variable {σ : Type} {cfg : Config σ} {I : σ → Prop} {R : Metadata → Prop}

namespace ConnectionManager

/-- The messages that exist are the requests decoded so far. -/
structure Proper (I : σ → Prop) (R : Metadata → Prop) (cm : ConnectionManager σ) : Prop where
  codec : I cm.downstream.codec
  id : ∀ i, (cm.messages i).id = i
  created : cm.requests.length = cm.created
  request : ∀ i request, cm.requests[i]? = some request → R request ∧
    ∃ originMessage, (cm.messages i).metadata = some { request with originMessage }

/-- A message that has just been created, with its request, in front of its first filter. -/
def born (metadata : Metadata) (cm : ConnectionManager σ) : Stream σ :=
  ((cm.newMessage metadata).stream cm.created).decoded metadata

/-- A property that everything a connection does keeps, where its messages are in order. -/
structure Course (cfg : Config σ) (I : σ → Prop) (R : Metadata → Prop)
    (P : ConnectionManager σ → Prop) : Prop where
  read : ∀ {cm}, P cm → ∀ decoder requestBuffer codec,
    P { cm with decoder, requestBuffer, downstream := { cm.downstream with codec } }
  go : ∀ {cm}, P cm → P { cm with stopped := false }
  halfClose : ∀ {cm}, P cm → P { cm with halfClosed := true }
  panic : ∀ {cm}, P cm → ∀ site, P (cm.onDownstream (Downstream.panic site))
  deed : ∀ {cm}, Proper I R cm → P cm → ∀ {i}, i < cm.created → ∀ {s},
    Stream.Deed cfg (cm.stream i) s → P (cm.setStream i s)
  newStream : ∀ {cm}, Proper I R cm → P cm → ∀ {metadata}, R metadata → ∀ {s},
    Stream.Acts cfg (cm.born metadata) s →
      P ((cm.newMessage metadata).setStream cm.created s.pause) ∧
      P ((cm.newMessage metadata).setStream cm.created s.finalizeRequest)
  finalizeRequest : ∀ {cm}, Proper I R cm → P cm → ∀ {i}, i < cm.created →
    (cm.messages i).pendingStreamDecoded = true → P (cm.onStream i Stream.finalizeRequest)
  destroy : ∀ {cm}, Proper I R cm → P cm → ∀ {i}, i < cm.created →
    (cm.messages i).destroyed = false → ∀ {s},
    Stream.Acts cfg ((cm.stream i).onDownstream (Downstream.dec .requestActive)) s →
      P (cm.setStream i (s.onMessage fun m => { m with destroyed := true }))
  onHeartbeat : ∀ {cm}, Proper I R cm → P cm → ∀ metadata, R metadata →
    P (cm.onHeartbeat cfg metadata).2
  onDecodingError : ∀ {cm}, P cm → P cm.onDecodingError
  resetAndClose : ∀ {cm}, P cm → P cm.resetAndClose
  closed : ∀ {cm}, P cm → ∀ event, P (cm.onDownstream (Downstream.closed event))

section Proper

variable {cm : ConnectionManager σ}

theorem Proper.lt_created (h : Proper I R cm) {i : ℕ} {request : Metadata}
    (hi : cm.requests[i]? = some request) : i < cm.created :=
  h.created ▸ (List.getElem?_eq_some_iff.mp hi).1

theorem Proper.exists_request (h : Proper I R cm) {i : ℕ} (hi : i < cm.created) :
    ∃ request, cm.requests[i]? = some request :=
  ⟨_, List.getElem?_eq_getElem (h.created.symm ▸ hi)⟩

/-- What keeps the codec and the messages. -/
theorem Proper.of_eq {cm' : ConnectionManager σ} (h : Proper I R cm)
    (hcodec : cm'.downstream.codec = cm.downstream.codec) (hmessages : cm'.messages = cm.messages)
    (hcreated : cm'.created = cm.created) (hrequests : cm'.requests = cm.requests) :
    Proper I R cm' := by
  refine ⟨hcodec ▸ h.codec, fun i => hmessages ▸ h.id i, ?_, fun i request hi => ?_⟩
  · rw [hrequests, hcreated]
    exact h.created
  · rw [hmessages]
    exact h.request i request (hrequests ▸ hi)

theorem Proper.setStream (h : Proper I R cm) {i : ℕ} {s : Stream σ}
    (hid : s.message.id = (cm.messages i).id)
    (hmetadata : ∀ metadata, (cm.messages i).metadata = some metadata →
      ∃ originMessage, s.message.metadata = some { metadata with originMessage })
    (hcodec : s.downstream.codec = cm.downstream.codec) : Proper I R (cm.setStream i s) := by
  refine ⟨hcodec.symm ▸ h.codec, fun j => ?_, h.created, fun j request hj => ?_⟩
  · by_cases hji : j = i
    · subst hji
      simpa [ConnectionManager.setStream] using hid.trans (h.id j)
    · simpa [ConnectionManager.setStream, Function.update_of_ne hji] using h.id j
  · obtain ⟨hR, originMessage, hm⟩ := h.request j request hj
    refine ⟨hR, ?_⟩
    by_cases hji : j = i
    · subst hji
      obtain ⟨originMessage', hm'⟩ := hmetadata _ hm
      exact ⟨originMessage', by simpa [ConnectionManager.setStream] using hm'⟩
    · exact ⟨originMessage, by
        simpa [ConnectionManager.setStream, Function.update_of_ne hji] using hm⟩

theorem requests_newMessage (metadata : Metadata) (cm : ConnectionManager σ) :
    (cm.newMessage metadata).requests = cm.requests ++ [metadata] := by
  simp [requests, newMessage]

/-- A message is born with its request. -/
theorem Proper.born (h : Proper I R cm) {metadata : Metadata} (hR : R metadata) {s : Stream σ}
    (hid : s.message.id = (cm.born metadata).message.id)
    (hrequest : ∀ request, (cm.born metadata).message.metadata = some request →
      ∃ originMessage, s.message.metadata = some { request with originMessage })
    (hcodec : s.downstream.codec = cm.downstream.codec) :
    Proper I R ((cm.newMessage metadata).setStream cm.created s) := by
  have hmetadata : (cm.born metadata).message.metadata = some metadata := by
    simp [ConnectionManager.born, Stream.decoded, Stream.onMessage]
  have hself : ((cm.newMessage metadata).setStream cm.created s).messages cm.created = s.message :=
    Function.update_self _ _ _
  have hother : ∀ {j}, j ≠ cm.created →
      ((cm.newMessage metadata).setStream cm.created s).messages j = cm.messages j := by
    intro j hj
    simp [ConnectionManager.setStream, newMessage, Function.update_of_ne hj]
  have hrequests : ((cm.newMessage metadata).setStream cm.created s).requests =
      cm.requests ++ [metadata] := requests_newMessage metadata cm
  refine ⟨hcodec.symm ▸ h.codec, fun j => ?_, ?_, fun j request hj => ?_⟩
  · by_cases hj : j = cm.created
    · rw [hj, hself, hid]
      simp [ConnectionManager.born, Stream.decoded, Stream.onMessage, Stream.inc,
        Stream.onDownstream, stream, newMessage]
    · rw [hother hj]
      exact h.id j
  · rw [hrequests, List.length_append, h.created]
    rfl
  · rw [hrequests] at hj
    by_cases hlt : j < cm.created
    · rw [List.getElem?_append_left (h.created.symm ▸ hlt)] at hj
      rw [hother (Nat.ne_of_lt hlt)]
      exact h.request j request hj
    · have hlength := (List.getElem?_eq_some_iff.mp hj).1
      rw [List.length_append, h.created, List.length_singleton] at hlength
      obtain rfl : j = cm.created := by omega
      rw [List.getElem?_append_right (Nat.le_of_eq h.created), h.created, Nat.sub_self] at hj
      obtain rfl : metadata = request := Option.some.inj hj
      rw [hself]
      exact ⟨hR, hrequest metadata hmetadata⟩

end Proper

/-- A property that everything keeps, with what it rests on. -/
structure OnCourse (I : σ → Prop) (R : Metadata → Prop) (P : ConnectionManager σ → Prop)
    (cm : ConnectionManager σ) : Prop where
  proper : Proper I R cm
  prop : P cm

/-- Messages that exist go on to exist. -/
theorem course_created (n : ℕ) : Course cfg I R fun cm : ConnectionManager σ => n ≤ cm.created where
  read h _ _ _ := h
  go h := h
  halfClose h := h
  panic h _ := h
  deed _ h _ _ _ _ := h
  newStream _ h _ _ _ _ := ⟨Nat.le_succ_of_le h, Nat.le_succ_of_le h⟩
  finalizeRequest _ h _ _ _ := h
  destroy _ h _ _ _ _ _ := h
  onHeartbeat := by
    intro cm _ h metadata _
    obtain ⟨ws, hcm, -⟩ := onHeartbeat_spec cfg metadata cm
    rw [hcm]
    exact h
  onDecodingError h := h
  resetAndClose h := h
  closed h _ := h

section OnCourse

variable {P : ConnectionManager σ → Prop} {cm cm' : ConnectionManager σ}
  (hP : Course cfg I R P)
include hP

/-! ## Messages -/

theorem OnCourse.acts (h : OnCourse I R P cm) {i : ℕ} (hi : i < cm.created) {s : Stream σ}
    (hs : Stream.Acts cfg (cm.stream i) s) : OnCourse I R P (cm.setStream i s) := by
  induction hs with
  | refl => simpa [ConnectionManager.setStream, stream] using h
  | @tail t u _ hd ih =>
    have hd' : Stream.Deed cfg ((cm.setStream i t).stream i) u := by rwa [stream_setStream]
    have hmessage : (cm.setStream i t).messages i = t.message := Function.update_self _ _ _
    have hprop := hP.deed ih.proper ih.prop hi hd'
    have hproper := ih.proper.setStream (i := i) (s := u) (by rw [hmessage]; exact hd.still.id)
      (by rw [hmessage]; exact hd.still.metadata) hd.codec
    rw [setStream_setStream] at hprop hproper
    exact ⟨hproper, hprop⟩

theorem OnCourse.onStream (h : OnCourse I R P cm) {i : ℕ} (hi : i < cm.created)
    {f : Stream σ → Stream σ} (hf : ∀ s, Stream.Acts cfg s (f s)) :
    OnCourse I R P (cm.onStream i f) :=
  h.acts hP hi (hf _)

theorem OnCourse.finalizeRequest (h : OnCourse I R P cm) {i : ℕ} (hi : i < cm.created)
    (hpending : (cm.messages i).pendingStreamDecoded = true) :
    OnCourse I R P (cm.onStream i Stream.finalizeRequest) := by
  refine ⟨h.proper.setStream ?_ ?_ (Stream.quiet_finalizeRequest _).codec,
    hP.finalizeRequest h.proper h.prop hi hpending⟩
  · rw [Stream.message_finalizeRequest]
    rfl
  · rw [Stream.message_finalizeRequest]
    exact fun metadata hm => ⟨metadata.originMessage, hm⟩

theorem OnCourse.newStream (h : OnCourse I R P cm) {metadata : Metadata} (hR : R metadata) :
    OnCourse I R P (cm.newStream cfg metadata) := by
  obtain ⟨t, hacts, ht⟩ := Stream.onStreamDecoded_acts cfg metadata
    ((cm.newMessage metadata).stream cm.created)
  have hstill := hacts.still
  have hprop := hP.newStream h.proper h.prop hR hacts
  have heq : cm.newStream cfg metadata = (cm.newMessage metadata).setStream cm.created
      (((cm.newMessage metadata).stream cm.created).onStreamDecoded cfg metadata) :=
    newStream_eq_onStream cfg metadata cm
  rw [heq]
  rcases ht with ht | ht
  · rw [ht]
    exact ⟨h.proper.born hR hstill.id hstill.metadata hacts.codec, hprop.1⟩
  · rw [ht]
    refine ⟨h.proper.born hR ?_ ?_ ((Stream.quiet_finalizeRequest t).codec.trans hacts.codec),
      hprop.2⟩
    · rw [Stream.message_finalizeRequest]
      exact hstill.id
    · rw [Stream.message_finalizeRequest]
      exact hstill.metadata

theorem OnCourse.destroy (h : OnCourse I R P cm) {i : ℕ} (hi : i < cm.created)
    (hdestroyed : (cm.messages i).destroyed = false) :
    OnCourse I R P (cm.onStream i (Stream.destroy cfg)) := by
  obtain ⟨t, hacts, ht⟩ := Stream.destroy_acts cfg (cm.stream i)
  have hstill := hacts.still
  have hprop := hP.destroy h.proper h.prop hi hdestroyed hacts
  rw [ConnectionManager.onStream, ht]
  exact ⟨h.proper.setStream hstill.id hstill.metadata hacts.codec, hprop⟩

/-! ## Reading -/

theorem OnCourse.panic (h : OnCourse I R P cm) (site : String) :
    OnCourse I R P (cm.onDownstream (Downstream.panic site)) :=
  ⟨h.proper.of_eq rfl rfl rfl rfl, hP.panic h.prop site⟩

theorem OnCourse.onDecodingError (h : OnCourse I R P cm) :
    OnCourse I R P cm.onDecodingError := by
  refine ⟨h.proper.of_eq ?_ rfl rfl rfl, hP.onDecodingError h.prop⟩
  simp [ConnectionManager.onDecodingError, onDownstream, Downstream.codec_resetAllMessages,
    Downstream.inc, Downstream.codec_close]

theorem OnCourse.resetAndClose (h : OnCourse I R P cm) : OnCourse I R P cm.resetAndClose := by
  refine ⟨h.proper.of_eq ?_ rfl rfl rfl, hP.resetAndClose h.prop⟩
  simp [ConnectionManager.resetAndClose, onDownstream, Downstream.codec_resetAllMessages,
    Downstream.codec_close]

theorem OnCourse.onHeartbeat (h : OnCourse I R P cm) {metadata : Metadata} (hR : R metadata) :
    OnCourse I R P (cm.onHeartbeat cfg metadata).2 := by
  have hprop := hP.onHeartbeat h.proper h.prop metadata hR
  obtain ⟨ws, hcm, -⟩ := onHeartbeat_spec cfg metadata cm
  rw [hcm] at hprop ⊢
  refine ⟨h.proper.of_eq rfl rfl rfl ?_, hprop⟩
  simp [requests]

theorem OnCourse.go (h : OnCourse I R P cm) : OnCourse I R P { cm with stopped := false } :=
  ⟨h.proper.of_eq rfl rfl rfl rfl, hP.go h.prop⟩

theorem OnCourse.buffer (h : OnCourse I R P cm) (requestBuffer : Bytes) :
    OnCourse I R P { cm with requestBuffer } :=
  ⟨h.proper.of_eq rfl rfl rfl rfl, hP.read h.prop cm.decoder requestBuffer cm.downstream.codec⟩

theorem OnCourse.complete (h : OnCourse I R P cm) : OnCourse I R P cm.complete :=
  ⟨h.proper.of_eq rfl rfl rfl rfl,
    hP.read h.prop cm.decoder.complete cm.requestBuffer cm.downstream.codec⟩

theorem OnCourse.after (h : OnCourse I R P cm) (ha : AfterDispatch cm cm') :
    OnCourse I R P cm' := by
  cases ha with
  | more => exact h
  | reset => exact h.resetAndClose hP
  | halfClose hstopped => exact ⟨h.proper.of_eq rfl rfl rfl rfl, hP.halfClose h.prop⟩
  | assert => exact h.panic hP _

variable (hk : cfg.codec.Keeps I R)
include hk

theorem OnCourse.decode (h : OnCourse I R P cm) : OnCourse I R P (cm.decode cfg).1 ∧
    ∀ metadata, (cm.decode cfg).2 = .heartbeat metadata ∨ (cm.decode cfg).2 = .stream metadata →
      R metadata := by
  obtain ⟨hI, hR⟩ := DecoderBase.keeps_decode hk h.proper.codec cm.decoder cm.requestBuffer
  exact ⟨⟨⟨hI, h.proper.id, h.proper.created, h.proper.request⟩, hP.read h.prop _ _ _⟩, hR⟩

theorem OnCourse.turn (h : OnCourse I R P cm) {again : Bool} (hturn : Turn cfg cm cm' again) :
    OnCourse I R P cm' := by
  obtain ⟨hread, hR⟩ := h.decode hP hk
  cases hturn with
  | wait => exact hread
  | error => exact hread.onDecodingError hP
  | panic => exact hread.panic hP _
  | stream hdecoded => exact (hread.newStream hP (hR _ (Or.inr hdecoded))).complete hP
  | heartbeat hdecoded => exact (hread.onHeartbeat hP (hR _ (Or.inl hdecoded))).complete hP
  | heartbeatError hdecoded =>
    exact (hread.onHeartbeat hP (hR _ (Or.inl hdecoded))).onDecodingError hP
  | heartbeatPanic hdecoded => exact (hread.onHeartbeat hP (hR _ (Or.inl hdecoded))).panic hP _

theorem OnCourse.dispatch (h : OnCourse I R P cm) : OnCourse I R P (cm.dispatch cfg) :=
  dispatch_rule (fun h => h) (fun h hturn => h.turn hP hk hturn)
    (fun h hturn => h.turn hP hk hturn) h

theorem OnCourse.onData (h : OnCourse I R P cm) (data : Bytes) (endStream : Bool) :
    OnCourse I R P (cm.onData cfg data endStream) :=
  ((h.buffer hP (cm.requestBuffer ++ data)).dispatch hP hk).after hP
    (onData_after cfg data endStream cm)

theorem OnCourse.continueDecoding (h : OnCourse I R P cm) :
    OnCourse I R P (cm.continueDecoding cfg) :=
  ((h.go hP).dispatch hP hk).after hP (continueDecoding_after cfg cm)

theorem OnCourse.continueMessage (h : OnCourse I R P cm) {i : ℕ} (hi : i < cm.created)
    (position : ℕ) : OnCourse I R P (cm.continueMessage cfg i position) := by
  obtain ⟨t, hacts, ht⟩ := Stream.continueDecoding_acts cfg position (cm.stream i)
  have hset : OnCourse I R P
      (cm.setStream i ((cm.stream i).continueDecoding cfg position).2) := by
    have hon := h.acts hP hi hacts
    rcases ht with ht | ⟨hpending, ht⟩
    · rw [ht]
      exact hon
    · have hmessage : (cm.setStream i t).messages i = t.message := Function.update_self _ _ _
      have hfinal := hon.finalizeRequest hP hi (by rw [hmessage]; exact hpending)
      rw [ConnectionManager.onStream, stream_setStream, setStream_setStream] at hfinal
      rw [ht]
      exact hfinal
  unfold ConnectionManager.continueMessage
  generalize (cm.stream i).continueDecoding cfg position = r at hset ⊢
  obtain ⟨_ | _, s⟩ := r
  · exact hset
  · exact hset.continueDecoding hP hk

/-! ## Events -/

/-- The property holds after every event. -/
theorem OnCourse.step (h : OnCourse I R P cm) {e : Event} (he : cm.Permitted cfg e) :
    OnCourse I R P (step cfg cm e) := by
  cases e with
  | downstreamData data endStream => exact h.onData hP hk data endStream
  | downstreamClose event =>
    exact ⟨h.proper.of_eq (Downstream.codec_closed event _) rfl rfl rfl, hP.closed h.prop event⟩
  | poolReady i host leftover =>
    have hready := h.onStream hP he.1 (Stream.acts_onPoolReadyConnection host leftover)
    have hcontinue := hready.continueMessage hP hk he.1 (routerPosition cfg)
    have hstays : i < ((cm.onStream i (Stream.onPoolReadyConnection host leftover)).continueMessage
        cfg i (routerPosition cfg)).created :=
      (OnCourse.continueMessage (course_created (i + 1)) hk ⟨hready.proper, he.1⟩ he.1 _).prop
    exact hcontinue.onStream hP hstays fun s =>
      (Stream.acts_onRequestComplete s).trans (Stream.acts_encodeData _)
  | poolFailure i reason host =>
    have hreset := h.onStream hP he.1 (Stream.acts_onPoolFailureReset reason host)
    unfold ConnectionManager.step onPoolFailure
    cases reason with
    | overflow => exact hreset
    | _ => exact hreset.continueMessage hP hk he.1 (routerPosition cfg)
  | upstreamData i data endStream =>
    exact h.onStream hP he.1 (Stream.acts_onUpstreamData _ endStream)
  | upstreamClose i event => exact h.onStream hP he.1 (Stream.acts_upstreamClosed event)
  | continueDecoding i position => exact h.continueMessage hP hk he.1 position
  | continueEncoding i position => exact h.onStream hP he.1 (Stream.acts_continueEncoding position)
  | release i => exact h.destroy hP he.1 he.2.1

/-- It holds in every state of a run. -/
theorem OnCourse.run (h : OnCourse I R P cm) {es : List Event}
    (hes : (system cfg).Admissible cm es) : OnCourse I R P ((system cfg).run cm es) := by
  induction es generalizing cm with
  | nil => exact h
  | cons e es ih => exact ih (h.step hP hk hes.1.2) hes.2

omit hP in
theorem proper_new : Proper I R (new cfg) :=
  ⟨hk.init, fun _ => rfl, rfl, by rintro i request ⟨⟩⟩

theorem Course.run (hnew : P (new cfg)) {es : List Event}
    (hes : (system cfg).Admissible (new cfg) es) :
    OnCourse I R P ((system cfg).run (new cfg) es) :=
  OnCourse.run hP hk ⟨proper_new hk, hnew⟩ hes

end OnCourse

end ConnectionManager

end MetaProtocolProxy

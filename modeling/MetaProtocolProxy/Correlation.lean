import MetaProtocolProxy.DubboProxy
import MetaProtocolProxy.Quiet

/-!
# Which response answers which request

A response is written inside the callback of the response decoder, and its request id is
compared with the request's when the callback has returned. So the comparison does not
guard the write : a message of the upstream that the encoder filters let through is
forwarded whatever its id, and the requests of a run are answered by responses with their
own ids exactly if no such message has another id (`correlated_iff`).
-/

namespace MetaProtocolProxy

variable {σ : Type}

/-- Every forwarded response that answers message `i` has the id `requestId`. -/
def Downstream.Answers (i : ℕ) (requestId : UInt64) (d : Downstream σ) : Prop :=
  ∀ w ∈ d.written, w.message = some i → ∀ metadata, w.reply = .upstreamResponse metadata →
    metadata.requestId = requestId

namespace Stream

/-! ## The ids of the responses -/

theorem Quiet.answers_iff {s s' : Stream σ} (h : Quiet s s') (i : ℕ) (r : UInt64) :
    s'.downstream.Answers i r ↔ s.downstream.Answers i r := by
  obtain ⟨ws, hws, hall⟩ := h.written
  unfold Downstream.Answers
  rw [hws]
  refine ⟨fun ha w hw => ha w (List.mem_append_left _ hw), fun ha w hw hi metadata hreply => ?_⟩
  rcases List.mem_append.mp hw with hw | hw
  · exact ha w hw hi metadata hreply
  · obtain ⟨-, error, herror⟩ := hall w hw
    rw [herror] at hreply
    cases hreply

theorem Forwards.answers_iff {s s' : Stream σ} {r' : UInt64} (h : Forwards r' s s')
    (r : UInt64) : s'.downstream.Answers s.message.id r ↔
      s.downstream.Answers s.message.id r ∧ r' = r := by
  obtain ⟨ws, ws', metadata, hws, hr, hall⟩ := h.written
  unfold Downstream.Answers
  rw [hws]
  refine ⟨fun ha => ⟨fun w hw => ha w (by simp [hw]), ?_⟩, ?_⟩
  · rw [← hr]
    exact ha _ (List.mem_append_left _ (List.mem_append_right _ (List.mem_singleton_self _))) rfl
      metadata rfl
  · rintro ⟨ha, rfl⟩ w hw hi metadata' hreply
    have hlocal : w ∈ ws ++ ws' → metadata'.requestId = r' := by
      intro hw
      obtain ⟨-, error, herror⟩ := hall w hw
      rw [herror] at hreply
      cases hreply
    rw [List.mem_append, List.mem_append, List.mem_append, List.mem_singleton] at hw
    rcases hw with ((hw | hw) | rfl) | hw
    · exact ha w hw hi metadata' hreply
    · exact hlocal (List.mem_append_left _ hw)
    · cases hreply
      exact hr
    · exact hlocal (List.mem_append_right _ hw)

theorem Forwards.answers_other {s s' : Stream σ} {r' : UInt64} (h : Forwards r' s s') {j : ℕ}
    (hj : j ≠ s.message.id) (r : UInt64) :
    s'.downstream.Answers j r ↔ s.downstream.Answers j r := by
  obtain ⟨ws, ws', metadata, hws, -, hall⟩ := h.written
  unfold Downstream.Answers
  rw [hws]
  refine ⟨fun ha w hw => ha w (by simp [hw]), fun ha w hw hi metadata' hreply => ?_⟩
  have hother : w ∈ ws ++ ws' → metadata'.requestId = r := by
    intro hw
    obtain ⟨hmessage, -⟩ := hall w hw
    rw [hi] at hmessage
    exact absurd (Option.some.inj hmessage) hj
  rw [List.mem_append, List.mem_append, List.mem_append, List.mem_singleton] at hw
  rcases hw with ((hw | hw) | rfl) | hw
  · exact ha w hw hi metadata' hreply
  · exact hother (List.mem_append_left _ hw)
  · exact absurd (Option.some.inj hi).symm hj
  · exact hother (List.mem_append_right _ hw)

end Stream

/-! ## Runs -/

namespace ConnectionManager

/-- Bytes of an upstream message are the answer to a request only if the ids are equal. -/
def Correlated (cm : ConnectionManager σ) : Prop :=
  ∀ i, cm.downstream.Answers i (cm.stream i).requestId

/-- Data from the upstream forwards no response with another id than the request's. -/
def Corresponds (cfg : Config σ) (cm : ConnectionManager σ) : Event → Prop
  | .upstreamData i data _ => ∀ metadata,
    (cm.stream i).forwarding cfg (cm.upstreamBuffer i ++ data) = some metadata →
      metadata.requestId = (cm.stream i).requestId
  | _ => True

/-- Every message with a local reply knows that it has one. -/
def Replied (cm : ConnectionManager σ) : Prop :=
  ∀ i, (cm.stream i).Replied

/-- From `cm` to `cm'` no response is forwarded. -/
structure Silent (cm cm' : ConnectionManager σ) : Prop where
  numbered : cm.Numbered → cm'.Numbered
  created : cm.created ≤ cm'.created
  correlated : cm.Numbered → (cm'.Correlated ↔ cm.Correlated)
  replied : cm.Numbered → cm.Replied → cm'.Replied
  written : ∃ ws, cm'.downstream.written = cm.downstream.written ++ ws ∧
    ∀ w ∈ ws, ∀ metadata, w.reply ≠ .upstreamResponse metadata

theorem Silent.refl (cm : ConnectionManager σ) : Silent cm cm :=
  ⟨id, Nat.le_refl _, fun _ => Iff.rfl, fun _ => id, [], by simp, by simp⟩

theorem Silent.trans {cm cm' cm'' : ConnectionManager σ} (h : Silent cm cm')
    (h' : Silent cm' cm'') : Silent cm cm'' := by
  obtain ⟨ws, hws, hall⟩ := h.written
  obtain ⟨ws', hws', hall'⟩ := h'.written
  refine ⟨fun hn => h'.numbered (h.numbered hn), Nat.le_trans h.created h'.created,
    fun hn => (h'.correlated (h.numbered hn)).trans (h.correlated hn),
    fun hn hr => h'.replied (h.numbered hn) (h.replied hn hr), ws ++ ws', ?_, fun w hw => ?_⟩
  · rw [hws', hws, List.append_assoc]
  · rcases List.mem_append.mp hw with hw | hw
    · exact hall w hw
    · exact hall' w hw

/-- What a message has written carries its number. -/
theorem Numbered.setStream {cm : ConnectionManager σ} {i : ℕ} (hi : i < cm.created) {s : Stream σ}
    (hn : cm.Numbered) (hid : s.message.id = (cm.stream i).message.id) {ws : List Write}
    (hws : s.downstream.written = cm.downstream.written ++ ws)
    (hall : ∀ w ∈ ws, w.message = some (cm.stream i).message.id) : (cm.setStream i s).Numbered := by
  refine ⟨fun j => ?_, fun w hw j hj => ?_⟩
  · by_cases hj : j = i
    · subst hj
      simpa [ConnectionManager.setStream] using hid.trans (hn.id j)
    · simpa [ConnectionManager.setStream, Function.update_of_ne hj] using hn.id j
  · have hw' : w ∈ cm.downstream.written ++ ws := hws ▸ hw
    rcases List.mem_append.mp hw' with hw' | hw'
    · exact hn.written w hw' j hj
    · have hmessage := hall w hw'
      rw [hj] at hmessage
      obtain rfl : j = (cm.stream i).message.id := Option.some.inj hmessage
      rw [hn.stream_id i]
      exact hi

theorem correlated_setStream_iff {cm : ConnectionManager σ} {i : ℕ} {s : Stream σ}
    (hid : s.requestId = (cm.stream i).requestId) :
    (cm.setStream i s).Correlated ↔ ∀ j, s.downstream.Answers j (cm.stream j).requestId := by
  refine forall_congr' fun j => ?_
  have hdown : (cm.setStream i s).downstream = s.downstream := rfl
  rw [hdown]
  by_cases hj : j = i
  · subst hj
    rw [← hid]
    simp [setStream, stream, Stream.requestId]
  · simp [setStream, stream, Stream.requestId, Function.update_of_ne hj]

/-- Messages whose number is not on the new writes know of their local replies as before. -/
theorem Replied.of_written {s s' : Stream σ} (hm : s'.message = s.message) {ws : List Write}
    (hws : s'.downstream.written = s.downstream.written ++ ws)
    (hall : ∀ w ∈ ws, w.message ≠ some s.message.id) (h : s.Replied) : s'.Replied := by
  unfold Stream.Replied at h ⊢
  rw [hm, hws]
  intro w hw hlocal
  rcases List.mem_append.mp hw with hw | hw
  · exact h w hw hlocal
  · simp [Write.isLocalReply, hall w hw] at hlocal

theorem Replied.setStream {cm : ConnectionManager σ} {i : ℕ} {s : Stream σ} (hn : cm.Numbered)
    (h : cm.Replied) (hs : s.Replied) {ws : List Write}
    (hws : s.downstream.written = cm.downstream.written ++ ws)
    (hall : ∀ w ∈ ws, w.message = some (cm.stream i).message.id) : (cm.setStream i s).Replied := by
  intro j
  by_cases hj : j = i
  · subst hj
    rw [stream_setStream]
    exact hs
  · have hmessage : ((cm.setStream i s).stream j).message = (cm.stream j).message :=
      Function.update_of_ne hj _ _
    refine of_written hmessage hws (fun w hw => ?_) (h j)
    rw [hall w hw, hn.stream_id i,
      hn.stream_id j]
    exact fun h => hj (Option.some.inj h).symm

/-- What a message does without forwarding. -/
theorem silent_setStream {cm : ConnectionManager σ} {i : ℕ} (hi : i < cm.created) {s : Stream σ}
    (h : Stream.Quiet (cm.stream i) s) : Silent cm (cm.setStream i s) := by
  obtain ⟨ws, hws, hall⟩ := h.written
  refine ⟨fun hn => hn.setStream hi h.id hws fun w hw => (hall w hw).1, Nat.le_refl _,
    fun _ => (correlated_setStream_iff h.requestId).trans ?_,
    fun hn hr => hr.setStream hn (h.replied (hr i)) hws fun w hw => (hall w hw).1, ws, hws,
    fun w hw metadata hreply => ?_⟩
  · exact forall_congr' fun j => h.answers_iff j _
  · obtain ⟨-, error, herror⟩ := hall w hw
    rw [herror] at hreply
    cases hreply

theorem silent_onStream {cm : ConnectionManager σ} {i : ℕ} (hi : i < cm.created)
    {f : Stream σ → Stream σ} (h : Stream.Quiet (cm.stream i) (f (cm.stream i))) :
    Silent cm (cm.onStream i f) :=
  silent_setStream hi h

/-- What the connection does on its own : no message changes, and nothing is written but
heartbeat replies. -/
theorem silent_of_same {cm cm' : ConnectionManager σ} (hmessages : cm'.messages = cm.messages)
    (hcreated : cm'.created = cm.created)
    (hwritten : ∃ ws, cm'.downstream.written = cm.downstream.written ++ ws ∧
      ∀ w ∈ ws, w.message = none ∧ w.reply = .heartbeat) : Silent cm cm' := by
  obtain ⟨ws, hws, hall⟩ := hwritten
  refine ⟨fun hn => ⟨by rw [hmessages]; exact hn.id, fun w hw i hi => ?_⟩,
    Nat.le_of_eq hcreated.symm,
    fun hn => forall_congr' fun i => ?_, fun hn hr i => ?_, ws, hws, fun w hw metadata hreply => ?_⟩
  · rw [hws] at hw
    rw [hcreated]
    rcases List.mem_append.mp hw with hw | hw
    · exact hn.written w hw i hi
    · rw [(hall w hw).1] at hi
      cases hi
  · have hid : (cm'.stream i).requestId = (cm.stream i).requestId := by
      simp [stream, Stream.requestId, hmessages]
    unfold Downstream.Answers
    rw [hid, hws]
    refine ⟨fun ha w hw => ha w (List.mem_append_left _ hw), fun ha w hw hi metadata hreply => ?_⟩
    rcases List.mem_append.mp hw with hw | hw
    · exact ha w hw hi metadata hreply
    · rw [(hall w hw).1] at hi
      cases hi
  · have hmessage : (cm'.stream i).message = (cm.stream i).message := by simp [stream, hmessages]
    refine Replied.of_written hmessage hws (fun w hw => ?_) (hr i)
    rw [(hall w hw).1]
    rintro ⟨⟩
  · rw [(hall w hw).2] at hreply
    cases hreply

theorem silent_onDownstream {cm : ConnectionManager σ} {f : Downstream σ → Downstream σ}
    (h : (f cm.downstream).written = cm.downstream.written) : Silent cm (cm.onDownstream f) :=
  silent_of_same rfl rfl ⟨[], by simpa [onDownstream] using h, by simp⟩

theorem silent_newStream (cfg : Config σ) (metadata : Metadata) (cm : ConnectionManager σ) :
    Silent cm (cm.newStream cfg metadata) := by
  obtain ⟨hid, -, hreplied, ws, hws, hall⟩ := Stream.onStreamDecoded_written cfg metadata
    (⟨{ id := cm.created }, { (cm.downstream.inc .requestActive) with
        activeMessageList := cm.created :: cm.downstream.activeMessageList }⟩ : Stream σ)
  rw [newStream_eq]
  dsimp only at hid hws hall hreplied
  generalize (⟨{ id := cm.created }, { (cm.downstream.inc .requestActive) with
    activeMessageList := cm.created :: cm.downstream.activeMessageList }⟩ :
      Stream σ).onStreamDecoded cfg metadata = t at hid hws hreplied ⊢
  replace hws : t.downstream.written = cm.downstream.written ++ ws := hws
  have hlocal : ∀ w ∈ ws, ∀ m, w.reply ≠ .upstreamResponse m := by
    intro w hw m hm
    obtain ⟨-, error, herror⟩ := hall w hw
    rw [herror] at hm
    cases hm
  refine ⟨fun hn => ⟨fun j => ?_, fun w hw j hj => ?_⟩, Nat.le_succ _,
    fun hn => forall_congr' fun j => ?_, fun hn hr j => ?_, ws, hws, hlocal⟩
  · by_cases hj : j = cm.created
    · subst hj
      simpa using hid
    · simpa [Function.update_of_ne hj] using hn.id j
  · have hw' : w ∈ cm.downstream.written ++ ws := hws ▸ hw
    rcases List.mem_append.mp hw' with hw' | hw'
    · exact Nat.lt_succ_of_lt (hn.written w hw' j hj)
    · rw [(hall w hw').1] at hj
      obtain rfl : cm.created = j := Option.some.inj hj
      exact Nat.lt_succ_self _
  · unfold Downstream.Answers stream
    dsimp only
    rw [hws]
    by_cases hj : j = cm.created
    · subst hj
      refine ⟨fun _ w hw hi => absurd (hn.written w hw _ hi) (Nat.lt_irrefl _),
        fun _ w hw hi m hm => ?_⟩
      rcases List.mem_append.mp hw with hw | hw
      · exact absurd (hn.written w hw _ hi) (Nat.lt_irrefl _)
      · exact (hlocal w hw m hm).elim
    · rw [Function.update_of_ne hj]
      refine ⟨fun ha w hw => ha w (List.mem_append_left _ hw), fun ha w hw hi m hm => ?_⟩
      rcases List.mem_append.mp hw with hw | hw
      · exact ha w hw hi m hm
      · exact (hlocal w hw m hm).elim
  · by_cases hj : j = cm.created
    · subst hj
      have hown : t.Replied := hreplied fun w hw hreply => by
        have hmessage : w.message = some cm.created := by
          simp only [Write.isLocalReply, Bool.and_eq_true, decide_eq_true_eq] at hreply
          exact hreply.1.1
        exact absurd (hn.written w hw _ hmessage) (Nat.lt_irrefl _)
      simpa [stream] using hown
    · have hmessage : Function.update cm.messages cm.created t.message j = cm.messages j :=
        Function.update_of_ne hj _ _
      refine Replied.of_written (s := cm.stream j) hmessage hws (fun w hw => ?_) (hr j)
      rw [(hall w hw).1, hn.stream_id j]
      exact fun h => hj (Option.some.inj h).symm

theorem silent_onHeartbeat (cfg : Config σ) (metadata : Metadata) (cm : ConnectionManager σ) :
    Silent cm (cm.onHeartbeat cfg metadata).2 := by
  obtain ⟨ws, hcm, hws⟩ := onHeartbeat_spec cfg metadata cm
  rw [hcm]
  exact silent_of_same rfl rfl ⟨ws, rfl, hws⟩

theorem silent_onDecodingError (cm : ConnectionManager σ) : Silent cm cm.onDecodingError :=
  silent_of_same rfl rfl ⟨[], by
    simp [onDecodingError, onDownstream, Downstream.written_resetAllMessages, Downstream.inc,
      Downstream.written_close], by simp⟩

theorem silent_decode (cfg : Config σ) (cm : ConnectionManager σ) :
    Silent cm (cm.decode cfg).1 :=
  silent_of_same rfl rfl ⟨[], by simp [decode], by simp⟩

theorem silent_complete (cm : ConnectionManager σ) : Silent cm cm.complete :=
  silent_of_same rfl rfl ⟨[], by simp [complete], by simp⟩

theorem silent_panic (site : String) (cm : ConnectionManager σ) :
    Silent cm (cm.onDownstream (Downstream.panic site)) :=
  silent_onDownstream rfl

theorem silent_turn {cfg : Config σ} {cm cm' : ConnectionManager σ} {again : Bool}
    (h : Turn cfg cm cm' again) : Silent cm cm' := by
  have hdecode := silent_decode cfg cm
  have hheartbeat := fun metadata => hdecode.trans (silent_onHeartbeat cfg metadata _)
  cases h with
  | wait => exact hdecode
  | error => exact hdecode.trans (silent_onDecodingError _)
  | panic => exact hdecode.trans (silent_panic _ _)
  | stream => exact hdecode.trans ((silent_newStream cfg _ _).trans (silent_complete _))
  | heartbeat => exact (hheartbeat _).trans (silent_complete _)
  | heartbeatError => exact (hheartbeat _).trans (silent_onDecodingError _)
  | heartbeatPanic => exact (hheartbeat _).trans (silent_panic _ _)

theorem silent_dispatch (cfg : Config σ) (cm : ConnectionManager σ) :
    Silent cm (cm.dispatch cfg) :=
  dispatch_rule id (fun h hturn => h.trans (silent_turn hturn))
    (fun h hturn => h.trans (silent_turn hturn)) (.refl cm)

theorem silent_resetAndClose (cm : ConnectionManager σ) : Silent cm cm.resetAndClose :=
  silent_onDownstream (by rw [Downstream.written_close, Downstream.written_resetAllMessages])

theorem silent_after {cm cm' : ConnectionManager σ} (h : AfterDispatch cm cm') : Silent cm cm' := by
  cases h with
  | more => exact .refl cm
  | reset => exact silent_resetAndClose cm
  | halfClose => exact silent_of_same rfl rfl ⟨[], by simp, by simp⟩
  | assert => exact silent_panic _ cm

theorem silent_onData (cfg : Config σ) (data : Bytes) (endStream : Bool)
    (cm : ConnectionManager σ) : Silent cm (cm.onData cfg data endStream) := by
  have hbuffer : Silent cm { cm with requestBuffer := cm.requestBuffer ++ data } :=
    silent_of_same rfl rfl ⟨[], by simp, by simp⟩
  exact hbuffer.trans
    ((silent_dispatch cfg _).trans (silent_after (onData_after cfg data endStream cm)))

theorem silent_continueDecoding (cfg : Config σ) (cm : ConnectionManager σ) :
    Silent cm (cm.continueDecoding cfg) := by
  have hgo : Silent cm { cm with stopped := false } :=
    silent_of_same rfl rfl ⟨[], by simp, by simp⟩
  exact hgo.trans ((silent_dispatch cfg _).trans (silent_after (continueDecoding_after cfg cm)))

theorem silent_continueMessage (cfg : Config σ) {cm : ConnectionManager σ} {i : ℕ}
    (hi : i < cm.created) (position : ℕ) : Silent cm (cm.continueMessage cfg i position) := by
  have hquiet := Stream.quiet_continueDecoding cfg position (cm.stream i)
  unfold continueMessage
  generalize (cm.stream i).continueDecoding cfg position = r at hquiet ⊢
  obtain ⟨_ | _, s⟩ := r
  · exact silent_setStream hi hquiet
  · exact (silent_setStream hi hquiet).trans (silent_continueDecoding _ _)

theorem silent_onPoolReady {cfg : Config σ} {cm : ConnectionManager σ} {i : ℕ}
    (hi : i < cm.created) (host : Host) (leftover : Bytes) :
    Silent cm (cm.onPoolReady cfg i host leftover) := by
  have hready : Silent cm (cm.onStream i (Stream.onPoolReadyConnection host leftover)) :=
    silent_onStream hi (Stream.quiet_onPoolReadyConnection _ _ _)
  have hcontinue := hready.trans
    (silent_continueMessage cfg (Nat.lt_of_lt_of_le hi hready.created) (routerPosition cfg))
  exact hcontinue.trans (silent_onStream (f := fun s => s.onRequestComplete.encodeData)
    (Nat.lt_of_lt_of_le hi hcontinue.created)
    ((Stream.quiet_onRequest _ _).trans (Stream.quiet_encodeData _)))

theorem silent_onPoolFailure {cfg : Config σ} {cm : ConnectionManager σ} {i : ℕ}
    (hi : i < cm.created) (reason : PoolFailureReason) (host : Host) :
    Silent cm (cm.onPoolFailure cfg i reason host) := by
  have hreset : Silent cm (cm.onStream i (Stream.onPoolFailureReset cfg reason host)) :=
    silent_onStream hi (Stream.quiet_onPoolFailureReset _ _ _ _)
  unfold onPoolFailure
  cases reason
  case overflow => exact hreset
  all_goals exact hreset.trans (silent_continueMessage cfg (Nat.lt_of_lt_of_le hi hreset.created) _)

/-- Every event but data from the upstream. -/
theorem silent_step {cfg : Config σ} {cm : ConnectionManager σ} {e : Event}
    (he : cm.Enabled cfg e) (hdata : ∀ i data endStream, e ≠ .upstreamData i data endStream) :
    Silent cm (step cfg cm e) := by
  have hpermitted := he.2
  cases e with
  | downstreamData data endStream => exact silent_onData _ _ _ _
  | downstreamClose event => exact silent_onDownstream (Downstream.written_closed _ _)
  | poolReady i host leftover => exact silent_onPoolReady hpermitted.1 _ _
  | poolFailure i reason host => exact silent_onPoolFailure hpermitted.1 _ _
  | upstreamData i data endStream => exact absurd rfl (hdata i data endStream)
  | upstreamClose i event =>
    exact silent_onStream hpermitted.1 (Stream.quiet_upstreamClosed _ _ _)
  | continueDecoding i position => exact silent_continueMessage cfg hpermitted.1 _
  | continueEncoding i position =>
    exact silent_onStream hpermitted.1 (Stream.quiet_continueEncoding _ _ _)
  | release i => exact silent_onStream hpermitted.1 (Stream.quiet_destroy _ _)

/-- A message that waits has an upstream request. -/
theorem Waiting.isSome {cm : ConnectionManager σ} {i : ℕ} (h : cm.Waiting i) :
    (cm.stream i).message.router.upstreamRequest.isSome := by
  unfold Waiting upstreamConnection at h
  unfold stream
  cases hr : (cm.messages i).router.upstreamRequest with
  | none => simp [hr] at h
  | some request => rfl

theorem numbered_step {cfg : Config σ} {cm : ConnectionManager σ} {e : Event} (hn : cm.Numbered)
    (he : cm.Enabled cfg e) : (step cfg cm e).Numbered := by
  cases e with
  | upstreamData i data endStream =>
    obtain ⟨-, hi, -, hw⟩ := he
    have hdata := Stream.onUpstreamData_written cfg (cm.upstreamBuffer i ++ data) endStream
      hw.isSome
    unfold step onStream
    split at hdata
    · obtain ⟨ws, ws', metadata, hws, -, hall⟩ := hdata.written
      simp only [List.append_assoc] at hws
      refine hn.setStream hi hdata.id hws fun w hw => ?_
      simp only [List.mem_append, List.mem_singleton] at hw hall
      rcases hw with hw | rfl | hw
      · exact (hall w (Or.inl hw)).1
      · rfl
      · exact (hall w (Or.inr hw)).1
    · exact (silent_setStream hi hdata).numbered hn
  | _ => exact (silent_step he (by rintro _ _ _ ⟨⟩)).numbered hn

/-- The answers of a run stay correlated over an event exactly if it forwards no response
with another id. -/
theorem correlated_step {cfg : Config σ} {cm : ConnectionManager σ} {e : Event} (hn : cm.Numbered)
    (hc : cm.Correlated) (he : cm.Enabled cfg e) :
    (step cfg cm e).Correlated ↔ cm.Corresponds cfg e := by
  cases e with
  | upstreamData i data endStream =>
    obtain ⟨-, hi, -, hw⟩ := he
    have hdata := Stream.onUpstreamData_written cfg (cm.upstreamBuffer i ++ data) endStream
      hw.isSome
    change (cm.setStream i _).Correlated ↔ ∀ metadata, _ = some metadata → _
    split at hdata
    · rename_i metadata hforwarding
      rw [correlated_setStream_iff hdata.requestId, hforwarding]
      have hown := hdata.answers_iff (cm.stream i).requestId
      rw [hn.stream_id i] at hown
      refine ⟨fun h metadata' hm => ?_, fun h j => ?_⟩
      · cases hm
        exact (hown.mp (h i)).2
      · by_cases hj : j = i
        · subst hj
          exact hown.mpr ⟨hc j, h _ rfl⟩
        · exact (hdata.answers_other (by rwa [hn.stream_id i])
            _).mpr
            (hc j)
    · rename_i hforwarding
      rw [hforwarding]
      exact iff_of_true (((silent_setStream hi hdata).correlated hn).mpr hc) (by rintro _ ⟨⟩)
  | _ =>
    exact iff_of_true (((silent_step he (by rintro _ _ _ ⟨⟩)).correlated hn).mpr hc) trivial

theorem numbered_new (cfg : Config σ) : (new cfg).Numbered :=
  ⟨fun _ => rfl, by simp [new]⟩

theorem correlated_new (cfg : Config σ) : (new cfg).Correlated := by
  intro i w hw
  simp [new] at hw

/-- Over every run and every chunking of what the upstreams send, the answers of the
requests are correlated exactly if no response with another id than the request's gets
through the encoder filters. -/
theorem correlated_iff (cfg : Config σ) {es : List Event}
    (he : (system cfg).Admissible (new cfg) es) :
    (system cfg).Throughout Correlated (new cfg) es ↔
      (system cfg).Always (fun cm => cm.Corresponds cfg) (new cfg) es :=
  Transition.throughout_iff_always (fun _ _ hn he => numbered_step hn he)
    (fun _ _ hn hc he => correlated_step hn hc he) (numbered_new cfg) (correlated_new cfg) he

/-- A request whose upstream answers with another id gets that answer, and the error of the
comparison behind it. -/
def mismatch : List Event :=
  [.downstreamData (DubboExample.request 1) false,
    .upstreamData 0 (DubboExample.response 2) false]

theorem correlated_mismatch :
    (system (DubboExample.config (some (.ready "host" [])))).Throughout Correlated
        (new (DubboExample.config (some (.ready "host" [])))) mismatch ↔
      (system (DubboExample.config (some (.ready "host" [])))).Always
        (fun cm => cm.Corresponds (DubboExample.config (some (.ready "host" []))))
        (new (DubboExample.config (some (.ready "host" [])))) mismatch :=
  correlated_iff _ (by decide +kernel)

theorem not_correlated_mismatch :
    (system (DubboExample.config (some (.ready "host" [])))).Admissible
        (new (DubboExample.config (some (.ready "host" [])))) mismatch ∧
      ¬(system (DubboExample.config (some (.ready "host" [])))).Throughout Correlated
        (new (DubboExample.config (some (.ready "host" [])))) mismatch := by
  refine ⟨by decide +kernel, fun h => ?_⟩
  have hfirst : ((system (DubboExample.config (some (.ready "host" [])))).run
      (new (DubboExample.config (some (.ready "host" [])))) mismatch).downstream.written.any
        (fun w => w.message = some 0 && match w.reply with
          | .upstreamResponse metadata => metadata.requestId = 2
          | _ => false) = true := by
    decide +kernel
  have hid : (((system (DubboExample.config (some (.ready "host" [])))).run
      (new (DubboExample.config (some (.ready "host" [])))) mismatch).stream 0).requestId = 1 := by
    decide +kernel
  obtain ⟨w, hw, hreply⟩ := List.any_eq_true.mp hfirst
  have hanswers := h.last 0 w hw
  rw [hid] at hanswers
  cases hr : w.reply <;> simp [hr] at hreply
  rename_i metadata
  have := hanswers hreply.1 metadata hr
  rw [hreply.2] at this
  exact absurd this (by decide)

end ConnectionManager

end MetaProtocolProxy

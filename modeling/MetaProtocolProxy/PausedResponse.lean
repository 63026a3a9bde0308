import MetaProtocolProxy.LocalReply

/-!
# Paused responses

When an encoder filter stops the iteration, the response decoder reports the response complete
all the same. So its message is handed to deferred deletion in the callback that has paused
it, and nothing is written; `continueEncoding` only runs the filters that are left, and no
event but data from the upstream ever forwards a response (`paused_lost`).
-/

namespace MetaProtocolProxy

variable {σ : Type}

/-- A response of the upstream of a message. -/
def Write.isUpstreamResponse (i : ℕ) (w : Write) : Bool :=
  w.message = some i && match w.reply with
    | .upstreamResponse _ => true
    | _ => false

/-- The responses forwarded for a message. -/
def Downstream.responses (i : ℕ) (d : Downstream σ) : List Write :=
  d.written.filter (Write.isUpstreamResponse i)

theorem Downstream.responses_append {i : ℕ} {d d' : Downstream σ} {ws : List Write}
    (hws : d'.written = d.written ++ ws) (hall : ∀ w ∈ ws, w.isUpstreamResponse i = false) :
    d'.responses i = d.responses i := by
  have hnone : ws.filter (Write.isUpstreamResponse i) = [] :=
    List.filter_eq_nil_iff.mpr fun w hw => by simp [hall w hw]
  unfold responses
  rw [hws, List.filter_append, hnone, List.append_nil]

theorem Write.isUpstreamResponse_localReply {i : ℕ} {w : Write}
    (h : ∃ error, w.reply = .localReply error) : w.isUpstreamResponse i = false := by
  obtain ⟨error, herror⟩ := h
  simp [isUpstreamResponse, herror]

namespace Stream

variable {cfg : Config σ} {s : Stream σ}

theorem Quiet.responses {s s' : Stream σ} (h : Quiet s s') (i : ℕ) :
    s'.downstream.responses i = s.downstream.responses i := by
  obtain ⟨ws, hws, hall⟩ := h.written
  exact Downstream.responses_append hws fun w hw => Write.isUpstreamResponse_localReply
    (hall w hw).2

theorem Forwards.responses {r : UInt64} {s s' : Stream σ} (h : Forwards r s s') {i : ℕ}
    (hi : i ≠ s.message.id) : s'.downstream.responses i = s.downstream.responses i := by
  obtain ⟨ws, ws', metadata, hws, -, hall⟩ := h.written
  simp only [List.append_assoc] at hws
  refine Downstream.responses_append hws fun w hw => ?_
  have hmessage : w.message = some s.message.id := by
    simp only [List.mem_append, List.mem_singleton] at hw hall
    rcases hw with hw | rfl | hw
    · exact (hall w (Or.inl hw)).1
    · rfl
    · exact (hall w (Or.inr hw)).1
  simp [Write.isUpstreamResponse, hmessage, hi.symm]

/-- The data completes a response, and an encoder filter stops the iteration. -/
def pauses (cfg : Config σ) (data : Bytes) (s : Stream σ) : Bool :=
  match s.completedResponse cfg data with
  | none => false
  | some (metadata, t) => (t.encodeResponse cfg metadata).1 = .stopIteration

theorem forwarding_of_pauses {data : Bytes} (h : s.pauses cfg data = true) :
    s.forwarding cfg data = none := by
  unfold pauses at h
  unfold forwarding
  cases hcompleted : s.completedResponse cfg data with
  | none => rfl
  | some completed =>
    obtain ⟨metadata, t⟩ := completed
    rw [hcompleted] at h
    replace h : (t.encodeResponse cfg metadata).1 = .stopIteration := of_decide_eq_true h
    dsimp only
    rw [if_neg (by rw [h]; rintro ⟨⟨⟩, -⟩)]

/-- The status of a paused response is that of a complete one. -/
theorem responseDecoderOnData_of_pauses {data : Bytes} (h : s.pauses cfg data = true) :
    ∃ rest t, (s.startResponse cfg).responseDecoderOnData cfg data = (rest, .ok .complete, t) ∧
      Quiet s t := by
  unfold pauses at h
  cases hcompleted : s.completedResponse cfg data with
  | none =>
    rw [hcompleted] at h
    cases h
  | some completed =>
    obtain ⟨metadata, t⟩ := completed
    rw [hcompleted] at h
    replace h : (t.encodeResponse cfg metadata).1 = .stopIteration := of_decide_eq_true h
    obtain ⟨hsome, hquiet, rest, hdata⟩ := completedResponse_spec hcompleted
    have hencode := hquiet.trans (quiet_encodeResponse cfg metadata t)
    have hid := responseId_encodeResponse cfg metadata hsome
    have hdecoded : t.onResponseDecoded cfg metadata =
        (none, (t.encodeResponse cfg metadata).2.onResponseDecoder fun d =>
          { d with responseStatus := .complete }) := by
      unfold onResponseDecoded
      generalize t.encodeResponse cfg metadata = r at h ⊢
      obtain ⟨status, u⟩ := r
      obtain rfl : status = .stopIteration := h
      rfl
    rw [hdecoded] at hdata
    generalize (t.encodeResponse cfg metadata).2 = u at hencode hid hdata
    obtain ⟨decoder, hdecoder⟩ : ∃ decoder, u.message.responseDecoder = some decoder := by
      cases hnone : u.message.responseDecoder with
      | some decoder => exact ⟨decoder, rfl⟩
      | none => simp [responseId, hnone] at hid
    have hquiet' := hencode.trans ((quiet_onResponseDecoder
      (fun d => { d with responseStatus := .complete }) u).trans (quiet_responseDecoded rest _))
    refine ⟨rest, _, hdata.trans ?_, hquiet'⟩
    simp [responseDecoded, onResponseDecoder, onMessage, hdecoder]

/-- A paused response counts as complete, and its message is handed over. -/
theorem deferred_of_pauses {data : Bytes} (endStream : Bool)
    (hs : s.message.router.upstreamRequest.isSome) (h : s.pauses cfg data = true)
    (hlisted : s.message.id ∈ s.downstream.activeMessageList ∨
      s.message.id ∈ s.downstream.deferredDelete) :
    s.message.id ∈ (s.onUpstreamData cfg data endStream).downstream.deferredDelete := by
  obtain ⟨rest, t, hdata, hquiet⟩ := responseDecoderOnData_of_pauses h
  have hdeferred : ∀ u : Stream σ, Quiet s u →
      s.message.id ∈ u.deferredMessage.downstream.deferredDelete := by
    intro u hu
    have hu' : s.message.id ∈ u.downstream.activeMessageList ∨
        s.message.id ∈ u.downstream.deferredDelete :=
      hlisted.elim (hu.retains s.message.id).2 fun hd => Or.inr ((hu.retains s.message.id).1 hd)
    rw [← hu.id] at hu' ⊢
    exact Downstream.mem_deferredMessage hu'
  refine ((onUpstreamData_quiet cfg data endStream hs).retains s.message.id).1 ?_
  unfold upstreamData
  rw [hdata]
  dsimp only
  split
  · exact hdeferred _ (hquiet.trans ((quiet_inc _ t).trans
      ((quiet_onMessage rfl rfl id).trans (quiet_sendLocalReply _ _ _ _))))
  · exact hdeferred t hquiet

end Stream

namespace ConnectionManager

/-- Only data from the upstream of a message forwards a response for it. -/
theorem responses_step {cfg : Config σ} {cm : ConnectionManager σ} {e : Event} {i : ℕ}
    (hn : cm.Numbered) (he : cm.Enabled cfg e)
    (hdata : ∀ data endStream, e ≠ .upstreamData i data endStream) :
    (cm.step cfg e).downstream.responses i = cm.downstream.responses i := by
  have hsilent : ∀ {cm' : ConnectionManager σ}, Silent cm cm' →
      cm'.downstream.responses i = cm.downstream.responses i := by
    intro cm' hcm
    obtain ⟨ws, hws, hall⟩ := hcm.written
    refine Downstream.responses_append hws fun w hw => ?_
    unfold Write.isUpstreamResponse
    split
    · exact absurd ‹_› (hall w hw _)
    · simp
  cases e with
  | upstreamData j data endStream =>
    obtain ⟨-, hj, -, hw⟩ := he
    have hne : i ≠ (cm.stream j).message.id := by
      rw [hn.stream_id j]
      rintro rfl
      exact hdata data endStream rfl
    have hwritten := Stream.onUpstreamData_written cfg (cm.upstreamBuffer j ++ data) endStream
      hw.isSome
    split at hwritten
    · exact hwritten.responses hne
    · exact hwritten.responses i
  | _ => exact hsilent (silent_step he (by rintro _ _ _ ⟨⟩))

/-- For every filter chain, every run and every event that pauses a response : its message is
handed to deferred deletion by that event, and neither that event nor any later one that brings
no data from the upstream of the message, such as `continueEncoding`, writes a response for
it. -/
theorem paused_lost {cfg : Config σ} {es : List Event} {i : ℕ} {data : Bytes} {endStream : Bool}
    (h : (system cfg).Admissible (new cfg) (es ++ [.upstreamData i data endStream]))
    (hpauses : (((system cfg).run (new cfg) es).stream i).pauses cfg
      (((system cfg).run (new cfg) es).upstreamBuffer i ++ data) = true) :
    (i ∈ ((system cfg).run (new cfg) es).downstream.activeMessageList →
      i ∈ ((system cfg).run (new cfg)
        (es ++ [.upstreamData i data endStream])).downstream.deferredDelete) ∧
    ((system cfg).run (new cfg) (es ++ [.upstreamData i data endStream])).downstream.responses i =
      ((system cfg).run (new cfg) es).downstream.responses i ∧
    ∀ es' e,
      (system cfg).Admissible (new cfg) (es ++ .upstreamData i data endStream :: es' ++ [e]) →
      (∀ data endStream, e ≠ .upstreamData i data endStream) →
        ((system cfg).run (new cfg)
          (es ++ .upstreamData i data endStream :: es' ++ [e])).downstream.responses i =
        ((system cfg).run (new cfg)
          (es ++ .upstreamData i data endStream :: es')).downstream.responses i := by
  have hnumbered : ∀ es : List Event, (system cfg).Admissible (new cfg) es →
      ((system cfg).run (new cfg) es).Numbered :=
    Transition.history (P := fun _ (cm : ConnectionManager σ) => cm.Numbered) (numbered_new cfg)
      fun _ _ _ he hn => numbered_step hn he
  obtain ⟨hes, he, -⟩ := Transition.admissible_append.mp h
  have hn := hnumbered es hes
  have hw : (((system cfg).run (new cfg) es).stream i).message.router.upstreamRequest.isSome :=
    he.2.2.2.isSome
  refine ⟨fun hactive => ?_, ?_, fun es' e hadmissible hdata => ?_⟩
  · rw [Transition.run_append]
    have hid : (((system cfg).run (new cfg) es).stream i).message.id = i := hn.id i
    have hdeferred := Stream.deferred_of_pauses endStream hw hpauses
      (Or.inl (hid.symm ▸ hactive))
    rw [hid] at hdeferred
    exact hdeferred
  · rw [Transition.run_append]
    have hwritten := Stream.onUpstreamData_written cfg
      (((system cfg).run (new cfg) es).upstreamBuffer i ++ data) endStream hw
    rw [Stream.forwarding_of_pauses hpauses] at hwritten
    exact hwritten.responses i
  · obtain ⟨hbefore, he', -⟩ := Transition.admissible_append.mp hadmissible
    rw [Transition.run_append]
    exact responses_step (hnumbered _ hbefore) he' hdata

/-- A proxy whose first encoder filter pauses every response. -/
def pausing : Config Dubbo.DubboCodec.State :=
  { DubboExample.config (some (.ready "host" [])) with
    encoderFilters := [.custom fun _ _ _ => ⟨[], .stopIteration⟩, .router] }

theorem paused_lost_pausing :
    (0 ∈ ((system pausing).run (new pausing)
        [.downstreamData (DubboExample.request 1) false]).downstream.activeMessageList →
      0 ∈ ((system pausing).run (new pausing) ([.downstreamData (DubboExample.request 1) false] ++
        [.upstreamData 0 (DubboExample.response 1) false])).downstream.deferredDelete) ∧
    ((system pausing).run (new pausing) ([.downstreamData (DubboExample.request 1) false] ++
        [.upstreamData 0 (DubboExample.response 1) false])).downstream.responses 0 =
      ((system pausing).run (new pausing)
        [.downstreamData (DubboExample.request 1) false]).downstream.responses 0 ∧
    ∀ es' e, (system pausing).Admissible (new pausing)
        ([.downstreamData (DubboExample.request 1) false] ++
          .upstreamData 0 (DubboExample.response 1) false :: es' ++ [e]) →
      (∀ data endStream, e ≠ .upstreamData 0 data endStream) →
        ((system pausing).run (new pausing) ([.downstreamData (DubboExample.request 1) false] ++
          .upstreamData 0 (DubboExample.response 1) false :: es' ++ [e])).downstream.responses 0 =
        ((system pausing).run (new pausing) ([.downstreamData (DubboExample.request 1) false] ++
          .upstreamData 0 (DubboExample.response 1) false :: es')).downstream.responses 0 :=
  paused_lost (by decide +kernel) (by decide +kernel)

/-- The filter goes on at once : all filters run, nothing is written, and the message is about to
be deleted. -/
theorem not_resumed_pausing :
    (system pausing).Admissible (new pausing) [.downstreamData (DubboExample.request 1) false,
        .upstreamData 0 (DubboExample.response 1) false, .continueEncoding 0 0] ∧
      (((system pausing).run (new pausing) [.downstreamData (DubboExample.request 1) false,
        .upstreamData 0 (DubboExample.response 1) false,
        .continueEncoding 0 0]).messages 0).encoderCalls = [0, 1] ∧
      ((system pausing).run (new pausing) [.downstreamData (DubboExample.request 1) false,
        .upstreamData 0 (DubboExample.response 1) false,
        .continueEncoding 0 0]).downstream.written = [] ∧
      0 ∈ ((system pausing).run (new pausing) [.downstreamData (DubboExample.request 1) false,
        .upstreamData 0 (DubboExample.response 1) false]).downstream.deferredDelete := by
  decide +kernel

end ConnectionManager

end MetaProtocolProxy

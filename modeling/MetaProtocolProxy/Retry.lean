import MetaProtocolProxy.PausedResponse
import MetaProtocolProxy.Views

/-!
# Retries

An encoder filter asks for a retry with the status `Retry`, and `applyMessageEncodedFilters`
notes it in `response_status_`. Its caller returns early for every status but `Continue`,
and writes `Complete` over it. So a completed response is reported complete or reset,
whatever the filters say (`status_of_completedResponse`), and no retry comes to pass
(`retry_lost`).
-/

namespace MetaProtocolProxy

variable {σ : Type}

namespace Stream

/-- The status of the first filter that does not return `Continue`, over the filters from a
position on, of those that are called. -/
def firstStatus (cfg : Config σ) : List Filter → ℕ → Stream σ → FilterStatus
  | [], _, _ => .continue
  | filter :: rest, position, s =>
    match s.filterOnMessageEncoded cfg filter position with
    | (status, s) =>
      if status ≠ .continue then status
      else if s.message.localResponseSent then .continue
      else firstStatus cfg rest (position + 1) s

/-- The data completes a response, and the first encoder filter that does not return `Continue`
for it returns `Retry`. -/
def retries (cfg : Config σ) (data : Bytes) (s : Stream σ) : Bool :=
  match s.completedResponse cfg data with
  | none => false
  | some (metadata, t) =>
    !t.message.localResponseSent &&
      ((t.onResponseDecoder fun d => { d with metadata := some metadata }).onMessage fun m =>
        { m with encoderFilterAction := true }).firstStatus cfg cfg.encoderFilters 0 = .retry

/-- What is asked of a retry : `upstreamData` reports it, nothing is written to the client, the
message stays in the list, and the next response gets a decoder of its own. -/
structure RetryHonoured (cfg : Config σ) (data : Bytes) (endStream : Bool) (s : Stream σ) :
    Prop where
  status : ((s.startResponse cfg).upstreamData cfg data).2.1 = .retry
  written : (s.onUpstreamData cfg data endStream).downstream.written = s.downstream.written
  active : s.message.id ∈ (s.onUpstreamData cfg data endStream).downstream.activeMessageList
  fresh : ((s.onUpstreamData cfg data endStream).startResponse cfg).message.responseDecoder =
    some { codec := cfg.codec.init }

variable {cfg : Config σ} {s : Stream σ}

/-- A response that is handled to the end is complete, whatever the filters have said. -/
theorem responseStatus_onResponseDecoded {metadata : Metadata} {u : Stream σ}
    (hs : s.message.responseDecoder.isSome)
    (h : s.onResponseDecoded cfg metadata = (none, u)) :
    ∃ decoder, u.message.responseDecoder = some decoder ∧ decoder.responseStatus = .complete := by
  have hid := responseId_encodeResponse cfg metadata hs
  unfold onResponseDecoded at h
  generalize s.encodeResponse cfg metadata = r at hid h
  obtain ⟨status, t⟩ := r
  obtain ⟨decoder, hdecoder⟩ : ∃ decoder, t.message.responseDecoder = some decoder := by
    cases hnone : t.message.responseDecoder with
    | some decoder => exact ⟨decoder, rfl⟩
    | none => simp [responseId, hnone] at hid
  dsimp only at h
  split_ifs at h with hstatus hopen
  · obtain rfl := (Prod.mk.inj h).2
    exact ⟨{ decoder with responseStatus := .complete },
      by simp [onResponseDecoder, onMessage, hdecoder], rfl⟩
  · cases h
  · obtain rfl := (Prod.mk.inj h).2
    refine ⟨{ decoder with complete := true, responseStatus := .complete }, ?_, rfl⟩
    simp [onResponseDecoder, onMessage, message_countResponse, forwardResponse, onDownstream,
      hdecoder]

/-- A completed response is reported complete or reset. -/
theorem status_of_completedResponse {data : Bytes} (h : (s.completedResponse cfg data).isSome) :
    ((s.startResponse cfg).upstreamData cfg data).2.1 = .complete ∨
      ((s.startResponse cfg).upstreamData cfg data).2.1 = .reset := by
  obtain ⟨⟨metadata, t⟩, hcompleted⟩ := Option.isSome_iff_exists.mp h
  obtain ⟨hsome, -, rest, hdata⟩ := completedResponse_spec hcompleted
  unfold upstreamData
  rcases hdecoded : t.onResponseDecoded cfg metadata with ⟨_ | ex, u⟩
  · obtain ⟨decoder, hdecoder, hstatus⟩ := responseStatus_onResponseDecoded hsome hdecoded
    rw [hdecoded] at hdata
    rw [hdata]
    simp only [responseDecoded, onResponseDecoder, onMessage, hdecoder, Option.map_some, hstatus]
    split
    · exact Or.inr rfl
    · exact Or.inl rfl
  · rw [hdecoded] at hdata
    rw [hdata]
    cases ex <;> exact Or.inr rfl

/-- For every filter chain and every response on which a filter asks for a retry : it is reported
complete or reset, and the retry is not honoured. -/
theorem retry_lost {data : Bytes} (endStream : Bool) (h : s.retries cfg data = true) :
    (((s.startResponse cfg).upstreamData cfg data).2.1 = .complete ∨
      ((s.startResponse cfg).upstreamData cfg data).2.1 = .reset) ∧
    ¬RetryHonoured cfg data endStream s := by
  have hcompleted : (s.completedResponse cfg data).isSome := by
    unfold retries at h
    cases hnone : s.completedResponse cfg data with
    | some completed => rfl
    | none =>
      rw [hnone] at h
      cases h
  have hstatus := status_of_completedResponse hcompleted
  refine ⟨hstatus, fun hhonoured => ?_⟩
  rw [hhonoured.status] at hstatus
  rcases hstatus with hstatus | hstatus <;> cases hstatus

end Stream

namespace ConnectionManager

/-- A proxy whose first encoder filter asks for a retry of every response. -/
def retrying : Config Dubbo.DubboCodec.State :=
  { DubboExample.config (some (.ready "host" [])) with
    encoderFilters := [.custom fun _ _ _ => ⟨[], .retry⟩, .router] }

/-- A request that waits for its response. -/
def retried : Stream Dubbo.DubboCodec.State :=
  ((system retrying).run (new retrying)
    [.downstreamData (DubboExample.request 1) false]).stream 0

theorem retry_lost_retrying :
    (((retried.startResponse retrying).upstreamData retrying
        (DubboExample.response 1)).2.1 = .complete ∨
      ((retried.startResponse retrying).upstreamData retrying
        (DubboExample.response 1)).2.1 = .reset) ∧
    ¬Stream.RetryHonoured retrying (DubboExample.response 1) false retried :=
  Stream.retry_lost false (by decide +kernel)

/-- The response is dropped : it is reported complete, nothing is written, and the message is
about to be deleted. -/
theorem not_retryHonoured_retrying :
    (system retrying).Admissible (new retrying) [.downstreamData (DubboExample.request 1) false,
        .upstreamData 0 (DubboExample.response 1) false] ∧
      retried.retries retrying (DubboExample.response 1) = true ∧
      ((retried.startResponse retrying).upstreamData retrying
        (DubboExample.response 1)).2.1 = .complete ∧
      (retried.onUpstreamData retrying (DubboExample.response 1) false).downstream.written = [] ∧
      (retried.onUpstreamData retrying
        (DubboExample.response 1) false).downstream.deferredDelete = [0] ∧
      ¬Stream.RetryHonoured retrying (DubboExample.response 1) false retried := by
  have hstatus : ((retried.startResponse retrying).upstreamData retrying
      (DubboExample.response 1)).2.1 = .complete := by decide +kernel
  refine ⟨by decide +kernel, by decide +kernel, hstatus, by decide +kernel, by decide +kernel,
    fun h => ?_⟩
  rw [h.status] at hstatus
  cases hstatus

end ConnectionManager

end MetaProtocolProxy

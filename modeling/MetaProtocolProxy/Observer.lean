import MetaProtocolProxy.Chains
import MetaProtocolProxy.Oblivious

/-!
# Filters that only look

A filter that uses no callback and always lets the message pass can be put anywhere into the chains
of filters. It is called, and the filters behind it have another position. It makes no other
difference : what is written to the client and to the upstreams, and what becomes of every message,
is the same with it and without it, for every run (`observed_run`).

The state without the observers is read off the state with them (`unobserved`) by leaving their
positions out of what the messages record. A chain of filters does the same in both
(`inserts_decoder` and `inserts_encoder`, from the chains of handlers), and never waits for an
observer (`Settled`), so there is no event about one. Everything else does not look at what is
recorded.
-/

namespace MetaProtocolProxy

variable {σ : Type} {k l : ℕ}

open Chains

/-! ## Observers -/

/-- A filter that lets everything pass. -/
def Filter.observer : Filter :=
  .custom fun _ _ _ => { status := .continue }

/-- The configuration with an observer among the decoder filters, and one among the encoder
filters. At a position beyond the end of a chain there is none. -/
def Config.observed (k l : ℕ) (cfg : Config σ) : Config σ :=
  { cfg with
    decoderFilters := cfg.decoderFilters.insertIdx k .observer
    encoderFilters := cfg.encoderFilters.insertIdx l .observer }

namespace Log

/-- The log without the observers. -/
def unobserved (k l : ℕ) (log : Log) : Log :=
  { log with
    decoderCalls := erased k log.decoderCalls
    encoderCalls := erased l log.encoderCalls }

/-- The decoder filters do not wait for the observer. -/
def DecoderSettled (k : ℕ) (log : Log) : Prop :=
  log.filterAction = true → log.decoderCalls.getLast? ≠ some k

/-- The encoder filters do not wait for the observer. -/
def EncoderSettled (l : ℕ) (log : Log) : Prop :=
  log.encoderFilterAction = true → log.encoderCalls.getLast? ≠ some l

/-- Neither chain waits for its observer. -/
def Settled (k l : ℕ) (log : Log) : Prop :=
  log.DecoderSettled k ∧ log.EncoderSettled l

/-- The decoder filter at a position is called. -/
def decoderCall (p : ℕ) (log : Log) : Log :=
  { log with decoderCalls := log.decoderCalls ++ [p] }

/-- The encoder filter at a position is called. -/
def encoderCall (p : ℕ) (log : Log) : Log :=
  { log with encoderCalls := log.encoderCalls ++ [p] }

variable (p : ℕ) (log : Log)

/-- A call of another filter is recorded at its place in the chain without the observer. -/
theorem unobserved_decoderCall :
    (log.decoderCall (shift k p)).unobserved k l = (log.unobserved k l).decoderCall p := by
  simp [unobserved, decoderCall]

/-- A call of the observer is not recorded. -/
theorem unobserved_decoderCall_self :
    (log.decoderCall k).unobserved k l = log.unobserved k l := by
  simp [unobserved, decoderCall]

theorem unobserved_encoderCall :
    (log.encoderCall (shift l p)).unobserved k l = (log.unobserved k l).encoderCall p := by
  simp [unobserved, encoderCall]

theorem unobserved_encoderCall_self :
    (log.encoderCall l).unobserved k l = log.unobserved k l := by
  simp [unobserved, encoderCall]

variable {p log}

/-- A decoder call leaves the encoder filters alone. -/
theorem EncoderSettled.decoderCall (h : log.EncoderSettled l) :
    (log.decoderCall (shift k p)).Settled k l := by
  refine ⟨fun _ hlast => ?_, h⟩
  rw [Log.decoderCall, List.getLast?_concat] at hlast
  exact shift_ne k p (Option.some.inj hlast)

/-- An encoder call leaves the decoder filters alone. -/
theorem DecoderSettled.encoderCall (h : log.DecoderSettled k) :
    (log.encoderCall (shift l p)).Settled k l := by
  refine ⟨h, fun _ hlast => ?_⟩
  rw [Log.encoderCall, List.getLast?_concat] at hlast
  exact shift_ne l p (Option.some.inj hlast)

end Log

namespace Stream

variable (cfg : Config σ) {f : Stream σ → Stream σ} {s t : Stream σ}

/-- The stream, without the observers. -/
def unobserved (k l : ℕ) (s : Stream σ) : Stream σ :=
  s.withLog (s.message.log.unobserved k l)

/-- The first stream is the second one, without the observers. -/
structure Unobserved (k l : ℕ) (s t : Stream σ) : Prop where
  eq : s = t.unobserved k l
  settled : t.message.log.Settled k l

/-- The same result, and the streams are the same but for the observers. -/
def Matched {α : Type*} (k l : ℕ) (r r' : α × Stream σ) : Prop :=
  ∃ a u u', r = (a, u) ∧ r' = (a, u') ∧ Unobserved k l u u'

/-- What is returned is the same. -/
theorem Matched.of {α : Type*} {a : α} (h : Unobserved k l s t) : Matched k l (a, s) (a, t) :=
  ⟨a, s, t, rfl, rfl, h⟩

namespace Unobserved

variable (h : Unobserved k l s t)
include h

theorem metadata : s.message.metadata = t.message.metadata := by
  rw [h.eq]
  rfl

theorem responseDecoder : s.message.responseDecoder = t.message.responseDecoder := by
  rw [h.eq]
  rfl

theorem router : s.message.router = t.message.router := by
  rw [h.eq]
  rfl

theorem downstream : s.downstream = t.downstream := by
  rw [h.eq]
  rfl

theorem requestId : s.requestId = t.requestId := by
  rw [h.eq]
  rfl

theorem responseRequestId : s.responseRequestId = t.responseRequestId := by
  rw [h.eq]
  rfl

end Unobserved

theorem Oblivious.log (hf : Oblivious f) (s : Stream σ) :
    (f s).message.log = s.message.log :=
  congrArg (·.message.log) (hf s.message.log s)

/-- What does not look at the record does not see the observer. -/
theorem Oblivious.unobserved (hf : Oblivious f) (h : Unobserved k l s t) :
    Unobserved k l (f s) (f t) := by
  obtain ⟨rfl, hsettled⟩ := h
  refine ⟨?_, ?_⟩
  · rw [Stream.unobserved, hf, Stream.unobserved, hf.log]
  · rw [hf.log]
    exact hsettled

theorem Oblivious'.log {α : Type*} {f : Stream σ → α × Stream σ} (hf : Oblivious' f)
    (s : Stream σ) : (f s).2.message.log = s.message.log :=
  congrArg (·.2.message.log) (hf s.message.log s)

/-- Nor does it return something else. -/
theorem Oblivious'.map_unobserved {α : Type*} {f : Stream σ → α × Stream σ} (hf : Oblivious' f)
    (s : Stream σ) : f (s.unobserved k l) = (f s).map id (Stream.unobserved k l) := by
  rw [Stream.unobserved, hf]
  refine Prod.ext rfl ?_
  rw [Prod.map_snd, Prod.map_snd, Stream.unobserved, hf.log]

/-- A note in the log. -/
def noted (note : Log → Log) (s : Stream σ) : Stream σ :=
  s.withLog (note s.message.log)

theorem unobserved_noted {note note' : Log → Log}
    (h : (note' s.message.log).unobserved k l = note (s.message.log.unobserved k l)) :
    (s.noted note').unobserved k l = (s.unobserved k l).noted note :=
  congrArg (s.withLog ·) h

/-! ## Decoder filters -/

/-- What a decoder filter does, after so many earlier calls. -/
def decoderHandler (cfg : Config σ) (filter : Filter) (earlier : ℕ) (s : Stream σ) :
    FilterStatus × Stream σ :=
  match filter with
  | .router => s.routerOnMessageDecoded cfg
  | .custom react =>
    let reaction := react s.message.id earlier (s.message.metadata.getD {})
    (reaction.status, s.acts cfg drainRequest reaction.acts)

/-- What a decoder filter does does not depend on the record. -/
theorem oblivious_decoderHandler (filter : Filter) (earlier : ℕ) :
    Oblivious' (decoderHandler cfg filter earlier) := by
  cases filter with
  | router => exact oblivious_routerOnMessageDecoded
  | custom react =>
    exact fun log s => congrArg (_, ·) (oblivious_acts oblivious_drainRequest _ log s)

theorem filterOnMessageDecoded_eq (filter : Filter) (p : ℕ) (s : Stream σ) :
    s.filterOnMessageDecoded cfg filter p =
      (s.noted (Log.decoderCall p)).decoderHandler cfg filter (s.message.decoderCalls.count p) := by
  cases filter <;> rfl

/-- The chain has ended. -/
def endDecoding (s : Stream σ) : Stream σ :=
  s.onMessage fun m => { m with filterAction := false }

/-- The decoder filters are a chain of calls. -/
theorem decoderFilterLoop_eq : ∀ (filters : List Filter) (p : ℕ) (s : Stream σ),
    s.decoderFilterLoop cfg filters p =
      chain .continue (fun filter p s => s.filterOnMessageDecoded cfg filter p)
        (·.message.localResponseSent) endDecoding filters p s
  | [], _, _ => rfl
  | filter :: filters, p, s => by
    unfold decoderFilterLoop chain
    generalize s.filterOnMessageDecoded cfg filter p = result
    obtain ⟨status, t⟩ := result
    dsimp only
    rw [decoderFilterLoop_eq filters]
    rfl

/-- The observer is one more call in the chain. -/
theorem inserts_decoder : Inserts FilterStatus.continue
    (fun filter p s => filterOnMessageDecoded cfg filter p s)
    (fun filter p s => filterOnMessageDecoded (cfg.observed k l) filter p s)
    (·.message.localResponseSent) endDecoding k .observer (unobserved k l)
    (fun s => s.message.log.EncoderSettled l) (fun s => s.message.log.Settled k l) where
  call filter p s hs := by
    have hcount : (s.unobserved k l).message.decoderCalls.count p =
        s.message.decoderCalls.count (shift k p) := count_erased k p s.message.decoderCalls
    have hhandler := oblivious_decoderHandler cfg filter (s.message.decoderCalls.count (shift k p))
    have hobserved : s.filterOnMessageDecoded (cfg.observed k l) filter (shift k p) =
        s.filterOnMessageDecoded cfg filter (shift k p) := by
      cases filter <;> rfl
    rw [hobserved, filterOnMessageDecoded_eq, filterOnMessageDecoded_eq, hcount,
      ← unobserved_noted (Log.unobserved_decoderCall p s.message.log), hhandler.map_unobserved,
      hhandler.log]
    exact ⟨rfl, hs, hs.decoderCall⟩
  inserted {s} hs := ⟨s.noted (Log.decoderCall k), rfl,
    congrArg (s.withLog ·) (Log.unobserved_decoderCall_self s.message.log), hs⟩
  finish {s} hs := ⟨rfl, fun hrunning => absurd hrunning Bool.false_ne_true, hs⟩
  stop _ := rfl

/-- The decoder filters from a position do the same with the observer and without it. -/
theorem applyDecoderFilters_matched {p q : ℕ} (hpq : Beside k p q) (hs : s = t.unobserved k l)
    (ht : t.message.log.EncoderSettled l) :
    Matched k l (s.applyDecoderFilters cfg p) (t.applyDecoderFilters (cfg.observed k l) q) := by
  subst hs
  unfold applyDecoderFilters
  rw [show (t.unobserved k l).message.filterAction = t.message.filterAction from rfl,
    show (t.unobserved k l).message.localResponseSent = t.message.localResponseSent from rfl]
  split_ifs with haction hlocal
  · exact .of ⟨rfl, fun hrunning => absurd hrunning (Bool.eq_false_iff.mp haction), ht⟩
  · exact .of ⟨rfl, fun hrunning => absurd hrunning Bool.false_ne_true, ht⟩
  · obtain ⟨hchain, hsettled⟩ := (inserts_decoder cfg).drop cfg.decoderFilters hpq ht
      (Bool.eq_false_iff.mpr hlocal)
    rw [decoderFilterLoop_eq, decoderFilterLoop_eq, hchain]
    exact .of ⟨rfl, hsettled⟩

/-- A new message. -/
theorem onStreamDecoded_unobserved (metadata : Metadata) (h : Unobserved k l s t) :
    Unobserved k l (s.onStreamDecoded cfg metadata)
      (t.onStreamDecoded (cfg.observed k l) metadata) := by
  obtain ⟨rfl, hdecoder, hencoder⟩ := h
  obtain ⟨status, u, u', hu, hu', h⟩ := applyDecoderFilters_matched cfg
    (s := ((t.unobserved k l).inc .requestDecodingSuccess).onMessage fun m =>
      { m with metadata := some metadata, filterAction := true })
    (t := (t.inc .requestDecodingSuccess).onMessage fun m =>
      { m with metadata := some metadata, filterAction := true }) (beside_zero k) rfl hencoder
  unfold onStreamDecoded commonPrefix
  dsimp only
  rw [hu, hu']
  cases status with
  | stopIteration => exact Oblivious.unobserved (f := onMessage _) (fun _ _ => rfl) h
  | «continue» => exact oblivious_finalizeRequest.unobserved h
  | retry => exact oblivious_finalizeRequest.unobserved h

/-- Where a chain goes on, behind the filter that continues or with it. -/
theorem beside_commonPrefix (k p : ℕ) (state : FilterIterationStartState) :
    Beside k (commonPrefix (some p) state) (commonPrefix (some (shift k p)) state) := by
  cases state with
  | alwaysStartFromNext => exact beside_succ k p
  | canStartFromCurrent => exact beside_shift k p

/-- A message that goes on. -/
theorem continueDecoding_matched (p : ℕ) (h : Unobserved k l s t) :
    Matched k l (s.continueDecoding cfg p) (t.continueDecoding (cfg.observed k l) (shift k p)) := by
  unfold continueDecoding
  rw [h.metadata]
  cases t.message.metadata with
  | none => exact .of ((oblivious_panic _).unobserved h)
  | some metadata =>
    obtain ⟨status, u, u', hu, hu', h⟩ := applyDecoderFilters_matched cfg
      (beside_commonPrefix k p (if metadata.originMessage.length ≠ 0 then .canStartFromCurrent
        else .alwaysStartFromNext)) h.eq h.settled.2
    dsimp only
    rw [hu, hu']
    cases status with
    | «continue» =>
      have hfinish : Oblivious fun u : Stream σ =>
          if u.message.pendingStreamDecoded then u.finalizeRequest else u :=
        Oblivious.ite (fun _ _ => Iff.rfl) oblivious_finalizeRequest oblivious_id
      exact .of (hfinish.unobserved h)
    | stopIteration => exact .of h
    | retry => exact .of h

/-! ## Encoder filters -/

/-- What an encoder filter does, after so many earlier calls. -/
def encoderHandler (cfg : Config σ) (filter : Filter) (earlier : ℕ) (s : Stream σ) :
    FilterStatus × Stream σ :=
  match filter with
  | .router => s.routerOnMessageEncoded
  | .custom react =>
    let reaction := react s.message.id earlier
      ((s.message.responseDecoder.bind (·.metadata)).getD {})
    (reaction.status, s.acts cfg drainResponse reaction.acts)

/-- What an encoder filter does does not depend on the record. -/
theorem oblivious_encoderHandler (filter : Filter) (earlier : ℕ) :
    Oblivious' (encoderHandler cfg filter earlier) := by
  cases filter with
  | router => exact oblivious_routerOnMessageEncoded
  | custom react =>
    exact fun log s => congrArg (_, ·) (oblivious_acts oblivious_drainResponse _ log s)

theorem filterOnMessageEncoded_eq (filter : Filter) (p : ℕ) (s : Stream σ) :
    s.filterOnMessageEncoded cfg filter p =
      (s.noted (Log.encoderCall p)).encoderHandler cfg filter (s.message.encoderCalls.count p) := by
  cases filter <;> rfl

/-- The chain has ended. -/
def endEncoding (s : Stream σ) : Stream σ :=
  s.onMessage fun m => { m with encoderFilterAction := false }

/-- The encoder filters are a chain of calls. -/
theorem encoderFilterLoop_eq : ∀ (filters : List Filter) (p : ℕ) (s : Stream σ),
    s.encoderFilterLoop cfg filters p =
      chain .continue (fun filter p s => s.filterOnMessageEncoded cfg filter p)
        (·.message.localResponseSent) endEncoding filters p s
  | [], _, _ => rfl
  | filter :: filters, p, s => by
    unfold encoderFilterLoop chain
    generalize s.filterOnMessageEncoded cfg filter p = result
    obtain ⟨status, t⟩ := result
    dsimp only
    rw [encoderFilterLoop_eq filters]
    rfl

/-- The observer is one more call in this chain, too. -/
theorem inserts_encoder : Inserts FilterStatus.continue
    (fun filter p s => filterOnMessageEncoded cfg filter p s)
    (fun filter p s => filterOnMessageEncoded (cfg.observed k l) filter p s)
    (·.message.localResponseSent) endEncoding l .observer (unobserved k l)
    (fun s => s.message.log.DecoderSettled k) (fun s => s.message.log.Settled k l) where
  call filter p s hs := by
    have hcount : (s.unobserved k l).message.encoderCalls.count p =
        s.message.encoderCalls.count (shift l p) := count_erased l p s.message.encoderCalls
    have hhandler := oblivious_encoderHandler cfg filter (s.message.encoderCalls.count (shift l p))
    have hobserved : s.filterOnMessageEncoded (cfg.observed k l) filter (shift l p) =
        s.filterOnMessageEncoded cfg filter (shift l p) := by
      cases filter <;> rfl
    rw [hobserved, filterOnMessageEncoded_eq, filterOnMessageEncoded_eq, hcount,
      ← unobserved_noted (Log.unobserved_encoderCall p s.message.log), hhandler.map_unobserved,
      hhandler.log]
    exact ⟨rfl, hs, hs.encoderCall⟩
  inserted {s} hs := ⟨s.noted (Log.encoderCall l), rfl,
    congrArg (s.withLog ·) (Log.unobserved_encoderCall_self s.message.log), hs⟩
  finish {s} hs := ⟨rfl, hs, fun hrunning => absurd hrunning Bool.false_ne_true⟩
  stop _ := rfl

/-- The encoder filters from a position do the same with the observer and without it. -/
theorem applyEncoderFilters_matched {p q : ℕ} (hpq : Beside l p q) (hs : s = t.unobserved k l)
    (ht : t.message.log.DecoderSettled k) :
    Matched k l (s.applyEncoderFilters cfg p) (t.applyEncoderFilters (cfg.observed k l) q) := by
  subst hs
  unfold applyEncoderFilters
  rw [show (t.unobserved k l).message.encoderFilterAction = t.message.encoderFilterAction from rfl,
    show (t.unobserved k l).message.localResponseSent = t.message.localResponseSent from rfl]
  split_ifs with haction hlocal
  · exact .of ⟨rfl, ht,
      fun hrunning => absurd hrunning (Bool.eq_false_iff.mp haction)⟩
  · exact .of ⟨rfl, ht, fun hrunning => absurd hrunning Bool.false_ne_true⟩
  · obtain ⟨hchain, hsettled⟩ := (inserts_encoder cfg).drop cfg.encoderFilters hpq ht
      (Bool.eq_false_iff.mpr hlocal)
    rw [encoderFilterLoop_eq, encoderFilterLoop_eq, hchain]
    exact .of ⟨rfl, hsettled⟩

/-- A response that goes on. -/
theorem continueEncoding_unobserved (p : ℕ) (h : Unobserved k l s t) :
    Unobserved k l (s.continueEncoding cfg p)
      (t.continueEncoding (cfg.observed k l) (shift l p)) := by
  unfold continueEncoding
  rw [h.metadata]
  cases t.message.metadata with
  | none => exact (oblivious_panic _).unobserved h
  | some metadata =>
    obtain ⟨status, u, u', hu, hu', h⟩ := applyEncoderFilters_matched cfg
      (beside_commonPrefix l p (if metadata.originMessage.length ≠ 0 then .canStartFromCurrent
        else .alwaysStartFromNext)) h.eq h.settled.1
    dsimp only
    rw [hu, hu']
    exact h

/-! ## Responses -/

theorem applyMessageEncodedFilters_matched (h : Unobserved k l s t) :
    Matched k l (s.applyMessageEncodedFilters cfg)
      (t.applyMessageEncodedFilters (cfg.observed k l)) := by
  obtain ⟨rfl, hdecoder, hencoder⟩ := h
  obtain ⟨status, u, u', hu, hu', h⟩ := applyEncoderFilters_matched cfg
    (s := (t.unobserved k l).onMessage fun m => { m with encoderFilterAction := true })
    (t := t.onMessage fun m => { m with encoderFilterAction := true }) (beside_zero l) rfl hdecoder
  unfold applyMessageEncodedFilters commonPrefix
  dsimp only
  rw [hu, hu']
  cases status with
  | retry => exact .of ((oblivious_onResponseDecoder _).unobserved h)
  | stopIteration => exact .of h
  | «continue» => exact .of h

/-- A decoded response. -/
theorem onResponseDecoded_matched (metadata : Metadata) (h : Unobserved k l s t) :
    Matched k l (s.onResponseDecoded cfg metadata)
      (t.onResponseDecoded (cfg.observed k l) metadata) := by
  obtain ⟨status, u, u', hu, hu', h⟩ := applyMessageEncodedFilters_matched cfg
    ((oblivious_onResponseDecoder fun d => { d with metadata := some metadata }).unobserved
      ((oblivious_onDownstream (Downstream.assert
        (decide (metadata.messageType = .response ∨ metadata.messageType = .error))
        "ASSERT(Response || Error)")).unobserved h))
  unfold onResponseDecoded
  rw [show s.encodeResponse cfg metadata = (status, u) from hu,
    show t.encodeResponse (cfg.observed k l) metadata = (status, u') from hu']
  dsimp only
  rw [h.downstream, h.responseDecoder]
  split_ifs
  · exact .of ((oblivious_onResponseDecoder _).unobserved h)
  · exact .of h
  · exact .of ((oblivious_onResponseDecoder _).unobserved
      ((oblivious_countResponse _).unobserved ((oblivious_forwardResponse _).unobserved h)))

/-- The same bytes are left, with the same result. -/
def LeavesMatched {α : Type*} (k l : ℕ) (r r' : Bytes × α × Stream σ) : Prop :=
  ∃ data a u u', r = (data, a, u) ∧ r' = (data, a, u') ∧ Unobserved k l u u'

theorem LeavesMatched.of {α : Type*} {data : Bytes} {a : α} (h : Unobserved k l s t) :
    LeavesMatched k l (data, a, s) (data, a, t) :=
  ⟨data, a, s, t, rfl, rfl, h⟩

theorem responseDecoded_leavesMatched (data : Bytes) (h : Unobserved k l s t) :
    LeavesMatched k l (s.responseDecoded data) (t.responseDecoded data) := by
  have h' := (oblivious_onResponseDecoder fun d =>
    { d with decoder := d.decoder.complete }).unobserved h
  unfold responseDecoded
  dsimp only
  rw [h'.responseDecoder]
  cases (t.onResponseDecoder fun d =>
    { d with decoder := d.decoder.complete }).message.responseDecoder with
  | none => exact .of ((oblivious_panic _).unobserved h')
  | some decoder => exact .of ((oblivious_onDownstream _).unobserved h')

/-- A chunk for the response decoder. -/
theorem responseDecoderOnData_leavesMatched (data : Bytes) (h : Unobserved k l s t) :
    LeavesMatched k l (s.responseDecoderOnData cfg data)
      (t.responseDecoderOnData (cfg.observed k l) data) := by
  unfold responseDecoderOnData
  rw [h.responseDecoder]
  cases t.message.responseDecoder with
  | none => exact .of ((oblivious_panic _).unobserved h)
  | some responseDecoder =>
    dsimp only
    rw [show (cfg.observed k l).codec = cfg.codec from rfl]
    obtain ⟨decoder, codec, data, decoded⟩ :=
      responseDecoder.decoder.decode cfg.codec responseDecoder.codec data
    have h' := (oblivious_onResponseDecoder fun d => { d with decoder, codec }).unobserved h
    cases decoded with
    | waitForData => exact .of h'
    | heartbeat _ => exact .of ((oblivious_panic _).unobserved h')
    | throw fault =>
      cases fault with
      | exception what => exact .of h'
      | panic site => exact .of ((oblivious_panic _).unobserved h')
    | stream metadata =>
      obtain ⟨result, u, u', hu, hu', h⟩ := onResponseDecoded_matched cfg metadata h'
      dsimp only
      rw [hu, hu']
      cases result with
      | none => exact responseDecoded_leavesMatched data h
      | some ex => exact .of h

/-- The status of a chunk. -/
theorem upstreamData_leavesMatched (data : Bytes) (h : Unobserved k l s t) :
    LeavesMatched k l (s.upstreamData cfg data) (t.upstreamData (cfg.observed k l) data) := by
  obtain ⟨data, result, u, u', hu, hu', h⟩ := responseDecoderOnData_leavesMatched cfg data h
  unfold upstreamData
  rw [hu, hu']
  cases result with
  | error ex =>
    cases ex with
    | downstreamConnectionClose =>
      exact .of ((oblivious_onDownstream _).unobserved
        (oblivious_deferredMessage.unobserved h))
    | envoyException what =>
      exact .of ((oblivious_onResponseException what).unobserved h)
  | ok status =>
    cases status with
    | complete =>
      dsimp only
      rw [h.requestId, h.responseRequestId]
      split_ifs
      · exact .of ((oblivious_onResponseException _).unobserved h)
      · exact .of (oblivious_deferredMessage.unobserved h)
    | retry => exact .of (Oblivious.unobserved (f := onMessage _) (fun _ _ => rfl) h)
    | moreData => exact .of h
    | reset => exact .of h

/-- A chunk from the upstream. -/
theorem onUpstreamData_unobserved (data : Bytes) (endStream : Bool) (h : Unobserved k l s t) :
    Unobserved k l (s.onUpstreamData cfg data endStream)
      (t.onUpstreamData (cfg.observed k l) data endStream) := by
  unfold onUpstreamData
  rw [h.router]
  cases t.message.router.upstreamRequest with
  | none => exact (oblivious_panic _).unobserved h
  | some request =>
    obtain ⟨rest, status, u, u', hu, hu', h⟩ := upstreamData_leavesMatched cfg data
      ((@oblivious_startResponse _ cfg).unobserved h)
    dsimp only
    rw [hu, show (t.startResponse (cfg.observed k l)).upstreamData (cfg.observed k l) data =
      (rest, status, u') from hu']
    have h' := (oblivious_leaveUpstreamData rest).unobserved h
    have hended : Oblivious fun v : Stream σ => if endStream = true then
        ((v.onResetStream cfg .remoteConnectionFailure).onResponseComplete).cleanup else v :=
      Oblivious.ite (fun _ _ => Iff.rfl) (oblivious_cleanup.comp
        (oblivious_onResponseComplete.comp (oblivious_onResetStream _))) oblivious_id
    cases status with
    | complete => exact (oblivious_cleanup.comp oblivious_onResponseComplete).unobserved h'
    | reset => exact (@oblivious_resetUpstreamStream _ cfg).unobserved h'
    | moreData => exact hended.unobserved h'
    | retry => exact hended.unobserved h'

end Stream

/-! ## The connection -/

namespace ConnectionManager

variable (cfg : Config σ) {cm cm' : ConnectionManager σ}
  {g : ConnectionManager σ → ConnectionManager σ}

/-- The connection, without the observers. -/
def unobserved (k l : ℕ) (cm : ConnectionManager σ) : ConnectionManager σ :=
  { cm with messages := fun i => (cm.messages i).withLog ((cm.messages i).log.unobserved k l) }

/-- The first connection is the second one, without the observers. -/
structure Unobserved (k l : ℕ) (cm cm' : ConnectionManager σ) : Prop where
  eq : cm = cm'.unobserved k l
  settled : ∀ i, (cm'.messages i).log.Settled k l

/-- A part of the connection that does not look at the messages, and leaves them. -/
def Detached (g : ConnectionManager σ → ConnectionManager σ) : Prop :=
  ∀ messages cm, g { cm with messages } = { g cm with messages }

theorem Detached.messages (hg : Detached g) (cm : ConnectionManager σ) :
    (g cm).messages = cm.messages :=
  congrArg (·.messages) (hg cm.messages cm)

/-- What leaves the messages alone does not see the observer. -/
theorem Detached.unobserved (hg : Detached g) (h : Unobserved k l cm cm') :
    Unobserved k l (g cm) (g cm') := by
  obtain ⟨rfl, hsettled⟩ := h
  refine ⟨?_, ?_⟩
  · rw [ConnectionManager.unobserved, hg, ConnectionManager.unobserved, hg.messages]
  · rw [hg.messages]
    exact hsettled

theorem detached_onDownstream (f : Downstream σ → Downstream σ) : Detached (onDownstream f) :=
  fun _ _ => rfl

namespace Unobserved

variable (h : Unobserved k l cm cm')
include h

theorem downstream : cm.downstream = cm'.downstream := by
  rw [h.eq]
  rfl

theorem requestBuffer : cm.requestBuffer = cm'.requestBuffer := by
  rw [h.eq]
  rfl

theorem stopped : cm.stopped = cm'.stopped := by
  rw [h.eq]
  rfl

theorem halfClosed : cm.halfClosed = cm'.halfClosed := by
  rw [h.eq]
  rfl

theorem created : cm.created = cm'.created := by
  rw [h.eq]
  rfl

end Unobserved

/-- The message, with the observer and without it. -/
theorem Unobserved.stream (h : Unobserved k l cm cm') (i : ℕ) :
    Stream.Unobserved k l (cm.stream i) (cm'.stream i) := by
  obtain ⟨rfl, hsettled⟩ := h
  exact ⟨rfl, hsettled i⟩

theorem Unobserved.setStream (h : Unobserved k l cm cm') (i : ℕ) {s s' : Stream σ}
    (hs : Stream.Unobserved k l s s') :
    Unobserved k l (cm.setStream i s) (cm'.setStream i s') := by
  obtain ⟨rfl, hsettled⟩ := h
  obtain ⟨rfl, hs⟩ := hs
  refine ⟨?_, fun j => ?_⟩
  · have hmessages : Function.update (cm'.unobserved k l).messages i
        (s'.unobserved k l).message = fun j =>
          (Function.update cm'.messages i s'.message j).withLog
            ((Function.update cm'.messages i s'.message j).log.unobserved k l) :=
      funext fun j => (Function.apply_update (fun _ (m : ActiveMessage σ) =>
        m.withLog (m.log.unobserved k l)) cm'.messages i s'.message j).symm
    rw [ConnectionManager.setStream, hmessages]
    rfl
  · change (Function.update cm'.messages i s'.message j).log.Settled k l
    by_cases hj : j = i
    · subst hj
      rw [Function.update_self]
      exact hs
    · rw [Function.update_of_ne hj]
      exact hsettled j

/-- What a message does not see, the connection does not. -/
theorem Unobserved.onStream (h : Unobserved k l cm cm') (i : ℕ) {f f' : Stream σ → Stream σ}
    (hf : ∀ {s s'}, Stream.Unobserved k l s s' → Stream.Unobserved k l (f s) (f' s')) :
    Unobserved k l (cm.onStream i f) (cm'.onStream i f') :=
  h.setStream i (hf (h.stream i))

/-- A new message of the connection. -/
theorem newStream_unobserved (metadata : Metadata) (h : Unobserved k l cm cm') :
    Unobserved k l (cm.newStream cfg metadata) (cm'.newStream (cfg.observed k l) metadata) := by
  have hlisted := Detached.unobserved (g := fun cm => { cm with
    created := cm.created + 1
    delivered := cm.delivered ++ [Delivery.stream metadata]
    downstream := { (cm.downstream.inc .requestActive) with
      activeMessageList := cm.created :: cm.downstream.activeMessageList } }) (fun _ _ => rfl) h
  have hnew : Stream.Unobserved k l
      ⟨{ id := cm.created }, { (cm.downstream.inc .requestActive) with
        activeMessageList := cm.created :: cm.downstream.activeMessageList }⟩
      ⟨{ id := cm'.created }, { (cm'.downstream.inc .requestActive) with
        activeMessageList := cm'.created :: cm'.downstream.activeMessageList }⟩ := by
    obtain ⟨rfl, -⟩ := h
    exact ⟨rfl, fun hrunning => absurd hrunning Bool.false_ne_true,
      fun hrunning => absurd hrunning Bool.false_ne_true⟩
  have hset := hlisted.setStream cm.created hnew
  have hdecoded := hset.onStream cm.created (Stream.onStreamDecoded_unobserved cfg metadata)
  unfold newStream
  rw [h.created] at hdecoded ⊢
  exact hdecoded

theorem detached_onHeartbeat (metadata : Metadata) :
    Detached fun cm : ConnectionManager σ => (cm.onHeartbeat cfg metadata).2 := by
  intro messages cm
  unfold onHeartbeat onDownstream
  dsimp only
  split_ifs
  · rfl
  · cases cfg.codec.encode (cm.downstream.inc .requestEvent).codec
      { metadata with messageType := .heartbeat } <;> rfl

theorem onHeartbeat_fst (metadata : Metadata) (messages : ℕ → ActiveMessage σ)
    (cm : ConnectionManager σ) : (({ cm with messages } : ConnectionManager σ).onHeartbeat
      cfg metadata).1 = (cm.onHeartbeat cfg metadata).1 := by
  unfold onHeartbeat onDownstream
  dsimp only
  split_ifs
  · rfl
  · cases cfg.codec.encode (cm.downstream.inc .requestEvent).codec
      { metadata with messageType := .heartbeat } <;> rfl

/-- The loop over what has come. -/
theorem dispatchLoop_unobserved : ∀ (fuel : ℕ) {cm cm' : ConnectionManager σ},
    Unobserved k l cm cm' →
      Unobserved k l (cm.dispatchLoop cfg fuel) (cm'.dispatchLoop (cfg.observed k l) fuel)
  | 0, _, _, h => h
  | fuel + 1, cm, cm', h => by
    have hdecode := Detached.unobserved (g := fun cm => (cm.decode cfg).1) (fun _ _ => rfl) h
    have hdecoded : (cm.decode cfg).2 = (cm'.decode cfg).2 := by rw [h.eq]; rfl
    have hagain : ∀ {cm cm' : ConnectionManager σ}, Unobserved k l cm cm' →
        Unobserved k l (if cm.complete.requestBuffer = [] then cm.complete
            else cm.complete.dispatchLoop cfg fuel)
          (if cm'.complete.requestBuffer = [] then cm'.complete
            else cm'.complete.dispatchLoop (cfg.observed k l) fuel) := by
      intro cm cm' h
      have hcomplete := Detached.unobserved (g := complete) (fun _ _ => rfl) h
      rw [hcomplete.requestBuffer]
      split_ifs
      · exact hcomplete
      · exact dispatchLoop_unobserved fuel hcomplete
    have hfail : Detached (σ := σ) onDecodingError := fun _ _ => rfl
    unfold dispatchLoop
    rw [show cm'.decode (cfg.observed k l) = cm'.decode cfg from rfl]
    generalize cm.decode cfg = r at hdecode hdecoded
    generalize cm'.decode cfg = r' at hdecode hdecoded
    obtain ⟨cm, decoded⟩ := r
    obtain ⟨cm', decoded'⟩ := r'
    obtain rfl : decoded = decoded' := hdecoded
    change Unobserved k l cm cm' at hdecode
    cases decoded with
    | waitForData => exact hdecode
    | throw fault =>
      cases fault with
      | exception what => exact hfail.unobserved hdecode
      | panic site => exact (detached_onDownstream _).unobserved hdecode
    | stream metadata => exact hagain (newStream_unobserved cfg metadata hdecode)
    | heartbeat metadata =>
      have hheartbeat := (detached_onHeartbeat cfg metadata).unobserved hdecode
      have hresult : (cm.onHeartbeat cfg metadata).1 = (cm'.onHeartbeat cfg metadata).1 := by
        rw [show cm = { cm' with messages := cm.messages } by rw [hdecode.eq]; rfl]
        exact onHeartbeat_fst cfg metadata _ cm'
      dsimp only
      rw [show cm'.onHeartbeat (cfg.observed k l) metadata = cm'.onHeartbeat cfg metadata from rfl]
      generalize cm.onHeartbeat cfg metadata = r at hheartbeat hresult
      generalize cm'.onHeartbeat cfg metadata = r' at hheartbeat hresult
      obtain ⟨result, cm⟩ := r
      obtain ⟨result', cm'⟩ := r'
      obtain rfl : result = result' := hresult
      cases result with
      | ok _ => exact hagain hheartbeat
      | error fault =>
        cases fault with
        | exception what => exact hfail.unobserved hheartbeat
        | panic site => exact (detached_onDownstream _).unobserved hheartbeat

theorem dispatch_unobserved (h : Unobserved k l cm cm') :
    Unobserved k l (cm.dispatch cfg) (cm'.dispatch (cfg.observed k l)) := by
  unfold dispatch
  rw [h.requestBuffer, h.stopped]
  split_ifs
  · exact h
  · exact h
  · exact dispatchLoop_unobserved cfg _ h

theorem detached_resetAndClose : Detached (σ := σ) resetAndClose :=
  fun _ _ => rfl

/-- Bytes from the client. -/
theorem onData_unobserved (data : Bytes) (endStream : Bool) (h : Unobserved k l cm cm') :
    Unobserved k l (cm.onData cfg data endStream)
      (cm'.onData (cfg.observed k l) data endStream) := by
  have hdispatch := dispatch_unobserved cfg (Detached.unobserved
    (g := fun cm => { cm with requestBuffer := cm.requestBuffer ++ data }) (fun _ _ => rfl) h)
  have hreset := detached_resetAndClose.unobserved hdispatch
  unfold onData
  dsimp only
  generalize dispatch cfg _ = cm at hdispatch hreset
  generalize dispatch (cfg.observed k l) _ = cm' at hdispatch hreset
  have hfront : ∀ front, (cm.messages front).metadata = (cm'.messages front).metadata := by
    rw [hdispatch.eq]
    exact fun _ => rfl
  have hhalf : Unobserved k l { cm with halfClosed := true } { cm' with halfClosed := true } :=
    Detached.unobserved (g := fun cm => { cm with halfClosed := true }) (fun _ _ => rfl) hdispatch
  rw [hdispatch.stopped] at hhalf ⊢
  rw [show cm.downstream.activeMessageList = cm'.downstream.activeMessageList by
    rw [hdispatch.downstream]]
  split_ifs
  · cases cm'.downstream.activeMessageList with
    | nil => exact (detached_onDownstream _).unobserved hdispatch
    | cons front _ =>
      dsimp only
      rw [hfront]
      split_ifs
      · exact hhalf
      · exact hreset
  · exact hreset
  · exact hdispatch

/-- The connection reads on. -/
theorem continueDecoding_unobserved (h : Unobserved k l cm cm') :
    Unobserved k l (cm.continueDecoding cfg) (cm'.continueDecoding (cfg.observed k l)) := by
  have hdispatch := dispatch_unobserved cfg (Detached.unobserved
    (g := fun cm => { cm with stopped := false }) (fun _ _ => rfl) h)
  unfold continueDecoding
  dsimp only
  generalize dispatch cfg _ = cm at hdispatch
  generalize dispatch (cfg.observed k l) _ = cm' at hdispatch
  rw [hdispatch.stopped, hdispatch.halfClosed]
  split_ifs
  · exact detached_resetAndClose.unobserved hdispatch
  · exact hdispatch

/-- A message goes on, and the connection with it. -/
theorem continueMessage_unobserved (i p : ℕ) (h : Unobserved k l cm cm') :
    Unobserved k l (cm.continueMessage cfg i p)
      (cm'.continueMessage (cfg.observed k l) i (shift k p)) := by
  obtain ⟨again, u, u', hu, hu', hs⟩ :=
    Stream.continueDecoding_matched cfg p (h.stream i)
  unfold continueMessage
  rw [hu, hu']
  cases again with
  | true => exact continueDecoding_unobserved cfg (h.setStream i hs)
  | false => exact h.setStream i hs

theorem routerPosition_observed :
    routerPosition (cfg.observed k l) = shift k (routerPosition cfg) :=
  findIdx_insertIdx _ rfl k cfg.decoderFilters

/-! ## Runs -/

/-- The event, where the observers are among the filters. -/
def Event.observed (k l : ℕ) : Event → Event
  | .continueDecoding i p => .continueDecoding i (shift k p)
  | .continueEncoding i p => .continueEncoding i (shift l p)
  | e => e

/-- The end of a message needs no filter but the router. -/
theorem destroy_observed : Stream.destroy (cfg.observed k l) = Stream.destroy cfg := by
  funext s
  unfold Stream.destroy
  rw [show (cfg.observed k l).decoderFilters.any Filter.isRouter =
      cfg.decoderFilters.any Filter.isRouter from any_insertIdx _ rfl k cfg.decoderFilters,
    show (cfg.observed k l).encoderFilters.any Filter.isRouter =
      cfg.encoderFilters.any Filter.isRouter from any_insertIdx _ rfl l cfg.encoderFilters]
  rfl

/-- A step is the same with the observers and without them. -/
theorem step_unobserved (e : Event) (h : Unobserved k l cm cm') :
    Unobserved k l (cm.step cfg e) (cm'.step (cfg.observed k l) (e.observed k l)) := by
  cases e with
  | downstreamData data endStream => exact onData_unobserved cfg data endStream h
  | downstreamClose event => exact (detached_onDownstream _).unobserved h
  | poolReady i host leftover =>
    have hready := h.onStream i (Stream.oblivious_onPoolReadyConnection host leftover).unobserved
    have hcontinue := continueMessage_unobserved cfg i (routerPosition cfg) hready
    rw [← routerPosition_observed] at hcontinue
    exact hcontinue.onStream i (Stream.oblivious_encodeData.comp
      (Stream.oblivious_onRequest _)).unobserved
  | poolFailure i reason host =>
    have hfailure := h.onStream i
      (@Stream.oblivious_onPoolFailureReset _ cfg reason host).unobserved
    have hcontinue := continueMessage_unobserved cfg i (routerPosition cfg) hfailure
    rw [← routerPosition_observed] at hcontinue
    cases reason with
    | overflow => exact hfailure
    | localConnectionFailure => exact hcontinue
    | remoteConnectionFailure => exact hcontinue
    | timeout => exact hcontinue
  | upstreamData i data endStream =>
    have hbuffer : cm.upstreamBuffer i = cm'.upstreamBuffer i := by rw [h.eq]; rfl
    have hstep : cm.step cfg (.upstreamData i data endStream) =
        cm.onStream i (Stream.onUpstreamData cfg (cm'.upstreamBuffer i ++ data) endStream) := by
      rw [← hbuffer]
      rfl
    rw [hstep]
    exact h.onStream i (Stream.onUpstreamData_unobserved cfg _ endStream)
  | upstreamClose i event =>
    exact h.onStream i (@Stream.oblivious_upstreamClosed _ cfg event).unobserved
  | continueDecoding i p => exact continueMessage_unobserved cfg i p h
  | continueEncoding i p => exact h.onStream i (Stream.continueEncoding_unobserved cfg p)
  | release i =>
    change Unobserved k l (cm.onStream i (Stream.destroy cfg))
      (cm'.onStream i (Stream.destroy (cfg.observed k l)))
    rw [destroy_observed]
    exact h.onStream i Stream.oblivious_destroy.unobserved

/-- A filter waits with the observers where it waits without them. -/
theorem pausedAt_observed {n p : ℕ} {filters : List Filter} {calls : List ℕ}
    (h : calls.getLast? ≠ some n) :
    pausedAt (filters.insertIdx n .observer) calls (shift n p) =
      pausedAt filters (erased n calls) p := by
  unfold pausedAt
  rw [getElem?_insertIdx_shift]
  exact decide_eq_decide.mpr (and_congr_left fun _ => (getLast?_erased h).symm)

/-- The same events can happen. -/
theorem enabled_observed (e : Event) (h : Unobserved k l cm cm') :
    cm'.Enabled (cfg.observed k l) (e.observed k l) ↔ cm.Enabled cfg e := by
  obtain ⟨rfl, hsettled⟩ := h
  refine and_congr Iff.rfl ?_
  cases e with
  | continueDecoding i p =>
    refine and_congr Iff.rfl (and_congr Iff.rfl (and_congr_right fun hrunning => ?_))
    exact iff_of_eq (congrArg (· = true) (pausedAt_observed ((hsettled i).1 hrunning)))
  | continueEncoding i p =>
    refine and_congr Iff.rfl (and_congr Iff.rfl (and_congr_right fun hrunning => ?_))
    exact iff_of_eq (congrArg (· = true) (pausedAt_observed ((hsettled i).2 hrunning)))
  | _ => exact Iff.rfl

/-- No filter waits at the position of a filter that was not the last one called. -/
theorem exists_shift_of_pausedAt {n p : ℕ} {filters : List Filter} {calls : List ℕ}
    (h : calls.getLast? ≠ some n) (hpaused : pausedAt filters calls p = true) :
    ∃ q, p = shift n q :=
  exists_shift fun hp => h (hp ▸ (of_decide_eq_true hpaused).1)

/-- No event is about an observer. -/
theorem exists_observed {e : Event} (h : Unobserved k l cm cm')
    (he : cm'.Enabled (cfg.observed k l) e) : ∃ e₀ : Event, e = e₀.observed k l := by
  obtain ⟨-, hpermitted⟩ := he
  cases e with
  | continueDecoding i p =>
    obtain ⟨-, -, hrunning, hpaused⟩ := hpermitted
    obtain ⟨q, rfl⟩ := exists_shift_of_pausedAt ((h.settled i).1 hrunning) hpaused
    exact ⟨.continueDecoding i q, rfl⟩
  | continueEncoding i p =>
    obtain ⟨-, -, hrunning, hpaused⟩ := hpermitted
    obtain ⟨q, rfl⟩ := exists_shift_of_pausedAt ((h.settled i).2 hrunning) hpaused
    exact ⟨.continueEncoding i q, rfl⟩
  | downstreamData data endStream => exact ⟨.downstreamData data endStream, rfl⟩
  | downstreamClose event => exact ⟨.downstreamClose event, rfl⟩
  | poolReady i host leftover => exact ⟨.poolReady i host leftover, rfl⟩
  | poolFailure i reason host => exact ⟨.poolFailure i reason host, rfl⟩
  | upstreamData i data endStream => exact ⟨.upstreamData i data endStream, rfl⟩
  | upstreamClose i event => exact ⟨.upstreamClose i event, rfl⟩
  | release i => exact ⟨.release i, rfl⟩

theorem unobserved_new : Unobserved k l (new cfg) (new (cfg.observed k l)) :=
  ⟨rfl, fun _ => ⟨fun hrunning => absurd hrunning Bool.false_ne_true,
    fun hrunning => absurd hrunning Bool.false_ne_true⟩⟩

/-- A whole run. -/
theorem run_unobserved : ∀ (es : List Event) {cm cm' : ConnectionManager σ},
    Unobserved k l cm cm' → Unobserved k l ((system cfg).run cm es)
        ((system (cfg.observed k l)).run cm' (es.map (Event.observed k l))) ∧
      ((system (cfg.observed k l)).Admissible cm' (es.map (Event.observed k l)) ↔
        (system cfg).Admissible cm es)
  | [], _, _, h => ⟨h, Iff.rfl⟩
  | e :: es, _, _, h => by
    obtain ⟨hrun, hadmissible⟩ := run_unobserved es (step_unobserved cfg e h)
    exact ⟨hrun, and_congr (enabled_observed cfg e h) hadmissible⟩

theorem exists_map_observed : ∀ {es : List Event} {cm cm' : ConnectionManager σ},
    Unobserved k l cm cm' → (system (cfg.observed k l)).Admissible cm' es →
      ∃ es₀ : List Event, es = es₀.map (Event.observed k l)
  | [], _, _, _, _ => ⟨[], rfl⟩
  | e :: es, _, _, h, he => by
    obtain ⟨e₀, rfl⟩ := exists_observed cfg h he.1
    obtain ⟨es₀, rfl⟩ := exists_map_observed (step_unobserved cfg e₀ h) he.2
    exact ⟨e₀ :: es₀, rfl⟩

/-- Observers make no difference. The runs with them are those without them, where the filters
behind an observer have moved by one position, and a run comes to the same state with them and
without them, but for what the messages record of their filters : the same writes to the client and
to the upstreams, the same counters, the same messages at the same point. -/
theorem observed_run (k l : ℕ) :
    (∀ es, (system (cfg.observed k l)).Admissible (new (cfg.observed k l)) es ↔
      ∃ es₀ : List Event, es = es₀.map (Event.observed k l) ∧
        (system cfg).Admissible (new cfg) es₀) ∧
    ∀ es₀, (system cfg).run (new cfg) es₀ = ((system (cfg.observed k l)).run
      (new (cfg.observed k l)) (es₀.map (Event.observed k l))).unobserved k l := by
  have hnew := unobserved_new cfg (k := k) (l := l)
  refine ⟨fun es => ⟨fun hes => ?_, ?_⟩, fun es₀ => (run_unobserved cfg es₀ hnew).1.eq⟩
  · obtain ⟨es₀, rfl⟩ := exists_map_observed cfg hnew hes
    exact ⟨es₀, rfl, (run_unobserved cfg es₀ hnew).2.mp hes⟩
  · rintro ⟨es₀, rfl, hes₀⟩
    exact (run_unobserved cfg es₀ hnew).2.mpr hes₀

end ConnectionManager

end MetaProtocolProxy

import MetaProtocolProxy.Correlation
import MetaProtocolProxy.DubboProxy

/-!
# Local replies and responses

A filter that sends a local reply cuts its chain short, and the chain then reports
`Continue`. The callers of the decoder chain look at `local_response_sent_` before they go
on; the caller of the encoder chain does not, and forwards the response behind the local
reply. What the encoder filters do with a response depends only on how they react to it
(`Encoding`), and the answers of a run keep the order that a local reply asks for exactly if
no response is completed for a request that has a local reply by the time its encoder
filters are through, with the client still there (`replaced_iff`).
-/

namespace MetaProtocolProxy

variable {σ : Type}

/-! ## The encoder filters alone -/

/-- What is left of a response while the encoder filters handle it, which of them were called,
and what they have made of the client : whether it is there, whether a local reply that does
not end the stream was sent, and whether one was written. -/
structure Encoding where
  metadata : Metadata
  calls : List ℕ
  isOpen : Bool
  sent : Bool
  replied : Bool

namespace Encoding

/-- A callback used by a filter, for a request that an error answers as the codec says. -/
def act (cfg : Config σ) (codec : σ) (request : Option Metadata) (e : Encoding) :
    FilterAct → Encoding
  | .sendLocalReply error endStream =>
    match request with
    | none => e
    | some request =>
      match cfg.codec.onError codec request error with
      | .ok _ =>
        { e with
          isOpen := e.isOpen && !endStream
          sent := e.sent || !endStream
          replied := e.replied || (e.isOpen && !endStream) }
      | .error (.exception _) =>
        { e with isOpen := e.isOpen && !endStream, sent := e.sent || !endStream }
      | .error (.panic _) => { e with sent := e.sent || !endStream }
  | .resetStream => e
  | .resetDownstreamConnection => { e with isOpen := false }
  | .drainOriginMessage length => { e with metadata := Stream.drained length e.metadata }

/-- A filter, for the message of a number. -/
def filter (cfg : Config σ) (codec : σ) (request : Option Metadata) (i : ℕ) (f : Filter)
    (position : ℕ) (e : Encoding) : FilterStatus × Encoding :=
  let called := { e with calls := e.calls ++ [position] }
  match f with
  | .router => (.continue, called)
  | .custom react =>
    let reaction := react i (e.calls.count position) e.metadata
    (reaction.status, reaction.acts.foldl (act cfg codec request) called)

/-- The filters from a position on. -/
def filters (cfg : Config σ) (codec : σ) (request : Option Metadata) (i : ℕ) :
    List Filter → ℕ → Encoding → FilterStatus × Encoding
  | [], _, e => (.continue, e)
  | f :: rest, position, e =>
    match e.filter cfg codec request i f position with
    | (status, e) =>
      if e.sent then (.continue, e)
      else if status ≠ .continue then (status, e)
      else filters cfg codec request i rest (position + 1) e

/-- A local reply ends the iteration, which then reports `Continue`. -/
theorem filters_of_sent (cfg : Config σ) (codec : σ) (request : Option Metadata) (i : ℕ) :
    ∀ (fs : List Filter) (position : ℕ) (e : Encoding),
      (e.filters cfg codec request i fs position).2.sent = true →
        (e.filters cfg codec request i fs position).1 = .continue
  | [], _, _, _ => rfl
  | f :: fs, position, e, h => by
    unfold filters at h ⊢
    generalize e.filter cfg codec request i f position = r at h ⊢
    obtain ⟨status, e'⟩ := r
    dsimp only at h ⊢
    by_cases hsent : e'.sent = true
    · rw [if_pos hsent]
    · rw [if_neg hsent] at h ⊢
      by_cases hstatus : status ≠ .continue
      · rw [if_pos hstatus] at h
        exact absurd h hsent
      · rw [if_neg hstatus] at h ⊢
        exact filters_of_sent cfg codec request i fs (position + 1) e' h

end Encoding

namespace Downstream

theorem state_closed (event : ConnectionEvent) (d : Downstream σ) :
    (d.closed event).state = .closed :=
  state_resetAllMessages _ _

/-- A local reply that ends the stream leaves an open connection to be closed, unless the codec
stops the process. -/
theorem sendLocalReply_isOpen (cfg : Config σ) (i : ℕ) (metadata : Metadata) (error : Error)
    (endStream : Bool) (d : Downstream σ) :
    decide ((d.sendLocalReply cfg i metadata error endStream).state = .open) =
      match cfg.codec.onError d.codec metadata error with
      | .error (.panic _) => decide (d.state = .open)
      | _ => decide (d.state = .open) && !endStream := by
  unfold sendLocalReply
  by_cases hopen : d.state = .open
  · rw [if_neg (not_not.mpr hopen)]
    rcases cfg.codec.onError d.codec metadata error with (what | site) | bytes
    · cases endStream <;> simp [inc, close, hopen]
    · simp [panic, hopen]
    · cases endStream <;> simp [inc, close, write, hopen]
  · rw [if_pos hopen]
    rcases cfg.codec.onError d.codec metadata error with (what | site) | bytes <;> simp [hopen]

/-- It is written to an open connection if the codec has bytes for it. -/
theorem sendLocalReply_replied (cfg : Config σ) (i : ℕ) (metadata : Metadata) (error : Error)
    (endStream : Bool) (d : Downstream σ) :
    (d.sendLocalReply cfg i metadata error endStream).written.any (Write.isLocalReply i) =
      match cfg.codec.onError d.codec metadata error with
      | .ok _ => d.written.any (Write.isLocalReply i) || (decide (d.state = .open) && !endStream)
      | _ => d.written.any (Write.isLocalReply i) := by
  unfold sendLocalReply
  by_cases hopen : d.state = .open
  · rw [if_neg (not_not.mpr hopen)]
    rcases cfg.codec.onError d.codec metadata error with (what | site) | bytes
    · cases endStream <;> simp [inc, written_close]
    · rfl
    · cases endStream <;> simp [inc, write, written_close, Write.isLocalReply, hopen]
  · rw [if_pos hopen]
    rcases cfg.codec.onError d.codec metadata error with (what | site) | bytes <;> simp [hopen]

end Downstream

namespace Stream

/-- The message `i` is as the encoder filters see it. -/
structure Shows (i : ℕ) (codec : σ) (request : Option Metadata) (e : Encoding) (s : Stream σ) :
    Prop where
  id : s.message.id = i
  request : s.message.metadata = request
  codec : s.downstream.codec = codec
  metadata : s.message.responseDecoder.bind (·.metadata) = some e.metadata
  calls : s.message.encoderCalls = e.calls
  isOpen : e.isOpen = decide (s.downstream.state = .open)
  sent : e.sent = s.message.localResponseSent
  replied : e.replied = s.downstream.written.any (Write.isLocalReply i)

variable {cfg : Config σ} {i : ℕ} {codec : σ} {request : Option Metadata} {e : Encoding}
  {s : Stream σ}

theorem shows_sendLocalReply (h : Shows i codec request e s) (error : Error) (endStream : Bool) :
    Shows i codec request (e.act cfg codec request (.sendLocalReply error endStream))
      (s.sendLocalReply cfg error endStream) := by
  obtain ⟨hid, hrequest, hcodec, hmetadata, hcalls, hopen, hsent, hreplied⟩ := h
  unfold sendLocalReply Encoding.act
  rw [hrequest]
  cases request with
  | none => exact ⟨hid, hrequest, hcodec, hmetadata, hcalls, hopen, hsent, hreplied⟩
  | some request =>
    have hopen' := Downstream.sendLocalReply_isOpen cfg s.message.id request error endStream
      s.downstream
    have hreplied' := Downstream.sendLocalReply_replied cfg s.message.id request error endStream
      s.downstream
    have hcodec' := Downstream.codec_sendLocalReply cfg s.message.id request error endStream
      s.downstream
    rw [hid, hcodec, ← hopen, ← hreplied] at hreplied'
    rw [hcodec, ← hopen] at hopen'
    rw [hcodec] at hcodec'
    have hsent' : ∀ b, (e.sent || !b) =
        (if b = true then s.message
          else { s.message with localResponseSent := true }).localResponseSent := by
      intro b
      cases b <;> simp [hsent]
    dsimp only
    generalize cfg.codec.onError codec request error = reply at hopen' hreplied' ⊢
    rcases reply with (what | site) | bytes
    all_goals
      cases endStream
      · exact ⟨hid, hrequest, hcodec', hmetadata, hcalls, hopen'.symm, hsent' false,
          hid ▸ hreplied'.symm⟩
      · exact ⟨hid, hrequest, hcodec', hmetadata, hcalls, hopen'.symm, hsent' true,
          hid ▸ hreplied'.symm⟩

/-- A change of the connection that writes nothing. -/
theorem Shows.onDownstream (h : Shows i codec request e s) {d : Downstream σ}
    (hcodec : d.codec = s.downstream.codec) (hwritten : d.written = s.downstream.written)
    {isOpen : Bool} (hopen : isOpen = decide (d.state = .open)) :
    Shows i codec request { e with isOpen } ⟨s.message, d⟩ :=
  ⟨h.id, h.request, hcodec.trans h.codec, h.metadata, h.calls, hopen, h.sent,
    by rw [hwritten]; exact h.replied⟩

theorem shows_act (h : Shows i codec request e s) (a : FilterAct) :
    Shows i codec request (e.act cfg codec request a) (s.act cfg drainResponse a) := by
  cases a with
  | sendLocalReply error endStream => exact shows_sendLocalReply h error endStream
  | resetStream =>
    have hstate : (s.downstream.deferredMessage s.message.id).state = s.downstream.state := by
      unfold Downstream.deferredMessage
      split <;> rfl
    exact h.onDownstream (Downstream.codec_deferredMessage _ _)
      (Downstream.written_deferredMessage _ _) (by rw [hstate]; exact h.isOpen)
  | resetDownstreamConnection =>
    have hclosed : (s.downstream.close .noFlush).state = .closed := by
      simp only [Downstream.close]
      split
      · assumption
      · exact Downstream.state_closed _ _
    exact h.onDownstream (Downstream.codec_close _ _) (Downstream.written_close _ _)
      (by rw [hclosed]; rfl)
  | drainOriginMessage length =>
    refine ⟨h.id, h.request, h.codec, ?_, h.calls, h.isOpen, h.sent, h.replied⟩
    have hmetadata := h.metadata
    unfold act drainResponse onResponseDecoder onMessage Encoding.act
    cases hdecoder : s.message.responseDecoder with
    | none =>
      rw [hdecoder] at hmetadata
      cases hmetadata
    | some decoder =>
      rw [hdecoder] at hmetadata
      simp only [Option.bind_some] at hmetadata
      simp [hdecoder, hmetadata]

theorem shows_acts (as : List FilterAct) : ∀ {e : Encoding} {s : Stream σ},
    Shows i codec request e s →
      Shows i codec request (as.foldl (Encoding.act cfg codec request) e)
        (s.acts cfg drainResponse as) := by
  induction as with
  | nil => exact fun h => h
  | cons a as ih => exact fun h => ih (shows_act h a)

theorem shows_filterOnMessageEncoded (h : Shows i codec request e s) (f : Filter) (position : ℕ) :
    (s.filterOnMessageEncoded cfg f position).1 =
        (e.filter cfg codec request i f position).1 ∧
      Shows i codec request (e.filter cfg codec request i f position).2
        (s.filterOnMessageEncoded cfg f position).2 := by
  have hcalled : Shows i codec request { e with calls := e.calls ++ [position] }
      (s.onMessage fun m => { m with encoderCalls := m.encoderCalls ++ [position] }) :=
    ⟨h.id, h.request, h.codec, h.metadata, congrArg (· ++ [position]) h.calls, h.isOpen, h.sent,
      h.replied⟩
  unfold filterOnMessageEncoded Encoding.filter
  dsimp only
  cases f with
  | router =>
    unfold routerOnMessageEncoded withHost
    dsimp only
    split
    · exact ⟨rfl, hcalled⟩
    · split
      · exact ⟨rfl, hcalled⟩
      · exact ⟨rfl, hcalled.id, hcalled.request, hcalled.codec, hcalled.metadata, hcalled.calls,
          hcalled.isOpen, hcalled.sent, hcalled.replied⟩
  | custom react =>
    have hid : (s.onMessage fun m =>
        { m with encoderCalls := m.encoderCalls ++ [position] }).message.id = i := h.id
    dsimp only
    rw [hid, hcalled.metadata, Option.getD_some, h.calls]
    exact ⟨rfl, shows_acts _ hcalled⟩

theorem shows_encoderFilterLoop : ∀ (fs : List Filter) (position : ℕ) {e : Encoding} {s : Stream σ},
    Shows i codec request e s →
      (s.encoderFilterLoop cfg fs position).1 = (e.filters cfg codec request i fs position).1 ∧
      Shows i codec request (e.filters cfg codec request i fs position).2
        (s.encoderFilterLoop cfg fs position).2
  | [], _, _, _, h =>
    ⟨rfl, h.id, h.request, h.codec, h.metadata, h.calls, h.isOpen, h.sent, h.replied⟩
  | f :: fs, position, e, s, h => by
    obtain ⟨hstatus, hshows⟩ := @shows_filterOnMessageEncoded _ cfg _ _ _ _ _ h f position
    unfold encoderFilterLoop Encoding.filters
    generalize s.filterOnMessageEncoded cfg f position = r at hstatus hshows ⊢
    generalize e.filter cfg codec request i f position = r' at hstatus hshows ⊢
    obtain ⟨status, t⟩ := r
    obtain ⟨status', e'⟩ := r'
    obtain rfl : status = status' := hstatus
    dsimp only at hshows ⊢
    rw [hshows.sent]
    by_cases hsent : t.message.localResponseSent = true
    · rw [if_pos hsent, if_pos hsent]
      exact ⟨rfl, hshows.id, hshows.request, hshows.codec, hshows.metadata, hshows.calls,
        hshows.isOpen, hshows.sent, hshows.replied⟩
    · rw [if_neg hsent, if_neg hsent]
      by_cases hcontinue : status ≠ .continue
      · rw [if_pos hcontinue, if_pos hcontinue]
        exact ⟨rfl, hshows⟩
      · rw [if_neg hcontinue, if_neg hcontinue]
        exact shows_encoderFilterLoop fs (position + 1) hshows

/-- What the encoder filters make of a response for a message. -/
def encoding (cfg : Config σ) (metadata : Metadata) (s : Stream σ) : FilterStatus × Encoding :=
  let e : Encoding :=
    { metadata
      calls := s.message.encoderCalls
      isOpen := decide (s.downstream.state = .open)
      sent := s.message.localResponseSent
      replied := s.downstream.written.any (Write.isLocalReply s.message.id) }
  if e.sent then (.continue, e)
  else e.filters cfg s.downstream.codec s.message.metadata s.message.id cfg.encoderFilters 0

theorem encodeResponse_spec (metadata : Metadata) (h : s.message.responseDecoder.isSome) :
    (s.encodeResponse cfg metadata).1 = (s.encoding cfg metadata).1 ∧
      (s.encoding cfg metadata).2.isOpen =
        decide ((s.encodeResponse cfg metadata).2.downstream.state = .open) ∧
      (s.encoding cfg metadata).2.sent =
        (s.encodeResponse cfg metadata).2.message.localResponseSent ∧
      (s.encoding cfg metadata).2.replied =
        (s.encodeResponse cfg metadata).2.downstream.written.any
          (Write.isLocalReply s.message.id) := by
  obtain ⟨decoder, hdecoder⟩ := Option.isSome_iff_exists.mp h
  obtain ⟨t, ht⟩ : ∃ t, t =
      ((s.assert (metadata.messageType = .response ∨ metadata.messageType = .error)
        "ASSERT(Response || Error)").onResponseDecoder fun d =>
          { d with metadata := some metadata }).onMessage fun m =>
            { m with encoderFilterAction := true } := ⟨_, rfl⟩
  have hshows : Shows s.message.id s.downstream.codec s.message.metadata
      { metadata
        calls := s.message.encoderCalls
        isOpen := decide (s.downstream.state = .open)
        sent := s.message.localResponseSent
        replied := s.downstream.written.any (Write.isLocalReply s.message.id) } t := by
    rw [ht]
    unfold assert Stream.onDownstream Downstream.assert
    split
    all_goals
      exact ⟨rfl, rfl, rfl, by simp [onResponseDecoder, onMessage, hdecoder], rfl, rfl, rfl, rfl⟩
  have haction : ¬t.message.encoderFilterAction = false := by
    rw [ht]
    simp [onMessage]
  obtain ⟨hstatus, hdown, hflag⟩ :
      (s.encodeResponse cfg metadata).1 = (t.applyEncoderFilters cfg 0).1 ∧
        (s.encodeResponse cfg metadata).2.downstream =
          (t.applyEncoderFilters cfg 0).2.downstream ∧
        (s.encodeResponse cfg metadata).2.message.localResponseSent =
          (t.applyEncoderFilters cfg 0).2.message.localResponseSent := by
    unfold encodeResponse applyMessageEncodedFilters
    dsimp only
    rw [← ht, show commonPrefix none .canStartFromCurrent = 0 from rfl]
    generalize t.applyEncoderFilters cfg 0 = r
    obtain ⟨_ | _ | _, u⟩ := r
    · exact ⟨rfl, rfl, rfl⟩
    · exact ⟨rfl, rfl, rfl⟩
    · exact ⟨rfl, rfl, rfl⟩
  rw [hstatus, hdown, hflag]
  unfold applyEncoderFilters encoding
  rw [if_neg haction, ← hshows.sent]
  dsimp only
  by_cases hsent : s.message.localResponseSent = true
  · rw [if_pos hsent, if_pos hsent]
    exact ⟨rfl, hshows.isOpen, hshows.sent, hshows.replied⟩
  · rw [if_neg hsent, if_neg hsent]
    obtain ⟨hstatus, hshows'⟩ := @shows_encoderFilterLoop _ cfg _ _ _ cfg.encoderFilters 0 _ _
      hshows
    rw [List.drop_zero]
    generalize t.encoderFilterLoop cfg cfg.encoderFilters 0 = r at hstatus hshows' ⊢
    obtain ⟨_ | _ | _, u⟩ := r
    · exact ⟨hstatus, hshows'.isOpen, hshows'.sent, hshows'.replied⟩
    · exact ⟨hstatus, hshows'.isOpen, hshows'.sent, hshows'.replied⟩
    · exact ⟨hstatus, hshows'.isOpen, hshows'.sent, hshows'.replied⟩

/-- Once a local reply was sent the encoder filters report `Continue`. -/
theorem encoding_of_sent (metadata : Metadata) (h : (s.encoding cfg metadata).2.sent = true) :
    (s.encoding cfg metadata).1 = .continue := by
  unfold encoding at h ⊢
  dsimp only at h ⊢
  split at h
  · rw [if_pos (by assumption)]
  · rw [if_neg (by assumption)]
    exact Encoding.filters_of_sent _ _ _ _ _ _ _ h

/-! ## Forwarding behind a local reply -/

/-- The response decoder is there when a response is complete, and nothing has been written
for it. -/
theorem completedResponse_spec {data : Bytes} {metadata : Metadata} {t : Stream σ}
    (h : s.completedResponse cfg data = some (metadata, t)) :
    t.message.responseDecoder.isSome ∧ Quiet s t ∧ ∃ rest,
      (s.startResponse cfg).responseDecoderOnData cfg data =
        match t.onResponseDecoded cfg metadata with
        | (some ex, u) => (rest, .error ex, u)
        | (none, u) => u.responseDecoded rest := by
  have hstart := quiet_startResponse cfg s
  unfold completedResponse at h
  unfold responseDecoderOnData
  generalize s.startResponse cfg = u at h hstart ⊢
  cases hdecoder : u.message.responseDecoder with
  | none =>
    rw [hdecoder] at h
    cases h
  | some responseDecoder =>
    rw [hdecoder] at h
    dsimp only at h ⊢
    generalize responseDecoder.decoder.decode cfg.codec responseDecoder.codec data = r at h ⊢
    obtain ⟨decoder, codec, rest, decoded⟩ := r
    cases decoded with
    | stream response =>
      simp only [Option.some.injEq, Prod.mk.injEq] at h
      obtain ⟨rfl, rfl⟩ := h
      refine ⟨?_, hstart.trans (quiet_onResponseDecoder _ _), rest, rfl⟩
      simp [onResponseDecoder, onMessage, hdecoder]
    | _ => cases h

theorem written_countResponse (metadata : Metadata) (s : Stream σ) :
    (s.countResponse metadata).downstream.written = s.downstream.written := by
  unfold countResponse
  dsimp only
  split_ifs <;> rfl

/-- What is forwarded stands behind what the encoder filters have written. -/
theorem onResponseDecoded_forwards {metadata : Metadata}
    (h : (s.encodeResponse cfg metadata).1 = .continue)
    (hopen : (s.encodeResponse cfg metadata).2.downstream.state = .open) :
    ∃ response u, s.onResponseDecoded cfg metadata = (none, u) ∧
      u.downstream.written = (s.encodeResponse cfg metadata).2.downstream.written ++
        [⟨some s.message.id, .upstreamResponse response, response.originMessage, false⟩] := by
  have hid := (quiet_encodeResponse cfg metadata s).id
  unfold onResponseDecoded
  generalize s.encodeResponse cfg metadata = r at h hopen hid ⊢
  obtain ⟨status, t⟩ := r
  obtain rfl : status = .continue := h
  replace hopen : t.downstream.state = .open := hopen
  dsimp only at hid ⊢
  rw [if_neg (by simp), if_neg (not_not.mpr hopen), ← hid]
  exact ⟨(t.message.responseDecoder.bind (·.metadata)).getD metadata, _, rfl,
    written_countResponse _ _⟩

theorem written_onUpstreamData {data : Bytes} (endStream : Bool)
    (hs : s.message.router.upstreamRequest.isSome) {metadata : Metadata} {t : Stream σ}
    (hcompleted : s.completedResponse cfg data = some (metadata, t))
    (h : (t.encodeResponse cfg metadata).1 = .continue)
    (hopen : (t.encodeResponse cfg metadata).2.downstream.state = .open) :
    ∃ response ws, (s.onUpstreamData cfg data endStream).downstream.written =
        (t.encodeResponse cfg metadata).2.downstream.written ++
          [⟨some s.message.id, .upstreamResponse response, response.originMessage, false⟩] ++ ws ∧
      ∀ w ∈ ws, ∃ error, w.reply = .localReply error := by
  obtain ⟨-, hquiet, rest, hdata⟩ := completedResponse_spec hcompleted
  obtain ⟨response, u, hdecoded, hwritten⟩ := onResponseDecoded_forwards h hopen
  rw [hdecoded] at hdata
  have hafter := (quiet_responseDecoded rest u).trans
    (hdata ▸ (upstreamData_quiet cfg data (s.startResponse cfg)).trans
      (onUpstreamData_quiet cfg data endStream hs))
  obtain ⟨ws, hws, hall⟩ := hafter.written
  refine ⟨response, ws, ?_, fun w hw => (hall w hw).2⟩
  rw [hws, hwritten, hquiet.id]

end Stream

/-! ## Runs -/

/-- No response stands behind a local reply to its request. -/
def Replaced (written : List Write) : Prop :=
  written.Pairwise fun w w' => ∀ i, w.isLocalReply i = true → w'.message = some i →
    ∀ metadata, w'.reply ≠ .upstreamResponse metadata

theorem replaced_append {l ws : List Write}
    (h : ∀ w ∈ ws, ∀ metadata, w.reply ≠ .upstreamResponse metadata) :
    Replaced (l ++ ws) ↔ Replaced l := by
  unfold Replaced
  rw [List.pairwise_append]
  refine ⟨fun hl => hl.1, fun hl => ⟨hl, ?_, fun _ _ w hw _ _ _ => h w hw⟩⟩
  exact List.pairwise_iff_forall_sublist.mpr fun hw _ _ _ => h _ (hw.subset (by simp))

theorem replaced_append_response {l : List Write} {i : ℕ} {response : Metadata} {bytes : Bytes}
    {endStream : Bool} :
    Replaced (l ++ [⟨some i, .upstreamResponse response, bytes, endStream⟩]) ↔
      Replaced l ∧ l.any (Write.isLocalReply i) = false := by
  unfold Replaced
  rw [List.pairwise_append]
  refine and_congr_right fun _ => ⟨fun hl => ?_, fun hl => ⟨List.pairwise_singleton _ _, ?_⟩⟩
  · refine List.any_eq_false.mpr fun w hw hlocal => ?_
    exact hl.2 w hw _ (List.mem_singleton_self _) i hlocal rfl response rfl
  · intro w hw w' hw' j hlocal hmessage
    rw [List.mem_singleton.mp hw'] at hmessage
    obtain rfl : i = j := Option.some.inj hmessage
    exact absurd hlocal (List.any_eq_false.mp hl w hw)

namespace ConnectionManager

/-- If the data completes a response, there is no local reply to its request when the encoder
filters are through with it, or the client is gone by then. -/
def Unreplied (cfg : Config σ) (cm : ConnectionManager σ) : Event → Prop
  | .upstreamData i data _ => ∀ metadata t,
    (cm.stream i).completedResponse cfg (cm.upstreamBuffer i ++ data) = some (metadata, t) →
      (t.encoding cfg metadata).2.replied = true → (t.encoding cfg metadata).2.isOpen = false
  | _ => True

theorem replied_new (cfg : Config σ) : (new cfg).Replied := by
  intro i w hw
  cases hw

theorem replied_step {cfg : Config σ} {cm : ConnectionManager σ} {e : Event} (hn : cm.Numbered)
    (hr : cm.Replied) (he : cm.Enabled cfg e) : (step cfg cm e).Replied := by
  cases e with
  | upstreamData i data endStream =>
    obtain ⟨-, hi, -, hw⟩ := he
    have hdata := Stream.onUpstreamData_written cfg (cm.upstreamBuffer i ++ data) endStream
      hw.isSome
    unfold step onStream
    split at hdata
    · obtain ⟨ws, ws', metadata, hws, -, hall⟩ := hdata.written
      simp only [List.append_assoc] at hws
      refine hr.setStream hn (hdata.replied (hr i)) hws fun w hw => ?_
      simp only [List.mem_append, List.mem_singleton] at hw hall
      rcases hw with hw | rfl | hw
      · exact (hall w (Or.inl hw)).1
      · rfl
      · exact (hall w (Or.inr hw)).1
    · exact (silent_setStream hi hdata).replied hn hr
  | _ => exact (silent_step he (by rintro _ _ _ ⟨⟩)).replied hn hr

/-- An event keeps the order of the answers exactly if it completes no response for a request
that has a local reply. -/
theorem replaced_step {cfg : Config σ} {cm : ConnectionManager σ} {e : Event} (hn : cm.Numbered)
    (hr : cm.Replied) (h : Replaced cm.downstream.written) (he : cm.Enabled cfg e) :
    Replaced (step cfg cm e).downstream.written ↔ cm.Unreplied cfg e := by
  have hsilent : ∀ {cm' : ConnectionManager σ}, Silent cm cm' →
      Replaced cm'.downstream.written := by
    intro cm' hcm
    obtain ⟨ws, hws, hall⟩ := hcm.written
    rw [hws]
    exact (replaced_append hall).mpr h
  cases e with
  | upstreamData i data endStream =>
    obtain ⟨-, hi, -, hw⟩ := he
    have hid : (cm.stream i).message.id = i := hn.id i
    have hdata := Stream.onUpstreamData_written cfg (cm.upstreamBuffer i ++ data) endStream
      hw.isSome
    unfold Unreplied
    cases hcompleted : (cm.stream i).completedResponse cfg (cm.upstreamBuffer i ++ data) with
    | none =>
      have hnone : (cm.stream i).forwarding cfg (cm.upstreamBuffer i ++ data) = none := by
        unfold Stream.forwarding
        rw [hcompleted]
      rw [hnone] at hdata
      refine iff_of_true (hsilent (silent_setStream hi hdata)) fun metadata t heq => ?_
      cases hcompleted.symm.trans heq
    | some completed =>
      obtain ⟨metadata, t⟩ := completed
      obtain ⟨hsome, hquiet, -⟩ := Stream.completedResponse_spec hcompleted
      obtain ⟨hstatus, hopen, hsent, hreplied⟩ :=
        @Stream.encodeResponse_spec _ cfg _ metadata hsome
      have hencode := hquiet.trans (Stream.quiet_encodeResponse cfg metadata t)
      rw [hquiet.id, hid] at hreplied
      by_cases hforward : (t.encodeResponse cfg metadata).1 = .continue ∧
          (t.encodeResponse cfg metadata).2.downstream.state = .open
      · obtain ⟨response, ws, hws, hall⟩ := Stream.written_onUpstreamData endStream hw.isSome
          hcompleted hforward.1 hforward.2
        obtain ⟨ws', hws', hall'⟩ := hencode.written
        have hbefore : Replaced (t.encodeResponse cfg metadata).2.downstream.written := by
          rw [hws']
          refine (replaced_append fun w hw response hreply => ?_).mpr h
          obtain ⟨-, error, herror⟩ := hall' w hw
          rw [herror] at hreply
          cases hreply
        have hlocal : ∀ w ∈ ws, ∀ response, w.reply ≠ .upstreamResponse response := by
          intro w hw response hreply
          obtain ⟨error, herror⟩ := hall w hw
          rw [herror] at hreply
          cases hreply
        change Replaced ((cm.stream i).onUpstreamData cfg _ endStream).downstream.written ↔ _
        rw [hws, replaced_append hlocal, hid, replaced_append_response, ← hreplied]
        rw [show decide _ = true from decide_eq_true hforward.2] at hopen
        refine ⟨fun hnone metadata' t' heq hreplied' => ?_, fun hall => ⟨hbefore, ?_⟩⟩
        · cases hcompleted.symm.trans heq
          rw [hnone.2] at hreplied'
          cases hreplied'
        · by_contra hne
          have hgone := hall metadata t hcompleted (by simpa using hne)
          rw [hopen] at hgone
          cases hgone
      · have hnone : (cm.stream i).forwarding cfg (cm.upstreamBuffer i ++ data) = none := by
          unfold Stream.forwarding
          rw [hcompleted]
          exact if_neg hforward
        rw [hnone] at hdata
        refine iff_of_true (hsilent (silent_setStream hi hdata))
          fun metadata' t' heq hreplied' => ?_
        cases hcompleted.symm.trans heq
        have hknown : (t.encoding cfg metadata).2.sent = true := by
          rw [hsent]
          obtain ⟨w, hw, hlocal⟩ := List.any_eq_true.mp (hreplied.symm.trans hreplied')
          refine hencode.replied (hr i) w hw ?_
          rw [hencode.id, hid]
          exact hlocal
        rw [hopen]
        refine decide_eq_false fun ho => hforward ⟨?_, ho⟩
        rw [hstatus]
        exact Stream.encoding_of_sent metadata hknown
  | _ => exact iff_of_true (hsilent (silent_step he (by rintro _ _ _ ⟨⟩))) trivial

/-- For every filter chain and every run, no response stands behind a local reply to its request
exactly if none is completed for a request that has one. -/
theorem replaced_iff (cfg : Config σ) {es : List Event}
    (h : (system cfg).Admissible (new cfg) es) :
    (system cfg).Throughout (fun cm => Replaced cm.downstream.written) (new cfg) es ↔
      (system cfg).Always (fun cm => cm.Unreplied cfg) (new cfg) es :=
  Transition.throughout_iff_always (J := fun cm => cm.Numbered ∧ cm.Replied)
    (fun _ _ hcm he => ⟨numbered_step hcm.1 he, replied_step hcm.1 hcm.2 he⟩)
    (fun _ _ hcm hr he => replaced_step hcm.1 hcm.2 hr he) ⟨numbered_new cfg, replied_new cfg⟩
    List.Pairwise.nil h

/-- A proxy whose first encoder filter answers every response with an error of its own. -/
def denying : Config Dubbo.DubboCodec.State :=
  { DubboExample.config (some (.ready "host" [])) with
    encoderFilters := [.custom fun _ _ _ =>
      ⟨[.sendLocalReply ⟨.unspecified, "denied"⟩ false], .stopIteration⟩, .router] }

/-- A request and its response. -/
def deniedResponse : List Event :=
  [.downstreamData (DubboExample.request 1) false, .upstreamData 0 (DubboExample.response 1) false]

theorem replaced_deniedResponse :
    (system denying).Throughout (fun cm => Replaced cm.downstream.written) (new denying)
        deniedResponse ↔
      (system denying).Always (fun cm => cm.Unreplied denying) (new denying) deniedResponse :=
  replaced_iff denying (by decide +kernel)

/-- The response is written behind the local reply of the filter. -/
theorem not_replaced_deniedResponse :
    (system denying).Admissible (new denying) deniedResponse ∧
      ¬(system denying).Throughout (fun cm => Replaced cm.downstream.written) (new denying)
        deniedResponse := by
  refine ⟨by decide +kernel, fun h => ?_⟩
  have hlast : Replaced ((system denying).run (new denying) deniedResponse).downstream.written :=
    h.last
  have hfirst : ((system denying).run (new denying)
      deniedResponse).downstream.written[0]?.any (Write.isLocalReply 0) = true := by
    decide +kernel
  have hsecond : ((system denying).run (new denying) deniedResponse).downstream.written[1]?.any
      (fun w => w.message = some 0 ∧ w.reply =
        .upstreamResponse (((((system denying).run (new denying)
          deniedResponse).messages 0).responseDecoder.bind (·.metadata)).getD {})) = true := by
    decide +kernel
  obtain ⟨w, hw, hlocal⟩ := (Option.any_eq_true _ _).mp hfirst
  obtain ⟨w', hw', hresponse⟩ := (Option.any_eq_true _ _).mp hsecond
  obtain ⟨hmessage, hreply⟩ := of_decide_eq_true hresponse
  obtain ⟨h₀, rfl⟩ := List.getElem?_eq_some_iff.mp hw
  obtain ⟨h₁, rfl⟩ := List.getElem?_eq_some_iff.mp hw'
  exact List.pairwise_iff_getElem.mp hlast 0 1 h₀ h₁ Nat.one_pos 0 hlocal hmessage _ hreply

end ConnectionManager

end MetaProtocolProxy

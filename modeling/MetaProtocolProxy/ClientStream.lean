import MetaProtocolProxy.Provenance
import MetaProtocolProxy.Relay

/-!
# What the client reads

A client gets the answers of the proxy as one stream of bytes. With the codec of the proxy it reads
every answer as what it is, a heartbeat reply, an error with the id of the request or the response
of the upstream, however the stream is cut, up to the first local reply whose status the codec does
not know. There it fails, and reads nothing of what comes behind (`client_run`).
-/

namespace MetaProtocolProxy

variable {hessian : Dubbo.Hessian2}

namespace Dubbo.DubboCodec

/-- What a codec reads from some bytes, to the last one, is a message with these bytes. -/
theorem reads_of_decode (hl : hessian.Local) {bytes : Bytes} {metadata : Metadata}
    (h : decode hessian none bytes = ⟨none, [], .done metadata⟩) :
    metadata.originMessage = bytes ∧
      Resumable.Reads (codec hessian).round (·.originMessage) none metadata := by
  have hround : (codec hessian).round none bytes = .emit metadata none [] := by
    show (decode hessian none bytes).round = _
    rw [h]
    rfl
  have hstands := (restarts_round hessian).stands bytes
  obtain ⟨-, -, hall, hreads⟩ :=
    hstands.emit (splittable_round hl) (restarts_round hessian) ⟨.idle, hungry_none⟩ hround
  exact ⟨by rwa [List.append_nil] at hall, hreads⟩

/-- A heartbeat reply is read as a heartbeat with the id that was asked for. -/
theorem decode_heartbeatReply (hessian : Hessian2) (requestId : UInt64) :
    ∃ reply, decode hessian none (heartbeatReply requestId.toNat) = ⟨none, [], .done reply⟩ ∧
      reply.messageType = .heartbeat ∧ reply.requestId = requestId := by
  have hlength := length_heartbeatReply requestId.toNat
  have hwhole : messageSize + 0 ≤ (heartbeatReply requestId.toNat).length :=
    Nat.le_of_eq hlength.symm
  have hrest : (heartbeatReply requestId.toNat).drop (messageSize + 0) = [] :=
    List.drop_eq_nil_of_le (Nat.le_of_eq hlength)
  rw [decode_none, @decode_heartbeat hessian {} _ _ _ rfl
    (decodeHeader_heartbeatReply requestId.toNat_lt) rfl hwhole, hrest]
  refine ⟨_, rfl, messageType_toMetadataWithContext _ _, ?_⟩
  rw [requestId_toMetadataWithContext]
  simp

end Dubbo.DubboCodec

/-- Whether the status of an answer is one that the Dubbo codec knows. -/
def Write.isLegible (w : Write) : Bool :=
  match w.reply with
  | .localReply error => error.type = .routeNotFound ∨ error.type = .badResponse
  | _ => true

namespace ConnectionManager

open Dubbo.DubboCodec (State Sound errorBody errorStatus heartbeatReply hungry_none splittable_round
  isValidResponseStatus_errorStatus)

/-- What an answer is read as. -/
inductive Answer (cm : ConnectionManager State) : Write → Metadata → Prop
  | heartbeat {metadata reply : Metadata} {bytes : Bytes}
      (hdelivered : Delivery.heartbeat metadata ∈ cm.delivered)
      (htype : reply.messageType = .heartbeat) (hid : reply.requestId = metadata.requestId) :
      Answer cm ⟨none, .heartbeat, bytes, false⟩ reply
  | localReply {i : ℕ} {request reply : Metadata} {error : Error} {bytes : Bytes}
      {endStream : Bool} (hrequest : cm.requests[i]? = some request)
      (htype : reply.messageType = .error) (hstatus : reply.responseStatus = .error)
      (hid : reply.requestId = request.requestId) :
      Answer cm ⟨some i, .localReply error, bytes, endStream⟩ reply
  | upstreamResponse {i : ℕ} {request : Metadata} (response : Metadata)
      (hrequest : cm.requests[i]? = some request) :
      Answer cm ⟨some i, .upstreamResponse response, response.originMessage, false⟩ response

/-- An answer that is a frame, not too long a one if it is a local reply, or a response that is read
again from its own bytes. -/
structure Clear (hessian : Dubbo.Hessian2) (cm : ConnectionManager State) (w : Write) : Prop where
  framed : Framed hessian cm w
  short : w.reply.isLocal = true →
    (w.bytes.length : ℤ) ≤ Dubbo.messageSize + Dubbo.maxBodySize.toInt
  reread : ∀ response, w.reply = .upstreamResponse response → Reread hessian response

section Clear

variable {cm : ConnectionManager State} {w : Write}

/-- The body of an error reply is not too long if the reply is not. -/
theorem short_errorBody {flag status : UInt8} {requestId : ℕ} {error : Error}
    (h : ((Dubbo.frame flag status requestId (errorBody hessian error)).length : ℤ) ≤
      Dubbo.messageSize + Dubbo.maxBodySize.toInt) :
    (errorBody hessian error).length ≤ 16 * 1024 * 1024 := by
  have hmax : Dubbo.maxBodySize.toInt = 16 * 1024 * 1024 := rfl
  rw [Dubbo.length_frame] at h
  omega

/-- An answer with a status that is known is read as what it is. -/
theorem Clear.answer (hl : hessian.Local) (hr : hessian.RoundTrip) (h : Clear hessian cm w)
    (hw : w.isLegible = true) :
    ∃ reply, Answer cm w reply ∧ Reread hessian reply ∧ reply.originMessage = w.bytes := by
  obtain ⟨hframed, hshort, hreread⟩ := h
  cases hframed with
  | heartbeat hdelivered =>
    obtain ⟨reply, hdecode, htype, hid⟩ := Dubbo.DubboCodec.decode_heartbeatReply hessian _
    obtain ⟨horigin, hreads⟩ := Dubbo.DubboCodec.reads_of_decode hl hdecode
    exact ⟨reply, .heartbeat hdelivered htype hid, hreads, horigin⟩
  | localReply hrequest herror =>
    have hvalid := (isValidResponseStatus_errorStatus _).mpr (of_decide_eq_true hw)
    obtain ⟨reply, hdecode, htype, hstatus, hid⟩ :=
      Dubbo.DubboCodec.decode_errorFrame_done (short_errorBody (hshort rfl)) _ hr hvalid
    obtain ⟨horigin, hreads⟩ := Dubbo.DubboCodec.reads_of_decode hl hdecode
    exact ⟨reply, .localReply hrequest htype hstatus hid, hreads, horigin⟩
  | upstreamResponse response hrequest =>
    exact ⟨response, .upstreamResponse response hrequest, hreread response rfl, rfl⟩

/-- A local reply with a status that is not known is not read. -/
theorem Clear.fail (h : Clear hessian cm w) (hw : w.isLegible = false) :
    ∃ s b, (Dubbo.DubboCodec.codec hessian).round none w.bytes = .fail s b := by
  obtain ⟨hframed, hshort, -⟩ := h
  cases hframed with
  | heartbeat hdelivered => cases hw
  | upstreamResponse response hrequest => cases hw
  | @localReply i request error endStream hrequest herror =>
    have hvalid : Dubbo.isValidResponseStatus (errorStatus error.type) = false := by
      by_contra hvalid
      rw [Bool.not_eq_false, isValidResponseStatus_errorStatus] at hvalid
      exact of_decide_eq_false hw hvalid
    obtain ⟨fault, hfault⟩ := Dubbo.DubboCodec.decode_errorFrame_throw
      (short_errorBody (hshort rfl)) request.requestId hvalid
    exact ⟨_, _, round_of_status hfault⟩

theorem Clear.ne_nil (h : Clear hessian cm w) (hw : w.isLegible = false) : w.bytes ≠ [] := by
  obtain ⟨hframed, -⟩ := h
  cases hframed with
  | heartbeat hdelivered => cases hw
  | upstreamResponse response hrequest => cases hw
  | localReply hrequest herror => exact List.cons_ne_nil _ _

/-- The answers are read up to the first one with a status that is not known. -/
theorem drains_written (hl : hessian.Local) (hr : hessian.RoundTrip) :
    ∀ {ws : List Write}, (∀ w ∈ ws, Clear hessian cm w) →
      ∃ replies failed, Resumable.Drains (Dubbo.DubboCodec.codec hessian).round none
          (ws.flatMap (·.bytes)) replies failed ∧
        List.Forall₂ (Answer cm) (ws.takeWhile Write.isLegible) replies ∧
        (failed.isSome = true ↔ ∃ w ∈ ws, w.isLegible = false)
  | [], _ => ⟨[], none, .nil, .nil, by simp⟩
  | w :: ws, h => by
    have hw := h w List.mem_cons_self
    rw [List.flatMap_cons]
    cases hlegible : w.isLegible with
    | true =>
      obtain ⟨replies, failed, hdrains, hanswers, hfailed⟩ :=
        drains_written hl hr fun w' hw' => h w' (List.mem_cons_of_mem w hw')
      obtain ⟨reply, hanswer, hreads, horigin⟩ := hw.answer hl hr hlegible
      have hone : ∀ o ∈ [reply], Reread hessian o := by simpa using hreads
      have hfirst := Resumable.drains_items (splittable_round hl) ⟨.idle, hungry_none⟩ hdrains hone
      rw [List.flatMap_singleton, horigin] at hfirst
      refine ⟨reply :: replies, failed, hfirst, ?_, ?_⟩
      · rw [List.takeWhile_cons_of_pos hlegible]
        exact .cons hanswer hanswers
      · simp [hfailed, hlegible]
    | false =>
      obtain ⟨s, b, hround⟩ := hw.fail hlegible
      have hstop := ((splittable_round hl).fail ⟨.idle, hungry_none⟩ hround
        (ws.flatMap (·.bytes))).1
      refine ⟨[], _, .fail (by simp [hw.ne_nil hlegible]) hstop, ?_, ?_⟩
      · rw [List.takeWhile_cons_of_neg (by simp [hlegible])]
        exact .nil
      · simp [hlegible]

end Clear

/-- With the Dubbo codec and the router as the only filter, over every order of the events : a
client that reads what is written to it, however it is cut, reads the answers one by one up to the
first local reply that is neither for a route that is not found nor for a bad response, and fails
exactly if there is one. -/
theorem client_run (hl : hessian.Local) (hr : hessian.RoundTrip) {cfg : Config State}
    (hcodec : cfg.codec = Dubbo.DubboCodec.codec hessian) (hc : cfg.RouterOnly) {es : List Event}
    (hes : (system cfg).Admissible (new cfg) es)
    (hshort : ∀ w ∈ ((system cfg).run (new cfg) es).downstream.written, w.reply.isLocal = true →
      (w.bytes.length : ℤ) ≤ Dubbo.messageSize + Dubbo.maxBodySize.toInt)
    {again : Prop} {client : Resumable.Progress UInt8 State Metadata}
    (h : Resumable.Fed (Dubbo.DubboCodec.codec hessian).round again none
      (((system cfg).run (new cfg) es).downstream.written.flatMap (·.bytes)) client) :
    List.Forall₂ (Answer ((system cfg).run (new cfg) es))
        (((system cfg).run (new cfg) es).downstream.written.takeWhile Write.isLegible)
        client.emitted ∧
      (client.failed = true ↔ ∃ w ∈ ((system cfg).run (new cfg) es).downstream.written,
        w.isLegible = false) := by
  have hk : cfg.codec.Keeps Dubbo.DubboCodec.Sound Dubbo.DubboCodec.Replyable :=
    hcodec ▸ Dubbo.DubboCodec.keeps_codec hessian
  have hframed := (grounded_run hk hes).framed hcodec
  have hrelayed := relayed_all (hcodec ▸ hearing_dubbo hl) hc hes
  generalize (system cfg).run (new cfg) es = cm at hshort h hframed hrelayed ⊢
  have hclear : ∀ w ∈ cm.downstream.written, Clear hessian cm w := by
    intro w hw
    refine ⟨hframed w hw, hshort w hw, fun response hreply => ?_⟩
    have hmessage : ∃ i, w.message = some i := by
      cases hframed w hw with
      | heartbeat hdelivered => cases hreply
      | localReply hrequest herror => cases hreply
      | upstreamResponse response' hrequest => exact ⟨_, rfl⟩
    obtain ⟨i, hi⟩ := hmessage
    obtain ⟨request, -, -, hrelays⟩ := hrelayed.answers w hw i response hi hreply
    exact hrelays.reread
  obtain ⟨replies, failed, hdrains, hanswers, hfailed⟩ := drains_written hl hr hclear
  obtain ⟨hemitted, hstopped⟩ := h.outcome (splittable_round hl) ⟨.idle, hungry_none⟩ hdrains
  rw [hemitted, hstopped]
  exact ⟨hanswers, hfailed⟩

/-- A proxy with a connection for the first message only, and no route for the second one. -/
def sparse : Config State :=
  dubboConfig .compact (fun i _ => if i = 1 then none else some ⟨"cluster"⟩)
    fun i _ => some ⟨false, if i = 0 then some (.ready "host" []) else none⟩

/-- The client reads a heartbeat reply, a response and the error for the second request, but not
the one for the third. -/
def sparseRequests : List Event :=
  [.downstreamData (Dubbo.frame 0xe2 20 7 [] ++ DubboExample.request 1) false,
    .upstreamData 0 (DubboExample.response 1) false,
    .downstreamData (DubboExample.request 2 ++ DubboExample.request 3) false]

theorem client_run_sparse : ∃ client : Resumable.Progress UInt8 State Metadata,
    Resumable.Fed (Dubbo.DubboCodec.codec .compact).round False none
        (((system sparse).run (new sparse) sparseRequests).downstream.written.flatMap (·.bytes))
        client ∧
      List.Forall₂ (Answer ((system sparse).run (new sparse) sparseRequests))
        (((system sparse).run (new sparse) sparseRequests).downstream.written.takeWhile
          Write.isLegible) client.emitted ∧
      (client.failed = true ↔
        ∃ w ∈ ((system sparse).run (new sparse) sparseRequests).downstream.written,
          w.isLegible = false) := by
  have hstart : Resumable.Fed (Dubbo.DubboCodec.codec .compact).round False none [] _ := .start
  have hfed := hstart.feed (by rintro ⟨⟩)
    (((system sparse).run (new sparse) sparseRequests).downstream.written.flatMap (·.bytes))
  rw [List.nil_append] at hfed
  exact ⟨_, hfed, client_run Dubbo.Hessian2.compact_local Dubbo.Hessian2.compact_roundTrip rfl
    ⟨rfl, rfl⟩ (by decide +kernel) (by decide +kernel) hfed⟩

end ConnectionManager

end MetaProtocolProxy

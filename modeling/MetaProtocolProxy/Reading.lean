import MetaProtocolProxy.Quiet
import MetaProtocolProxy.ResponseLife

/-!
# Reading requests

A connection in order (`Alive`) reads requests without a change to the messages it has, and
every message it makes is born with a row of its table (`Reads`). This holds of everything
a connection does by itself : one call of its decoder, the loop of `dispatch`, `onData`
and `continueDecoding`.
-/

namespace MetaProtocolProxy

variable {σ : Type} {cfg : Config σ} {I : σ → Prop} {R : Metadata → Prop}

namespace ConnectionManager

/-! ## A connection in order -/

/-- The requests a connection has decoded, in the order of their messages. -/
def requests (cm : ConnectionManager σ) : List Metadata :=
  cm.delivered.filterMap fun
    | .stream metadata => some metadata
    | .heartbeat _ => none

/-- What does not concern the state of a single message, nor the decoder. -/
structure Sane (I : σ → Prop) (cm : ConnectionManager σ) : Prop where
  numbered : cm.Numbered
  codec : I cm.downstream.codec
  nodup : cm.downstream.activeMessageList.Nodup
  active : ∀ i ∈ cm.downstream.activeMessageList, i < cm.created
  requests : cm.requests.length = cm.created
  stopped : cm.stopped = false

/-- A message of a connection in order : it is the request it was decoded from, and its flags
agree with its phase. -/
structure Living (I : σ → Prop) (R : Metadata → Prop) (i : ℕ) (request : Metadata)
    (cm : ConnectionManager σ) : Prop where
  decoded : cm.requests[i]? = some request
  kind : (cm.messages i).kind = some (request.messageType, request.requestId)
  coherent : (cm.messages i).Coherent I R request.originMessage

/-- A connection in order. -/
structure Alive (I : σ → Prop) (R : Metadata → Prop) (cm : ConnectionManager σ) : Prop where
  sane : cm.Sane I
  ready : cm.decoder.Ready
  living : ∀ i < cm.created, ∃ request, cm.Living I R i request

/-- A message has been born, with `n` answers. -/
structure Born (cfg : Config σ) (I : σ → Prop) (R : Metadata → Prop) (i : ℕ)
    (request : Metadata) (n : ℕ) (released : Bool) (phase : Phase) (cm : ConnectionManager σ) :
    Prop where
  living : cm.Living I R i request
  answers : (cm.downstream.answers i).length = n
  writes : (cm.messages i).writes = [] ↔ phase ≠ .waiting
  row : ∃ d : Downstream σ, (cm.downstream.state = .open → d.state = .open) ∧
    Stream.BirthRow cfg (cfg.codec.Replies I R) i request d n released phase
  released : released = true → i ∉ cm.downstream.activeMessageList
  phase : (cm.messages i).phase = phase

/-! ## Reading requests -/

/-- From `cm` to `cm'` nothing happens to the messages that exist, with one exception perhaps, and
new ones are born, with answers only if the client is there. -/
structure Reads (cfg : Config σ) (I : σ → Prop) (R : Metadata → Prop) (but : Option ℕ)
    (cm cm' : ConnectionManager σ) : Prop where
  sane : cm'.Sane I
  created : cm.created ≤ cm'.created
  state : cm'.downstream.state = .open → cm.downstream.state = .open
  requests : ∀ i < cm.created, cm'.requests[i]? = cm.requests[i]?
  messages : ∀ i < cm.created, but ≠ some i → cm'.messages i = cm.messages i
  answers : ∀ i < cm.created, but ≠ some i → cm'.downstream.answers i = cm.downstream.answers i
  active : ∀ i < cm.created, i ∈ cm'.downstream.activeMessageList →
    i ∈ cm.downstream.activeMessageList
  born : ∀ i < cm'.created, cm.created ≤ i →
    ∃ request n released phase, Born cfg I R i request n released phase cm' ∧
      (cm.downstream.state ≠ .open → n = 0)
  fault : cfg.codec.Replies I R → cm'.downstream.fault = cm.downstream.fault

section Reads

variable {but : Option ℕ} {cm cm' cm'' : ConnectionManager σ}

theorem Reads.refl (cfg : Config σ) (R : Metadata → Prop) (but : Option ℕ) (h : cm.Sane I) :
    Reads cfg I R but cm cm where
  sane := h
  created := Nat.le_refl _
  state := id
  requests _ _ := rfl
  messages _ _ _ := rfl
  answers _ _ _ := rfl
  active _ _ := id
  born _ hi hle := absurd hi (Nat.not_lt.mpr hle)
  fault _ := rfl

theorem Reads.weaken (h : Reads cfg I R none cm cm') (but : Option ℕ) :
    Reads cfg I R but cm cm' where
  sane := h.sane
  created := h.created
  state := h.state
  requests := h.requests
  messages i hi _ := h.messages i hi (by rintro ⟨⟩)
  answers i hi _ := h.answers i hi (by rintro ⟨⟩)
  active := h.active
  born := h.born
  fault := h.fault

theorem Reads.living (h : Reads cfg I R but cm cm') {i : ℕ} (hi : i < cm.created)
    (hne : but ≠ some i) {request : Metadata} (hl : cm.Living I R i request) :
    cm'.Living I R i request := by
  obtain ⟨hdecoded, hkind, hcoherent⟩ := hl
  refine ⟨(h.requests i hi).trans hdecoded, ?_, ?_⟩
  · rw [h.messages i hi hne]
    exact hkind
  · rw [h.messages i hi hne]
    exact hcoherent

theorem Reads.trans (h : Reads cfg I R but cm cm') (h' : Reads cfg I R but cm' cm'')
    (hbut : ∀ i, but = some i → i < cm.created) : Reads cfg I R but cm cm'' := by
  have hlt : ∀ {i}, i < cm.created → i < cm'.created := fun hi => Nat.lt_of_lt_of_le hi h.created
  refine ⟨h'.sane, Nat.le_trans h.created h'.created, fun ho => h.state (h'.state ho),
    fun i hi => (h'.requests i (hlt hi)).trans (h.requests i hi),
    fun i hi hne => (h'.messages i (hlt hi) hne).trans (h.messages i hi hne),
    fun i hi hne => (h'.answers i (hlt hi) hne).trans (h.answers i hi hne),
    fun i hi ha => h.active i hi (h'.active i (hlt hi) ha), fun i hi hle => ?_,
    fun hp => (h'.fault hp).trans (h.fault hp)⟩
  by_cases hi' : i < cm'.created
  · obtain ⟨request, n, released, phase, hborn, hgone⟩ := h.born i hi' hle
    obtain ⟨d, hd, hrow⟩ := hborn.row
    have hne : but ≠ some i := fun heq => absurd (hbut i heq) (Nat.not_lt.mpr hle)
    refine ⟨request, n, released, phase, ⟨h'.living hi' hne hborn.living, ?_, ?_,
      ⟨d, fun ho => hd (h'.state ho), hrow⟩,
      fun hr ha => hborn.released hr (h'.active i hi' ha), ?_⟩, hgone⟩
    · rw [h'.answers i hi' hne]
      exact hborn.answers
    · rw [h'.messages i hi' hne]
      exact hborn.writes
    · rw [h'.messages i hi' hne]
      exact hborn.phase
  · obtain ⟨request, n, released, phase, hborn, hgone⟩ := h'.born i hi (Nat.not_lt.mp hi')
    exact ⟨request, n, released, phase, hborn, fun hne => hgone fun ho => hne (h.state ho)⟩

/-- Reading and reading on. -/
theorem Reads.next (h : Reads cfg I R none cm cm') (h' : Reads cfg I R none cm' cm'') :
    Reads cfg I R none cm cm'' :=
  h.trans h' (by rintro _ ⟨⟩)

end Reads

/-- A message that is born is the next one. -/
theorem reads_newStream (hk : cfg.codec.Keeps I R) (hc : cfg.RouterOnly)
    {cm : ConnectionManager σ} (hs : cm.Sane I) {request : Metadata} (hR : R request) :
    Reads cfg I R none cm (cm.newStream cfg request) := by
  obtain ⟨d, hd⟩ : ∃ d : Downstream σ, d = { (cm.downstream.inc .requestActive) with
    activeMessageList := cm.created :: cm.downstream.activeMessageList } := ⟨_, rfl⟩
  have hfresh : cm.created ∉ cm.downstream.activeMessageList := fun h =>
    Nat.lt_irrefl _ (hs.active _ h)
  have hnodup : d.activeMessageList.Nodup := by
    rw [hd]
    exact List.nodup_cons.mpr ⟨hfresh, hs.nodup⟩
  have hI : I d.codec := by
    rw [hd]
    exact hs.codec
  obtain ⟨n, released, phase, hrow, hturns⟩ :=
    Stream.turns_onStreamDecoded hk hc hI hR hnodup cm.created
  rw [newStream_eq, ← hd]
  generalize (⟨{ id := cm.created }, d⟩ : Stream σ).onStreamDecoded cfg request = s at hturns ⊢
  have hdoes : d.Does (cfg.codec.Replies I R) cm.created n released s.downstream := hturns.does
  have hwritten : d.written = cm.downstream.written := by rw [hd]; rfl
  have hanswers : ∀ i, d.answers i = cm.downstream.answers i := by
    intro i
    unfold Downstream.answers
    rw [hwritten]
  have hlast : cm.downstream.answers cm.created = [] := by
    refine List.filter_eq_nil_iff.mpr fun w hw => ?_
    simpa using fun h => Nat.lt_irrefl _ (hs.numbered.written w hw _ h)
  have hrequests : ∀ cm' : ConnectionManager σ,
      cm'.delivered = cm.delivered ++ [Delivery.stream request] →
      cm'.requests = cm.requests ++ [request] := by
    intro cm' h
    unfold requests
    rw [h, List.filterMap_append]
    rfl
  refine ⟨⟨⟨fun i => ?_, fun w hw i hi => ?_⟩, ?_, hdoes.nodup hnodup, fun i hi => ?_, ?_,
    hs.stopped⟩,
    Nat.le_succ _, fun ho => ?_, fun i hi => ?_, fun i hi _ => ?_, fun i hi _ => ?_, fun i hi ha =>
      ?_,
    fun i hi hle => ?_, fun hp => ?_⟩
  · by_cases hi : i = cm.created
    · subst hi
      simpa using hturns.id
    · simpa [Function.update_of_ne hi] using hs.numbered.id i
  · obtain ⟨ws, hws, -, hall⟩ := hdoes.written
    rw [hws, hwritten] at hw
    rcases List.mem_append.mp hw with hw | hw
    · exact Nat.lt_succ_of_lt (hs.numbered.written w hw i hi)
    · rw [hall w hw] at hi
      exact (Option.some.inj hi) ▸ Nat.lt_succ_self _
  · change I s.downstream.codec
    rw [hdoes.codec]
    exact hI
  · have hmem := hdoes.mem_active hi
    rw [hd] at hmem
    rcases List.mem_cons.mp hmem with rfl | hmem
    · exact Nat.lt_succ_self _
    · exact Nat.lt_succ_of_lt (hs.active i hmem)
  · rw [hrequests _ rfl, List.length_append, hs.requests]
    rfl
  · have hopen : d.state = .open := hdoes.state ▸ ho
    rw [hd] at hopen
    exact hopen
  · rw [hrequests _ rfl, List.getElem?_append_left (hs.requests ▸ hi)]
  · exact Function.update_of_ne (Nat.ne_of_lt hi) _ _
  · exact (hdoes.answers_other (Nat.ne_of_lt hi)).trans (hanswers i)
  · have hmem := hdoes.mem_active ha
    rw [hd] at hmem
    rcases List.mem_cons.mp hmem with rfl | hmem
    · exact absurd hi (Nat.lt_irrefl _)
    · exact hmem
  · obtain rfl : i = cm.created := Nat.le_antisymm (Nat.le_of_lt_succ hi) hle
    refine ⟨request, n, released, phase, ⟨⟨?_, ?_, ?_⟩, ?_, ?_,
      ⟨d, fun ho => hdoes.state ▸ ho, hrow⟩, fun hr => ?_, ?_⟩, fun hne => hrow.gone ?_⟩
    · rw [hrequests _ rfl, ← hs.requests, List.getElem?_concat_length]
    · change (Function.update cm.messages cm.created s.message cm.created).kind = _
      rw [Function.update_self]
      exact hturns.kind
    · simpa using hturns.coherent
    · rw [show _ = _ from hdoes.answers, hanswers, hlast]
      exact Nat.zero_add n
    · have hwrites := hturns.writes
      simpa [ActiveMessage.writes, ActiveMessage.connections] using hwrites
    · subst hr
      exact hdoes.not_mem_active hnodup
    · simpa using hturns.phase
    · rw [hd]
      exact hne
  · rw [show _ = _ from hdoes.fault hp, hd]
    rfl

/-- What the connection does on its own : nothing is read, no message changes or is answered, and
messages may be released. -/
structure Idles (I : σ → Prop) (p : Prop) (cm cm' : ConnectionManager σ) : Prop where
  created : cm'.created = cm.created
  requests : cm'.requests = cm.requests
  messages : cm'.messages = cm.messages
  stopped : cm'.stopped = cm.stopped
  codec : I cm.downstream.codec → I cm'.downstream.codec
  state : cm'.downstream.state = .open → cm.downstream.state = .open
  written : ∃ ws, cm'.downstream.written = cm.downstream.written ++ ws ∧
    ∀ w ∈ ws, w.message = none
  active : cm'.downstream.activeMessageList.Sublist cm.downstream.activeMessageList
  fault : p → cm'.downstream.fault = cm.downstream.fault

theorem Idles.reads {cm cm' : ConnectionManager σ} (h : Idles I (cfg.codec.Replies I R) cm cm')
    (hs : cm.Sane I) : Reads cfg I R none cm cm' := by
  obtain ⟨ws, hws, hall⟩ := h.written
  refine ⟨⟨⟨?_, fun w hw i hi => ?_⟩, ?_, h.active.nodup hs.nodup, fun i hi => ?_, ?_, ?_⟩,
    Nat.le_of_eq h.created.symm, h.state, fun i _ => by rw [h.requests],
    fun i _ _ => by rw [h.messages], fun i _ _ => ?_, fun i _ ha => h.active.mem ha,
    fun i hi hle => absurd (h.created ▸ hi) (Nat.not_lt.mpr hle), h.fault⟩
  · rw [h.messages]
    exact hs.numbered.id
  · rw [hws] at hw
    rw [h.created]
    rcases List.mem_append.mp hw with hw | hw
    · exact hs.numbered.written w hw i hi
    · rw [hall w hw] at hi
      cases hi
  · exact h.codec hs.codec
  · rw [h.created]
    exact hs.active i (h.active.mem hi)
  · rw [h.requests, h.created]
    exact hs.requests
  · rw [h.stopped]
    exact hs.stopped
  · have hfilter : ws.filter (fun w => w.message = some i) = [] :=
      List.filter_eq_nil_iff.mpr fun w hw => by simp [hall w hw]
    unfold Downstream.answers
    rw [hws, List.filter_append, hfilter, List.append_nil]

end ConnectionManager

namespace Downstream

/-- Releasing messages. -/
theorem sublist_deferredMessage (i : ℕ) (d : Downstream σ) :
    (d.deferredMessage i).activeMessageList.Sublist d.activeMessageList := by
  unfold deferredMessage
  split
  · exact List.erase_sublist
  · exact List.Sublist.refl _

theorem fault_deferredMessage (i : ℕ) (d : Downstream σ) :
    (d.deferredMessage i).fault = d.fault := by
  unfold deferredMessage
  split <;> rfl

theorem sublist_resetAllMessages (localReset : Bool) (d : Downstream σ) :
    (d.resetAllMessages localReset).activeMessageList.Sublist d.activeMessageList :=
  resetAllMessages_of (P := fun e => e.activeMessageList.Sublist d.activeMessageList)
    (fun _ _ h => h) (fun _ i h => (sublist_deferredMessage i _).trans h) localReset
    (List.Sublist.refl _)

theorem fault_resetAllMessages (localReset : Bool) (d : Downstream σ) :
    (d.resetAllMessages localReset).fault = d.fault :=
  resetAllMessages_keeps fault (fun _ _ => rfl) fault_deferredMessage localReset d

/-- What closing the connection leaves of it. -/
theorem close_spec (type : ConnectionCloseType) (d : Downstream σ) :
    (d.close type).state ≠ .open ∧ (d.close type).fault = d.fault ∧
      (d.close type).activeMessageList.Sublist d.activeMessageList := by
  cases type with
  | flushWrite =>
    unfold close
    dsimp only
    split
    · exact ⟨by rintro ⟨⟩, rfl, List.Sublist.refl _⟩
    · exact ⟨‹_›, rfl, List.Sublist.refl _⟩
  | noFlush =>
    unfold close
    dsimp only
    split
    · rename_i h
      exact ⟨by rw [h]; rintro ⟨⟩, rfl, List.Sublist.refl _⟩
    · refine ⟨?_, fault_resetAllMessages _ _, sublist_resetAllMessages _ _⟩
      unfold closed onEvent
      rw [state_resetAllMessages]
      rintro ⟨⟩

end Downstream

namespace ConnectionManager

theorem idles_onDecodingError (p : Prop) (cm : ConnectionManager σ) :
    Idles I p cm cm.onDecodingError := by
  obtain ⟨hstate, hfault, hactive⟩ := cm.downstream.close_spec .noFlush
  refine ⟨rfl, rfl, rfl, rfl, fun h => ?_, fun h => absurd ?_ hstate, ⟨[], ?_, by simp⟩, ?_,
    fun _ => ?_⟩
  · simpa [onDecodingError, onDownstream, Downstream.codec_resetAllMessages, Downstream.inc,
      Downstream.codec_close] using h
  · simpa [onDecodingError, onDownstream, Downstream.state_resetAllMessages, Downstream.inc] using h
  · simp [onDecodingError, onDownstream, Downstream.written_resetAllMessages, Downstream.inc,
      Downstream.written_close]
  · exact (Downstream.sublist_resetAllMessages _ _).trans hactive
  · simpa [onDecodingError, onDownstream, Downstream.fault_resetAllMessages, Downstream.inc]
      using hfault

theorem idles_resetAndClose (p : Prop) (cm : ConnectionManager σ) :
    Idles I p cm cm.resetAndClose := by
  obtain ⟨hstate, hfault, hactive⟩ := (cm.downstream.resetAllMessages false).close_spec .flushWrite
  have hcodec : cm.resetAndClose.downstream.codec = cm.downstream.codec :=
    (Downstream.codec_close _ _).trans (Downstream.codec_resetAllMessages _ _)
  refine ⟨rfl, rfl, rfl, rfl, fun h => hcodec ▸ h, fun h => absurd h hstate, ⟨[], ?_, by simp⟩, ?_,
    fun _ => ?_⟩
  · simp [resetAndClose, onDownstream, Downstream.written_close,
      Downstream.written_resetAllMessages]
  · exact hactive.trans (Downstream.sublist_resetAllMessages _ _)
  · exact hfault.trans (Downstream.fault_resetAllMessages _ _)

theorem idles_closed (p : Prop) (event : ConnectionEvent) (cm : ConnectionManager σ) :
    Idles I p cm (cm.onDownstream (Downstream.closed event)) := by
  have hcodec : (cm.downstream.closed event).codec = cm.downstream.codec :=
    Downstream.codec_closed _ _
  have hstate : (cm.downstream.closed event).state = .closed :=
    Downstream.state_resetAllMessages _ _
  refine ⟨rfl, rfl, rfl, rfl, fun h => hcodec.symm ▸ h,
    fun h => absurd (hstate.symm.trans h) (by rintro ⟨⟩), ⟨[], ?_, by simp⟩, ?_, fun _ => ?_⟩
  · simp [onDownstream, Downstream.written_closed]
  · exact Downstream.sublist_resetAllMessages _ _
  · exact Downstream.fault_resetAllMessages _ _

theorem idles_panic {p : Prop} (hp : ¬p) (site : String) (cm : ConnectionManager σ) :
    Idles I p cm (cm.onDownstream (Downstream.panic site)) :=
  ⟨rfl, rfl, rfl, rfl, id, id, ⟨[], by simp [onDownstream, Downstream.panic]⟩, List.Sublist.refl _,
    fun h => absurd h hp⟩

/-- A heartbeat is no request, and its reply answers none. -/
theorem idles_onHeartbeat (cfg : Config σ) (p : Prop) (metadata : Metadata)
    (cm : ConnectionManager σ) : Idles I p cm (cm.onHeartbeat cfg metadata).2 := by
  have hrequests : (cm.delivered ++ [Delivery.heartbeat metadata]).filterMap (fun
      | .stream metadata => some metadata
      | .heartbeat _ => none) = cm.requests := by
    rw [List.filterMap_append]
    simp [requests]
  obtain ⟨ws, hcm, hws⟩ := onHeartbeat_spec cfg metadata cm
  rw [hcm]
  exact ⟨rfl, hrequests, rfl, rfl, id, id, ⟨ws, rfl, fun w hw => (hws w hw).1⟩,
    List.Sublist.refl _, fun _ => rfl⟩

theorem decoder_onHeartbeat (cfg : Config σ) (metadata : Metadata) (cm : ConnectionManager σ) :
    (cm.onHeartbeat cfg metadata).2.decoder = cm.decoder := by
  obtain ⟨ws, hcm, -⟩ := onHeartbeat_spec cfg metadata cm
  rw [hcm]

/-- A codec that replies has a heartbeat reply. -/
theorem onHeartbeat_ok (hp : cfg.codec.Replies I R) {cm : ConnectionManager σ}
    (hI : I cm.downstream.codec) {metadata : Metadata} (hR : R metadata) :
    (cm.onHeartbeat cfg metadata).1 = .ok () := by
  obtain ⟨bytes, hbytes⟩ := hp.heartbeat hI hR
  unfold onHeartbeat
  dsimp only
  split
  · rfl
  · split
    · rename_i fault hfault
      cases hbytes.symm.trans hfault
    · rfl

/-- The decoder reads, and is ready to go on if it has not read a message. -/
theorem reads_decode (hk : cfg.codec.Keeps I R) {cm : ConnectionManager σ} (hs : cm.Sane I)
    (hr : cm.decoder.Ready) :
    Reads cfg I R none cm (cm.decode cfg).1 ∧
      (cm.decode cfg).2 = (cfg.codec.decode cm.downstream.codec cm.requestBuffer).status.decoded ∧
      ((∀ metadata, (cm.decode cfg).2 ≠ .stream metadata) → (cm.decode cfg).1.decoder.Ready) := by
  obtain ⟨decoder, hdecode, hready⟩ :=
    DecoderBase.decode_of_ready hr cfg.codec cm.downstream.codec cm.requestBuffer
  have hidle : Idles I (cfg.codec.Replies I R) cm (cm.decode cfg).1 := by
    unfold decode
    rw [hdecode]
    exact ⟨rfl, rfl, rfl, rfl, fun hI => hk.decode hI _, id, ⟨[], by simp⟩, List.Sublist.refl _,
      fun _ => rfl⟩
  refine ⟨hidle.reads hs, ?_, ?_⟩
  · unfold decode
    rw [hdecode]
  · unfold decode
    rw [hdecode]
    refine fun hnot => hready fun metadata hdone => ?_
    by_contra hstream
    exact hnot metadata (by rw [hdone]; exact if_neg hstream)

/-- One turn of the loop. -/
theorem reads_turn (hk : cfg.codec.Keeps I R) (hc : cfg.RouterOnly) {cm cm' : ConnectionManager σ}
    (hs : cm.Sane I) (hr : cm.decoder.Ready) {again : Bool} (hturn : Turn cfg cm cm' again) :
    Reads cfg I R none cm cm' ∧ cm'.decoder.Ready := by
  obtain ⟨hreads, hdecoded, hready⟩ := reads_decode hk hs hr
  have hcomplete : ∀ {cm'' : ConnectionManager σ}, Reads cfg I R none cm cm'' →
      Reads cfg I R none cm cm''.complete ∧ cm''.complete.decoder.Ready := by
    intro cm'' h
    have hidle : Idles I (cfg.codec.Replies I R) cm'' cm''.complete :=
      ⟨rfl, rfl, rfl, rfl, id, id, ⟨[], by simp [complete]⟩, List.Sublist.refl _, fun _ => rfl⟩
    exact ⟨h.next (hidle.reads h.sane), DecoderBase.ready_complete cm''.decoder⟩
  have hheartbeat := fun metadata =>
    hreads.next ((idles_onHeartbeat cfg _ metadata _).reads hreads.sane)
  have hokay : ∀ {metadata}, (cm.decode cfg).2 = .heartbeat metadata → cfg.codec.Replies I R →
      ((cm.decode cfg).1.onHeartbeat cfg metadata).1 = .ok () := by
    intro metadata h hp
    obtain ⟨hdone, -⟩ := DecodeStatus.eq_done_of_heartbeat (hdecoded.symm.trans h)
    exact onHeartbeat_ok hp hreads.sane.codec (hk.done hs.codec hdone)
  cases hturn with
  | wait h => exact ⟨hreads, hready (by rw [h]; rintro _ ⟨⟩)⟩
  | error h =>
    exact ⟨hreads.next ((idles_onDecodingError _ _).reads hreads.sane),
      hready (by rw [h]; rintro _ ⟨⟩)⟩
  | panic h =>
    have hp : ¬cfg.codec.Replies I R := by
      intro hp
      obtain ⟨what, heq, -⟩ :=
        hp.throw hs.codec (DecodeStatus.eq_throw_of_decoded (hdecoded.symm.trans h))
      cases heq
    exact ⟨hreads.next ((idles_panic hp _ _).reads hreads.sane), hready (by rw [h]; rintro _ ⟨⟩)⟩
  | stream h =>
    have hR := hk.done hs.codec (DecodeStatus.eq_done_of_stream (hdecoded.symm.trans h))
    exact hcomplete (hreads.next (reads_newStream hk hc hreads.sane hR))
  | heartbeat => exact hcomplete (hheartbeat _)
  | heartbeatError h =>
    refine ⟨(hheartbeat _).next ((idles_onDecodingError _ _).reads (hheartbeat _).sane), ?_⟩
    exact (decoder_onHeartbeat cfg _ _).symm ▸ hready (by rw [h]; rintro _ ⟨⟩)
  | heartbeatPanic h hreply =>
    have hp : ¬cfg.codec.Replies I R := fun hp => by cases (hokay h hp).symm.trans hreply
    refine ⟨(hheartbeat _).next ((idles_panic hp _ _).reads (hheartbeat _).sane), ?_⟩
    exact (decoder_onHeartbeat cfg _ _).symm ▸ hready (by rw [h]; rintro _ ⟨⟩)

theorem reads_dispatch (hk : cfg.codec.Keeps I R) (hc : cfg.RouterOnly) {cm : ConnectionManager σ}
    (hs : cm.Sane I) (hr : cm.decoder.Ready) :
    Reads cfg I R none cm (cm.dispatch cfg) ∧ (cm.dispatch cfg).decoder.Ready := by
  have hturn : ∀ {cm' cm'' : ConnectionManager σ} {again : Bool},
      Reads cfg I R none cm cm' ∧ cm'.decoder.Ready → Turn cfg cm' cm'' again →
        Reads cfg I R none cm cm'' ∧ cm''.decoder.Ready := by
    rintro cm' cm'' again ⟨hreads, hready⟩ hturn
    obtain ⟨hreads', hready'⟩ := reads_turn hk hc hreads.sane hready hturn
    exact ⟨hreads.next hreads', hready'⟩
  exact dispatch_rule (P := fun cm' => Reads cfg I R none cm cm' ∧ cm'.decoder.Ready) id hturn hturn
    ⟨.refl cfg R none hs, hr⟩

/-- A connection that nothing stops goes on, or is reset. -/
theorem reads_after {cm cm' : ConnectionManager σ} (hs : cm.Sane I) (hr : cm.decoder.Ready)
    (h : AfterDispatch cm cm') : Reads cfg I R none cm cm' ∧ cm'.decoder.Ready := by
  cases h with
  | more => exact ⟨.refl cfg R none hs, hr⟩
  | reset => exact ⟨(idles_resetAndClose _ _).reads hs, hr⟩
  | halfClose h | assert h => cases hs.stopped.symm.trans h

theorem reads_onData (hk : cfg.codec.Keeps I R) (hc : cfg.RouterOnly) {cm : ConnectionManager σ}
    (hs : cm.Sane I) (hr : cm.decoder.Ready) (data : Bytes) (endStream : Bool) :
    Reads cfg I R none cm (cm.onData cfg data endStream) ∧
      (cm.onData cfg data endStream).decoder.Ready := by
  have hbuffer : Idles I (cfg.codec.Replies I R) cm
      { cm with requestBuffer := cm.requestBuffer ++ data } :=
    ⟨rfl, rfl, rfl, rfl, id, id, ⟨[], by simp⟩, List.Sublist.refl _, fun _ => rfl⟩
  have hready' : ({ cm with requestBuffer := cm.requestBuffer ++ data } :
    ConnectionManager σ).decoder.Ready := hr
  obtain ⟨hdispatch, hready⟩ := reads_dispatch hk hc (hbuffer.reads hs).sane hready'
  have hreads := (hbuffer.reads hs).next hdispatch
  obtain ⟨hafter, hready''⟩ := reads_after hreads.sane hready (onData_after cfg data endStream cm)
  exact ⟨hreads.next hafter, hready''⟩

theorem reads_continueDecoding (hk : cfg.codec.Keeps I R) (hc : cfg.RouterOnly)
    {cm : ConnectionManager σ} (hs : cm.Sane I) (hr : cm.decoder.Ready) :
    Reads cfg I R none cm (cm.continueDecoding cfg) ∧ (cm.continueDecoding cfg).decoder.Ready := by
  have hgo : Idles I (cfg.codec.Replies I R) cm { cm with stopped := false } :=
    ⟨rfl, rfl, rfl, hs.stopped.symm, id, id, ⟨[], by simp⟩, List.Sublist.refl _, fun _ => rfl⟩
  have hready' : ({ cm with stopped := false } : ConnectionManager σ).decoder.Ready := hr
  obtain ⟨hdispatch, hready⟩ := reads_dispatch hk hc (hgo.reads hs).sane hready'
  have hreads := (hgo.reads hs).next hdispatch
  obtain ⟨hafter, hready''⟩ := reads_after hreads.sane hready (continueDecoding_after cfg cm)
  exact ⟨hreads.next hafter, hready''⟩

end ConnectionManager

end MetaProtocolProxy

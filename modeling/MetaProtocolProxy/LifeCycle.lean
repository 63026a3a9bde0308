import MetaProtocolProxy.Reading

/-!
# The life of a request

Every event of a connection has a row in the table of what it does to the message it is for
(`EventRow`), and what else it does is reading (`Lived`). So a connection in order stays in
order over every run (`alive_step`), and a property of its messages has to be checked
against two tables only : the rows of a birth and the rows of an event.
-/

namespace MetaProtocolProxy

variable {σ : Type} {cfg : Config σ} {I : σ → Prop} {R : Metadata → Prop}

namespace ConnectionManager

open Downstream (Does One)

/-! ## The table of events -/

/-- The message an event is for. -/
def Event.message : Event → Option ℕ
  | .downstreamData _ _ | .downstreamClose _ => none
  | .poolReady i _ _ | .poolFailure i _ _ | .upstreamData i _ _ | .upstreamClose i _
  | .continueDecoding i _ | .continueEncoding i _ | .release i => some i

/-- Envoy calls messages that exist. -/
theorem Enabled.lt_created {cm : ConnectionManager σ} {e : Event} (he : cm.Enabled cfg e) {i : ℕ}
    (hi : e.message = some i) : i < cm.created := by
  obtain ⟨-, hpermitted⟩ := he
  cases e with
  | downstreamData data endStream => cases hi
  | downstreamClose event => cases hi
  | _ => exact Option.some.inj hi ▸ hpermitted.1

/-- What the response decoder of a message makes of data, behind what is left in its buffer. -/
def incoming (cfg : Config σ) (i : ℕ) (data : Bytes) (cm : ConnectionManager σ) : Decoded :=
  (cm.stream i).incoming cfg (cm.upstreamBuffer i ++ data)

/-- What stops the process when an event is handled. -/
def alarm (cfg : Config σ) (cm : ConnectionManager σ) : Event → Option String
  | .upstreamData i data _ => (cm.incoming cfg i data).alarm
  | _ => none

/-- The connection as the alarm leaves it. -/
def alarmed (cfg : Config σ) (e : Event) (cm : ConnectionManager σ) : ConnectionManager σ :=
  cm.onDownstream fun d => (cm.alarm cfg e).elim d fun site => d.panic site

/-- What an event does to its message : from the phase that finds it, `n` answers are
written, it is released or not, and comes to a phase. -/
def EventRow (cfg : Config σ) (p : Prop) (cm : ConnectionManager σ) (i : ℕ) (request : Metadata)
    (n : ℕ) (released : Bool) (phase : Phase) : Event → Prop
  | .poolReady _ _ _ =>
    (cm.messages i).phase = .pooling ∧ n = 0 ∧ released = request.isOneway ∧ phase = .waiting
  | .poolFailure _ reason _ =>
    (cm.messages i).phase = .pooling ∧
      (if request.isOneway then n = 0 else One p n cm.downstream) ∧
      released = (request.isOneway || reason ≠ .overflow) ∧ phase = .finished
  | .upstreamData _ data endStream =>
    (cm.messages i).phase = .waiting ∧
      Stream.UpstreamRow p request cm.downstream endStream n released phase (cm.incoming cfg i data)
  | .upstreamClose _ _ =>
    (cm.messages i).phase = .waiting ∧
      (if request.isOneway then n = 0 else One p n cm.downstream) ∧
      released = request.isOneway ∧ phase = .finished
  | .release _ => n = 0 ∧ released = false ∧ phase = .finished
  | .downstreamData _ _ | .downstreamClose _ | .continueDecoding _ _ | .continueEncoding _ _ =>
      False

/-- What becomes of a message. -/
structure Fate (i n : ℕ) (released : Bool) (phase : Phase) (cm cm' : ConnectionManager σ) :
    Prop where
  answers : (cm'.downstream.answers i).length = (cm.downstream.answers i).length + n
  writes : (cm'.messages i).writes = [] ↔ (cm.messages i).writes = [] ∧ phase ≠ .waiting
  cancelled : (cm'.messages i).router.cancelled = (cm.messages i).router.cancelled ∨
    (cm.messages i).phase = .pooling
  released : released = true → i ∉ cm'.downstream.activeMessageList
  phase : (cm'.messages i).phase = phase

/-- An event has been handled : its message has met a row of the table, and the rest is
reading. -/
structure Lived (cfg : Config σ) (I : σ → Prop) (R : Metadata → Prop) (e : Event)
    (cm cm' : ConnectionManager σ) : Prop where
  reads : Reads cfg I R e.message (cm.alarmed cfg e) cm'
  ready : cm'.decoder.Ready
  stopped : (cm.alarm cfg e).isSome = true → cm'.downstream.fault.isSome = true
  own : ∀ i, e.message = some i → ∃ request n released phase,
    cm.Living I R i request ∧ cm'.Living I R i request ∧
      EventRow cfg (cfg.codec.Replies I R) cm i request n released phase e ∧
      Fate i n released phase cm cm'

section Lived

variable {e : Event} {cm cm' cm'' : ConnectionManager σ} {i n : ℕ} {released : Bool} {phase : Phase}

theorem Fate.reads (h : Fate i n released phase cm cm') (h' : Reads cfg I R none cm' cm'')
    (hi : i < cm'.created) : Fate i n released phase cm cm'' := by
  have hmessage := h'.messages i hi (by rintro ⟨⟩)
  refine ⟨?_, ?_, ?_, fun hr ha => h.released hr (h'.active i hi ha), ?_⟩
  · rw [h'.answers i hi (by rintro ⟨⟩)]
    exact h.answers
  · rw [hmessage]
    exact h.writes
  · rw [hmessage]
    exact h.cancelled
  · rw [hmessage]
    exact h.phase

/-- A message that does not come to wait for its upstream keeps what was written there. -/
theorem Fate.writes_eq (h : Fate i n released phase cm cm') (hne : phase ≠ .waiting)
    {request : Metadata} (hl : cm.Living I R i request) (hl' : cm'.Living I R i request) :
    (cm'.messages i).writes = (cm.messages i).writes := by
  rcases hl.coherent.writes with hnone | hone
  · rw [hnone]
    exact h.writes.mpr ⟨hnone, hne⟩
  · rcases hl'.coherent.writes with hnone' | hone'
    · have hnone := (h.writes.mp hnone').1
      rw [hone] at hnone
      cases hnone
    · rw [hone, hone']

/-- Reading on behind an event. -/
theorem Lived.next (h : Lived cfg I R e cm cm') (h' : Reads cfg I R none cm' cm'')
    (hready : cm''.decoder.Ready) (hlt : ∀ i, e.message = some i → i < cm.created)
    (halarm : cm.alarm cfg e = none) : Lived cfg I R e cm cm'' := by
  refine ⟨h.reads.trans (h'.weaken _) hlt, hready, fun ha => ?_, fun i hi => ?_⟩
  · rw [halarm] at ha
    cases ha
  obtain ⟨request, n, released, phase, hliving, hliving', hrow, hfate⟩ := h.own i hi
  have hi' : i < cm'.created := Nat.lt_of_lt_of_le (hlt i hi) h.reads.created
  exact ⟨request, n, released, phase, hliving, h'.living hi' (by rintro ⟨⟩) hliving', hrow,
    hfate.reads h' hi'⟩

/-- The alarm concerns the fault alone. -/
theorem alarmed_eq (cfg : Config σ) (e : Event) (cm : ConnectionManager σ) :
    ∃ fault, cm.alarmed cfg e = cm.onDownstream fun d => { d with fault } := by
  unfold alarmed
  cases cm.alarm cfg e with
  | none => exact ⟨cm.downstream.fault, rfl⟩
  | some site => exact ⟨_, rfl⟩

theorem Lived.state (h : Lived cfg I R e cm cm') (ho : cm'.downstream.state = .open) :
    cm.downstream.state = .open := by
  obtain ⟨fault, heq⟩ := alarmed_eq cfg e cm
  have hstate := h.reads.state ho
  rw [heq] at hstate
  exact hstate

theorem Lived.created (h : Lived cfg I R e cm cm') : cm.created ≤ cm'.created :=
  h.reads.created

/-- A message the event is not for. -/
theorem Lived.other (h : Lived cfg I R e cm cm') (hi : i < cm.created) (he : e.message ≠ some i) :
    cm'.messages i = cm.messages i ∧ cm'.downstream.answers i = cm.downstream.answers i := by
  obtain ⟨fault, heq⟩ := alarmed_eq cfg e cm
  have hanswers := h.reads.answers i hi he
  rw [heq] at hanswers
  exact ⟨h.reads.messages i hi he, hanswers⟩

/-- A message that has left the list does not come back. -/
theorem Lived.active (h : Lived cfg I R e cm cm') (hi : i < cm.created)
    (ha : i ∈ cm'.downstream.activeMessageList) : i ∈ cm.downstream.activeMessageList := by
  obtain ⟨fault, heq⟩ := alarmed_eq cfg e cm
  have hactive := h.reads.active i hi ha
  rw [heq] at hactive
  exact hactive

end Lived

/-! ## Every event has a row -/

/-- What an event does to one message is no reading, but leaves the others alone. -/
theorem reads_setStream {cm : ConnectionManager σ} (hs : cm.Sane I) {i : ℕ} (hi : i < cm.created)
    {s : Stream σ} (hid : s.message.id = i) {n : ℕ} {released : Bool}
    (hdoes : Does (cfg.codec.Replies I R) i n released cm.downstream s.downstream) :
    Reads cfg I R (some i) cm (cm.setStream i s) := by
  obtain ⟨ws, hws, -, hall⟩ := hdoes.written
  refine ⟨⟨⟨fun j => ?_, fun w hw j hj => ?_⟩, ?_, hdoes.nodup hs.nodup, fun j hj => ?_,
    hs.requests,
    hs.stopped⟩, Nat.le_refl _, fun ho => ?_, fun j _ => rfl, fun j _ hne => ?_, fun j _ hne => ?_,
    fun j _ hj => ?_, fun j hj hle => absurd hj (Nat.not_lt.mpr hle), fun hp => hdoes.fault hp⟩
  · by_cases hj : j = i
    · subst hj
      simpa [setStream] using hid
    · simpa [setStream, Function.update_of_ne hj] using hs.numbered.id j
  · change w ∈ s.downstream.written at hw
    rw [hws] at hw
    rcases List.mem_append.mp hw with hw | hw
    · exact hs.numbered.written w hw j hj
    · rw [hall w hw] at hj
      exact (Option.some.inj hj) ▸ hi
  · change I s.downstream.codec
    rw [hdoes.codec]
    exact hs.codec
  · exact hs.active j (hdoes.mem_active hj)
  · exact hdoes.state ▸ ho
  · exact Function.update_of_ne (fun h => hne (congrArg some h.symm)) _ _
  · exact hdoes.answers_other fun h => hne (congrArg some h.symm)
  · exact hdoes.mem_active hj

theorem Sane.alarmed {cm : ConnectionManager σ} (h : cm.Sane I) (cfg : Config σ) (e : Event) :
    (cm.alarmed cfg e).Sane I := by
  obtain ⟨hnumbered, hcodec, hnodup, hactive, hrequests, hstopped⟩ := h
  unfold ConnectionManager.alarmed
  cases cm.alarm cfg e <;>
    exact ⟨⟨hnumbered.id, hnumbered.written⟩, hcodec, hnodup, hactive, hrequests, hstopped⟩

/-- A message that turns has its row. -/
theorem lived_setStream {cm : ConnectionManager σ} (h : cm.Alive I R) {e : Event} {i : ℕ}
    (he : e.message = some i) (hi : i < cm.created) {request : Metadata}
    (hliving : cm.Living I R i request) {s : Stream σ} {n : ℕ} {released : Bool} {phase : Phase}
    (hturns : Stream.Turns I R request.originMessage (cfg.codec.Replies I R) n released phase
      ((cm.alarmed cfg e).stream i) s)
    (hrow : EventRow cfg (cfg.codec.Replies I R) cm i request n released phase e) :
    Lived cfg I R e cm (cm.setStream i s) := by
  have hid : (cm.messages i).id = i := h.sane.numbered.id i
  have hdoes : Does (cfg.codec.Replies I R) i n released (cm.alarmed cfg e).downstream
      s.downstream := hid ▸ hturns.does
  have hmessage : (cm.setStream i s).messages i = s.message := Function.update_self _ _ _
  have hwritten : (cm.alarmed cfg e).downstream.written = cm.downstream.written := by
    unfold alarmed
    cases cm.alarm cfg e <;> rfl
  have hactive : (cm.alarmed cfg e).downstream.activeMessageList =
      cm.downstream.activeMessageList := by
    unfold alarmed
    cases cm.alarm cfg e <;> rfl
  refine ⟨?_, h.ready, fun ha => hdoes.stopped ?_, fun j hj => ?_⟩
  · rw [he]
    exact reads_setStream (h.sane.alarmed cfg e) hi (hturns.id.trans hid) hdoes
  · obtain ⟨site, hsite⟩ := Option.isSome_iff_exists.mp ha
    unfold alarmed
    rw [hsite]
    rfl
  · obtain rfl : i = j := Option.some.inj (he.symm.trans hj)
    refine ⟨request, n, released, phase, hliving, ⟨hliving.decoded, ?_, ?_⟩, hrow, ?_, ?_, ?_,
      fun hr => ?_, ?_⟩
    · rw [hmessage]
      exact hturns.kind.trans hliving.kind
    · rw [hmessage]
      exact hturns.coherent
    · have hanswers := hdoes.answers
      unfold Downstream.answers at hanswers
      rw [hwritten] at hanswers
      exact hanswers
    · rw [hmessage]
      exact hturns.writes
    · rw [hmessage]
      exact hturns.cancelled
    · subst hr
      exact hdoes.not_mem_active (hactive ▸ h.sane.nodup)
    · rw [hmessage]
      exact hturns.phase

/-- A message keeps the type and the id of its request. -/
theorem Living.metadata {cm : ConnectionManager σ} {i : ℕ} {request : Metadata}
    (h : cm.Living I R i request) : ∃ metadata, (cm.messages i).metadata = some metadata ∧
      metadata.isOneway = request.isOneway ∧ metadata.requestId = request.requestId := by
  obtain ⟨metadata, hm, -⟩ := h.coherent.metadata
  have hkind := h.kind
  unfold ActiveMessage.kind at hkind
  rw [hm] at hkind
  obtain ⟨htype, hid⟩ := Prod.mk.inj (Option.some.inj hkind)
  refine ⟨metadata, hm, ?_, hid⟩
  unfold Metadata.isOneway
  rw [htype]

theorem phase_eq_pooling_iff {cm : ConnectionManager σ} {i : ℕ} :
    (cm.messages i).phase = .pooling ↔ cm.Pooling i := by
  unfold Pooling ActiveMessage.phase
  cases (cm.messages i).router.upstreamRequest with
  | none => simp
  | some r =>
    cases hhandle : r.connPoolHandle with
    | true => simp [hhandle]
    | false =>
      simp only [hhandle, Bool.false_eq_true, if_false, Option.any_some, iff_false]
      split <;> rintro ⟨⟩

theorem phase_of_waiting {cm : ConnectionManager σ} {i : ℕ} {o : Bytes}
    (hs : (cm.messages i).Coherent I R o) (h : cm.Waiting i) :
    (cm.messages i).phase = .waiting := by
  unfold Waiting upstreamConnection at h
  cases hr : (cm.messages i).router.upstreamRequest with
  | none =>
    rw [hr] at h
    cases h
  | some r =>
    rw [hr] at h
    cases hc : r.connData with
    | none => simp [hc] at h
    | some c =>
      have hhandle : r.connPoolHandle = false := by
        by_contra hne
        have hnone := hs.exclusive hr (by simpa using hne)
        rw [hc] at hnone
        cases hnone
      have hopen : c.isOpen = true := by simpa [hc] using h
      simp [ActiveMessage.phase, hr, hhandle, hc, hopen]

/-- What the response decoder of a message that waits makes of data is what the codec makes of
it. -/
theorem Living.incoming (hk : cfg.codec.Keeps I R) {cm : ConnectionManager σ} {i : ℕ}
    {request : Metadata} (h : cm.Living I R i request) (hp : (cm.messages i).phase = .waiting)
    (data : Bytes) : ∃ s, I s ∧ cm.incoming cfg i data =
      (cfg.codec.decode s (cm.upstreamBuffer i ++ data)).status.decoded := by
  obtain ⟨r, c, hw⟩ := h.coherent.waiting hp
  unfold ConnectionManager.incoming Stream.incoming
  have hfresh : ActiveMessage.Fresh I
      ((cm.messages i).responseDecoder.getD { codec := cfg.codec.init }) := by
    cases hr : (cm.messages i).responseDecoder with
    | none => exact ⟨hk.init, ⟨rfl, by rintro ⟨⟩, by rintro ⟨⟩⟩, rfl⟩
    | some decoder => exact hw.responseDecoder decoder hr
  obtain ⟨decoder', hdecode, -⟩ := DecoderBase.decode_of_ready hfresh.ready cfg.codec
    ((cm.messages i).responseDecoder.getD { codec := cfg.codec.init }).codec
    (cm.upstreamBuffer i ++ data)
  refine ⟨_, hfresh.codec, ?_⟩
  exact congrArg (fun r => r.2.2.2) hdecode

/-- With the router as the only filter nothing else pauses a message. -/
theorem pausedAt_router (calls : List ℕ) (position : ℕ) :
    pausedAt [Filter.router] calls position = false := by
  unfold pausedAt
  cases position with
  | zero => simp [Filter.isRouter]
  | succ position => simp

theorem routerPosition_eq (hc : cfg.RouterOnly) : routerPosition cfg = 0 := by
  simp [routerPosition, hc.decoderFilters, Filter.isRouter]

/-- The connection when `onPoolReady` comes to write the bytes of its message. -/
def atEncodeData (cfg : Config σ) (i : ℕ) (host : Host) (leftover : Bytes)
    (cm : ConnectionManager σ) : ConnectionManager σ :=
  (cm.onStream i (Stream.onPoolReadyConnection host leftover)).continueMessage cfg i
    (routerPosition cfg)

theorem onPoolReady_eq (cfg : Config σ) (i : ℕ) (host : Host) (leftover : Bytes)
    (cm : ConnectionManager σ) : cm.onPoolReady cfg i host leftover =
      (cm.atEncodeData cfg i host leftover).onStream i
        (fun s => s.onRequestComplete.encodeData) :=
  rfl

/-- By then the message has come to the end of its filters and the connection has gone on, with
the bytes of the message still to be written. -/
theorem reads_atEncodeData (hk : cfg.codec.Keeps I R) (hc : cfg.RouterOnly)
    {cm : ConnectionManager σ} (h : cm.Alive I R) {i : ℕ} (hi : i < cm.created)
    {request : Metadata} (hliving : cm.Living I R i request) (hp : (cm.messages i).phase = .pooling)
    (host : Host) (leftover : Bytes) :
    Reads cfg I R (some i) cm (cm.atEncodeData cfg i host leftover) ∧
      (cm.atEncodeData cfg i host leftover).decoder.Ready ∧
      Stream.Connects I R request.originMessage
        ((cm.atEncodeData cfg i host leftover).messages i) ∧
      ((cm.atEncodeData cfg i host leftover).messages i).kind = (cm.messages i).kind ∧
      (cm.atEncodeData cfg i host leftover).downstream.answers i = cm.downstream.answers i ∧
      (request.isOneway = true →
        i ∉ (cm.atEncodeData cfg i host leftover).downstream.activeMessageList) := by
  have hid : (cm.messages i).id = i := h.sane.numbered.id i
  obtain ⟨metadata, hm, honeway, -⟩ := hliving.metadata
  obtain ⟨s', hcontinue, hconnects, hid', hkind, hdoes⟩ := Stream.onPoolReady_spec
    (cfg.codec.Replies I R) hc (s := cm.stream i) hm hliving.coherent hp host leftover
  replace hdoes : Does (cfg.codec.Replies I R) i 0 metadata.isOneway cm.downstream s'.downstream :=
    hid ▸ hdoes
  obtain ⟨cm₁, hcm₁⟩ : ∃ cm₁, cm₁ = cm.setStream i s' := ⟨_, rfl⟩
  have hmessage₁ : cm₁.messages i = s'.message := by rw [hcm₁]; exact Function.update_self _ _ _
  have hreads₁ : Reads cfg I R (some i) cm cm₁ := by
    rw [hcm₁]
    exact reads_setStream h.sane hi (hid'.trans hid) hdoes
  have hi₁ : i < cm₁.created := by rw [hcm₁]; exact hi
  obtain ⟨hreads, hready⟩ := reads_continueDecoding hk hc hreads₁.sane
    (show cm₁.decoder.Ready by rw [hcm₁]; exact h.ready)
  have heq : cm.atEncodeData cfg i host leftover = cm₁.continueDecoding cfg := by
    unfold atEncodeData
    rw [routerPosition_eq hc, onStream, continueMessage_eq
      (by rw [stream_setStream]; exact hcontinue),
      setStream_setStream, hcm₁]
  rw [heq]
  have hmessage := hreads.messages i hi₁ (by rintro ⟨⟩)
  refine ⟨hreads₁.trans (hreads.weaken _) (by rintro j ⟨⟩; exact hi), hready, ?_, ?_, ?_,
    fun hone ha => ?_⟩
  · rw [hmessage, hmessage₁]
    exact hconnects
  · rw [hmessage, hmessage₁]
    exact hkind
  · rw [hreads.answers i hi₁ (by rintro ⟨⟩), hcm₁]
    obtain ⟨ws, hws, hnone, -⟩ := hdoes.written
    obtain rfl : ws = [] := List.eq_nil_of_length_eq_zero hnone
    unfold Downstream.answers
    rw [show (cm.setStream i s').downstream = s'.downstream from rfl, hws, List.append_nil]
  · rw [honeway, hone] at hdoes
    have hactive := hreads.active i hi₁ ha
    rw [hcm₁] at hactive
    exact hdoes.not_mem_active h.sane.nodup hactive

/-- The pool has a connection. -/
theorem lived_onPoolReady (hk : cfg.codec.Keeps I R) (hc : cfg.RouterOnly)
    {cm : ConnectionManager σ} (h : cm.Alive I R) {i : ℕ} (hi : i < cm.created)
    {request : Metadata} (hliving : cm.Living I R i request) (hp : (cm.messages i).phase = .pooling)
    (host : Host) (leftover : Bytes) :
    Lived cfg I R (.poolReady i host leftover) cm (cm.onPoolReady cfg i host leftover) := by
  have hspec := reads_atEncodeData hk hc h hi hliving hp host leftover
  rw [onPoolReady_eq]
  generalize cm.atEncodeData cfg i host leftover = cm₁ at hspec ⊢
  obtain ⟨hreads, hready, hconnects, hkind, hanswers, hreleased⟩ := hspec
  have hid : (cm₁.messages i).id = i := hreads.sane.numbered.id i
  have hi₁ : i < cm₁.created := Nat.lt_of_lt_of_le hi hreads.created
  have hturns : Stream.Turns I R request.originMessage (cfg.codec.Replies I R) 0 false .waiting
      (cm₁.stream i) (cm₁.stream i).onRequestComplete.encodeData :=
    Stream.turns_encodeData (cm₁.stream i) (s := cm₁.stream i) hconnects rfl rfl
      hconnects.unused.2.2 (.refl _ _ _)
  have hdoes : Does (cfg.codec.Replies I R) i 0 false cm₁.downstream
      (cm₁.stream i).onRequestComplete.encodeData.downstream := by
    have h := hturns.does
    rw [show (cm₁.stream i).message.id = i from hid] at h
    exact h
  have hwritten : Reads cfg I R (some i) cm₁
      (cm₁.onStream i fun s => s.onRequestComplete.encodeData) :=
    reads_setStream hreads.sane hi₁ (hturns.id.trans hid) hdoes
  have hmessage : (cm₁.onStream i fun s => s.onRequestComplete.encodeData).messages i =
      (cm₁.stream i).onRequestComplete.encodeData.message := Function.update_self _ _ _
  have hall := hreads.trans hwritten (by rintro j ⟨⟩; exact hi)
  refine ⟨hall, hready, by rintro ⟨⟩, fun j hj => ?_⟩
  obtain rfl : i = j := Option.some.inj hj
  refine ⟨request, 0, request.isOneway, .waiting, hliving, ⟨?_, ?_, ?_⟩, ⟨hp, rfl, rfl, rfl⟩,
    ?_, ?_, Or.inr hp, fun hr ha => hreleased hr (hwritten.active i hi₁ ha), ?_⟩
  · exact (hall.requests i hi).trans hliving.decoded
  · rw [hmessage]
    exact hturns.kind.trans (hkind.trans hliving.kind)
  · rw [hmessage]
    exact hturns.coherent
  · rw [← hanswers]
    exact hdoes.answers
  · rw [hmessage, hturns.writes]
    simp
  · rw [hmessage]
    exact hturns.phase

/-- The pool has failed. -/
theorem lived_onPoolFailure (hk : cfg.codec.Keeps I R) (hc : cfg.RouterOnly)
    {cm : ConnectionManager σ} (h : cm.Alive I R) {i : ℕ} (hi : i < cm.created)
    {request : Metadata} (hliving : cm.Living I R i request) (hp : (cm.messages i).phase = .pooling)
    (reason : PoolFailureReason) (host : Host) :
    Lived cfg I R (.poolFailure i reason host) cm (cm.onPoolFailure cfg i reason host) := by
  obtain ⟨metadata, hm, honeway, -⟩ := hliving.metadata
  by_cases hreason : reason = .overflow
  · subst hreason
    obtain ⟨n, hn, hturns, -⟩ := Stream.turns_overflow cfg (s := cm.stream i) hm hliving.coherent hp
      h.sane.codec .overflow host
    rw [honeway] at hn hturns
    exact lived_setStream h rfl hi hliving hturns ⟨hp, hn, by simp, rfl⟩
  · obtain ⟨n, s', hcontinue, hn, hturns⟩ := Stream.turns_onPoolFailure hc (s := cm.stream i) hm
      hliving.coherent hp h.sane.codec h.sane.nodup reason host
    rw [honeway] at hn
    have hlived : Lived cfg I R (.poolFailure i reason host) cm (cm.setStream i s') :=
      lived_setStream h rfl hi hliving hturns ⟨hp, hn, by simp [hreason], rfl⟩
    obtain ⟨hreads, hready⟩ := reads_continueDecoding hk hc hlived.reads.sane hlived.ready
    have hstep : cm.onPoolFailure cfg i reason host =
        (cm.setStream i s').continueDecoding cfg := by
      have hcontinue' : ((cm.onStream i (Stream.onPoolFailureReset cfg reason host)).stream
          i).continueDecoding cfg 0 = (true, s') := by
        rw [onStream, stream_setStream]
        exact hcontinue
      unfold onPoolFailure
      cases reason with
      | overflow => exact absurd rfl hreason
      | _ =>
        dsimp only
        rw [routerPosition_eq hc, continueMessage_eq hcontinue', onStream, setStream_setStream]
    rw [hstep]
    exact hlived.next hreads hready (by rintro j ⟨⟩; exact hi) rfl

/-- Every event has a row. -/
theorem lived_step (hk : cfg.codec.Keeps I R) (hc : cfg.RouterOnly) {cm : ConnectionManager σ}
    (h : cm.Alive I R) {e : Event} (he : cm.Enabled cfg e) :
    Lived cfg I R e cm (cm.step cfg e) := by
  obtain ⟨-, hpermitted⟩ := he
  cases e with
  | downstreamData data endStream =>
    obtain ⟨hreads, hready⟩ := reads_onData hk hc h.sane h.ready data endStream
    exact ⟨hreads, hready, by rintro ⟨⟩, by rintro i ⟨⟩⟩
  | downstreamClose event =>
    exact ⟨(idles_closed _ event cm).reads h.sane, h.ready, by rintro ⟨⟩, by rintro i ⟨⟩⟩
  | poolReady i host leftover =>
    obtain ⟨hi, -, hpooling⟩ := hpermitted
    obtain ⟨request, hliving⟩ := h.living i hi
    exact lived_onPoolReady hk hc h hi hliving (phase_eq_pooling_iff.mpr hpooling) host leftover
  | poolFailure i reason host =>
    obtain ⟨hi, -, hpooling⟩ := hpermitted
    obtain ⟨request, hliving⟩ := h.living i hi
    exact lived_onPoolFailure hk hc h hi hliving (phase_eq_pooling_iff.mpr hpooling) reason host
  | upstreamData i data endStream =>
    obtain ⟨hi, -, hwaiting⟩ := hpermitted
    obtain ⟨request, hliving⟩ := h.living i hi
    obtain ⟨metadata, hm, honeway, hid⟩ := hliving.metadata
    have hp := phase_of_waiting hliving.coherent hwaiting
    obtain ⟨n, released, phase, hrow, hturns⟩ := Stream.turns_onUpstreamData hk hc
      (s := cm.stream i) hm hliving.coherent hp h.sane.codec (cm.upstreamBuffer i ++ data) endStream
    refine lived_setStream h rfl hi hliving hturns ⟨hp, ?_⟩
    unfold Stream.UpstreamRow at hrow ⊢
    rw [honeway, hid] at hrow
    exact hrow
  | upstreamClose i event =>
    obtain ⟨hi, -, hwaiting⟩ := hpermitted
    obtain ⟨request, hliving⟩ := h.living i hi
    obtain ⟨metadata, hm, honeway, -⟩ := hliving.metadata
    have hp := phase_of_waiting hliving.coherent hwaiting
    obtain ⟨n, hn, hturns⟩ := Stream.turns_upstreamClosed (s := cm.stream i) hm hliving.coherent hp
      h.sane.codec event
    rw [honeway] at hn hturns
    exact lived_setStream h rfl hi hliving hturns ⟨hp, hn, rfl, rfl⟩
  | continueDecoding i position =>
    obtain ⟨-, -, -, hpaused⟩ := hpermitted
    rw [hc.decoderFilters, pausedAt_router] at hpaused
    cases hpaused
  | continueEncoding i position =>
    obtain ⟨-, -, -, hpaused⟩ := hpermitted
    rw [hc.encoderFilters, pausedAt_router] at hpaused
    cases hpaused
  | release i =>
    obtain ⟨hi, -, -⟩ := hpermitted
    obtain ⟨request, hliving⟩ := h.living i hi
    exact lived_setStream h rfl hi hliving (Stream.turns_destroy hc hliving.coherent)
      ⟨rfl, rfl, rfl⟩

/-! ## Runs -/

/-- A message that an event finds or that it creates. -/
theorem Lived.living {e : Event} {cm cm' : ConnectionManager σ} (hl : Lived cfg I R e cm cm')
    (h : cm.Alive I R) {i : ℕ} (hi : i < cm'.created) : ∃ request, cm'.Living I R i request := by
  by_cases hlt : i < cm.created
  · by_cases he : e.message = some i
    · obtain ⟨request, n, released, phase, -, hliving, -⟩ := hl.own i he
      exact ⟨request, hliving⟩
    · obtain ⟨request, hliving⟩ := h.living i hlt
      exact ⟨request, hl.reads.living hlt he
        ⟨hliving.decoded, hliving.kind, hliving.coherent⟩⟩
  · obtain ⟨request, n, released, phase, hborn, -⟩ := hl.reads.born i hi (Nat.not_lt.mp hlt)
    exact ⟨request, hborn.living⟩

theorem alive_step (hk : cfg.codec.Keeps I R) (hc : cfg.RouterOnly) {cm : ConnectionManager σ}
    (h : cm.Alive I R) {e : Event} (he : cm.Enabled cfg e) : (cm.step cfg e).Alive I R := by
  have hlived := lived_step hk hc h he
  exact ⟨hlived.reads.sane, hlived.ready, fun i hi => hlived.living h hi⟩

theorem Sane.lt_created {cm : ConnectionManager σ} (h : cm.Sane I) {i : ℕ} {request : Metadata}
    (hi : cm.requests[i]? = some request) : i < cm.created := by
  rw [← h.requests]
  exact (List.getElem?_eq_some_iff.mp hi).1

theorem alive_new (hk : cfg.codec.Keeps I R) : (new cfg).Alive I R where
  sane :=
    { numbered := ⟨fun _ => rfl, fun w hw => by cases hw⟩
      codec := hk.init
      nodup := List.nodup_nil
      active := fun i hi => by cases hi
      requests := rfl
      stopped := rfl }
  ready := DecoderBase.ready_complete {}
  living := fun i hi => by cases hi

theorem alive_run (hk : cfg.codec.Keeps I R) (hc : cfg.RouterOnly) {es : List Event}
    (h : (system cfg).Admissible (new cfg) es) : ((system cfg).run (new cfg) es).Alive I R :=
  Transition.history (P := fun _ cm => cm.Alive I R) (alive_new hk)
    (fun _ _ _ he hcm => alive_step hk hc hcm he) es h

/-- Nothing more happens to a message that is finished : no handle and no connection comes back,
and nothing is written to its upstream. -/
theorem finished_run (hk : cfg.codec.Keeps I R) (hc : cfg.RouterOnly) {cm : ConnectionManager σ}
    (h : cm.Alive I R) {i : ℕ} (hi : i < cm.created) (hp : (cm.messages i).phase = .finished)
    {es : List Event} (hes : (system cfg).Admissible cm es) :
    (((system cfg).run cm es).messages i).writes = (cm.messages i).writes ∧
      ∀ host leftover, Event.poolReady i host leftover ∉ es := by
  suffices hall : ((system cfg).run cm es).Alive I R ∧
      cm.created ≤ ((system cfg).run cm es).created ∧
      (((system cfg).run cm es).messages i).phase = .finished ∧
      (((system cfg).run cm es).messages i).writes = (cm.messages i).writes ∧
      ∀ host leftover, Event.poolReady i host leftover ∉ es from hall.2.2.2
  refine Transition.history (P := fun es cm' => cm'.Alive I R ∧ cm.created ≤ cm'.created ∧
    (cm'.messages i).phase = .finished ∧ (cm'.messages i).writes = (cm.messages i).writes ∧
    ∀ host leftover, Event.poolReady i host leftover ∉ es)
    ⟨h, Nat.le_refl _, hp, rfl, fun _ _ hmem => by cases hmem⟩ (fun es e _ he hcm' => ?_) es hes
  generalize (system cfg).run cm es = cm' at he hcm' ⊢
  obtain ⟨halive, hcreated, hphase, hwrites, hnone⟩ := hcm'
  have hlived := lived_step hk hc halive he
  have hlt : i < cm'.created := Nat.lt_of_lt_of_le hi hcreated
  refine ⟨alive_step hk hc halive he, Nat.le_trans hcreated hlived.reads.created, ?_⟩
  by_cases hmessage : e.message = some i
  · obtain ⟨request, n, released, phase, hliving, hliving', hrow, hfate⟩ := hlived.own i hmessage
    cases e with
    | release j =>
      obtain ⟨-, -, rfl⟩ := hrow
      refine ⟨hfate.phase, (hfate.writes_eq (by rintro ⟨⟩) hliving hliving').trans hwrites,
        fun host leftover hmem => ?_⟩
      rcases List.mem_append.mp hmem with hmem | hmem
      · exact hnone host leftover hmem
      · cases List.mem_singleton.mp hmem
    | poolReady j host leftover => cases hphase.symm.trans hrow.1
    | poolFailure j reason host => cases hphase.symm.trans hrow.1
    | upstreamData j data endStream => cases hphase.symm.trans hrow.1
    | upstreamClose j event => cases hphase.symm.trans hrow.1
    | downstreamData data endStream => cases hrow
    | downstreamClose event => cases hrow
    | continueDecoding j position => cases hrow
    | continueEncoding j position => cases hrow
  · have hsame : ((cm'.step cfg e).messages i) = cm'.messages i :=
      hlived.reads.messages i hlt hmessage
    refine ⟨hsame ▸ hphase, hsame ▸ hwrites, fun host leftover hmem => ?_⟩
    rcases List.mem_append.mp hmem with hmem | hmem
    · exact hnone host leftover hmem
    · exact hmessage (List.mem_singleton.mp hmem ▸ rfl)

end ConnectionManager

end MetaProtocolProxy

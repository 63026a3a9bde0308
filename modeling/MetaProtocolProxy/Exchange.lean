import MetaProtocolProxy.FilterChain

/-!
# The exchange of a message

What the proxy owes a client can be said without flags and callbacks : an exchange waits
for the pool, then for its upstream, and is then finished (`Phase`). An event in its life
writes some answers to it and may release it from the list of active messages (`Does`).

`ActiveMessage.phase` reads the phase off the flags of a message, and `Coherent` says what
its other flags are in each phase, for a message whose only filter is the router. `I` and
`R` are what is known of the states of the codec and of the messages it accepts.
-/

namespace MetaProtocolProxy

variable {σ : Type}

/-! ## What an event does to a connection -/

/-- The writes that answer a message. -/
def Downstream.answers (i : ℕ) (d : Downstream σ) : List Write :=
  d.written.filter fun w => w.message = some i

/-- From `d` to `d'`, `n` answers to message `i` are written and, if `released`, it leaves
the list of active messages. Under `p` the process goes on, and once stopped it stays so. -/
structure Downstream.Does (p : Prop) (i n : ℕ) (released : Bool) (d d' : Downstream σ) : Prop where
  codec : d'.codec = d.codec
  state : d'.state = d.state
  written : ∃ ws, d'.written = d.written ++ ws ∧ ws.length = n ∧ ∀ w ∈ ws, w.message = some i
  active : d'.activeMessageList =
    if released then d.activeMessageList.erase i else d.activeMessageList
  fault : p → d'.fault = d.fault
  stopped : d.fault.isSome = true → d'.fault.isSome = true

/-- One answer, or none if the client is gone or the codec cannot encode it. -/
structure Downstream.One (p : Prop) (n : ℕ) (d : Downstream σ) : Prop where
  le : n ≤ 1
  gone : d.state ≠ .open → n = 0
  eq : p → d.state = .open → n = 1

namespace Downstream

variable {p : Prop} {i n n' : ℕ} {released : Bool} {d d' d'' : Downstream σ}

theorem One.of_state (h : One p n d) (hstate : d'.state = d.state) : One p n d' :=
  ⟨h.le, fun hne => h.gone (hstate ▸ hne), fun hp ho => h.eq hp (hstate ▸ ho)⟩

theorem Does.refl (p : Prop) (i : ℕ) (d : Downstream σ) : Does p i 0 false d d :=
  ⟨rfl, rfl, ⟨[], by simp⟩, rfl, fun _ => rfl, id⟩

/-- First the answers, then the release. -/
theorem Does.trans (h : Does p i n false d d') (h' : Does p i n' released d' d'') :
    Does p i (n + n') released d d'' := by
  obtain ⟨ws, hws, hn, hall⟩ := h.written
  obtain ⟨ws', hws', hn', hall'⟩ := h'.written
  have hactive : d'.activeMessageList = d.activeMessageList := h.active
  refine ⟨h'.codec.trans h.codec, h'.state.trans h.state, ⟨ws ++ ws', ?_, ?_, fun w hw => ?_⟩, ?_,
    fun hp => (h'.fault hp).trans (h.fault hp), fun hd => h'.stopped (h.stopped hd)⟩
  · rw [hws', hws, List.append_assoc]
  · rw [List.length_append, hn, hn']
  · rcases List.mem_append.mp hw with hw | hw
    · exact hall w hw
    · exact hall' w hw
  · rw [h'.active, hactive]

/-- What does nothing can come before or behind. -/
theorem Does.quiet (h : Does p i n released d d') (h' : Does p i 0 false d' d'') :
    Does p i n released d d'' := by
  obtain ⟨ws, hws, hn, hall⟩ := h.written
  obtain ⟨ws', hws', hn', -⟩ := h'.written
  obtain rfl : ws' = [] := List.eq_nil_of_length_eq_zero hn'
  refine ⟨h'.codec.trans h.codec, h'.state.trans h.state, ⟨ws, ?_, hn, hall⟩, ?_,
    fun hp => (h'.fault hp).trans (h.fault hp), fun hd => h'.stopped (h.stopped hd)⟩
  · rw [hws', hws, List.append_nil]
  · rw [← h.active]
    exact h'.active

theorem Does.after (h : Does p i 0 false d d') (h' : Does p i n released d' d'') :
    Does p i n released d d'' := by
  simpa using h.trans h'

theorem Does.release (h : Does p i n false d d') (h' : Does p i 0 released d' d'') :
    Does p i n released d d'' :=
  (h.trans h' : Does p i (n + 0) released d d'')

theorem Does.panic (h : Does p i n released d d') (site : String) :
    Does p i n released (d.panic site) (d'.panic site) :=
  ⟨h.codec, h.state, h.written, h.active, fun hp => by simp [Downstream.panic, h.fault hp],
    fun _ => rfl⟩

theorem does_inc (stat : Stat) (d : Downstream σ) : Does p i 0 false d (d.inc stat) :=
  ⟨rfl, rfl, ⟨[], by simp [inc]⟩, rfl, fun _ => rfl, id⟩

theorem does_dec (stat : Stat) (d : Downstream σ) : Does p i 0 false d (d.dec stat) :=
  ⟨rfl, rfl, ⟨[], by simp [dec]⟩, rfl, fun _ => rfl, id⟩

theorem does_write {w : Write} (h : w.message = some i) (d : Downstream σ) :
    Does p i 1 false d (d.write w) :=
  ⟨rfl, rfl, ⟨[w], rfl, rfl, by simpa using h⟩, rfl, fun _ => rfl, id⟩

theorem does_deferredMessage (i : ℕ) (d : Downstream σ) :
    Does p i 0 true d (d.deferredMessage i) := by
  unfold deferredMessage
  split
  · exact ⟨rfl, rfl, ⟨[], by simp⟩, rfl, fun _ => rfl, id⟩
  · rename_i hi
    exact ⟨rfl, rfl, ⟨[], by simp⟩, (List.erase_of_not_mem hi).symm, fun _ => rfl, id⟩

/-- The answers to the message, and to any other. -/
theorem Does.answers (h : Does p i n released d d') :
    (d'.answers i).length = (d.answers i).length + n := by
  obtain ⟨ws, hws, hn, hall⟩ := h.written
  have hfilter : ws.filter (fun w => w.message = some i) = ws :=
    List.filter_eq_self.mpr fun w hw => by simp [hall w hw]
  unfold Downstream.answers
  rw [hws, List.filter_append, hfilter, List.length_append, hn]

theorem Does.answers_other (h : Does p i n released d d') {j : ℕ} (hj : j ≠ i) :
    d'.answers j = d.answers j := by
  obtain ⟨ws, hws, -, hall⟩ := h.written
  have hfilter : ws.filter (fun w => w.message = some j) = [] := by
    refine List.filter_eq_nil_iff.mpr fun w hw => ?_
    rw [hall w hw]
    simpa using Ne.symm hj
  unfold Downstream.answers
  rw [hws, List.filter_append, hfilter, List.append_nil]

theorem Does.nodup (h : Does p i n released d d') (hn : d.activeMessageList.Nodup) :
    d'.activeMessageList.Nodup := by
  rw [h.active]
  split
  · exact hn.erase i
  · exact hn

theorem Does.mem_active (h : Does p i n released d d') {j : ℕ} (hj : j ∈ d'.activeMessageList) :
    j ∈ d.activeMessageList := by
  rw [h.active] at hj
  split at hj
  · exact List.mem_of_mem_erase hj
  · exact hj

theorem Does.not_mem_active (h : Does p i n true d d') (hn : d.activeMessageList.Nodup) :
    i ∉ d'.activeMessageList := by
  have hactive : d'.activeMessageList = d.activeMessageList.erase i := h.active
  exact hactive ▸ hn.not_mem_erase

/-- A message that is released twice is released. -/
theorem Does.again (h : Does p i n true d d') (h' : Does p i 0 released d' d'')
    (hn : d.activeMessageList.Nodup) : Does p i n true d d'' := by
  have hactive : d'.activeMessageList = d.activeMessageList.erase i := h.active
  obtain ⟨ws, hws, hlength, hall⟩ := h.written
  obtain ⟨ws', hws', hlength', -⟩ := h'.written
  obtain rfl : ws' = [] := List.eq_nil_of_length_eq_zero hlength'
  refine ⟨h'.codec.trans h.codec, h'.state.trans h.state, ⟨ws, ?_, hlength, hall⟩, ?_,
    fun hp => (h'.fault hp).trans (h.fault hp), fun hd => h'.stopped (h.stopped hd)⟩
  · rw [hws', hws, List.append_nil]
  · have hi : i ∉ d'.activeMessageList := hactive ▸ hn.not_mem_erase
    rw [h'.active, List.erase_of_not_mem hi, ite_self]
    exact hactive

end Downstream

/-! ## Where an exchange is -/

/-- An exchange waits for the pool, waits for its upstream, or waits for nothing. -/
inductive Phase where
  | pooling | waiting | finished
deriving DecidableEq, Repr

/-- A request that has no answer. -/
def Metadata.isOneway (metadata : Metadata) : Bool :=
  metadata.messageType = .oneway

namespace ActiveMessage

/-- What the flags of the upstream request say. -/
def phase (m : ActiveMessage σ) : Phase :=
  match m.router.upstreamRequest with
  | none => .finished
  | some r =>
    if r.connPoolHandle then .pooling
    else if r.connData.any (·.isOpen) then .waiting
    else .finished

/-- The type and the id of the request. -/
def kind (m : ActiveMessage σ) : Option (MessageType × UInt64) :=
  m.metadata.map fun metadata => (metadata.messageType, metadata.requestId)

/-- The connections the message has got from the pool : the one it holds, and those it has
given back or closed. -/
def connections (m : ActiveMessage σ) : List UpstreamConnection :=
  (m.router.upstreamRequest.bind (·.connData)).toList ++ m.router.returned ++ m.router.closed

/-- What was written to the upstream, by connection. -/
def writes (m : ActiveMessage σ) : List (List Bytes) :=
  m.connections.map (·.written)

/-- A message that waits for the pool is paused in its router, and has not moved its bytes
on. -/
structure Pools (o : Bytes) (m : ActiveMessage σ) (r : UpstreamRequest) : Prop where
  request : m.router.upstreamRequest = some r
  connPoolHandle : r.connPoolHandle = true
  connData : r.connData = none
  responseComplete : r.responseComplete = false
  responseStarted : r.responseStarted = false
  streamReset : r.streamReset = false
  responseDecoder : m.responseDecoder = none
  filterAction : m.filterAction = true
  pendingStreamDecoded : m.pendingStreamDecoded = true
  localResponseSent : m.localResponseSent = false
  originMessage : ∀ metadata, m.metadata = some metadata → metadata.originMessage = []
  upstreamRequestBuffer : m.router.upstreamRequestBuffer = o

/-- A response decoder that has not decoded a response. -/
structure Fresh (I : σ → Prop) (decoder : ActiveResponseDecoder σ) : Prop where
  codec : I decoder.codec
  ready : decoder.decoder.Ready
  responseStatus : decoder.responseStatus = .moreData

/-- A message holds an open connection, for a response that is not complete. -/
structure Holds (m : ActiveMessage σ) (r : UpstreamRequest) (c : UpstreamConnection) : Prop where
  request : m.router.upstreamRequest = some r
  connPoolHandle : r.connPoolHandle = false
  connData : r.connData = some c
  isOpen : c.isOpen = true
  upstreamHost : r.upstreamHost.isSome
  responseComplete : r.responseComplete = false
  streamReset : r.streamReset = false

/-- A message that waits for its upstream has a connection, and no response yet. -/
structure Waits (I : σ → Prop) (m : ActiveMessage σ) (r : UpstreamRequest)
    (c : UpstreamConnection) : Prop extends Holds m r c where
  responseStarted : r.responseStarted = m.responseDecoder.isSome
  responseDecoder : ∀ decoder, m.responseDecoder = some decoder → Fresh I decoder

/-- The flags of a message agree with its phase, and its bytes `o` have been written once, as
they are, or not at all. -/
structure Coherent (I : σ → Prop) (R : Metadata → Prop) (o : Bytes) (m : ActiveMessage σ) :
    Prop where
  metadata : ∃ metadata, m.metadata = some metadata ∧ R metadata
  filterComplete : m.router.filterComplete = false
  cancelled : m.router.cancelled ≤ 1
  writes : m.writes = [] ∨ m.writes = [[o]]
  pooling : m.phase = .pooling → ∃ r, m.Pools o r
  waiting : m.phase = .waiting → ∃ r c, m.Waits I r c
  unused : m.phase ≠ .finished →
    m.router.returned = [] ∧ m.router.closed = [] ∧ m.router.cancelled = 0

variable {I : σ → Prop} {R : Metadata → Prop} {o : Bytes} {m : ActiveMessage σ}
  {r : UpstreamRequest} {c : UpstreamConnection}

theorem Pools.phase (h : m.Pools o r) : m.phase = .pooling := by
  simp [ActiveMessage.phase, h.request, h.connPoolHandle]

theorem Holds.phase (h : m.Holds r c) : m.phase = .waiting := by
  simp [ActiveMessage.phase, h.request, h.connPoolHandle, h.connData, h.isOpen]

/-- While a message waits for the pool it has written nothing. -/
theorem Pools.writes (h : m.Pools o r) (hreturned : m.router.returned = [])
    (hclosed : m.router.closed = []) : m.writes = [] := by
  simp [ActiveMessage.writes, connections, h.request, h.connData, hreturned, hclosed]

theorem Holds.writes (h : m.Holds r c) (hreturned : m.router.returned = [])
    (hclosed : m.router.closed = []) : m.writes = [c.written] := by
  simp [ActiveMessage.writes, connections, h.request, h.connData, hreturned, hclosed]

theorem Pools.coherent (h : m.Pools o r) (hm : ∃ metadata, m.metadata = some metadata ∧ R metadata)
    (hf : m.router.filterComplete = false)
    (hu : m.router.returned = [] ∧ m.router.closed = [] ∧ m.router.cancelled = 0) :
    m.Coherent I R o where
  metadata := hm
  filterComplete := hf
  cancelled := by rw [hu.2.2]; exact Nat.zero_le 1
  writes := Or.inl (h.writes hu.1 hu.2.1)
  pooling _ := ⟨r, h⟩
  waiting hw := by rw [h.phase] at hw; cases hw
  unused _ := hu

theorem Waits.coherent (h : m.Waits I r c) (ho : c.written = [o])
    (hm : ∃ metadata, m.metadata = some metadata ∧ R metadata)
    (hf : m.router.filterComplete = false)
    (hu : m.router.returned = [] ∧ m.router.closed = [] ∧ m.router.cancelled = 0) :
    m.Coherent I R o where
  metadata := hm
  filterComplete := hf
  cancelled := by rw [hu.2.2]; exact Nat.zero_le 1
  writes := Or.inr (by rw [h.writes hu.1 hu.2.1, ho])
  pooling hp := by rw [h.phase] at hp; cases hp
  waiting _ := ⟨r, c, h⟩
  unused _ := hu

theorem coherent_of_finished (h : m.phase = .finished)
    (hm : ∃ metadata, m.metadata = some metadata ∧ R metadata)
    (hf : m.router.filterComplete = false) (hc : m.router.cancelled ≤ 1)
    (hw : m.writes = [] ∨ m.writes = [[o]]) : m.Coherent I R o where
  metadata := hm
  filterComplete := hf
  cancelled := hc
  writes := hw
  pooling hp := by rw [h] at hp; cases hp
  waiting hp := by rw [h] at hp; cases hp
  unused hp := absurd h hp

/-- A message that waits for its upstream has written its bytes. -/
theorem Coherent.written (h : m.Coherent I R o) (hw : m.Waits I r c) : c.written = [o] := by
  obtain ⟨hreturned, hclosed, -⟩ := h.unused (by rw [hw.phase]; decide)
  have hwrites := hw.toHolds.writes hreturned hclosed
  rcases h.writes with hnone | hone
  · rw [hwrites] at hnone
    cases hnone
  · rw [hwrites] at hone
    exact List.singleton_inj.mp hone

/-- A message never holds a handle and a connection at once. -/
theorem Coherent.exclusive (h : m.Coherent I R o) (hr : m.router.upstreamRequest = some r)
    (hh : r.connPoolHandle = true) : r.connData = none := by
  obtain ⟨r', hpools⟩ := h.pooling (by simp [ActiveMessage.phase, hr, hh])
  obtain rfl : r = r' := Option.some.inj (hr.symm.trans hpools.request)
  exact hpools.connData

/-- A message with a connection has had no other. -/
theorem Coherent.alone (h : m.Coherent I R o) (hr : m.router.upstreamRequest = some r)
    (hc : r.connData = some c) : m.router.returned = [] ∧ m.router.closed = [] := by
  have hwrites : m.writes = c.written ::
      (m.router.returned ++ m.router.closed).map (·.written) := by
    simp [ActiveMessage.writes, connections, hr, hc]
  rcases h.writes with hnone | hone
  · rw [hwrites] at hnone
    cases hnone
  · rw [hwrites] at hone
    have hrest := List.tail_eq_of_cons_eq hone
    rw [List.map_eq_nil_iff] at hrest
    exact List.append_eq_nil_iff.mp hrest

end ActiveMessage

namespace Stream

/-- What the phase of a message depends on is the same. -/
structure Same (s s' : Stream σ) : Prop where
  id : s'.message.id = s.message.id
  metadata : s'.message.metadata = s.message.metadata
  router : ∃ upstreamRequestBuffer, s'.message.router =
    { s.message.router with upstreamRequestBuffer }
  responseDecoder : s'.message.responseDecoder = s.message.responseDecoder

theorem Same.phase {s s' : Stream σ} (h : Same s s') : s'.message.phase = s.message.phase := by
  obtain ⟨buffer, hrouter⟩ := h.router
  unfold ActiveMessage.phase
  rw [hrouter]

theorem Same.kind {s s' : Stream σ} (h : Same s s') : s'.message.kind = s.message.kind := by
  unfold ActiveMessage.kind
  rw [h.metadata]

theorem Same.writes {s s' : Stream σ} (h : Same s s') :
    s'.message.writes = s.message.writes := by
  obtain ⟨buffer, hrouter⟩ := h.router
  unfold ActiveMessage.writes ActiveMessage.connections
  rw [hrouter]

theorem Same.cancelled {s s' : Stream σ} (h : Same s s') :
    s'.message.router.cancelled = s.message.router.cancelled := by
  obtain ⟨buffer, hrouter⟩ := h.router
  rw [hrouter]

/-- The flags of the filter chain matter only while the message waits for the pool. -/
theorem Same.coherent {I : σ → Prop} {R : Metadata → Prop} {o : Bytes} {s s' : Stream σ}
    (h : Same s s') (hs : s.message.Coherent I R o) (hne : s.message.phase ≠ .pooling) :
    s'.message.Coherent I R o := by
  obtain ⟨buffer, hrouter⟩ := h.router
  refine ⟨h.metadata ▸ hs.metadata, ?_, ?_, h.writes ▸ hs.writes,
    fun hp => absurd (h.phase.symm.trans hp) hne, fun hw => ?_, fun hu => ?_⟩
  · rw [hrouter]
    exact hs.filterComplete
  · rw [hrouter]
    exact hs.cancelled
  · obtain ⟨r, c, hwaits⟩ := hs.waiting (h.phase.symm.trans hw)
    refine ⟨r, c, ⟨?_, hwaits.connPoolHandle, hwaits.connData, hwaits.isOpen,
      hwaits.upstreamHost, hwaits.responseComplete, hwaits.streamReset⟩,
      h.responseDecoder ▸ hwaits.responseStarted, h.responseDecoder ▸ hwaits.responseDecoder⟩
    rw [hrouter]
    exact hwaits.request
  · rw [hrouter]
    exact hs.unused (h.phase ▸ hu)

/-- From `s` to `s'` the message writes `n` answers, is released or not, and comes to a
phase. It gets a connection only where it comes to wait for its upstream, and cancels a handle
only if it has one. -/
structure Turns (I : σ → Prop) (R : Metadata → Prop) (o : Bytes) (p : Prop) (n : ℕ)
    (released : Bool) (phase : Phase) (s s' : Stream σ) : Prop where
  id : s'.message.id = s.message.id
  kind : s'.message.kind = s.message.kind
  coherent : s'.message.Coherent I R o
  writes : s'.message.writes = [] ↔ s.message.writes = [] ∧ phase ≠ .waiting
  cancelled : s'.message.router.cancelled = s.message.router.cancelled ∨ s.message.phase = .pooling
  phase : s'.message.phase = phase
  does : s.downstream.Does p s.message.id n released s'.downstream

section Turns

variable {I : σ → Prop} {R : Metadata → Prop} {o : Bytes} {p : Prop} {n : ℕ} {released : Bool}
  {phase : Phase} {s s' s'' : Stream σ}

/-- The message may be prepared before. -/
theorem Turns.before (h : Turns I R o p n released phase s' s'')
    (hid : s'.message.id = s.message.id) (hkind : s'.message.kind = s.message.kind)
    (hwrites : s'.message.writes = s.message.writes)
    (hcancelled : s'.message.router.cancelled = s.message.router.cancelled)
    (hphase : s'.message.phase = .pooling → s.message.phase = .pooling)
    (hdoes : s.downstream.Does p s.message.id 0 false s'.downstream) :
    Turns I R o p n released phase s s'' where
  id := h.id.trans hid
  kind := h.kind.trans hkind
  coherent := h.coherent
  phase := h.phase
  writes := hwrites ▸ h.writes
  cancelled := h.cancelled.imp (fun heq => heq.trans hcancelled) hphase
  does := hdoes.after (hid ▸ h.does)

/-- The end of the filters, or a release, behind the answers. -/
theorem Turns.andThen (h : Turns I R o p n false phase s s') (hne : phase ≠ .pooling)
    (hsame : Same s' s'') (hdoes : s'.downstream.Does p s'.message.id 0 released s''.downstream) :
    Turns I R o p n released phase s s'' where
  id := hsame.id.trans h.id
  kind := hsame.kind.trans h.kind
  coherent := hsame.coherent h.coherent (h.phase ▸ hne)
  phase := hsame.phase.trans h.phase
  writes := hsame.writes ▸ h.writes
  cancelled := h.cancelled.imp_left fun heq => hsame.cancelled.trans heq
  does := h.does.release (h.id ▸ hdoes)

/-- What does nothing to the connection can come behind. -/
theorem Turns.quiet (h : Turns I R o p n released phase s s') (hne : phase ≠ .pooling)
    (hsame : Same s' s'') (hdoes : s'.downstream.Does p s'.message.id 0 false s''.downstream) :
    Turns I R o p n released phase s s'' where
  id := hsame.id.trans h.id
  kind := hsame.kind.trans h.kind
  coherent := hsame.coherent h.coherent (h.phase ▸ hne)
  phase := hsame.phase.trans h.phase
  writes := hsame.writes ▸ h.writes
  cancelled := h.cancelled.imp_left fun heq => hsame.cancelled.trans heq
  does := h.does.quiet (h.id ▸ hdoes)

/-- A message that is released already stays released. -/
theorem Turns.again (h : Turns I R o p n true phase s s') (hne : phase ≠ .pooling)
    (hsame : Same s' s'') (hdoes : s'.downstream.Does p s'.message.id 0 released s''.downstream)
    (hn : s.downstream.activeMessageList.Nodup) : Turns I R o p n true phase s s'' where
  id := hsame.id.trans h.id
  kind := hsame.kind.trans h.kind
  coherent := hsame.coherent h.coherent (h.phase ▸ hne)
  phase := hsame.phase.trans h.phase
  writes := hsame.writes ▸ h.writes
  cancelled := h.cancelled.imp_left fun heq => hsame.cancelled.trans heq
  does := h.does.again (h.id ▸ hdoes) hn

end Turns

end Stream

end MetaProtocolProxy

import MetaProtocolProxy.Exchange

/-!
# What an event does to an exchange

With the router as the only filter, everything that can happen to a message comes to one
row of a table : how many answers it writes, whether it releases the message and the
phase it leaves it in (`Turns`). There is a row for the birth of a message
(`turns_onStreamDecoded`), for the two callbacks of the pool (`turns_onPoolReady`,
`turns_onPoolFailure`), for data from the upstream and its close (`turns_onUpstreamData`,
`turns_upstreamClosed`) and for its destruction (`turns_destroy`).
-/

namespace MetaProtocolProxy

variable {σ : Type} {cfg : Config σ} {I : σ → Prop} {R : Metadata → Prop} {o : Bytes}

/-- The router is the only filter. -/
structure Config.RouterOnly (cfg : Config σ) : Prop where
  decoderFilters : cfg.decoderFilters = [.router]
  encoderFilters : cfg.encoderFilters = [.router]

/-- What the router finds for a message : a pool, or a reason to reject it. -/
def Config.pool (cfg : Config σ) (i : ℕ) (metadata : Metadata) : Option PoolStart :=
  (cfg.route i metadata).bind fun entry =>
    (cfg.getThreadLocalCluster i entry.clusterName).bind fun cluster =>
      if cluster.maintenanceMode then none else cluster.tcpConnPool

namespace Stream

open Downstream (Does One)

/-! ## Replies -/

/-- A local reply is one answer. -/
theorem does_sendLocalReply (cfg : Config σ) {d : Downstream σ} (hI : I d.codec)
    {metadata : Metadata}
    (hR : R metadata) (error : Error)
    (he : cfg.codec.Replies I R → error.message ≠ "") (i : ℕ) :
    ∃ n, One (cfg.codec.Replies I R) n d ∧
      d.Does (cfg.codec.Replies I R) i n false (d.sendLocalReply cfg i metadata error false) := by
  unfold Downstream.sendLocalReply
  by_cases hopen : d.state ≠ .open
  · rw [if_pos hopen]
    exact ⟨0, ⟨Nat.zero_le 1, fun _ => rfl, fun _ h => absurd h hopen⟩, .refl _ i d⟩
  rw [if_neg hopen]
  cases hr : cfg.codec.onError d.codec metadata error with
  | ok bytes =>
    exact ⟨1, ⟨Nat.le_refl 1, fun h => absurd h hopen, fun _ _ => rfl⟩,
      (Downstream.does_write rfl d).quiet (Downstream.does_inc _ _)⟩
  | error fault =>
    have hp : ¬cfg.codec.Replies I R := by
      intro hp
      obtain ⟨bytes, hbytes⟩ := hp.onError hI hR (he hp)
      rw [hr] at hbytes
      cases hbytes
    refine ⟨0, ⟨Nat.zero_le 1, fun _ => rfl, fun h => absurd h hp⟩, ?_⟩
    cases fault with
    | exception what => exact Downstream.does_inc _ _
    | panic site =>
      exact ⟨rfl, rfl, ⟨[], by simp [Downstream.panic]⟩, rfl, fun h => absurd h hp, fun _ => rfl⟩

theorem sendLocalReply_eq {s : Stream σ} (metadata : Metadata)
    (hm : s.message.metadata = some metadata) (error : Error) :
    s.sendLocalReply cfg error false =
      ⟨{ s.message with localResponseSent := true },
        s.downstream.sendLocalReply cfg s.message.id metadata error false⟩ := by
  unfold sendLocalReply
  rw [hm]
  rfl

/-- Every reason to give up a request has an error reply. -/
theorem resetReply_eq (cfg : Config σ) (reason : PoolFailureReason) {s : Stream σ}
    (hh : reason = .overflow ∨ (s.message.router.upstreamRequest.bind (·.upstreamHost)).isSome) :
    ∃ error : Error, error.message ≠ "" ∧
      s.resetReply cfg reason = s.sendLocalReply cfg error false := by
  cases reason
  case overflow => exact ⟨_, by decide, rfl⟩
  all_goals
    rcases hh with h | h
    · cases h
    · obtain ⟨host, hhost⟩ := Option.isSome_iff_exists.mp h
      simp only [resetReply, withHost, hhost]
      exact ⟨_, by simp, rfl⟩

/-- Giving up a request : a oneway request is released, any other gets an error reply. -/
theorem onResetStream_spec (cfg : Config σ) (reason : PoolFailureReason) {s : Stream σ}
    {metadata : Metadata} (hm : s.message.metadata = some metadata) (hR : R metadata)
    (hf : s.message.router.filterComplete = false) (hI : I s.downstream.codec)
    (hh : reason = .overflow ∨ (s.message.router.upstreamRequest.bind (·.upstreamHost)).isSome) :
    ∃ n d, s.onResetStream cfg reason = ⟨{ s.message with localResponseSent :=
        s.message.localResponseSent || !metadata.isOneway }, d⟩ ∧
      s.downstream.Does (cfg.codec.Replies I R) s.message.id n metadata.isOneway d ∧
      if metadata.isOneway then n = 0 else One (cfg.codec.Replies I R) n s.downstream := by
  unfold onResetStream
  rw [hm]
  by_cases ho : metadata.messageType = .oneway
  · have hone : metadata.isOneway = true := by simp [Metadata.isOneway, ho]
    refine ⟨0, s.downstream.deferredMessage s.message.id, ?_, ?_, ?_⟩
    · simp [ho, hone, resetStream, deferredMessage, onDownstream]
    · rw [hone]
      exact Downstream.does_deferredMessage _ _
    · rw [hone, if_pos rfl]
  · have hone : metadata.isOneway = false := by simp [Metadata.isOneway, ho]
    obtain ⟨error, he, hreply⟩ := resetReply_eq cfg reason hh
    obtain ⟨n, hn, hdoes⟩ := does_sendLocalReply cfg hI hR error (fun _ => he) s.message.id
    refine ⟨n, _, ?_, hone ▸ hdoes, ?_⟩
    · simp [ho, hone, hreply, sendLocalReply_eq metadata hm, hf]
    · rw [hone, if_neg (by simp)]
      exact hn

/-- Giving up a request that holds nothing. -/
theorem turns_onResetStream (cfg : Config σ) (reason : PoolFailureReason) {s : Stream σ}
    {metadata : Metadata} (hm : s.message.metadata = some metadata)
    (hs : s.message.Coherent I R o) (hp : s.message.phase = .finished) (hI : I s.downstream.codec)
    (hh : reason = .overflow ∨ (s.message.router.upstreamRequest.bind (·.upstreamHost)).isSome) :
    ∃ n, (if metadata.isOneway then n = 0 else One (cfg.codec.Replies I R) n s.downstream) ∧
      Turns I R o (cfg.codec.Replies I R) n metadata.isOneway .finished s
        (s.onResetStream cfg reason) ∧
      (s.onResetStream cfg reason).message = { s.message with localResponseSent :=
        s.message.localResponseSent || !metadata.isOneway } := by
  obtain ⟨metadata', hm', hR⟩ := hs.metadata
  rw [hm] at hm'
  cases hm'
  obtain ⟨n, d, heq, hdoes, hn⟩ := onResetStream_spec cfg reason hm hR hs.filterComplete hI hh
  rw [heq]
  refine ⟨n, hn, ⟨rfl, rfl, ?_, ?_, Or.inl rfl, hp, hdoes⟩, rfl⟩
  · exact ActiveMessage.coherent_of_finished hp hs.metadata hs.filterComplete hs.cancelled hs.writes
  · exact ⟨fun h => ⟨h, by rintro ⟨⟩⟩, fun h => h.1⟩

/-- The error of a response is answered, and the message released. -/
theorem onResponseException_spec (cfg : Config σ) {s : Stream σ} {metadata : Metadata}
    (hm : s.message.metadata = some metadata) (hR : R metadata) (hI : I s.downstream.codec)
    (what : String) (hwhat : cfg.codec.Replies I R → what ≠ "") :
    ∃ n d, s.onResponseException cfg what = ⟨{ s.message with localResponseSent := true }, d⟩ ∧
      s.downstream.Does (cfg.codec.Replies I R) s.message.id n true d ∧
      One (cfg.codec.Replies I R) n s.downstream := by
  have hinc := Downstream.does_inc (p := cfg.codec.Replies I R) (i := s.message.id)
    .responseDecodingError s.downstream
  obtain ⟨n, hone, hdoes⟩ := does_sendLocalReply cfg (d := s.downstream.inc .responseDecodingError)
    hI hR ⟨.badResponse, what⟩ hwhat s.message.id
  refine ⟨n, _, ?_, (hinc.after hdoes).release (Downstream.does_deferredMessage _ _),
    hone.of_state rfl⟩
  unfold onResponseException onError
  dsimp only
  rw [sendLocalReply_eq metadata (by simp [onMessage, inc, onDownstream, hm])]
  simp [onMessage, inc, onDownstream, deferredMessage, hm]

/-! ## The end of the decoder filters -/

/-- A message with a local reply or a oneway message is released. -/
theorem finalizeRequest_spec (p : Prop) {s : Stream σ} (metadata : Metadata)
    (hm : s.message.metadata = some metadata) :
    Same s (s.onMessage fun m => { m with filterAction := false }).finalizeRequest ∧
      s.downstream.Does p s.message.id 0 (s.message.localResponseSent || metadata.isOneway)
        (s.onMessage fun m => { m with filterAction := false }).finalizeRequest.downstream ∧
      (s.onMessage fun m => { m with filterAction := false }).finalizeRequest.message =
        { s.message with filterAction := false, pendingStreamDecoded := false } := by
  have hcount : ∀ t : Stream σ, ∃ d, t.countRequest metadata = ⟨t.message, d⟩ ∧
      t.downstream.Does p s.message.id 0 false d := by
    intro t
    unfold countRequest
    split
    · exact ⟨_, rfl, Downstream.does_inc _ _⟩
    · exact ⟨_, rfl, Downstream.does_inc _ _⟩
    · exact ⟨_, rfl, .refl _ _ _⟩
  obtain ⟨d, hd, hdoes⟩ := hcount ((s.onMessage fun m =>
    { m with filterAction := false, pendingStreamDecoded := false }).inc .request)
  have hbefore : s.downstream.Does p s.message.id 0 false d :=
    (Downstream.does_inc .request s.downstream).after hdoes
  unfold finalizeRequest
  simp only [onMessage, inc, onDownstream, hm] at hd ⊢
  rw [hd]
  cases hr : s.message.localResponseSent || metadata.isOneway with
  | true =>
    have hcond : s.message.localResponseSent = true ∨ metadata.messageType = .oneway := by
      simpa [Metadata.isOneway] using hr
    rw [if_pos hcond]
    exact ⟨⟨rfl, hm.symm ▸ rfl, ⟨_, rfl⟩, rfl⟩,
      hbefore.after (Downstream.does_deferredMessage _ _), rfl⟩
  | false =>
    have hcond : ¬(s.message.localResponseSent = true ∨ metadata.messageType = .oneway) := by
      simpa [Metadata.isOneway] using hr
    rw [if_neg hcond]
    exact ⟨⟨rfl, hm.symm ▸ rfl, ⟨_, rfl⟩, rfl⟩, hbefore, rfl⟩

/-- A message that goes on behind its router has come to the end of its filters. -/
theorem continueDecoding_eq (hc : cfg.RouterOnly) {s : Stream σ} {metadata : Metadata}
    (hm : s.message.metadata = some metadata) (ho : metadata.originMessage = [])
    (hf : s.message.filterAction = true) (hp : s.message.pendingStreamDecoded = true) :
    s.continueDecoding cfg 0 =
      (true, (s.onMessage fun m => { m with filterAction := false }).finalizeRequest) := by
  have happly : s.applyDecoderFilters cfg 1 =
      (.continue, s.onMessage fun m => { m with filterAction := false }) := by
    unfold applyDecoderFilters
    rw [if_neg (by simp [hf]), hc.decoderFilters]
    split
    · rfl
    · rfl
  unfold continueDecoding
  rw [hm]
  simp [ho, commonPrefix, happly, onMessage, hp]

/-! ## The pool -/

/-- A message with a connection that nothing has been written to. -/
structure Connects (I : σ → Prop) (R : Metadata → Prop) (o : Bytes) (m : ActiveMessage σ) :
    Prop where
  metadata : ∃ metadata, m.metadata = some metadata ∧ R metadata
  filterComplete : m.router.filterComplete = false
  unused : m.router.returned = [] ∧ m.router.closed = [] ∧ m.router.cancelled = 0
  upstreamRequestBuffer : m.router.upstreamRequestBuffer = o
  waits : ∃ r c, m.Waits I r c ∧ c.written = []

/-- A connection of the pool, for a request that has seen nothing of its response. -/
theorem connects_onPoolReadyConnection {s : Stream σ} {r : UpstreamRequest}
    (hr : s.message.router.upstreamRequest = some r) (hcomplete : r.responseComplete = false)
    (hreset : r.streamReset = false) (hstarted : r.responseStarted = false)
    (hdecoder : s.message.responseDecoder = none)
    (hm : ∃ metadata, s.message.metadata = some metadata ∧ R metadata)
    (hf : s.message.router.filterComplete = false)
    (hu : s.message.router.returned = [] ∧ s.message.router.closed = [] ∧
      s.message.router.cancelled = 0)
    (ho : s.message.router.upstreamRequestBuffer = o) (host : Host) (leftover : Bytes) :
    Connects I R o (s.onPoolReadyConnection host leftover).message := by
  refine ⟨hm, hf, hu, ho,
    { r with
      upstreamHost := some host, connData := some { buffer := leftover }, connPoolHandle := false },
    { buffer := leftover },
    ⟨⟨?_, rfl, rfl, rfl, rfl, hcomplete, hreset⟩, ?_, fun decoder h => ?_⟩, rfl⟩
  · simp [onPoolReadyConnection, onUpstreamHostSelected, onRequest, onRouter, onMessage, hr]
  · change r.responseStarted = s.message.responseDecoder.isSome
    rw [hstarted, hdecoder]
    rfl
  · change s.message.responseDecoder = some decoder at h
    rw [hdecoder] at h
    cases h

/-- With a connection, and no handle, the bytes of the request are written. -/
theorem turns_encodeData {p : Prop} {released : Bool} (s' : Stream σ) {s : Stream σ}
    (h : Connects I R o s.message) (hid : s.message.id = s'.message.id)
    (hkind : s.message.kind = s'.message.kind) (hcancelled : s'.message.router.cancelled = 0)
    (hdoes : s'.downstream.Does p s'.message.id 0 released s.downstream) :
    Turns I R o p 0 released .waiting s' s.onRequestComplete.encodeData := by
  obtain ⟨hm, hf, hu, ho, r, c, hw, hwritten⟩ := h
  have heq : s.onRequestComplete.encodeData = ⟨{ s.message with router :=
      { s.message.router with
        upstreamRequest :=
          some { r with requestComplete := true, connData := some { c with written := [o] } }
        upstreamRequestBuffer := [] } }, s.downstream⟩ := by
    simp [onRequestComplete, encodeData, onRequest, onRouter, onMessage, assert, onDownstream,
      Downstream.assert, hw.request, hw.connData, hw.connPoolHandle, hw.isOpen, ho, hwritten]
  rw [heq]
  have hwaits : ({ s.message with router :=
      { s.message.router with
        upstreamRequest :=
          some { r with requestComplete := true, connData := some { c with written := [o] } }
        upstreamRequestBuffer := [] } } : ActiveMessage σ).Waits I
      { r with requestComplete := true, connData := some { c with written := [o] } }
      { c with written := [o] } :=
    ⟨⟨rfl, hw.connPoolHandle, rfl, hw.isOpen, hw.upstreamHost, hw.responseComplete,
      hw.streamReset⟩, hw.responseStarted, hw.responseDecoder⟩
  refine ⟨hid, hkind, hwaits.coherent rfl hm hf hu, ?_, Or.inl (hu.2.2.trans hcancelled.symm),
    hwaits.phase, hdoes⟩
  rw [hwaits.writes hu.1 hu.2.1]
  simp

/-- The failure of the pool, before anything goes on. -/
theorem turns_onPoolFailureReset (cfg : Config σ) (o : Bytes) {s : Stream σ} {r : UpstreamRequest}
    {metadata : Metadata}
    (hr : s.message.router.upstreamRequest = some r) (hconnection : r.connData = none)
    (hm : s.message.metadata = some metadata) (hR : R metadata) (hI : I s.downstream.codec)
    (hf : s.message.router.filterComplete = false)
    (hu : s.message.router.returned = [] ∧ s.message.router.closed = [] ∧
      s.message.router.cancelled = 0) (reason : PoolFailureReason) (host : Host) :
    ∃ n, (if metadata.isOneway then n = 0 else One (cfg.codec.Replies I R) n s.downstream) ∧
      Turns I R o (cfg.codec.Replies I R) n metadata.isOneway .finished s
        (s.onPoolFailureReset cfg reason host) ∧
      ∃ router, (s.onPoolFailureReset cfg reason host).message =
        { s.message with
          router, localResponseSent := s.message.localResponseSent || !metadata.isOneway } := by
  have hwrites : s.message.writes = [] := by
    simp [ActiveMessage.writes, ActiveMessage.connections, hr, hconnection, hu.1, hu.2.1]
  obtain ⟨t, ht⟩ : ∃ t, t = (s.onRequest fun r => { r with connPoolHandle := false }
    ).onUpstreamHostSelected host := ⟨_, rfl⟩
  have hselected : t = ⟨{ s.message with router :=
      { s.message.router with
        upstreamRequest := some { r with connPoolHandle := false, upstreamHost := some host } } },
      s.downstream⟩ := by
    simp [ht, onUpstreamHostSelected, onRequest, onRouter, onMessage, hr]
  have hphase : t.message.phase = .finished := by
    simp [hselected, ActiveMessage.phase, hconnection]
  have htwrites : t.message.writes = s.message.writes := by
    rw [hwrites]
    simp [hselected, ActiveMessage.writes, ActiveMessage.connections, hconnection, hu.1, hu.2.1]
  have hcoherent : t.message.Coherent I R o := by
    refine ActiveMessage.coherent_of_finished hphase ?_ ?_ ?_ (Or.inl (htwrites.trans hwrites))
    · rw [hselected]
      exact ⟨metadata, hm, hR⟩
    · rw [hselected]
      exact hf
    · simp [hselected, hu.2.2]
  have hdown : t.downstream = s.downstream := by rw [hselected]
  have hmetadata : t.message.metadata = some metadata := by rw [hselected]; exact hm
  obtain ⟨n, hn, hturns, hmessage⟩ := turns_onResetStream cfg reason
    hmetadata hcoherent hphase (hdown ▸ hI) (Or.inr (by simp [hselected]))
  unfold onPoolFailureReset
  dsimp only
  rw [← ht]
  refine ⟨n, hdown ▸ hn, ?_, ?_⟩
  · have hbefore := hturns.before (s := s) (by rw [hselected]) (by rw [hselected]; rfl) htwrites
      (by rw [hselected]) (by rw [hphase]; rintro ⟨⟩) (hdown ▸ .refl _ _ _)
    exact hbefore.quiet (by rintro ⟨⟩) ⟨rfl, rfl, ⟨[], rfl⟩, rfl⟩ (.refl _ _ _)
  · simp only [onRouter, onMessage, hmessage]
    rw [hselected]
    exact ⟨_, rfl⟩

/-! ## The birth of a message -/

/-- The router rejects a message with an error reply, or starts a request with a pool. -/
theorem routerOnMessageDecoded_spec (cfg : Config σ) {s : Stream σ} {metadata : Metadata}
    (hm : s.message.metadata = some metadata) (hr : s.message.cachedRoute = none) :
    match cfg.pool s.message.id metadata with
    | none => ∃ error : Error, error.message ≠ "" ∧ s.routerOnMessageDecoded cfg =
        (.stopIteration, (⟨{ s.message with cachedRoute := some (cfg.route s.message.id metadata) },
          s.downstream⟩ : Stream σ).sendLocalReply cfg error false)
    | some pool => s.routerOnMessageDecoded cfg =
        (⟨{ s.message with cachedRoute := some (cfg.route s.message.id metadata) },
          s.downstream⟩ : Stream σ).routeTo cfg pool metadata := by
  have hroute : s.route cfg = (cfg.route s.message.id metadata,
      ⟨{ s.message with cachedRoute := some (cfg.route s.message.id metadata) },
        s.downstream⟩) := by
    unfold route
    rw [hr, hm]
    rfl
  unfold routerOnMessageDecoded Config.pool
  rw [hm, hroute]
  cases hentry : cfg.route s.message.id metadata with
  | none => exact ⟨_, by simp, rfl⟩
  | some entry =>
    simp only [Option.bind_some]
    cases cfg.getThreadLocalCluster s.message.id entry.clusterName with
    | none => exact ⟨_, by simp, rfl⟩
    | some cluster =>
      simp only [Option.bind_some]
      cases hmaintenance : cluster.maintenanceMode with
      | true => exact ⟨_, by simp, rfl⟩
      | false =>
        simp only [Bool.false_eq_true, if_false]
        cases cluster.tcpConnPool with
        | none => exact ⟨_, by simp, rfl⟩
        | some pool => rfl

/-- What the birth of message `i` comes to, with `n` answers. -/
def BirthRow (cfg : Config σ) (p : Prop) (i : ℕ) (metadata : Metadata) (d : Downstream σ) (n : ℕ)
    (released : Bool) (phase : Phase) : Prop :=
  match cfg.pool i metadata with
  | none => One p n d ∧ released = true ∧ phase = .finished
  | some .pending => n = 0 ∧ released = false ∧ phase = .pooling
  | some (.ready _ _) => n = 0 ∧ released = metadata.isOneway ∧ phase = .waiting
  | some (.overflow _) =>
    (if metadata.isOneway then n = 0 else One p n d) ∧ released = true ∧ phase = .finished

/-- Where the client is gone, no message is answered. -/
theorem BirthRow.gone {p : Prop} {i : ℕ} {metadata : Metadata} {d : Downstream σ} {n : ℕ}
    {released : Bool} {phase : Phase} (h : BirthRow cfg p i metadata d n released phase)
    (hne : d.state ≠ .open) : n = 0 := by
  unfold BirthRow at h
  split at h
  · exact h.1.gone hne
  · exact h.1
  · exact h.1
  · obtain ⟨hn, -⟩ := h
    split at hn
    · exact hn
    · exact hn.gone hne

/-- A message waits for its upstream from its birth if the pool is ready at once. -/
theorem BirthRow.waiting_iff {p : Prop} {i : ℕ} {metadata : Metadata} {d : Downstream σ} {n : ℕ}
    {released : Bool} {phase : Phase} (h : BirthRow cfg p i metadata d n released phase) :
    phase = .waiting ↔ ∃ host leftover, cfg.pool i metadata = some (.ready host leftover) := by
  unfold BirthRow at h
  split at h <;> rename_i hpool <;> rw [hpool]
  · obtain ⟨-, -, rfl⟩ := h
    exact ⟨by rintro ⟨⟩, by rintro ⟨_, _, ⟨⟩⟩⟩
  · obtain ⟨-, -, rfl⟩ := h
    exact ⟨by rintro ⟨⟩, by rintro ⟨_, _, ⟨⟩⟩⟩
  · obtain ⟨-, -, rfl⟩ := h
    exact ⟨fun _ => ⟨_, _, rfl⟩, fun _ => rfl⟩
  · obtain ⟨-, -, rfl⟩ := h
    exact ⟨by rintro ⟨⟩, by rintro ⟨_, _, ⟨⟩⟩⟩

theorem BirthRow.of_overflow {p : Prop} {i : ℕ} {metadata : Metadata} {d : Downstream σ} {n : ℕ}
    {released : Bool} {phase : Phase} (h : BirthRow cfg p i metadata d n released phase)
    {host : Host} (hpool : cfg.pool i metadata = some (.overflow host)) : phase = .finished := by
  unfold BirthRow at h
  rw [hpool] at h
  exact h.2.2

/-- A message that is decoded, at its router. -/
def born (i : ℕ) (metadata : Metadata) (d : Downstream σ) : Stream σ :=
  ⟨{ id := i, metadata := some metadata, filterAction := true, decoderCalls := [0] },
    d.inc .requestDecodingSuccess⟩

/-- What follows the router, when it is the only filter. -/
def afterRouter (status : FilterStatus) (t : Stream σ) : Stream σ :=
  match status, t.message.localResponseSent with
  | .stopIteration, false => t.onMessage fun m => { m with pendingStreamDecoded := true }
  | .retry, false => t.finalizeRequest
  | _, _ => (t.onMessage fun m => { m with filterAction := false }).finalizeRequest

theorem onStreamDecoded_eq (hc : cfg.RouterOnly) {i : ℕ} {metadata : Metadata} {d : Downstream σ}
    {status : FilterStatus} {t : Stream σ}
    (h : (born i metadata d).routerOnMessageDecoded cfg = (status, t)) :
    (⟨{ id := i }, d⟩ : Stream σ).onStreamDecoded cfg metadata = afterRouter status t := by
  unfold born at h
  unfold onStreamDecoded applyDecoderFilters afterRouter
  simp only [inc, onDownstream, onMessage, commonPrefix, hc.decoderFilters, List.drop_zero,
    decoderFilterLoop, filterOnMessageDecoded, List.nil_append, h, Bool.true_eq_false,
    Bool.false_eq_true, if_false]
  cases status <;> cases hsent : t.message.localResponseSent <;> simp [hsent]

/-- A message whose bytes are on their way to a pool. -/
def requested (cfg : Config σ) (i : ℕ) (metadata : Metadata) (d : Downstream σ) : Stream σ :=
  ⟨{ id := i, metadata := some { metadata with originMessage := [] }, filterAction := true,
     decoderCalls := [0], cachedRoute := some (cfg.route i metadata),
     router := { upstreamRequest := some {}, upstreamRequestBuffer := metadata.originMessage } },
    d.inc .requestDecodingSuccess⟩

/-- A message that no pool takes is answered and released. -/
theorem turns_rejected (hc : cfg.RouterOnly) {d : Downstream σ} (hI : I d.codec)
    {metadata : Metadata} (hR : R metadata) {i : ℕ} (hpool : cfg.pool i metadata = none) :
    ∃ n, One (cfg.codec.Replies I R) n d ∧
      Turns I R o (cfg.codec.Replies I R) n true .finished
        ⟨{ id := i, metadata := some metadata }, d⟩
        ((⟨{ id := i }, d⟩ : Stream σ).onStreamDecoded cfg metadata) := by
  have hspec := routerOnMessageDecoded_spec cfg (s := born i metadata d) rfl rfl
  rw [show (born i metadata d).message.id = i from rfl, hpool] at hspec
  obtain ⟨error, he, hrejected⟩ := hspec
  rw [sendLocalReply_eq metadata rfl] at hrejected
  have hinc := Downstream.does_inc (p := cfg.codec.Replies I R) (i := i) .requestDecodingSuccess d
  obtain ⟨n, hone, hreply⟩ := does_sendLocalReply cfg
    (d := d.inc .requestDecodingSuccess) hI hR error (fun _ => he) i
  rw [onStreamDecoded_eq hc hrejected]
  refine ⟨n, hone.of_state rfl, ?_⟩
  obtain ⟨t, ht⟩ : ∃ t : Stream σ, t = ⟨{ (born i metadata d).message with
      cachedRoute := some (cfg.route i metadata), localResponseSent := true },
    (born i metadata d).downstream.sendLocalReply cfg i metadata error false⟩ := ⟨_, rfl⟩
  have hsent : Turns I R o (cfg.codec.Replies I R) n false .finished
      ⟨{ id := i, metadata := some metadata }, d⟩ t := by
    subst ht
    refine ⟨rfl, rfl, ?_, ⟨fun _ => ⟨rfl, by rintro ⟨⟩⟩, fun _ => rfl⟩, Or.inl rfl, rfl,
      hinc.after hreply⟩
    exact ActiveMessage.coherent_of_finished rfl ⟨metadata, rfl, hR⟩ rfl (Nat.zero_le 1)
      (Or.inl rfl)
  obtain ⟨hsame, hend, -⟩ := finalizeRequest_spec (cfg.codec.Replies I R) (s := t) metadata
    (by rw [ht]; rfl)
  rw [show t.message.localResponseSent = true by rw [ht]] at hend
  have hfinal := hsent.andThen (by rintro ⟨⟩) hsame hend
  rw [ht] at hfinal
  exact hfinal

/-- The birth of a message. -/
theorem turns_onStreamDecoded (hk : cfg.codec.Keeps I R) (hc : cfg.RouterOnly) {d : Downstream σ}
    (hI : I d.codec) {metadata : Metadata} (hR : R metadata) (hn : d.activeMessageList.Nodup)
    (i : ℕ) :
    ∃ n released phase, BirthRow cfg (cfg.codec.Replies I R) i metadata d n released phase ∧
      Turns I R metadata.originMessage (cfg.codec.Replies I R) n released phase
        ⟨{ id := i, metadata := some metadata }, d⟩
        ((⟨{ id := i }, d⟩ : Stream σ).onStreamDecoded cfg metadata) := by
  unfold BirthRow
  cases hpool : cfg.pool i metadata with
  | none =>
    obtain ⟨n, hone, hturns⟩ := turns_rejected (o := metadata.originMessage) hc hI hR hpool
    exact ⟨n, true, .finished, ⟨hone, rfl, rfl⟩, hturns⟩
  | some pool =>
    have hspec := routerOnMessageDecoded_spec cfg (s := born i metadata d) rfl rfl
    rw [show (born i metadata d).message.id = i from rfl, hpool] at hspec
    replace hspec : (born i metadata d).routerOnMessageDecoded cfg =
      (requested cfg i metadata d).startRequest cfg pool := hspec
    have hinc := Downstream.does_inc (p := cfg.codec.Replies I R) (i := i) .requestDecodingSuccess d
    have hmoved := hk.originMessage hR []
    cases pool with
    | pending =>
      rw [onStreamDecoded_eq hc hspec]
      refine ⟨0, false, .pooling, ⟨rfl, rfl, rfl⟩, rfl, rfl, ?_,
        ⟨fun _ => ⟨rfl, by rintro ⟨⟩⟩, fun _ => rfl⟩, Or.inl rfl, rfl, hinc⟩
      refine ActiveMessage.Pools.coherent (r := { connPoolHandle := true }) ?_ ⟨_, rfl, hmoved⟩ rfl
        ⟨rfl, rfl, rfl⟩
      refine ⟨rfl, rfl, rfl, rfl, rfl, rfl, rfl, rfl, rfl, rfl, ?_, rfl⟩
      rintro _ ⟨⟩
      rfl
    | ready host leftover =>
      rw [onStreamDecoded_eq hc hspec]
      refine ⟨0, metadata.isOneway, .waiting, ⟨rfl, rfl, rfl⟩, ?_⟩
      have hconnects := connects_onPoolReadyConnection (I := I) (s := requested cfg i metadata d)
        rfl rfl rfl rfl rfl ⟨_, rfl, hmoved⟩ rfl ⟨rfl, rfl, rfl⟩ rfl host leftover
      have hturns := turns_encodeData ⟨{ id := i, metadata := some metadata }, d⟩ hconnects rfl rfl
        rfl hinc
      obtain ⟨hsame, hend, -⟩ := finalizeRequest_spec (cfg.codec.Replies I R)
        (s := ((requested cfg i metadata d).onPoolReadyConnection host leftover
          ).onRequestComplete.encodeData) { metadata with originMessage := [] } rfl
      exact hturns.andThen (by rintro ⟨⟩) hsame hend
    | overflow host =>
      rw [onStreamDecoded_eq hc hspec]
      obtain ⟨n, hone, hturns, router, hmessage⟩ := turns_onPoolFailureReset cfg
        metadata.originMessage (s := requested cfg i metadata d) rfl rfl rfl hmoved hI rfl
        ⟨rfl, rfl, rfl⟩ .overflow host
      have hbefore := hturns.before (s := ⟨{ id := i, metadata := some metadata }, d⟩) rfl rfl rfl
        rfl (by rintro ⟨⟩) hinc
      obtain ⟨hsame, hend, -⟩ := finalizeRequest_spec (cfg.codec.Replies I R)
        (s := (requested cfg i metadata d).onPoolFailureReset cfg .overflow host)
        { metadata with originMessage := [] } (by rw [hmessage]; rfl)
      have hsent : ((requested cfg i metadata d).onPoolFailureReset cfg .overflow host
          ).message.localResponseSent = !metadata.isOneway := by
        rw [hmessage]
        rfl
      rw [hsent] at hend
      replace hone : if metadata.isOneway then n = 0 else One (cfg.codec.Replies I R) n d := by
        split at hone
        · rwa [if_pos ‹_›]
        · rw [if_neg ‹_›]
          exact hone.of_state rfl
      refine ⟨n, true, .finished, ⟨hone, rfl, rfl⟩, ?_⟩
      replace hbefore : Turns I R metadata.originMessage (cfg.codec.Replies I R) n metadata.isOneway
        .finished ⟨{ id := i, metadata := some metadata }, d⟩
          ((requested cfg i metadata d).onPoolFailureReset cfg .overflow host) := hbefore
      change (requested cfg i metadata d).onPoolFailureReset cfg .overflow host
        |>.downstream.Does _ _ 0 (!metadata.isOneway || metadata.isOneway) _ at hend
      cases hone' : metadata.isOneway with
      | true =>
        rw [hone'] at hbefore
        exact hbefore.again (by rintro ⟨⟩) hsame hend hn
      | false =>
        rw [hone'] at hbefore hend
        exact hbefore.andThen (by rintro ⟨⟩) hsame hend

/-! ## The callbacks of the pool -/

/-- A message with a handle gets its connection, and comes to the end of its filters. -/
theorem onPoolReady_spec (p : Prop) (hc : cfg.RouterOnly) {s : Stream σ} {metadata : Metadata}
    (hm : s.message.metadata = some metadata) (hs : s.message.Coherent I R o)
    (hp : s.message.phase = .pooling) (host : Host) (leftover : Bytes) :
    ∃ s', (s.onPoolReadyConnection host leftover).continueDecoding cfg 0 = (true, s') ∧
      Connects I R o s'.message ∧ s'.message.id = s.message.id ∧
      s'.message.kind = s.message.kind ∧
      s.downstream.Does p s.message.id 0 metadata.isOneway s'.downstream := by
  obtain ⟨r, hpools⟩ := hs.pooling hp
  obtain ⟨m', hconnected⟩ : ∃ m', m' = (s.onPoolReadyConnection host leftover).message := ⟨_, rfl⟩
  have hconnects := connects_onPoolReadyConnection (I := I) hpools.request hpools.responseComplete
    hpools.streamReset hpools.responseStarted hpools.responseDecoder hs.metadata hs.filterComplete
    (hs.unused (by rw [hp]; decide)) hpools.upstreamRequestBuffer host leftover
  have hcontinue := continueDecoding_eq hc (s := s.onPoolReadyConnection host leftover) hm
    (hpools.originMessage metadata hm) hpools.filterAction hpools.pendingStreamDecoded
  obtain ⟨hsame, hend, hmessage⟩ := finalizeRequest_spec p
    (s := s.onPoolReadyConnection host leftover) metadata hm
  refine ⟨_, hcontinue, ?_, hsame.id, hsame.kind, ?_⟩
  · rw [hmessage]
    obtain ⟨hm', hf, hu, ho, r', c, hw, hwritten⟩ := hconnects
    exact ⟨hm', hf, hu, ho, r', c, ⟨⟨hw.request, hw.connPoolHandle, hw.connData, hw.isOpen,
      hw.upstreamHost, hw.responseComplete, hw.streamReset⟩, hw.responseStarted,
      hw.responseDecoder⟩, hwritten⟩
  · rw [show (s.onPoolReadyConnection host leftover).message.localResponseSent = false from
      hpools.localResponseSent] at hend
    exact hend

/-- The pool fails before it says so. -/
theorem turns_overflow (cfg : Config σ) {s : Stream σ} {metadata : Metadata}
    (hm : s.message.metadata = some metadata) (hs : s.message.Coherent I R o)
    (hp : s.message.phase = .pooling) (hI : I s.downstream.codec) (reason : PoolFailureReason)
    (host : Host) :
    ∃ n, (if metadata.isOneway then n = 0 else One (cfg.codec.Replies I R) n s.downstream) ∧
      Turns I R o (cfg.codec.Replies I R) n metadata.isOneway .finished s
        (s.onPoolFailureReset cfg reason host) ∧
      ∃ router, (s.onPoolFailureReset cfg reason host).message =
        { s.message with
          router, localResponseSent := s.message.localResponseSent || !metadata.isOneway } := by
  obtain ⟨r, hpools⟩ := hs.pooling hp
  obtain ⟨metadata', hm', hR⟩ := hs.metadata
  rw [hm] at hm'
  cases hm'
  exact turns_onPoolFailureReset cfg o hpools.request hpools.connData hm hR hI hs.filterComplete
    (hs.unused (by rw [hp]; decide)) reason host

/-- A connection error of the pool goes on with the filters, which releases the message. -/
theorem turns_onPoolFailure (hc : cfg.RouterOnly) {s : Stream σ} {metadata : Metadata}
    (hm : s.message.metadata = some metadata) (hs : s.message.Coherent I R o)
    (hp : s.message.phase = .pooling) (hI : I s.downstream.codec)
    (hn : s.downstream.activeMessageList.Nodup) (reason : PoolFailureReason) (host : Host) :
    ∃ n s', (s.onPoolFailureReset cfg reason host).continueDecoding cfg 0 = (true, s') ∧
      (if metadata.isOneway then n = 0 else One (cfg.codec.Replies I R) n s.downstream) ∧
      Turns I R o (cfg.codec.Replies I R) n true .finished s s' := by
  obtain ⟨r, hpools⟩ := hs.pooling hp
  obtain ⟨n, hone, hturns, router, hmessage⟩ := turns_overflow cfg hm hs hp hI reason host
  have hm' : (s.onPoolFailureReset cfg reason host).message.metadata = some metadata := by
    rw [hmessage]
    exact hm
  have hcontinue := continueDecoding_eq hc hm' (hpools.originMessage metadata hm)
    (by rw [hmessage]; exact hpools.filterAction)
    (by rw [hmessage]; exact hpools.pendingStreamDecoded)
  obtain ⟨hsame, hend, -⟩ := finalizeRequest_spec (cfg.codec.Replies I R) metadata hm'
  have hsent : (s.onPoolFailureReset cfg reason host).message.localResponseSent =
      !metadata.isOneway := by
    rw [hmessage]
    change (s.message.localResponseSent || !metadata.isOneway) = _
    rw [hpools.localResponseSent, Bool.false_or]
  rw [hsent] at hend
  refine ⟨n, _, hcontinue, hone, ?_⟩
  cases hone' : metadata.isOneway with
  | true =>
    rw [hone'] at hturns
    exact hturns.again (by rintro ⟨⟩) hsame hend hn
  | false =>
    rw [hone'] at hturns hend
    exact hturns.andThen (by rintro ⟨⟩) hsame hend

/-! ## The upstream -/

/-- The upstream connection is closed. -/
theorem turns_upstreamClosed {s : Stream σ} {metadata : Metadata}
    (hm : s.message.metadata = some metadata) (hs : s.message.Coherent I R o)
    (hp : s.message.phase = .waiting) (hI : I s.downstream.codec) (event : ConnectionEvent) :
    ∃ n, (if metadata.isOneway then n = 0 else One (cfg.codec.Replies I R) n s.downstream) ∧
      Turns I R o (cfg.codec.Replies I R) n metadata.isOneway .finished s
        (s.upstreamClosed cfg event) := by
  obtain ⟨r, c, hw⟩ := hs.waiting hp
  obtain ⟨hreturned, hclosed, hcancelled⟩ := hs.unused (by rw [hp]; decide)
  obtain ⟨t, ht⟩ : ∃ t, t = s.onRequest fun r =>
    { r with connData := r.connData.map fun c => { c with isOpen := false } } := ⟨_, rfl⟩
  have heq : t = ⟨{ s.message with router :=
      { s.message.router with
        upstreamRequest := some { r with connData := some { c with isOpen := false } } } },
      s.downstream⟩ := by
    simp [ht, onRequest, onRouter, onMessage, hw.request, hw.connData]
  have hphase : t.message.phase = .finished := by
    simp [heq, ActiveMessage.phase, hw.connPoolHandle]
  have hwrites : t.message.writes = s.message.writes := by
    rw [hw.writes hreturned hclosed]
    simp [heq, ActiveMessage.writes, ActiveMessage.connections, hreturned, hclosed]
  have hcoherent : t.message.Coherent I R o := by
    refine ActiveMessage.coherent_of_finished hphase ?_ ?_ ?_ (hwrites ▸ hs.writes)
    · rw [heq]
      exact hs.metadata
    · rw [heq]
      exact hs.filterComplete
    · rw [heq]
      exact hs.cancelled
  have hdown : t.downstream = s.downstream := by rw [heq]
  have hmt : t.message.metadata = some metadata := by
    rw [heq]
    exact hm
  have hhost : (t.message.router.upstreamRequest.bind (·.upstreamHost)).isSome := by
    rw [heq]
    exact hw.upstreamHost
  have hevent : ∃ reason, t.onUpstreamEvent cfg event = t.onResetStream cfg reason := by
    unfold onUpstreamEvent
    rw [show t.message.router.upstreamRequest =
      some { r with connData := some { c with isOpen := false } } by rw [heq]]
    cases event
    · exact ⟨.remoteConnectionFailure, by simp [hw.responseComplete, hw.streamReset]⟩
    · exact ⟨.localConnectionFailure, by simp [hw.responseComplete, hw.streamReset]⟩
  obtain ⟨reason, hreason⟩ := hevent
  obtain ⟨n, hn, hturns, -⟩ := turns_onResetStream cfg reason hmt hcoherent
    hphase (hdown ▸ hI) (Or.inr hhost)
  unfold upstreamClosed
  rw [← ht, hreason]
  exact ⟨n, hdown ▸ hn, hturns.before (by rw [heq]) (by rw [heq]; rfl) hwrites (by rw [heq])
    (by rw [hphase]; rintro ⟨⟩) (hdown ▸ .refl _ _ _)⟩

/-- A request that is being reset is not told of the close of its own connection. -/
theorem closeUpstream_of_streamReset (cfg : Config σ) (c : UpstreamConnection) {s : Stream σ}
    (h : s.message.router.upstreamRequest.all (·.streamReset) = true) :
    s.closeUpstream cfg c = s := by
  have hevent : s.onUpstreamEvent cfg .localClose = s := by
    unfold onUpstreamEvent
    cases hr : s.message.router.upstreamRequest with
    | none => rfl
    | some request =>
      rw [hr, Option.all_some] at h
      simp [h]
  unfold closeUpstream
  rw [hevent, ite_self]

/-- The connection of a request is closed. -/
theorem closed_resetUpstreamStream (cfg : Config σ) {s : Stream σ} {r : UpstreamRequest}
    (hr : s.message.router.upstreamRequest = some r) :
    (s.resetUpstreamStream cfg).message.router.closed =
      s.message.router.closed ++ r.connData.toList := by
  obtain ⟨t, ht⟩ : ∃ t, t = (s.onRequest fun r => { r with streamReset := true }).cancelHandle r :=
    ⟨_, rfl⟩
  have hclosed : t.message.router.closed = s.message.router.closed := by
    rw [ht]
    unfold cancelHandle
    split <;> rfl
  have hreset : t.message.router.upstreamRequest.all (·.streamReset) = true := by
    rw [ht]
    unfold cancelHandle
    split <;> simp [onRequest, onRouter, onMessage, assert, onDownstream, hr]
  unfold resetUpstreamStream
  rw [hr]
  dsimp only
  rw [← ht]
  unfold closeConnection
  cases hc : r.connData with
  | none => simpa using hclosed
  | some c =>
    dsimp only
    rw [closeUpstream_of_streamReset cfg c (s := t.onRouter fun r =>
      { r with closed := r.closed ++ [c] }) hreset]
    simp [onRequest, onRouter, onMessage, hclosed]

/-- The connection of a request is closed, or its handle cancelled. -/
theorem resetUpstreamStream_eq (cfg : Config σ) {s : Stream σ} {r : UpstreamRequest}
    (hr : s.message.router.upstreamRequest = some r)
    (hh : r.connPoolHandle = true → r.connData = none) :
    s.resetUpstreamStream cfg = ⟨{ s.message with router :=
      { s.message.router with
        upstreamRequest :=
          some { r with streamReset := true, connPoolHandle := false, connData := none }
        closed := s.message.router.closed ++ r.connData.toList
        cancelled := s.message.router.cancelled + if r.connPoolHandle then 1 else 0 } },
      s.downstream⟩ := by
  unfold resetUpstreamStream
  rw [hr]
  cases hhandle : r.connPoolHandle with
  | true =>
    simp [cancelHandle, closeConnection, hhandle, hh hhandle, onRequest, onRouter, onMessage, hr,
      assert, onDownstream, Downstream.assert]
  | false =>
    cases hc : r.connData with
    | none => simp [cancelHandle, closeConnection, hhandle, hc, onRequest, onRouter, onMessage, hr]
    | some c =>
      simp only [cancelHandle, closeConnection, hhandle, hc, Bool.false_eq_true, if_false]
      rw [closeUpstream_of_streamReset cfg c (by simp [onRequest, onRouter, onMessage, hr])]
      simp [onRequest, onRouter, onMessage, hr, hhandle]

/-- Giving up the upstream request writes nothing to the client. -/
theorem turns_resetUpstreamStream {p : Prop} (cfg : Config σ) {s : Stream σ}
    (hs : s.message.Coherent I R o)
    {r : UpstreamRequest} (hr : s.message.router.upstreamRequest = some r) :
    Turns I R o p 0 false .finished s (s.resetUpstreamStream cfg) := by
  have hcancelled : s.message.router.cancelled + (if r.connPoolHandle then 1 else 0) ≤ 1 := by
    cases h : r.connPoolHandle with
    | true =>
      obtain ⟨-, -, hzero⟩ := hs.unused (by simp [ActiveMessage.phase, hr, h])
      simp [hzero]
    | false => simpa using hs.cancelled
  rw [resetUpstreamStream_eq cfg hr (hs.exclusive hr)]
  have hwrites : ({ s.message with router :=
      { s.message.router with
        upstreamRequest :=
          some { r with streamReset := true, connPoolHandle := false, connData := none }
        closed := s.message.router.closed ++ r.connData.toList
        cancelled := s.message.router.cancelled + if r.connPoolHandle then 1 else 0 } } :
      ActiveMessage σ).writes = s.message.writes := by
    unfold ActiveMessage.writes ActiveMessage.connections
    cases hc : r.connData with
    | none => simp [hr, hc]
    | some c =>
      obtain ⟨hreturned, hclosed⟩ := hs.alone hr hc
      simp [hr, hc, hreturned, hclosed]
  refine ⟨rfl, rfl, ?_, ?_, ?_, rfl, .refl _ _ _⟩
  · exact ActiveMessage.coherent_of_finished rfl hs.metadata hs.filterComplete hcancelled
      (hwrites ▸ hs.writes)
  · rw [hwrites]
    exact ⟨fun h => ⟨h, by rintro ⟨⟩⟩, fun h => h.1⟩
  · cases h : r.connPoolHandle with
    | true => exact Or.inr (by simp [ActiveMessage.phase, hr, h])
    | false => exact Or.inl (by simp)

/-- A request that holds nothing can be dropped. -/
theorem Turns.cleanup {p : Prop} {n : ℕ} {released : Bool} {s s' : Stream σ}
    (h : Turns I R o p n released .finished s s')
    (hnone : s'.message.router.upstreamRequest.bind (·.connData) = none) :
    Turns I R o p n released .finished s s'.cleanup := by
  have hwrites : s'.cleanup.message.writes = s'.message.writes := by
    unfold ActiveMessage.writes ActiveMessage.connections
    rw [hnone]
    rfl
  refine ⟨h.id, h.kind, ?_, hwrites ▸ h.writes, h.cancelled, rfl, h.does⟩
  exact ActiveMessage.coherent_of_finished rfl h.coherent.metadata h.coherent.filterComplete
    h.coherent.cancelled (hwrites ▸ h.coherent.writes)

/-- The destruction of a message. -/
theorem turns_destroy {p : Prop} (hc : cfg.RouterOnly) {s : Stream σ}
    (hs : s.message.Coherent I R o) :
    Turns I R o p 0 false .finished s (s.destroy cfg) := by
  obtain ⟨t, ht⟩ : ∃ t, t = s.onDownstream (Downstream.dec .requestActive) := ⟨_, rfl⟩
  have hdec : s.downstream.Does p s.message.id 0 false t.downstream := by
    rw [ht]
    exact Downstream.does_dec _ _
  have hmessage : t.message = s.message := by rw [ht]; rfl
  have hrouter : (cfg.decoderFilters.any Filter.isRouter ||
      cfg.encoderFilters.any Filter.isRouter) = true := by
    simp [hc.decoderFilters, Filter.isRouter]
  have hdestroyed : s.destroy cfg =
      (t.routerOnDestroy cfg).onMessage fun m => { m with destroyed := true } := by
    unfold destroy
    rw [← ht]
    dsimp only
    rw [if_pos hrouter]
  suffices h : Turns I R o p 0 false .finished t (t.routerOnDestroy cfg) by
    have hbefore := h.before (s := s) (by rw [hmessage]) (by rw [hmessage]) (by rw [hmessage])
      (by rw [hmessage]) (by rw [hmessage]; exact id) hdec
    rw [hdestroyed]
    exact hbefore.quiet (by rintro ⟨⟩) ⟨rfl, rfl, ⟨_, rfl⟩, rfl⟩ (.refl _ _ _)
  have hst : t.message.Coherent I R o := hmessage ▸ hs
  unfold routerOnDestroy
  cases hr : t.message.router.upstreamRequest with
  | none =>
    have hphase : t.message.phase = .finished := by simp [ActiveMessage.phase, hr]
    have hsame : Turns I R o p 0 false .finished t t :=
      ⟨rfl, rfl, hst, ⟨fun h => ⟨h, by rintro ⟨⟩⟩, fun h => h.1⟩, Or.inl rfl, hphase, .refl _ _ _⟩
    exact hsame.cleanup (by rw [hr]; rfl)
  | some r =>
    have hreset := turns_resetUpstreamStream (p := p) cfg hst hr
    refine hreset.cleanup ?_
    rw [resetUpstreamStream_eq cfg hr (hst.exclusive hr)]
    rfl

end Stream

end MetaProtocolProxy

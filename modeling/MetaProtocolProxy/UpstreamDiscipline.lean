import MetaProtocolProxy.DubboProxy
import MetaProtocolProxy.LifeCycle

/-!
# The discipline of upstream requests

With the router as the only filter, a request to an upstream holds a handle of the pool or a
connection, never both. Its bytes are written to a connection once, as they are, if the pool
gives it one, and never if the pool fails or the message is destroyed first
(`disciplined_run`).
-/

namespace MetaProtocolProxy

variable {σ : Type} {cfg : Config σ} {I : σ → Prop} {R : Metadata → Prop}

namespace Stream

/-- `encodeData` finds a connection, and no handle. -/
def CanEncode (s : Stream σ) : Prop :=
  ∃ r, s.message.router.upstreamRequest = some r ∧ r.connData.isSome = true ∧
    r.connPoolHandle = false

/-- So does the call of `onPoolReady` inside `newConnection`. -/
theorem canEncode_onPoolReadyConnection {s : Stream σ}
    (h : s.message.router.upstreamRequest.isSome = true) (host : Host) (leftover : Bytes) :
    (s.onPoolReadyConnection host leftover).onRequestComplete.CanEncode := by
  obtain ⟨r, hr⟩ := Option.isSome_iff_exists.mp h
  refine ⟨{ r with
    upstreamHost := some host, connData := some { buffer := leftover }, connPoolHandle := false,
    requestComplete := true }, ?_, rfl, rfl⟩
  simp [onPoolReadyConnection, onUpstreamHostSelected, onRequestComplete, onRequest, onRouter,
    onMessage, hr]

end Stream

namespace ConnectionManager

/-! ## What the pool has done -/

/-- The pool has given message `i` a connection : when it was asked, or in the run. -/
def Connected (cfg : Config σ) (es : List Event) (i : ℕ) (request : Metadata) : Prop :=
  (∃ host leftover, cfg.pool i request = some (.ready host leftover)) ∨
    ∃ host leftover, Event.poolReady i host leftover ∈ es

/-- The pool has failed for message `i`. -/
def PoolFailed (cfg : Config σ) (es : List Event) (i : ℕ) (request : Metadata) : Prop :=
  (∃ host, cfg.pool i request = some (.overflow host)) ∨
    ∃ reason host, Event.poolFailure i reason host ∈ es

section Events

variable {es : List Event} {e : Event} {i : ℕ} {request : Metadata}

theorem connected_concat : Connected cfg (es ++ [e]) i request ↔
    Connected cfg es i request ∨ ∃ host leftover, e = .poolReady i host leftover := by
  simp [Connected, eq_comm, or_assoc, exists_or]

theorem poolFailed_concat : PoolFailed cfg (es ++ [e]) i request ↔
    PoolFailed cfg es i request ∨ ∃ reason host, e = .poolFailure i reason host := by
  simp [PoolFailed, eq_comm, or_assoc, exists_or]

end Events

/-- What is known of the upstream request of a message after a run. -/
structure Disciplined (cfg : Config σ) (es : List Event) (i : ℕ) (request : Metadata)
    (cm : ConnectionManager σ) : Prop where
  /-- It never holds a handle and a connection at once. -/
  exclusive : ∀ r, (cm.messages i).router.upstreamRequest = some r → r.connPoolHandle = true →
    r.connData = none
  /-- A handle is cancelled at most once, and only while it is pending. -/
  cancelled : (cm.messages i).router.cancelled ≤ 1
  cancels : ∀ e, cm.Enabled cfg e →
    ((cm.step cfg e).messages i).router.cancelled ≠ (cm.messages i).router.cancelled →
      cm.Pooling i
  /-- The bytes are written only with a connection. -/
  encodes : ∀ host leftover, cm.Enabled cfg (.poolReady i host leftover) →
    ((cm.atEncodeData cfg i host leftover).stream i).onRequestComplete.CanEncode
  /-- They are written once if the pool has a connection, and not at all if it has none. -/
  connected : Connected cfg es i request → (cm.messages i).writes = [[request.originMessage]]
  unconnected : ¬Connected cfg es i request → (cm.messages i).writes = []
  failed : PoolFailed cfg es i request → (cm.messages i).writes = []
  /-- Nothing is written once the message is destroyed. -/
  destroyed : ∀ es₁ es₂, es = es₁ ++ .release i :: es₂ →
    (cm.messages i).writes = (((system cfg).run (new cfg) es₁).messages i).writes

/-! ## Runs -/

/-- What the pool has done shows in what was written. -/
structure Shows (cfg : Config σ) (es : List Event) (i : ℕ) (request : Metadata)
    (cm : ConnectionManager σ) : Prop where
  writes : (cm.messages i).writes = [] ↔ ¬Connected cfg es i request
  failed : PoolFailed cfg es i request →
    (cm.messages i).phase = .finished ∧ (cm.messages i).writes = []

section Shows

variable {es : List Event} {e : Event} {i : ℕ} {request : Metadata} {cm cm' : ConnectionManager σ}

/-- A message that waits has a connection, and one that pools has none. -/
theorem Living.writes_of_waiting (h : cm.Living I R i request)
    (hp : (cm.messages i).phase = .waiting) : (cm.messages i).writes ≠ [] := by
  obtain ⟨r, c, hw⟩ := h.coherent.waiting hp
  obtain ⟨hreturned, hclosed, -⟩ := h.coherent.unused (by rw [hp]; decide)
  rw [hw.toHolds.writes hreturned hclosed]
  simp

theorem Living.writes_of_pooling (h : cm.Living I R i request)
    (hp : (cm.messages i).phase = .pooling) : (cm.messages i).writes = [] := by
  obtain ⟨r, hpools⟩ := h.coherent.pooling hp
  obtain ⟨hreturned, hclosed, -⟩ := h.coherent.unused (by rw [hp]; decide)
  exact hpools.writes hreturned hclosed

/-- An event for another message, or for none. -/
theorem Shows.other (h : Shows cfg es i request cm) (he : e.message ≠ some i)
    (hm : cm'.messages i = cm.messages i) : Shows cfg (es ++ [e]) i request cm' := by
  refine ⟨?_, fun hf => ?_⟩
  · rw [hm, h.writes, connected_concat, not_or]
    refine ⟨fun hn => ⟨hn, ?_⟩, fun hn => hn.1⟩
    rintro ⟨host, leftover, rfl⟩
    exact he rfl
  · rw [hm]
    rcases poolFailed_concat.mp hf with hf | ⟨reason, host, rfl⟩
    · exact h.failed hf
    · exact absurd rfl he

/-- An event for the message. -/
theorem Shows.own (h : Shows cfg es i request cm) {p : Prop} {n : ℕ} {released : Bool}
    {phase : Phase} (hl : cm.Living I R i request) (hl' : cm'.Living I R i request)
    (he : e.message = some i) (hrow : EventRow cfg p cm i request n released phase e)
    (hfate : Fate i n released phase cm cm') : Shows cfg (es ++ [e]) i request cm' := by
  have hready : (∀ host leftover, e ≠ .poolReady i host leftover) →
      (Connected cfg (es ++ [e]) i request ↔ Connected cfg es i request) := by
    intro hne
    rw [connected_concat, or_iff_left]
    rintro ⟨host, leftover, heq⟩
    exact hne host leftover heq
  have hfailed : (∀ reason host, e ≠ .poolFailure i reason host) →
      (PoolFailed cfg (es ++ [e]) i request ↔ PoolFailed cfg es i request) := by
    intro hne
    rw [poolFailed_concat, or_iff_left]
    rintro ⟨reason, host, heq⟩
    exact hne reason host heq
  have hwaiting : (cm.messages i).phase = .waiting → (∀ host leftover,
    e ≠ .poolReady i host leftover) →
      (∀ reason host, e ≠ .poolFailure i reason host) → Shows cfg (es ++ [e]) i request cm' := by
    intro hp hne hne'
    have hwrites := hl.writes_of_waiting hp
    refine ⟨?_, fun hf => ?_⟩
    · rw [hready hne, ← h.writes, hfate.writes]
      exact ⟨fun hw => hw.1, fun hw => absurd hw hwrites⟩
    · cases hp.symm.trans (h.failed ((hfailed hne').mp hf)).1
  cases e with
  | poolReady j host leftover =>
    obtain rfl : j = i := Option.some.inj he
    obtain ⟨hp, -, -, rfl⟩ := hrow
    refine ⟨?_, fun hf => ?_⟩
    · rw [hfate.writes, connected_concat]
      exact ⟨fun hw => absurd rfl hw.2, fun hn => absurd (Or.inr ⟨host, leftover, rfl⟩) hn⟩
    · cases hp.symm.trans (h.failed ((hfailed (by rintro _ _ ⟨⟩)).mp hf)).1
  | poolFailure j reason host =>
    obtain rfl : j = i := Option.some.inj he
    obtain ⟨hp, -, -, rfl⟩ := hrow
    have hwrites := hfate.writes_eq (by rintro ⟨⟩) hl hl'
    refine ⟨?_, fun _ => ⟨hfate.phase, hwrites.trans (hl.writes_of_pooling hp)⟩⟩
    rw [hready (by rintro _ _ ⟨⟩), ← h.writes, hwrites]
  | upstreamData j data endStream => exact hwaiting hrow.1 (by rintro _ _ ⟨⟩) (by rintro _ _ ⟨⟩)
  | upstreamClose j event => exact hwaiting hrow.1 (by rintro _ _ ⟨⟩) (by rintro _ _ ⟨⟩)
  | release j =>
    obtain ⟨-, -, rfl⟩ := hrow
    have hwrites := hfate.writes_eq (by rintro ⟨⟩) hl hl'
    refine ⟨?_, fun hf => ⟨hfate.phase, ?_⟩⟩
    · rw [hready (by rintro _ _ ⟨⟩), ← h.writes, hwrites]
    · rw [hwrites]
      exact (h.failed ((hfailed (by rintro _ _ ⟨⟩)).mp hf)).2
  | downstreamData data endStream => cases hrow
  | downstreamClose event => cases hrow
  | continueDecoding j position => cases hrow
  | continueEncoding j position => cases hrow

end Shows

/-- A message that is born shows what the pool did when it was asked. -/
theorem Born.shows {es : List Event} {i : ℕ} {request : Metadata} {n : ℕ} {released : Bool}
    {phase : Phase} {cm : ConnectionManager σ}
    (h : Born cfg I R i request n released phase cm)
    (hready : ∀ host leftover, Event.poolReady i host leftover ∉ es)
    (hfailed : ∀ reason host, Event.poolFailure i reason host ∉ es) :
    Shows cfg es i request cm := by
  obtain ⟨d, -, hrow⟩ := h.row
  have hphase := h.phase
  have hconnected : Connected cfg es i request ↔
      ∃ host leftover, cfg.pool i request = some (.ready host leftover) :=
    or_iff_left fun ⟨host, leftover, hmem⟩ => hready host leftover hmem
  have hpoolFailed : PoolFailed cfg es i request ↔
      ∃ host, cfg.pool i request = some (.overflow host) :=
    or_iff_left fun ⟨reason, host, hmem⟩ => hfailed reason host hmem
  refine ⟨?_, fun hf => ?_⟩
  · rw [h.writes, hconnected, ← hrow.waiting_iff]
  · obtain ⟨host, hpool⟩ := hpoolFailed.mp hf
    have hfinished := hrow.of_overflow hpool
    exact ⟨hphase.trans hfinished, h.writes.mpr (by rw [hfinished]; decide)⟩

theorem shows_run (hk : cfg.codec.Keeps I R) (hc : cfg.RouterOnly) {es : List Event}
    (h : (system cfg).Admissible (new cfg) es) {i : ℕ}
    (hi : i < ((system cfg).run (new cfg) es).created) :
    ∃ request, Living I R i request ((system cfg).run (new cfg) es) ∧
      Shows cfg es i request ((system cfg).run (new cfg) es) := by
  suffices hall : ((system cfg).run (new cfg) es).Alive I R ∧
      (∀ e ∈ es, ∀ j, e.message = some j → j < ((system cfg).run (new cfg) es).created) ∧
      ∀ i < ((system cfg).run (new cfg) es).created, ∃ request,
        Living I R i request ((system cfg).run (new cfg) es) ∧
        Shows cfg es i request ((system cfg).run (new cfg) es) from hall.2.2 i hi
  refine Transition.history (P := fun (es : List Event) (cm : ConnectionManager σ) => cm.Alive I R ∧
    (∀ e ∈ es, ∀ j, e.message = some j → j < cm.created) ∧
    ∀ i < cm.created, ∃ request, Living I R i request cm ∧ Shows cfg es i request cm)
    ⟨alive_new hk, fun _ he => (List.not_mem_nil he).elim, fun _ hi => (Nat.not_lt_zero _ hi).elim⟩
    (fun es e _ he hcm => ?_) es h
  generalize (system cfg).run (new cfg) es = cm at he hcm ⊢
  obtain ⟨halive, hmessages, hshows⟩ := hcm
  have hlived := lived_step hk hc halive he
  have hcreated : cm.created ≤ (cm.step cfg e).created := hlived.reads.created
  have hlater : ∀ e' ∈ es ++ [e], ∀ j, e'.message = some j → j < cm.created := by
    intro e' he' j hj
    rcases List.mem_append.mp he' with he' | he'
    · exact hmessages e' he' j hj
    · obtain rfl := List.mem_singleton.mp he'
      exact he.lt_created hj
  refine ⟨alive_step hk hc halive he,
    fun e' he' j hj => Nat.lt_of_lt_of_le (hlater e' he' j hj) hcreated, fun i hi => ?_⟩
  by_cases hlt : i < cm.created
  · obtain ⟨request, hliving, hshow⟩ := hshows i hlt
    by_cases hown : e.message = some i
    · obtain ⟨request', n, released, phase, hl, hl', hrow, hfate⟩ := hlived.own i hown
      obtain rfl : request = request' :=
        Option.some.inj (hliving.decoded.symm.trans hl.decoded)
      exact ⟨request, hl', hshow.own hl hl' hown hrow hfate⟩
    · exact ⟨request, hlived.reads.living hlt hown ⟨hliving.decoded, hliving.kind,
        hliving.coherent⟩,
        hshow.other hown (hlived.reads.messages i hlt hown)⟩
  · obtain ⟨request, n, released, phase, hborn, -⟩ := hlived.reads.born i hi (Nat.not_lt.mp hlt)
    refine ⟨request, hborn.living, hborn.shows (fun host leftover hmem => ?_)
      fun reason host hmem => ?_⟩
    · exact hlt (hlater _ hmem i rfl)
    · exact hlt (hlater _ hmem i rfl)

/-- The upstream request of every message of a run is disciplined, and a connection that the pool
has at once can be written to. -/
theorem disciplined_run (hc : cfg.RouterOnly) {es : List Event}
    (h : (system cfg).Admissible (new cfg) es) :
    (∀ (s : Stream σ) (host : Host) (leftover : Bytes),
      s.message.router.upstreamRequest.isSome = true →
        (s.onPoolReadyConnection host leftover).onRequestComplete.CanEncode) ∧
    ∀ i < ((system cfg).run (new cfg) es).created, ∃ request,
      ((system cfg).run (new cfg) es).requests[i]? = some request ∧
      Disciplined cfg es i request ((system cfg).run (new cfg) es) := by
  refine ⟨fun s host leftover hs => Stream.canEncode_onPoolReadyConnection hs host leftover,
    fun i hi => ?_⟩
  have hk := cfg.codec.keeps_true
  have halive := alive_run hk hc h
  obtain ⟨request, hliving, hshows⟩ := shows_run hk hc h hi
  refine ⟨request, hliving.decoded, ?_⟩
  refine ⟨fun r hr hh => hliving.coherent.exclusive hr hh, hliving.coherent.cancelled,
    fun e he hne => ?_, fun host leftover he => ?_, fun hconnected => ?_,
    fun hn => hshows.writes.mpr hn, fun hf => (hshows.failed hf).2, fun es₁ es₂ hes => ?_⟩
  · have hlived := lived_step hk hc halive he
    by_cases hown : e.message = some i
    · obtain ⟨_, _, _, _, -, -, -, hfate⟩ := hlived.own i hown
      exact phase_eq_pooling_iff.mp (hfate.cancelled.resolve_left hne)
    · rw [show ((step cfg _ e).messages i) = _ from hlived.reads.messages i hi hown] at hne
      exact absurd rfl hne
  · have hp := phase_eq_pooling_iff.mpr he.2.2.2
    obtain ⟨-, -, hconnects, -⟩ := reads_atEncodeData hk hc halive hi hliving hp host leftover
    obtain ⟨r, c, hw, -⟩ := hconnects.waits
    refine ⟨{ r with requestComplete := true }, ?_, ?_, hw.connPoolHandle⟩
    · simp [Stream.onRequestComplete, Stream.onRequest, Stream.onRouter, Stream.onMessage, stream,
        hw.request]
    · simp [hw.connData]
  · exact hliving.coherent.writes.resolve_left fun hnone => hshows.writes.mp hnone hconnected
  · subst hes
    obtain ⟨hes₁, he, hes₂⟩ := Transition.admissible_append.mp h
    rw [Transition.run_append, Transition.run_cons]
    have halive₁ := alive_run hk hc hes₁
    generalize (system cfg).run (new cfg) es₁ = cm at he hes₂ halive₁ ⊢
    have hlived := lived_step hk hc halive₁ he
    obtain ⟨_, _, _, _, hl, hl', ⟨-, -, rfl⟩, hfate⟩ := hlived.own i rfl
    have hlt : i < (cm.step cfg (.release i)).created :=
      Nat.lt_of_lt_of_le (he.lt_created rfl) hlived.reads.created
    obtain ⟨hwrites, -⟩ := finished_run hk hc (alive_step hk hc halive₁ he) hlt hfate.phase hes₂
    exact hwrites.trans (hfate.writes_eq (by rintro ⟨⟩) hl hl')

/-- A request whose pool has to connect first, released when it has been sent. -/
def pooled : List Event :=
  [.downstreamData (DubboExample.oneway 1) false, .poolReady 0 "host" [], .release 0]

theorem disciplined_pooled :
    ((system (DubboExample.config (some .pending))).run
        (new (DubboExample.config (some .pending))) pooled).created = 1 ∧
      (∀ (s : Stream Dubbo.DubboCodec.State) (host : Host) (leftover : Bytes),
        s.message.router.upstreamRequest.isSome = true →
          (s.onPoolReadyConnection host leftover).onRequestComplete.CanEncode) ∧
      ∀ i < ((system (DubboExample.config (some .pending))).run
          (new (DubboExample.config (some .pending))) pooled).created, ∃ request,
        ((system (DubboExample.config (some .pending))).run
          (new (DubboExample.config (some .pending))) pooled).requests[i]? = some request ∧
        Disciplined (DubboExample.config (some .pending)) pooled i request
          ((system (DubboExample.config (some .pending))).run
            (new (DubboExample.config (some .pending))) pooled) :=
  ⟨by decide +kernel, disciplined_run ⟨rfl, rfl⟩ (by decide +kernel)⟩

end ConnectionManager

end MetaProtocolProxy

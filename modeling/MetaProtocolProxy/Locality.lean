import Mathlib.Tactic.SplitIfs
import MetaProtocolProxy.ConnectionManager

/-!
# What a message does to its connection

A message reaches its connection through a few operations : it counts, writes its own
answers, hands itself to deferred deletion, and may close the connection. A relation of
two connections that these operations respect is respected by everything a message does
(`Respects`, `Both`), and both connections are told the same (`Alike`). So two messages that are
the same stay the same on connections that look the same to them, and what the
operations maintain of one connection everything does (`Local.touched`).
-/

namespace MetaProtocolProxy

variable {σ : Type}

/-! ## Relations of connections -/

/-- A relation of connections that the operations of message `i` respect, closing the connection
only where `closes` holds. -/
structure Respects (cfg : Config σ) (i : ℕ) (closes : Prop)
    (R : Downstream σ → Downstream σ → Prop) : Prop where
  isOpen : ∀ {d d'}, R d d' → (d.state = .open ↔ d'.state = .open)
  onError : ∀ {d d'}, R d d' → cfg.codec.onError d.codec = cfg.codec.onError d'.codec
  inc : ∀ {d d'}, R d d' → ∀ stat, R (d.inc stat) (d'.inc stat)
  dec : ∀ {d d'}, R d d' → ∀ stat, R (d.dec stat) (d'.dec stat)
  panic : ∀ {d d'}, R d d' → ∀ site, R (d.panic site) (d'.panic site)
  write : ∀ {d d'}, R d d' → ∀ w : Write, w.message = some i → w.reply ≠ .heartbeat →
    R (d.write w) (d'.write w)
  deferredMessage : ∀ {d d'}, R d d' → R (d.deferredMessage i) (d'.deferredMessage i)
  close : closes → ∀ {d d'}, R d d' → ∀ type, R (d.close type) (d'.close type)

/-- From `d` to `d'` by operations of message `i`. -/
inductive Touched (i : ℕ) (closes : Prop) (d : Downstream σ) : Downstream σ → Prop
  | refl : Touched i closes d d
  | inc {d'} (h : Touched i closes d d') (stat : Stat) : Touched i closes d (d'.inc stat)
  | dec {d'} (h : Touched i closes d d') (stat : Stat) : Touched i closes d (d'.dec stat)
  | panic {d'} (h : Touched i closes d d') (site : String) : Touched i closes d (d'.panic site)
  | write {d'} (h : Touched i closes d d') (w : Write) (hw : w.message = some i)
      (hreply : w.reply ≠ .heartbeat) : Touched i closes d (d'.write w)
  | deferredMessage {d'} (h : Touched i closes d d') : Touched i closes d (d'.deferredMessage i)
  | close {d'} (h : Touched i closes d d') (hc : closes) (type : ConnectionCloseType) :
      Touched i closes d (d'.close type)

/-- To be touched by a message is respected by what it does. -/
theorem respects_touched (cfg : Config σ) (i : ℕ) (closes : Prop) (d₀ : Downstream σ) :
    Respects cfg i closes fun d d' => d = d' ∧ Touched i closes d₀ d where
  isOpen := by
    rintro d _ ⟨rfl, -⟩
    rfl
  onError := by
    rintro d _ ⟨rfl, -⟩
    rfl
  inc := by
    rintro d _ ⟨rfl, hd⟩ stat
    exact ⟨rfl, hd.inc stat⟩
  dec := by
    rintro d _ ⟨rfl, hd⟩ stat
    exact ⟨rfl, hd.dec stat⟩
  panic := by
    rintro d _ ⟨rfl, hd⟩ site
    exact ⟨rfl, hd.panic site⟩
  write := by
    rintro d _ ⟨rfl, hd⟩ w hw hreply
    exact ⟨rfl, hd.write w hw hreply⟩
  deferredMessage := by
    rintro d _ ⟨rfl, hd⟩
    exact ⟨rfl, hd.deferredMessage⟩
  close := by
    rintro hc d _ ⟨rfl, hd⟩ type
    exact ⟨rfl, hd.close hc type⟩

/-- Filters that close a connection only where `closes` holds. -/
def Config.Within (cfg : Config σ) (closes : Prop) : Prop :=
  ∀ filter ∈ cfg.decoderFilters ++ cfg.encoderFilters, filter.isRouter = true ∨ closes

namespace Stream

/-- The same message `i` on related connections. -/
structure Both (i : ℕ) (R : Downstream σ → Downstream σ → Prop) (s s' : Stream σ) : Prop where
  message : s.message = s'.message
  id : s.message.id = i
  downstream : R s.downstream s'.downstream

/-- The same result, of the same message `i` on related connections. -/
structure Alike {α : Type*} (i : ℕ) (R : Downstream σ → Downstream σ → Prop)
    (r r' : α × Stream σ) : Prop where
  fst : r.1 = r'.1
  snd : Both i R r.2 r'.2

/-- What a message can do : it respects every relation its operations respect. -/
def Local (cfg : Config σ) (i : ℕ) (closes : Prop) (f : Stream σ → Stream σ) : Prop :=
  ∀ {R : Downstream σ → Downstream σ → Prop}, Respects cfg i closes R →
    ∀ {s s' : Stream σ}, Both i R s s' → Both i R (f s) (f s')

variable {cfg : Config σ} {i : ℕ} {closes : Prop} {R : Downstream σ → Downstream σ → Prop}
  {s s' : Stream σ}

/-- What a message does, it does by its operations. -/
theorem Local.touched {f : Stream σ → Stream σ} (hf : Local cfg i closes f)
    (hs : s.message.id = i) :
    (f s).message.id = i ∧ Touched i closes s.downstream (f s).downstream := by
  have hboth := hf (respects_touched cfg i closes s.downstream) ⟨rfl, hs, rfl, .refl⟩
  exact ⟨hboth.id, hboth.downstream.2⟩

theorem Alike.of {α : Type*} {a : α} (h : Both i R s s') : Alike i R (a, s) (a, s') :=
  ⟨rfl, h⟩

/-- The same change of both connections. -/
theorem Both.onDownstream (h : Both i R s s') {f : Downstream σ → Downstream σ}
    (hf : R s.downstream s'.downstream → R (f s.downstream) (f s'.downstream)) :
    Both i R (s.onDownstream f) (s'.onDownstream f) :=
  ⟨h.message, h.id, hf h.downstream⟩

/-- The same change of both messages. -/
theorem Both.onMessage (h : Both i R s s') {f : ActiveMessage σ → ActiveMessage σ}
    (hf : ∀ m, (f m).id = m.id) : Both i R (s.onMessage f) (s'.onMessage f) :=
  ⟨congrArg f h.message, (hf _).trans h.id, h.downstream⟩

theorem Both.onRouter (h : Both i R s s') (f : Router → Router) :
    Both i R (s.onRouter f) (s'.onRouter f) :=
  h.onMessage fun _ => rfl

theorem Both.onRequest (h : Both i R s s') (f : UpstreamRequest → UpstreamRequest) :
    Both i R (s.onRequest f) (s'.onRequest f) :=
  h.onRouter _

theorem Both.onResponseDecoder (h : Both i R s s')
    (f : ActiveResponseDecoder σ → ActiveResponseDecoder σ) :
    Both i R (s.onResponseDecoder f) (s'.onResponseDecoder f) :=
  h.onMessage fun _ => rfl

section Respects

variable (hr : Respects cfg i closes R)
include hr

theorem Both.inc (h : Both i R s s') (stat : Stat) : Both i R (s.inc stat) (s'.inc stat) :=
  h.onDownstream fun hd => hr.inc hd stat

theorem Both.panic (h : Both i R s s') (site : String) : Both i R (s.panic site) (s'.panic site) :=
  h.onDownstream fun hd => hr.panic hd site

theorem Both.assert (h : Both i R s s') (condition : Bool) (site : String) :
    Both i R (s.assert condition site) (s'.assert condition site) := by
  refine h.onDownstream fun hd => ?_
  unfold Downstream.assert
  split
  · exact hd
  · exact hr.panic hd site

/-- Both messages are handed over. -/
theorem Both.deferredMessage (h : Both i R s s') :
    Both i R s.deferredMessage s'.deferredMessage := by
  unfold Stream.deferredMessage
  rw [← h.message, h.id]
  exact h.onDownstream hr.deferredMessage

/-! ## Replies -/

/-- A local reply to another message. -/
theorem sendLocalReply_respects {d d' : Downstream σ} (h : R d d') (metadata : Metadata)
    (error : Error) {endStream : Bool} (hend : endStream = true → closes) :
    R (d.sendLocalReply cfg i metadata error endStream)
      (d'.sendLocalReply cfg i metadata error endStream) := by
  have hopen := hr.isOpen h
  have hclose : ∀ {e e' : Downstream σ}, R e e' →
      R (if endStream then e.close .flushWrite else e)
        (if endStream then e'.close .flushWrite else e') := by
    intro e e' he
    split
    · exact hr.close (hend ‹_›) he _
    · exact he
  unfold Downstream.sendLocalReply
  rw [← hr.onError h]
  by_cases ho : d.state = .open
  · rw [if_neg (not_not_intro ho), if_neg (not_not_intro (hopen.mp ho))]
    rcases cfg.codec.onError d.codec metadata error with (what | site) | bytes
    · exact hr.inc (hclose h) _
    · exact hr.panic h site
    · exact hr.inc (hclose (hr.write h _ rfl (by rintro ⟨⟩))) _
  · rw [if_pos ho, if_pos fun ho' => ho (hopen.mpr ho')]
    exact h

/-- Both messages are answered. -/
theorem Both.sendLocalReply (h : Both i R s s') (error : Error) {endStream : Bool}
    (hend : endStream = true → closes) :
    Both i R (s.sendLocalReply cfg error endStream) (s'.sendLocalReply cfg error endStream) := by
  unfold Stream.sendLocalReply
  rw [← h.message, h.id]
  split
  · exact h.panic hr _
  · rename_i metadata _
    have hsent := h.onDownstream fun hd => sendLocalReply_respects hr hd metadata error hend
    dsimp only
    split
    · exact hsent
    · exact hsent.onMessage fun _ => rfl

theorem Both.onError (h : Both i R s s') (what : String) :
    Both i R (s.onError cfg what) (s'.onError cfg what) := by
  have hmetadata := h.onMessage (f := fun m => { m with metadata := some (m.metadata.getD {}) })
    fun _ => rfl
  exact (hmetadata.sendLocalReply hr _ (by rintro ⟨⟩)).deferredMessage hr

/-- The decoder filters of both are done. -/
theorem Both.finalizeRequest (h : Both i R s s') :
    Both i R s.finalizeRequest s'.finalizeRequest := by
  unfold Stream.finalizeRequest
  have hcount := (h.onMessage (f := fun m => { m with pendingStreamDecoded := false })
    fun _ => rfl).inc hr .request
  generalize (s.onMessage _).inc Stat.request = t at hcount ⊢
  generalize (s'.onMessage _).inc Stat.request = t' at hcount ⊢
  dsimp only
  rw [← hcount.message]
  split
  · exact hcount.panic hr _
  · rename_i metadata _
    have hkind : Both i R (t.countRequest metadata) (t'.countRequest metadata) := by
      unfold countRequest
      split
      · exact hcount.inc hr _
      · exact hcount.inc hr _
      · exact hcount
    rw [← hkind.message]
    split
    · exact hkind.deferredMessage hr
    · exact hkind

/-! ## The router -/

theorem Both.withHost (h : Both i R s s') {f : Host → Stream σ → Stream σ}
    (hf : ∀ host {t t' : Stream σ}, Both i R t t' → Both i R (f host t) (f host t')) :
    Both i R (s.withHost f) (s'.withHost f) := by
  unfold Stream.withHost
  rw [← h.message]
  split
  · exact hf _ h
  · exact h.panic hr _

/-- The replies to a reset by the upstream. -/
theorem Both.resetReply (h : Both i R s s') (reason : PoolFailureReason) :
    Both i R (s.resetReply cfg reason) (s'.resetReply cfg reason) := by
  cases reason with
  | overflow => exact h.sendLocalReply hr _ (by rintro ⟨⟩)
  | _ => exact h.withHost hr fun host _ _ ht => ht.sendLocalReply hr _ (by rintro ⟨⟩)

/-- Both are reset by the upstream. -/
theorem Both.onResetStream (h : Both i R s s') (reason : PoolFailureReason) :
    Both i R (s.onResetStream cfg reason) (s'.onResetStream cfg reason) := by
  unfold Stream.onResetStream
  rw [← h.message]
  split
  · exact h.panic hr _
  · split
    · exact h.deferredMessage hr
    · have hreply := h.resetReply hr reason
      dsimp only
      rw [← hreply.message]
      split
      · exact hreply.deferredMessage hr
      · exact hreply

/-- The same event of both upstream connections. -/
theorem Both.onUpstreamEvent (h : Both i R s s') (event : ConnectionEvent) :
    Both i R (s.onUpstreamEvent cfg event) (s'.onUpstreamEvent cfg event) := by
  unfold Stream.onUpstreamEvent
  rw [← h.message]
  split
  · exact h
  · split_ifs
    · exact h
    · exact h
    · cases event with
      | remoteClose => exact h.onResetStream hr _
      | localClose => exact h.onResetStream hr _

theorem Both.upstreamClosed (h : Both i R s s') (event : ConnectionEvent) :
    Both i R (s.upstreamClosed cfg event) (s'.upstreamClosed cfg event) :=
  (h.onRequest _).onUpstreamEvent hr event

theorem Both.cancelHandle (h : Both i R s s') (request : UpstreamRequest) :
    Both i R (s.cancelHandle request) (s'.cancelHandle request) := by
  unfold Stream.cancelHandle
  split
  · exact ((h.assert hr _ _).onRouter _).onRequest _
  · exact h

/-- Both connections are closed and given up. -/
theorem Both.closeConnection (h : Both i R s s') (request : UpstreamRequest) :
    Both i R (s.closeConnection cfg request) (s'.closeConnection cfg request) := by
  unfold Stream.closeConnection
  split
  · rename_i connection _
    refine Both.onRequest ?_ _
    have hclosed := h.onRouter fun r => { r with closed := r.closed ++ [connection] }
    unfold Stream.closeUpstream
    split
    · exact hclosed.onUpstreamEvent hr _
    · exact hclosed
  · exact h

/-- Both upstream requests are reset. -/
theorem Both.resetUpstreamStream (h : Both i R s s') :
    Both i R (s.resetUpstreamStream cfg) (s'.resetUpstreamStream cfg) := by
  unfold Stream.resetUpstreamStream
  rw [← h.message]
  split
  · exact h.panic hr _
  · exact ((h.onRequest _).cancelHandle hr _).closeConnection hr _

/-- Both requests are written. -/
theorem Both.encodeData (h : Both i R s s') : Both i R s.encodeData s'.encodeData := by
  unfold Stream.encodeData
  rw [← h.message]
  split
  · exact h.panic hr _
  · rename_i request _
    have hassert := (h.assert hr request.connData.isSome "ASSERT(conn_data_)").assert hr
      (!request.connPoolHandle) "ASSERT(!conn_pool_handle_)"
    dsimp only
    rw [← hassert.message]
    exact (hassert.onRequest _).onRouter _

/-- The same failure of the pool. -/
theorem Both.onPoolFailureReset (h : Both i R s s') (reason : PoolFailureReason) (host : Host) :
    Both i R (s.onPoolFailureReset cfg reason host) (s'.onPoolFailureReset cfg reason host) := by
  unfold Stream.onPoolFailureReset Stream.onUpstreamHostSelected
  exact (((h.onRequest _).onRequest _).onResetStream hr reason).onRouter _

/-- Both upstream requests are started. -/
theorem alike_startRequest (h : Both i R s s') (pool : PoolStart) :
    Alike i R (s.startRequest cfg pool) (s'.startRequest cfg pool) := by
  cases pool with
  | pending => exact .of (h.onRequest _)
  | ready host leftover =>
    exact .of ((((h.onRequest _).onRequest _).onRequest _).encodeData hr)
  | overflow host => exact .of (h.onPoolFailureReset hr _ _)

omit hr in
theorem alike_route (cfg : Config σ) (h : Both i R s s') :
    Alike i R (s.route cfg) (s'.route cfg) := by
  unfold Stream.route
  rw [← h.message]
  split
  · exact .of h
  · split
    · exact .of (h.onMessage fun _ => rfl)
    · exact .of h

/-- The router, called with both requests. -/
theorem alike_routerOnMessageDecoded (h : Both i R s s') :
    Alike i R (s.routerOnMessageDecoded cfg) (s'.routerOnMessageDecoded cfg) := by
  have hreply : ∀ {t t' : Stream σ}, Both i R t t' → ∀ error,
      Alike i R (FilterStatus.stopIteration, t.sendLocalReply cfg error false)
        (FilterStatus.stopIteration, t'.sendLocalReply cfg error false) :=
    fun ht error => .of (ht.sendLocalReply hr error (by rintro ⟨⟩))
  unfold Stream.routerOnMessageDecoded
  rw [← h.message]
  split
  · exact .of (h.panic hr _)
  have hroute := alike_route cfg h
  generalize s.route cfg = r at hroute ⊢
  generalize s'.route cfg = r' at hroute ⊢
  obtain ⟨entry, t⟩ := r
  obtain ⟨entry', t'⟩ := r'
  obtain ⟨rfl, ht⟩ := hroute
  cases entry with
  | none => exact hreply ht _
  | some entry =>
    dsimp only at ht ⊢
    rw [← ht.message]
    split
    · exact hreply ht _
    · split
      · exact hreply ht _
      · split
        · exact hreply ht _
        · unfold routeTo
          refine alike_startRequest hr (ht.onMessage ?_) _
          exact fun _ => rfl

/-- The router, called with both responses. -/
theorem alike_routerOnMessageEncoded (h : Both i R s s') :
    Alike i R s.routerOnMessageEncoded s'.routerOnMessageEncoded := by
  unfold Stream.routerOnMessageEncoded
  rw [← h.message]
  split
  · exact .of h
  · exact .of (h.withHost hr fun _ _ _ ht => ht)

/-- The router, when both messages are destroyed. -/
theorem Both.routerOnDestroy (h : Both i R s s') :
    Both i R (s.routerOnDestroy cfg) (s'.routerOnDestroy cfg) := by
  unfold Stream.routerOnDestroy
  rw [← h.message]
  split
  · exact (h.resetUpstreamStream hr).onRouter _
  · exact h.onRouter _

/-! ## Filters -/

/-- The same callbacks. -/
theorem Both.acts (h : Both i R s s') {drain : ℕ → Stream σ → Stream σ}
    (hdrain : ∀ n {t t' : Stream σ}, Both i R t t' → Both i R (drain n t) (drain n t'))
    (hc : closes) (as : List FilterAct) :
    Both i R (s.acts cfg drain as) (s'.acts cfg drain as) := by
  induction as generalizing s s' with
  | nil => exact h
  | cons a as ih =>
    refine ih ?_
    cases a with
    | sendLocalReply error endStream => exact h.sendLocalReply hr error fun _ => hc
    | resetStream => exact h.deferredMessage hr
    | resetDownstreamConnection => exact h.onDownstream fun hd => hr.close hc hd _
    | drainOriginMessage length => exact hdrain length h

omit hr in
theorem Both.drainRequest (n : ℕ) (h : Both i R s s') :
    Both i R (s.drainRequest n) (s'.drainRequest n) :=
  h.onMessage fun _ => rfl

omit hr in
theorem Both.drainResponse (n : ℕ) (h : Both i R s s') :
    Both i R (s.drainResponse n) (s'.drainResponse n) :=
  h.onResponseDecoder _

/-- A decoder filter does the same for both. -/
theorem alike_filterOnMessageDecoded (h : Both i R s s') {filter : Filter}
    (hf : filter.isRouter = true ∨ closes) (position : ℕ) :
    Alike i R (s.filterOnMessageDecoded cfg filter position)
      (s'.filterOnMessageDecoded cfg filter position) := by
  unfold Stream.filterOnMessageDecoded
  have hcall := h.onMessage (f := fun m => { m with decoderCalls := m.decoderCalls ++ [position] })
    fun _ => rfl
  rw [← h.message]
  generalize s.onMessage _ = t at hcall ⊢
  generalize s'.onMessage _ = t' at hcall ⊢
  cases filter with
  | router => exact alike_routerOnMessageDecoded hr hcall
  | custom react =>
    have hc := hf.resolve_left (by rintro ⟨⟩)
    dsimp only
    rw [← hcall.message]
    exact .of (hcall.acts hr (fun n _ _ ht => ht.drainRequest n) hc _)

/-- An encoder filter does the same for both. -/
theorem alike_filterOnMessageEncoded (h : Both i R s s') {filter : Filter}
    (hf : filter.isRouter = true ∨ closes) (position : ℕ) :
    Alike i R (s.filterOnMessageEncoded cfg filter position)
      (s'.filterOnMessageEncoded cfg filter position) := by
  unfold Stream.filterOnMessageEncoded
  have hcall := h.onMessage (f := fun m => { m with encoderCalls := m.encoderCalls ++ [position] })
    fun _ => rfl
  rw [← h.message]
  generalize s.onMessage _ = t at hcall ⊢
  generalize s'.onMessage _ = t' at hcall ⊢
  cases filter with
  | router => exact alike_routerOnMessageEncoded hr hcall
  | custom react =>
    have hc := hf.resolve_left (by rintro ⟨⟩)
    dsimp only
    rw [← hcall.message]
    exact .of (hcall.acts hr (fun n _ _ ht => ht.drainResponse n) hc _)

/-- The decoder filters, one after the other. -/
theorem alike_decoderFilterLoop :
    ∀ {filters : List Filter}, (∀ filter ∈ filters, filter.isRouter = true ∨ closes) →
      ∀ (position : ℕ) {s s' : Stream σ}, Both i R s s' →
        Alike i R (s.decoderFilterLoop cfg filters position)
          (s'.decoderFilterLoop cfg filters position)
  | [], _, _, _, _, h => .of (h.onMessage fun _ => rfl)
  | filter :: filters, hf, position, s, s', h => by
    unfold decoderFilterLoop
    have hfilter := alike_filterOnMessageDecoded hr h (hf filter List.mem_cons_self) position
    generalize s.filterOnMessageDecoded cfg filter position = r at hfilter ⊢
    generalize s'.filterOnMessageDecoded cfg filter position = r' at hfilter ⊢
    obtain ⟨status, t⟩ := r
    obtain ⟨status', t'⟩ := r'
    obtain ⟨rfl, ht⟩ := hfilter
    dsimp only at ht ⊢
    rw [← ht.message]
    split_ifs
    · exact .of (ht.onMessage fun _ => rfl)
    · exact .of ht
    · exact alike_decoderFilterLoop (fun f hmem => hf f (List.mem_cons_of_mem _ hmem)) _ ht

/-- The encoder filters, one after the other. -/
theorem alike_encoderFilterLoop :
    ∀ {filters : List Filter}, (∀ filter ∈ filters, filter.isRouter = true ∨ closes) →
      ∀ (position : ℕ) {s s' : Stream σ}, Both i R s s' →
        Alike i R (s.encoderFilterLoop cfg filters position)
          (s'.encoderFilterLoop cfg filters position)
  | [], _, _, _, _, h => .of (h.onMessage fun _ => rfl)
  | filter :: filters, hf, position, s, s', h => by
    unfold encoderFilterLoop
    have hfilter := alike_filterOnMessageEncoded hr h (hf filter List.mem_cons_self) position
    generalize s.filterOnMessageEncoded cfg filter position = r at hfilter ⊢
    generalize s'.filterOnMessageEncoded cfg filter position = r' at hfilter ⊢
    obtain ⟨status, t⟩ := r
    obtain ⟨status', t'⟩ := r'
    obtain ⟨rfl, ht⟩ := hfilter
    dsimp only at ht ⊢
    rw [← ht.message]
    split_ifs
    · exact .of (ht.onMessage fun _ => rfl)
    · exact .of ht
    · exact alike_encoderFilterLoop (fun f hmem => hf f (List.mem_cons_of_mem _ hmem)) _ ht

variable (hw : cfg.Within closes)
include hw

/-- The decoder filters from a position on. -/
theorem alike_applyDecoderFilters (h : Both i R s s') (start : ℕ) :
    Alike i R (s.applyDecoderFilters cfg start) (s'.applyDecoderFilters cfg start) := by
  unfold Stream.applyDecoderFilters
  rw [← h.message]
  split_ifs
  · exact .of (h.panic hr _)
  · exact .of (h.onMessage fun _ => rfl)
  · exact alike_decoderFilterLoop hr
      (fun f hf => hw f (List.mem_append_left _ (List.mem_of_mem_drop hf))) _ h

theorem alike_applyEncoderFilters (h : Both i R s s') (start : ℕ) :
    Alike i R (s.applyEncoderFilters cfg start) (s'.applyEncoderFilters cfg start) := by
  unfold Stream.applyEncoderFilters
  rw [← h.message]
  split_ifs
  · exact .of (h.panic hr _)
  · exact .of (h.onMessage fun _ => rfl)
  · exact alike_encoderFilterLoop hr
      (fun f hf => hw f (List.mem_append_right _ (List.mem_of_mem_drop hf))) _ h

theorem Both.onStreamDecoded (h : Both i R s s') (metadata : Metadata) :
    Both i R (s.onStreamDecoded cfg metadata) (s'.onStreamDecoded cfg metadata) := by
  unfold Stream.onStreamDecoded
  have hstart := (h.inc hr .requestDecodingSuccess).onMessage (f := fun m =>
    { m with metadata := some metadata, filterAction := true }) fun _ => rfl
  have happly := alike_applyDecoderFilters hr hw hstart (commonPrefix none .canStartFromCurrent)
  dsimp only
  generalize ((s.inc _).onMessage _).applyDecoderFilters cfg _ = r at happly ⊢
  generalize ((s'.inc _).onMessage _).applyDecoderFilters cfg _ = r' at happly ⊢
  obtain ⟨status, t⟩ := r
  obtain ⟨status', t'⟩ := r'
  obtain ⟨rfl, ht⟩ := happly
  cases status with
  | stopIteration => exact ht.onMessage fun _ => rfl
  | «continue» => exact ht.finalizeRequest hr
  | retry => exact ht.finalizeRequest hr

/-- Both messages go on. -/
theorem alike_continueDecoding (h : Both i R s s') (position : ℕ) :
    Alike i R (s.continueDecoding cfg position) (s'.continueDecoding cfg position) := by
  unfold Stream.continueDecoding
  rw [← h.message]
  split
  · exact .of (h.panic hr _)
  rename_i metadata _
  have happly := alike_applyDecoderFilters hr hw h (commonPrefix (some position)
    (if metadata.originMessage.length ≠ 0 then .canStartFromCurrent else .alwaysStartFromNext))
  dsimp only
  generalize s.applyDecoderFilters cfg _ = r at happly ⊢
  generalize s'.applyDecoderFilters cfg _ = r' at happly ⊢
  obtain ⟨status, t⟩ := r
  obtain ⟨status', t'⟩ := r'
  obtain ⟨rfl, ht⟩ := happly
  cases status with
  | stopIteration => exact .of ht
  | retry => exact .of ht
  | «continue» =>
    refine ⟨rfl, ?_⟩
    dsimp only at ht ⊢
    rw [← ht.message]
    split
    · exact ht.finalizeRequest hr
    · exact ht

theorem Both.continueEncoding (h : Both i R s s') (position : ℕ) :
    Both i R (s.continueEncoding cfg position) (s'.continueEncoding cfg position) := by
  unfold Stream.continueEncoding
  rw [← h.message]
  split
  · exact h.panic hr _
  · exact (alike_applyEncoderFilters hr hw h _).snd

/-! ## Responses -/

theorem alike_encodeResponse (h : Both i R s s') (metadata : Metadata) :
    Alike i R (s.encodeResponse cfg metadata) (s'.encodeResponse cfg metadata) := by
  unfold Stream.encodeResponse applyMessageEncodedFilters
  have hstart := ((h.assert hr (metadata.messageType = .response ∨ metadata.messageType = .error)
    "ASSERT(Response || Error)").onResponseDecoder fun d =>
      { d with metadata := some metadata }).onMessage
        (f := fun m => { m with encoderFilterAction := true }) fun _ => rfl
  have happly := alike_applyEncoderFilters hr hw hstart (commonPrefix none .canStartFromCurrent)
  dsimp only at happly ⊢
  generalize Stream.applyEncoderFilters cfg _ (Stream.onMessage _ (Stream.onResponseDecoder _
    (s.assert _ _))) = r at happly ⊢
  generalize Stream.applyEncoderFilters cfg _ (Stream.onMessage _ (Stream.onResponseDecoder _
    (s'.assert _ _))) = r' at happly ⊢
  obtain ⟨status, t⟩ := r
  obtain ⟨status', t'⟩ := r'
  obtain ⟨rfl, ht⟩ := happly
  cases status with
  | retry => exact .of (ht.onResponseDecoder _)
  | stopIteration => exact .of ht
  | «continue» => exact .of ht

omit hw in
theorem Both.countResponse (h : Both i R s s') (metadata : Metadata) :
    Both i R (s.countResponse metadata) (s'.countResponse metadata) := by
  have hcount := (h.inc hr .response).inc hr .responseDecodingSuccess
  unfold Stream.countResponse
  dsimp only
  split_ifs
  · exact (hcount.inc hr _).inc hr _
  · exact hcount.inc hr _
  · exact (hcount.inc hr _).inc hr _
  · exact hcount.inc hr _

omit hw in
theorem Both.forwardResponse (h : Both i R s s') (metadata : Metadata) :
    Both i R (s.forwardResponse metadata) (s'.forwardResponse metadata) := by
  unfold Stream.forwardResponse
  rw [← h.message]
  exact h.onDownstream fun hd => hr.write hd _ (congrArg some h.id) (by rintro ⟨⟩)

/-- The same response for both. -/
theorem alike_onResponseDecoded (h : Both i R s s') (metadata : Metadata) :
    Alike i R (s.onResponseDecoded cfg metadata) (s'.onResponseDecoded cfg metadata) := by
  unfold Stream.onResponseDecoded
  have hencode := alike_encodeResponse hr hw h metadata
  generalize s.encodeResponse cfg metadata = r at hencode ⊢
  generalize s'.encodeResponse cfg metadata = r' at hencode ⊢
  obtain ⟨status, t⟩ := r
  obtain ⟨status', t'⟩ := r'
  obtain ⟨rfl, ht⟩ := hencode
  have hopen := hr.isOpen ht.downstream
  dsimp only at ht ⊢
  split
  · exact .of (ht.onResponseDecoder _)
  · by_cases ho : t.downstream.state = .open
    · rw [if_neg (not_not_intro ho), if_neg (not_not_intro (hopen.mp ho)), ← ht.message]
      exact .of (((ht.forwardResponse hr _).countResponse hr _).onResponseDecoder _)
    · rw [if_pos ho, if_pos fun ho' => ho (hopen.mpr ho')]
      exact .of ht

omit hw in
theorem alike_responseDecoded (h : Both i R s s') (data : Bytes) :
    (s.responseDecoded data).1 = (s'.responseDecoded data).1 ∧
      Alike i R (s.responseDecoded data).2 (s'.responseDecoded data).2 := by
  have hcomplete := h.onResponseDecoder fun d => { d with decoder := d.decoder.complete }
  unfold Stream.responseDecoded
  dsimp only
  rw [← hcomplete.message]
  split
  · exact ⟨rfl, .of (hcomplete.panic hr _)⟩
  · exact ⟨rfl, .of (hcomplete.assert hr _ _)⟩

/-- The same chunk for both response decoders. -/
theorem alike_responseDecoderOnData (h : Both i R s s') (data : Bytes) :
    (s.responseDecoderOnData cfg data).1 = (s'.responseDecoderOnData cfg data).1 ∧
      Alike i R (s.responseDecoderOnData cfg data).2 (s'.responseDecoderOnData cfg data).2 := by
  unfold Stream.responseDecoderOnData
  rw [← h.message]
  split
  · exact ⟨rfl, .of (h.panic hr _)⟩
  rename_i responseDecoder _
  obtain ⟨decoder, codec, rest, decoded⟩ :=
    responseDecoder.decoder.decode cfg.codec responseDecoder.codec data
  have hset := h.onResponseDecoder fun d => { d with decoder, codec }
  dsimp only
  rcases decoded with _ | metadata | metadata | what | site
  · exact ⟨rfl, .of hset⟩
  · exact ⟨rfl, .of (hset.panic hr _)⟩
  · have hdecoded := alike_onResponseDecoded hr hw hset metadata
    dsimp only
    generalize Stream.onResponseDecoded cfg metadata (s.onResponseDecoder _) = r at hdecoded ⊢
    generalize Stream.onResponseDecoded cfg metadata (s'.onResponseDecoder _) = r' at hdecoded ⊢
    obtain ⟨ex, t⟩ := r
    obtain ⟨ex', t'⟩ := r'
    obtain ⟨rfl, ht⟩ := hdecoded
    cases ex with
    | some ex => exact ⟨rfl, .of ht⟩
    | none => exact alike_responseDecoded hr ht rest
  · exact ⟨rfl, .of hset⟩
  · exact ⟨rfl, .of (hset.panic hr _)⟩

/-- The same status of the same chunk. -/
theorem alike_upstreamData (h : Both i R s s') (data : Bytes) :
    (s.upstreamData cfg data).1 = (s'.upstreamData cfg data).1 ∧
      Alike i R (s.upstreamData cfg data).2 (s'.upstreamData cfg data).2 := by
  unfold Stream.upstreamData
  have hdata := alike_responseDecoderOnData hr hw h data
  generalize s.responseDecoderOnData cfg data = r at hdata ⊢
  generalize s'.responseDecoderOnData cfg data = r' at hdata ⊢
  obtain ⟨rest, status, t⟩ := r
  obtain ⟨rest', status', t'⟩ := r'
  obtain ⟨rfl, rfl, ht⟩ := hdata
  have hexception : ∀ what, Both i R (t.onResponseException cfg what)
      (t'.onResponseException cfg what) :=
    fun what => (ht.inc hr .responseDecodingError).onError hr what
  rcases status with (_ | what) | (_ | _ | _ | _)
  · exact ⟨rfl, .of ((ht.deferredMessage hr).inc hr _)⟩
  · exact ⟨rfl, .of (hexception what)⟩
  · exact ⟨rfl, .of ht⟩
  · have hid : t.requestId = t'.requestId := by
      unfold requestId
      rw [ht.message]
    have hresponse : t.responseRequestId = t'.responseRequestId := by
      unfold responseRequestId
      rw [ht.message]
    dsimp only
    rw [← hid, ← hresponse]
    split
    · exact ⟨rfl, .of (hexception _)⟩
    · exact ⟨rfl, .of (ht.deferredMessage hr)⟩
  · exact ⟨rfl, .of ht⟩
  · exact ⟨rfl, .of (ht.onMessage fun _ => rfl)⟩

omit hw in
theorem Both.startResponse (h : Both i R s s') :
    Both i R (s.startResponse cfg) (s'.startResponse cfg) := by
  unfold Stream.startResponse
  rw [← h.message]
  have hassert := h.assert hr (!s.message.router.upstreamRequest.any (·.responseComplete))
    "ASSERT(!upstream_request_->response_complete_)"
  dsimp only
  rw [← hassert.message]
  split
  · exact hassert
  · unfold Stream.startUpstreamResponse
    rw [← hassert.message]
    refine Both.onRequest (Both.onMessage (hassert.assert hr _ _) ?_) _
    exact fun _ => rfl

/-- The same chunk from both upstreams. -/
theorem Both.onUpstreamData (h : Both i R s s') (data : Bytes) (endStream : Bool) :
    Both i R (s.onUpstreamData cfg data endStream) (s'.onUpstreamData cfg data endStream) := by
  unfold Stream.onUpstreamData
  rw [← h.message]
  split
  · exact h.panic hr _
  have hdata := alike_upstreamData hr hw (h.startResponse hr) data
  generalize (s.startResponse cfg).upstreamData cfg data = r at hdata ⊢
  generalize (s'.startResponse cfg).upstreamData cfg data = r' at hdata ⊢
  obtain ⟨rest, status, t⟩ := r
  obtain ⟨rest', status', t'⟩ := r'
  obtain ⟨rfl, rfl, ht⟩ := hdata
  have hleave : Both i R (t.leaveUpstreamData rest) (t'.leaveUpstreamData rest) := ht.onRequest _
  have hcomplete : ∀ {u u' : Stream σ}, Both i R u u' →
      Both i R u.onResponseComplete.cleanup u'.onResponseComplete.cleanup := by
    intro u u' hu
    unfold Stream.onResponseComplete
    rw [← hu.message]
    exact ((hu.onRequest _).onRouter _).onRouter _
  have hmore : Both i R
      (if endStream then ((t.leaveUpstreamData rest).onResetStream cfg
        .remoteConnectionFailure).onResponseComplete.cleanup else t.leaveUpstreamData rest)
      (if endStream then ((t'.leaveUpstreamData rest).onResetStream cfg
        .remoteConnectionFailure).onResponseComplete.cleanup else t'.leaveUpstreamData rest) := by
    split
    · exact hcomplete (hleave.onResetStream hr _)
    · exact hleave
  cases status with
  | complete => exact hcomplete hleave
  | reset => exact hleave.resetUpstreamStream hr
  | moreData => exact hmore
  | retry => exact hmore

omit hw in
theorem Both.destroy (h : Both i R s s') : Both i R (s.destroy cfg) (s'.destroy cfg) := by
  have hdec : Both i R (s.onDownstream (Downstream.dec .requestActive))
      (s'.onDownstream (Downstream.dec .requestActive)) :=
    h.onDownstream fun hd => hr.dec hd _
  unfold Stream.destroy
  refine Both.onMessage ?_ fun _ => rfl
  split
  · exact hdec.routerOnDestroy hr
  · exact hdec

end Respects

/-- What a filter that continues does, it does by the operations of its message. -/
theorem touched_continueDecoding (cfg : Config σ) (hs : s.message.id = i) (position : ℕ) :
    (s.continueDecoding cfg position).2.message.id = i ∧
      Touched i True s.downstream (s.continueDecoding cfg position).2.downstream := by
  have hboth := (alike_continueDecoding (respects_touched cfg i True s.downstream)
    (fun _ _ => Or.inr trivial) ⟨rfl, hs, rfl, .refl⟩ position).snd
  exact ⟨hboth.id, hboth.downstream.2⟩

end Stream

end MetaProtocolProxy

import MetaProtocolProxy.LifeCycle
import MetaProtocolProxy.Ownership

/-!
# Interleavings of the upstreams

The messages of a connection share its codec, its buffer and its decoder, and every message
that goes on has the connection read its bytes again. But a Dubbo connection at rest
reads nothing from them, so an event for a message is what it does to this message and
its own part of the connection (`Calm.step`), and what a message sees is not changed by the
events for others. What becomes of it is then the same in all interleavings
(`interleaving`).
-/

namespace MetaProtocolProxy

variable {σ : Type} {cfg : Config σ} {i j : ℕ}

/-! ## What a message sees -/

/-- The writes with a message, or without. -/
def Downstream.writesOf (message : Option ℕ) (d : Downstream σ) : List Write :=
  d.written.filter fun w => w.message = message

/-- Two connections that message `i` sees no difference between. -/
structure SeesSame (i : ℕ) (d d' : Downstream σ) : Prop where
  codec : d.codec = d'.codec
  state : d.state = d'.state
  writesOf : d.writesOf (some i) = d'.writesOf (some i)
  active : d.activeMessageList.count i = d'.activeMessageList.count i
  queue : d.deferredDelete.count i = d'.deferredDelete.count i

namespace SeesSame

variable {d d' d'' : Downstream σ}

theorem refl (i : ℕ) (d : Downstream σ) : SeesSame i d d :=
  ⟨rfl, rfl, rfl, rfl, rfl⟩

theorem symm (h : SeesSame i d d') : SeesSame i d' d :=
  ⟨h.codec.symm, h.state.symm, h.writesOf.symm, h.active.symm, h.queue.symm⟩

theorem trans (h : SeesSame i d d') (h' : SeesSame i d' d'') : SeesSame i d d'' :=
  ⟨h.codec.trans h'.codec, h.state.trans h'.state, h.writesOf.trans h'.writesOf,
    h.active.trans h'.active, h.queue.trans h'.queue⟩

theorem mem_active (h : SeesSame i d d') :
    i ∈ d.activeMessageList ↔ i ∈ d'.activeMessageList := by
  rw [← List.count_pos_iff, h.active, List.count_pos_iff]

theorem mem_queue (h : SeesSame i d d') : i ∈ d.deferredDelete ↔ i ∈ d'.deferredDelete := by
  rw [← List.count_pos_iff, h.queue, List.count_pos_iff]

theorem write (h : SeesSame i d d') (w : Write) : SeesSame i (d.write w) (d'.write w) := by
  refine ⟨h.codec, h.state, ?_, h.active, h.queue⟩
  have hwrites := h.writesOf
  unfold Downstream.writesOf at hwrites ⊢
  simp only [Downstream.write, List.filter_append, hwrites]

theorem deferredMessage (h : SeesSame i d d') :
    SeesSame i (d.deferredMessage i) (d'.deferredMessage i) := by
  unfold Downstream.deferredMessage
  by_cases hi : i ∈ d.activeMessageList
  · rw [if_pos hi, if_pos (h.mem_active.mp hi)]
    refine ⟨h.codec, h.state, h.writesOf, ?_, ?_⟩
    · simp only [List.count_erase_self, h.active]
    · simp only [List.count_append, h.queue]
  · rw [if_neg hi, if_neg fun hi' => hi (h.mem_active.mpr hi')]
    exact h

end SeesSame

/-- The operations of a message do the same on connections that look the same to it. -/
theorem respects_seesSame (cfg : Config σ) (i : ℕ) : Respects cfg i False (SeesSame i) where
  isOpen h := by rw [h.state]
  onError h := by rw [h.codec]
  inc h _ := ⟨h.codec, h.state, h.writesOf, h.active, h.queue⟩
  dec h _ := ⟨h.codec, h.state, h.writesOf, h.active, h.queue⟩
  panic h _ := ⟨h.codec, h.state, h.writesOf, h.active, h.queue⟩
  write h w _ _ := h.write w
  deferredMessage h := h.deferredMessage
  close hc := hc.elim

/-- A message sees nothing of what another does, as long as no connection is closed. -/
theorem Touched.seesSame {d d' : Downstream σ} (h : Touched i False d d') (hj : j ≠ i) :
    SeesSame j d d' := by
  induction h with
  | refl => exact .refl j d
  | inc _ _ ih => exact ⟨ih.codec, ih.state, ih.writesOf, ih.active, ih.queue⟩
  | dec _ _ ih => exact ⟨ih.codec, ih.state, ih.writesOf, ih.active, ih.queue⟩
  | panic _ _ ih => exact ⟨ih.codec, ih.state, ih.writesOf, ih.active, ih.queue⟩
  | write _ w hw _ ih =>
    refine ⟨ih.codec, ih.state, ?_, ih.active, ih.queue⟩
    have hne : ¬w.message = some j := by
      rw [hw]
      exact fun h => hj (Option.some.inj h).symm
    rw [ih.writesOf]
    simp [Downstream.writesOf, Downstream.write, hne]
  | @deferredMessage d' _ ih =>
    refine ih.trans ?_
    unfold Downstream.deferredMessage
    split
    · refine ⟨rfl, rfl, rfl, ?_, ?_⟩
      · exact (List.count_erase_of_ne hj).symm
      · simp [List.count_append, Ne.symm hj]
    · exact .refl j d'
  | close _ hc _ _ => exact hc.elim

/-- A message writes nothing that is not for a message. -/
theorem Touched.writesOf_none {closes : Prop} {d d' : Downstream σ} (h : Touched i closes d d') :
    d'.writesOf none = d.writesOf none := by
  induction h with
  | refl => rfl
  | write _ w hw _ ih => simpa [Downstream.writesOf, Downstream.write, hw] using ih
  | @deferredMessage d' _ ih =>
    unfold Downstream.writesOf at ih ⊢
    rw [Downstream.written_deferredMessage]
    exact ih
  | close _ _ type ih =>
    unfold Downstream.writesOf at ih ⊢
    rw [Downstream.written_close]
    exact ih
  | _ => assumption

namespace ConnectionManager

/-! ## What an event does to its message -/

/-- A connection that reads nothing by itself. -/
structure Calm (cfg : Config σ) (cm : ConnectionManager σ) : Prop where
  rest : Resting cfg cm
  id : ∀ i, (cm.messages i).id = i
  halfClosed : cm.halfClosed = false
  decodingFailed : cm.decodingFailed = false

/-- An event as a function of the message it is for. -/
def Event.effect (cfg : Config σ) (e : Event) (s : Stream σ) : Stream σ :=
  match e with
  | .downstreamData _ _ | .downstreamClose _ => s
  | .poolReady _ host leftover =>
    ((s.onPoolReadyConnection host leftover).continueDecoding cfg
      (routerPosition cfg)).2.onRequestComplete.encodeData
  | .poolFailure _ reason host =>
    match reason with
    | .overflow => s.onPoolFailureReset cfg reason host
    | .timeout | .localConnectionFailure | .remoteConnectionFailure =>
      ((s.onPoolFailureReset cfg reason host).continueDecoding cfg (routerPosition cfg)).2
  | .upstreamData _ data endStream =>
    s.onUpstreamData cfg
      ((s.message.router.upstreamRequest.bind (·.connData)).elim [] (·.buffer) ++ data) endStream
  | .upstreamClose _ event => s.upstreamClosed cfg event
  | .continueDecoding _ position => (s.continueDecoding cfg position).2
  | .continueEncoding _ position => s.continueEncoding cfg position
  | .release _ => s.destroy cfg

/-- What an event does to its message is a matter of the message. -/
theorem local_effect {closes : Prop} (hw : cfg.Within closes) (i : ℕ) (e : Event) :
    Stream.Local cfg i closes (e.effect cfg) := by
  intro R hr s s' h
  cases e with
  | downstreamData data endStream => exact h
  | downstreamClose event => exact h
  | poolReady _ host leftover =>
    have hready : Stream.Both i R (s.onPoolReadyConnection host leftover)
        (s'.onPoolReadyConnection host leftover) := (h.onRequest _).onRequest _
    exact ((Stream.alike_continueDecoding hr hw hready _).snd.onRequest _).encodeData hr
  | poolFailure _ reason host =>
    have hreset := h.onPoolFailureReset hr reason host
    cases reason with
    | overflow => exact hreset
    | _ => exact (Stream.alike_continueDecoding hr hw hreset _).snd
  | upstreamData _ data endStream =>
    unfold Event.effect
    dsimp only
    rw [← h.message]
    exact h.onUpstreamData hr hw _ endStream
  | upstreamClose _ event => exact h.upstreamClosed hr event
  | continueDecoding _ position => exact (Stream.alike_continueDecoding hr hw h position).snd
  | continueEncoding _ position => exact h.continueEncoding hr hw position
  | release _ => exact h.destroy hr

/-- From `cm` to `cm'` nothing but the flags and the decoder changes. -/
structure Idle (cm cm' : ConnectionManager σ) : Prop where
  messages : cm'.messages = cm.messages
  downstream : cm'.downstream = cm.downstream

theorem Idle.onStream {cm cm' : ConnectionManager σ} (h : Idle cm cm') (i : ℕ)
    (f : Stream σ → Stream σ) : Idle (cm.onStream i f) (cm'.onStream i f) := by
  have hstream : cm'.stream i = cm.stream i := by
    unfold stream
    rw [h.messages, h.downstream]
  unfold ConnectionManager.onStream
  rw [hstream]
  exact ⟨by simp only [setStream, h.messages], rfl⟩

section Calm

variable {cm : ConnectionManager σ}

theorem Calm.setStream (h : Calm cfg cm) {s : Stream σ} (hid : s.message.id = i)
    (ht : Touched i True cm.downstream s.downstream) : Calm cfg (cm.setStream i s) := by
  refine ⟨h.rest.setStream ht, fun j => ?_, h.halfClosed, h.decodingFailed⟩
  by_cases hj : j = i
  · simpa [ConnectionManager.setStream, hj] using hid
  · simpa [ConnectionManager.setStream, Function.update_of_ne hj] using h.id j

theorem Calm.onStream (h : Calm cfg cm) {f : Stream σ → Stream σ}
    (hf : Stream.Local cfg i True f) : Calm cfg (cm.onStream i f) := by
  obtain ⟨hid, ht⟩ := hf.touched (s := cm.stream i) (h.id i)
  exact h.setStream hid ht

/-- A calm connection goes on with nothing. -/
theorem Calm.continueDecoding (h : Calm cfg cm) :
    Idle cm (cm.continueDecoding cfg) ∧ Calm cfg (cm.continueDecoding cfg) := by
  have hrest : Resting cfg { cm with stopped := false } := ⟨h.rest.ready, h.rest.bytes⟩
  obtain ⟨decoder, hready, hd | ⟨hfailed, -⟩⟩ := hrest.dispatch
  · unfold ConnectionManager.continueDecoding
    dsimp only
    rw [hd]
    dsimp only
    rw [h.halfClosed, if_neg (by simp)]
    exact ⟨⟨rfl, rfl⟩, ⟨hready, h.rest.bytes⟩, h.id, rfl, h.decodingFailed⟩
  · cases h.decodingFailed.symm.trans hfailed

theorem Calm.continueMessage (h : Calm cfg cm) (i position : ℕ) :
    Idle (cm.setStream i ((cm.stream i).continueDecoding cfg position).2)
        (cm.continueMessage cfg i position) ∧
      Calm cfg (cm.continueMessage cfg i position) := by
  have hw : cfg.Within True := fun _ _ => Or.inr trivial
  have hcalm : Calm cfg (cm.setStream i ((cm.stream i).continueDecoding cfg position).2) :=
    h.onStream (local_effect hw i (.continueDecoding i position))
  unfold ConnectionManager.continueMessage
  generalize (cm.stream i).continueDecoding cfg position = r at hcalm ⊢
  obtain ⟨_ | _, s⟩ := r
  · exact ⟨⟨rfl, rfl⟩, hcalm⟩
  · exact hcalm.continueDecoding

/-- An event for a message of a calm connection is what it does to the message. -/
theorem Calm.step (h : Calm cfg cm) {e : Event} (he : e.message = some i) :
    Idle (cm.onStream i (e.effect cfg)) (cm.step cfg e) ∧ Calm cfg (cm.step cfg e) := by
  have hw : cfg.Within True := fun _ _ => Or.inr trivial
  have hcalm := h.onStream (local_effect hw i e)
  cases e with
  | downstreamData data endStream => cases he
  | downstreamClose event => cases he
  | poolReady k host leftover =>
    obtain rfl := Option.some.inj he
    have hready := h.onStream (i := k) (f := Stream.onPoolReadyConnection host leftover)
      fun _ _ _ hb => (hb.onRequest _).onRequest _
    obtain ⟨hidle, hcontinue⟩ := hready.continueMessage k (routerPosition cfg)
    have hencode := hcontinue.onStream (i := k) (f := fun s => s.onRequestComplete.encodeData)
      fun hr _ _ hb => (hb.onRequest _).encodeData hr
    have hall := hidle.onStream k fun s => s.onRequestComplete.encodeData
    simp only [ConnectionManager.onStream, stream_setStream, setStream_setStream] at hall
    exact ⟨hall, hencode⟩
  | poolFailure k reason host =>
    obtain rfl := Option.some.inj he
    have hreset := h.onStream (i := k) (f := Stream.onPoolFailureReset cfg reason host)
      fun hr _ _ hb => hb.onPoolFailureReset hr reason host
    obtain ⟨hidle, hcontinue⟩ := hreset.continueMessage k (routerPosition cfg)
    simp only [ConnectionManager.onStream, stream_setStream, setStream_setStream] at hidle
    unfold ConnectionManager.step onPoolFailure
    cases reason with
    | overflow => exact ⟨⟨rfl, rfl⟩, hreset⟩
    | _ => exact ⟨hidle, hcontinue⟩
  | continueDecoding k position =>
    obtain rfl := Option.some.inj he
    exact h.continueMessage k position
  | upstreamData k data endStream =>
    obtain rfl := Option.some.inj he
    exact ⟨⟨rfl, rfl⟩, hcalm⟩
  | upstreamClose k event =>
    obtain rfl := Option.some.inj he
    exact ⟨⟨rfl, rfl⟩, hcalm⟩
  | continueEncoding k position =>
    obtain rfl := Option.some.inj he
    exact ⟨⟨rfl, rfl⟩, hcalm⟩
  | release k =>
    obtain rfl := Option.some.inj he
    exact ⟨⟨rfl, rfl⟩, hcalm⟩

end Calm

/-! ## Runs -/

/-- Two connections that agree on message `i` and what it sees. -/
structure Agree (i : ℕ) (cm cm' : ConnectionManager σ) : Prop where
  message : cm.messages i = cm'.messages i
  downstream : SeesSame i cm.downstream cm'.downstream

theorem Agree.refl (i : ℕ) (cm : ConnectionManager σ) : Agree i cm cm :=
  ⟨rfl, .refl i _⟩

section Agree

variable {cm cm' cm'' : ConnectionManager σ}

theorem Agree.symm (h : Agree i cm cm') : Agree i cm' cm :=
  ⟨h.message.symm, h.downstream.symm⟩

theorem Agree.trans (h : Agree i cm cm') (h' : Agree i cm' cm'') : Agree i cm cm'' :=
  ⟨h.message.trans h'.message, h.downstream.trans h'.downstream⟩

theorem Idle.agree (h : Idle cm cm') (i : ℕ) : Agree i cm cm' :=
  ⟨congrFun h.messages.symm i, h.downstream ▸ .refl i _⟩

variable (hw : cfg.Within False)
include hw

/-- An event does the same to its message on connections that agree on it. -/
theorem Agree.step (h : Agree i cm cm') (hc : Calm cfg cm) (hc' : Calm cfg cm') {e : Event}
    (he : e.message = some i) : Agree i (cm.step cfg e) (cm'.step cfg e) := by
  have hsame : Stream.Both i (SeesSame i) (cm.stream i) (cm'.stream i) :=
    ⟨h.message, hc.id i, h.downstream⟩
  have hboth := local_effect hw i e (respects_seesSame cfg i) hsame
  have honStream : Agree i (cm.onStream i (e.effect cfg)) (cm'.onStream i (e.effect cfg)) := by
    refine ⟨?_, hboth.downstream⟩
    simpa [onStream, setStream] using hboth.message
  exact ((hc.step he).1.agree i).symm.trans (honStream.trans ((hc'.step he).1.agree i))

/-- An event for another message makes no difference. -/
theorem agree_step (hc : Calm cfg cm) {e : Event} (he : e.message = some j) (hj : i ≠ j) :
    Agree i cm (cm.step cfg e) := by
  obtain ⟨-, ht⟩ := Stream.Local.touched (local_effect hw j e) (s := cm.stream j) (hc.id j)
  have honStream : Agree i cm (cm.onStream j (e.effect cfg)) := by
    refine ⟨?_, ht.seesSame hj⟩
    simp [onStream, setStream, Function.update_of_ne hj]
  exact honStream.trans ((hc.step he).1.agree i)

theorem agree_run_filter {es : List Event} (hes : ∀ e ∈ es, e.message ≠ none)
    (hc : Calm cfg cm) (i : ℕ) :
    Agree i ((system cfg).run cm es)
      ((system cfg).run cm (es.filter fun e => e.message = some i)) := by
  refine Transition.agree_run_filter (J := Calm cfg) (D := fun e => e.message ≠ none)
    (fun cm e he hc => ?_) (fun cm cm' e _ ho hc hc' h => ?_) (fun cm cm' e he ho hc h => ?_)
    hes hc hc (.refl i cm)
  · obtain ⟨k, hk⟩ := Option.ne_none_iff_exists'.mp he
    exact (hc.step hk).2
  · exact h.step hw hc hc' (of_decide_eq_true ho)
  · obtain ⟨k, hk⟩ := Option.ne_none_iff_exists'.mp he
    have hne : i ≠ k := fun heq => of_decide_eq_false ho (heq ▸ hk)
    exact (agree_step hw hc hk hne).symm.trans h

end Agree

theorem writesOf_none_run {es : List Event} (hes : ∀ e ∈ es, e.message ≠ none)
    {cm : ConnectionManager σ} (hc : Calm cfg cm) :
    ((system cfg).run cm es).downstream.writesOf none = cm.downstream.writesOf none := by
  induction es generalizing cm with
  | nil => rfl
  | cons e es ih =>
    obtain ⟨k, hk⟩ := Option.ne_none_iff_exists'.mp (hes e List.mem_cons_self)
    obtain ⟨hidle, hcalm⟩ := hc.step hk
    have hw : cfg.Within True := fun _ _ => Or.inr trivial
    obtain ⟨-, ht⟩ := Stream.Local.touched (local_effect hw k e) (s := cm.stream k) (hc.id k)
    refine (ih (fun e' he' => hes e' (List.mem_cons_of_mem e he')) hcalm).trans ?_
    rw [hidle.downstream]
    exact ht.writesOf_none

end ConnectionManager

/-- Writes that agree on every message are the same in some order. -/
theorem Downstream.perm_of_writesOf {d d' : Downstream σ}
    (h : ∀ message, d.writesOf message = d'.writesOf message) : d.written.Perm d'.written := by
  refine List.perm_iff_count.mpr fun w => ?_
  have hcount : ∀ e : Downstream σ, e.written.count w = (e.writesOf w.message).count w :=
    fun e => (List.count_filter (by simp)).symm
  rw [hcount, hcount, h]

namespace ConnectionManager

/-- What becomes of message `i` : the message itself, with the bytes written to its upstream, its
answers, and which list it is in. -/
structure SameFate (i : ℕ) (cm cm' : ConnectionManager σ) : Prop where
  message : cm.messages i = cm'.messages i
  answers : cm.downstream.answers i = cm'.downstream.answers i
  active : i ∈ cm.downstream.activeMessageList ↔ i ∈ cm'.downstream.activeMessageList
  queue : i ∈ cm.downstream.deferredDelete ↔ i ∈ cm'.downstream.deferredDelete

section Dubbo

variable {hessian : Dubbo.Hessian2} {cfg : Config Dubbo.DubboCodec.State}
  {cm : ConnectionManager Dubbo.DubboCodec.State}

/-- An open Dubbo connection is calm. -/
theorem calm_of_open (hc : cfg.codec = Dubbo.DubboCodec.codec hessian) (hcm : cm.Reachable cfg)
    (hopen : cm.downstream.state = .open) : Calm cfg cm := by
  obtain ⟨es, hes, rfl⟩ := hcm
  have hflowing := flowing_run cfg es
  refine ⟨resting_run hc es, hflowing.id, hflowing.prop.halfClosed, Bool.eq_false_iff.mpr ?_⟩
  intro hfailed
  rw [(shut_run hc hes (Or.inr hfailed)).state] at hopen
  cases hopen

/-- Whatever order the events for several messages come in, as long as those for each message keep
theirs, every message has the same fate, and the client is written the same in some
order. -/
theorem interleaving (hc : cfg.codec = Dubbo.DubboCodec.codec hessian) (hr : cfg.RouterOnly)
    (hcm : cm.Reachable cfg) (hopen : cm.downstream.state = .open) {es es' : List Event}
    (hes : ∀ e ∈ es, e.message ≠ none) (hes' : ∀ e ∈ es', e.message ≠ none)
    (h : ∀ i, es.filter (fun e => e.message = some i) = es'.filter fun e => e.message = some i) :
    (∀ i, SameFate i ((system cfg).run cm es) ((system cfg).run cm es')) ∧
      ((system cfg).run cm es).downstream.written.Perm
        ((system cfg).run cm es').downstream.written := by
  have hcalm := calm_of_open hc hcm hopen
  have hw : cfg.Within False := by
    intro filter hfilter
    rw [hr.decoderFilters, hr.encoderFilters] at hfilter
    refine Or.inl ?_
    rcases List.mem_append.mp hfilter with hmem | hmem <;> rw [List.mem_singleton.mp hmem] <;> rfl
  have hagree : ∀ i, Agree i ((system cfg).run cm es) ((system cfg).run cm es') := by
    intro i
    have hfilter := agree_run_filter hw hes hcalm i
    rw [h i] at hfilter
    exact hfilter.trans (agree_run_filter hw hes' hcalm i).symm
  refine ⟨fun i => ?_, Downstream.perm_of_writesOf fun message => ?_⟩
  · obtain ⟨hmessage, hdownstream⟩ := hagree i
    exact ⟨hmessage, hdownstream.writesOf, hdownstream.mem_active, hdownstream.mem_queue⟩
  · cases message with
    | none => rw [writesOf_none_run hes hcalm, writesOf_none_run hes' hcalm]
    | some i => exact (hagree i).downstream.writesOf

/-- Two requests that wait for the pool. -/
def twoRequests : List Event :=
  [.downstreamData (DubboExample.request 1 ++ DubboExample.request 2) false]

/-- The first is answered before the second is connected. -/
def oneByOne : List Event :=
  [.poolReady 0 "host" [], .upstreamData 0 (DubboExample.response 1) false,
    .poolReady 1 "host" [], .upstreamData 1 (DubboExample.response 2) false]

/-- The second overtakes the first. -/
def overtaking : List Event :=
  [.poolReady 0 "host" [], .poolReady 1 "host" [],
    .upstreamData 1 (DubboExample.response 2) false,
    .upstreamData 0 (DubboExample.response 1) false]

theorem interleaving_overtaking :
    (∀ i, SameFate i
      ((system (DubboExample.config (some .pending))).run
        ((system (DubboExample.config (some .pending))).run
          (new (DubboExample.config (some .pending))) twoRequests) oneByOne)
      ((system (DubboExample.config (some .pending))).run
        ((system (DubboExample.config (some .pending))).run
          (new (DubboExample.config (some .pending))) twoRequests) overtaking)) ∧
    ((system (DubboExample.config (some .pending))).run
        ((system (DubboExample.config (some .pending))).run
          (new (DubboExample.config (some .pending))) twoRequests) oneByOne
            ).downstream.written.Perm
      ((system (DubboExample.config (some .pending))).run
        ((system (DubboExample.config (some .pending))).run
          (new (DubboExample.config (some .pending))) twoRequests) overtaking).downstream.written :=
  @interleaving Dubbo.Hessian2.compact _ _ rfl ⟨rfl, rfl⟩
    ⟨twoRequests, by decide +kernel, rfl⟩ (by decide +kernel) _ _ (by decide +kernel)
    (by decide +kernel) fun i => by rcases i with _ | _ | i <;> rfl

end Dubbo

end ConnectionManager

end MetaProtocolProxy

import MetaProtocolProxy.Moves
import MetaProtocolProxy.Resting

/-!
# Who owns a message

A message is in the list of active messages from its creation until it is handed to deferred
deletion, and seven ways lead there, some from within one another. It goes only once : at
any time each message that was created is in one of the two lists, in one place. A closed
connection has no active message and makes no new one, although the bytes it has left
are read again when a message goes on.
-/

namespace MetaProtocolProxy

variable {σ : Type}

namespace Downstream

/-- The messages that are active, and those that were handed to deferred deletion. -/
def listed (d : Downstream σ) : List ℕ :=
  d.activeMessageList ++ d.deferredDelete

/-- Closed, with no message left. -/
structure Shut (d : Downstream σ) : Prop where
  state : d.state = .closed
  active : d.activeMessageList = []

theorem perm_deferredMessage (i : ℕ) (d : Downstream σ) :
    (d.deferredMessage i).listed.Perm d.listed := by
  unfold deferredMessage listed
  split
  · rename_i hi
    have hback : (d.activeMessageList.erase i ++ (d.deferredDelete ++ [i])).Perm
        (d.activeMessageList.erase i ++ ([i] ++ d.deferredDelete)) :=
      List.perm_append_comm.append_left _
    refine hback.trans ?_
    rw [← List.append_assoc]
    refine List.Perm.append_right _ (List.perm_append_comm.trans ?_)
    exact (List.perm_cons_erase hi).symm
  · exact .refl _

theorem prefix_deferredMessage (i : ℕ) (d : Downstream σ) :
    d.deferredDelete <+: (d.deferredMessage i).deferredDelete := by
  unfold deferredMessage
  split
  · exact List.prefix_append _ _
  · exact List.prefix_rfl

section Lists

variable {P : List ℕ → List ℕ → Prop}
  (hrelease : ∀ (d : Downstream σ) i, P d.activeMessageList d.deferredDelete →
    P (d.deferredMessage i).activeMessageList (d.deferredMessage i).deferredDelete)
include hrelease

/-- What releasing a message keeps of the two lists, resetting everything keeps. -/
theorem lists_resetAllMessages (localReset : Bool) {d : Downstream σ}
    (h : P d.activeMessageList d.deferredDelete) :
    P (d.resetAllMessages localReset).activeMessageList
      (d.resetAllMessages localReset).deferredDelete :=
  resetAllMessages_of (P := fun d => P d.activeMessageList d.deferredDelete) (fun _ _ h => h)
    hrelease localReset h

theorem lists_close (type : ConnectionCloseType) {d : Downstream σ}
    (h : P d.activeMessageList d.deferredDelete) :
    P (d.close type).activeMessageList (d.close type).deferredDelete := by
  cases type <;> simp only [close]
  · split
    · exact h
    · exact h
  · split
    · exact h
    · exact lists_resetAllMessages (d := { d with state := .closed }) hrelease _ h

theorem lists_touched {i : ℕ} {closes : Prop} {d d' : Downstream σ} (ht : Touched i closes d d')
    (h : P d.activeMessageList d.deferredDelete) : P d'.activeMessageList d'.deferredDelete := by
  induction ht with
  | refl => exact h
  | deferredMessage _ ih => exact hrelease _ i ih
  | close _ _ type ih => exact lists_close hrelease type ih
  | _ => assumption

end Lists

theorem shut_closed (event : ConnectionEvent) (d : Downstream σ) : (d.closed event).Shut :=
  ⟨state_resetAllMessages _ _, active_resetAllMessages _ _⟩

theorem Shut.deferredMessage {d : Downstream σ} (h : d.Shut) (i : ℕ) :
    (d.deferredMessage i).Shut := by
  unfold Downstream.deferredMessage
  rw [h.active, if_neg (List.not_mem_nil)]
  exact h

theorem Shut.close {d : Downstream σ} (h : d.Shut) (type : ConnectionCloseType) :
    (d.close type).Shut := by
  cases type <;> simp only [Downstream.close, h.state]
  · exact h
  · exact h

theorem Shut.resetAllMessages {d : Downstream σ} (h : d.Shut) (localReset : Bool) :
    (d.resetAllMessages localReset).Shut :=
  resetAllMessages_of (fun _ _ h => ⟨h.state, h.active⟩) (fun _ i h => h.deferredMessage i) _ h

end Downstream

theorem Touched.shut {i : ℕ} {closes : Prop} {d d' : Downstream σ} (h : Touched i closes d d')
    (hd : d.Shut) : d'.Shut := by
  induction h with
  | refl => exact hd
  | deferredMessage _ ih => exact ih.deferredMessage i
  | close _ _ type ih => exact ih.close type
  | inc _ stat ih => exact ⟨ih.state, ih.active⟩
  | dec _ stat ih => exact ⟨ih.state, ih.active⟩
  | panic _ site ih => exact ⟨ih.state, ih.active⟩
  | write _ w _ _ ih => exact ⟨ih.state, ih.active⟩

namespace ConnectionManager

variable {cfg : Config σ} {cm cm' cm'' : ConnectionManager σ}

/-! ## Active, or handed over -/

/-- Each message that was created is in one of the two lists, in one place. -/
def Owned (cm : ConnectionManager σ) : Prop :=
  cm.downstream.listed.Perm (List.range cm.created)

/-- What releasing a message keeps of the two lists and the number of messages, and a new message
as well, is an invariant. -/
theorem invariant_of_lists {I : σ → Prop} {R : Metadata → Prop} {P : ℕ → List ℕ → List ℕ → Prop}
    (hrelease : ∀ n (d : Downstream σ) i, P n d.activeMessageList d.deferredDelete →
      P n (d.deferredMessage i).activeMessageList (d.deferredMessage i).deferredDelete)
    (hnew : ∀ {n active queue}, P n active queue → P (n + 1) (n :: active) queue) :
    Invariant cfg I R fun cm =>
      P cm.created cm.downstream.activeMessageList cm.downstream.deferredDelete where
  read h _ _ _ := h
  go h := h
  halfClose h _ := h
  stream h _ _ _ ht := Downstream.lists_touched (hrelease _) ht h
  newMessage h _ _ := hnew h
  onHeartbeat := by
    intro cm h _ metadata _
    obtain ⟨ws, hcm, -⟩ := onHeartbeat_spec cfg metadata cm
    rw [hcm]
    exact h
  onDecodingError := by
    intro cm h
    have hclose := Downstream.lists_close (hrelease _) .noFlush h
    exact Downstream.lists_resetAllMessages (hrelease _) true
      (d := (cm.downstream.close .noFlush).inc .requestDecodingError) hclose
  resetAndClose h :=
    Downstream.lists_close (hrelease _) .flushWrite
      (Downstream.lists_resetAllMessages (hrelease _) false h)
  closed := by
    intro cm h event
    exact Downstream.lists_resetAllMessages (hrelease _) (event = .localClose)
      (d := { cm.downstream with state := .closed }) h

theorem invariant_owned {I : σ → Prop} {R : Metadata → Prop} :
    Invariant cfg I R (Owned (σ := σ)) := by
  refine invariant_of_lists (P := fun n active queue => (active ++ queue).Perm (List.range n))
    (fun n d i h => (Downstream.perm_deferredMessage i d).trans h) fun {n active queue} h => ?_
  rw [List.range_succ]
  exact (List.Perm.cons n h).trans (List.perm_append_singleton n _).symm

/-- What was handed over stays handed over, in its place. -/
theorem invariant_queue {I : σ → Prop} {R : Metadata → Prop} (queue : List ℕ) :
    Invariant cfg I R fun cm => queue <+: cm.downstream.deferredDelete :=
  invariant_of_lists (P := fun _ _ queue' => queue <+: queue')
    (fun _ d i h => h.trans (Downstream.prefix_deferredMessage i d)) fun h => h

/-! ## Closed for good -/

/-- From `cm` to `cm'` no message is made, decoding does not fail, and what is shut stays shut. -/
structure Unread (cm cm' : ConnectionManager σ) : Prop where
  created : cm'.created = cm.created
  decodingFailed : cm'.decodingFailed = cm.decodingFailed
  shut : cm.downstream.Shut → cm'.downstream.Shut

theorem Unread.trans (h : Unread cm cm') (h' : Unread cm' cm'') : Unread cm cm'' :=
  ⟨h'.created.trans h.created, h'.decodingFailed.trans h.decodingFailed,
    fun hs => h'.shut (h.shut hs)⟩

theorem unread_setStream {i : ℕ} {s : Stream σ} (ht : Touched i True cm.downstream s.downstream) :
    Unread cm (cm.setStream i s) :=
  ⟨rfl, rfl, fun hs => ht.shut hs⟩

theorem unread_resetAndClose (cm : ConnectionManager σ) : Unread cm cm.resetAndClose :=
  ⟨rfl, rfl, fun hs => (hs.resetAllMessages false).close .flushWrite⟩

theorem unread_after (h : AfterDispatch cm cm') : Unread cm cm' := by
  cases h with
  | more => exact ⟨rfl, rfl, id⟩
  | reset => exact unread_resetAndClose cm
  | halfClose => exact ⟨rfl, rfl, id⟩
  | assert => exact ⟨rfl, rfl, fun hs => ⟨hs.state, hs.active⟩⟩

theorem shut_onDecodingError (cm : ConnectionManager σ) : cm.onDecodingError.downstream.Shut := by
  refine ⟨?_, Downstream.active_resetAllMessages _ _⟩
  refine (Downstream.state_resetAllMessages _ _).trans ?_
  change (cm.downstream.close .noFlush).state = .closed
  unfold Downstream.close
  dsimp only
  split
  · assumption
  · exact Downstream.state_resetAllMessages _ _

theorem Resting.unread_dispatch (h : Resting cfg cm) : Unread cm (cm.dispatch cfg) := by
  obtain ⟨decoder, -, hd | ⟨hfailed, hd⟩⟩ := h.dispatch
  · rw [hd]
    exact ⟨rfl, rfl, id⟩
  · rw [hd]
    exact ⟨rfl, hfailed.symm, fun _ => shut_onDecodingError _⟩

theorem Resting.unread_continueDecoding (h : Resting cfg cm) :
    Unread cm (cm.continueDecoding cfg) := by
  have hgo : Unread cm { cm with stopped := false } := ⟨rfl, rfl, id⟩
  have hdispatch := hgo.trans (@Resting.unread_dispatch _ cfg _ ⟨h.ready, h.bytes⟩)
  exact hdispatch.trans (unread_after (continueDecoding_after cfg cm))

theorem Resting.setStream (h : Resting cfg cm) {i : ℕ} {s : Stream σ}
    (ht : Touched i True cm.downstream s.downstream) : Resting cfg (cm.setStream i s) :=
  h.of_eq ht.codec rfl h.ready rfl

theorem Resting.unread_continueMessage (h : Resting cfg cm) {i : ℕ} (hid : (cm.messages i).id = i)
    (position : ℕ) : Unread cm (cm.continueMessage cfg i position) := by
  have hcontinue := (@Stream.touched_continueDecoding _ _ (cm.stream i) cfg hid position).2
  unfold ConnectionManager.continueMessage
  generalize (cm.stream i).continueDecoding cfg position = r at hcontinue ⊢
  obtain ⟨_ | _, s⟩ := r
  · exact unread_setStream hcontinue
  · exact (unread_setStream hcontinue).trans (h.setStream hcontinue).unread_continueDecoding

theorem Resting.unread_onStream (h : Resting cfg cm) {i : ℕ} (hid : (cm.messages i).id = i)
    {f : Stream σ → Stream σ} (hf : Stream.Local cfg i True f) :
    Unread cm (cm.onStream i f) ∧ Resting cfg (cm.onStream i f) := by
  have ht := (hf.touched (s := cm.stream i) hid).2
  exact ⟨unread_setStream ht, h.setStream ht⟩

theorem invariant_true : Invariant cfg (fun _ => True) (fun _ => True) fun _ => True :=
  ⟨fun _ _ _ _ => trivial, fun _ => trivial, fun _ _ => trivial, fun _ _ _ _ _ => trivial,
    fun _ _ _ => trivial, fun _ _ _ _ => trivial, fun _ => trivial, fun _ => trivial,
    fun _ _ => trivial⟩

/-- Only the client makes a connection at rest read. -/
theorem Resting.unread_step (h : Resting cfg cm)
    (hn : Holds (fun _ => True) (fun _ => True) cm) {e : Event}
    (hdata : ∀ data endStream, e ≠ .downstreamData data endStream) :
    Unread cm (cm.step cfg e) := by
  have hw : cfg.Within True := fun _ _ => Or.inr trivial
  have hk := cfg.codec.keeps_true
  cases e with
  | downstreamData data endStream => exact absurd rfl (hdata data endStream)
  | downstreamClose event => exact ⟨rfl, rfl, fun _ => Downstream.shut_closed _ _⟩
  | poolReady i host leftover =>
    have hlocal : Stream.Local cfg i True (Stream.onPoolReadyConnection host leftover) :=
      fun _ _ _ hb => (hb.onRequest _).onRequest _
    obtain ⟨hready, hrest⟩ := h.unread_onStream (hn.id i) hlocal
    have hn' := hn.onStream invariant_true hlocal
    have hcontinue := hrest.unread_continueMessage (hn'.id i) (routerPosition cfg)
    have hn'' := hn'.continueMessage invariant_true hk i (routerPosition cfg)
    refine (hready.trans hcontinue).trans (unread_setStream ?_)
    have hencode : Stream.Local cfg i True fun s => s.onRequestComplete.encodeData :=
      fun hr _ _ hb => (hb.onRequest _).encodeData hr
    exact (hencode.touched (s := stream i _) (hn''.id i)).2
  | poolFailure i reason host =>
    have hlocal : Stream.Local cfg i True (Stream.onPoolFailureReset cfg reason host) :=
      fun hr _ _ hb => hb.onPoolFailureReset hr reason host
    obtain ⟨hreset, hrest⟩ := h.unread_onStream (hn.id i) hlocal
    have hn' := hn.onStream invariant_true hlocal
    have hcontinue := hreset.trans (hrest.unread_continueMessage (hn'.id i) (routerPosition cfg))
    unfold ConnectionManager.step onPoolFailure
    cases reason with
    | overflow => exact hreset
    | _ => exact hcontinue
  | upstreamData i data endStream =>
    exact (h.unread_onStream (hn.id i) fun hr _ _ hb => hb.onUpstreamData hr hw _ endStream).1
  | upstreamClose i event =>
    exact (h.unread_onStream (hn.id i) fun hr _ _ hb => hb.upstreamClosed hr event).1
  | continueDecoding i position => exact h.unread_continueMessage (hn.id i) position
  | continueEncoding i position =>
    exact (h.unread_onStream (hn.id i) fun hr _ _ hb => hb.continueEncoding hr hw position).1
  | release i => exact (h.unread_onStream (hn.id i) fun hr _ _ hb => hb.destroy hr).1

theorem decodingFailed_onHeartbeat (metadata : Metadata) (cm : ConnectionManager σ) :
    (cm.onHeartbeat cfg metadata).2.decodingFailed = cm.decodingFailed := by
  obtain ⟨ws, hcm, -⟩ := onHeartbeat_spec cfg metadata cm
  rw [hcm]

/-- An exception that ends the loop shuts the connection. -/
theorem shut_dispatch (hf : cm.decodingFailed = false) :
    (cm.dispatch cfg).decodingFailed = true → (cm.dispatch cfg).downstream.Shut := by
  have hnot : ∀ {cm : ConnectionManager σ}, cm.decodingFailed = false →
      cm.decodingFailed = true → cm.downstream.Shut :=
    fun hf h => absurd (hf.symm.trans h) (by simp)
  refine dispatch_rule (P := fun cm => cm.decodingFailed = false)
    (Q := fun cm => cm.decodingFailed = true → cm.downstream.Shut) hnot ?_ ?_ hf
  · intro cm cm' hf hturn
    cases hturn with
    | stream => exact hf
    | heartbeat => exact (decodingFailed_onHeartbeat _ _).trans hf
  · intro cm cm' hf hturn
    cases hturn with
    | wait | panic => exact hnot hf
    | error | heartbeatError => exact fun _ => shut_onDecodingError _
    | heartbeatPanic => exact hnot ((decodingFailed_onHeartbeat _ _).trans hf)

theorem shut_onData (hf : cm.decodingFailed = false) (data : Bytes) (endStream : Bool)
    (h : (cm.onData cfg data endStream).decodingFailed = true) :
    (cm.onData cfg data endStream).downstream.Shut := by
  have hdispatch := @shut_dispatch _ cfg { cm with requestBuffer := cm.requestBuffer ++ data } hf
  have hend := unread_after (onData_after cfg data endStream cm)
  exact hend.shut (hdispatch (hend.decodingFailed.symm.trans h))

/-! ## Runs -/

section Dubbo

open Dubbo (Hessian2)

variable {hessian : Hessian2} {cfg : Config Dubbo.DubboCodec.State}

/-- A downstream close event has been handled, or an exception of the decoder. -/
def Ended (es : List Event) (cm : ConnectionManager σ) : Prop :=
  (∃ event, Event.downstreamClose event ∈ es) ∨ cm.decodingFailed = true

/-- A connection that has ended is shut. -/
theorem shut_run (hc : cfg.codec = Dubbo.DubboCodec.codec hessian) {es : List Event}
    (hes : (system cfg).Admissible (new cfg) es) (h : Ended es ((system cfg).run (new cfg) es)) :
    ((system cfg).run (new cfg) es).downstream.Shut := by
  refine Transition.history (S := system cfg) (s := new cfg)
    (P := fun es cm => Ended es cm → cm.downstream.Shut) ?_ ?_ es hes h
  · rintro (⟨event, ⟨⟩⟩ | ⟨⟨⟩⟩)
  intro es e _ he ih hended
  have hrest := resting_run hc es
  have hn := invariant_true.run cfg.codec.keeps_true trivial es
  have hunread := hrest.unread_step (e := e) hn
  generalize (system cfg).run (new cfg) es = cm at he ih hended hunread ⊢
  cases e with
  | downstreamClose event => exact Downstream.shut_closed event _
  | downstreamData data endStream =>
    have hopen : cm.downstream.state = .open := he.2
    have hnot : ¬Ended es cm := fun h => by
      rw [(ih h).state] at hopen
      cases hopen
    rcases hended with ⟨event, hmem⟩ | hfailed
    · rcases List.mem_append.mp hmem with hmem | hmem
      · exact absurd (Or.inl ⟨event, hmem⟩) hnot
      · cases List.mem_singleton.mp hmem
    · exact shut_onData (Bool.eq_false_iff.mpr fun h => hnot (Or.inr h)) data endStream hfailed
  | _ =>
    have hunread := hunread (by rintro _ _ ⟨⟩)
    refine hunread.shut (ih ?_)
    rcases hended with ⟨event, hmem⟩ | hfailed
    · rcases List.mem_append.mp hmem with hmem | hmem
      · exact Or.inl ⟨event, hmem⟩
      · cases List.mem_singleton.mp hmem
    · exact Or.inr (hunread.decodingFailed.symm.trans hfailed)

/-- A connection that has ended makes no more messages. -/
theorem created_run_append (hc : cfg.codec = Dubbo.DubboCodec.codec hessian) {es es' : List Event}
    (hes : (system cfg).Admissible (new cfg) (es ++ es'))
    (h : Ended es ((system cfg).run (new cfg) es)) :
    ((system cfg).run (new cfg) (es ++ es')).created =
      ((system cfg).run (new cfg) es).created ∧
    Ended (es ++ es') ((system cfg).run (new cfg) (es ++ es')) := by
  induction es' using List.reverseRecOn with
  | nil => simpa using h
  | append_singleton es' e ih =>
    rw [← List.append_assoc] at hes ⊢
    obtain ⟨hes', he, -⟩ := Transition.admissible_append.mp hes
    obtain ⟨hcreated, hended⟩ := ih hes'
    have hshut := shut_run hc hes' hended
    have hrest := resting_run hc (es ++ es')
    have hn := invariant_true.run cfg.codec.keeps_true trivial (es ++ es')
    have hunread := hrest.unread_step (e := e) hn
    rw [Transition.run_append]
    generalize (system cfg).run (new cfg) (es ++ es') = cm at *
    have hunread := hunread (by
      rintro data endStream rfl
      have hopen : cm.downstream.state = .open := he.2
      rw [hshut.state] at hopen
      cases hopen)
    refine ⟨hunread.created.trans hcreated, ?_⟩
    rcases hended with ⟨event, hmem⟩ | hfailed
    · exact Or.inl ⟨event, List.mem_append_left _ hmem⟩
    · exact Or.inr (hunread.decodingFailed.trans hfailed)

/-- A message that was destroyed was handed over before. -/
theorem mem_deferredDelete_of_release {es : List Event}
    (hes : (system cfg).Admissible (new cfg) es) {i : ℕ} (hi : Event.release i ∈ es) :
    i ∈ ((system cfg).run (new cfg) es).downstream.deferredDelete := by
  obtain ⟨es₁, es₂, rfl⟩ := List.append_of_mem hi
  obtain ⟨-, he, -⟩ := Transition.admissible_append.mp hes
  have hn := invariant_true.run cfg.codec.keeps_true trivial es₁
  have hqueue := Holds.run (invariant_queue _) cfg.codec.keeps_true
    ⟨hn.codec, hn.id, List.prefix_rfl⟩ (Event.release i :: es₂)
  rw [Transition.run_append]
  exact hqueue.prop.subset he.2.2.2

/-- What a run does with its messages. -/
structure Owns (cfg : Config σ) (es : List Event) : Prop where
  /-- Each message that was created is active or handed over, in one place. -/
  listed : (((system cfg).run (new cfg) es).downstream.activeMessageList ++
      ((system cfg).run (new cfg) es).downstream.deferredDelete).Perm
    (List.range ((system cfg).run (new cfg) es).created)
  /-- A message is handed over once, -/
  once : ((system cfg).run (new cfg) es).downstream.deferredDelete.Nodup
  /-- stays so whatever happens later, -/
  queue : ∀ es', ((system cfg).run (new cfg) es).downstream.deferredDelete <+:
    ((system cfg).run (new cfg) (es ++ es')).downstream.deferredDelete
  /-- and is destroyed only then. -/
  destroyed : ∀ i, Event.release i ∈ es →
    i ∈ ((system cfg).run (new cfg) es).downstream.deferredDelete
  /-- Once the client connection is closed or decoding has failed, no message is active, and no
  event makes one. -/
  ended : Ended es ((system cfg).run (new cfg) es) →
    ∀ es', (system cfg).Admissible (new cfg) (es ++ es') →
      ((system cfg).run (new cfg) (es ++ es')).downstream.activeMessageList = [] ∧
      ((system cfg).run (new cfg) (es ++ es')).created = ((system cfg).run (new cfg) es).created

/-- Every run of a Dubbo connection, with any filters, owns its messages. -/
theorem owns_run (hc : cfg.codec = Dubbo.DubboCodec.codec hessian) {es : List Event}
    (hes : (system cfg).Admissible (new cfg) es) : Owns cfg es := by
  have howned := invariant_owned.run cfg.codec.keeps_true (.refl _) es
  refine ⟨howned.prop, ?_, fun es' => ?_, fun i hi => mem_deferredDelete_of_release hes hi,
    fun hended es' hes' => ?_⟩
  · exact (List.nodup_append.mp (howned.prop.nodup_iff.mpr List.nodup_range)).2.1
  · rw [Transition.run_append]
    exact (Holds.run (invariant_queue _) cfg.codec.keeps_true
      ⟨trivial, howned.id, List.prefix_rfl⟩ es').prop
  · obtain ⟨hcreated, hended'⟩ := created_run_append hc hes' hended
    exact ⟨(shut_run hc hes' hended').active, hcreated⟩

/-- A request that waits for the pool, with malformed bytes behind it : they are read again when the
pool is ready, after which the message is destroyed. -/
def malformed : List Event :=
  [.downstreamData (DubboExample.request 1 ++ List.replicate 16 0) false, .poolReady 0 "host" [],
    .release 0]

theorem owns_malformed : Owns (DubboExample.config (some .pending)) malformed :=
  @owns_run Dubbo.Hessian2.compact _ rfl malformed (by decide +kernel)

end Dubbo

end ConnectionManager

end MetaProtocolProxy

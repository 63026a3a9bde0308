import MetaProtocolProxy.Census
import MetaProtocolProxy.Course
import MetaProtocolProxy.DubboProxy
import MetaProtocolProxy.Ownership

/-!
# The counters tell what happened

The statistics of a connection are a ledger of its traffic (`Ledger`) : the gauge of active requests
counts the messages that have not been destroyed, the counters of requests count the messages that
were decoded and those that were finalized, and the counters of responses and of local replies count
what was written to the client. This holds for every codec and every chain of filters, in every
state of a run (`ledger_run`).
-/

namespace MetaProtocolProxy

variable {σ : Type} {cfg : Config σ} {I : σ → Prop} {R : Metadata → Prop}

/-- The counters of what comes from the client. -/
def Stat.isRequest : Stat → Bool
  | .request | .requestActive | .requestDecodingError | .requestDecodingSuccess | .requestEvent
  | .requestOneway | .requestTwoway => true
  | _ => false

/-- The counters of what goes to the client. -/
def Stat.isBooked : Stat → Bool
  | .response | .responseDecodingSuccess | .responseSuccess | .responseError
  | .responseBusinessException | .localResponseBusinessException | .localResponseSuccess => true
  | _ => false

/-- The response that a reply forwards. -/
def Reply.response : Reply → Option Metadata
  | .upstreamResponse metadata => some metadata
  | .heartbeat | .localReply _ => none

namespace Downstream

/-- The responses of the upstreams that were written to the client. -/
def forwardedResponses (d : Downstream σ) : List Metadata :=
  d.written.filterMap (·.reply.response)

/-- How many messages were counted as reset with their connection. -/
def resets (d : Downstream σ) : ℕ :=
  d.stats .cxDestroyLocalWithActiveRq + d.stats .cxDestroyRemoteWithActiveRq

/-- The counters of responses and local replies count what was written, and no more messages were
counted as reset than were handed to deferred deletion. -/
structure Booked (d : Downstream σ) : Prop where
  response : d.stats .response = d.forwardedResponses.length
  decoded : d.stats .responseDecodingSuccess = d.forwardedResponses.length
  success : d.stats .responseSuccess = d.forwardedResponses.countP (·.responseStatus = .ok)
  error : d.stats .responseError = d.forwardedResponses.countP (·.responseStatus ≠ .ok)
  exception : d.stats .responseBusinessException =
    d.forwardedResponses.countP (·.messageType = .error)
  localReply : d.stats .localResponseBusinessException = d.written.countP (·.reply.isLocal)
  localSuccess : d.stats .localResponseSuccess = 0
  reset : d.resets ≤ d.deferredDelete.length

/-- From `d` to `d'` nothing is counted of what comes from the client, and the books stay right. -/
structure Books (d d' : Downstream σ) : Prop where
  request : ∀ stat, stat.isRequest = true → d'.stats stat = d.stats stat
  listed : d'.activeMessageList.length + d'.deferredDelete.length =
    d.activeMessageList.length + d.deferredDelete.length
  booked : d.Booked → d'.Booked

variable {d d' d'' : Downstream σ}

theorem Books.refl (d : Downstream σ) : d.Books d :=
  ⟨fun _ _ => rfl, rfl, id⟩

theorem Books.trans (h : d.Books d') (h' : d'.Books d'') : d.Books d'' :=
  ⟨fun stat hstat => (h'.request stat hstat).trans (h.request stat hstat),
    h'.listed.trans h.listed, fun hd => h'.booked (h.booked hd)⟩

/-- The books stay right where nothing is written. -/
theorem Booked.of_eq (h : d.Booked) (hstats : ∀ stat, stat.isBooked = true →
    d'.stats stat = d.stats stat) (hwritten : d'.written = d.written)
    (hreset : d'.resets ≤ d'.deferredDelete.length) : d'.Booked := by
  have hresponses : d'.forwardedResponses = d.forwardedResponses := by
    unfold forwardedResponses
    rw [hwritten]
  refine ⟨?_, ?_, ?_, ?_, ?_, ?_, ?_, hreset⟩
  · rw [hstats _ rfl, hresponses, h.response]
  · rw [hstats _ rfl, hresponses, h.decoded]
  · rw [hstats _ rfl, hresponses, h.success]
  · rw [hstats _ rfl, hresponses, h.error]
  · rw [hstats _ rfl, hresponses, h.exception]
  · rw [hstats _ rfl, hwritten, h.localReply]
  · rw [hstats _ rfl, h.localSuccess]

theorem resets_of_eq (h : d'.stats = d.stats) : d'.resets = d.resets := by
  unfold resets
  rw [h]

/-- What counts nothing, writes nothing and leaves the lists. -/
theorem Books.of_eq (hstats : d'.stats = d.stats) (hwritten : d'.written = d.written)
    (hactive : d'.activeMessageList = d.activeMessageList)
    (hdeferred : d'.deferredDelete = d.deferredDelete) : d.Books d' :=
  ⟨fun _ _ => by rw [hstats], by rw [hactive, hdeferred], fun h =>
    h.of_eq (fun _ _ => by rw [hstats]) hwritten (by
      rw [resets_of_eq hstats, hdeferred]
      exact h.reset)⟩

theorem stats_inc_of_ne {stat stat' : Stat} (h : stat' ≠ stat) (d : Downstream σ) :
    (d.inc stat).stats stat' = d.stats stat' :=
  if_neg h

theorem stats_inc_self (stat : Stat) (d : Downstream σ) :
    (d.inc stat).stats stat = d.stats stat + 1 :=
  if_pos rfl

/-- A counter that is in no book. -/
theorem books_inc {stat : Stat} (h : stat.isIncident = true ∨ stat = .localResponseError)
    (d : Downstream σ) : d.Books (d.inc stat) := by
  have hne : ∀ s, s.isIncident = false → s ≠ .localResponseError → s ≠ stat := by
    rintro s hs hs' rfl
    rcases h with h | h
    · cases hs.symm.trans h
    · exact hs' h
  refine ⟨fun s hs => stats_inc_of_ne (hne s ?_ ?_) d, rfl, fun hd =>
    hd.of_eq (fun s hs => stats_inc_of_ne (hne s ?_ ?_) d) rfl ?_⟩
  · cases s <;> first | rfl | cases hs
  · rintro rfl
    cases hs
  · cases s <;> first | rfl | cases hs
  · rintro rfl
    cases hs
  · unfold resets
    rw [stats_inc_of_ne (hne _ rfl (by decide)), stats_inc_of_ne (hne _ rfl (by decide))]
    exact hd.reset

theorem listed_deferredMessage (i : ℕ) (d : Downstream σ) :
    (d.deferredMessage i).activeMessageList.length + (d.deferredMessage i).deferredDelete.length =
      d.activeMessageList.length + d.deferredDelete.length := by
  unfold deferredMessage
  by_cases hi : i ∈ d.activeMessageList
  · have hpos := List.length_pos_of_mem hi
    simp only [if_pos hi, List.length_erase_of_mem hi, List.length_append, List.length_singleton]
    omega
  · rw [if_neg hi]

theorem stats_deferredMessage (i : ℕ) (d : Downstream σ) :
    (d.deferredMessage i).stats = d.stats := by
  unfold deferredMessage
  split <;> rfl

theorem books_deferredMessage (i : ℕ) (d : Downstream σ) : d.Books (d.deferredMessage i) := by
  refine ⟨fun _ _ => by rw [stats_deferredMessage], listed_deferredMessage i d, fun h =>
    h.of_eq (fun _ _ => by rw [stats_deferredMessage]) (written_deferredMessage i d) ?_⟩
  rw [resets_of_eq (stats_deferredMessage i d)]
  refine h.reset.trans ?_
  unfold deferredMessage
  split
  · exact Nat.le_of_lt (by simp)
  · exact Nat.le_refl _

/-- A message is counted as reset when it is handed over. -/
theorem books_reset {stat : Stat} (hstat : stat = .cxDestroyLocalWithActiveRq ∨
    stat = .cxDestroyRemoteWithActiveRq) {i : ℕ} {d : Downstream σ}
    (hi : i ∈ d.activeMessageList) : d.Books ((d.inc stat).deferredMessage i) := by
  have hother : ∀ s, s ≠ .cxDestroyLocalWithActiveRq → s ≠ .cxDestroyRemoteWithActiveRq →
      ((d.inc stat).deferredMessage i).stats s = d.stats s := by
    intro s hlocal hremote
    rw [stats_deferredMessage]
    refine stats_inc_of_ne ?_ d
    rcases hstat with rfl | rfl
    · exact hlocal
    · exact hremote
  have hdeferred : ((d.inc stat).deferredMessage i).deferredDelete = d.deferredDelete ++ [i] := by
    unfold deferredMessage
    rw [if_pos (show i ∈ (d.inc stat).activeMessageList from hi)]
    rfl
  have hresets : ((d.inc stat).deferredMessage i).resets = d.resets + 1 := by
    rw [resets_of_eq (stats_deferredMessage i (d.inc stat))]
    rcases hstat with rfl | rfl <;> simp [resets, inc] <;> omega
  refine ⟨fun s hs => hother s ?_ ?_, listed_deferredMessage i _, fun h =>
    h.of_eq (fun s hs => hother s ?_ ?_) (written_deferredMessage i _) ?_⟩
  · rintro rfl; cases hs
  · rintro rfl; cases hs
  · rintro rfl; cases hs
  · rintro rfl; cases hs
  · rw [hresets, hdeferred, List.length_append]
    exact Nat.add_le_add_right h.reset 1

theorem books_resetAllMessages (localReset : Bool) (d : Downstream σ) :
    d.Books (d.resetAllMessages localReset) := by
  have hfold : ∀ (l : List ℕ) (d : Downstream σ), d.activeMessageList = l →
      d.Books (l.foldl (fun d message =>
        (d.inc (if localReset then .cxDestroyLocalWithActiveRq else .cxDestroyRemoteWithActiveRq)
          ).deferredMessage message) d) := by
    intro l
    induction l with
    | nil => exact fun d _ => .refl d
    | cons i l ih =>
      intro d h
      refine (books_reset (by cases localReset <;> simp) ?_).trans (ih _ ?_)
      · rw [h]
        exact List.mem_cons_self
      · simp [deferredMessage, inc, h]
  exact hfold _ d rfl

theorem books_close (type : ConnectionCloseType) (d : Downstream σ) : d.Books (d.close type) := by
  cases type <;> simp only [close]
  · split <;> exact .of_eq rfl rfl rfl rfl
  · split
    · exact .refl d
    · have hstate : d.Books { d with state := .closed } := .of_eq rfl rfl rfl rfl
      exact hstate.trans (books_resetAllMessages _ _)

theorem books_panic (site : String) (d : Downstream σ) : d.Books (d.panic site) :=
  .of_eq rfl rfl rfl rfl

/-- A local reply is written and counted. -/
theorem books_localReply {w : Write} (hw : w.reply.isLocal = true)
    (hstats : d'.stats = (d.inc .localResponseBusinessException).stats)
    (hwritten : d'.written = d.written ++ [w])
    (hactive : d'.activeMessageList = d.activeMessageList)
    (hdeferred : d'.deferredDelete = d.deferredDelete) : d.Books d' := by
  have hother : ∀ s, s ≠ .localResponseBusinessException → d'.stats s = d.stats s := by
    intro s hs
    rw [hstats]
    exact stats_inc_of_ne hs d
  have hresponse : w.reply.response = none := by
    cases hreply : w.reply with
    | localReply error => rfl
    | heartbeat => rw [hreply] at hw; cases hw
    | upstreamResponse metadata => rw [hreply] at hw; cases hw
  have hresponses : d'.forwardedResponses = d.forwardedResponses := by
    unfold forwardedResponses
    rw [hwritten, List.filterMap_append]
    simp [hresponse]
  refine ⟨fun s hs => hother s ?_, by rw [hactive, hdeferred], fun h => ?_⟩
  · rintro rfl; cases hs
  · refine ⟨?_, ?_, ?_, ?_, ?_, ?_, ?_, ?_⟩
    · rw [hother _ (by decide), hresponses, h.response]
    · rw [hother _ (by decide), hresponses, h.decoded]
    · rw [hother _ (by decide), hresponses, h.success]
    · rw [hother _ (by decide), hresponses, h.error]
    · rw [hother _ (by decide), hresponses, h.exception]
    · rw [hstats, hwritten, List.countP_append, ← h.localReply]
      simp [inc, hw]
    · rw [hother _ (by decide), h.localSuccess]
    · unfold resets
      rw [hother _ (by decide), hother _ (by decide), hdeferred]
      exact h.reset

theorem books_sendLocalReply (cfg : Config σ) (i : ℕ) (metadata : Metadata) (error : Error)
    (endStream : Bool) (d : Downstream σ) :
    d.Books (d.sendLocalReply cfg i metadata error endStream) := by
  rcases sendLocalReply_cases cfg i metadata error endStream d with
    ⟨-, h⟩ | ⟨-, ⟨site, h⟩ | h | ⟨bytes, -, h⟩⟩ <;> rw [h]
  · exact .refl d
  · exact books_panic site d
  · have hstate : d.Books { d with state := if endStream then .closing else .open } :=
      .of_eq rfl rfl rfl rfl
    exact hstate.trans (books_inc (Or.inr rfl) _)
  · exact books_localReply (w := ⟨some i, .localReply error, bytes, endStream⟩) rfl rfl rfl rfl rfl

/-- A response is written and counted. -/
theorem books_respond (i : ℕ) (metadata : Metadata) (d : Downstream σ) :
    d.Books (d.respond i metadata) := by
  have hwritten : (d.respond i metadata).written = d.written ++
      [⟨some i, .upstreamResponse metadata, metadata.originMessage, false⟩] := by
    unfold respond
    dsimp only
    split_ifs <;> rfl
  have hresponses : (d.respond i metadata).forwardedResponses =
      d.forwardedResponses ++ [metadata] := by
    unfold forwardedResponses
    rw [hwritten, List.filterMap_append]
    rfl
  have hlists : (d.respond i metadata).activeMessageList = d.activeMessageList ∧
      (d.respond i metadata).deferredDelete = d.deferredDelete := by
    unfold respond
    dsimp only
    split_ifs <;> exact ⟨rfl, rfl⟩
  have hother : ∀ stat, stat.isRequest = true ∨ stat = .localResponseBusinessException ∨
      stat = .localResponseSuccess ∨ stat = .cxDestroyLocalWithActiveRq ∨
      stat = .cxDestroyRemoteWithActiveRq → (d.respond i metadata).stats stat = d.stats stat := by
    intro stat hstat
    unfold respond
    dsimp only
    cases stat <;> first | (split_ifs <;> rfl) | simp [Stat.isRequest] at hstat
  refine ⟨fun stat hstat => hother stat (Or.inl hstat), by rw [hlists.1, hlists.2], fun h => ?_⟩
  refine ⟨?_, ?_, ?_, ?_, ?_, ?_, ?_, ?_⟩
  · rw [hresponses, List.length_append, ← h.response]
    unfold respond
    dsimp only
    split_ifs <;> simp [inc, write]
  · rw [hresponses, List.length_append, ← h.decoded]
    unfold respond
    dsimp only
    split_ifs <;> simp [inc, write]
  · rw [hresponses, List.countP_append, ← h.success]
    unfold respond
    dsimp only
    split_ifs <;> simp [inc, write, *]
  · rw [hresponses, List.countP_append, ← h.error]
    unfold respond
    dsimp only
    split_ifs <;> simp [inc, write, *]
  · rw [hresponses, List.countP_append, ← h.exception]
    unfold respond
    dsimp only
    split_ifs <;> simp [inc, write, *]
  · rw [hother _ (by simp), hwritten, List.countP_append, h.localReply]
    rfl
  · rw [hother _ (by simp), h.localSuccess]
  · unfold resets
    rw [hother _ (by simp), hother _ (by simp), hlists.2]
    exact h.reset

/-- From `d` to `d'` a request of a kind is finalized, or none, and nothing else is counted of what
comes from the client. -/
structure Settles (kind : Option MessageType) (d d' : Downstream σ) : Prop where
  request : d'.stats .request = d.stats .request + if kind.isSome then 1 else 0
  twoway : d'.stats .requestTwoway = d.stats .requestTwoway + if kind = some .request then 1 else 0
  oneway : d'.stats .requestOneway = d.stats .requestOneway + if kind = some .oneway then 1 else 0
  active : d'.stats .requestActive = d.stats .requestActive
  decoded : d'.stats .requestDecodingSuccess = d.stats .requestDecodingSuccess
  event : d'.stats .requestEvent = d.stats .requestEvent
  failed : d'.stats .requestDecodingError = d.stats .requestDecodingError
  listed : d'.activeMessageList.length + d'.deferredDelete.length =
    d.activeMessageList.length + d.deferredDelete.length
  booked : d.Booked → d'.Booked

theorem Books.settles (h : d.Books d') : d.Settles none d' :=
  ⟨h.request _ rfl, h.request _ rfl, h.request _ rfl, h.request _ rfl, h.request _ rfl,
    h.request _ rfl, h.request _ rfl, h.listed, h.booked⟩

/-- The request is finalized between the books. -/
theorem Books.trans_settles {kind : Option MessageType} {e : Downstream σ} (h : d.Books d')
    (h' : d'.Settles kind d'') (h'' : d''.Books e) : d.Settles kind e where
  request := by rw [h''.request _ rfl, h'.request, h.request _ rfl]
  twoway := by rw [h''.request _ rfl, h'.twoway, h.request _ rfl]
  oneway := by rw [h''.request _ rfl, h'.oneway, h.request _ rfl]
  active := by rw [h''.request _ rfl, h'.active, h.request _ rfl]
  decoded := by rw [h''.request _ rfl, h'.decoded, h.request _ rfl]
  event := by rw [h''.request _ rfl, h'.event, h.request _ rfl]
  failed := by rw [h''.request _ rfl, h'.failed, h.request _ rfl]
  listed := h''.listed.trans (h'.listed.trans h.listed)
  booked hd := h''.booked (h'.booked (h.booked hd))

/-- A counter of requests is in no book. -/
theorem Booked.inc (h : d.Booked) {stat : Stat} (hstat : stat.isRequest = true) :
    (d.inc stat).Booked := by
  have hne : ∀ s : Stat, s.isRequest = false → s ≠ stat := by
    rintro s hs rfl
    cases hs.symm.trans hstat
  refine h.of_eq (fun s hs => stats_inc_of_ne (hne s ?_) d) rfl ?_
  · cases s <;> first | rfl | cases hs
  · unfold resets
    rw [stats_inc_of_ne (hne _ rfl), stats_inc_of_ne (hne _ rfl)]
    exact h.reset

end Downstream

namespace Stream

open Downstream

theorem Deed.books {s t : Stream σ} (h : Deed cfg s t) : s.downstream.Books t.downstream := by
  cases h with
  | onMessage h => exact .refl _
  | panic site => exact books_panic site _
  | inc h => exact books_inc (Or.inl h) _
  | deferredMessage => exact books_deferredMessage _ _
  | close type => exact books_close type _
  | sendLocalReply error endStream =>
    rcases downstream_sendLocalReply cfg error endStream s with ⟨-, site, hd⟩ | ⟨metadata, -, hd⟩
    · rw [hd]
      exact books_panic site _
    · rw [hd]
      exact books_sendLocalReply cfg _ _ _ _ _
  | respond metadata h =>
    rw [downstream_respond]
    exact books_respond _ _ _

theorem Acts.books {s t : Stream σ} (h : Acts cfg s t) : s.downstream.Books t.downstream := by
  induction h with
  | refl => exact .refl _
  | tail _ hd ih => exact ih.trans hd.books

theorem settles_countRequest (metadata : Metadata) (s : Stream σ) :
    s.downstream.Settles (some metadata.messageType)
      ((s.inc .request).countRequest metadata).downstream := by
  unfold countRequest
  split <;> rename_i htype
  · refine ⟨?_, ?_, ?_, rfl, rfl, rfl, rfl, rfl, fun h => (h.inc rfl).inc rfl⟩ <;>
      simp [htype, Stream.inc, onDownstream, Downstream.inc]
  · refine ⟨?_, ?_, ?_, rfl, rfl, rfl, rfl, rfl, fun h => (h.inc rfl).inc rfl⟩ <;>
      simp [htype, Stream.inc, onDownstream, Downstream.inc]
  · rename_i hrequest
    have hrequest' : metadata.messageType ≠ .request := hrequest
    have honeway : metadata.messageType ≠ .oneway := htype
    refine ⟨?_, ?_, ?_, rfl, rfl, rfl, rfl, rfl, fun h => h.inc rfl⟩ <;>
      simp [hrequest', honeway, Stream.inc, onDownstream, Downstream.inc]

theorem settles_finalizeRequest {s : Stream σ} {metadata : Metadata}
    (h : s.message.metadata = some metadata) :
    s.downstream.Settles (some metadata.messageType) s.finalizeRequest.downstream := by
  have hcount := settles_countRequest metadata
    (s.onMessage fun m => { m with pendingStreamDecoded := false })
  have hmetadata : ((s.onMessage fun m =>
      { m with pendingStreamDecoded := false }).inc .request).message.metadata = some metadata := h
  unfold finalizeRequest
  dsimp only
  rw [hmetadata]
  dsimp only
  split
  · exact (Books.refl _).trans_settles hcount (books_deferredMessage _ _)
  · exact hcount

end Stream

/-! ## The ledger -/

/-- The kind of request the message was finalized as, if it was. -/
def ActiveMessage.finalized (m : ActiveMessage σ) : Option MessageType :=
  if m.pendingStreamDecoded then none else m.metadata.map (·.messageType)

theorem ActiveMessage.Still.finalized {m m' : ActiveMessage σ} (h : m.Still m')
    (hm : m.metadata.isSome) : m'.finalized = m.finalized := by
  obtain ⟨metadata, hm⟩ := Option.isSome_iff_exists.mp hm
  obtain ⟨originMessage, hm'⟩ := h.metadata metadata hm
  unfold ActiveMessage.finalized
  rw [h.pending, hm, hm']
  rfl

/-- What is delivered is a heartbeat. -/
def Delivery.isHeartbeat : Delivery → Bool
  | .heartbeat _ => true
  | .stream _ => false

namespace ConnectionManager

/-- The counters tell what happened. -/
structure Ledger (cm : ConnectionManager σ) : Prop where
  active : cm.downstream.stats .requestActive =
    census (fun m => !m.destroyed) cm.messages cm.created
  decoded : cm.downstream.stats .requestDecodingSuccess = cm.created
  event : cm.downstream.stats .requestEvent = cm.delivered.countP (·.isHeartbeat)
  request : cm.downstream.stats .request =
    census (fun m => m.finalized.isSome) cm.messages cm.created
  twoway : cm.downstream.stats .requestTwoway =
    census (fun m => m.finalized = some .request) cm.messages cm.created
  oneway : cm.downstream.stats .requestOneway =
    census (fun m => m.finalized = some .oneway) cm.messages cm.created
  failed : 0 < cm.downstream.stats .requestDecodingError ↔ cm.decodingFailed = true
  listed : cm.downstream.activeMessageList.length + cm.downstream.deferredDelete.length =
    cm.created
  booked : cm.downstream.Booked

section Ledger

variable {cm cm' : ConnectionManager σ}

/-- What leaves the messages alone and the books right. -/
theorem Ledger.books (h : cm.Ledger) (hbooks : cm.downstream.Books cm'.downstream)
    (hmessages : cm'.messages = cm.messages) (hcreated : cm'.created = cm.created)
    (hdelivered : cm'.delivered = cm.delivered)
    (hfailed : cm'.decodingFailed = cm.decodingFailed) : cm'.Ledger where
  active := by rw [hbooks.request _ rfl, hmessages, hcreated, h.active]
  decoded := by rw [hbooks.request _ rfl, hcreated, h.decoded]
  event := by rw [hbooks.request _ rfl, hdelivered, h.event]
  request := by rw [hbooks.request _ rfl, hmessages, hcreated, h.request]
  twoway := by rw [hbooks.request _ rfl, hmessages, hcreated, h.twoway]
  oneway := by rw [hbooks.request _ rfl, hmessages, hcreated, h.oneway]
  failed := by rw [hbooks.request _ rfl, hfailed, h.failed]
  listed := by rw [hbooks.listed, hcreated, h.listed]
  booked := hbooks.booked h.booked

/-- Where a message is finalized, or stays what it is, what is counted of the finalized ones goes
up with it. -/
theorem census_finalized {p : Option MessageType → Bool} (hp : p none = false)
    {f : ℕ → ActiveMessage σ} {n i : ℕ} (hi : i < n) {m : ActiveMessage σ}
    {kind : Option MessageType} (hkind : kind = none ∧ m.finalized = (f i).finalized ∨
      (f i).finalized = none ∧ m.finalized = kind) :
    census (fun m => p m.finalized) (Function.update f i m) n =
      census (fun m => p m.finalized) f n + if p kind then 1 else 0 := by
  have hupdate := census_update (p := fun m : ActiveMessage σ => p m.finalized) (f := f) (a := m) hi
  rcases hkind with ⟨rfl, hsame⟩ | ⟨hnone, rfl⟩
  · rw [hsame] at hupdate
    simp only [hp, Bool.false_eq_true, if_false]
    omega
  · simp only [hnone, hp] at hupdate
    exact hupdate

/-- A message that exists is finalized, or stays what it is. -/
theorem Ledger.setStream (h : cm.Ledger) {i : ℕ} (hi : i < cm.created) {s : Stream σ}
    {kind : Option MessageType} (hsettles : cm.downstream.Settles kind s.downstream)
    (hdestroyed : s.message.destroyed = (cm.messages i).destroyed)
    (hkind : kind = none ∧ s.message.finalized = (cm.messages i).finalized ∨
      (cm.messages i).finalized = none ∧ s.message.finalized = kind) :
    (cm.setStream i s).Ledger where
  active := by
    refine hsettles.active.trans (h.active.trans (census_update_same hi ?_).symm)
    rw [hdestroyed]
  decoded := hsettles.decoded.trans h.decoded
  event := hsettles.event.trans h.event
  request := by
    refine hsettles.request.trans ?_
    rw [h.request]
    exact (census_finalized (p := Option.isSome) rfl hi hkind).symm
  twoway := by
    refine hsettles.twoway.trans ?_
    rw [h.twoway]
    have hcensus := census_finalized (p := fun k => k = some .request) rfl hi hkind
    simp only [decide_eq_true_eq] at hcensus
    exact hcensus.symm
  oneway := by
    refine hsettles.oneway.trans ?_
    rw [h.oneway]
    have hcensus := census_finalized (p := fun k => k = some .oneway) rfl hi hkind
    simp only [decide_eq_true_eq] at hcensus
    exact hcensus.symm
  failed := by
    rw [show (cm.setStream i s).downstream.stats .requestDecodingError = _ from hsettles.failed]
    exact h.failed
  listed := hsettles.listed.trans h.listed
  booked := hsettles.booked h.booked

/-- A message is born, and finalized or paused. -/
theorem Ledger.newStream (h : cm.Ledger) {metadata : Metadata} {s : Stream σ}
    {kind : Option MessageType} (hsettles : (cm.born metadata).downstream.Settles kind s.downstream)
    (hdestroyed : s.message.destroyed = false) (hkind : s.message.finalized = kind) :
    ((cm.newMessage metadata).setStream cm.created s).Ledger := by
  have hmessages : ((cm.newMessage metadata).setStream cm.created s).messages =
      Function.update cm.messages cm.created s.message := by
    simp [ConnectionManager.setStream, newMessage]
  have hborn : ∀ stat, (cm.born metadata).downstream.stats stat = cm.downstream.stats stat +
      if stat = .requestActive ∨ stat = .requestDecodingSuccess then 1 else 0 := by
    intro stat
    cases stat <;> rfl
  constructor
  · rw [hmessages, show ((cm.newMessage metadata).setStream cm.created s).created =
      cm.created + 1 from rfl, census_birth, hdestroyed, ← h.active]
    exact hsettles.active.trans (hborn _)
  · exact hsettles.decoded.trans ((hborn _).trans (congrArg (· + 1) h.decoded))
  · refine hsettles.event.trans ((hborn _).trans ?_)
    rw [h.event]
    simp [ConnectionManager.setStream, newMessage, Delivery.isHeartbeat]
  · rw [hmessages, show ((cm.newMessage metadata).setStream cm.created s).created =
      cm.created + 1 from rfl, census_birth, hkind, ← h.request]
    exact hsettles.request.trans (congrArg (· + _) (hborn _))
  · rw [hmessages, show ((cm.newMessage metadata).setStream cm.created s).created =
      cm.created + 1 from rfl, census_birth, hkind, ← h.twoway]
    simp only [decide_eq_true_eq]
    exact hsettles.twoway.trans (congrArg (· + _) (hborn _))
  · rw [hmessages, show ((cm.newMessage metadata).setStream cm.created s).created =
      cm.created + 1 from rfl, census_birth, hkind, ← h.oneway]
    simp only [decide_eq_true_eq]
    exact hsettles.oneway.trans (congrArg (· + _) (hborn _))
  · rw [show ((cm.newMessage metadata).setStream cm.created s).downstream.stats
      .requestDecodingError = _ from hsettles.failed, hborn]
    exact h.failed
  · refine hsettles.listed.trans ?_
    have hlisted := h.listed
    simp only [born, newMessage, stream, Stream.decoded, Stream.onMessage, Stream.inc,
      Stream.onDownstream, Downstream.inc, ConnectionManager.setStream, List.length_cons]
    omega
  · refine hsettles.booked ?_
    have hbooked := (h.booked.inc (show Stat.requestActive.isRequest = true from rfl)).inc
      (show Stat.requestDecodingSuccess.isRequest = true from rfl)
    exact ⟨hbooked.response, hbooked.decoded, hbooked.success, hbooked.error, hbooked.exception,
      hbooked.localReply, hbooked.localSuccess, hbooked.reset⟩

/-- The message that counts in the gauge is destroyed. -/
theorem Ledger.destroy (h : cm.Ledger) {i : ℕ} (hi : i < cm.created)
    (hdestroyed : (cm.messages i).destroyed = false) {s : Stream σ}
    (hbooks : (cm.downstream.dec .requestActive).Books s.downstream)
    (hs : s.message.destroyed = true)
    (hfinalized : s.message.finalized = (cm.messages i).finalized) :
    (cm.setStream i s).Ledger := by
  have hdec : ∀ stat, stat ≠ .requestActive →
      (cm.downstream.dec .requestActive).stats stat = cm.downstream.stats stat :=
    fun stat hne => if_neg hne
  have hcensus : ∀ p : Option MessageType → Bool,
      census (fun m => p m.finalized) (Function.update cm.messages i s.message) cm.created =
        census (fun m => p m.finalized) cm.messages cm.created :=
    fun p => census_update_same hi (congrArg p hfinalized)
  constructor
  · have hupdate := census_update (p := fun m : ActiveMessage σ => !m.destroyed)
      (f := cm.messages) (a := s.message) hi
    rw [hdestroyed, hs] at hupdate
    rw [show (cm.setStream i s).downstream.stats .requestActive = _ from hbooks.request _ rfl]
    have hactive := h.active
    simp only [Downstream.dec, ConnectionManager.setStream, if_true] at *
    simp at hupdate
    omega
  · exact (hbooks.request _ rfl).trans ((hdec _ (by decide)).trans h.decoded)
  · exact (hbooks.request _ rfl).trans ((hdec _ (by decide)).trans h.event)
  · exact (hbooks.request _ rfl).trans ((hdec _ (by decide)).trans
      (h.request.trans (hcensus Option.isSome).symm))
  · exact (hbooks.request _ rfl).trans ((hdec _ (by decide)).trans
      (h.twoway.trans (hcensus fun k => k = some .request).symm))
  · exact (hbooks.request _ rfl).trans ((hdec _ (by decide)).trans
      (h.oneway.trans (hcensus fun k => k = some .oneway).symm))
  · rw [show (cm.setStream i s).downstream.stats .requestDecodingError = _ from
      hbooks.request _ rfl, hdec _ (by decide)]
    exact h.failed
  · exact hbooks.listed.trans h.listed
  · refine hbooks.booked ?_
    exact ⟨h.booked.response, h.booked.decoded, h.booked.success, h.booked.error,
      h.booked.exception, h.booked.localReply, h.booked.localSuccess, h.booked.reset⟩

theorem Ledger.onHeartbeat (h : cm.Ledger) (cfg : Config σ) (metadata : Metadata) :
    (cm.onHeartbeat cfg metadata).2.Ledger := by
  obtain ⟨ws, hcm, hws⟩ := onHeartbeat_spec cfg metadata cm
  have hne : ∀ stat, stat ≠ .requestEvent →
      (cm.downstream.inc .requestEvent).stats stat = cm.downstream.stats stat :=
    fun stat hstat => if_neg hstat
  have hresponse : ws.filterMap (fun w => w.reply.response) = [] :=
    List.filterMap_eq_nil_iff.mpr fun w hw => by
      rw [(hws w hw).2]
      rfl
  have hreply : ws.countP (fun w => w.reply.isLocal) = 0 :=
    List.countP_eq_zero.mpr fun w hw => by
      rw [(hws w hw).2]
      simp [Reply.isLocal]
  have hresponses : (cm.downstream.written ++ ws).filterMap (fun w => w.reply.response) =
      cm.downstream.forwardedResponses := by
    rw [List.filterMap_append, hresponse, List.append_nil]
    rfl
  have hlocal : (cm.downstream.written ++ ws).countP (fun w => w.reply.isLocal) =
      cm.downstream.written.countP (fun w => w.reply.isLocal) := by
    rw [List.countP_append, hreply, Nat.add_zero]
  rw [hcm]
  constructor
  · exact (hne _ (by decide)).trans h.active
  · exact (hne _ (by decide)).trans h.decoded
  · refine (Downstream.stats_inc_self .requestEvent cm.downstream).trans ?_
    rw [h.event]
    simp [Delivery.isHeartbeat]
  · exact (hne _ (by decide)).trans h.request
  · exact (hne _ (by decide)).trans h.twoway
  · exact (hne _ (by decide)).trans h.oneway
  · exact h.failed
  · exact h.listed
  · have hb := h.booked
    refine ⟨?_, ?_, ?_, ?_, ?_, ?_, hb.localSuccess, hb.reset⟩
    · exact hb.response.trans (congrArg _ hresponses.symm)
    · exact hb.decoded.trans (congrArg _ hresponses.symm)
    · exact hb.success.trans (congrArg _ hresponses.symm)
    · exact hb.error.trans (congrArg _ hresponses.symm)
    · exact hb.exception.trans (congrArg _ hresponses.symm)
    · exact hb.localReply.trans hlocal.symm

theorem Ledger.onDecodingError (h : cm.Ledger) : cm.onDecodingError.Ledger := by
  have hclose := Downstream.books_close .noFlush cm.downstream
  have hreset := Downstream.books_resetAllMessages true
    ((cm.downstream.close .noFlush).inc .requestDecodingError)
  have hne : ∀ stat, stat.isRequest = true → stat ≠ .requestDecodingError →
      cm.onDecodingError.downstream.stats stat = cm.downstream.stats stat := fun stat hr hstat =>
    (hreset.request stat hr).trans ((if_neg hstat).trans (hclose.request stat hr))
  constructor
  · exact (hne _ rfl (by decide)).trans h.active
  · exact (hne _ rfl (by decide)).trans h.decoded
  · exact (hne _ rfl (by decide)).trans h.event
  · exact (hne _ rfl (by decide)).trans h.request
  · exact (hne _ rfl (by decide)).trans h.twoway
  · exact (hne _ rfl (by decide)).trans h.oneway
  · have herror : cm.onDecodingError.downstream.stats .requestDecodingError =
        (cm.downstream.close .noFlush).stats .requestDecodingError + 1 :=
      (hreset.request _ rfl).trans (Downstream.stats_inc_self _ _)
    rw [herror]
    exact ⟨fun _ => rfl, fun _ => Nat.succ_pos _⟩
  · exact hreset.listed.trans (hclose.listed.trans h.listed)
  · exact hreset.booked ((hclose.booked h.booked).inc rfl)

end Ledger

theorem course_ledger : Course cfg I R (Ledger (σ := σ)) where
  read h _ _ _ := h.books (.of_eq rfl rfl rfl rfl) rfl rfl rfl rfl
  go h := h.books (.refl _) rfl rfl rfl rfl
  halfClose h := h.books (.refl _) rfl rfl rfl rfl
  panic h site := h.books (Downstream.books_panic site _) rfl rfl rfl rfl
  deed := by
    intro cm hproper h i hi s hd
    obtain ⟨request, hrequest⟩ := hproper.exists_request hi
    obtain ⟨-, originMessage, hm⟩ := hproper.request i request hrequest
    exact h.setStream hi hd.books.settles hd.still.destroyed
      (Or.inl ⟨rfl, hd.still.finalized (Option.isSome_iff_exists.mpr ⟨_, hm⟩)⟩)
  newStream := by
    intro cm hproper h metadata _ s hacts
    have hstill := hacts.still
    obtain ⟨originMessage, hm⟩ := hstill.metadata metadata (by
      simp [born, Stream.decoded, Stream.onMessage])
    have hdestroyed : s.message.destroyed = false := hstill.destroyed.trans (by
      simp [born, Stream.decoded, Stream.onMessage, Stream.inc, Stream.onDownstream, stream,
        newMessage])
    have hfinalize := Stream.settles_finalizeRequest hm
    refine ⟨h.newStream hacts.books.settles hdestroyed rfl,
      h.newStream (hacts.books.trans_settles hfinalize (.refl _)) ?_ ?_⟩
    · rw [Stream.message_finalizeRequest]
      exact hdestroyed
    · rw [Stream.message_finalizeRequest]
      simp [ActiveMessage.finalized, hm]
  finalizeRequest := by
    intro cm hproper h i hi hpending
    obtain ⟨request, hrequest⟩ := hproper.exists_request hi
    obtain ⟨-, originMessage, hm⟩ := hproper.request i request hrequest
    refine h.setStream hi (Stream.settles_finalizeRequest (s := cm.stream i) hm) ?_
      (Or.inr ⟨?_, ?_⟩)
    · rw [Stream.message_finalizeRequest]
      rfl
    · simp [ActiveMessage.finalized, hpending]
    · rw [Stream.message_finalizeRequest]
      simp [ActiveMessage.finalized, stream, hm]
  destroy := by
    intro cm hproper h i hi hdestroyed s hacts
    obtain ⟨request, hrequest⟩ := hproper.exists_request hi
    obtain ⟨-, originMessage, hm⟩ := hproper.request i request hrequest
    exact h.destroy hi hdestroyed hacts.books rfl
      (hacts.still.finalized (Option.isSome_iff_exists.mpr ⟨_, hm⟩))
  onHeartbeat _ h metadata _ := h.onHeartbeat cfg metadata
  onDecodingError h := h.onDecodingError
  resetAndClose h := h.books ((Downstream.books_resetAllMessages false _).trans
    (Downstream.books_close .flushWrite _)) rfl rfl rfl rfl
  closed h event := by
    have hclosed : ∀ d : Downstream σ, d.Books { d with state := .closed } :=
      fun d => .of_eq rfl rfl rfl rfl
    exact h.books ((hclosed _).trans (Downstream.books_resetAllMessages _ _)) rfl rfl rfl rfl

theorem ledger_new {cfg : Config σ} : (new cfg).Ledger := by
  refine ⟨rfl, rfl, rfl, rfl, rfl, rfl, by simp [new], rfl, ?_⟩
  exact ⟨rfl, rfl, rfl, rfl, rfl, rfl, rfl, Nat.le_refl 0⟩

/-- With every codec and every chain of filters, and whatever happens in which order, the counters
tell what happened, and every message is active or handed to deferred deletion. -/
theorem ledger_run {cfg : Config σ} {es : List Event} (h : (system cfg).Admissible (new cfg) es) :
    ((system cfg).run (new cfg) es).Ledger ∧ ((system cfg).run (new cfg) es).Owned :=
  ⟨(course_ledger.run cfg.codec.keeps_true ledger_new h).prop,
    (invariant_owned.run cfg.codec.keeps_true (.refl _) es).prop⟩

/-- A heartbeat, a oneway request that goes out at once, and a request that is reset. -/
def booking : List Event :=
  [.downstreamData (Dubbo.frame 0xe2 20 7 []) false,
    .downstreamData (DubboExample.oneway 1 ++ DubboExample.request 2) false, .release 0,
    .upstreamData 1 (DubboExample.response 2) false, .downstreamClose .remoteClose]

theorem ledger_run_booking :
    ((system (DubboExample.config (some (.ready "host" [])))).run
        (new (DubboExample.config (some (.ready "host" [])))) booking).Ledger ∧
      ((system (DubboExample.config (some (.ready "host" [])))).run
        (new (DubboExample.config (some (.ready "host" [])))) booking).Owned :=
  ledger_run (by decide +kernel)

end ConnectionManager

end MetaProtocolProxy

import MetaProtocolProxy.Quiet
import MetaProtocolProxy.Reading

/-!
# The record of a message

What a message does is recorded by the decoder filters it calls and the local replies it sends
(`Proceeds`). The rest follows from the record : whether the message knows of a local reply
(`Proceeds.sent`), and how many the client gets (`Proceeds.replies`).
-/

namespace MetaProtocolProxy

variable {σ : Type} {cfg : Config σ} {I : σ → Prop} {R : Metadata → Prop}

/-- The codec has a local reply with every text to a message it accepts. -/
def Codec.RepliesTo (codec : Codec σ) (I : σ → Prop) (R : Metadata → Prop) : Prop :=
  ∀ {s metadata error}, I s → R metadata → error.message ≠ "" →
    ∃ bytes, codec.onError s metadata error = .ok bytes

theorem Codec.Replies.repliesTo {codec : Codec σ} (h : codec.Replies I R) : codec.RepliesTo I R :=
  fun hs hR he => h.onError hs hR he

/-- A reply of the proxy itself. -/
def Reply.isLocal : Reply → Bool
  | .localReply _ => true
  | .heartbeat | .upstreamResponse _ => false

/-- The local replies to a message, also those that end the stream. -/
def Downstream.localReplies (i : ℕ) (d : Downstream σ) : List Write :=
  d.written.filter fun w => w.message = some i && w.reply.isLocal

theorem Downstream.localReplies_of_written {d d' : Downstream σ} (h : d'.written = d.written)
    (i : ℕ) : d'.localReplies i = d.localReplies i := by
  unfold localReplies
  rw [h]

theorem Downstream.localReplies_append {d d' : Downstream σ} {ws : List Write}
    (h : d'.written = d.written ++ ws) (i : ℕ) : d'.localReplies i =
      d.localReplies i ++ ws.filter fun w => w.message = some i && w.reply.isLocal := by
  unfold localReplies
  rw [h, List.filter_append]

theorem Downstream.localReplies_concat {d d' : Downstream σ} {i : ℕ} {error : Error} {bytes : Bytes}
    {endStream : Bool}
    (h : d'.written = d.written ++ [⟨some i, .localReply error, bytes, endStream⟩]) :
    d'.localReplies i = d.localReplies i ++ [⟨some i, .localReply error, bytes, endStream⟩] := by
  rw [localReplies_append h]
  simp [Reply.isLocal]

namespace Downstream

/-! ## What the operations leave of a connection -/

theorem request_deferredMessage (i : ℕ) (d : Downstream σ) :
    (d.deferredMessage i).stats .request = d.stats .request := by
  unfold deferredMessage
  split <;> rfl

theorem request_resetAllMessages (localReset : Bool) (d : Downstream σ) :
    (d.resetAllMessages localReset).stats .request = d.stats .request := by
  unfold resetAllMessages
  generalize d.activeMessageList = l
  induction l generalizing d with
  | nil => rfl
  | cons i l ih =>
    rw [List.foldl_cons, ih, request_deferredMessage]
    cases localReset <;> rfl

theorem request_close (type : ConnectionCloseType) (d : Downstream σ) :
    (d.close type).stats .request = d.stats .request := by
  cases type <;> simp only [close]
  · split <;> rfl
  · split
    · rfl
    · exact request_resetAllMessages _ _

theorem request_sendLocalReply (cfg : Config σ) (i : ℕ) (metadata : Metadata) (error : Error)
    (endStream : Bool) (d : Downstream σ) :
    (d.sendLocalReply cfg i metadata error endStream).stats .request = d.stats .request := by
  unfold sendLocalReply
  split
  · rfl
  · split
    · rfl
    · cases endStream <;> simp [inc, request_close]
    · cases endStream <;> simp [inc, write, request_close]

theorem open_of_sendLocalReply {i : ℕ} {metadata : Metadata} {error : Error} {endStream : Bool}
    {d : Downstream σ}
    (h : (d.sendLocalReply cfg i metadata error endStream).state = .open) : d.state = .open := by
  unfold sendLocalReply at h
  by_contra hstate
  rw [if_pos hstate] at h
  exact hstate h

/-- A local reply is written at most once, and one that ends the stream only where the connection
does not stay open. -/
theorem localReplies_sendLocalReply (cfg : Config σ) (i : ℕ) (metadata : Metadata) (error : Error)
    (endStream : Bool) (d : Downstream σ) :
    (d.sendLocalReply cfg i metadata error endStream).localReplies i = d.localReplies i ∨
      d.state = .open ∧ (∃ w, (d.sendLocalReply cfg i metadata error endStream).localReplies i =
          d.localReplies i ++ [w]) ∧
        (endStream = true →
          (d.sendLocalReply cfg i metadata error endStream).state ≠ .open) := by
  unfold sendLocalReply
  by_cases hopen : d.state = .open
  swap
  · rw [if_pos hopen]
    exact Or.inl rfl
  rw [if_neg (not_not.mpr hopen)]
  cases cfg.codec.onError d.codec metadata error with
  | error fault =>
    refine Or.inl ?_
    cases fault with
    | panic site => rfl
    | exception what =>
      refine localReplies_of_written ?_ i
      cases endStream <;> simp [inc, written_close]
  | ok bytes =>
    dsimp only
    refine Or.inr ⟨hopen, ⟨⟨some i, .localReply error, bytes, endStream⟩,
      localReplies_concat ?_⟩, ?_⟩
    · cases endStream <;> simp [inc, write, written_close]
    · rintro rfl
      rw [if_pos rfl]
      exact (close_spec .flushWrite _).1

/-- A codec that replies writes a local reply with a text to an open connection. -/
theorem localReplies_of_replies (hp : cfg.codec.RepliesTo I R) {d : Downstream σ} (hI : I d.codec)
    {metadata : Metadata} (hR : R metadata) {error : Error} (he : error.message ≠ "")
    (hopen : d.state = .open) (i : ℕ) :
    ∃ w, (d.sendLocalReply cfg i metadata error false).localReplies i =
      d.localReplies i ++ [w] := by
  obtain ⟨bytes, hbytes⟩ := hp hI hR he
  refine ⟨⟨some i, .localReply error, bytes, false⟩, localReplies_concat ?_⟩
  simp [sendLocalReply, hopen, hbytes, inc, write]

end Downstream

/-- From `m` to `m'` the flags of the message, the calls of its decoder filters and, up to the
bytes taken off it, the request are the same. -/
structure ActiveMessage.Akin (m m' : ActiveMessage σ) : Prop where
  id : m'.id = m.id := by rfl
  sent : m'.localResponseSent = m.localResponseSent := by rfl
  pending : m'.pendingStreamDecoded = m.pendingStreamDecoded := by rfl
  calls : m'.decoderCalls = m.decoderCalls := by rfl
  metadata : ∀ metadata, m.metadata = some metadata →
    ∃ originMessage, m'.metadata = some { metadata with originMessage } := by
      exact fun metadata h => ⟨metadata.originMessage, h⟩

theorem ActiveMessage.Akin.of_eq {m m' : ActiveMessage σ} (hid : m'.id = m.id)
    (hsent : m'.localResponseSent = m.localResponseSent)
    (hpending : m'.pendingStreamDecoded = m.pendingStreamDecoded)
    (hcalls : m'.decoderCalls = m.decoderCalls) (hmetadata : m'.metadata = m.metadata) :
    m.Akin m' :=
  ⟨hid, hsent, hpending, hcalls, fun metadata h =>
    ⟨metadata.originMessage, hmetadata.trans h⟩⟩

namespace Stream

/-- The local replies to the message. -/
def localReplies (s : Stream σ) : List Write :=
  s.downstream.localReplies s.message.id

/-! ## The record -/

/-- From `s` to another state the message calls the decoder filters at `calls` and sends `replies`,
each with whether it ends the stream. The request is not finalized. -/
inductive Proceeds (cfg : Config σ) (s : Stream σ) :
    List ℕ → List (Error × Bool) → Stream σ → Prop
  | refl : Proceeds cfg s [] [] s
  | onMessage {calls replies t} (h : Proceeds cfg s calls replies t)
      {f : ActiveMessage σ → ActiveMessage σ} (hf : t.message.Akin (f t.message)) :
      Proceeds cfg s calls replies (t.onMessage f)
  | call {calls replies t} (h : Proceeds cfg s calls replies t) (position : ℕ) :
      Proceeds cfg s (calls ++ [position]) replies
        (t.onMessage fun m => { m with decoderCalls := m.decoderCalls ++ [position] })
  | inc {calls replies t} (h : Proceeds cfg s calls replies t) {stat : Stat}
      (hstat : stat ≠ .request) : Proceeds cfg s calls replies (t.inc stat)
  | dec {calls replies t} (h : Proceeds cfg s calls replies t) {stat : Stat}
      (hstat : stat ≠ .request) :
      Proceeds cfg s calls replies (t.onDownstream (Downstream.dec stat))
  | panic {calls replies t} (h : Proceeds cfg s calls replies t) (site : String) :
      Proceeds cfg s calls replies (t.panic site)
  | forward {calls replies t} (h : Proceeds cfg s calls replies t) (metadata : Metadata) :
      Proceeds cfg s calls replies (t.forwardResponse metadata)
  | deferredMessage {calls replies t} (h : Proceeds cfg s calls replies t) :
      Proceeds cfg s calls replies t.deferredMessage
  | close {calls replies t} (h : Proceeds cfg s calls replies t) (type : ConnectionCloseType) :
      Proceeds cfg s calls replies (t.onDownstream (Downstream.close type))
  | sendLocalReply {calls replies t} (h : Proceeds cfg s calls replies t) (error : Error)
      (endStream : Bool) :
      Proceeds cfg s calls (replies ++ [(error, endStream)]) (t.sendLocalReply cfg error endStream)

section Record

variable {s t u : Stream σ} {cs cs' : List ℕ} {rs rs' : List (Error × Bool)}

theorem Proceeds.trans (h : Proceeds cfg s cs rs t)
    (h' : Proceeds cfg t cs' rs' u) :
    Proceeds cfg s (cs ++ cs') (rs ++ rs') u := by
  induction h' with
  | refl => simpa using h
  | onMessage _ hf ih => exact ih.onMessage hf
  | call _ position ih =>
    rw [← List.append_assoc]
    exact ih.call position
  | inc _ hstat ih => exact ih.inc hstat
  | dec _ hstat ih => exact ih.dec hstat
  | panic _ site ih => exact ih.panic site
  | forward _ metadata ih => exact ih.forward metadata
  | deferredMessage _ ih => exact ih.deferredMessage
  | close _ type ih => exact ih.close type
  | sendLocalReply _ error endStream ih =>
    rw [← List.append_assoc]
    exact ih.sendLocalReply error endStream

/-- What is done without a call or a reply. -/
theorem Proceeds.then (h : Proceeds cfg s cs rs t) (h' : Proceeds cfg t [] [] u) :
    Proceeds cfg s cs rs u := by
  simpa using h.trans h'

theorem Proceeds.before (h : Proceeds cfg s [] [] t) (h' : Proceeds cfg t cs rs u) :
    Proceeds cfg s cs rs u :=
  h.trans h'

/-- A local reply changes nothing of the message but the flag. -/
theorem message_sendLocalReply (cfg : Config σ) (error : Error) (endStream : Bool)
    (s : Stream σ) : (s.sendLocalReply cfg error endStream).message =
      { s.message with localResponseSent :=
          s.message.localResponseSent || (s.message.metadata.isSome && !endStream) } := by
  unfold sendLocalReply
  cases hm : s.message.metadata with
  | none => simp [Stream.panic, onDownstream]
  | some metadata =>
    cases endStream with
    | false => simp [onDownstream, onMessage]
    | true => simp [onDownstream, ← hm]

theorem Proceeds.id (h : Proceeds cfg s cs rs t) : t.message.id = s.message.id := by
  induction h with
  | onMessage _ hf ih => exact hf.id.trans ih
  | sendLocalReply _ error endStream ih => rwa [message_sendLocalReply]
  | _ => first | rfl | assumption

theorem Proceeds.pending (h : Proceeds cfg s cs rs t) :
    t.message.pendingStreamDecoded = s.message.pendingStreamDecoded := by
  induction h with
  | onMessage _ hf ih => exact hf.pending.trans ih
  | sendLocalReply _ error endStream ih => rwa [message_sendLocalReply]
  | _ => first | rfl | assumption

theorem Proceeds.calls (h : Proceeds cfg s cs rs t) :
    t.message.decoderCalls = s.message.decoderCalls ++ cs := by
  induction h with
  | refl => exact (List.append_nil _).symm
  | onMessage _ hf ih => exact hf.calls.trans ih
  | call _ position ih =>
    rw [← List.append_assoc, ← ih]
    rfl
  | sendLocalReply _ error endStream ih => rwa [message_sendLocalReply]
  | _ => assumption

/-- Without a call the calls stay the same. -/
theorem Proceeds.decoderCalls (h : Proceeds cfg s [] rs t) :
    t.message.decoderCalls = s.message.decoderCalls :=
  h.calls.trans (List.append_nil _)

/-- The request stays the one it is, whatever is taken off its bytes. -/
theorem Proceeds.metadata (h : Proceeds cfg s cs rs t) {metadata : Metadata}
    (hm : s.message.metadata = some metadata) :
    ∃ originMessage, t.message.metadata = some { metadata with originMessage } := by
  induction h with
  | refl => exact ⟨metadata.originMessage, hm⟩
  | onMessage _ hf ih =>
    obtain ⟨_, ht⟩ := ih
    obtain ⟨originMessage, ht'⟩ := hf.metadata _ ht
    exact ⟨originMessage, ht'⟩
  | sendLocalReply _ error endStream ih => rwa [message_sendLocalReply]
  | _ => assumption

/-- A message knows of a local reply exactly if it has sent one that leaves the stream open. -/
theorem Proceeds.sent (h : Proceeds cfg s cs rs t) (hm : s.message.metadata.isSome) :
    t.message.localResponseSent = (s.message.localResponseSent || rs.any (!·.2)) := by
  obtain ⟨metadata, hm⟩ := Option.isSome_iff_exists.mp hm
  induction h with
  | refl => simp
  | onMessage _ hf ih => exact hf.sent.trans ih
  | sendLocalReply h error endStream ih =>
    obtain ⟨originMessage, ht⟩ := h.metadata hm
    rw [message_sendLocalReply, ih, ht, List.any_append]
    simp [Bool.or_assoc]
  | _ => assumption

theorem Proceeds.flag (h : Proceeds cfg s cs rs t) (hs : s.message.localResponseSent = true) :
    t.message.localResponseSent = true := by
  induction h with
  | refl => exact hs
  | onMessage _ hf ih => exact hf.sent.trans ih
  | sendLocalReply _ error endStream ih =>
    rw [message_sendLocalReply]
    exact Bool.or_eq_true_iff.mpr (Or.inl ih)
  | _ => assumption

theorem Proceeds.codec (h : Proceeds cfg s cs rs t) :
    t.downstream.codec = s.downstream.codec := by
  induction h with
  | deferredMessage _ ih => exact (Downstream.codec_deferredMessage _ _).trans ih
  | close _ type ih => exact (Downstream.codec_close _ _).trans ih
  | sendLocalReply _ error endStream ih => exact (quiet_sendLocalReply _ _ _ _).codec.trans ih
  | refl => rfl
  | _ => assumption

theorem Proceeds.retains (h : Proceeds cfg s cs rs t) :
    s.downstream.Retains t.downstream := by
  induction h with
  | deferredMessage _ ih => exact ih.trans (Downstream.retains_deferredMessage _ _)
  | close _ type ih => exact ih.trans (Downstream.retains_close _ _)
  | sendLocalReply _ error endStream ih => exact ih.trans (quiet_sendLocalReply _ _ _ _).retains
  | refl => exact .of_eq rfl rfl
  | _ => assumption

/-- The downstream connection of a local reply. -/
theorem downstream_sendLocalReply (cfg : Config σ) (error : Error) (endStream : Bool)
    (s : Stream σ) : (s.message.metadata = none ∧ ∃ site,
        (s.sendLocalReply cfg error endStream).downstream = s.downstream.panic site) ∨
      ∃ metadata, s.message.metadata = some metadata ∧
        (s.sendLocalReply cfg error endStream).downstream =
          s.downstream.sendLocalReply cfg s.message.id metadata error endStream := by
  unfold sendLocalReply
  cases s.message.metadata with
  | none => exact Or.inl ⟨rfl, _, rfl⟩
  | some metadata =>
    refine Or.inr ⟨metadata, rfl, ?_⟩
    dsimp only
    split <;> rfl

/-- The request is counted nowhere else than where it is finalized. -/
theorem Proceeds.request (h : Proceeds cfg s cs rs t) :
    t.downstream.stats .request = s.downstream.stats .request := by
  induction h with
  | refl => rfl
  | inc _ hstat ih => exact (if_neg (Ne.symm hstat)).trans ih
  | dec _ hstat ih => exact (if_neg (Ne.symm hstat)).trans ih
  | deferredMessage _ ih => exact (Downstream.request_deferredMessage _ _).trans ih
  | close _ type ih => exact (Downstream.request_close _ _).trans ih
  | @sendLocalReply _ _ t _ error endStream ih =>
    rcases downstream_sendLocalReply cfg error endStream t with ⟨-, site, hd⟩ | ⟨metadata, -, hd⟩
    · rw [hd]
      exact ih
    · rw [hd, Downstream.request_sendLocalReply]
      exact ih
  | _ => assumption

/-- A connection that is not open does not open again. -/
theorem Proceeds.open (h : Proceeds cfg s cs rs t) (ho : t.downstream.state = .open) :
    s.downstream.state = .open := by
  induction h with
  | refl => exact ho
  | deferredMessage _ ih => exact ih ((Downstream.state_deferredMessage _ _).symm.trans ho)
  | close _ type ih => exact absurd ho (Downstream.close_spec _ _).1
  | @sendLocalReply _ _ t _ error endStream ih =>
    rcases downstream_sendLocalReply cfg error endStream t with ⟨-, site, hd⟩ | ⟨metadata, -, hd⟩
    · rw [hd] at ho
      exact ih ho
    · rw [hd] at ho
      exact ih (Downstream.open_of_sendLocalReply ho)
  | _ => exact ‹_ → _› ho

theorem localReplies_onMessage {f : ActiveMessage σ → ActiveMessage σ}
    (hf : (f s.message).id = s.message.id) : (s.onMessage f).localReplies = s.localReplies := by
  unfold localReplies
  rw [show (s.onMessage f).message.id = s.message.id from hf]
  rfl

theorem localReplies_onDownstream {f : Downstream σ → Downstream σ}
    (hf : (f s.downstream).written = s.downstream.written) :
    (s.onDownstream f).localReplies = s.localReplies :=
  Downstream.localReplies_of_written hf _

theorem localReplies_deferredMessage (s : Stream σ) :
    s.deferredMessage.localReplies = s.localReplies :=
  localReplies_onDownstream (Downstream.written_deferredMessage _ _)

/-- A forwarded response is no local reply. -/
theorem localReplies_forwardResponse (metadata : Metadata) (s : Stream σ) :
    (s.forwardResponse metadata).localReplies = s.localReplies := by
  have hwritten : (s.forwardResponse metadata).downstream.written = s.downstream.written ++
      [⟨some s.message.id, .upstreamResponse metadata, metadata.originMessage, false⟩] := rfl
  refine (Downstream.localReplies_append hwritten _).trans ?_
  simp [Reply.isLocal, localReplies, forwardResponse, onDownstream]

/-- No more local replies are written than are sent, and none if the connection is not open. -/
theorem Proceeds.written (h : Proceeds cfg s cs rs t) :
    ∃ ws, t.localReplies = s.localReplies ++ ws ∧ ws.length ≤ rs.length ∧
      (s.downstream.state ≠ .open → ws = []) := by
  induction h with
  | refl => exact ⟨[], (List.append_nil _).symm, Nat.le_refl 0, fun _ => rfl⟩
  | onMessage _ hf ih => rwa [localReplies_onMessage hf.id]
  | forward _ metadata ih => rwa [localReplies_forwardResponse]
  | deferredMessage _ ih => rwa [localReplies_deferredMessage]
  | close _ type ih => rwa [localReplies_onDownstream (Downstream.written_close _ _)]
  | @sendLocalReply _ rs t h error endStream ih =>
    obtain ⟨ws, hws, hle, hnone⟩ := ih
    have hid : (t.sendLocalReply cfg error endStream).message.id = t.message.id := by
      rw [message_sendLocalReply]
    have hsame : (t.sendLocalReply cfg error endStream).localReplies = t.localReplies ∨
        t.downstream.state = .open ∧ ∃ w, (t.sendLocalReply cfg error endStream).localReplies =
          t.localReplies ++ [w] := by
      unfold localReplies
      rw [hid]
      rcases downstream_sendLocalReply cfg error endStream t with ⟨-, site, hd⟩ | ⟨metadata, -, hd⟩
      · exact Or.inl (by rw [hd]; rfl)
      · rw [hd]
        exact (Downstream.localReplies_sendLocalReply _ _ _ _ _ _).imp_right
          fun ⟨ho, hw, _⟩ => ⟨ho, hw⟩
    rcases hsame with hsame | ⟨ho, w, hw⟩
    · exact ⟨ws, hsame.trans hws, by rw [List.length_append]; omega, hnone⟩
    · refine ⟨ws ++ [w], by rw [hw, hws, List.append_assoc], ?_, fun hne => absurd (h.open ho) hne⟩
      simp only [List.length_append, List.length_singleton]
      omega
  | _ => assumption

theorem Proceeds.silent (h : Proceeds cfg s cs [] t) : t.localReplies = s.localReplies := by
  obtain ⟨ws, hws, hle, -⟩ := h.written
  rw [hws, List.length_eq_zero_iff.mp (Nat.le_zero.mp hle), List.append_nil]

/-- A message that knows of no local reply has at most the one that closed the connection. -/
def Known (s : Stream σ) : Prop :=
  s.message.localResponseSent = false →
    s.localReplies.length ≤ 1 ∧ (s.downstream.state = .open → s.localReplies = [])

/-- So it has at most one behind the next. -/
theorem Proceeds.atMost (h : Proceeds cfg s cs rs t) (hs : s.Known)
    (hsent : s.message.localResponseSent = false) (hrs : rs.length ≤ 1) :
    t.localReplies.length ≤ 1 := by
  obtain ⟨ws, hws, hle, hnone⟩ := h.written
  obtain ⟨hone, hzero⟩ := hs hsent
  rw [hws, List.length_append]
  by_cases ho : s.downstream.state = .open
  · rw [hzero ho, List.length_nil]
    omega
  · rw [hnone ho, List.length_nil]
    omega

theorem id_sendLocalReply (cfg : Config σ) (error : Error) (endStream : Bool) (s : Stream σ) :
    (s.sendLocalReply cfg error endStream).message.id = s.message.id := by
  rw [message_sendLocalReply]

theorem Proceeds.known (h : Proceeds cfg s cs rs t) (hs : s.Known) : t.Known := by
  induction h with
  | refl => exact hs
  | onMessage h hf ih =>
    intro hsent
    rw [localReplies_onMessage hf.id]
    exact ih (hf.sent.symm.trans hsent)
  | forward _ metadata ih =>
    intro hsent
    rw [localReplies_forwardResponse]
    exact ih hsent
  | @deferredMessage _ _ t _ ih =>
    intro hsent
    rw [localReplies_deferredMessage, show t.deferredMessage.downstream.state = _ from
      Downstream.state_deferredMessage _ _]
    exact ih hsent
  | close _ type ih =>
    intro hsent
    rw [localReplies_onDownstream (Downstream.written_close _ _)]
    exact ⟨(ih hsent).1, fun ho => absurd ho (Downstream.close_spec _ _).1⟩
  | @sendLocalReply _ _ t _ error endStream ih =>
    intro hsent
    rw [message_sendLocalReply] at hsent
    obtain ⟨hbefore, hflag⟩ := Bool.or_eq_false_iff.mp hsent
    obtain ⟨hone, hzero⟩ := ih hbefore
    unfold localReplies at hone hzero ⊢
    rw [id_sendLocalReply]
    rcases downstream_sendLocalReply cfg error endStream t with ⟨-, site, hd⟩ | ⟨metadata, hm, hd⟩
    · rw [hd]
      exact ⟨hone, hzero⟩
    · rw [hd]
      have hends : endStream = true := by simpa [hm] using hflag
      rcases Downstream.localReplies_sendLocalReply cfg t.message.id metadata error endStream
        t.downstream with hsame | ⟨ho, ⟨w, hw⟩, hclosed⟩
      · rw [hsame]
        exact ⟨hone, fun ho => hzero (Downstream.open_of_sendLocalReply ho)⟩
      · rw [hw, hzero ho]
        exact ⟨Nat.le_refl 1, fun ho' => absurd ho' (hclosed hends)⟩
  | _ => assumption

/-- Where the client is still there, every local reply that leaves the stream open was written, and
no other. -/
theorem Proceeds.replies (hk : cfg.codec.Keeps I R) (hp : cfg.codec.RepliesTo I R)
    (h : Proceeds cfg s cs rs t) (hI : I s.downstream.codec) {metadata : Metadata}
    (hm : s.message.metadata = some metadata) (hR : R metadata)
    (htext : ∀ r ∈ rs, r.2 = false → r.1.message ≠ "") (ho : t.downstream.state = .open) :
    t.localReplies.length = s.localReplies.length + rs.countP (!·.2) := by
  induction h with
  | refl => rfl
  | onMessage _ hf ih =>
    rw [localReplies_onMessage hf.id]
    exact ih htext ho
  | forward _ response ih =>
    rw [localReplies_forwardResponse]
    exact ih htext ho
  | deferredMessage _ ih =>
    rw [localReplies_deferredMessage]
    exact ih htext ((Downstream.state_deferredMessage _ _).symm.trans ho)
  | close _ type ih => exact absurd ho (Downstream.close_spec _ _).1
  | @sendLocalReply _ rs t h error endStream ih =>
    obtain ⟨originMessage, ht⟩ := h.metadata hm
    replace ih := ih fun r hr => htext r (List.mem_append_left _ hr)
    rw [List.countP_append, ← Nat.add_assoc]
    rcases downstream_sendLocalReply cfg error endStream t with ⟨hnone, -⟩ | ⟨metadata', hm', hd⟩
    · cases hnone.symm.trans ht
    · unfold localReplies at ih ⊢
      rw [id_sendLocalReply]
      rw [hd] at ho ⊢
      have hbefore := Downstream.open_of_sendLocalReply ho
      rw [← ih hbefore]
      cases endStream with
      | true =>
        rcases Downstream.localReplies_sendLocalReply cfg t.message.id metadata' error true
          t.downstream with hsame | ⟨-, -, hclosed⟩
        · rw [hsame]
          rfl
        · exact absurd ho (hclosed rfl)
      | false =>
        obtain rfl : _ = metadata' := Option.some.inj (ht.symm.trans hm')
        obtain ⟨w, hw⟩ := Downstream.localReplies_of_replies hp (h.codec ▸ hI)
          (hk.originMessage hR originMessage)
          (htext (error, false) (List.mem_append_right _ (List.mem_singleton_self _)) rfl)
          hbefore t.message.id
        rw [hw, List.length_append]
        rfl
  | _ => exact ‹_ → _ → _› htext ho

end Record

end Stream

end MetaProtocolProxy

import MetaProtocolProxy.Locality
import MetaProtocolProxy.Recording

/-!
# A decoder filter that rejects a message

A decoder filter rejects a message by a local reply that leaves the stream open. No filter is
called behind it, the request is finalized at the end of the same pass, and the message handed
over to deferred deletion. But the router may already have an upstream request for the message, and
until the message is deleted a failure of the upstream sends a second local reply.
-/

namespace MetaProtocolProxy

variable {σ : Type} {cfg : Config σ} {I : σ → Prop} {R : Metadata → Prop}

/-- What the connection does without message `i` : it does not open again, writes no local reply to
the message, and takes it off no list for good. -/
structure Downstream.Aside (I : σ → Prop) (i : ℕ) (d d' : Downstream σ) : Prop where
  codec : I d.codec → I d'.codec
  state : d'.state = .open → d.state = .open
  replies : d'.localReplies i = d.localReplies i
  retains : d.Retains d'

theorem Downstream.Aside.refl (I : σ → Prop) (i : ℕ) (d : Downstream σ) : Aside I i d d :=
  ⟨id, id, rfl, .of_eq rfl rfl⟩

theorem Downstream.Aside.trans {i : ℕ} {d d' d'' : Downstream σ} (h : Aside I i d d')
    (h' : Aside I i d' d'') : Aside I i d d'' :=
  ⟨fun hd => h'.codec (h.codec hd), fun hd => h.state (h'.state hd),
    h'.replies.trans h.replies, h.retains.trans h'.retains⟩

theorem Downstream.aside_close (I : σ → Prop) (i : ℕ) (type : ConnectionCloseType)
    (d : Downstream σ) : d.Aside I i (d.close type) :=
  ⟨fun h => by rwa [codec_close], fun h => absurd h (close_spec _ _).1,
    localReplies_of_written (written_close _ _) i, retains_close _ _⟩

theorem Downstream.aside_resetAllMessages (I : σ → Prop) (i : ℕ) (localReset : Bool)
    (d : Downstream σ) : d.Aside I i (d.resetAllMessages localReset) :=
  ⟨fun h => by rwa [codec_resetAllMessages], fun h => by rwa [state_resetAllMessages] at h,
    localReplies_of_written (written_resetAllMessages _ _) i, retains_resetAllMessages _ _⟩

namespace Stream

/-! ## Finalizing -/

/-- The message is active, or was handed over. -/
def Listed (s : Stream σ) : Prop :=
  s.message.id ∈ s.downstream.activeMessageList ∨ s.message.id ∈ s.downstream.deferredDelete

/-- A message in order : it has its request, and knows of its local replies. -/
structure Sound (I : σ → Prop) (R : Metadata → Prop) (s : Stream σ) : Prop where
  codec : I s.downstream.codec
  request : ∃ metadata, s.message.metadata = some metadata ∧ R metadata
  known : s.Known

/-- What a rejection leaves of a message. -/
structure Ended (cfg : Config σ) (I : σ → Prop) (R : Metadata → Prop) (t : Stream σ) : Prop where
  rejected : t.message.Rejected cfg
  finalized : t.message.pendingStreamDecoded = false
  deferred : t.message.id ∈ t.downstream.deferredDelete
  atMost : cfg.RepliesOnce → t.localReplies.length ≤ 1
  replies : cfg.codec.RepliesTo I R → cfg.RepliesOnce → t.downstream.state = .open →
    t.localReplies.length = 1

section Pass

variable {s t u : Stream σ} {cs : List ℕ} {rs : List (Error × Bool)}

theorem Listed.of_retains (hs : s.Listed) (hid : t.message.id = s.message.id)
    (h : s.downstream.Retains t.downstream) : t.Listed := by
  unfold Listed
  rw [hid]
  exact hs.elim (h _).2 fun hd => Or.inr ((h _).1 hd)

theorem Proceeds.sound (hk : cfg.codec.Keeps I R) (h : Proceeds cfg s cs rs t)
    (hs : s.Sound I R) : t.Sound I R := by
  obtain ⟨hcodec, ⟨metadata, hm, hR⟩, hknown⟩ := hs
  obtain ⟨originMessage, ht⟩ := h.metadata hm
  exact ⟨h.codec.symm ▸ hcodec, ⟨_, ht, hk.originMessage hR originMessage⟩, h.known hknown⟩

theorem proceeds_finalizeRequest (cfg : Config σ) (s : Stream σ) :
    Proceeds cfg ((s.onMessage fun m => { m with pendingStreamDecoded := false }).inc .request)
      [] [] s.finalizeRequest := by
  unfold finalizeRequest
  dsimp only
  split
  · exact Proceeds.refl.panic _
  · split
    · exact (proceeds_countRequest _ _).deferredMessage
    · exact proceeds_countRequest _ _

/-- Of the message only the flag for a request that is still to be finalized changes. -/
theorem message_finalizeRequest (s : Stream σ) :
    s.finalizeRequest.message = { s.message with pendingStreamDecoded := false } := by
  have hcount : ∀ (metadata : Metadata) (t : Stream σ),
      (t.countRequest metadata).message = t.message := by
    intro metadata t
    unfold countRequest
    split <;> rfl
  unfold finalizeRequest
  dsimp only
  split
  · rfl
  · split
    · exact hcount _ _
    · exact hcount _ _

theorem localReplies_finalizeRequest (cfg : Config σ) (s : Stream σ) :
    s.finalizeRequest.localReplies = s.localReplies :=
  (proceeds_finalizeRequest cfg s).silent

theorem mem_deferredDelete_finalizeRequest (hm : s.message.metadata.isSome)
    (hs : s.message.localResponseSent = true) (hlisted : s.Listed) :
    s.message.id ∈ s.finalizeRequest.downstream.deferredDelete := by
  obtain ⟨metadata, hm⟩ := Option.isSome_iff_exists.mp hm
  obtain ⟨t, ht⟩ : ∃ t, t = (s.onMessage fun m =>
    { m with pendingStreamDecoded := false }).inc .request := ⟨_, rfl⟩
  have hmessage : t.message = { s.message with pendingStreamDecoded := false } := by rw [ht]; rfl
  have hlists : t.Listed := by rw [ht]; exact hlisted
  have hcount := quiet_countRequest metadata t
  have hsent : (t.countRequest metadata).message.localResponseSent = true :=
    hcount.sent (by rw [hmessage]; exact hs)
  unfold finalizeRequest
  dsimp only
  rw [← ht, hmessage, hm]
  dsimp only
  rw [if_pos (Or.inl hsent)]
  have hid : (t.countRequest metadata).message.id = s.message.id := by rw [hcount.id, hmessage]
  rw [← hid]
  exact Downstream.mem_deferredMessage (hlists.of_retains hcount.id hcount.retains)

/-- A rejected request that is finalized is finalized for good. -/
theorem ended_finalizeRequest (hk : cfg.codec.Keeps I R) (hs : s.Sound I R) (hlisted : s.Listed)
    (hsent : s.message.localResponseSent = false) (h : Proceeds cfg s cs rs u)
    (honce : cfg.RepliesOnce → Worded rs ∧ (s.Known → u.localReplies.length ≤ 1))
    (hu : u.message.localResponseSent = true) (hrejected : u.message.Rejected cfg) :
    Ended cfg I R u.finalizeRequest := by
  obtain ⟨metadata, hm, hR⟩ := hs.request
  obtain ⟨originMessage, hm'⟩ := h.metadata hm
  have hdeferred := mem_deferredDelete_finalizeRequest (Option.isSome_iff_exists.mpr ⟨_, hm'⟩) hu
    (hlisted.of_retains h.id h.retains)
  refine ⟨?_, ?_, ?_, fun hc => ?_, fun hp hc ho => ?_⟩
  · rw [message_finalizeRequest]
    exact hrejected
  · rw [message_finalizeRequest]
  · rw [message_finalizeRequest]
    exact hdeferred
  · rw [localReplies_finalizeRequest cfg]
    exact (honce hc).2 hs.known
  · have hcount := h.replies hk hp hs.codec hm hR (honce hc).1
      ((proceeds_finalizeRequest cfg u).open ho)
    have hany : rs.any (!·.2) = true := by
      have hflag := h.sent (Option.isSome_iff_exists.mpr ⟨_, hm⟩)
      rw [hsent, hu, Bool.false_or] at hflag
      exact hflag.symm
    have hpos : 0 < rs.countP (!·.2) := List.countP_pos_iff.mpr (List.any_eq_true.mp hany)
    have hone := (honce hc).2 hs.known
    rw [localReplies_finalizeRequest cfg]
    omega

end Pass

/-! ## The fate of a message -/

/-- What an event does to a message : nothing that is settled changes, and if a decoder filter sends
a local reply, it ends the request. Where `spared` holds, a message with a local reply gets
no other. -/
structure Fate (cfg : Config σ) (I : σ → Prop) (R : Metadata → Prop) (spared : Prop)
    (s t : Stream σ) : Prop where
  id : t.message.id = s.message.id
  sound : s.Sound I R → t.Sound I R
  sent : s.message.localResponseSent = true → t.message.localResponseSent = true
  calls : s.message.localResponseSent = true → t.message.decoderCalls = s.message.decoderCalls
  pending : s.message.pendingStreamDecoded = false → t.message.pendingStreamDecoded = false
  retains : s.downstream.Retains t.downstream
  silent : spared → s.message.localResponseSent = true → t.localReplies = s.localReplies
  rejects : s.Sound I R → s.Listed → s.message.pendingStreamDecoded = true →
    s.message.localResponseSent = false → t.message.localResponseSent = true →
      t.message.decoderCalls ≠ s.message.decoderCalls → t.Ended cfg I R

section Fate

variable {spared : Prop} {s t u : Stream σ} {cs : List ℕ} {rs : List (Error × Bool)}

/-- Nothing is written if the client is gone, or nothing is sent. -/
theorem Proceeds.silent_of (h : Proceeds cfg s cs rs t)
    (hrs : s.downstream.state = .open → rs = []) : t.localReplies = s.localReplies := by
  by_cases ho : s.downstream.state = .open
  · exact Proceeds.silent (hrs ho ▸ h)
  · obtain ⟨ws, hws, -, hnone⟩ := h.written
    rw [hws, hnone ho, List.append_nil]

/-- An event that calls no decoder filter rejects nothing. -/
theorem Proceeds.fate (hk : cfg.codec.Keeps I R) (h : Proceeds cfg s [] rs t)
    (hrs : spared → s.message.localResponseSent = true → s.downstream.state = .open → rs = []) :
    Fate cfg I R spared s t where
  id := h.id
  sound := h.sound hk
  sent := h.flag
  calls _ := h.decoderCalls
  pending hs := h.pending.trans hs
  retains := h.retains
  silent hp hs := h.silent_of (hrs hp hs)
  rejects _ _ _ _ _ hne := absurd h.decoderCalls hne

/-- What happens in front of the filters is no rejection. -/
theorem Fate.before (hk : cfg.codec.Keeps I R) (h : Proceeds cfg s [] rs u)
    (hrs : spared → s.message.localResponseSent = true → s.downstream.state = .open → rs = [])
    (h' : Fate cfg I R spared u t) : Fate cfg I R spared s t := by
  refine ⟨h'.id.trans h.id, fun hs => h'.sound (h.sound hk hs), fun hs => h'.sent (h.flag hs),
    fun hs => (h'.calls (h.flag hs)).trans h.decoderCalls,
    fun hs => h'.pending (h.pending.trans hs),
    h.retains.trans h'.retains, fun hp hs => ?_, fun hs hlisted hpending hsent hnow hne => ?_⟩
  · exact (h'.silent hp (h.flag hs)).trans (h.silent_of (hrs hp hs))
  · refine h'.rejects (h.sound hk hs) (hlisted.of_retains h.id h.retains)
      (h.pending.trans hpending) ?_ hnow fun heq => hne (heq.trans h.decoderCalls)
    exact Bool.eq_false_iff.mpr fun hu => hne ((h'.calls hu).trans h.decoderCalls)

theorem Ended.then (h : s.Ended cfg I R) (h' : Proceeds cfg s [] [] t) : t.Ended cfg I R := by
  obtain ⟨position, filter, v, hposition, hnot, hcall, hlast, hid, hrequest⟩ := h.rejected
  have hrequest' : ∀ metadata, v.message.metadata = some metadata →
      ∃ originMessage, t.message.metadata = some { metadata with originMessage } := by
    intro metadata hv
    obtain ⟨_, hs⟩ := hrequest metadata hv
    obtain ⟨originMessage, ht⟩ := h'.metadata hs
    exact ⟨originMessage, ht⟩
  refine ⟨⟨position, filter, v, hposition, hnot, hcall, h'.decoderCalls.trans hlast,
    h'.id.trans hid,
    hrequest'⟩, h'.pending.trans h.finalized, ?_, fun hc => ?_, fun hp hc ho => ?_⟩
  · rw [h'.id]
    exact (h'.retains _).1 h.deferred
  · rw [h'.silent]
    exact h.atMost hc
  · rw [h'.silent]
    exact h.replies hp hc (h'.open ho)

/-- What happens behind the filters is silent. -/
theorem Fate.then (hk : cfg.codec.Keeps I R) (h : Fate cfg I R spared s u)
    (h' : Proceeds cfg u [] [] t) : Fate cfg I R spared s t := by
  refine ⟨h'.id.trans h.id, fun hs => h'.sound hk (h.sound hs), fun hs => h'.flag (h.sent hs),
    fun hs => h'.decoderCalls.trans (h.calls hs), fun hs => h'.pending.trans (h.pending hs),
    h.retains.trans h'.retains, fun hp hs => h'.silent.trans (h.silent hp hs),
    fun hs hlisted hpending hsent hnow hne => ?_⟩
  obtain ⟨metadata, hm, -⟩ := (h.sound hs).request
  have hu : u.message.localResponseSent = true := by
    have hflag := h'.sent (Option.isSome_iff_exists.mpr ⟨_, hm⟩)
    rw [hnow] at hflag
    simpa using hflag.symm
  exact (h.rejects hs hlisted hpending hsent hu fun heq => hne (h'.decoderCalls.trans heq)).then h'

theorem Ended.aside {d : Downstream σ} (h : s.Ended cfg I R)
    (ha : s.downstream.Aside I s.message.id d) : Ended cfg I R ⟨s.message, d⟩ where
  rejected := h.rejected
  finalized := h.finalized
  deferred := (ha.retains _).1 h.deferred
  atMost hc := Nat.le_trans (Nat.le_of_eq (congrArg List.length ha.replies)) (h.atMost hc)
  replies hp hc ho := (congrArg _ ha.replies).trans (h.replies hp hc (ha.state ho))

theorem Sound.aside {d : Downstream σ} (h : s.Sound I R)
    (ha : s.downstream.Aside I s.message.id d) : Sound I R ⟨s.message, d⟩ where
  codec := ha.codec h.codec
  request := h.request
  known hs :=
    ⟨Nat.le_trans (Nat.le_of_eq (congrArg List.length ha.replies)) (h.known hs).1,
      fun ho => ha.replies.trans ((h.known hs).2 (ha.state ho))⟩

/-- What the rest of the connection does behind an event changes nothing for the message. -/
theorem Fate.aside {d : Downstream σ} (h : Fate cfg I R spared s t)
    (ha : t.downstream.Aside I t.message.id d) : Fate cfg I R spared s ⟨t.message, d⟩ where
  id := h.id
  sound hs := (h.sound hs).aside ha
  sent := h.sent
  calls := h.calls
  pending := h.pending
  retains := h.retains.trans ha.retains
  silent hp hs := ha.replies.trans (h.silent hp hs)
  rejects hs hlisted hpending hsent hnow hne :=
    (h.rejects hs hlisted hpending hsent hnow hne).aside ha

/-! ## The filters of a message -/

/-- A message whose filters have been run, and whose request is not finalized. -/
theorem Proceeds.fate_of_silent (hk : cfg.codec.Keeps I R) (h : Proceeds cfg s cs rs u)
    (hflag : s.message.localResponseSent = true → cs = [] ∧ rs = [])
    (hnot : s.message.pendingStreamDecoded = true → s.message.localResponseSent = false →
      u.message.localResponseSent = false) : Fate cfg I R spared s u where
  id := h.id
  sound := h.sound hk
  sent := h.flag
  calls hs := by rw [h.calls, (hflag hs).1, List.append_nil]
  pending hs := h.pending.trans hs
  retains := h.retains
  silent _ hs := Proceeds.silent ((hflag hs).2 ▸ h)
  rejects _ _ hpending hsent hnow _ := by cases (hnot hpending hsent).symm.trans hnow

/-- A message whose filters have been run, and whose request is finalized then. -/
theorem Proceeds.fate_finalizeRequest (hk : cfg.codec.Keeps I R) (h : Proceeds cfg s cs rs u)
    (hflag : s.message.localResponseSent = true → cs = [] ∧ rs = [])
    (hrejected : s.message.localResponseSent = false →
      (cfg.RepliesOnce → Worded rs ∧ (s.Known → u.localReplies.length ≤ 1)) ∧
        (u.message.localResponseSent = true → u.message.Rejected cfg)) :
    Fate cfg I R spared s u.finalizeRequest := by
  have hfinal := proceeds_finalizeRequest cfg u
  refine ⟨hfinal.id.trans h.id, fun hs => ?_, fun hs => ?_, fun hs => ?_, fun _ => ?_,
    h.retains.trans hfinal.retains, fun _ hs => ?_, fun hs hlisted _ hsent hnow _ => ?_⟩
  · obtain ⟨hcodec, hrequest, hknown⟩ := h.sound hk hs
    exact hfinal.sound hk ⟨hcodec, hrequest, hknown⟩
  · rw [message_finalizeRequest]
    exact h.flag hs
  · rw [message_finalizeRequest, h.calls, (hflag hs).1, List.append_nil]
  · rw [message_finalizeRequest]
  · rw [localReplies_finalizeRequest cfg]
    exact Proceeds.silent ((hflag hs).2 ▸ h)
  · rw [message_finalizeRequest] at hnow
    obtain ⟨honce, hlast⟩ := hrejected hsent
    exact ended_finalizeRequest hk hs hlisted hsent h honce hnow (hlast hnow)

theorem fate_continueDecoding (hk : cfg.codec.Keeps I R) (position : ℕ) (s : Stream σ) :
    Fate cfg I R spared s (s.continueDecoding cfg position).2 := by
  unfold continueDecoding
  cases hmetadata : s.message.metadata with
  | none => exact (Proceeds.refl.panic _).fate hk fun _ _ _ => rfl
  | some metadata =>
    dsimp only
    generalize commonPrefix _ _ = start
    obtain ⟨cs, rs, h, hflag, hrejected⟩ := proceeds_applyDecoderFilters cfg start
      (Option.isSome_iff_exists.mpr ⟨_, hmetadata⟩)
    generalize s.applyDecoderFilters cfg start = r at h hrejected ⊢
    obtain ⟨status, u⟩ := r
    have hstopped : status ≠ .continue → s.message.localResponseSent = false →
        u.message.localResponseSent = false := fun hne hs =>
      Bool.eq_false_iff.mpr fun hu => hne ((hrejected hs).2 hu).1
    cases status with
    | «continue» =>
      dsimp only
      by_cases hpending : u.message.pendingStreamDecoded = true
      · rw [if_pos hpending]
        exact h.fate_finalizeRequest hk hflag fun hs =>
          ⟨(hrejected hs).1, fun hu => ((hrejected hs).2 hu).2⟩
      · rw [if_neg hpending]
        exact h.fate_of_silent hk hflag fun hs => absurd (h.pending.trans hs) hpending
    | stopIteration => exact h.fate_of_silent hk hflag fun _ => hstopped (by decide)
    | retry => exact h.fate_of_silent hk hflag fun _ => hstopped (by decide)

/-- A message that is born with a local reply was rejected by a decoder filter. -/
theorem onStreamDecoded_ended (hk : cfg.codec.Keeps I R) {metadata : Metadata} (hR : R metadata)
    (hcodec : I s.downstream.codec) (hreplies : s.localReplies = []) (hlisted : s.Listed)
    (hnew : s.message.localResponseSent = false) :
    (s.onStreamDecoded cfg metadata).message.id = s.message.id ∧
      (s.onStreamDecoded cfg metadata).Sound I R ∧
      ((s.onStreamDecoded cfg metadata).message.localResponseSent = true →
        (s.onStreamDecoded cfg metadata).Ended cfg I R) := by
  obtain ⟨t, ht⟩ : ∃ t, t = (s.inc .requestDecodingSuccess).onMessage fun m =>
    { m with metadata := some metadata, filterAction := true } := ⟨_, rfl⟩
  have hid : t.message.id = s.message.id := by rw [ht]; rfl
  have hm : t.message.metadata = some metadata := by rw [ht]; rfl
  have hsent : t.message.localResponseSent = false := by rw [ht]; exact hnew
  have hsound : t.Sound I R := by
    rw [ht]
    refine ⟨hcodec, ⟨metadata, rfl, hR⟩, fun _ => ⟨?_, fun _ => hreplies⟩⟩
    exact Nat.le_trans (Nat.le_of_eq (congrArg List.length hreplies)) (Nat.zero_le 1)
  have htlisted : t.Listed := by rw [ht]; exact hlisted
  unfold onStreamDecoded
  dsimp only
  rw [← ht]
  obtain ⟨cs, rs, h, -, hrejected⟩ := proceeds_applyDecoderFilters cfg
    (commonPrefix none .canStartFromCurrent) (Option.isSome_iff_exists.mpr ⟨_, hm⟩)
  generalize t.applyDecoderFilters cfg (commonPrefix none .canStartFromCurrent) = r
    at h hrejected ⊢
  obtain ⟨status, u⟩ := r
  obtain ⟨honce, hlast⟩ := hrejected hsent
  obtain ⟨hcodec', hrequest', hknown'⟩ := h.sound hk hsound
  have hfinal : u.finalizeRequest.message.id = s.message.id ∧ u.finalizeRequest.Sound I R ∧
      (u.finalizeRequest.message.localResponseSent = true → u.finalizeRequest.Ended cfg I R) := by
    refine ⟨?_, (proceeds_finalizeRequest cfg u).sound hk ⟨hcodec', hrequest', hknown'⟩,
      fun hu => ?_⟩
    · rw [message_finalizeRequest]
      exact h.id.trans hid
    · rw [message_finalizeRequest] at hu
      exact ended_finalizeRequest hk hsound htlisted hsent h honce hu (hlast hu).2
  cases status with
  | «continue» => exact hfinal
  | retry => exact hfinal
  | stopIteration =>
    refine ⟨h.id.trans hid, ⟨hcodec', hrequest', hknown'⟩, fun hu => ?_⟩
    cases (hlast hu).1

end Fate

end Stream

/-- What a message does, it does aside from any other. -/
theorem Touched.aside {i j : ℕ} {closes : Prop} {d d' : Downstream σ} (h : Touched j closes d d')
    (hj : j ≠ i) : d.Aside I i d' := by
  induction h with
  | refl => exact .refl I i d
  | inc _ stat ih => exact ⟨ih.codec, ih.state, ih.replies, ih.retains⟩
  | dec _ stat ih => exact ⟨ih.codec, ih.state, ih.replies, ih.retains⟩
  | panic _ site ih => exact ⟨ih.codec, ih.state, ih.replies, ih.retains⟩
  | write _ w hw _ ih =>
    refine ⟨ih.codec, ih.state, ?_, ih.retains⟩
    refine (Downstream.localReplies_append rfl i).trans ?_
    simpa [hw, hj] using ih.replies
  | deferredMessage _ ih =>
    refine ih.trans ⟨fun h => ?_, fun h => ?_, ?_, Downstream.retains_deferredMessage _ _⟩
    · rwa [Downstream.codec_deferredMessage]
    · rwa [Downstream.state_deferredMessage] at h
    · exact Downstream.localReplies_of_written (Downstream.written_deferredMessage _ _) i
  | close _ _ type ih => exact ih.trans (Downstream.aside_close I i type _)

end MetaProtocolProxy

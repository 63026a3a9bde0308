import MetaProtocolProxy.Correlation
import MetaProtocolProxy.DubboProxy
import MetaProtocolProxy.Ownership
import MetaProtocolProxy.Rejection

/-!
# A rejected request ends once

Over every run, a request that a decoder filter rejects is finalized and handed over once, no
filter behind the one that has rejected it is called, and the client gets one local reply, as long
as nothing happens on an upstream request of the message that the router replies to (`Spared`).
-/

namespace MetaProtocolProxy

variable {σ : Type} {cfg : Config σ} {I : σ → Prop} {R : Metadata → Prop}

namespace Stream

/-! ## Counting requests -/

/-- The requests that were counted, and the one that is still to be. -/
def tally (s : Stream σ) : ℕ :=
  s.downstream.stats .request + s.message.pendingStreamDecoded.toNat

section Tally

variable {s t : Stream σ} {cs : List ℕ} {rs : List (Error × Bool)}

theorem Proceeds.tally (h : Proceeds cfg s cs rs t) : t.tally = s.tally := by
  unfold Stream.tally
  rw [h.request, h.pending]

theorem tally_finalizeRequest (cfg : Config σ) (s : Stream σ) :
    s.finalizeRequest.tally = s.downstream.stats .request + 1 :=
  (proceeds_finalizeRequest cfg s).tally

theorem tally_continueDecoding (cfg : Config σ) (position : ℕ) (s : Stream σ) :
    (s.continueDecoding cfg position).2.tally = s.tally := by
  unfold continueDecoding
  cases hmetadata : s.message.metadata with
  | none => rfl
  | some metadata =>
    dsimp only
    generalize commonPrefix _ _ = start
    obtain ⟨cs, rs, h, -⟩ := proceeds_applyDecoderFilters cfg start
      (Option.isSome_iff_exists.mpr ⟨_, hmetadata⟩)
    generalize s.applyDecoderFilters cfg start = r at h ⊢
    obtain ⟨status, t⟩ := r
    cases status with
    | «continue» =>
      dsimp only
      split
      · rename_i hpending
        rw [tally_finalizeRequest cfg, ← h.tally, tally, hpending]
        rfl
      · exact h.tally
    | stopIteration => exact h.tally
    | retry => exact h.tally

/-- A request that is decoded is counted, or it is pending. -/
theorem tally_onStreamDecoded (cfg : Config σ) (metadata : Metadata) (s : Stream σ) :
    (s.onStreamDecoded cfg metadata).tally = s.downstream.stats .request + 1 := by
  obtain ⟨t, ht⟩ : ∃ t, t = (s.inc .requestDecodingSuccess).onMessage fun m =>
    { m with metadata := some metadata, filterAction := true } := ⟨_, rfl⟩
  have hm : t.message.metadata.isSome := by rw [ht]; rfl
  have hrequest : t.downstream.stats .request = s.downstream.stats .request := by rw [ht]; rfl
  unfold onStreamDecoded
  dsimp only
  rw [← ht, ← hrequest]
  obtain ⟨cs, rs, h, -⟩ := proceeds_applyDecoderFilters cfg
    (commonPrefix none .canStartFromCurrent) hm
  generalize t.applyDecoderFilters cfg (commonPrefix none .canStartFromCurrent) = r at h ⊢
  obtain ⟨status, u⟩ := r
  cases status with
  | stopIteration => exact congrArg (· + 1) h.request
  | «continue» => exact (tally_finalizeRequest cfg u).trans (congrArg (· + 1) h.request)
  | retry => exact (tally_finalizeRequest cfg u).trans (congrArg (· + 1) h.request)

end Tally

end Stream

namespace Touched

theorem trans {i : ℕ} {closes : Prop} {d d' d'' : Downstream σ} (h : Touched i closes d d')
    (h' : Touched i closes d' d'') : Touched i closes d d'' := by
  induction h' with
  | refl => exact h
  | inc _ stat ih => exact ih.inc stat
  | dec _ stat ih => exact ih.dec stat
  | panic _ site ih => exact ih.panic site
  | write _ w hw hreply ih => exact ih.write w hw hreply
  | deferredMessage _ ih => exact ih.deferredMessage
  | close _ hc type ih => exact ih.close hc type

/-- What a message writes carries its number. -/
theorem written {i : ℕ} {closes : Prop} {d d' : Downstream σ} (h : Touched i closes d d') :
    ∃ ws, d'.written = d.written ++ ws ∧ ∀ w ∈ ws, w.message = some i := by
  induction h with
  | refl => exact ⟨[], (List.append_nil _).symm, by simp⟩
  | write _ w hw _ ih =>
    obtain ⟨ws, hws, hall⟩ := ih
    refine ⟨ws ++ [w], by rw [← List.append_assoc, ← hws]; rfl, fun w' hw' => ?_⟩
    rcases List.mem_append.mp hw' with hw' | hw'
    · exact hall w' hw'
    · exact List.mem_singleton.mp hw' ▸ hw
  | deferredMessage _ ih => rwa [Downstream.written_deferredMessage]
  | close _ _ type ih => rwa [Downstream.written_close]
  | _ => assumption

end Touched

namespace ConnectionManager

variable {cm cm' cm'' : ConnectionManager σ}

/-- The requests that were finalized are the ones that are counted. -/
def Counted (cm : ConnectionManager σ) : Prop :=
  cm.downstream.stats .request =
    (List.range cm.created).countP fun i => !(cm.messages i).pendingStreamDecoded

theorem countP_range_update {n i : ℕ} {p q : ℕ → Bool} (hi : i < n)
    (h : ∀ j, j ≠ i → q j = p j) :
    (List.range n).countP q + (p i).toNat = (List.range n).countP p + (q i).toNat := by
  have hperm := List.perm_cons_erase (List.mem_range.mpr hi)
  have hrest : ((List.range n).erase i).countP q = ((List.range n).erase i).countP p :=
    List.countP_congr fun j hj => by rw [h j (List.nodup_range.mem_erase_iff.mp hj).1]
  rw [hperm.countP_eq, hperm.countP_eq, List.countP_cons, List.countP_cons, hrest]
  cases p i <;> cases q i <;> simp

theorem Counted.setStream (h : cm.Counted) {i : ℕ} (hi : i < cm.created) {s : Stream σ}
    (hs : s.tally = (cm.stream i).tally) : (cm.setStream i s).Counted := by
  have hcount := countP_range_update hi (p := fun j => !(cm.messages j).pendingStreamDecoded)
    (q := fun j => !((cm.setStream i s).messages j).pendingStreamDecoded) fun j hj => by
      simp [ConnectionManager.setStream, Function.update_of_ne hj]
  have hown : ((cm.setStream i s).messages i).pendingStreamDecoded =
      s.message.pendingStreamDecoded := by simp [ConnectionManager.setStream]
  unfold Stream.tally at hs
  unfold Counted at h ⊢
  rw [hown] at hcount
  change s.downstream.stats .request = (List.range cm.created).countP _
  change _ = cm.downstream.stats .request + (cm.messages i).pendingStreamDecoded.toNat at hs
  have hnot : ∀ b : Bool, (!b).toNat + b.toNat = 1 := by decide
  have hbefore := hnot (cm.messages i).pendingStreamDecoded
  have hafter := hnot s.message.pendingStreamDecoded
  omega

/-- A new request is counted as finalized, or it is pending. -/
theorem Counted.newStream (h : cm.Counted) (cfg : Config σ) (metadata : Metadata) :
    (cm.newStream cfg metadata).Counted := by
  have htally := Stream.tally_onStreamDecoded cfg metadata
    (⟨{ id := cm.created }, { (cm.downstream.inc .requestActive) with
      activeMessageList := cm.created :: cm.downstream.activeMessageList }⟩ : Stream σ)
  rw [newStream_eq]
  generalize (⟨{ id := cm.created }, { (cm.downstream.inc .requestActive) with
    activeMessageList := cm.created :: cm.downstream.activeMessageList }⟩ :
      Stream σ).onStreamDecoded cfg metadata = t at htally ⊢
  replace htally : t.tally = cm.downstream.stats .request + 1 := htally
  have hbefore : (List.range cm.created).countP (fun i =>
      !(Function.update cm.messages cm.created t.message i).pendingStreamDecoded) =
        cm.downstream.stats .request :=
    (List.countP_congr fun i hi => by
      rw [Function.update_of_ne (Nat.ne_of_lt (List.mem_range.mp hi))]).trans h.symm
  unfold Stream.tally at htally
  unfold Counted
  dsimp only
  rw [List.range_succ, List.countP_append, hbefore, List.countP_singleton, Function.update_self]
  cases hpending : t.message.pendingStreamDecoded with
  | false => simpa [hpending] using htally
  | true => simpa [hpending] using htally

/-! ## What the connection does around its messages -/

/-- Messages carry their number, and their requests are counted. -/
structure Orderly (I : σ → Prop) (cm : ConnectionManager σ) : Prop where
  numbered : cm.Numbered
  codec : I cm.downstream.codec
  counted : cm.Counted

/-- A message that exists is in order, and if it has a local reply already, a decoder filter has
rejected it. -/
structure Entered (cfg : Config σ) (I : σ → Prop) (R : Metadata → Prop) (s : Stream σ) : Prop where
  sound : s.Sound I R
  ended : s.message.localResponseSent = true → s.Ended cfg I R

theorem Entered.aside {s : Stream σ} (h : Entered cfg I R s) {d : Downstream σ}
    (ha : s.downstream.Aside I s.message.id d) : Entered cfg I R ⟨s.message, d⟩ :=
  ⟨h.sound.aside ha, fun hs => (h.ended hs).aside ha⟩

/-- From `cm` to `cm'` the connection takes in messages, and does nothing to those it has. -/
structure Onward (cfg : Config σ) (I : σ → Prop) (R : Metadata → Prop)
    (cm cm' : ConnectionManager σ) : Prop where
  orderly : cm'.Orderly I
  created : cm.created ≤ cm'.created
  messages : ∀ i < cm.created, cm'.messages i = cm.messages i
  aside : ∀ i < cm.created, cm.downstream.Aside I i cm'.downstream
  born : ∀ i, cm.created ≤ i → i < cm'.created → Entered cfg I R (cm'.stream i)

theorem Onward.refl (cfg : Config σ) (R : Metadata → Prop) (h : cm.Orderly I) :
    Onward cfg I R cm cm :=
  ⟨h, Nat.le_refl _, fun _ _ => rfl, fun i _ => .refl I i _,
    fun _ hle hlt => absurd hlt (Nat.not_lt.mpr hle)⟩

/-- A message the connection has stays behind what the connection does. -/
theorem Onward.stream (h : Onward cfg I R cm cm') {i : ℕ} (hi : i < cm.created) :
    cm'.stream i = ⟨(cm.stream i).message, cm'.downstream⟩ :=
  congrArg (Stream.mk · cm'.downstream) (h.messages i hi)

theorem Onward.trans (h : Onward cfg I R cm cm') (h' : Onward cfg I R cm' cm'') :
    Onward cfg I R cm cm'' := by
  refine ⟨h'.orderly, Nat.le_trans h.created h'.created, fun i hi => ?_, fun i hi => ?_,
    fun i hle hlt => ?_⟩
  · exact (h'.messages i (Nat.lt_of_lt_of_le hi h.created)).trans (h.messages i hi)
  · exact (h.aside i hi).trans (h'.aside i (Nat.lt_of_lt_of_le hi h.created))
  · by_cases hi : i < cm'.created
    · rw [h'.stream hi]
      refine (h.born i hle hi).aside ?_
      rw [h.orderly.numbered.stream_id i]
      exact h'.aside i hi
    · exact h'.born i (Nat.not_lt.mp hi) hlt

/-- The connection does something on its own. -/
theorem onward_of_same (h : cm.Orderly I) (hmessages : cm'.messages = cm.messages)
    (hcreated : cm'.created = cm.created)
    (hrequest : cm'.downstream.stats .request = cm.downstream.stats .request)
    (hnumbered : cm.Numbered → cm'.Numbered)
    (haside : ∀ i, cm.downstream.Aside I i cm'.downstream) : Onward cfg I R cm cm' := by
  refine ⟨⟨hnumbered h.numbered, (haside 0).codec h.codec, ?_⟩, Nat.le_of_eq hcreated.symm,
    fun i _ => by rw [hmessages], fun i _ => haside i,
    fun i hle hlt => absurd (hcreated ▸ hlt) (Nat.not_lt.mpr hle)⟩
  unfold Counted
  rw [hrequest, hcreated, hmessages]
  exact h.counted

theorem onward_onDecodingError (h : cm.Orderly I) : Onward cfg I R cm cm.onDecodingError := by
  refine onward_of_same h rfl rfl ?_ (silent_onDecodingError cm).numbered fun i => ?_
  · exact (Downstream.request_resetAllMessages _ _).trans (Downstream.request_close _ _)
  · have hcount : (cm.downstream.close .noFlush).Aside I i
        ((cm.downstream.close .noFlush).inc .requestDecodingError) := ⟨id, id, rfl, .of_eq rfl rfl⟩
    exact ((Downstream.aside_close I i .noFlush cm.downstream).trans hcount).trans
      (Downstream.aside_resetAllMessages I i true _)

theorem onward_resetAndClose (h : cm.Orderly I) : Onward cfg I R cm cm.resetAndClose := by
  refine onward_of_same h rfl rfl ?_ (silent_resetAndClose cm).numbered fun i => ?_
  · exact (Downstream.request_close _ _).trans (Downstream.request_resetAllMessages _ _)
  · exact (Downstream.aside_resetAllMessages I i false cm.downstream).trans
      (Downstream.aside_close I i .flushWrite _)

theorem onward_closed (h : cm.Orderly I) (event : ConnectionEvent) :
    Onward cfg I R cm (cm.onDownstream (Downstream.closed event)) := by
  refine onward_of_same h rfl rfl (Downstream.request_resetAllMessages _ _)
    (silent_onDownstream (Downstream.written_closed _ _)).numbered fun i => ?_
  have hclosed : cm.downstream.Aside I i { cm.downstream with state := .closed } :=
    ⟨id, by rintro ⟨⟩, rfl, .of_eq rfl rfl⟩
  exact hclosed.trans (Downstream.aside_resetAllMessages I i _ _)

theorem onward_panic (h : cm.Orderly I) (site : String) :
    Onward cfg I R cm (cm.onDownstream (Downstream.panic site)) :=
  onward_of_same h rfl rfl rfl (silent_panic site cm).numbered
    fun _ => ⟨id, id, rfl, .of_eq rfl rfl⟩

theorem onward_onHeartbeat (h : cm.Orderly I) (metadata : Metadata) :
    Onward cfg I R cm (cm.onHeartbeat cfg metadata).2 := by
  have hnumbered := (silent_onHeartbeat cfg metadata cm).numbered
  obtain ⟨ws, hcm, hws⟩ := onHeartbeat_spec cfg metadata cm
  rw [hcm] at hnumbered ⊢
  refine onward_of_same h rfl rfl rfl hnumbered fun i => ⟨id, id, ?_, .of_eq rfl rfl⟩
  refine (Downstream.localReplies_append rfl i).trans ?_
  have hnone : ws.filter (fun w => w.message = some i && w.reply.isLocal) = [] :=
    List.filter_eq_nil_iff.mpr fun w hw => by simp [(hws w hw).1]
  rw [hnone, List.append_nil]

theorem onward_newStream (hk : cfg.codec.Keeps I R) (h : cm.Orderly I) {metadata : Metadata}
    (hR : R metadata) : Onward cfg I R cm (cm.newStream cfg metadata) := by
  have hnumbered := (silent_newStream cfg metadata cm).numbered h.numbered
  have hcounted := h.counted.newStream cfg metadata
  obtain ⟨s, hs⟩ : ∃ s : Stream σ, s = ⟨{ id := cm.created },
    { (cm.downstream.inc .requestActive) with
      activeMessageList := cm.created :: cm.downstream.activeMessageList }⟩ := ⟨_, rfl⟩
  have hid : s.message.id = cm.created := by rw [hs]
  have hreplies : s.localReplies = [] := by
    refine List.filter_eq_nil_iff.mpr fun w hw hlocal => ?_
    rw [hs] at hw hlocal
    have hmessage := of_decide_eq_true (Bool.and_eq_true_iff.mp hlocal).1
    exact absurd (h.numbered.written w hw _ hmessage) (Nat.lt_irrefl _)
  have hlocal : Stream.Local cfg cm.created True (Stream.onStreamDecoded cfg metadata) :=
    fun hr _ _ hb => hb.onStreamDecoded hr (fun _ _ => Or.inr trivial) metadata
  have htouched := (hlocal.touched hid).2
  obtain ⟨-, hsound, hended⟩ := Stream.onStreamDecoded_ended hk hR
    (s := s) (by rw [hs]; exact h.codec) hreplies (Or.inl (by rw [hs]; exact List.mem_cons_self))
    (by rw [hs])
  have hbefore : ∀ i < cm.created, cm.downstream.Aside I i s.downstream := by
    intro i hi
    rw [hs]
    exact ⟨id, id, rfl, fun j => ⟨id, fun hj => Or.inl (List.mem_cons_of_mem _ hj)⟩⟩
  rw [newStream_eq] at hnumbered hcounted ⊢
  rw [← hs] at hnumbered hcounted ⊢
  generalize s.onStreamDecoded cfg metadata = t at hnumbered hcounted htouched hsound hended ⊢
  refine ⟨⟨hnumbered, hsound.codec, hcounted⟩, Nat.le_succ _,
    fun i hi => Function.update_of_ne (Nat.ne_of_lt hi) _ _, fun i hi => ?_, fun i hle hlt => ?_⟩
  · exact (hbefore i hi).trans (htouched.aside (Nat.ne_of_gt hi))
  · obtain rfl : i = cm.created := Nat.le_antisymm (Nat.le_of_lt_succ hlt) hle
    have hmessage : Function.update cm.messages cm.created t.message cm.created = t.message :=
      Function.update_self _ _ _
    unfold ConnectionManager.stream
    dsimp only
    rw [hmessage]
    exact ⟨hsound, hended⟩

section Reading

variable (hk : cfg.codec.Keeps I R)
include hk

theorem onward_turn (h : cm.Orderly I) {again : Bool} (hturn : Turn cfg cm cm' again) :
    Onward cfg I R cm cm' := by
  obtain ⟨hI, hR⟩ := DecoderBase.keeps_decode hk h.codec cm.decoder cm.requestBuffer
  have hdecode : Onward cfg I R cm (cm.decode cfg).1 :=
    onward_of_same h rfl rfl rfl (silent_decode cfg cm).numbered
      fun _ => ⟨fun _ => hI, id, rfl, .of_eq rfl rfl⟩
  have hheartbeat := fun metadata =>
    hdecode.trans (onward_onHeartbeat hdecode.orderly metadata)
  have hcomplete : ∀ {cm'' : ConnectionManager σ}, Onward cfg I R cm cm'' →
      Onward cfg I R cm cm''.complete := fun {cm''} h => h.trans (onward_of_same h.orderly rfl rfl
        rfl (silent_complete cm'').numbered fun i => .refl I i _)
  cases hturn with
  | wait => exact hdecode
  | error => exact hdecode.trans (onward_onDecodingError hdecode.orderly)
  | panic => exact hdecode.trans (onward_panic hdecode.orderly _)
  | stream hdecoded =>
    exact hcomplete (hdecode.trans (onward_newStream hk hdecode.orderly (hR _ (Or.inr hdecoded))))
  | heartbeat => exact hcomplete (hheartbeat _)
  | heartbeatError => exact (hheartbeat _).trans (onward_onDecodingError (hheartbeat _).orderly)
  | heartbeatPanic => exact (hheartbeat _).trans (onward_panic (hheartbeat _).orderly _)

theorem onward_dispatch (h : cm.Orderly I) : Onward cfg I R cm (cm.dispatch cfg) :=
  dispatch_rule (P := Onward cfg I R cm) id
    (fun h hturn => h.trans (onward_turn hk h.orderly hturn))
    (fun h hturn => h.trans (onward_turn hk h.orderly hturn)) (.refl cfg R h)

omit hk in
theorem onward_after (h : cm.Orderly I) (ha : AfterDispatch cm cm') : Onward cfg I R cm cm' := by
  have hsilent := silent_after ha
  cases ha with
  | more => exact .refl cfg R h
  | reset => exact onward_resetAndClose h
  | halfClose => exact onward_of_same h rfl rfl rfl hsilent.numbered fun i => .refl I i _
  | assert => exact onward_panic h _

theorem onward_onData (h : cm.Orderly I) (data : Bytes) (endStream : Bool) :
    Onward cfg I R cm (cm.onData cfg data endStream) := by
  have hbuffer : Onward cfg I R cm { cm with requestBuffer := cm.requestBuffer ++ data } :=
    onward_of_same h rfl rfl rfl (fun hn => ⟨hn.id, hn.written⟩) fun i => .refl I i _
  have hdispatch := hbuffer.trans (onward_dispatch hk hbuffer.orderly)
  exact hdispatch.trans (onward_after hdispatch.orderly (onData_after cfg data endStream cm))

theorem onward_continueDecoding (h : cm.Orderly I) :
    Onward cfg I R cm (cm.continueDecoding cfg) := by
  have hgo : Onward cfg I R cm { cm with stopped := false } :=
    onward_of_same h rfl rfl rfl (fun hn => ⟨hn.id, hn.written⟩) fun i => .refl I i _
  have hdispatch := hgo.trans (onward_dispatch hk hgo.orderly)
  exact hdispatch.trans (onward_after hdispatch.orderly (continueDecoding_after cfg cm))

end Reading

/-! ## What an event does to every message -/

/-- From `cm` to `cm'` every message meets its fate, and the connection may take in others. -/
structure Fares (cfg : Config σ) (I : σ → Prop) (R : Metadata → Prop) (spared : ℕ → Prop)
    (cm cm' : ConnectionManager σ) : Prop where
  orderly : cm'.Orderly I
  created : cm.created ≤ cm'.created
  fate : ∀ i < cm.created, Stream.Fate cfg I R (spared i) (cm.stream i) (cm'.stream i)
  born : ∀ i, cm.created ≤ i → i < cm'.created → Entered cfg I R (cm'.stream i)

section Fares

variable {spared : ℕ → Prop} {i : ℕ} {s : Stream σ} {rs : List (Error × Bool)}

/-- Nothing happens to a message but what the rest of the connection does. -/
theorem fate_aside (hk : cfg.codec.Keeps I R) {spared : Prop} {t : Stream σ}
    (hm : t.message = s.message) (ha : s.downstream.Aside I s.message.id t.downstream) :
    Stream.Fate cfg I R spared s t := by
  have hsame : Stream.Fate cfg I R spared s s :=
    Stream.Proceeds.fate hk .refl fun _ _ _ => rfl
  have hfate := hsame.aside ha
  rwa [← hm] at hfate

theorem Fares.onward (h : Fares cfg I R spared cm cm')
    (h' : Onward cfg I R cm' cm'') : Fares cfg I R spared cm cm'' := by
  have haside : ∀ i < cm'.created,
      (cm'.stream i).downstream.Aside I (cm'.stream i).message.id cm''.downstream := by
    intro i hi
    rw [h.orderly.numbered.stream_id i]
    exact h'.aside i hi
  refine ⟨h'.orderly, Nat.le_trans h.created h'.created, fun i hi => ?_, fun i hle hlt => ?_⟩
  · have hi' := Nat.lt_of_lt_of_le hi h.created
    rw [h'.stream hi']
    exact (h.fate i hi).aside (haside i hi')
  · by_cases hi : i < cm'.created
    · rw [h'.stream hi]
      exact (h.born i hle hi).aside (haside i hi)
    · exact h'.born i (Nat.not_lt.mp hi) hlt

theorem Onward.fares (hk : cfg.codec.Keeps I R) (hn : cm.Numbered) (h : Onward cfg I R cm cm') :
    Fares cfg I R spared cm cm' := by
  refine ⟨h.orderly, h.created, fun i hi => fate_aside hk (h.messages i hi) ?_, h.born⟩
  rw [hn.stream_id i]
  exact h.aside i hi

/-- What a message does is its own fate, and aside from the others. -/
theorem fares_setStream (hk : cfg.codec.Keeps I R) (h : cm.Orderly I) (hi : i < cm.created)
    (ht : Touched i True cm.downstream s.downstream) (htally : s.tally = (cm.stream i).tally)
    (hfate : Stream.Fate cfg I R (spared i) (cm.stream i) s) :
    Fares cfg I R spared cm (cm.setStream i s) := by
  obtain ⟨ws, hws, hall⟩ := ht.written
  have hnumber : (cm.stream i).message.id = i := h.numbered.id i
  refine ⟨⟨h.numbered.setStream hi hfate.id hws (by rwa [hnumber]), ht.codec.symm ▸ h.codec,
    h.counted.setStream hi htally⟩, Nat.le_refl _, fun j hj => ?_,
    fun j hle hlt => absurd hlt (Nat.not_lt.mpr hle)⟩
  by_cases hji : j = i
  · subst hji
    rwa [stream_setStream]
  · refine fate_aside hk (Function.update_of_ne hji _ _) ?_
    rw [h.numbered.stream_id j]
    exact ht.aside (Ne.symm hji)

/-- Behind its fate a message does something that calls no filter and sends nothing. -/
theorem Fares.then (hk : cfg.codec.Keeps I R) (h : Fares cfg I R spared cm cm')
    (hi : i < cm.created) (ht : Touched i True cm'.downstream s.downstream)
    (hs : Stream.Proceeds cfg (cm'.stream i) [] [] s) :
    Fares cfg I R spared cm (cm'.setStream i s) := by
  have hi' := Nat.lt_of_lt_of_le hi h.created
  have hlast : Fares cfg I R (fun _ => True) cm' (cm'.setStream i s) :=
    fares_setStream hk h.orderly hi' ht hs.tally (hs.fate hk fun _ _ _ => rfl)
  have haside : ∀ j, j ≠ i → (cm'.stream j).downstream.Aside I (cm'.stream j).message.id
      s.downstream := by
    intro j hj
    rw [h.orderly.numbered.stream_id j]
    exact ht.aside (Ne.symm hj)
  have hother : ∀ j, j ≠ i → (cm'.setStream i s).stream j =
      ⟨(cm'.stream j).message, s.downstream⟩ := fun j hj =>
    congrArg (Stream.mk · s.downstream) (Function.update_of_ne hj _ _)
  refine ⟨hlast.orderly, h.created, fun j hj => ?_, fun j hle hlt => ?_⟩
  · by_cases hji : j = i
    · subst hji
      rw [stream_setStream]
      exact (h.fate j hj).then hk hs
    · rw [hother j hji]
      exact (h.fate j hj).aside (haside j hji)
  · have hji : j ≠ i := Nat.ne_of_gt (Nat.lt_of_lt_of_le hi hle)
    rw [hother j hji]
    exact (h.born j hle hlt).aside (haside j hji)

/-- A message goes on with its filters, behind something that calls none. -/
theorem fares_continueMessage (hk : cfg.codec.Keeps I R) (h : cm.Orderly I) (hi : i < cm.created)
    (ht : Touched i True cm.downstream s.downstream)
    (hs : Stream.Proceeds cfg (cm.stream i) [] rs s)
    (hrs : spared i → (cm.stream i).message.localResponseSent = true →
      cm.downstream.state = .open → rs = []) (position : ℕ) :
    Fares cfg I R spared cm ((cm.setStream i s).continueMessage cfg i position) := by
  have hid : s.message.id = i := hs.id.trans (h.numbered.id i)
  have hcontinue := ht.trans (Stream.touched_continueDecoding cfg hid position).2
  have hfate := (Stream.fate_continueDecoding hk position s).before hk hs hrs
  have htally := (Stream.tally_continueDecoding cfg position s).trans hs.tally
  unfold continueMessage
  rw [stream_setStream]
  generalize s.continueDecoding cfg position = r at hcontinue hfate htally ⊢
  obtain ⟨again, t⟩ := r
  have hfares := fares_setStream hk h hi hcontinue htally hfate
  cases again with
  | false =>
    dsimp only
    rwa [setStream_setStream]
  | true =>
    dsimp only
    rw [setStream_setStream]
    exact hfares.onward (onward_continueDecoding hk hfares.orderly)

end Fares

/-- The router does not reply to the event : as long as the client is there, a two-way request of
message `i` does not lose its upstream, and what the upstream sends is a part of the response. -/
def Spared (cfg : Config σ) (i : ℕ) (cm : ConnectionManager σ) : Event → Prop
  | .poolFailure j _ _ | .upstreamClose j _ =>
    j = i → cm.downstream.state = .open → (cm.stream i).Oneway
  | .upstreamData j data endStream =>
    j = i → cm.downstream.state = .open →
      (cm.stream i).Spares cfg (cm.upstreamBuffer i ++ data) endStream
  | .downstreamData _ _ | .downstreamClose _ | .poolReady _ _ _ | .continueDecoding _ _
  | .continueEncoding _ _ | .release _ => True

theorem setStream_stream (i : ℕ) (cm : ConnectionManager σ) :
    cm.setStream i (cm.stream i) = cm := by
  simp [setStream, stream]

/-- What a message does on its own. -/
theorem fares_onStream (hk : cfg.codec.Keeps I R) (h : cm.Orderly I) {spared : ℕ → Prop} {i : ℕ}
    (hi : i < cm.created) {f : Stream σ → Stream σ} (hf : Stream.Local cfg i True f)
    {rs : List (Error × Bool)} (hs : Stream.Proceeds cfg (cm.stream i) [] rs (f (cm.stream i)))
    (hrs : spared i → (cm.stream i).message.localResponseSent = true →
      cm.downstream.state = .open → rs = []) : Fares cfg I R spared cm (cm.onStream i f) :=
  fares_setStream hk h hi (hf.touched (s := cm.stream i) (h.numbered.id i)).2 hs.tally
    (hs.fate hk hrs)

theorem fares_step (hk : cfg.codec.Keeps I R) (h : cm.Orderly I)
    {e : Event} (he : cm.Enabled cfg e) :
    Fares cfg I R (fun i => cm.Spared cfg i e) cm (cm.step cfg e) := by
  have hw : cfg.Within True := fun _ _ => Or.inr trivial
  have hpermitted := he.2
  cases e with
  | downstreamData data endStream =>
    exact (onward_onData hk h data endStream).fares hk h.numbered
  | downstreamClose event => exact (onward_closed h event).fares hk h.numbered
  | poolReady i host leftover =>
    have hready : Stream.Local cfg i True (Stream.onPoolReadyConnection host leftover) :=
      fun _ _ _ hb => (hb.onRequest _).onRequest _
    have hcontinue : Fares cfg I R (fun _ => True) cm _ := fares_continueMessage hk h
      hpermitted.1 (hready.touched (s := cm.stream i) (h.numbered.id i)).2
      (Stream.proceeds_onPoolReadyConnection host leftover (cm.stream i)) (fun _ _ _ => rfl)
      (routerPosition cfg)
    have hencode : Stream.Local cfg i True fun s => s.onRequestComplete.encodeData :=
      fun hr _ _ hb => (hb.onRequest _).encodeData hr
    exact hcontinue.then hk hpermitted.1
      (hencode.touched (s := stream i _) (hcontinue.orderly.numbered.id i)).2
      ((Stream.proceeds_onRequest _ _).then (Stream.proceeds_encodeData _))
  | poolFailure i reason host =>
    obtain ⟨rs, -, hs, hone⟩ := Stream.proceeds_onPoolFailureReset cfg reason host (cm.stream i)
    have hreset : Stream.Local cfg i True (Stream.onPoolFailureReset cfg reason host) :=
      fun hr _ _ hb => hb.onPoolFailureReset hr reason host
    have hrs : cm.Spared cfg i (.poolFailure i reason host) →
        (cm.stream i).message.localResponseSent = true → cm.downstream.state = .open → rs = [] :=
      fun hspared _ ho => hone (hspared rfl ho)
    have hcontinue : Fares cfg I R (fun j => cm.Spared cfg j (.poolFailure i reason host)) cm _ :=
      fares_continueMessage hk h hpermitted.1
        (hreset.touched (s := cm.stream i) (h.numbered.id i)).2 hs hrs (routerPosition cfg)
    unfold step onPoolFailure
    cases reason with
    | overflow => exact fares_onStream hk h hpermitted.1 hreset hs hrs
    | _ => exact hcontinue
  | upstreamData i data endStream =>
    obtain ⟨rs, hs, hnone⟩ := Stream.proceeds_onUpstreamData cfg (cm.upstreamBuffer i ++ data)
      endStream (cm.stream i)
    exact fares_onStream hk h hpermitted.1 (fun hr _ _ hb => hb.onUpstreamData hr hw _ endStream) hs
      fun hspared hsent ho => hnone hsent (hspared rfl ho)
  | upstreamClose i event =>
    obtain ⟨rs, -, hs, hone⟩ := Stream.proceeds_upstreamClosed cfg event (cm.stream i)
    exact fares_onStream hk h hpermitted.1 (fun hr _ _ hb => hb.upstreamClosed hr event) hs
      fun hspared _ ho => hone (hspared rfl ho)
  | continueDecoding i position =>
    have hcontinue : Fares cfg I R (fun _ => True) cm _ := fares_continueMessage hk h
      hpermitted.1 .refl .refl (fun _ _ _ => rfl) position
    rwa [setStream_stream] at hcontinue
  | continueEncoding i position =>
    obtain ⟨rs, hs, hnone⟩ := Stream.proceeds_continueEncoding cfg position (cm.stream i)
    exact fares_onStream hk h hpermitted.1 (fun hr _ _ hb => hb.continueEncoding hr hw position) hs
      fun _ hsent _ => hnone hsent
  | release i =>
    exact fares_onStream hk h hpermitted.1 (fun hr _ _ hb => hb.destroy hr)
      (Stream.proceeds_destroy cfg (cm.stream i)) fun _ _ _ => rfl

/-! ## Runs -/

/-- All messages are in order. -/
structure AllSound (I : σ → Prop) (R : Metadata → Prop) (cm : ConnectionManager σ) : Prop where
  orderly : cm.Orderly I
  sound : ∀ i < cm.created, (cm.stream i).Sound I R

theorem allSound_new (hk : cfg.codec.Keeps I R) : AllSound I R (new cfg) :=
  ⟨⟨numbered_new cfg, hk.init, rfl⟩, by rintro i ⟨⟩⟩

theorem AllSound.step (h : AllSound I R cm) {spared : ℕ → Prop} (h' : Fares cfg I R spared cm cm') :
    AllSound I R cm' := by
  refine ⟨h'.orderly, fun i hi => ?_⟩
  by_cases hlt : i < cm.created
  · exact (h'.fate i hlt).sound (h.sound i hlt)
  · exact (h'.born i (Nat.not_lt.mp hlt) hi).sound

theorem allSound_run (hk : cfg.codec.Keeps I R) {es : List Event}
    (hes : (system cfg).Admissible (new cfg) es) : AllSound I R ((system cfg).run (new cfg) es) :=
  Transition.history (P := fun _ cm => AllSound I R cm) (allSound_new hk)
    (fun _ _ _ he h => h.step (fares_step hk h.orderly he)) es hes

/-- Nothing more happens to a message that has its local reply. -/
structure Stays (s t : Stream σ) : Prop where
  sent : t.message.localResponseSent = true
  calls : t.message.decoderCalls = s.message.decoderCalls
  pending : s.message.pendingStreamDecoded = false → t.message.pendingStreamDecoded = false
  replies : t.localReplies = s.localReplies
  retains : s.downstream.Retains t.downstream

theorem stays_run (hk : cfg.codec.Keeps I R) {i : ℕ} :
    ∀ {es : List Event} {cm : ConnectionManager σ}, cm.Orderly I → i < cm.created →
      (cm.messages i).localResponseSent = true → (system cfg).Admissible cm es →
        (system cfg).Always (Spared cfg i) cm es →
          Stays (cm.stream i) (((system cfg).run cm es).stream i)
  | [], _, _, _, hs, _, _ => ⟨hs, rfl, id, rfl, .of_eq rfl rfl⟩
  | e :: es, cm, h, hi, hs, ⟨he, hes⟩, ⟨hspared, hrest⟩ => by
    have hfares := fares_step hk h he
    have hfate := hfares.fate i hi
    have hstays := stays_run hk hfares.orderly (Nat.lt_of_lt_of_le hi hfares.created)
      (hfate.sent hs) hes hrest
    exact ⟨hstays.sent, hstays.calls.trans (hfate.calls hs),
      fun hp => hstays.pending (hfate.pending hp), hstays.replies.trans (hfate.silent hspared hs),
      hfate.retains.trans hstays.retains⟩

/-- A decoder filter rejects message `i` during the event : the filters of the message are called,
and it has its first local reply behind them. -/
def Rejects (cfg : Config σ) (i : ℕ) (cm : ConnectionManager σ) (e : Event) : Prop :=
  i < (cm.step cfg e).created ∧ (i < cm.created → (cm.messages i).localResponseSent = false) ∧
    ((cm.step cfg e).messages i).localResponseSent = true ∧
    ((cm.step cfg e).messages i).decoderCalls ≠ (cm.messages i).decoderCalls

instance (cfg : Config σ) (i : ℕ) (cm : ConnectionManager σ) (e : Event) :
    Decidable (Rejects cfg i cm e) :=
  inferInstanceAs (Decidable (_ ∧ (_ → _) ∧ _ ∧ _ ≠ _))

theorem Owned.listed (h : cm.Owned) (hn : cm.Numbered) {i : ℕ} (hi : i < cm.created) :
    (cm.stream i).Listed := by
  have hmem := h.mem_iff.mpr (List.mem_range.mpr hi)
  unfold Stream.Listed
  rw [hn.stream_id i]
  exact List.mem_append.mp hmem

/-- A rejected request ends in the event that rejects it. -/
theorem ended_of_rejects (hk : cfg.codec.Keeps I R) (h : AllSound I R cm) (howned : cm.Owned)
    {e : Event} (he : cm.Enabled cfg e) {i : ℕ} (hr : Rejects cfg i cm e)
    (hpaused : i < cm.created → (cm.messages i).pendingStreamDecoded = true) :
    ((cm.step cfg e).stream i).Ended cfg I R := by
  have hfares := fares_step hk h.orderly he
  obtain ⟨hcreated, hbefore, hsent, hcalls⟩ := hr
  by_cases hi : i < cm.created
  · exact (hfares.fate i hi).rejects (h.sound i hi) (howned.listed h.orderly.numbered hi)
      (hpaused hi) (hbefore hi) hsent hcalls
  · exact (hfares.born i (Nat.not_lt.mp hi) hcreated).ended hsent

/-- Message `i` is ended in `cm`, and has been ended once in `cm'`. -/
structure EndedOnce (cfg : Config σ) (I : σ → Prop) (R : Metadata → Prop) (i : ℕ)
    (cm cm' : ConnectionManager σ) : Prop where
  /-- No decoder filter is called behind the one that has sent the local reply, -/
  rejected : (cm.messages i).Rejected cfg
  calls : (cm'.messages i).decoderCalls = (cm.messages i).decoderCalls
  /-- the client has at most one local reply, and one if it is still there behind the event, -/
  atMost : cfg.RepliesOnce → (cm'.downstream.localReplies i).length ≤ 1
  replies : cfg.codec.RepliesTo I R → cfg.RepliesOnce → cm.downstream.state = .open →
    (cm'.downstream.localReplies i).length = 1
  /-- the request is finalized, and counted with the others that are, -/
  finalized : (cm'.messages i).pendingStreamDecoded = false
  counted : cm'.downstream.stats .request =
    (List.range cm'.created).countP fun j => !(cm'.messages j).pendingStreamDecoded
  /-- and the message is handed over in one place. -/
  deferred : cm'.downstream.deferredDelete.count i = 1

/-- A request whose earlier filters have paused it, or that is new, is ended once by the filter that
rejects it, if the router replies to nothing that happens later. -/
theorem endedOnce_run (hk : cfg.codec.Keeps I R) {es es' : List Event} {e : Event} {i : ℕ}
    (hes : (system cfg).Admissible (new cfg) (es ++ e :: es'))
    (hr : Rejects cfg i ((system cfg).run (new cfg) es) e)
    (hpaused : i < ((system cfg).run (new cfg) es).created →
      (((system cfg).run (new cfg) es).messages i).pendingStreamDecoded = true)
    (hspared : (system cfg).Always (Spared cfg i)
      ((system cfg).run (new cfg) (es ++ [e])) es') :
    EndedOnce cfg I R i ((system cfg).run (new cfg) (es ++ [e]))
      ((system cfg).run (new cfg) (es ++ e :: es')) := by
  have howned := fun es => (invariant_owned.run (I := I) (R := R) hk (.refl _) es).prop
  have hlast := howned (es ++ e :: es')
  have hfinal := (allSound_run hk hes).orderly
  obtain ⟨hbefore, he, hafter⟩ := Transition.admissible_append.mp hes
  have hsound := allSound_run hk hbefore
  have hended := ended_of_rejects hk hsound (howned es) he hr hpaused
  have hfares := fares_step hk hsound.orderly he
  rw [Transition.run_append] at hlast hfinal hspared ⊢
  rw [Transition.run_append]
  rw [Transition.run_cons] at hlast hfinal ⊢
  generalize (system cfg).run (new cfg) es = cm at *
  obtain ⟨hcreated, -, hsent, -⟩ := hr
  have hstays := stays_run hk hfares.orderly hcreated hsent hafter hspared
  change EndedOnce cfg I R i (cm.step cfg e) ((system cfg).run (cm.step cfg e) es')
  change Orderly I ((system cfg).run (cm.step cfg e) es') at hfinal
  have hreplies : ((system cfg).run (cm.step cfg e) es').downstream.localReplies i =
      ((cm.step cfg e).stream i).localReplies := by
    rw [← hstays.replies]
    unfold Stream.localReplies
    rw [hfinal.numbered.stream_id i]
    rfl
  refine ⟨hended.rejected, hstays.calls, fun hc => ?_, fun hp hc ho => ?_,
    hstays.pending hended.finalized, hfinal.counted, ?_⟩
  · rw [hreplies]
    exact hended.atMost hc
  · rw [hreplies]
    exact hended.replies hp hc ho
  · have hnodup : ((system cfg).run (cm.step cfg e) es').downstream.deferredDelete.Nodup :=
      (List.nodup_append.mp (hlast.nodup_iff.mpr List.nodup_range)).2.1
    have hmem := (hstays.retains _).1 hended.deferred
    rw [hfares.orderly.numbered.stream_id i] at hmem
    rw [hnodup.count, if_pos]
    exact hmem

/-! ## Two proxies -/

/-- A filter that rejects every message. -/
def refusing : Filter :=
  .custom fun _ _ _ => ⟨[.sendLocalReply ⟨.unspecified, "refused"⟩ false], .stopIteration⟩

/-- A proxy with a filter that stops every message once in front of it. -/
def guarded : Config Dubbo.DubboCodec.State :=
  { DubboExample.config (some (.ready "host" [])) with
    decoderFilters := [.custom fun _ earlier _ =>
      ⟨[], if earlier = 0 then .stopIteration else .continue⟩, refusing, .router] }

theorem repliesOnce_guarded : guarded.RepliesOnce := by
  intro react hmem i earlier metadata
  simp only [guarded, refusing, List.mem_cons, Filter.custom.injEq, reduceCtorEq, List.not_mem_nil,
    or_false] at hmem
  rcases hmem with rfl | rfl
  · exact ⟨Nat.zero_le 1, by simp [Worded]⟩
  · exact ⟨Nat.le_refl 1, by simp [Worded, FilterAct.reply]⟩

/-- A request that is stopped, goes on, and is rejected. -/
theorem endedOnce_guarded :
    EndedOnce guarded Dubbo.DubboCodec.Sound Dubbo.DubboCodec.Replyable 0
        ((system guarded).run (new guarded)
          [.downstreamData (DubboExample.request 1) false, .continueDecoding 0 0])
        ((system guarded).run (new guarded)
          [.downstreamData (DubboExample.request 1) false, .continueDecoding 0 0, .release 0]) ∧
      (((system guarded).run (new guarded) [.downstreamData (DubboExample.request 1) false,
        .continueDecoding 0 0, .release 0]).downstream.localReplies 0).length = 1 := by
  have hk : guarded.codec.Keeps Dubbo.DubboCodec.Sound Dubbo.DubboCodec.Replyable :=
    Dubbo.DubboCodec.keeps_codec .compact
  have hp : guarded.codec.Replies Dubbo.DubboCodec.Sound Dubbo.DubboCodec.Replyable :=
    Dubbo.DubboCodec.replies_codec .compact
  have hended := @endedOnce_run _ guarded _ _ hk [.downstreamData (DubboExample.request 1) false]
    [.release 0] (.continueDecoding 0 0) 0 (by decide +kernel) (by decide +kernel)
    (fun _ => by decide +kernel) ⟨trivial, trivial⟩
  exact ⟨hended, hended.replies hp.repliesTo repliesOnce_guarded (by decide +kernel)⟩

/-- A proxy with the router in front of the filter. -/
def routed : Config Dubbo.DubboCodec.State :=
  { DubboExample.config (some (.ready "host" [])) with decoderFilters := [.router, refusing] }

/-- A rejected request has its upstream closed, and gets a second local reply. -/
theorem two_replies_routed :
    (system routed).Admissible (new routed)
        [.downstreamData (DubboExample.request 1) false, .upstreamClose 0 .remoteClose] ∧
      Rejects routed 0 (new routed) (.downstreamData (DubboExample.request 1) false) ∧
      ((system routed).run (new routed) [.downstreamData (DubboExample.request 1) false,
        .upstreamClose 0 .remoteClose]).downstream.state = .open ∧
      (((system routed).run (new routed) [.downstreamData (DubboExample.request 1) false,
        .upstreamClose 0 .remoteClose]).downstream.localReplies 0).length = 2 := by
  decide +kernel

end ConnectionManager

end MetaProtocolProxy

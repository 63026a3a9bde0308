import MetaProtocolProxy.Course
import MetaProtocolProxy.DubboProxy

/-!
# The silence of a connection that closes

The connection to the client goes from open over closing to closed and never back, what was written
stays written, and nothing is written once it is not open (`Downstream.Onward`). A write that ends
the stream is the last one (`Downstream.Ends`). This holds for every codec and every chain of
filters, between any two states of a run (`silent_run`).
-/

namespace MetaProtocolProxy

variable {σ : Type} {cfg : Config σ} {I : σ → Prop} {R : Metadata → Prop}

namespace Downstream

/-- A write that ends the stream is the last one, and the connection does not stay open behind
it. -/
structure Ends (d : Downstream σ) : Prop where
  last : ∀ ws w ws', d.written = ws ++ w :: ws' → w.endStream = true → ws' = []
  closing : ∀ w ∈ d.written, w.endStream = true → d.state ≠ .open

/-- From `d` to `d'` the connection does not open again, and writes only while it is open. -/
structure Onward (d d' : Downstream σ) : Prop where
  closing : d.state ≠ .open → d'.state ≠ .open
  closed : d.state = .closed → d'.state = .closed
  written : d.written <+: d'.written
  silent : d.state ≠ .open → d'.written = d.written
  ends : d.Ends → d'.Ends

variable {d d' d'' : Downstream σ}

theorem Onward.refl (d : Downstream σ) : d.Onward d :=
  ⟨id, id, List.prefix_rfl, fun _ => rfl, id⟩

theorem Onward.trans (h : d.Onward d') (h' : d'.Onward d'') : d.Onward d'' :=
  ⟨fun hd => h'.closing (h.closing hd), fun hd => h'.closed (h.closed hd),
    h.written.trans h'.written, fun hd => (h'.silent (h.closing hd)).trans (h.silent hd),
    fun hd => h'.ends (h.ends hd)⟩

theorem Ends.of_eq (h : d.Ends) (hwritten : d'.written = d.written)
    (hclosing : d.state ≠ .open → d'.state ≠ .open) : d'.Ends :=
  ⟨fun ws w ws' hws hw => h.last ws w ws' (hwritten ▸ hws) hw,
    fun w hmem hw => hclosing (h.closing w (hwritten ▸ hmem) hw)⟩

/-- What writes nothing and does not touch the state. -/
theorem Onward.of_eq (hstate : d'.state = d.state) (hwritten : d'.written = d.written) :
    d.Onward d' :=
  ⟨fun h => hstate ▸ h, fun h => hstate ▸ h, hwritten ▸ List.prefix_rfl, fun _ => hwritten,
    fun h => h.of_eq hwritten fun hd => hstate ▸ hd⟩

theorem onward_deferredMessage (i : ℕ) (d : Downstream σ) : d.Onward (d.deferredMessage i) :=
  .of_eq (state_deferredMessage i d) (written_deferredMessage i d)

theorem onward_resetAllMessages (localReset : Bool) (d : Downstream σ) :
    d.Onward (d.resetAllMessages localReset) :=
  .of_eq (state_resetAllMessages localReset d) (written_resetAllMessages localReset d)

theorem onward_closed (event : ConnectionEvent) (d : Downstream σ) :
    d.Onward (d.closed event) := by
  have hstate : (d.closed event).state = .closed := state_resetAllMessages _ _
  have hwritten := written_closed event d
  refine ⟨fun _ => ?_, fun _ => hstate, hwritten ▸ List.prefix_rfl, fun _ => hwritten,
    fun h => h.of_eq hwritten fun _ => ?_⟩ <;> simp [hstate]

theorem onward_close (type : ConnectionCloseType) (d : Downstream σ) :
    d.Onward (d.close type) := by
  cases type <;> simp only [close]
  · split
    · rename_i hopen
      refine ⟨fun h => absurd hopen h, fun h => ?_, List.prefix_rfl, fun _ => rfl,
        fun h => h.of_eq rfl fun _ => by simp⟩
      rw [hopen] at h
      cases h
    · exact .refl d
  · split
    · exact .refl d
    · exact onward_closed _ d

/-- A write to an open connection, which ends the stream only if the connection does not stay
open. -/
theorem onward_write {w : Write} (hopen : d.state = .open)
    (hwritten : d'.written = d.written ++ [w]) (hend : w.endStream = true → d'.state ≠ .open) :
    d.Onward d' := by
  refine ⟨fun h => absurd hopen h, fun h => ?_, hwritten ▸ List.prefix_append _ _,
    fun h => absurd hopen h, fun h => ⟨fun ws v ws' hws hv => ?_, fun v hmem hv => ?_⟩⟩
  · rw [hopen] at h
    cases h
  · rw [hwritten] at hws
    rcases List.eq_nil_or_concat ws' with rfl | ⟨ws₁, v₁, rfl⟩
    · rfl
    · have hbefore : d.written = ws ++ v :: ws₁ := by
        have happend : d.written ++ [w] = (ws ++ v :: ws₁) ++ [v₁] := by simpa using hws
        exact (List.append_inj' happend rfl).1
      exact absurd hopen (h.closing v (by simp [hbefore]) hv)
  · rw [hwritten] at hmem
    rcases List.mem_append.mp hmem with hmem | hmem
    · exact absurd hopen (h.closing v hmem hv)
    · exact hend (List.mem_singleton.mp hmem ▸ hv)

theorem onward_sendLocalReply (cfg : Config σ) (i : ℕ) (metadata : Metadata) (error : Error)
    (endStream : Bool) (d : Downstream σ) :
    d.Onward (d.sendLocalReply cfg i metadata error endStream) := by
  rcases sendLocalReply_cases cfg i metadata error endStream d with
    ⟨-, h⟩ | ⟨hopen, ⟨site, h⟩ | h | ⟨bytes, -, h⟩⟩ <;> rw [h]
  · exact .refl d
  · exact .of_eq rfl rfl
  · refine ⟨fun hd => absurd hopen hd, fun hd => ?_, List.prefix_rfl, fun _ => rfl, fun hd =>
      hd.of_eq rfl fun hne => absurd hopen hne⟩
    rw [hopen] at hd
    cases hd
  · refine onward_write hopen rfl ?_
    rintro (rfl : endStream = true)
    simp [inc]

theorem onward_respond {i : ℕ} {metadata : Metadata} (hopen : d.state = .open) :
    d.Onward (d.respond i metadata) := by
  refine onward_write (w := ⟨some i, .upstreamResponse metadata, metadata.originMessage, false⟩)
    hopen ?_ (by rintro ⟨⟩)
  unfold respond
  dsimp only
  split_ifs <;> rfl

end Downstream

namespace Stream

theorem Deed.onward {s t : Stream σ} (h : Deed cfg s t) :
    s.downstream.Onward t.downstream := by
  cases h with
  | onMessage h => exact .refl _
  | panic site => exact .of_eq rfl rfl
  | inc h => exact .of_eq rfl rfl
  | deferredMessage => exact Downstream.onward_deferredMessage _ _
  | close type => exact Downstream.onward_close type _
  | sendLocalReply error endStream =>
    rcases downstream_sendLocalReply cfg error endStream s with ⟨-, site, hd⟩ | ⟨metadata, -, hd⟩
    · rw [hd]
      exact .of_eq rfl rfl
    · rw [hd]
      exact Downstream.onward_sendLocalReply cfg _ _ _ _ _
  | respond metadata h =>
    rw [downstream_respond]
    exact Downstream.onward_respond h

theorem Acts.onward {s t : Stream σ} (h : Acts cfg s t) : s.downstream.Onward t.downstream := by
  induction h with
  | refl => exact .refl _
  | tail _ hd ih => exact ih.trans hd.onward

theorem onward_finalizeRequest (s : Stream σ) :
    s.downstream.Onward s.finalizeRequest.downstream := by
  have hcount : ∀ (metadata : Metadata) (t : Stream σ),
      t.downstream.Onward (t.countRequest metadata).downstream := by
    intro metadata t
    unfold countRequest
    split <;> exact .of_eq rfl rfl
  have hinc : s.downstream.Onward
      ((s.onMessage fun m => { m with pendingStreamDecoded := false }).inc .request).downstream :=
    .of_eq rfl rfl
  unfold finalizeRequest
  dsimp only
  split
  · exact hinc.trans (.of_eq rfl rfl)
  · split
    · exact hinc.trans ((hcount _ _).trans (Downstream.onward_deferredMessage _ _))
    · exact hinc.trans (hcount _ _)

end Stream

namespace ConnectionManager

theorem onward_heartbeat (cfg : Config σ) (metadata : Metadata) (cm : ConnectionManager σ) :
    cm.downstream.Onward (cm.onHeartbeat cfg metadata).2.downstream := by
  unfold onHeartbeat
  dsimp only
  split
  · exact .of_eq rfl rfl
  · rename_i hopen
    split
    · exact .of_eq rfl rfl
    · exact Downstream.onward_write (not_not.mp hopen) rfl (by rintro ⟨⟩)

theorem course_onward (d : Downstream σ) :
    Course cfg I R fun cm : ConnectionManager σ => d.Onward cm.downstream where
  read h _ _ _ := h.trans (.of_eq rfl rfl)
  go h := h
  halfClose h := h
  panic h _ := h.trans (.of_eq rfl rfl)
  deed _ h _ _ _ hd := h.trans hd.onward
  newStream := by
    intro cm _ h metadata _ s hacts
    have hborn : cm.downstream.Onward (cm.born metadata).downstream := .of_eq rfl rfl
    have hall := h.trans (hborn.trans hacts.onward)
    exact ⟨hall, hall.trans (Stream.onward_finalizeRequest s)⟩
  finalizeRequest := by
    intro cm _ h i _ _
    exact h.trans (Stream.onward_finalizeRequest (cm.stream i))
  destroy := by
    intro cm _ h i _ _ s hacts
    have hdec : cm.downstream.Onward (cm.downstream.dec .requestActive) := .of_eq rfl rfl
    exact h.trans (hdec.trans hacts.onward)
  onHeartbeat _ h metadata _ := h.trans (onward_heartbeat cfg metadata _)
  onDecodingError := by
    intro cm h
    have hinc : ∀ e : Downstream σ, e.Onward (e.inc .requestDecodingError) :=
      fun _ => .of_eq rfl rfl
    exact h.trans ((Downstream.onward_close _ _).trans
      ((hinc _).trans (Downstream.onward_resetAllMessages _ _)))
  resetAndClose h := h.trans ((Downstream.onward_resetAllMessages false _).trans
    (Downstream.onward_close .flushWrite _))
  closed h event := h.trans (Downstream.onward_closed event _)

/-- With every codec and every chain of filters : the client connection never opens again, what was
written stays, nothing is written once it is not open, and a write that ends the stream is the
last. -/
theorem silent_run {cfg : Config σ} {es es' : List Event}
    (h : (system cfg).Admissible (new cfg) (es ++ es')) :
    ((system cfg).run (new cfg) es).downstream.Onward
        ((system cfg).run (new cfg) (es ++ es')).downstream ∧
      ((system cfg).run (new cfg) (es ++ es')).downstream.Ends := by
  obtain ⟨hes, hes'⟩ := Transition.admissible_append.mp h
  have hfirst := (course_onward (new cfg).downstream).run cfg.codec.keeps_true (.refl _) hes
  have hsecond := OnCourse.run (course_onward ((system cfg).run (new cfg) es).downstream)
    cfg.codec.keeps_true ⟨hfirst.proper, .refl _⟩ hes'
  have hnew : (new cfg).downstream.Ends := by
    refine ⟨fun ws w ws' hws => ?_, fun w hw => by cases hw⟩
    have hnil : [] = ws ++ w :: ws' := hws
    simp at hnil
  rw [Transition.run_append]
  exact ⟨hsecond.prop, hsecond.prop.ends (hfirst.prop.ends hnew)⟩

/-- A proxy with a filter that answers every request and ends the stream. -/
def rejecting : Config Dubbo.DubboCodec.State :=
  { DubboExample.config none with
    decoderFilters := [.custom fun _ _ _ =>
      { acts := [.sendLocalReply ⟨.unspecified, "no"⟩ true], status := .stopIteration }] }

/-- Of two requests only the first is answered. -/
theorem silent_run_rejecting :
    ((system rejecting).run (new rejecting)
        [.downstreamData (DubboExample.request 1 ++ DubboExample.request 2)
          false]).downstream.Onward
      ((system rejecting).run (new rejecting)
        ([.downstreamData (DubboExample.request 1 ++ DubboExample.request 2) false] ++
          [.downstreamClose .remoteClose])).downstream ∧
      ((system rejecting).run (new rejecting)
        ([.downstreamData (DubboExample.request 1 ++ DubboExample.request 2) false] ++
          [.downstreamClose .remoteClose])).downstream.Ends :=
  silent_run (by decide +kernel)

end ConnectionManager

end MetaProtocolProxy

import MetaProtocolProxy.DubboProxy
import MetaProtocolProxy.LifeCycle
import MetaProtocolProxy.Moves

/-!
# Oneway requests

A request that expects no response is answered all the same where the router rejects it or
its upstream sends something that ends its exchange (`unanswered_run`). When the client has
nothing more to send, a request that waits for the pool is reset (`not_pending_of_halfClose`).
-/

namespace MetaProtocolProxy

variable {σ : Type} {cfg : Config σ} {I : σ → Prop} {R : Metadata → Prop}

/-- A message of the upstream ends the exchange : it is decoded, or rejected with an exception. -/
def Decoded.Ends : Decoded → Prop
  | .stream _ | .throw (.exception _) => True
  | .waitForData | .heartbeat _ | .throw (.panic _) => False

instance : (decoded : Decoded) → Decidable decoded.Ends
  | .stream _ | .throw (.exception _) => inferInstanceAs (Decidable True)
  | .waitForData | .heartbeat _ | .throw (.panic _) => inferInstanceAs (Decidable False)

namespace ConnectionManager

/-! ## Answers to oneway requests -/

/-- No oneway request has an answer. -/
def Unanswered (cm : ConnectionManager σ) : Prop :=
  ∀ i request, cm.requests[i]? = some request → request.isOneway = true →
    cm.downstream.answers i = []

/-- The client is there, and message `i` is a oneway request. -/
def OpenOneway (i : ℕ) (cm : ConnectionManager σ) : Prop :=
  cm.downstream.state = .open ∧ cm.requests[i]?.any Metadata.isOneway = true

/-- Every oneway request an event reads has a pool, and its upstream sends none anything that
ends its exchange. -/
def Spares (cfg : Config σ) (cm : ConnectionManager σ) (e : Event) : Prop :=
  (∀ i < (cm.step cfg e).created, cm.created ≤ i → cm.downstream.state = .open →
    ∀ request ∈ (cm.step cfg e).requests[i]?, request.isOneway = true →
      cfg.pool i request ≠ none) ∧
  match e with
  | .upstreamData i data _ => cm.OpenOneway i → ¬(cm.incoming cfg i data).Ends
  | _ => True

instance (cfg : Config σ) (cm : ConnectionManager σ) : (e : Event) → Decidable (Spares cfg cm e)
  | .upstreamData _ _ _ => inferInstanceAs (Decidable (_ ∧ (_ ∧ _ → ¬_)))
  | .downstreamData _ _ | .downstreamClose _ | .poolReady _ _ _ | .poolFailure _ _ _
  | .upstreamClose _ _ | .continueDecoding _ _ | .continueEncoding _ _ | .release _ =>
    inferInstanceAs (Decidable (_ ∧ True))

section Step

variable {cm cm' : ConnectionManager σ} {e : Event} {i n : ℕ} {request : Metadata} {released : Bool}
  {phase : Phase}

/-- A oneway request that has a pool is born without an answer. -/
theorem Born.unanswered (h : Born cfg I R i request n released phase cm)
    (hone : request.isOneway = true) (hpool : cfg.pool i request ≠ none) : n = 0 := by
  obtain ⟨d, -, hrow⟩ := h.row
  unfold Stream.BirthRow at hrow
  rw [hone] at hrow
  split at hrow
  · exact absurd ‹_› hpool
  · exact hrow.1
  · exact hrow.1
  · exact hrow.1

/-- Nothing but the upstream answers a oneway request. -/
theorem EventRow.unanswered {p : Prop} (hl : cm.Living I R i request)
    (hone : request.isOneway = true) (he : e.message = some i)
    (hrow : EventRow cfg p cm i request n released phase e) (hspares : Spares cfg cm e) :
    n = 0 := by
  cases e with
  | poolReady j host leftover => exact hrow.2.1
  | poolFailure j reason host =>
    obtain ⟨-, hn, -⟩ := hrow
    rwa [hone] at hn
  | upstreamClose j event =>
    obtain ⟨-, hn, -⟩ := hrow
    rwa [hone] at hn
  | release j => exact hrow.1
  | upstreamData j data endStream =>
    obtain rfl : j = i := Option.some.inj he
    obtain ⟨-, hrow⟩ := hrow
    have hends : cm.downstream.state = .open → ¬(cm.incoming cfg j data).Ends :=
      fun ho => hspares.2 ⟨ho, by simp [hl.decoded, hone]⟩
    have hmore : (if endStream then (if request.isOneway then n = 0 else
        Downstream.One p n cm.downstream) ∧ released = request.isOneway ∧ phase = .finished
        else n = 0 ∧ released = false ∧ phase = .waiting) → n = 0 := by
      intro h
      rw [hone] at h
      split at h
      · exact h.1
      · exact h.1
    cases hd : cm.incoming cfg j data with
    | waitForData =>
      rw [hd] at hrow
      exact hmore hrow
    | heartbeat response =>
      rw [hd] at hrow
      exact hmore hrow
    | stream response =>
      rw [hd] at hrow hends
      have hgone : cm.downstream.state ≠ .open := fun ho => hends ho trivial
      obtain ⟨hn, -⟩ := hrow
      split at hn
      · exact hn.gone hgone
      · exact hn.2.2 hgone
    | throw fault =>
      rw [hd] at hrow hends
      cases fault with
      | exception what => exact hrow.1.gone fun ho => hends ho trivial
      | panic site => exact hmore hrow
  | downstreamData data endStream => cases hrow
  | downstreamClose event => cases hrow
  | continueDecoding j position => cases hrow
  | continueEncoding j position => cases hrow

theorem unanswered_step (hk : cfg.codec.Keeps I R) (hc : cfg.RouterOnly) (h : cm.Alive I R)
    (hu : cm.Unanswered) (he : cm.Enabled cfg e) (hspares : Spares cfg cm e) :
    (cm.step cfg e).Unanswered := by
  have hlived := lived_step hk hc h he
  intro i request hi hone
  have hcreated := hlived.reads.sane.lt_created hi
  by_cases hlt : i < cm.created
  · have hi' : cm.requests[i]? = some request := (hlived.reads.requests i hlt).symm.trans hi
    have hbefore := hu i request hi' hone
    by_cases hown : e.message = some i
    · obtain ⟨request', n, released, phase, hl, -, hrow, hfate⟩ := hlived.own i hown
      obtain rfl : request = request' := Option.some.inj (hi'.symm.trans hl.decoded)
      obtain rfl := hrow.unanswered hl hone hown hspares
      refine List.eq_nil_of_length_eq_zero (hfate.answers.trans ?_)
      rw [hbefore]
      rfl
    · rw [(hlived.other hlt hown).2]
      exact hbefore
  · have hnew := Nat.not_lt.mp hlt
    obtain ⟨request', n, released, phase, hborn, hgone⟩ := hlived.reads.born i hcreated hnew
    obtain rfl : request = request' := Option.some.inj (hi.symm.trans hborn.living.decoded)
    refine List.eq_nil_of_length_eq_zero (hborn.answers.trans ?_)
    by_cases ho : cm.downstream.state = .open
    · exact hborn.unanswered hone (hspares.1 i hcreated hnew ho request hi hone)
    · refine hgone fun hstate => ho ?_
      obtain ⟨fault, heq⟩ := alarmed_eq cfg e cm
      rw [heq] at hstate
      exact hstate

end Step

/-- With the router as the only filter no oneway request is answered, in a run in which each has
a pool and the upstream of none sends anything that ends its exchange. -/
theorem unanswered_run (hc : cfg.RouterOnly) {es : List Event}
    (h : (system cfg).Admissible (new cfg) es)
    (hspares : (system cfg).Always (fun cm => cm.Spares cfg) (new cfg) es) :
    (system cfg).Throughout Unanswered (new cfg) es := by
  have hk := cfg.codec.keeps_true
  have hrun : (system cfg).Throughout
      (fun cm => cm.Alive (fun _ => True) (fun _ => True) ∧ cm.Unanswered) (new cfg) es := by
    refine Transition.throughout_of_step (fun cm e hcm he hs => ?_) ⟨alive_new hk, ?_⟩ h hspares
    · exact ⟨alive_step hk hc hcm.1 he, unanswered_step hk hc hcm.1 hcm.2 he hs⟩
    · intro i request hi
      cases hi
  exact hrun.mono fun cm hcm => hcm.2

/-- A oneway request that is sent and released. -/
def sent : List Event :=
  [.downstreamData (DubboExample.oneway 1) false, .release 0]

theorem unanswered_sent :
    (system (DubboExample.config (some (.ready "host" [])))).Throughout Unanswered
      (new (DubboExample.config (some (.ready "host" [])))) sent :=
  unanswered_run ⟨rfl, rfl⟩ (by decide +kernel) (by decide +kernel)

/-- A oneway request for which there is no healthy host is answered with an error. -/
theorem not_unanswered_noHealthyUpstream :
    (system (DubboExample.config none)).Admissible (new (DubboExample.config none))
        [.downstreamData (DubboExample.oneway 1) false] ∧
      ¬(system (DubboExample.config none)).Throughout Unanswered (new (DubboExample.config none))
        [.downstreamData (DubboExample.oneway 1) false] := by
  refine ⟨by decide +kernel, fun h => ?_⟩
  have honeway : ((system (DubboExample.config none)).run (new (DubboExample.config none))
      [.downstreamData (DubboExample.oneway 1) false]).requests[0]?.any
        Metadata.isOneway = true := by
    decide +kernel
  obtain ⟨request, hi, hone⟩ := (Option.any_eq_true _ _).mp honeway
  exact absurd (h.last 0 request hi hone) (by decide +kernel)

/-! ## The end of the client's data -/

/-- A oneway request waits for the pool. -/
def PendingOneway (i : ℕ) (cm : ConnectionManager σ) : Prop :=
  i ∈ cm.downstream.activeMessageList ∧ cm.Pooling i ∧
    (cm.messages i).metadata.any Metadata.isOneway = true

instance (i : ℕ) (cm : ConnectionManager σ) : Decidable (cm.PendingOneway i) :=
  inferInstanceAs (Decidable (_ ∧ _ ∧ _))

/-- Whatever the state, a oneway request that waits for the pool is reset when the client has
nothing more to send. -/
theorem not_pending_of_halfClose {cm : ConnectionManager σ} (h : cm.Reachable cfg) (data : Bytes) :
    ∀ i, cm.PendingOneway i →
      i ∉ (cm.step cfg (.downstreamData data true)).downstream.activeMessageList := by
  intro i _ hactive
  obtain ⟨es, -, rfl⟩ := h
  have hflowing := flowing_run cfg es
  generalize (system cfg).run (new cfg) es = cm at hactive hflowing
  have hinvariant : Invariant cfg (fun _ => True) (fun _ => True) Flowing := invariant_flowing
  have hstopped := ((hflowing.buffer hinvariant (cm.requestBuffer ++ data)).dispatch hinvariant
    cfg.codec.keeps_true).prop.stopped
  have hstep : cm.step cfg (.downstreamData data true) = (({ cm with
      requestBuffer := cm.requestBuffer ++ data } : ConnectionManager σ).dispatch cfg
        ).resetAndClose := by
    change cm.onData cfg data true = _
    unfold onData
    dsimp only
    rw [if_pos rfl, hstopped, if_neg (by simp)]
  have hclose : ∀ d : Downstream σ, (d.close .flushWrite).activeMessageList =
      d.activeMessageList := by
    intro d
    unfold Downstream.close
    dsimp only
    split <;> rfl
  rw [hstep, resetAndClose, onDownstream] at hactive
  dsimp only at hactive
  rw [hclose, Downstream.active_resetAllMessages] at hactive
  cases hactive

/-- The client sends a oneway request and the end of its data while the pool connects : the handle
is cancelled, and the request never written. -/
def onewayThenEnd : List Event :=
  [.downstreamData (DubboExample.oneway 1) false, .downstreamData [] true, .release 0]

theorem not_pending_onewayThenEnd :
    0 ∉ (((system (DubboExample.config (some .pending))).run
      (new (DubboExample.config (some .pending)))
        [.downstreamData (DubboExample.oneway 1) false]).step (DubboExample.config (some .pending))
          (.downstreamData [] true)).downstream.activeMessageList :=
  not_pending_of_halfClose ⟨[.downstreamData (DubboExample.oneway 1) false], by decide +kernel, rfl⟩
    [] 0 (by decide +kernel)

theorem not_written_onewayThenEnd :
    (system (DubboExample.config (some .pending))).Admissible
        (new (DubboExample.config (some .pending))) onewayThenEnd ∧
      ((system (DubboExample.config (some .pending))).run
        (new (DubboExample.config (some .pending)))
        [.downstreamData (DubboExample.oneway 1) false]).PendingOneway 0 ∧
      0 ∉ ((system (DubboExample.config (some .pending))).run
        (new (DubboExample.config (some .pending)))
          (onewayThenEnd.take 2)).downstream.activeMessageList ∧
      (((system (DubboExample.config (some .pending))).run
        (new (DubboExample.config (some .pending))) onewayThenEnd).messages 0).writes = [] ∧
      (((system (DubboExample.config (some .pending))).run
        (new (DubboExample.config (some .pending))) onewayThenEnd).messages 0).router.cancelled =
          1 := by
  decide +kernel

end ConnectionManager

end MetaProtocolProxy

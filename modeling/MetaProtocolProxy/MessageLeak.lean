import MetaProtocolProxy.DubboProxy
import MetaProtocolProxy.LifeCycle

/-!
# Messages that are never released

A message with an answer has nothing left to do, but three paths of the router write the
answer and leave the message in the list of active messages : the close of its upstream
connection, the end of the upstream's data before a response, and the overflow of the pool
when the pool reports it later. In a run without these every message that has been
answered is released (`unleaked_run`).
-/

namespace MetaProtocolProxy

variable {σ : Type} {cfg : Config σ} {I : σ → Prop} {R : Metadata → Prop}

namespace ConnectionManager

/-- Every two-way request that has an answer has left the list of active messages. A process
that has stopped has no list. -/
def Unleaked (cm : ConnectionManager σ) : Prop :=
  cm.downstream.fault = none → ∀ i request, cm.requests[i]? = some request →
    request.isOneway = false → cm.downstream.answers i ≠ [] →
      i ∉ cm.downstream.activeMessageList

/-- The client waits for a response to message `i`. -/
def Expected (i : ℕ) (cm : ConnectionManager σ) : Prop :=
  cm.downstream.state = .open ∧ cm.requests[i]?.any (fun request => !request.isOneway) = true

/-- The event is none of those that give up an expected response without releasing its
message. -/
def Settles (cfg : Config σ) (cm : ConnectionManager σ) : Event → Prop
  | .upstreamClose i _ => ¬cm.Expected i
  | .upstreamData i data endStream =>
    endStream = true → cm.incoming cfg i data = .waitForData → ¬cm.Expected i
  | .poolFailure i reason _ => reason = .overflow → ¬cm.Expected i
  | _ => True

instance (cfg : Config σ) (cm : ConnectionManager σ) : (e : Event) → Decidable (Settles cfg cm e)
  | .upstreamClose _ _ => inferInstanceAs (Decidable ¬(_ ∧ _))
  | .upstreamData _ _ _ => inferInstanceAs (Decidable (_ → _ → ¬(_ ∧ _)))
  | .poolFailure _ _ _ => inferInstanceAs (Decidable (_ → ¬(_ ∧ _)))
  | .downstreamData _ _ | .downstreamClose _ | .poolReady _ _ _ | .continueDecoding _ _
  | .continueEncoding _ _ | .release _ => inferInstanceAs (Decidable True)

section Step

variable {cm cm' : ConnectionManager σ} {e : Event} {i n : ℕ} {request : Metadata} {released : Bool}
  {phase : Phase}

/-- A rejected request is released with its answer. -/
theorem Born.released_of_answer (h : Born cfg I R i request n released phase cm) (hn : n ≠ 0) :
    released = true := by
  obtain ⟨d, -, hrow⟩ := h.row
  unfold Stream.BirthRow at hrow
  split at hrow
  · exact hrow.2.1
  · exact absurd hrow.1 hn
  · exact absurd hrow.1 hn
  · exact hrow.2.1

/-- Where an event settles its message, an answer releases it. -/
theorem EventRow.released_of_answer {p : Prop} (hl : cm.Living I R i request)
    (htwo : request.isOneway = false)
    (he : e.message = some i) (hrow : EventRow cfg p cm i request n released phase e)
    (hsettles : Settles cfg cm e) (halarm : cm.alarm cfg e = none) (hn : n ≠ 0) :
    released = true := by
  have hexpected : (if request.isOneway then n = 0 else Downstream.One p n cm.downstream) →
      cm.Expected i := by
    intro hone
    rw [htwo, if_neg (by simp)] at hone
    refine ⟨?_, by simp [hl.decoded, htwo]⟩
    by_contra hgone
    exact hn (hone.gone hgone)
  cases e with
  | poolReady j host leftover => exact absurd hrow.2.1 hn
  | poolFailure j reason host =>
    obtain rfl : j = i := Option.some.inj he
    obtain ⟨-, hone, hreleased, -⟩ := hrow
    have hreason : reason ≠ .overflow := fun hr => hsettles hr (hexpected hone)
    simpa [hreason] using hreleased
  | upstreamClose j event =>
    obtain rfl : j = i := Option.some.inj he
    exact absurd (hexpected hrow.2.1) hsettles
  | upstreamData j data endStream =>
    obtain rfl : j = i := Option.some.inj he
    obtain ⟨-, hrow⟩ := hrow
    unfold alarm at halarm
    dsimp only at halarm
    cases hd : cm.incoming cfg j data with
    | stream response =>
      rw [hd] at hrow
      exact hrow.2.1
    | heartbeat response =>
      rw [hd] at halarm
      cases halarm
    | waitForData =>
      rw [hd] at hrow
      dsimp only [Stream.UpstreamRow] at hrow
      split at hrow
      · exact absurd (hexpected hrow.1) (hsettles ‹_› hd)
      · exact absurd hrow.1 hn
    | throw fault =>
      cases fault with
      | exception what =>
        rw [hd] at hrow
        exact hrow.2.1
      | panic site =>
        rw [hd] at halarm
        cases halarm
  | release j => exact absurd hrow.1 hn
  | downstreamData data endStream => cases hrow
  | downstreamClose event => cases hrow
  | continueDecoding j position => cases hrow
  | continueEncoding j position => cases hrow

theorem unleaked_step (hk : cfg.codec.Keeps I R) (hc : cfg.RouterOnly) (h : cm.Alive I R)
    (hu : cm.Unleaked) (he : cm.Enabled cfg e) (hsettles : Settles cfg cm e) :
    (cm.step cfg e).Unleaked := by
  have hlived := lived_step hk hc h he
  have halarm : (cm.step cfg e).downstream.fault = none → cm.alarm cfg e = none := by
    intro hfault
    cases ha : cm.alarm cfg e with
    | none => rfl
    | some site =>
      have hstopped := hlived.stopped (by rw [ha]; rfl)
      rw [hfault] at hstopped
      cases hstopped
  intro hfault i request hi htwo hanswers
  by_cases hlt : i < cm.created
  · have hi' : cm.requests[i]? = some request :=
      (hlived.reads.requests i hlt).symm.trans hi
    have hbefore := hu he.1 i request hi' htwo
    by_cases hown : e.message = some i
    · obtain ⟨request', n, released, phase, hl, -, hrow, hfate⟩ := hlived.own i hown
      obtain rfl : request = request' := Option.some.inj (hi'.symm.trans hl.decoded)
      by_cases hn : n = 0
      · subst hn
        refine fun ha => hbefore (fun hnil => hanswers ?_) (hlived.active hlt ha)
        refine List.eq_nil_of_length_eq_zero (hfate.answers.trans ?_)
        rw [hnil]
        rfl
      · exact hfate.released (hrow.released_of_answer hl htwo hown hsettles (halarm hfault) hn)
    · obtain ⟨-, hsame⟩ := hlived.other hlt hown
      rw [hsame] at hanswers
      exact fun ha => hbefore hanswers (hlived.active hlt ha)
  · obtain ⟨request', n, released, phase, hborn, -⟩ :=
      hlived.reads.born i (hlived.reads.sane.lt_created hi) (Nat.not_lt.mp hlt)
    refine hborn.released (hborn.released_of_answer fun hn => hanswers ?_)
    exact List.eq_nil_of_length_eq_zero (hborn.answers.trans hn)

end Step

/-- With the router as the only filter, every two-way request that has been answered has left the
list of active messages, in every state of a run whose events all settle their message. -/
theorem unleaked_run (hc : cfg.RouterOnly) {es : List Event}
    (h : (system cfg).Admissible (new cfg) es)
    (hsettles : (system cfg).Always (fun cm => cm.Settles cfg) (new cfg) es) :
    (system cfg).Throughout Unleaked (new cfg) es := by
  have hk := cfg.codec.keeps_true
  have hrun : (system cfg).Throughout
      (fun cm => cm.Alive (fun _ => True) (fun _ => True) ∧ cm.Unleaked) (new cfg) es := by
    refine Transition.throughout_of_step (fun cm e hcm he hs => ?_) ⟨alive_new hk, ?_⟩ h hsettles
    · exact ⟨alive_step hk hc hcm.1 he, unleaked_step hk hc hcm.1 hcm.2 he hs⟩
    · intro _ i request hi
      cases hi
  exact hrun.mono fun cm hcm => hcm.2

/-- A request that is answered and released. -/
def settled : List Event :=
  [.downstreamData (DubboExample.request 1) false,
    .upstreamData 0 (DubboExample.response 1) false]

theorem unleaked_settled :
    (system (DubboExample.config (some (.ready "host" [])))).Throughout Unleaked
      (new (DubboExample.config (some (.ready "host" [])))) settled :=
  unleaked_run ⟨rfl, rfl⟩ (by decide +kernel) (by decide +kernel)

/-- The upstream closes the connection of a request : the client gets an error, and the message
stays. -/
theorem not_unleaked_upstreamClose :
    (system (DubboExample.config (some (.ready "host" [])))).Admissible
        (new (DubboExample.config (some (.ready "host" []))))
        [.downstreamData (DubboExample.request 1) false, .upstreamClose 0 .remoteClose] ∧
      ¬(system (DubboExample.config (some (.ready "host" [])))).Throughout Unleaked
        (new (DubboExample.config (some (.ready "host" []))))
        [.downstreamData (DubboExample.request 1) false, .upstreamClose 0 .remoteClose] := by
  refine ⟨by decide +kernel, fun h => ?_⟩
  have htwoway : ((system (DubboExample.config (some (.ready "host" [])))).run
      (new (DubboExample.config (some (.ready "host" []))))
      [.downstreamData (DubboExample.request 1) false, .upstreamClose 0 .remoteClose]
        ).requests[0]?.any (fun request => !request.isOneway) = true := by
    decide +kernel
  obtain ⟨request, hi, htwo⟩ := (Option.any_eq_true _ _).mp htwoway
  exact h.last (by decide +kernel) 0 request hi (by simpa using htwo) (by decide +kernel)
    (by decide +kernel)

end ConnectionManager

end MetaProtocolProxy

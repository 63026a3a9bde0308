import MetaProtocolProxy.DubboProxy
import MetaProtocolProxy.LifeCycle

/-!
# Exactly one answer

A request that waits for a response is answered at most once, whatever happens to it in
which order, as long as its upstream sends responses with its id; and once something has
ended it, with the client still there, it has been answered (`exactly_one_answer`).
-/

namespace MetaProtocolProxy

variable {σ : Type} {cfg : Config σ} {I : σ → Prop} {R : Metadata → Prop}

/-- A message of the upstream is a response to the request. Data that completes no message, or
that cannot be decoded, is none. -/
def Decoded.Responds (request : Metadata) : Decoded → Prop
  | .stream response => response.requestId = request.requestId ∧
      (response.messageType = .response ∨ response.messageType = .error)
  | .heartbeat _ => False
  | .waitForData | .throw _ => True

instance (request : Metadata) : (decoded : Decoded) → Decidable (decoded.Responds request)
  | .stream _ => inferInstanceAs (Decidable (_ ∧ _))
  | .heartbeat _ => inferInstanceAs (Decidable False)
  | .waitForData | .throw _ => inferInstanceAs (Decidable True)

namespace ConnectionManager

open Downstream (One)

/-- Whatever the upstream of message `i` sends is a response to its request. -/
def Responds (cfg : Config σ) (i : ℕ) (cm : ConnectionManager σ) : Event → Prop
  | .upstreamData j data _ =>
    j = i → ∀ request ∈ cm.requests[i]?, (cm.incoming cfg i data).Responds request
  | _ => True

instance (cfg : Config σ) (i : ℕ) (cm : ConnectionManager σ) :
    (e : Event) → Decidable (Responds cfg i cm e)
  | .upstreamData _ _ _ => inferInstanceAs (Decidable (_ → _))
  | .downstreamData _ _ | .downstreamClose _ | .poolReady _ _ _ | .poolFailure _ _ _
  | .upstreamClose _ _ | .continueDecoding _ _ | .continueEncoding _ _ | .release _ =>
    inferInstanceAs (Decidable True)

/-- The router rejects message `i`, which an event creates. -/
def Rejected (cfg : Config σ) (i : ℕ) (cm cm' : ConnectionManager σ) : Prop :=
  cm.created ≤ i ∧ ∃ request, cm'.requests[i]? = some request ∧
    (cfg.pool i request = none ∨ ∃ host, cfg.pool i request = some (.overflow host))

/-- An event ends the exchange of message `i` : a rejection, a failure of the pool, a response
that is complete or cannot be decoded, the end of the upstream's data, or its close. -/
def Terminal (cfg : Config σ) (i : ℕ) (cm : ConnectionManager σ) (e : Event) : Prop :=
  Rejected cfg i cm (cm.step cfg e) ∨
  (∃ reason host, e = .poolFailure i reason host) ∨
  (∃ data endStream, e = .upstreamData i data endStream ∧
    (endStream = true ∨ cm.incoming cfg i data ≠ .waitForData)) ∨
  ∃ event, e = .upstreamClose i event

/-! ## One step -/

/-- A message is answered at most once, and not before it is finished. -/
structure Answered (i : ℕ) (cm : ConnectionManager σ) : Prop where
  le : (cm.downstream.answers i).length ≤ 1
  none : (cm.messages i).phase ≠ .finished → (cm.downstream.answers i).length = 0

section Step

variable {cm cm' : ConnectionManager σ} {i n : ℕ} {request : Metadata} {released : Bool}
  {phase : Phase} {e : Event}

/-- A two-way request is born with at most one answer, and with one if it is rejected. -/
theorem Born.answered (h : Born cfg I R i request n released phase cm)
    (htwo : request.isOneway = false) : Answered i cm ∧
      (cfg.codec.Replies I R → cm.downstream.state = .open →
        (cfg.pool i request = none ∨ ∃ host, cfg.pool i request = some (.overflow host)) →
          (cm.downstream.answers i).length = 1) := by
  obtain ⟨d, hd, hrow⟩ := h.row
  unfold Stream.BirthRow at hrow
  rw [htwo] at hrow
  have hall : n ≤ 1 ∧ (phase ≠ .finished → n = 0) ∧ (cfg.codec.Replies I R → d.state = .open →
      (cfg.pool i request = none ∨ ∃ host, cfg.pool i request = some (.overflow host)) →
        n = 1) := by
    split at hrow <;> rename_i hpool <;> rw [hpool]
    · obtain ⟨hone, -, rfl⟩ := hrow
      exact ⟨hone.le, fun hne => absurd rfl hne, fun hp ho _ => hone.eq hp ho⟩
    · obtain ⟨rfl, -, -⟩ := hrow
      exact ⟨Nat.zero_le 1, fun _ => rfl, by simp⟩
    · obtain ⟨rfl, -, -⟩ := hrow
      exact ⟨Nat.zero_le 1, fun _ => rfl, by simp⟩
    · obtain ⟨hone, -, rfl⟩ := hrow
      exact ⟨hone.le, fun hne => absurd rfl hne, fun hp ho _ => hone.eq hp ho⟩
  obtain ⟨hle, hnone, heq⟩ := hall
  refine ⟨⟨h.answers ▸ hle, fun hne => ?_⟩, fun hp ho hrejected => ?_⟩
  · rw [h.answers]
    exact hnone (h.phase ▸ hne)
  · rw [h.answers]
    exact heq hp (hd ho) hrejected

/-- What a row writes : an unfinished message is left unfinished without an answer, or finished
with one; a finished one gets none. -/
theorem EventRow.answers (hk : cfg.codec.Keeps I R) (hp : cfg.codec.Replies I R)
    (hl : cm.Living I R i request) (htwo : request.isOneway = false) (he : e.message = some i)
    (hrow : EventRow cfg (cfg.codec.Replies I R) cm i request n released phase e)
    (hresponds : Responds cfg i cm e) :
    ((cm.messages i).phase = .finished → n = 0 ∧ phase = .finished) ∧ n ≤ 1 ∧
      (phase ≠ .finished → n = 0) ∧
      (cm.downstream.state = .open → Terminal cfg i cm e → cm.created ≤ i ∨ n = 1) := by
  have hone : ∀ {d : Downstream σ}, (if request.isOneway then n = 0
      else One (cfg.codec.Replies I R) n d) → One (cfg.codec.Replies I R) n d := by
    intro d h
    rwa [htwo, if_neg (by simp)] at h
  have hended : ∀ {p : Prop}, p → One p n cm.downstream →
      n ≤ 1 ∧ (Phase.finished ≠ .finished → n = 0) ∧
        (cm.downstream.state = .open → Terminal cfg i cm e → cm.created ≤ i ∨ n = 1) :=
    fun hp h => ⟨h.le, fun hne => absurd rfl hne, fun ho _ => Or.inr (h.eq hp ho)⟩
  cases e with
  | poolReady j host leftover =>
    obtain ⟨hpool, rfl, -, rfl⟩ := hrow
    refine ⟨fun hf => absurd (hpool.symm.trans hf) (by decide), Nat.zero_le 1, fun _ => rfl,
      fun _ ht => ?_⟩
    rcases ht with hr | ⟨_, _, ⟨⟩⟩ | ⟨_, _, ⟨⟩, -⟩ | ⟨_, ⟨⟩⟩
    exact Or.inl hr.1
  | poolFailure j reason host =>
    obtain ⟨hpool, hn, -, rfl⟩ := hrow
    exact ⟨fun hf => absurd (hpool.symm.trans hf) (by decide), hended hp (hone hn)⟩
  | upstreamClose j event =>
    obtain ⟨hwait, hn, -, rfl⟩ := hrow
    exact ⟨fun hf => absurd (hwait.symm.trans hf) (by decide), hended hp (hone hn)⟩
  | release j =>
    obtain ⟨rfl, -, rfl⟩ := hrow
    refine ⟨fun _ => ⟨rfl, rfl⟩, Nat.zero_le 1, fun _ => rfl, fun _ ht => ?_⟩
    rcases ht with hr | ⟨_, _, ⟨⟩⟩ | ⟨_, _, ⟨⟩, -⟩ | ⟨_, ⟨⟩⟩
    exact Or.inl hr.1
  | upstreamData j data endStream =>
    obtain rfl : j = i := Option.some.inj he
    obtain ⟨hwait, hn⟩ := hrow
    have hproper := hresponds rfl request hl.decoded
    obtain ⟨s, hs, hincoming⟩ := hl.incoming hk hwait data
    refine ⟨fun hf => absurd (hwait.symm.trans hf) (by decide), ?_⟩
    cases hd : cm.incoming cfg j data with
    | stream response =>
      rw [hd] at hn hproper
      obtain ⟨hanswer, -, rfl⟩ := hn
      rw [if_pos hproper.1] at hanswer
      exact hended trivial hanswer
    | heartbeat response =>
      rw [hd] at hproper
      exact hproper.elim
    | waitForData =>
      rw [hd] at hn
      dsimp only [Stream.UpstreamRow] at hn
      split at hn
      · obtain ⟨hanswer, -, rfl⟩ := hn
        exact hended hp (hone hanswer)
      · rename_i hend
        obtain ⟨rfl, -, rfl⟩ := hn
        refine ⟨Nat.zero_le 1, fun _ => rfl, fun _ ht => ?_⟩
        rcases ht with hr | ⟨_, _, ⟨⟩⟩ | ⟨_, _, ⟨⟩, hlast | hnot⟩ | ⟨_, ⟨⟩⟩
        · exact Or.inl hr.1
        · exact absurd hlast hend
        · exact absurd hd hnot
    | throw fault =>
      cases fault with
      | exception what =>
        rw [hd] at hn
        obtain ⟨hanswer, -, rfl⟩ := hn
        exact hended hp hanswer
      | panic site =>
        rw [hd] at hincoming
        obtain ⟨what, heq, -⟩ := hp.throw hs (DecodeStatus.eq_throw_of_decoded hincoming.symm)
        cases heq
  | downstreamData data endStream => cases hrow
  | downstreamClose event => cases hrow
  | continueDecoding j position => cases hrow
  | continueEncoding j position => cases hrow

/-- An event for the message. -/
theorem Answered.own (h : Answered i cm) (hk : cfg.codec.Keeps I R)
    (hp : cfg.codec.Replies I R) (hl : cm.Living I R i request) (htwo : request.isOneway = false)
    (he : e.message = some i)
    (hrow : EventRow cfg (cfg.codec.Replies I R) cm i request n released phase e)
    (hfate : Fate i n released phase cm cm') (hresponds : Responds cfg i cm e) :
    Answered i cm' ∧ (cm.downstream.state = .open → Terminal cfg i cm e → cm.created ≤ i ∨
      (cm'.downstream.answers i).length = 1) := by
  obtain ⟨hfinished, hle, hnone, hterminal⟩ := hrow.answers hk hp hl htwo he hresponds
  by_cases hphase : (cm.messages i).phase = .finished
  · obtain ⟨rfl, rfl⟩ := hfinished hphase
    refine ⟨⟨hfate.answers ▸ h.le, fun hne => absurd hfate.phase hne⟩, fun ho ht => ?_⟩
    exact (hterminal ho ht).imp_right (by rintro ⟨⟩)
  · have hzero := h.none hphase
    have hanswers : (cm'.downstream.answers i).length = n := by
      rw [hfate.answers, hzero, Nat.zero_add]
    exact ⟨⟨hanswers ▸ hle, fun hne => hanswers.trans (hnone (hfate.phase ▸ hne))⟩,
      fun ho ht => (hterminal ho ht).imp_right hanswers.trans⟩

/-- Whatever happens, a two-way request has one answer at most, and one if it has just been
ended. -/
theorem answered_step (hk : cfg.codec.Keeps I R) (hp : cfg.codec.Replies I R) (hc : cfg.RouterOnly)
    (h : cm.Alive I R) (he : cm.Enabled cfg e) (hresponds : Responds cfg i cm e)
    (hi : (cm.step cfg e).requests[i]? = some request) (htwo : request.isOneway = false)
    (hanswered : i < cm.created → Answered i cm) :
    Answered i (cm.step cfg e) ∧
      (i < cm.created → (cm.downstream.answers i).length ≤
        ((cm.step cfg e).downstream.answers i).length) ∧
      ((cm.step cfg e).downstream.state = .open → Terminal cfg i cm e →
        ((cm.step cfg e).downstream.answers i).length = 1) := by
  have hlived := lived_step hk hc h he
  by_cases hlt : i < cm.created
  · have hnot : ¬cm.created ≤ i := Nat.not_le.mpr hlt
    by_cases hown : e.message = some i
    · obtain ⟨request', n, released, phase, hl, hl', hrow, hfate⟩ := hlived.own i hown
      obtain rfl : request = request' := Option.some.inj (hi.symm.trans hl'.decoded)
      obtain ⟨hafter, hterminal⟩ := (hanswered hlt).own hk hp hl htwo hown hrow hfate hresponds
      refine ⟨hafter, fun _ => ?_, fun ho ht => (hterminal (hlived.state ho) ht).resolve_left hnot⟩
      rw [hfate.answers]
      exact Nat.le_add_right _ _
    · obtain ⟨hmessage, hsame⟩ := hlived.other hlt hown
      refine ⟨⟨hsame ▸ (hanswered hlt).le, fun hne => ?_⟩, fun _ => hsame ▸ Nat.le_refl _,
        fun _ ht => ?_⟩
      · rw [hsame]
        exact (hanswered hlt).none (fun hf => hne ((congrArg _ hmessage).trans hf))
      · rcases ht with hr | ⟨_, _, rfl⟩ | ⟨_, _, rfl, -⟩ | ⟨_, rfl⟩
        · exact absurd hr.1 hnot
        · exact absurd rfl hown
        · exact absurd rfl hown
        · exact absurd rfl hown
  · have hcreated := hlived.reads.sane.lt_created hi
    obtain ⟨request', n, released, phase, hborn, -⟩ :=
      hlived.reads.born i hcreated (Nat.not_lt.mp hlt)
    obtain rfl : request = request' := Option.some.inj (hi.symm.trans hborn.living.decoded)
    obtain ⟨hafter, hrejected⟩ := hborn.answered htwo
    refine ⟨hafter, fun h => absurd h hlt, fun ho ht => ?_⟩
    rcases ht with ⟨-, request', hi', hpool⟩ | ⟨_, _, rfl⟩ | ⟨_, _, rfl, -⟩ | ⟨_, rfl⟩
    · obtain rfl : request = request' := Option.some.inj (hi.symm.trans hi')
      exact hrejected hp ho hpool
    · exact absurd (he.lt_created rfl) hlt
    · exact absurd (he.lt_created rfl) hlt
    · exact absurd (he.lt_created rfl) hlt

end Step

/-! ## Runs -/

theorem answered_run (hk : cfg.codec.Keeps I R) (hp : cfg.codec.Replies I R) (hc : cfg.RouterOnly)
    {es : List Event} (h : (system cfg).Admissible (new cfg) es) {i : ℕ} {request : Metadata}
    (hi : ((system cfg).run (new cfg) es).requests[i]? = some request)
    (htwo : request.isOneway = false)
    (hresponds : (system cfg).Always (Responds cfg i) (new cfg) es) :
    (((system cfg).run (new cfg) es).downstream.answers i).length ≤ 1 ∧
      ∀ es₁ e es₂, es = es₁ ++ e :: es₂ → Terminal cfg i ((system cfg).run (new cfg) es₁) e →
        ((system cfg).run (new cfg) (es₁ ++ [e])).downstream.state = .open →
          (((system cfg).run (new cfg) es).downstream.answers i).length = 1 := by
  suffices hall : ((system cfg).run (new cfg) es).Alive I R ∧
      ((system cfg).Always (Responds cfg i) (new cfg) es →
        (((system cfg).run (new cfg) es).requests[i]? = some request →
          Answered i ((system cfg).run (new cfg) es)) ∧
        ∀ es₁ e es₂, es = es₁ ++ e :: es₂ → Terminal cfg i ((system cfg).run (new cfg) es₁) e →
          ((system cfg).run (new cfg) (es₁ ++ [e])).downstream.state = .open →
            i < ((system cfg).run (new cfg) es).created ∧
            (((system cfg).run (new cfg) es).requests[i]? = some request →
              (((system cfg).run (new cfg) es).downstream.answers i).length = 1)) by
    obtain ⟨-, hall⟩ := hall
    obtain ⟨hanswered, hterminal⟩ := hall hresponds
    exact ⟨(hanswered hi).le, fun es₁ e es₂ hes ht ho => (hterminal es₁ e es₂ hes ht ho).2 hi⟩
  refine Transition.history (P := fun (es : List Event) (cm : ConnectionManager σ) =>
    cm.Alive I R ∧ ((system cfg).Always (Responds cfg i) (new cfg) es →
      (cm.requests[i]? = some request → Answered i cm) ∧
      ∀ es₁ e es₂, es = es₁ ++ e :: es₂ → Terminal cfg i ((system cfg).run (new cfg) es₁) e →
        ((system cfg).run (new cfg) (es₁ ++ [e])).downstream.state = .open →
          i < cm.created ∧ (cm.requests[i]? = some request →
            (cm.downstream.answers i).length = 1)))
    ⟨alive_new hk, fun _ => ⟨by rintro ⟨⟩, by simp⟩⟩ (fun es e _ he hcm => ?_) es h
  obtain ⟨halive, hbefore⟩ := hcm
  have hlived := lived_step hk hc halive he
  refine ⟨alive_step hk hc halive he, fun hall => ?_⟩
  obtain ⟨hall, hnow, -⟩ := Transition.always_append.mp hall
  obtain ⟨hanswered, hterminal⟩ := hbefore hall
  obtain ⟨cm, hcm⟩ : ∃ cm, cm = (system cfg).run (new cfg) es := ⟨_, rfl⟩
  rw [← hcm] at halive he hlived hnow hanswered hterminal ⊢
  have hcreated : cm.created ≤ (cm.step cfg e).created := hlived.created
  have hknown : i < cm.created → (cm.step cfg e).requests[i]? = cm.requests[i]? :=
    fun hlt => hlived.reads.requests i hlt
  have hstep := fun hi => answered_step hk hp hc halive he hnow hi htwo
    (fun hlt => hanswered ((hknown hlt).symm.trans hi))
  refine ⟨fun hi => (hstep hi).1, fun es₁ e' es₂ hes ht ho => ?_⟩
  rcases Transition.split_concat hes with ⟨rfl, rfl, rfl⟩ | ⟨es₃, rfl, rfl⟩
  · rw [Transition.run_append, ← hcm] at ho
    rw [← hcm] at ht
    refine ⟨?_, fun hi => (hstep hi).2.2 ho ht⟩
    rcases ht with ⟨-, request', hi', -⟩ | ⟨_, _, rfl⟩ | ⟨_, _, rfl, -⟩ | ⟨_, rfl⟩
    · exact hlived.reads.sane.lt_created hi'
    · exact Nat.lt_of_lt_of_le (he.lt_created rfl) hcreated
    · exact Nat.lt_of_lt_of_le (he.lt_created rfl) hcreated
    · exact Nat.lt_of_lt_of_le (he.lt_created rfl) hcreated
  · obtain ⟨hlt, hone⟩ := hterminal es₁ e' es₃ rfl ht ho
    refine ⟨Nat.lt_of_lt_of_le hlt hcreated, fun hi => ?_⟩
    obtain ⟨hafter, hmore, -⟩ := hstep hi
    have hbefore := hone ((hknown hlt).symm.trans hi)
    exact Nat.le_antisymm hafter.le (hbefore ▸ hmore hlt)

/-- With the Dubbo codec, a two-way request whose upstream answers with its id has at most one
answer, and from the event that ends it on, if the client is still there then, exactly one. -/
theorem exactly_one_answer (hessian : Dubbo.Hessian2) {cfg : Config Dubbo.DubboCodec.State}
    (hcodec : cfg.codec = Dubbo.DubboCodec.codec hessian) (hc : cfg.RouterOnly) {es : List Event}
    (h : (system cfg).Admissible (new cfg) es) {i : ℕ} {request : Metadata}
    (hi : ((system cfg).run (new cfg) es).requests[i]? = some request)
    (htwo : request.isOneway = false)
    (hresponds : (system cfg).Always (Responds cfg i) (new cfg) es) :
    (((system cfg).run (new cfg) es).downstream.answers i).length ≤ 1 ∧
      ∀ es₁ e es₂, es = es₁ ++ e :: es₂ → Terminal cfg i ((system cfg).run (new cfg) es₁) e →
        ((system cfg).run (new cfg) (es₁ ++ [e])).downstream.state = .open →
          (((system cfg).run (new cfg) es).downstream.answers i).length = 1 :=
  answered_run (hcodec ▸ Dubbo.DubboCodec.keeps_codec hessian)
    (hcodec ▸ Dubbo.DubboCodec.replies_codec hessian) hc h hi htwo hresponds

/-- A request whose response comes in two pieces. -/
def answered : List Event :=
  [.downstreamData (DubboExample.request 1) false, .poolReady 0 "host" [],
    .upstreamData 0 ((DubboExample.response 1).take 9) false,
    .upstreamData 0 ((DubboExample.response 1).drop 9) false, .release 0]

theorem exactly_one_answer_answered :
    (((system (DubboExample.config (some .pending))).run
        (new (DubboExample.config (some .pending))) answered).downstream.answers 0).length ≤ 1 ∧
      ∀ es₁ e es₂, answered = es₁ ++ e :: es₂ →
        Terminal (DubboExample.config (some .pending)) 0
          ((system (DubboExample.config (some .pending))).run
            (new (DubboExample.config (some .pending))) es₁) e →
        ((system (DubboExample.config (some .pending))).run
          (new (DubboExample.config (some .pending))) (es₁ ++ [e])).downstream.state = .open →
        (((system (DubboExample.config (some .pending))).run
          (new (DubboExample.config (some .pending))) answered).downstream.answers 0).length = 1 :=
  exactly_one_answer .compact rfl ⟨rfl, rfl⟩ (by decide +kernel)
    (show _ = some ((((system (DubboExample.config (some .pending))).run
      (new (DubboExample.config (some .pending))) answered).requests[0]?).getD {}) by
        decide +kernel) (by decide +kernel) (by decide +kernel)

end ConnectionManager

end MetaProtocolProxy

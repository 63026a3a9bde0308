import MetaProtocolProxy.Ledger

/-!
# The end of a connection

When the client connection is closed every message is handed to deferred deletion, and what is left
to do is to destroy them. Whatever codec and filters a proxy has, and wherever a connection that has
not been closed has come to, closing it and destroying its messages is possible and fails no
assertion, and then nothing more can happen (`drain_run`). The gauge of active requests tells when
that is : once a Dubbo connection has ended nothing more can happen exactly if it is zero
(`quiescent_run`).
-/

namespace MetaProtocolProxy

variable {σ : Type} {cfg : Config σ} {I : σ → Prop} {R : Metadata → Prop}

namespace Stream

/-- A message whose upstream request is exclusive is destroyed without a failed assertion : only
the gauge changes of what the connection sees. -/
theorem destroy_of_exclusive (cfg : Config σ) {s : Stream σ} (h : s.message.Exclusive) :
    (s.destroy cfg).downstream = s.downstream.dec .requestActive ∧
      (s.destroy cfg).message.destroyed = true := by
  have hdestroy : ∀ {t : Stream σ}, t.message.Exclusive →
      (t.routerOnDestroy cfg).downstream = t.downstream := by
    intro t ht
    unfold routerOnDestroy
    cases hr : t.message.router.upstreamRequest with
    | none => rfl
    | some r =>
      dsimp only
      rw [resetUpstreamStream_eq cfg hr (ht r hr)]
      rfl
  unfold destroy
  dsimp only
  split_ifs
  · exact ⟨hdestroy (t := s.onDownstream (Downstream.dec .requestActive)) h, rfl⟩
  · exact ⟨rfl, rfl⟩

end Stream

namespace ConnectionManager

/-! ## Upstream requests -/

theorem exclusive_setStream {cm : ConnectionManager σ} {i n : ℕ} {s : Stream σ}
    (h : ∀ j < n, j ≠ i → (cm.messages j).Exclusive) (hs : s.message.Exclusive) :
    ∀ j < n, ((cm.setStream i s).messages j).Exclusive := by
  intro j hj
  unfold ConnectionManager.setStream
  dsimp only
  by_cases hji : j = i
  · rwa [hji, Function.update_self]
  · rw [Function.update_of_ne hji]
    exact h j hj hji

/-- No message has a handle of the pool besides a connection. -/
theorem course_exclusive : Course cfg I R
    fun cm : ConnectionManager σ => ∀ i < cm.created, (cm.messages i).Exclusive where
  read h _ _ _ := h
  go h := h
  halfClose h := h
  panic h _ := h
  deed _ h _ hi _ hd := exclusive_setStream (fun j hj _ => h j hj) (hd.still.exclusive (h _ hi))
  newStream := by
    intro cm _ h metadata _ s hacts
    have hborn : (cm.born metadata).message.Exclusive := by
      rintro r hr
      simp [born, Stream.decoded, Stream.onMessage, Stream.inc, Stream.onDownstream, stream,
        newMessage] at hr
    have hold : ∀ j < cm.created + 1, j ≠ cm.created →
        ((cm.newMessage metadata).messages j).Exclusive := by
      intro j hj hne
      unfold newMessage
      dsimp only
      rw [Function.update_of_ne hne]
      exact h j (by omega)
    have hs := hacts.still.exclusive hborn
    refine ⟨exclusive_setStream hold hs, exclusive_setStream hold ?_⟩
    rw [Stream.message_finalizeRequest]
    exact hs
  finalizeRequest _ h _ hi _ := by
    refine exclusive_setStream (fun j hj _ => h j hj) ?_
    rw [Stream.message_finalizeRequest]
    exact h _ hi
  destroy _ h _ hi _ _ hacts :=
    exclusive_setStream (fun j hj _ => h j hj) (hacts.still.exclusive (h _ hi))
  onHeartbeat := by
    intro cm _ h metadata _
    obtain ⟨ws, hcm, -⟩ := onHeartbeat_spec cfg metadata cm
    rw [hcm]
    exact h
  onDecodingError h := h
  resetAndClose h := h
  closed h _ := h

/-! ## Destroying what is left -/

/-- A connection whose messages can be destroyed one after the other. -/
structure Draining (cm : ConnectionManager σ) : Prop where
  fault : cm.downstream.fault = none
  shut : cm.downstream.Shut
  owned : cm.Owned
  exclusive : ∀ i < cm.created, (cm.messages i).Exclusive

/-- A message that does not exist, or does not any more. -/
def Gone (i : ℕ) (cm : ConnectionManager σ) : Prop :=
  i < cm.created → (cm.messages i).destroyed = true

/-- The messages that were not destroyed. -/
def undestroyed (cm : ConnectionManager σ) : List ℕ :=
  (List.range cm.created).filter fun i => !(cm.messages i).destroyed

section Draining

variable {cm : ConnectionManager σ}

theorem mem_undestroyed {i : ℕ} : i ∈ cm.undestroyed ↔ ¬cm.Gone i := by
  simp [undestroyed, Gone]

theorem nodup_undestroyed (cm : ConnectionManager σ) : cm.undestroyed.Nodup :=
  List.nodup_range.filter _

theorem lt_created_of_not_gone {i : ℕ} (h : ¬cm.Gone i) : i < cm.created := by
  by_contra hlt
  exact h fun hi => absurd hi hlt

/-- A message that is left was handed to deferred deletion. -/
theorem Draining.enabled (h : cm.Draining) {i : ℕ} (hi : ¬cm.Gone i) :
    cm.Enabled cfg (.release i) := by
  have hlt := lt_created_of_not_gone hi
  have hmem : i ∈ cm.downstream.listed := h.owned.mem_iff.mpr (List.mem_range.mpr hlt)
  unfold Downstream.listed at hmem
  rw [h.shut.active, List.nil_append] at hmem
  exact ⟨h.fault, hlt, by simpa [Gone, hlt] using hi, hmem⟩

/-- It is destroyed, and nothing else changes. -/
theorem Draining.release (h : cm.Draining) {i : ℕ} (hi : ¬cm.Gone i) :
    (cm.step cfg (.release i)).Draining ∧
      ∀ j, (cm.step cfg (.release i)).Gone j ↔ cm.Gone j ∨ j = i := by
  have hlt := lt_created_of_not_gone hi
  have hexclusive := h.exclusive i hlt
  obtain ⟨hdownstream, hdestroyed⟩ := Stream.destroy_of_exclusive cfg (s := cm.stream i) hexclusive
  have hstill : ((cm.stream i).destroy cfg).message.Exclusive := by
    obtain ⟨t, hacts, ht⟩ := Stream.destroy_acts cfg (cm.stream i)
    rw [ht]
    exact hacts.still.exclusive hexclusive
  have hstep : cm.step cfg (.release i) = cm.setStream i ((cm.stream i).destroy cfg) := rfl
  rw [hstep]
  generalize (cm.stream i).destroy cfg = s at hdownstream hdestroyed hstill ⊢
  refine ⟨⟨?_, ?_, ?_, exclusive_setStream (fun j hj _ => h.exclusive j hj) hstill⟩, fun j => ?_⟩
  · rw [show (cm.setStream i s).downstream = _ from hdownstream]
    exact h.fault
  · rw [show (cm.setStream i s).downstream = _ from hdownstream]
    exact ⟨h.shut.state, h.shut.active⟩
  · unfold Owned
    rw [show (cm.setStream i s).downstream = _ from hdownstream]
    exact h.owned
  · unfold Gone ConnectionManager.setStream
    dsimp only
    by_cases hji : j = i
    · subst hji
      simp [hdestroyed]
    · simp [hji]

/-- Every message that is left can be destroyed. -/
theorem Draining.run (cfg : Config σ) (h : cm.Draining) :
    (system cfg).Admissible cm (cm.undestroyed.map .release) ∧
      ((system cfg).run cm (cm.undestroyed.map .release)).Draining ∧
      ∀ i, ((system cfg).run cm (cm.undestroyed.map .release)).Gone i := by
  have henabled : ∀ (cm : ConnectionManager σ) i, cm.Draining → ¬cm.Gone i →
      (system cfg).Enabled cm (.release i) := fun _ _ h hi => h.enabled hi
  obtain ⟨hadmissible, hrun, hgone⟩ := Transition.run_tasks henabled (fun _ _ h hi => h.release hi)
    h cm.nodup_undestroyed fun i hi => mem_undestroyed.mp hi
  refine ⟨hadmissible, hrun, fun i => (hgone i).mpr ?_⟩
  by_cases hi : cm.Gone i
  · exact Or.inl hi
  · exact Or.inr (mem_undestroyed.mpr hi)

/-- Nothing happens to a connection that is closed and has no message. -/
theorem quiescent_of_gone (hclosed : cm.downstream.state = .closed) (h : ∀ i, cm.Gone i) :
    (system cfg).Quiescent cm := by
  rintro e ⟨-, he⟩
  have hmessage : ∀ {i : ℕ}, i < cm.created → (cm.messages i).destroyed = false → False := by
    intro i hi hdestroyed
    rw [h i hi] at hdestroyed
    cases hdestroyed
  cases e with
  | downstreamData data endStream =>
    rw [show cm.downstream.state = .open from he] at hclosed
    cases hclosed
  | downstreamClose event => exact he hclosed
  | _ => exact hmessage he.1 he.2.1

/-- The gauge says how many messages are left. -/
theorem Ledger.active_eq_zero_iff (h : cm.Ledger) :
    cm.downstream.stats .requestActive = 0 ↔ ∀ i, cm.Gone i := by
  rw [h.active, census_eq_zero_iff]
  simp [Gone]

end Draining

/-! ## Runs -/

/-- Closing the client connection, and destroying the messages it had. -/
def drain (event : ConnectionEvent) (cm : ConnectionManager σ) : List Event :=
  .downstreamClose event :: cm.undestroyed.map .release

/-- With every codec and every chain of filters, and wherever a connection that is not closed has
come to : it can be closed and its messages destroyed, which fails no assertion, and then the gauge
is zero and nothing more can happen. -/
theorem drain_run {cfg : Config σ} {es : List Event} (hes : (system cfg).Admissible (new cfg) es)
    (hfault : ((system cfg).run (new cfg) es).downstream.fault = none)
    (hstate : ((system cfg).run (new cfg) es).downstream.state ≠ .closed)
    (event : ConnectionEvent) :
    (system cfg).Admissible (new cfg) (es ++ drain event ((system cfg).run (new cfg) es)) ∧
      ((system cfg).run (new cfg)
        (es ++ drain event ((system cfg).run (new cfg) es))).downstream.fault = none ∧
      ((system cfg).run (new cfg) (es ++ drain event
        ((system cfg).run (new cfg) es))).downstream.stats .requestActive = 0 ∧
      (system cfg).Quiescent
        ((system cfg).run (new cfg) (es ++ drain event ((system cfg).run (new cfg) es))) := by
  have howned := (invariant_owned.run cfg.codec.keeps_true (.refl _)
    (es ++ [.downstreamClose event])).prop
  have hexclusive := (course_exclusive.run cfg.codec.keeps_true (by rintro i ⟨⟩) hes).prop
  obtain ⟨cm, hcm⟩ : ∃ cm, cm = (system cfg).run (new cfg) es := ⟨_, rfl⟩
  rw [Transition.run_append] at howned
  rw [← hcm] at hfault hstate howned hexclusive ⊢
  have hclosed : ((system cfg).step cm (.downstreamClose event)).Draining := by
    refine ⟨?_, Downstream.shut_closed event _, howned, hexclusive⟩
    exact (Downstream.fault_resetAllMessages _ _).trans hfault
  obtain ⟨hadmissible, hdrained, hgone⟩ := hclosed.run cfg
  have hrun : (system cfg).run (new cfg) (es ++ drain event cm) =
      (system cfg).run ((system cfg).step cm (.downstreamClose event))
        (cm.undestroyed.map .release) := by
    rw [Transition.run_append, ← hcm]
    rfl
  have hall : (system cfg).Admissible (new cfg) (es ++ drain event cm) := by
    refine Transition.admissible_append.mpr ⟨hes, ?_⟩
    rw [← hcm]
    exact ⟨⟨hfault, hstate⟩, hadmissible⟩
  have hledger := (course_ledger.run cfg.codec.keeps_true ledger_new hall).prop
  rw [hrun] at hledger ⊢
  exact ⟨hall, hdrained.fault, hledger.active_eq_zero_iff.mpr hgone,
    quiescent_of_gone hdrained.shut.state hgone⟩

/-- Two requests, of which one has its connection and the other one waits for the pool. -/
def halfway : List Event :=
  [.downstreamData (DubboExample.request 1 ++ DubboExample.request 2) false,
    .poolReady 0 "host" []]

theorem drain_run_halfway :
    (system (DubboExample.config (some .pending))).Admissible
        (new (DubboExample.config (some .pending)))
        (halfway ++ drain .remoteClose ((system (DubboExample.config (some .pending))).run
          (new (DubboExample.config (some .pending))) halfway)) ∧
      ((system (DubboExample.config (some .pending))).run
        (new (DubboExample.config (some .pending)))
        (halfway ++ drain .remoteClose ((system (DubboExample.config (some .pending))).run
          (new (DubboExample.config (some .pending))) halfway))).downstream.fault = none ∧
      ((system (DubboExample.config (some .pending))).run
        (new (DubboExample.config (some .pending)))
        (halfway ++ drain .remoteClose ((system (DubboExample.config (some .pending))).run
          (new (DubboExample.config (some .pending))) halfway))).downstream.stats
            .requestActive = 0 ∧
      (system (DubboExample.config (some .pending))).Quiescent
        ((system (DubboExample.config (some .pending))).run
          (new (DubboExample.config (some .pending)))
          (halfway ++ drain .remoteClose ((system (DubboExample.config (some .pending))).run
            (new (DubboExample.config (some .pending))) halfway))) :=
  drain_run (by decide +kernel) (by decide +kernel) (by decide +kernel) .remoteClose

/-- Once a Dubbo connection has ended nothing more can happen exactly if the gauge of active
requests is zero. -/
theorem quiescent_run {hessian : Dubbo.Hessian2} {cfg : Config Dubbo.DubboCodec.State}
    (hc : cfg.codec = Dubbo.DubboCodec.codec hessian) {es : List Event}
    (hes : (system cfg).Admissible (new cfg) es)
    (hended : Ended es ((system cfg).run (new cfg) es))
    (hfault : ((system cfg).run (new cfg) es).downstream.fault = none) :
    (system cfg).Quiescent ((system cfg).run (new cfg) es) ↔
      ((system cfg).run (new cfg) es).downstream.stats .requestActive = 0 := by
  have hshut := shut_run hc hes hended
  have howned := (invariant_owned.run cfg.codec.keeps_true (.refl _) es).prop
  have hexclusive := (course_exclusive.run cfg.codec.keeps_true (by rintro i ⟨⟩) hes).prop
  have hledger := (course_ledger.run cfg.codec.keeps_true ledger_new hes).prop
  rw [hledger.active_eq_zero_iff]
  refine ⟨fun hquiescent i => ?_, quiescent_of_gone hshut.state⟩
  by_contra hi
  exact hquiescent (.release i) (Draining.enabled ⟨hfault, hshut, howned, hexclusive⟩ hi)

/-- A request that the pool has taken, and bytes that are not Dubbo. -/
def broken : List Event :=
  [.downstreamData (DubboExample.request 1 ++ List.replicate 16 0) false]

theorem quiescent_run_broken :
    (system (DubboExample.config (some .pending))).Quiescent
        ((system (DubboExample.config (some .pending))).run
          (new (DubboExample.config (some .pending))) broken) ↔
      ((system (DubboExample.config (some .pending))).run
        (new (DubboExample.config (some .pending))) broken).downstream.stats .requestActive = 0 :=
  quiescent_run rfl (by decide +kernel) (Or.inr (by decide +kernel)) (by decide +kernel)

end ConnectionManager

end MetaProtocolProxy

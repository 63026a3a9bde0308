import MetaProtocolProxy.Heartbeats
import MetaProtocolProxy.LifeCycle

/-!
# The next hop

A message of a Dubbo stream is read again from its own bytes (`restarts_round`), and messages
behind one another are read one by one, however their bytes are cut (`delivered_of_reads`). So the
bytes that a proxy writes to its upstreams are, for whoever reads them with the same codec, the
requests of its client : the next proxy on an upstream connection delivers the requests that were
written there, each as it was and in their order, whatever its own filters and upstreams do
(`next_hop_run`).
-/

namespace MetaProtocolProxy

variable {hessian : Dubbo.Hessian2}

namespace Dubbo.DubboCodec

/-- Behind every message the Dubbo codec starts again, and it does not wait where a whole frame has
come. -/
theorem restarts_round (hessian : Hessian2) :
    Resumable.Restarts (codec hessian).round (fun s => Sound s ∧ Holding s) held
      (·.originMessage) (fun metadata => Whole metadata ∧ Announced metadata) none where
  toConserves := conserves_announced hessian
  init := ⟨⟨.idle, .idle⟩, rfl⟩
  nonempty := by
    rintro metadata ⟨hwhole, -⟩ hnil
    have hlength := hwhole.isFrame.length_le
    rw [hnil] at hlength
    exact absurd hlength (by simp [messageSize])
  again := by
    rintro s b metadata s' b' ⟨-, hs⟩ hr
    have hconserving := conserving_decode hessian hs b
    simp only [Codec.round, codec] at hr
    generalize decode hessian s b = decoding at hconserving hr
    obtain ⟨t, c, status⟩ := decoding
    cases status with
    | waitForData => cases hr
    | done metadata =>
      cases hr
      exact (hconserving.done rfl).1
    | throw fault => cases hr
  prompt := by
    rintro s b s' b' ⟨-, hs⟩ hr metadata ⟨hwhole, -⟩
    refine @unfinished_of_wait hessian b _ hs ?_ _ hwhole.isFrame
    simp only [Codec.round, codec] at hr
    generalize decode hessian s b = decoding at hr ⊢
    obtain ⟨t, c, status⟩ := decoding
    cases status with
    | waitForData => rfl
    | done metadata => cases hr
    | throw fault => cases hr

end Dubbo.DubboCodec

namespace ConnectionManager

open Dubbo.DubboCodec (Sound Hungry Holding hungry_none splittable_round restarts_round)

/-- A message that the codec reads from its own bytes. -/
abbrev Reread (hessian : Dubbo.Hessian2) (metadata : Metadata) : Prop :=
  Resumable.Reads (Dubbo.DubboCodec.codec hessian).round (·.originMessage) none metadata

variable {cfg : Config Dubbo.DubboCodec.State}

/-- Everything that a connection delivers is read again from its own bytes. -/
theorem reread_delivered (hl : hessian.Local) (hc : cfg.codec = Dubbo.DubboCodec.codec hessian)
    {es : List Event} {d : Delivery} (hd : d ∈ ((system cfg).run (new cfg) es).delivered) :
    Reread hessian d.metadata ∧ d = .of d.metadata := by
  obtain ⟨p, ha, hfed⟩ := (fed_run_dubbo hc es).progress
  rw [hc] at hfed
  rw [ha.emitted] at hd
  obtain ⟨metadata, hm, rfl⟩ := List.mem_map.mp hd
  rw [Delivery.metadata_of]
  have hreads := hfed.reads (splittable_round hl) (restarts_round hessian) ⟨.idle, hungry_none⟩
  exact ⟨hreads.reads metadata hm, rfl⟩

/-- What was delivered as a request. -/
theorem reread_request (hl : hessian.Local) (hc : cfg.codec = Dubbo.DubboCodec.codec hessian)
    {es : List Event} {request : Metadata}
    (h : request ∈ ((system cfg).run (new cfg) es).requests) :
    Reread hessian request ∧ Delivery.of request = .stream request := by
  obtain ⟨d, hd, hrequest⟩ := List.mem_filterMap.mp h
  cases d with
  | heartbeat metadata => cases hrequest
  | stream metadata =>
    obtain rfl : metadata = request := Option.some.inj hrequest
    obtain ⟨hreread, hof⟩ := reread_delivered hl hc hd
    exact ⟨hreread, hof.symm⟩

/-- A connection that is sent the bytes of messages delivers these messages. -/
theorem delivered_of_reads (hl : hessian.Local) (hc : cfg.codec = Dubbo.DubboCodec.codec hessian)
    {messages : List Metadata} (hmessages : ∀ metadata ∈ messages, Reread hessian metadata)
    {es : List Event}
    (hes : es.flatMap Event.received = messages.flatMap (·.originMessage)) :
    ((system cfg).run (new cfg) es).delivered = messages.map Delivery.of ∧
      ((system cfg).run (new cfg) es).decodingFailed = false := by
  obtain ⟨p, ha, hfed⟩ := (fed_run_dubbo hc es).progress
  rw [hc, hes] at hfed
  obtain ⟨hemitted, hfailed⟩ :=
    hfed.emitted_eq (splittable_round hl) ⟨.idle, hungry_none⟩ hmessages
  exact ⟨by rw [ha.emitted, hemitted], ha.failed.trans hfailed⟩

/-! ## Upstream connections -/

variable {σ : Type}

/-- The bytes that were written to an upstream for a message. -/
def forwarded (i : ℕ) (cm : ConnectionManager σ) : Bytes :=
  (cm.messages i).writes.flatten.flatten

/-- A message whose request went to an upstream. -/
def Forwarded (i : ℕ) (cm : ConnectionManager σ) : Prop :=
  i < cm.created ∧ (cm.messages i).writes ≠ []

instance (i : ℕ) (cm : ConnectionManager σ) : Decidable (cm.Forwarded i) :=
  inferInstanceAs (Decidable (_ ∧ _))

/-- A request goes to its upstream as it came. -/
theorem Forwarded.request {I : σ → Prop} {R : Metadata → Prop} {cm : ConnectionManager σ}
    (h : cm.Alive I R) {i : ℕ} (hi : cm.Forwarded i) :
    ∃ request, cm.requests[i]? = some request ∧ cm.forwarded i = request.originMessage := by
  obtain ⟨hlt, hwrites⟩ := hi
  obtain ⟨request, hliving⟩ := h.living i hlt
  refine ⟨request, hliving.decoded, ?_⟩
  rcases hliving.coherent.writes with hnone | hone
  · exact absurd hnone hwrites
  · simp [forwarded, hone]

/-- The requests of some messages, as a connection delivers them. -/
def deliveries (cm : ConnectionManager Dubbo.DubboCodec.State) (is : List ℕ) : List Delivery :=
  is.filterMap fun i => cm.requests[i]?.map .stream

/-- With the router as the only filter : let an upstream connection carry the bytes of some messages
of a client, one behind the other. A proxy that reads them, with the same codec and whatever filters
and upstreams it has, delivers the requests of these messages in this order, and nothing else,
however the bytes are cut. -/
theorem next_hop_run (hl : hessian.Local) {cfg cfg' : Config Dubbo.DubboCodec.State}
    (hc : cfg.codec = Dubbo.DubboCodec.codec hessian) (hrouter : cfg.RouterOnly)
    (hc' : cfg'.codec = Dubbo.DubboCodec.codec hessian) {es es' : List Event}
    (hes : (system cfg).Admissible (new cfg) es) {is : List ℕ}
    (his : ∀ i ∈ is, ((system cfg).run (new cfg) es).Forwarded i)
    (hes' : es'.flatMap Event.received =
      is.flatMap fun i => ((system cfg).run (new cfg) es).forwarded i) :
    ((system cfg').run (new cfg') es').delivered =
        ((system cfg).run (new cfg) es).deliveries is ∧
      ((system cfg').run (new cfg') es').decodingFailed = false := by
  have halive := alive_run (hc ▸ Dubbo.DubboCodec.keeps_codec hessian) hrouter hes
  have hreread : ∀ request ∈ ((system cfg).run (new cfg) es).requests,
      Reread hessian request ∧ Delivery.of request = .stream request :=
    fun request hrequest => reread_request hl hc hrequest
  generalize (system cfg).run (new cfg) es = cm at halive hreread his hes' ⊢
  obtain ⟨messages, hmessages, hbytes, hdeliveries⟩ : ∃ messages : List Metadata,
      (∀ metadata ∈ messages, Reread hessian metadata) ∧
      (is.flatMap fun i => cm.forwarded i) = messages.flatMap (·.originMessage) ∧
      cm.deliveries is = messages.map Delivery.of := by
    clear hes'
    induction is with
    | nil => exact ⟨[], by simp [deliveries]⟩
    | cons i is ih =>
      obtain ⟨messages, hmessages, hbytes, hdeliveries⟩ :=
        ih fun j hj => his j (List.mem_cons_of_mem i hj)
      obtain ⟨request, hrequest, hforwarded⟩ := (his i List.mem_cons_self).request halive
      obtain ⟨hown, hof⟩ := hreread request (List.mem_of_getElem? hrequest)
      refine ⟨request :: messages, ?_, ?_, ?_⟩
      · simpa using ⟨hown, hmessages⟩
      · rw [List.flatMap_cons, List.flatMap_cons, hforwarded, hbytes]
      · unfold deliveries at hdeliveries ⊢
        simp [hrequest, hof, hdeliveries]
  rw [hdeliveries]
  exact delivered_of_reads hl hc' hmessages (hes'.trans hbytes)

/-- Of three requests the last one and the first one go over one connection, in chunks that do not
respect their ends. -/
theorem next_hop_run_requests :
    ((system (DubboExample.config none)).run (new (DubboExample.config none))
        [.downstreamData ((DubboExample.request 3 ++ DubboExample.request 1).take 25) false,
          .downstreamData ((DubboExample.request 3 ++ DubboExample.request 1).drop 25)
            false]).delivered =
        ((system (DubboExample.config (some (.ready "host" [])))).run
          (new (DubboExample.config (some (.ready "host" []))))
          [.downstreamData (DubboExample.request 1 ++ DubboExample.request 2 ++
            DubboExample.request 3) false]).deliveries [2, 0] ∧
      ((system (DubboExample.config none)).run (new (DubboExample.config none))
        [.downstreamData ((DubboExample.request 3 ++ DubboExample.request 1).take 25) false,
          .downstreamData ((DubboExample.request 3 ++ DubboExample.request 1).drop 25)
            false]).decodingFailed = false :=
  next_hop_run Dubbo.Hessian2.compact_local rfl ⟨rfl, rfl⟩ rfl (by decide +kernel)
    (by decide +kernel) (by decide +kernel)

end ConnectionManager

end MetaProtocolProxy

import Mathlib.Algebra.Order.BigOperators.Group.List
import Mathlib.Algebra.Order.Ring.Nat
import MetaProtocolProxy.Downstream

/-!
# Route selection

`RouteMatcherImpl` and its routes (`route_matcher.cc`) : the constructors, which add up the
weights of the clusters of a route, and `route`, which takes the first route whose headers
match and picks one of its clusters by a random value.

Two functions of Envoy are parameters : `matchHeaders`, about which nothing is assumed,
and `pickCluster`, which is documented to reduce the random value modulo the total weight
and to return the cluster whose interval of cumulative weights it falls into
(`PickCluster.Documented`). What it does with a total of zero is a division by zero.

The constructors check that every cluster has a weight, and not that the weights add up
to anything. So `route` is defined exactly where the first route that matches has no
weighted cluster at all, or one whose weight is not zero (`selects_iff`).
-/

namespace MetaProtocolProxy

/-! ## Intervals of cumulative weights -/

section Intervals

variable {α : Type*} (weight : α → ℕ)

/-- The weights up to `x` reach `n`, and with the weight of `x` they go beyond it. -/
def Covers (items : List α) (n : ℕ) (x : α) : Prop :=
  ∃ front back, items = front ++ x :: back ∧ (front.map weight).sum ≤ n ∧
    n < (front.map weight).sum + weight x

variable {weight} {items : List α} {n : ℕ} {x : α}

/-- An interval that covers something is not empty. -/
theorem Covers.weight_pos (h : Covers weight items n x) : 0 < weight x := by
  obtain ⟨front, back, -, hle, hlt⟩ := h
  omega

theorem Covers.mem (h : Covers weight items n x) : x ∈ items := by
  obtain ⟨front, back, rfl, -, -⟩ := h
  exact List.mem_append_right front List.mem_cons_self

theorem Covers.head (back : List α) (h : n < weight x) : Covers weight (x :: back) n x :=
  ⟨[], back, rfl, Nat.zero_le n, by simpa using h⟩

theorem Covers.cons {y : α} (h : Covers weight items (n - weight y) x) (hy : weight y ≤ n) :
    Covers weight (y :: items) n x := by
  obtain ⟨front, back, rfl, hle, hlt⟩ := h
  refine ⟨y :: front, back, rfl, ?_, ?_⟩
  · rw [List.map_cons, List.sum_cons]
    omega
  · rw [List.map_cons, List.sum_cons]
    omega

variable (weight) in
/-- Walks along the intervals until one of them covers `n`. -/
def coveredBy : List α → ℕ → Option α
  | [], _ => none
  | x :: items, n => if n < weight x then some x else coveredBy items (n - weight x)

/-- Below the sum of the weights, the walk ends at the interval that covers `n`. -/
theorem coveredBy_covers (items : List α) : ∀ n, n < (items.map weight).sum →
    ∃ x, coveredBy weight items n = some x ∧ Covers weight items n x := by
  induction items with
  | nil => exact fun n hn => absurd hn (Nat.not_lt_zero n)
  | cons y items ih =>
    intro n hn
    rw [List.map_cons, List.sum_cons] at hn
    rw [coveredBy]
    by_cases hy : n < weight y
    · exact ⟨y, if_pos hy, Covers.head items hy⟩
    · obtain ⟨x, hx, hcovers⟩ := ih (n - weight y) (by omega)
      exact ⟨x, by rw [if_neg hy, hx], hcovers.cons (by omega)⟩

theorem sum_map_pos_iff : 0 < (items.map weight).sum ↔ ∃ x ∈ items, 0 < weight x := by
  induction items with
  | nil => simp
  | cons y items ih =>
    rw [List.map_cons, List.sum_cons, Nat.add_pos_iff_pos_or_pos, ih]
    simp

theorem sum_map_le (bound : ℕ) (h : ∀ x ∈ items, weight x ≤ bound) :
    (items.map weight).sum ≤ items.length * bound := by
  have hsum := List.sum_le_card_nsmul (items.map weight) bound (by simpa using h)
  simpa using hsum

end Intervals

/-! ## The configuration -/

/-- A cluster and its weight. The field of the weight is a message of its own, which may be
missing. -/
structure ClusterWeight where
  name : String
  weight : Option UInt32
deriving DecidableEq, Repr

/-- A repeated field has at most `INT_MAX` elements. -/
structure WeightedClusters where
  clusters : List ClusterWeight
  length_lt : clusters.length < 2 ^ 31

/-- The `oneof` of a route action. -/
inductive ClusterSpecifier where
  | notSet
  | cluster (name : String)
  | weightedClusters (clusters : WeightedClusters)

/-- The clusters a specifier spreads the requests over. -/
def ClusterSpecifier.clusters : ClusterSpecifier → List ClusterWeight
  | .weightedClusters w => w.clusters
  | _ => []

/-- A route, with the matchers of its headers. -/
structure RouteConfig (HeaderMatcher : Type) where
  metadata : List HeaderMatcher
  clusterSpecifier : ClusterSpecifier

/-! ## The routes -/

/-- `WeightedClusterEntry` : a cluster and its weight. -/
structure WeightedClusterEntry where
  clusterName : String
  clusterWeight : UInt64
deriving DecidableEq, Repr

/-- `RouteEntryImplBase`. Its total is written by the constructor only where there are weighted
clusters. -/
structure RouteEntryImpl (HeaderMatcher : Type) where
  totalClusterWeight : Option UInt64 := none
  clusterName : String
  configHeaders : List HeaderMatcher
  weightedClusters : List WeightedClusterEntry := []

/-- What `route` points to : a route itself, or one of its clusters. -/
inductive Route (HeaderMatcher : Type) where
  | entry (entry : RouteEntryImpl HeaderMatcher)
  | weightedCluster (cluster : WeightedClusterEntry)

/-- `WeightedClusterEntry` : a weight that is missing is an `EnvoyException`. -/
def WeightedClusterEntry.new (cluster : ClusterWeight) : Except Fault WeightedClusterEntry :=
  match cluster.weight with
  | some weight => .ok ⟨cluster.name, weight.toUInt64⟩
  | none => .error (.exception "Field 'weight' is missing in: ClusterWeight")

namespace RouteEntryImpl

variable {HeaderMatcher : Type}

/-- The loop of the constructor. -/
def addClusters : List ClusterWeight → List WeightedClusterEntry → UInt64 →
    Except Fault (List WeightedClusterEntry × UInt64)
  | [], entries, total => .ok (entries, total)
  | cluster :: clusters, entries, total => do
    let entry ← WeightedClusterEntry.new cluster
    addClusters clusters (entries ++ [entry]) (total + entry.clusterWeight)

/-- `RouteEntryImplBase::RouteEntryImplBase`. -/
def new (route : RouteConfig HeaderMatcher) : Except Fault (RouteEntryImpl HeaderMatcher) :=
  match route.clusterSpecifier with
  | .notSet => .ok { clusterName := "", configHeaders := route.metadata }
  | .cluster name => .ok { clusterName := name, configHeaders := route.metadata }
  | .weightedClusters w => do
    let (entries, total) ← addClusters w.clusters [] 0
    return { totalClusterWeight := some total, clusterName := "", configHeaders := route.metadata,
             weightedClusters := entries }

variable (matchHeaders : List (String × String) → List HeaderMatcher → Bool)
  (pickCluster : List WeightedClusterEntry → UInt64 → UInt64 → Except Fault WeightedClusterEntry)

/-- `headersMatch`. -/
def headersMatch (metadata : Metadata) (entry : RouteEntryImpl HeaderMatcher) : Bool :=
  entry.configHeaders.isEmpty || matchHeaders metadata.headers entry.configHeaders

/-- `clusterEntry`. -/
def clusterEntry (randomValue : UInt64) (entry : RouteEntryImpl HeaderMatcher) :
    Except Fault (Route HeaderMatcher) :=
  if entry.weightedClusters = [] then .ok (.entry entry)
  else
    match entry.totalClusterWeight with
    | none => .error (.panic "indeterminate total_cluster_weight_")
    | some total => (pickCluster entry.weightedClusters total randomValue).map .weightedCluster

/-- `RouteEntryImpl::matches`. -/
def matchesMetadata (metadata : Metadata) (randomValue : UInt64)
    (entry : RouteEntryImpl HeaderMatcher) : Except Fault (Option (Route HeaderMatcher)) :=
  if entry.headersMatch matchHeaders metadata then
    (entry.clusterEntry pickCluster randomValue).map some
  else .ok none

end RouteEntryImpl

namespace RouteMatcherImpl

variable {HeaderMatcher : Type}

/-- `RouteMatcherImpl::RouteMatcherImpl`. -/
def new : List (RouteConfig HeaderMatcher) → Except Fault (List (RouteEntryImpl HeaderMatcher))
  | [] => .ok []
  | route :: routes => do
    let entry ← RouteEntryImpl.new route
    let entries ← new routes
    return entry :: entries

variable (matchHeaders : List (String × String) → List HeaderMatcher → Bool)
  (pickCluster : List WeightedClusterEntry → UInt64 → UInt64 → Except Fault WeightedClusterEntry)

/-- `RouteMatcherImpl::route`. -/
def route (metadata : Metadata) (randomValue : UInt64) :
    List (RouteEntryImpl HeaderMatcher) → Except Fault (Option (Route HeaderMatcher))
  | [] => .ok none
  | entry :: entries =>
    match entry.matchesMetadata matchHeaders pickCluster metadata randomValue with
    | .error fault => .error fault
    | .ok (some route) => .ok (some route)
    | .ok none => route metadata randomValue entries

end RouteMatcherImpl

/-- What `WeightedClusterUtil::pickCluster` is documented to do, on a total that is the sum of
the weights. -/
structure PickCluster.Documented
    (pickCluster : List WeightedClusterEntry → UInt64 → UInt64 →
      Except Fault WeightedClusterEntry) :
    Prop where
  /-- The random value modulo zero is a division by zero, which stops the process. -/
  zero : ∀ clusters randomValue, ∃ site, pickCluster clusters 0 randomValue = .error (.panic site)
  covers : ∀ clusters total randomValue, 0 < total →
    total.toNat = (clusters.map (·.clusterWeight.toNat)).sum →
    ∃ cluster, pickCluster clusters total randomValue = .ok cluster ∧
      Covers (·.clusterWeight.toNat) clusters (randomValue.toNat % total.toNat) cluster

/-- A `pickCluster` as it is documented. -/
def WeightedClusterUtil.pickCluster (clusters : List WeightedClusterEntry)
    (total randomValue : UInt64) : Except Fault WeightedClusterEntry :=
  if total = 0 then .error (.panic "division by zero in pickCluster")
  else
    match coveredBy (·.clusterWeight.toNat) clusters (randomValue.toNat % total.toNat) with
    | some cluster => .ok cluster
    | none => .error (.panic "NOT_REACHED in pickCluster")

theorem WeightedClusterUtil.documented_pickCluster :
    PickCluster.Documented WeightedClusterUtil.pickCluster where
  zero clusters randomValue := ⟨_, if_pos rfl⟩
  covers clusters total randomValue hpos hsum := by
    have hne : total ≠ 0 := by
      rintro rfl
      exact absurd hpos (by decide)
    have hmod : randomValue.toNat % total.toNat <
        (clusters.map (·.clusterWeight.toNat)).sum := by
      rw [← hsum]
      exact Nat.mod_lt _ (UInt64.lt_iff_toNat_lt.mp hpos)
    obtain ⟨cluster, hcluster, hcovers⟩ := coveredBy_covers clusters _ hmod
    exact ⟨cluster, by rw [pickCluster, if_neg hne, hcluster], hcovers⟩

/-! ## The constructors -/

/-- The weight of a cluster that has one. -/
def ClusterWeight.toNat (cluster : ClusterWeight) : ℕ :=
  (cluster.weight.getD 0).toNat

theorem ClusterWeight.toNat_lt (cluster : ClusterWeight) : cluster.toNat < 2 ^ 32 :=
  (cluster.weight.getD 0).toNat_lt

/-- The sum of the weights of a repeated field is far below the bound of its total. -/
theorem WeightedClusters.sum_lt (w : WeightedClusters) :
    (w.clusters.map ClusterWeight.toNat).sum < 2 ^ 64 := by
  have hle := sum_map_le (2 ^ 32) fun c (_ : c ∈ w.clusters) => c.toNat_lt.le
  have hlength := w.length_lt
  omega

theorem WeightedClusterEntry.new_eq_ok {cluster : ClusterWeight} {entry : WeightedClusterEntry}
    (h : new cluster = .ok entry) : entry.clusterWeight.toNat = cluster.toNat := by
  obtain ⟨name, _ | weight⟩ := cluster
  · cases h
  · cases h
    rfl

theorem bind_eq_ok {ε α β : Type} {x : Except ε α} {f : α → Except ε β} {b : β}
    (h : x >>= f = .ok b) : ∃ a, x = .ok a ∧ f a = .ok b := by
  cases x with
  | error e => cases h
  | ok a => exact ⟨a, rfl, h⟩

namespace RouteEntryImpl

variable {HeaderMatcher : Type}

/-- The loop keeps the weights in their order, and adds them up. -/
theorem addClusters_eq_ok (clusters : List ClusterWeight) : ∀ {entries total entries' total'},
    addClusters clusters entries total = .ok (entries', total') →
    entries'.map (·.clusterWeight.toNat) =
        entries.map (·.clusterWeight.toNat) ++ clusters.map ClusterWeight.toNat ∧
      (total.toNat + (clusters.map ClusterWeight.toNat).sum < 2 ^ 64 →
        total'.toNat = total.toNat + (clusters.map ClusterWeight.toNat).sum) := by
  induction clusters with
  | nil =>
    intro entries total entries' total' h
    cases h
    simp
  | cons cluster clusters ih =>
    intro entries total entries' total' h
    obtain ⟨entry, hentry, hrest⟩ := bind_eq_ok h
    obtain ⟨hmap, hsum⟩ := ih hrest
    have hweight := WeightedClusterEntry.new_eq_ok hentry
    refine ⟨by simp [hmap, hweight], fun hlt => ?_⟩
    rw [List.map_cons, List.sum_cons] at hlt ⊢
    have hadd : (total + entry.clusterWeight).toNat = total.toNat + cluster.toNat := by
      rw [UInt64.toNat_add, hweight]
      exact Nat.mod_eq_of_lt (by omega)
    rw [hsum (by omega), hadd]
    omega

/-- What the constructor makes of the clusters of a route : entries with their weights, and the
sum of these as the total. -/
structure Totals (route : RouteConfig HeaderMatcher) (entry : RouteEntryImpl HeaderMatcher) :
    Prop where
  configHeaders : entry.configHeaders = route.metadata
  weights : entry.weightedClusters.map (·.clusterWeight.toNat) =
    route.clusterSpecifier.clusters.map ClusterWeight.toNat
  total : entry.weightedClusters ≠ [] → ∃ total, entry.totalClusterWeight = some total ∧
    total.toNat = (route.clusterSpecifier.clusters.map ClusterWeight.toNat).sum

theorem totals_new {route : RouteConfig HeaderMatcher} {entry : RouteEntryImpl HeaderMatcher}
    (h : new route = .ok entry) : Totals route entry := by
  unfold new at h
  split at h
  case h_1 hs =>
    cases h
    exact ⟨rfl, by simp [hs, ClusterSpecifier.clusters], fun hne => absurd rfl hne⟩
  case h_2 name hs =>
    cases h
    exact ⟨rfl, by simp [hs, ClusterSpecifier.clusters], fun hne => absurd rfl hne⟩
  case h_3 w hs =>
    obtain ⟨⟨entries, total⟩, hadd, hentry⟩ := bind_eq_ok h
    cases hentry
    obtain ⟨hmap, hsum⟩ := addClusters_eq_ok w.clusters hadd
    refine ⟨rfl, by simpa [hs, ClusterSpecifier.clusters] using hmap, fun _ => ⟨total, rfl, ?_⟩⟩
    have htotal := hsum (by simpa using w.sum_lt)
    simpa [hs, ClusterSpecifier.clusters] using htotal

end RouteEntryImpl

/-- The headers of the configured route match. -/
def RouteConfig.headersMatch {HeaderMatcher : Type}
    (matchHeaders : List (String × String) → List HeaderMatcher → Bool) (metadata : Metadata)
    (route : RouteConfig HeaderMatcher) : Bool :=
  route.metadata.isEmpty || matchHeaders metadata.headers route.metadata

/-- There is nothing to pick from, or a cluster that can be picked. -/
def RouteConfig.Selectable {HeaderMatcher : Type} (route : RouteConfig HeaderMatcher) : Prop :=
  route.clusterSpecifier.clusters = [] ∨
    ∃ cluster ∈ route.clusterSpecifier.clusters, 0 < cluster.toNat

/-- What is asked of `route` : where a cluster is picked the total is positive, there is a
result, and a cluster in it has a weight. -/
structure Selects {HeaderMatcher : Type}
    (matchHeaders : List (String × String) → List HeaderMatcher → Bool)
    (pickCluster : List WeightedClusterEntry → UInt64 → UInt64 → Except Fault WeightedClusterEntry)
    (routes : List (RouteEntryImpl HeaderMatcher)) (metadata : Metadata) (randomValue : UInt64) :
    Prop where
  total_pos : ∀ entry, routes.find? (·.headersMatch matchHeaders metadata) = some entry →
    entry.weightedClusters ≠ [] → ∃ total, entry.totalClusterWeight = some total ∧ 0 < total
  defined : ∃ route,
    RouteMatcherImpl.route matchHeaders pickCluster metadata randomValue routes = .ok route
  weight_pos : ∀ cluster,
    RouteMatcherImpl.route matchHeaders pickCluster metadata randomValue routes =
      .ok (some (.weightedCluster cluster)) → 0 < cluster.clusterWeight

section Selection

variable {HeaderMatcher : Type}
  {matchHeaders : List (String × String) → List HeaderMatcher → Bool}
  {pickCluster : List WeightedClusterEntry → UInt64 → UInt64 → Except Fault WeightedClusterEntry}
  {metadata : Metadata} {randomValue : UInt64}

/-- The routes are constructed one by one, in order. -/
theorem forall_new (config : List (RouteConfig HeaderMatcher)) :
    ∀ {routes}, RouteMatcherImpl.new config = .ok routes →
      List.Forall₂ (fun route entry => RouteEntryImpl.new route = .ok entry) config routes := by
  induction config with
  | nil =>
    intro routes h
    cases h
    exact .nil
  | cons route config ih =>
    intro routes h
    obtain ⟨entry, hentry, h⟩ := bind_eq_ok h
    obtain ⟨entries, hentries, h⟩ := bind_eq_ok h
    cases h
    exact .cons hentry (ih hentries)

/-- The constructed routes stand for the configured ones, in order. -/
theorem forall_totals (config : List (RouteConfig HeaderMatcher)) {routes}
    (h : RouteMatcherImpl.new config = .ok routes) :
    List.Forall₂ RouteEntryImpl.Totals config routes :=
  (forall_new config h).imp fun _ _ => RouteEntryImpl.totals_new

/-- The first route that matches is the first configured route that does. -/
theorem find_of_forall {R : RouteConfig HeaderMatcher → RouteEntryImpl HeaderMatcher → Prop}
    (hR : ∀ {route entry}, R route entry → entry.configHeaders = route.metadata)
    {config : List (RouteConfig HeaderMatcher)} {routes : List (RouteEntryImpl HeaderMatcher)}
    (h : List.Forall₂ R config routes) :
    Option.Rel R (config.find? (·.headersMatch matchHeaders metadata))
      (routes.find? (·.headersMatch matchHeaders metadata)) := by
  induction h with
  | nil => exact .none
  | @cons route entry config routes hentry _ ih =>
    have hmatch : entry.headersMatch matchHeaders metadata =
        route.headersMatch matchHeaders metadata := by
      rw [RouteEntryImpl.headersMatch, RouteConfig.headersMatch, hR hentry]
    cases hroute : route.headersMatch matchHeaders metadata with
    | true =>
      rw [List.find?_cons_of_pos hroute, List.find?_cons_of_pos (by rw [hmatch, hroute])]
      exact .some hentry
    | false =>
      rw [List.find?_cons_of_neg (by simp [hroute]),
        List.find?_cons_of_neg (by simp [hmatch, hroute])]
      exact ih

theorem find_totals {config : List (RouteConfig HeaderMatcher)}
    {routes : List (RouteEntryImpl HeaderMatcher)}
    (h : List.Forall₂ RouteEntryImpl.Totals config routes) :
    Option.Rel RouteEntryImpl.Totals (config.find? (·.headersMatch matchHeaders metadata))
      (routes.find? (·.headersMatch matchHeaders metadata)) :=
  find_of_forall RouteEntryImpl.Totals.configHeaders h

/-- `route` is the cluster entry of the first route that matches. -/
theorem route_eq (routes : List (RouteEntryImpl HeaderMatcher)) :
    RouteMatcherImpl.route matchHeaders pickCluster metadata randomValue routes =
      match routes.find? (·.headersMatch matchHeaders metadata) with
      | none => .ok none
      | some entry => (entry.clusterEntry pickCluster randomValue).map some := by
  induction routes with
  | nil => rfl
  | cons entry routes ih =>
    rw [RouteMatcherImpl.route, RouteEntryImpl.matchesMetadata]
    cases hmatch : entry.headersMatch matchHeaders metadata with
    | true =>
      rw [List.find?_cons_of_pos hmatch, if_pos rfl]
      dsimp only
      cases entry.clusterEntry pickCluster randomValue <;> rfl
    | false =>
      rw [List.find?_cons_of_neg (by simp [hmatch]), if_neg (by simp)]
      exact ih

/-- Where there is something to pick from, the total is positive as soon as one weight is. -/
theorem RouteEntryImpl.Totals.total_pos_iff {route : RouteConfig HeaderMatcher}
    {entry : RouteEntryImpl HeaderMatcher} (h : Totals route entry)
    (hne : entry.weightedClusters ≠ []) :
    route.Selectable ↔ ∃ total, entry.totalClusterWeight = some total ∧ 0 < total := by
  obtain ⟨total, htotal, hsum⟩ := h.total hne
  have hclusters : route.clusterSpecifier.clusters ≠ [] := by
    intro hnil
    have hweights := h.weights
    rw [hnil, List.map_nil, List.map_eq_nil_iff] at hweights
    exact hne hweights
  rw [RouteConfig.Selectable, or_iff_right hclusters, ← sum_map_pos_iff, ← hsum]
  constructor
  · exact fun hpos => ⟨total, htotal, UInt64.lt_iff_toNat_lt.mpr hpos⟩
  · rintro ⟨total', htotal', hpos⟩
    obtain rfl := Option.some.inj (htotal.symm.trans htotal')
    exact UInt64.lt_iff_toNat_lt.mp hpos

theorem RouteEntryImpl.Totals.selectable_of_nil {route : RouteConfig HeaderMatcher}
    {entry : RouteEntryImpl HeaderMatcher} (h : Totals route entry)
    (hnil : entry.weightedClusters = []) : route.Selectable := by
  have hweights := h.weights
  rw [hnil, List.map_nil, eq_comm, List.map_eq_nil_iff] at hweights
  exact Or.inl hweights

/-- A cluster is picked where the route can be selected, and has a weight. -/
theorem RouteEntryImpl.Totals.clusterEntry (hpick : PickCluster.Documented pickCluster)
    {route : RouteConfig HeaderMatcher} {entry : RouteEntryImpl HeaderMatcher}
    (h : Totals route entry) (hselectable : route.Selectable) (randomValue : UInt64) :
    ∃ r, entry.clusterEntry pickCluster randomValue = .ok r ∧
      ∀ cluster, r = .weightedCluster cluster → 0 < cluster.clusterWeight := by
  by_cases hnil : entry.weightedClusters = []
  · exact ⟨.entry entry, by rw [RouteEntryImpl.clusterEntry, if_pos hnil], by rintro _ ⟨⟩⟩
  obtain ⟨total, htotal, hpos⟩ := (h.total_pos_iff hnil).mp hselectable
  obtain ⟨total', htotal', hsum⟩ := h.total hnil
  obtain rfl := Option.some.inj (htotal.symm.trans htotal')
  obtain ⟨cluster, hcluster, hcovers⟩ := hpick.covers entry.weightedClusters total randomValue hpos
    (by rw [h.weights, hsum])
  refine ⟨.weightedCluster cluster, ?_, ?_⟩
  · rw [RouteEntryImpl.clusterEntry, if_neg hnil, htotal]
    dsimp only
    rw [hcluster]
    rfl
  · rintro _ ⟨⟩
    exact UInt64.lt_iff_toNat_lt.mpr hcovers.weight_pos

/-- Route selection is defined, and picks no cluster without a weight, exactly where the first
route that matches can be selected. -/
theorem selects_iff (hpick : PickCluster.Documented pickCluster)
    (config : List (RouteConfig HeaderMatcher)) (routes : List (RouteEntryImpl HeaderMatcher))
    (hnew : RouteMatcherImpl.new config = .ok routes) (metadata : Metadata) (randomValue : UInt64) :
    Selects matchHeaders pickCluster routes metadata randomValue ↔
      ∀ route, config.find? (·.headersMatch matchHeaders metadata) = some route →
        route.Selectable := by
  have hfind : Option.Rel RouteEntryImpl.Totals
      (config.find? (·.headersMatch matchHeaders metadata))
      (routes.find? (·.headersMatch matchHeaders metadata)) :=
        find_totals (forall_totals config hnew)
  have hroute := @route_eq _ matchHeaders pickCluster metadata randomValue routes
  generalize hr : routes.find? (·.headersMatch matchHeaders metadata) = found at hfind hroute
  generalize config.find? (·.headersMatch matchHeaders metadata) = configured at hfind ⊢
  cases hfind with
  | none =>
    refine ⟨by rintro - _ ⟨⟩, fun _ => ⟨?_, ⟨none, hroute⟩, ?_⟩⟩
    · rintro entry hentry
      rw [hr] at hentry
      cases hentry
    · intro cluster hcluster
      rw [hroute] at hcluster
      cases hcluster
  | @some route entry h =>
    dsimp only at hroute
    constructor
    · rintro hselects _ ⟨⟩
      by_cases hnil : entry.weightedClusters = []
      · exact h.selectable_of_nil hnil
      · exact (h.total_pos_iff hnil).mpr (hselects.total_pos entry hr hnil)
    · intro hselectable
      obtain ⟨r, hclusterEntry, hweight⟩ := h.clusterEntry hpick (hselectable route rfl) randomValue
      rw [hclusterEntry] at hroute
      refine ⟨?_, ⟨_, hroute⟩, ?_⟩
      · intro entry' hentry' hne
        rw [hr] at hentry'
        obtain rfl := Option.some.inj hentry'
        exact (h.total_pos_iff hne).mp (hselectable route rfl)
      · intro cluster hcluster
        rw [hroute] at hcluster
        exact hweight cluster (by simpa [Except.map] using hcluster)

end Selection

namespace RouteExample

/-- Envoy's matcher of headers, where a route is given by the headers it asks for. -/
def matchHeaders (headers configured : List (String × String)) : Bool :=
  configured.all (· ∈ headers)

/-- A route for every request, over clusters of these weights. -/
def config (weights : List UInt32) (h : weights.length < 2 ^ 31) :
    List (RouteConfig (String × String)) :=
  [{ metadata := []
     clusterSpecifier := .weightedClusters
       ⟨weights.map fun weight => ⟨"cluster", some weight⟩, by simpa using h⟩ }]

/-- The route over two clusters, as the constructors make it. -/
def routes (first second : UInt64) : List (RouteEntryImpl (String × String)) :=
  [{ totalClusterWeight := some (0 + first + second), clusterName := "", configHeaders := []
     weightedClusters := [⟨"cluster", first⟩, ⟨"cluster", second⟩] }]

end RouteExample

/-- Two clusters, one of them without a weight : the request goes to the other. -/
theorem selects_three :
    Selects RouteExample.matchHeaders WeightedClusterUtil.pickCluster (RouteExample.routes 0 3) {}
      7 := by
  refine (selects_iff WeightedClusterUtil.documented_pickCluster
    (RouteExample.config [0, 3] (by decide)) _ rfl {} 7).mpr ?_
  rintro _ ⟨⟩
  exact Or.inr ⟨⟨"cluster", some 3⟩, by simp [ClusterSpecifier.clusters], by decide⟩

/-- Two clusters of weight zero are accepted by the constructors, and the first request divides
by zero. -/
theorem not_selects_zero :
    RouteMatcherImpl.new (RouteExample.config [0, 0] (by decide)) =
        .ok (RouteExample.routes 0 0) ∧
      RouteMatcherImpl.route RouteExample.matchHeaders WeightedClusterUtil.pickCluster {} 7
          (RouteExample.routes 0 0) = .error (.panic "division by zero in pickCluster") ∧
      ¬Selects RouteExample.matchHeaders WeightedClusterUtil.pickCluster
        (RouteExample.routes 0 0) {} 7 := by
  refine ⟨rfl, rfl, fun h => ?_⟩
  obtain ⟨route, hroute⟩ := h.defined
  cases hroute

end MetaProtocolProxy

import Mathlib.Data.Nat.Periodic
import Mathlib.Order.Interval.Finset.Nat
import MetaProtocolProxy.RouteMatcher

/-!
# The shares of weighted clusters

A route spreads its requests over clusters by their weights (`route.proto`). The random value is
reduced modulo the total, and the cluster is the one whose interval of cumulative weights covers
the remainder. Consecutive values run through the remainders, so among as many of them as the
total every cluster is picked as often as its weight says (`card_coveredIndex`).

With `matchHeaders` the conjunction of the configured matchers, the clusters are those of the
first route whose matchers all match, and there is no result exactly if there is no such route
(`routesExactly`).
-/

open Finset

namespace MetaProtocolProxy

/-! ## The index of an interval -/

section Index

variable {α : Type*} {weight : α → ℕ} {items : List α} {n i : ℕ} {x : α}

variable (weight) in
/-- The position of the interval that covers `n`. -/
def coveredIndex : List α → ℕ → ℕ
  | [], _ => 0
  | x :: items, n => if n < weight x then 0 else coveredIndex items (n - weight x) + 1

theorem coveredIndex_eq_iff : ∀ {items : List α} {n i : ℕ}, items[i]? = some x →
    (coveredIndex weight items n = i ↔ ((items.take i).map weight).sum ≤ n ∧
      n < ((items.take i).map weight).sum + weight x)
  | y :: items, n, 0, h => by
    obtain rfl : y = x := by simpa using h
    by_cases hn : n < weight y
    · simp [coveredIndex, hn]
    · simp [coveredIndex, hn]
  | y :: items, n, i + 1, h => by
    have ih : coveredIndex weight items (n - weight y) = i ↔
        ((items.take i).map weight).sum ≤ n - weight y ∧
          n - weight y < ((items.take i).map weight).sum + weight x :=
      coveredIndex_eq_iff (by simpa using h)
    rw [coveredIndex, List.take_succ_cons, List.map_cons, List.sum_cons]
    by_cases hn : n < weight y
    · rw [if_pos hn]
      omega
    · rw [if_neg hn, Nat.add_right_cancel_iff, ih]
      omega

/-- What covers `n` is at that position. -/
theorem Covers.getElem?_coveredIndex (h : Covers weight items n x) :
    items[coveredIndex weight items n]? = some x := by
  obtain ⟨front, back, rfl, hle, hlt⟩ := h
  have hat : (front ++ x :: back)[front.length]? = some x := by simp
  have hindex : coveredIndex weight (front ++ x :: back) n = front.length := by
    rw [coveredIndex_eq_iff hat, List.take_left]
    exact ⟨hle, hlt⟩
  rw [hindex, hat]

theorem sum_take_add_le (h : items[i]? = some x) :
    ((items.take i).map weight).sum + weight x ≤ (items.map weight).sum := by
  obtain ⟨hi, rfl⟩ := List.getElem?_eq_some_iff.mp h
  have hsplit := congrArg (fun l => (l.map weight).sum) (List.take_append_drop i items)
  rw [List.drop_eq_getElem_cons hi] at hsplit
  simp only [List.map_append, List.map_cons, List.sum_append, List.sum_cons] at hsplit
  omega

/-- Among as many consecutive numbers as the sum of the weights, each interval covers the remainders
of as many as its weight. -/
theorem card_coveredIndex (h : items[i]? = some x) (first : ℕ) :
    ((Ico first (first + (items.map weight).sum)).filter fun r =>
      coveredIndex weight items (r % (items.map weight).sum) = i).card = weight x := by
  have hle : ((items.take i).map weight).sum + weight x ≤ (items.map weight).sum :=
    sum_take_add_le h
  generalize hW : (items.map weight).sum = W at hle ⊢
  rw [Nat.filter_Ico_card_eq_of_periodic first W _ fun r => by simp,
    Nat.count_eq_card_filter_range]
  have hinterval : (range W).filter (fun r => coveredIndex weight items (r % W) = i) =
      Ico ((items.take i).map weight).sum (((items.take i).map weight).sum + weight x) := by
    ext r
    rw [mem_filter, mem_range, mem_Ico]
    constructor
    · rintro ⟨hr, hindex⟩
      rwa [Nat.mod_eq_of_lt hr, coveredIndex_eq_iff h] at hindex
    · intro hr
      have hlt : r < W := by omega
      rw [Nat.mod_eq_of_lt hlt, coveredIndex_eq_iff h]
      exact ⟨hlt, hr⟩
  rw [hinterval, Nat.card_Ico, Nat.add_sub_cancel_left]

end Index

/-! ## The constructors -/

/-- The clusters of a route become its entries, one by one and in order. -/
theorem RouteEntryImpl.forall_addClusters (clusters : List ClusterWeight) :
    ∀ {entries total entries' total'},
      addClusters clusters entries total = .ok (entries', total') →
        ∃ added, entries' = entries ++ added ∧
          List.Forall₂ (fun cluster entry => WeightedClusterEntry.new cluster = .ok entry)
            clusters added := by
  induction clusters with
  | nil =>
    intro entries total entries' total' h
    cases h
    exact ⟨[], by simp, .nil⟩
  | cons cluster clusters ih =>
    intro entries total entries' total' h
    obtain ⟨entry, hentry, hrest⟩ := bind_eq_ok h
    obtain ⟨added, rfl, hadded⟩ := ih hrest
    exact ⟨entry :: added, by simp, .cons hentry hadded⟩

theorem RouteEntryImpl.forall_weightedClusters {HeaderMatcher : Type}
    {route : RouteConfig HeaderMatcher} {entry : RouteEntryImpl HeaderMatcher}
    (h : new route = .ok entry) :
    List.Forall₂ (fun cluster entry => WeightedClusterEntry.new cluster = .ok entry)
      route.clusterSpecifier.clusters entry.weightedClusters := by
  unfold new at h
  split at h
  case h_1 hs =>
    cases h
    rw [hs]
    exact .nil
  case h_2 name hs =>
    cases h
    rw [hs]
    exact .nil
  case h_3 w hs =>
    obtain ⟨⟨entries, total⟩, hadd, hentry⟩ := bind_eq_ok h
    cases hentry
    obtain ⟨added, rfl, hadded⟩ := forall_addClusters w.clusters hadd
    rw [hs]
    exact hadded

/-! ## Routing -/

section Routing

variable {HeaderMatcher : Type}

/-- `HeaderUtility::matchHeaders` is the conjunction of the configured matchers. -/
def MatchHeaders.Documented (matchHeaders : List (String × String) → List HeaderMatcher → Bool)
    (headerMatches : List (String × String) → HeaderMatcher → Bool) : Prop :=
  ∀ headers configured, matchHeaders headers configured = configured.all (headerMatches headers)

namespace RouteConfig

/-- The sum of the weights of a route. -/
def totalWeight (route : RouteConfig HeaderMatcher) : ℕ :=
  (route.clusterSpecifier.clusters.map ClusterWeight.toNat).sum

/-- The position of the cluster that a random value picks. -/
def picked (route : RouteConfig HeaderMatcher) (randomValue : ℕ) : ℕ :=
  coveredIndex ClusterWeight.toNat route.clusterSpecifier.clusters
    (randomValue % route.totalWeight)

/-- All matchers of the route match. -/
def Matches (headerMatches : List (String × String) → HeaderMatcher → Bool) (metadata : Metadata)
    (route : RouteConfig HeaderMatcher) : Bool :=
  route.metadata.all (headerMatches metadata.headers)

end RouteConfig

/-- What is asked of `route`, as a function of the random value, for a list of routes. -/
structure RoutesExactly (headerMatches : List (String × String) → HeaderMatcher → Bool)
    (config : List (RouteConfig HeaderMatcher)) (metadata : Metadata)
    (route : UInt64 → Except Fault (Option (Route HeaderMatcher))) : Prop where
  /-- The result is the picked cluster of the first route that matches. -/
  weighted : ∀ first, config.find? (·.Matches headerMatches metadata) = some first →
    0 < first.totalWeight → ∀ randomValue : UInt64, ∃ cluster entry,
      first.clusterSpecifier.clusters[first.picked randomValue.toNat]? = some cluster ∧
      WeightedClusterEntry.new cluster = .ok entry ∧
      route randomValue = .ok (some (.weightedCluster entry))
  /-- Among as many consecutive random values as the total, a cluster is picked as often as its
  weight says. -/
  shares : ∀ first, config.find? (·.Matches headerMatches metadata) = some first →
    ∀ start, start + first.totalWeight ≤ 2 ^ 64 → ∀ i cluster,
      first.clusterSpecifier.clusters[i]? = some cluster →
      ((Ico start (start + first.totalWeight)).filter fun randomValue =>
        first.picked (UInt64.ofNat randomValue).toNat = i).card = cluster.toNat
  unweighted : ∀ first, config.find? (·.Matches headerMatches metadata) = some first →
    first.clusterSpecifier.clusters = [] → ∃ entry, RouteEntryImpl.new first = .ok entry ∧
      ∀ randomValue, route randomValue = .ok (some (.entry entry))
  null : ∀ randomValue, route randomValue = .ok none ↔
    ∀ r ∈ config, ∃ matcher ∈ r.metadata, headerMatches metadata.headers matcher = false

variable {matchHeaders : List (String × String) → List HeaderMatcher → Bool}
  {headerMatches : List (String × String) → HeaderMatcher → Bool}
  {pickCluster : List WeightedClusterEntry → UInt64 → UInt64 → Except Fault WeightedClusterEntry}

theorem RouteConfig.headersMatch_eq (h : MatchHeaders.Documented matchHeaders headerMatches)
    (metadata : Metadata) (route : RouteConfig HeaderMatcher) :
    route.headersMatch matchHeaders metadata = route.Matches headerMatches metadata := by
  rw [headersMatch, h, Matches]
  cases route.metadata <;> simp

/-- The walk over the entries is the walk over the configured clusters. -/
theorem coveredIndex_entries {clusters : List ClusterWeight} {entries : List WeightedClusterEntry}
    (h : List.Forall₂ (fun cluster entry => WeightedClusterEntry.new cluster = .ok entry) clusters
      entries) (n : ℕ) : coveredIndex (·.clusterWeight.toNat) entries n =
        coveredIndex ClusterWeight.toNat clusters n := by
  induction h generalizing n with
  | nil => rfl
  | cons hentry _ ih => rw [coveredIndex, coveredIndex, WeightedClusterEntry.new_eq_ok hentry, ih]

/-- A cluster has its share of as many consecutive random values as the total. -/
theorem RouteConfig.card_picked (route : RouteConfig HeaderMatcher) {start : ℕ}
    (hstart : start + route.totalWeight ≤ 2 ^ 64) {i : ℕ} {cluster : ClusterWeight}
    (hi : route.clusterSpecifier.clusters[i]? = some cluster) :
    ((Ico start (start + route.totalWeight)).filter fun randomValue =>
      route.picked (UInt64.ofNat randomValue).toNat = i).card = cluster.toNat := by
  rw [← @card_coveredIndex _ ClusterWeight.toNat _ _ _ hi start]
  refine congrArg Finset.card (Finset.filter_congr fun randomValue hmem => ?_)
  have hlt : randomValue < 2 ^ 64 := by
    rw [mem_Ico] at hmem
    omega
  rw [UInt64.toNat_ofNat_of_lt' hlt]
  rfl

/-- Where the total is positive, the entry of the picked cluster is the result. -/
theorem RouteEntryImpl.clusterEntry_picked (hpick : PickCluster.Documented pickCluster)
    {route : RouteConfig HeaderMatcher} {entry : RouteEntryImpl HeaderMatcher}
    (h : new route = .ok entry) (hpos : 0 < route.totalWeight) (randomValue : UInt64) :
    ∃ cluster picked,
      route.clusterSpecifier.clusters[route.picked randomValue.toNat]? = some cluster ∧
      WeightedClusterEntry.new cluster = .ok picked ∧
      entry.clusterEntry pickCluster randomValue = .ok (.weightedCluster picked) := by
  have htotals := totals_new h
  have hforall := forall_weightedClusters h
  have hne : entry.weightedClusters ≠ [] := by
    intro hnil
    rw [hnil] at hforall
    rw [RouteConfig.totalWeight, List.forall₂_nil_right_iff.mp hforall] at hpos
    exact absurd hpos (Nat.lt_irrefl 0)
  obtain ⟨total, htotal, hsum⟩ := htotals.total hne
  have hpos' : 0 < total := UInt64.lt_iff_toNat_lt.mpr (hsum ▸ hpos)
  obtain ⟨picked, hpicked, hcovers⟩ := hpick.covers entry.weightedClusters total randomValue hpos'
    (by rw [htotals.weights, hsum])
  have hat := hcovers.getElem?_coveredIndex
  rw [coveredIndex_entries hforall, hsum] at hat
  obtain ⟨hlt, hpicked'⟩ := List.getElem?_eq_some_iff.mp hat
  obtain ⟨hlength, hget⟩ := List.forall₂_iff_get.mp hforall
  refine ⟨_, picked, List.getElem?_eq_getElem (hlength ▸ hlt), ?_, ?_⟩
  · have hnew := hget _ (hlength ▸ hlt) hlt
    rw [← hpicked']
    exact hnew
  · rw [clusterEntry, if_neg hne, htotal]
    dsimp only
    rw [hpicked]
    rfl

/-- Every route list that the constructors accept is routed by exactly. -/
theorem routesExactly (hmatch : MatchHeaders.Documented matchHeaders headerMatches)
    (hpick : PickCluster.Documented pickCluster) {config : List (RouteConfig HeaderMatcher)}
    {routes : List (RouteEntryImpl HeaderMatcher)} (hnew : RouteMatcherImpl.new config = .ok routes)
    (metadata : Metadata) :
    RoutesExactly headerMatches config metadata fun randomValue =>
      RouteMatcherImpl.route matchHeaders pickCluster metadata randomValue routes := by
  have hfind : Option.Rel (fun route entry => RouteEntryImpl.new route = .ok entry)
      (config.find? (·.headersMatch matchHeaders metadata))
      (routes.find? (·.headersMatch matchHeaders metadata)) :=
    find_of_forall (fun h => (RouteEntryImpl.totals_new h).configHeaders) (forall_new config hnew)
  simp only [RouteConfig.headersMatch_eq hmatch] at hfind
  have hroute := fun randomValue => @route_eq _ matchHeaders pickCluster metadata randomValue routes
  generalize hr : routes.find? (·.headersMatch matchHeaders metadata) = found at hfind hroute
  have hfound : ∀ first, config.find? (·.Matches headerMatches metadata) = some first →
      ∃ entry, found = some entry ∧ RouteEntryImpl.new first = .ok entry := by
    intro first hfirst
    rw [hfirst] at hfind
    cases hfind with
    | some h => exact ⟨_, rfl, h⟩
  refine ⟨fun first hfirst hpos randomValue => ?_,
    fun first _ start hstart i cluster hi => first.card_picked hstart hi,
    fun first hfirst hnil => ?_, fun randomValue => ?_⟩
  · obtain ⟨entry, rfl, hentry⟩ := hfound first hfirst
    obtain ⟨cluster, picked, hcluster, hpicked, heq⟩ :=
      RouteEntryImpl.clusterEntry_picked hpick hentry hpos randomValue
    refine ⟨cluster, picked, hcluster, hpicked, ?_⟩
    rw [hroute]
    dsimp only
    rw [heq]
    rfl
  · obtain ⟨entry, rfl, hentry⟩ := hfound first hfirst
    have hclusters := RouteEntryImpl.forall_weightedClusters hentry
    rw [hnil, List.forall₂_nil_left_iff] at hclusters
    refine ⟨entry, hentry, fun randomValue => ?_⟩
    rw [hroute]
    dsimp only
    rw [RouteEntryImpl.clusterEntry, if_pos hclusters]
    rfl
  · have hnone : config.find? (·.Matches headerMatches metadata) = none ↔
        ∀ r ∈ config, ∃ matcher ∈ r.metadata, headerMatches metadata.headers matcher = false := by
      simp [RouteConfig.Matches]
    rw [hroute, ← hnone]
    generalize config.find? (·.Matches headerMatches metadata) = configured at hfind
    cases hfind with
    | none => exact ⟨fun _ => rfl, fun _ => rfl⟩
    | @some first entry h =>
      refine iff_of_false ?_ (by simp)
      dsimp only
      cases entry.clusterEntry pickCluster randomValue with
      | error fault => exact fun h => by cases h
      | ok route => exact fun h => by cases h

end Routing

namespace RouteExample

/-- A route for one interface over two clusters, and a route for every other request. -/
def byInterface : List (RouteConfig (String × String)) :=
  [{ metadata := [("interface", "S")]
     clusterSpecifier := .weightedClusters ⟨[⟨"a", some 1⟩, ⟨"b", some 3⟩], by decide⟩ },
    { metadata := [], clusterSpecifier := .cluster "c" }]

end RouteExample

/-- The requests of one interface go to `a` and `b`, one to three. -/
theorem routesExactly_byInterface :
    RoutesExactly (fun headers header => decide (header ∈ headers)) RouteExample.byInterface
      { headers := [("interface", "S")] } fun randomValue =>
        RouteMatcherImpl.route RouteExample.matchHeaders WeightedClusterUtil.pickCluster
          { headers := [("interface", "S")] } randomValue
          [{ totalClusterWeight := some 4, clusterName := "", configHeaders := [("interface", "S")]
             weightedClusters := [⟨"a", 1⟩, ⟨"b", 3⟩] },
            { clusterName := "c", configHeaders := [] }] :=
  routesExactly (fun _ _ => rfl) WeightedClusterUtil.documented_pickCluster rfl _

end MetaProtocolProxy

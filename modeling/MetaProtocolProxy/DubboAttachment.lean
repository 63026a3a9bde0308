import MetaProtocolProxy.CompactHessian2
import MetaProtocolProxy.MetadataViews

/-!
# The attachment of an invocation

`RpcInvocationImpl::Attachment` (`message_impl.cc`) keeps the map that was decoded, and beside it
a header map of its strings, so that the matchers of headers can be used on it. `insert` and
`remove` change both, by different rules : `emplace` keeps the entry of a key that is there, and
the header is removed and added again.

So `lookup` gives what was there first since the key was last absent (`lookup_run`), the headers
what was inserted last (`headerValues_run`), and the two agree exactly where these are the same
(`viewsAgree_iff`).
-/

namespace MetaProtocolProxy

/-! ## Keys that are inserted and removed -/

/-- A change of a map. -/
inductive Update (κ β : Type*) where
  | insert (key : κ) (value : β)
  | remove (key : κ)
deriving DecidableEq

namespace Update

variable {κ β : Type*} [DecidableEq κ]

/-- The key that an update is about. -/
def key : Update κ β → κ
  | .insert key _ => key
  | .remove key => key

/-- The value of a key after an update that replaces what is there. -/
def replace (key : κ) (held : Option β) : Update κ β → Option β
  | .insert key' value => if key = key' then some value else held
  | .remove key' => if key = key' then none else held

/-- The value of a key after an update that keeps what is there. -/
def keep (key : κ) (held : Option β) : Update κ β → Option β
  | .insert key' value => if key = key' then held.or (some value) else held
  | .remove key' => if key = key' then none else held

/-- For every key, what was there first since the key was last absent is what was inserted last. -/
def Steady (initial : κ → Option β) (updates : List (Update κ β)) : Prop :=
  ∀ key, updates.foldl (keep key) (initial key) = updates.foldl (replace key) (initial key)

end Update

namespace Dubbo

variable {Object : Type} {objects : Hessian2.Objects Object}

/-! ## The attachment -/

/-- `RpcInvocationImpl::Attachment`. -/
structure Attachment (objects : Hessian2.Objects Object) where
  attachmentUpdated : Bool := false
  attachment : UntypedMap objects.toString
  attachmentOffset : ℕ
  headers : List (String × String)

namespace Attachment

/-- The header of an entry of two strings. -/
def header (toString : Object → Option String) (e : Object × Object) : Option (String × String) :=
  match toString e.1, toString e.2 with
  | some key, some value => some (key.toLower, value)
  | _, _ => none

/-- The constructor. -/
def new (value : UntypedMap objects.toString) (offset : ℕ) : Attachment objects where
  attachment := value
  attachmentOffset := offset
  headers := value.entries.filterMap (header objects.toString)

/-- `AttachmentImpl::insert` : the map keeps a value that is there, and the headers do not. -/
def insert (key value : String) (a : Attachment objects) : Attachment objects :=
  { a with
    attachmentUpdated := true
    attachment := a.attachment.emplace key value
    headers := a.headers.filter (fun h => h.1 ≠ key.toLower) ++ [(key.toLower, value)] }

/-- `AttachmentImpl::remove`. -/
def remove (key : String) (a : Attachment objects) : Attachment objects :=
  { a with
    attachmentUpdated := true
    attachment := a.attachment.erase key
    headers := a.headers.filter fun h => h.1 ≠ key.toLower }

/-- `AttachmentImpl::lookup`. -/
def lookup (key : String) (a : Attachment objects) : Option String :=
  a.attachment.lookup key

/-- One of the two calls. -/
def update (a : Attachment objects) : Update String String → Attachment objects
  | .insert key value => a.insert key value
  | .remove key => a.remove key

/-- A decoded map of strings, with keys in lower case, after a sequence of calls. -/
def run (a : Attachment objects) (updates : List (Update String String)) : Attachment objects :=
  updates.foldl update a

/-- The entries of a map are strings, with keys in lower case. -/
def Lowered (map : UntypedMap objects.toString) : Prop :=
  ∀ e ∈ map.entries, ∃ key value, objects.toString e.1 = some key ∧
    objects.toString e.2 = some value ∧ key.toLower = key

theorem Lowered.stringValues {map : UntypedMap objects.toString} (h : Lowered map) :
    map.StringValues := by
  intro e he
  obtain ⟨key, value, -, hvalue, -⟩ := h e he
  rw [hvalue]
  rfl

/-- The headers of a decoded map hold one value for each of its keys. -/
theorem headerValues_new {map : UntypedMap objects.toString} (h : Lowered map) (offset : ℕ)
    (key : String) : headerValues (new map offset).headers key = (map.lookup key).toList := by
  obtain ⟨entries, distinct⟩ := map
  change headerValues (entries.filterMap (header objects.toString)) key =
    ((entries.find? fun e => objects.toString e.1 = some key).bind
      fun e => objects.toString e.2).toList
  replace h : ∀ e ∈ entries, ∃ key value, objects.toString e.1 = some key ∧
    objects.toString e.2 = some value ∧ key.toLower = key := h
  induction entries with
  | nil => rfl
  | cons e entries ih =>
    obtain ⟨hhead, htail⟩ := List.pairwise_cons.mp distinct
    obtain ⟨key', value, hkey, hvalue, hlower⟩ := h e List.mem_cons_self
    have hrest := ih htail fun e' he' => h e' (List.mem_cons_of_mem _ he')
    have hheader : header objects.toString e = some (key', value) := by
      rw [header, hkey, hvalue]
      exact congrArg (fun k => some (k, value)) hlower
    rw [List.filterMap_cons_some hheader]
    by_cases hsame : key' = key
    · have hnone : entries.find? (fun e => objects.toString e.1 = some key) = none := by
        rw [List.find?_eq_none]
        intro e' he'
        simpa using hhead e' he' key (hsame ▸ hkey)
      rw [hnone] at hrest
      rw [List.find?_cons_of_pos (by simpa using hsame ▸ hkey), Option.bind_some, hvalue,
        headerValues, List.filter_cons_of_pos (by simpa using hsame), List.map_cons,
        ← headerValues, hrest]
      rfl
    · rw [List.find?_cons_of_neg (by simpa [hkey] using hsame), headerValues,
        List.filter_cons_of_neg (by simpa using hsame), ← headerValues, hrest]

section Run

variable {a : Attachment objects} {updates : List (Update String String)}

theorem run_append_singleton (a : Attachment objects) (updates : List (Update String String))
    (u : Update String String) : a.run (updates ++ [u]) = (a.run updates).update u := by
  rw [run, List.foldl_append]
  rfl

theorem stringValues_run (h : a.attachment.StringValues) (updates : List (Update String String)) :
    (a.run updates).attachment.StringValues := by
  induction updates using List.reverseRecOn with
  | nil => exact h
  | append_singleton updates u ih =>
    rw [run_append_singleton]
    cases u with
    | insert key value => exact ih.emplace key value
    | remove key => exact ih.erase key

/-- `lookup` gives what was there first since the key was last absent. -/
theorem lookup_run (h : a.attachment.StringValues) (updates : List (Update String String))
    (key : String) :
    (a.run updates).lookup key = updates.foldl (Update.keep key) (a.lookup key) := by
  induction updates using List.reverseRecOn with
  | nil => rfl
  | append_singleton updates u ih =>
    rw [run_append_singleton, List.foldl_append, ← ih, List.foldl_cons, List.foldl_nil]
    cases u with
    | insert key' value => exact UntypedMap.lookup_emplace (stringValues_run h updates) _ _ _
    | remove key' => exact UntypedMap.lookup_erase _ _ _

/-- The headers hold what was inserted last. -/
theorem headerValues_run (hlower : ∀ u ∈ updates, u.key.toLower = u.key) {key : String}
    {held : Option String} (h : headerValues a.headers key = held.toList) :
    headerValues (a.run updates).headers key =
      (updates.foldl (Update.replace key) held).toList := by
  induction updates using List.reverseRecOn with
  | nil => exact h
  | append_singleton updates u ih =>
    have hkey : u.key.toLower = u.key := hlower u (by simp)
    have hbefore := ih fun u hu => hlower u (List.mem_append_left _ hu)
    rw [run_append_singleton, List.foldl_append, List.foldl_cons, List.foldl_nil]
    cases u with
    | insert key' value =>
      replace hkey : key'.toLower = key' := hkey
      rw [update, insert, hkey, headerValues_replace, hbefore, Update.replace]
      split <;> rfl
    | remove key' =>
      replace hkey : key'.toLower = key' := hkey
      rw [update, remove, hkey, headerValues_remove, hbefore, Update.replace]
      split <;> rfl

end Run

/-- After a sequence of calls on a decoded map, `lookup` and the headers give what was inserted
last for every key, or what was decoded. -/
def ViewsAgree (map : UntypedMap objects.toString) (offset : ℕ)
    (updates : List (Update String String)) : Prop :=
  ∀ key,
    ((new map offset).run updates).lookup key =
        updates.foldl (Update.replace key) (map.lookup key) ∧
      headerValues ((new map offset).run updates).headers key =
        (updates.foldl (Update.replace key) (map.lookup key)).toList

/-- The two views agree exactly where no key is inserted last with another value than the first
since it was last absent. -/
theorem viewsAgree_iff {map : UntypedMap objects.toString} (h : Lowered map) (offset : ℕ)
    {updates : List (Update String String)} (hlower : ∀ u ∈ updates, u.key.toLower = u.key) :
    ViewsAgree map offset updates ↔ Update.Steady (fun key => map.lookup key) updates := by
  refine forall_congr' fun key => ?_
  rw [lookup_run h.stringValues]
  exact and_iff_left (headerValues_run hlower (headerValues_new h offset key))

/-- A decoded map with a group. -/
def groupMap : UntypedMap Hessian2.compactObjects.toString :=
  @UntypedMap.emplace _ Hessian2.compactObjects "group" "a" {}

theorem lowered_groupMap : Lowered groupMap := by
  intro e he
  obtain rfl : e = (.string "group", .string "a") := List.mem_singleton.mp he
  exact ⟨"group", "a", rfl, rfl, by decide +kernel⟩

/-- A group is removed and inserted again. -/
theorem viewsAgree_group : ViewsAgree groupMap 40 [.remove "group", .insert "group" "b"] := by
  refine (viewsAgree_iff lowered_groupMap 40 (by decide +kernel)).mpr fun key => ?_
  by_cases hkey : key = "group"
  · rw [hkey]
    rfl
  · simp [Update.keep, Update.replace, hkey]

/-- A group is inserted over the one that was decoded : `lookup` keeps the old one, and the
headers hold the new one. -/
theorem not_viewsAgree_group :
    ((new groupMap 40).run [.insert "group" "b"]).lookup "group" = some "a" ∧
      headerValues ((new groupMap 40).run [.insert "group" "b"]).headers "group" = ["b"] ∧
      ¬ViewsAgree groupMap 40 [.insert "group" "b"] := by
  refine ⟨by decide +kernel, by decide +kernel, fun h => ?_⟩
  have hlookup := (h "group").1
  revert hlookup
  decide +kernel

end Attachment

end Dubbo

end MetaProtocolProxy

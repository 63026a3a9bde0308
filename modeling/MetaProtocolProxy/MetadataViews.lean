import Mathlib.Data.List.Induction
import MetaProtocolProxy.Codec

/-!
# The two views of the metadata

A string that a codec puts into a `MetadataImpl` is seen by the filters, which read the
properties, and by the routes, which read the headers (`codec_impl.h`). Both are written
by one `putString`, and by different rules : a property that is there keeps its value
(`std::map::insert`), and a header is removed and added again.

So the properties hold what was put first for a key (`get_putAll`), the headers what was
put last (`header_putStrings`), and the views agree exactly on the sequences in which
these are the same for every key (`agree_iff`).
-/

namespace MetaProtocolProxy

/-! ## The first and the last of a key -/

section Puts

variable {κ β : Type*} [DecidableEq κ]

/-- What was put last for a key. -/
def lastPut (puts : List (κ × β)) (key : κ) : Option β :=
  puts.reverse.lookup key

/-- For every key the first value is the last one. -/
def Steady (puts : List (κ × β)) : Prop :=
  ∀ key, puts.lookup key = lastPut puts key

@[simp] theorem lastPut_nil (key : κ) : lastPut ([] : List (κ × β)) key = none :=
  rfl

theorem lastPut_append_singleton (puts : List (κ × β)) (put : κ × β) (key : κ) :
    lastPut (puts ++ [put]) key = if key = put.1 then some put.2 else lastPut puts key := by
  rw [lastPut, List.reverse_append, List.reverse_singleton, List.singleton_append]
  obtain ⟨key', value⟩ := put
  by_cases hkey : key = key'
  · rw [if_pos hkey, hkey, List.lookup_cons_self]
  · have hbeq : (key == key') = false := by simpa using hkey
    rw [if_neg hkey, List.lookup_cons, hbeq, lastPut]

/-- A key has a last value as soon as it has a first one. -/
theorem lastPut_eq_none_iff (puts : List (κ × β)) (key : κ) :
    lastPut puts key = none ↔ puts.lookup key = none := by
  simp only [lastPut, List.lookup_eq_none_iff, List.mem_reverse]

end Puts

/-! ## Headers -/

/-- The values a header map holds for a key. -/
def headerValues (headers : List (String × String)) (key : String) : List String :=
  (headers.filter fun h => h.1 = key).map (·.2)

/-- `remove` leaves no value of its key, and the other keys as they were. -/
theorem headerValues_remove (headers : List (String × String)) (key key' : String) :
    headerValues (headers.filter fun h => h.1 ≠ key) key' =
      if key' = key then [] else headerValues headers key' := by
  simp only [headerValues, List.filter_filter]
  by_cases hkey : key' = key
  · have hnone :
        headers.filter (fun h => decide (h.1 = key') && decide (h.1 ≠ key)) = [] := by
      rw [List.filter_eq_nil_iff]
      intro h _
      simp [hkey]
    rw [if_pos hkey, hnone, List.map_nil]
  · have hsame : ∀ h : String × String,
        (decide (h.1 = key') && decide (h.1 ≠ key)) = decide (h.1 = key') := by
      intro h
      by_cases hh : h.1 = key'
      · simp [hh, hkey]
      · simp [hh]
    rw [if_neg hkey, funext hsame]

/-- `remove` and `addCopy` leave one value of their key, and the other keys as they were. -/
theorem headerValues_replace (headers : List (String × String)) (key value key' : String) :
    headerValues (headers.filter (fun h => h.1 ≠ key) ++ [(key, value)]) key' =
      if key' = key then [value] else headerValues headers key' := by
  rw [headerValues, List.filter_append, List.map_append, ← headerValues, headerValues_remove]
  by_cases hkey : key' = key
  · simp [hkey]
  · simp [hkey, Ne.symm hkey]

/-! ## Properties -/

namespace Properties

/-- A fresh `PropertiesImpl` after a sequence of `put`. -/
def putAll (puts : List (String × AnyValue)) : Properties :=
  puts.foldl (fun properties put => properties.put put.1 put.2) []

/-- The properties hold what was put first. -/
theorem get_putAll (puts : List (String × AnyValue)) (key : String) :
    (putAll puts).get key = puts.lookup key := by
  induction puts using List.reverseRecOn with
  | nil => rfl
  | append_singleton puts put ih =>
    rw [putAll, List.foldl_append, ← putAll, List.foldl_cons, List.foldl_nil, get_put, ih,
      List.lookup_append]
    obtain ⟨key', value⟩ := put
    by_cases hkey : key = key'
    · rw [if_pos hkey, hkey, List.lookup_cons_self]
    · have hbeq : (key == key') = false := by simpa using hkey
      rw [if_neg hkey, List.lookup_cons, hbeq, List.lookup_nil]

/-- `get` returns what was put last. -/
def Latest (puts : List (String × AnyValue)) : Prop :=
  ∀ key, (putAll puts).get key = lastPut puts key

end Properties

/-! ## Metadata -/

namespace Metadata

/-- A fresh `MetadataImpl` after a sequence of `putString`. -/
def putStrings (puts : List (String × String)) : Metadata :=
  puts.foldl (fun metadata put => metadata.putString put.1 put.2) {}

/-- The values the headers hold for a key. -/
def header (metadata : Metadata) (key : String) : List String :=
  (metadata.headers.filter fun h => h.1 = key).map (·.2)

theorem putStrings_append_singleton (puts : List (String × String)) (put : String × String) :
    putStrings (puts ++ [put]) = (putStrings puts).putString put.1 put.2 := by
  rw [putStrings, List.foldl_append, ← putStrings, List.foldl_cons, List.foldl_nil]

/-- The properties of the metadata are the strings that were put, by the rule of `put`. -/
theorem properties_putStrings (puts : List (String × String)) :
    (putStrings puts).properties =
      Properties.putAll (puts.map fun put => (put.1, .string put.2)) := by
  induction puts using List.reverseRecOn with
  | nil => rfl
  | append_singleton puts put ih =>
    rw [putStrings_append_singleton, List.map_append, Properties.putAll, List.foldl_append,
      ← Properties.putAll, ← ih]
    rfl

theorem lookup_map_string (puts : List (String × String)) (key : String) :
    (puts.map fun put => (put.1, AnyValue.string put.2)).lookup key =
      (puts.lookup key).map .string := by
  induction puts with
  | nil => rfl
  | cons put puts ih =>
    rw [List.map_cons, List.lookup_cons, List.lookup_cons, ih]
    cases key == put.1 <;> rfl

theorem get_putStrings (puts : List (String × String)) (key : String) :
    (putStrings puts).get key = (puts.lookup key).map .string := by
  rw [get, properties_putStrings, Properties.get_putAll, lookup_map_string]

/-- `putString` leaves one value of its key. -/
theorem header_putString (metadata : Metadata) (key value key' : String) :
    (metadata.putString key value).header key' =
      if key' = key.toLower then [value] else metadata.header key' :=
  headerValues_replace metadata.headers key.toLower value key'

/-- The headers hold what was put last. -/
theorem header_putStrings (puts : List (String × String))
    (hlower : ∀ put ∈ puts, put.1.toLower = put.1) (key : String) :
    (putStrings puts).header key = (lastPut puts key).toList := by
  induction puts using List.reverseRecOn with
  | nil => rfl
  | append_singleton puts put ih =>
    have hput : put.1.toLower = put.1 := hlower put (by simp)
    rw [putStrings_append_singleton, header_putString, lastPut_append_singleton, hput,
      ih fun put hmem => hlower put (List.mem_append_left _ hmem)]
    split <;> rfl

/-- `getString`, the headers and the sequence itself give the same value for every key. -/
structure Agree (puts : List (String × String)) : Prop where
  getString : ∀ key value, lastPut puts key = some value →
    (putStrings puts).getString key = .ok value
  header : ∀ key value, lastPut puts key = some value → (putStrings puts).header key = [value]
  absent : ∀ key, lastPut puts key = none →
    (putStrings puts).get key = none ∧ (putStrings puts).header key = []

theorem getString_putStrings (puts : List (String × String)) (key : String) :
    (putStrings puts).getString key = .ok ((puts.lookup key).getD "") := by
  have hget : (putStrings puts).properties.get key = (puts.lookup key).map .string :=
    get_putStrings puts key
  rw [getString, Properties.getString, hget]
  cases puts.lookup key <;> rfl

theorem agree_iff_steady (puts : List (String × String))
    (hlower : ∀ put ∈ puts, put.1.toLower = put.1) : Agree puts ↔ Steady puts := by
  constructor
  · intro h key
    cases hlast : lastPut puts key with
    | none => exact (lastPut_eq_none_iff puts key).mp hlast
    | some value =>
      have hstring := h.getString key value hlast
      rw [getString_putStrings] at hstring
      cases hfirst : puts.lookup key with
      | none =>
        rw [(lastPut_eq_none_iff puts key).mpr hfirst] at hlast
        cases hlast
      | some first =>
        rw [hfirst] at hstring
        exact congrArg some (Except.ok.inj hstring)
  · intro h
    refine ⟨fun key value hlast => ?_, fun key value hlast => ?_, fun key hlast => ⟨?_, ?_⟩⟩
    · rw [getString_putStrings, h key, hlast]
      rfl
    · rw [header_putStrings puts hlower, hlast]
      rfl
    · rw [get_putStrings, h key, hlast]
      rfl
    · rw [header_putStrings puts hlower, hlast]
      rfl

/-- The two views, and the properties on their own, follow the last put exactly where no key is
put last with another value than first. -/
theorem agree_iff (puts : List (String × String)) (values : List (String × AnyValue))
    (hlower : ∀ put ∈ puts, put.1.toLower = put.1) :
    Agree puts ∧ Properties.Latest values ↔ Steady puts ∧ Steady values := by
  refine and_congr (agree_iff_steady puts hlower) (forall_congr' fun key => ?_)
  rw [Properties.get_putAll]

/-- A key that is put again with the value it has. -/
theorem agree_interface :
    Agree [("interface", "S"), ("method", "m"), ("interface", "S")] ∧
      Properties.Latest [("TwoWay", .bool true)] :=
  (agree_iff _ _ (by decide +kernel)).mpr ⟨fun _ => rfl, fun _ => rfl⟩

/-- After a second `putString` the routes see the new value, and the filters the old one. -/
theorem not_agree_interface :
    (putStrings [("interface", "S"), ("interface", "T")]).getString "interface" = .ok "S" ∧
      (putStrings [("interface", "S"), ("interface", "T")]).header "interface" = ["T"] ∧
      ¬Agree [("interface", "S"), ("interface", "T")] := by
  refine ⟨rfl, by decide +kernel, fun h => ?_⟩
  have hstring : Except.ok "S" = (Except.ok "T" : Except Fault String) :=
    h.getString "interface" "T" rfl
  exact absurd (Except.ok.inj hstring) (by decide)

end Metadata

end MetaProtocolProxy

import MetaProtocolProxy.DubboProtocol

/-!
# Hessian2 objects

The parameters and the attachment of a request are objects of the Hessian2 library, which is a
parameter : `Hessian2.Objects` reads them, tells a string and an untyped map from the rest, and
makes an object of a string.

An untyped map is an `unordered_map` that compares its keys by value, so no two of its entries
have the same string for a key, and `emplace` keeps the entry of a key that is there.
-/

namespace MetaProtocolProxy.Dubbo

/-! ## Untyped maps -/

section Maps

variable {Object : Type}

/-- No two entries have the same string for a key. -/
def DistinctKeys (toString : Object → Option String) (entries : List (Object × Object)) : Prop :=
  entries.Pairwise fun e e' => ∀ key, toString e.1 = some key → toString e'.1 ≠ some key

/-- `UntypedMapObject`, in the order in which it is iterated. -/
structure UntypedMap (toString : Object → Option String) where
  entries : List (Object × Object) := []
  distinct : DistinctKeys toString entries := by exact .nil

end Maps

/-! ## The library -/

/-- The objects of the Hessian2 library, for the calls the proxy makes. -/
structure Hessian2.Objects (Object : Type) where
  decodeObject : Bytes → Option Object × ℕ
  ofString : String → Object
  /-- Nothing, for an object that is no string. -/
  toString : Object → Option String
  /-- Nothing, for an object that is no untyped map. -/
  toUntypedMap : Object → Option (UntypedMap toString)
  toString_ofString : ∀ value, toString (ofString value) = some value

variable {Object : Type} {objects : Hessian2.Objects Object}

namespace UntypedMap

variable {toString : Object → Option String}

/-- `find` of a string. -/
def find (key : String) (map : UntypedMap toString) : Option (Object × Object) :=
  map.entries.find? fun e => toString e.1 = some key

/-- `erase` of a string. -/
def erase (key : String) (map : UntypedMap toString) : UntypedMap toString where
  entries := map.entries.filter fun e => toString e.1 ≠ some key
  distinct := map.distinct.filter _

theorem find_eq_none_iff {key : String} {map : UntypedMap toString} :
    map.find key = none ↔ ∀ e ∈ map.entries, toString e.1 ≠ some key := by
  simp [find]

/-- A key that is not found is distinct from those that are there. -/
theorem distinct_append {map : UntypedMap toString} {key : String} (h : map.find key = none)
    {e : Object × Object} (he : toString e.1 = some key) :
    DistinctKeys toString (map.entries ++ [e]) := by
  refine List.pairwise_append.mpr ⟨map.distinct, List.pairwise_singleton _ _, ?_⟩
  intro e' he' e'' he'' key' hkey'
  rw [List.mem_singleton.mp he'', he]
  rintro ⟨⟩
  exact find_eq_none_iff.mp h e' he' hkey'

/-- A key that is there keeps its entry. -/
def emplaceEntry (key : String) (e : Object × Object) (he : toString e.1 = some key)
    (map : UntypedMap toString) : UntypedMap toString :=
  match h : map.find key with
  | some _ => map
  | none => { entries := map.entries ++ [e], distinct := distinct_append h he }

/-- `emplace` of two strings. -/
def emplace (key value : String) (map : UntypedMap objects.toString) :
    UntypedMap objects.toString :=
  map.emplaceEntry key (objects.ofString key, objects.ofString value)
    (objects.toString_ofString key)

/-- The string of a key, if both it and the value are strings. -/
def lookup (key : String) (map : UntypedMap toString) : Option String :=
  (map.find key).bind fun e => toString e.2

theorem lookup_erase (key key' : String) (map : UntypedMap toString) :
    (map.erase key).lookup key' = if key' = key then none else map.lookup key' := by
  by_cases hkey : key' = key
  · have hnone : (map.erase key).find key' = none := by
      rw [find_eq_none_iff, hkey]
      intro e he
      simpa using (List.mem_filter.mp he).2
    rw [if_pos hkey, lookup, hnone, Option.bind_none]
  · have hsame : ∀ e : Object × Object,
        decide (decide (toString e.1 ≠ some key) = true ∧
          decide (toString e.1 = some key') = true) = decide (toString e.1 = some key') := by
      intro e
      by_cases he : toString e.1 = some key'
      · simp [he, hkey]
      · simp [he]
    have hfind : (map.erase key).find key' = map.find key' := by
      rw [find, erase, List.find?_filter, funext hsame, find]
    rw [if_neg hkey, lookup, hfind, lookup]

theorem find_emplace (key value key' : String) (map : UntypedMap objects.toString) :
    (map.emplace key value).find key' =
      (map.find key').or
        (if key' = key then some (objects.ofString key, objects.ofString value) else none) := by
  unfold emplace emplaceEntry
  split
  · rename_i e he
    by_cases hkey : key' = key
    · rw [hkey, he, Option.some_or]
    · rw [if_neg hkey, Option.or_none]
  · rw [find, List.find?_append, ← find, List.find?_singleton, objects.toString_ofString]
    by_cases hkey : key' = key
    · simp [hkey]
    · simp [hkey, Ne.symm hkey]

/-- The values of a map are strings. -/
def StringValues (map : UntypedMap toString) : Prop :=
  ∀ e ∈ map.entries, (toString e.2).isSome = true

theorem StringValues.erase {map : UntypedMap toString} (h : map.StringValues) (key : String) :
    (map.erase key).StringValues :=
  fun e he => h e (List.mem_filter.mp he).1

theorem StringValues.emplace {map : UntypedMap objects.toString} (h : map.StringValues)
    (key value : String) : (map.emplace key value).StringValues := by
  unfold UntypedMap.emplace emplaceEntry
  split
  · exact h
  · intro e he
    rcases List.mem_append.mp he with he | he
    · exact h e he
    · rw [List.mem_singleton.mp he, objects.toString_ofString]
      rfl

/-- Among strings, a key that is there keeps its value. -/
theorem lookup_emplace {map : UntypedMap objects.toString} (h : map.StringValues)
    (key value key' : String) :
    (map.emplace key value).lookup key' =
      if key' = key then (map.lookup key').or (some value) else map.lookup key' := by
  rw [lookup, find_emplace]
  cases hfind : map.find key' with
  | none =>
    rw [Option.none_or, lookup, hfind]
    split <;> simp [objects.toString_ofString]
  | some e =>
    have hvalue := h e (List.mem_of_find?_eq_some hfind)
    rw [Option.some_or, lookup, hfind, Option.bind_some]
    split
    · rw [Option.or_of_isSome hvalue]
    · rfl

end UntypedMap

end MetaProtocolProxy.Dubbo

import Mathlib.Order.Basic

/-!
# Loops

A loop takes turns, and a turn ends the loop with a result or hands a state to the next one.
`Ends` is the loop without a bound on its turns : it ends with a result after finitely many of
them. A loop whose turns go down in a measure always ends, and a function that takes the same
turns, but not more than its fuel, has the result of the loop as soon as its fuel is above the
measure (`Descends.ends_of_fuel`).
-/

namespace Loops

variable {α β : Type*}

/-- The loop ends with a result : `Sum.inl` is a turn that ends it, `Sum.inr` one that goes on. -/
inductive Ends (turn : α → β ⊕ α → Prop) : α → β → Prop
  | stop {a b} (h : turn a (.inl b)) : Ends turn a b
  | again {a a' b} (h : turn a (.inr a')) (htail : Ends turn a' b) : Ends turn a b

/-- In the states of `I` there is a turn, and one that goes on goes down in `measure`. -/
structure Descends (turn : α → β ⊕ α → Prop) (I : α → Prop) (measure : α → ℕ) : Prop where
  total : ∀ {a}, I a → ∃ r, turn a r
  again : ∀ {a a'}, I a → turn a (.inr a') → I a' ∧ measure a' < measure a

/-- A function of its fuel that takes the turns of the loop. -/
structure Follows (turn : α → β ⊕ α → Prop) (f : ℕ → α → β) : Prop where
  stop : ∀ {a b}, turn a (.inl b) → ∀ fuel, f (fuel + 1) a = b
  again : ∀ {a a'}, turn a (.inr a') → ∀ fuel, f (fuel + 1) a = f fuel a'

section

variable {turn : α → β ⊕ α → Prop} {I : α → Prop} {measure : α → ℕ} {f : ℕ → α → β}

/-- Fuel above the measure is enough. -/
theorem Descends.ends_of_fuel (hd : Descends turn I measure) (hf : Follows turn f) :
    ∀ (fuel : ℕ) {a : α}, I a → measure a < fuel → Ends turn a (f fuel a)
  | 0, _, _, h => absurd h (Nat.not_lt_zero _)
  | fuel + 1, a, hi, h => by
    obtain ⟨b | a', hturn⟩ := hd.total hi
    · rw [hf.stop hturn fuel]
      exact .stop hturn
    · obtain ⟨hi', hlt⟩ := hd.again hi hturn
      rw [hf.again hturn fuel]
      exact .again hturn
        (hd.ends_of_fuel hf fuel hi' (Nat.lt_of_lt_of_le hlt (Nat.le_of_lt_succ h)))

/-- A loop that ends has the result of the function, with whatever fuel from some on. -/
theorem Follows.eventually_eq (hf : Follows turn f) {a : α} {b : β} (h : Ends turn a b) :
    ∃ n, ∀ fuel, n ≤ fuel → f fuel a = b := by
  induction h with
  | stop hturn =>
    refine ⟨1, fun fuel hfuel => ?_⟩
    obtain ⟨fuel, rfl⟩ := Nat.exists_eq_add_of_le' hfuel
    exact hf.stop hturn fuel
  | again hturn _ ih =>
    obtain ⟨n, hn⟩ := ih
    refine ⟨n + 1, fun fuel hfuel => ?_⟩
    obtain ⟨fuel, rfl⟩ := Nat.exists_eq_add_of_le' (show 1 ≤ fuel by omega)
    rw [hf.again hturn fuel]
    exact hn fuel (by omega)

/-- So it ends in one way. -/
theorem Follows.unique (hf : Follows turn f) {a : α} {b b' : β} (h : Ends turn a b)
    (h' : Ends turn a b') : b = b' := by
  obtain ⟨n, hn⟩ := hf.eventually_eq h
  obtain ⟨n', hn'⟩ := hf.eventually_eq h'
  exact (hn _ (Nat.le_max_left n n')).symm.trans (hn' _ (Nat.le_max_right n n'))

end

end Loops

import Mathlib.Data.List.Range
import Mathlib.Logic.Function.Basic

/-!
# Counting a growing population

A population is a sequence of which the first `n` members exist. `census` counts those with a
property. It changes by one member at a time : a member changes (`census_update`), or the next one
comes into being (`census_birth`).
-/

variable {α : Type*} {p q : α → Bool} {f g : ℕ → α} {n i : ℕ} {a : α}

/-- How many of the first `n` members have a property. -/
def census (p : α → Bool) (f : ℕ → α) (n : ℕ) : ℕ :=
  (List.range n).countP fun i => p (f i)

theorem census_succ (p : α → Bool) (f : ℕ → α) (n : ℕ) :
    census p f (n + 1) = census p f n + if p (f n) then 1 else 0 := by
  simp [census, List.range_succ, List.countP_singleton]

theorem census_congr (h : ∀ i < n, p (f i) = q (g i)) : census p f n = census q g n :=
  List.countP_congr fun i hi => by rw [h i (List.mem_range.mp hi)]

/-- A member that does not exist yet does not count. -/
theorem census_update_of_le (h : n ≤ i) : census p (Function.update f i a) n = census p f n :=
  census_congr fun j hj => by rw [Function.update_of_ne (by omega)]

/-- A member changes. -/
theorem census_update (h : i < n) : census p (Function.update f i a) n +
    (if p (f i) then 1 else 0) = census p f n + if p a then 1 else 0 := by
  induction n with
  | zero => cases h
  | succ n ih =>
    rw [census_succ, census_succ]
    by_cases hi : i = n
    · subst hi
      rw [census_update_of_le (Nat.le_refl i), Function.update_self]
      omega
    · rw [Function.update_of_ne (Ne.symm hi)]
      have hbefore := ih (by omega)
      omega

/-- A member changes, but not in what counts. -/
theorem census_update_same (h : i < n) (ha : p a = p (f i)) :
    census p (Function.update f i a) n = census p f n := by
  have hupdate := census_update (p := p) (f := f) (a := a) h
  rw [ha] at hupdate
  omega

/-- The next member comes into being. -/
theorem census_birth : census p (Function.update f n a) (n + 1) =
    census p f n + if p a then 1 else 0 := by
  rw [census_succ, census_update_of_le (Nat.le_refl n), Function.update_self]

theorem census_eq_zero_iff : census p f n = 0 ↔ ∀ i < n, p (f i) = false := by
  simp [census, List.countP_eq_zero]

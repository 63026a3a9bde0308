import Mathlib.Data.List.Induction
import Mathlib.Data.List.InsertIdx
import Mathlib.Order.Basic
import Mathlib.Tactic.SplitIfs

/-!
# Chains of handlers

Handlers of a list are called one after the other, until one does not say `go`, or what they have
done stops the chain. A handler that is inserted at a position moves those behind it by one
(`shift`), and a log of positions is read without it by `unshift` (`erased`). Where the inserted
handler changes nothing that is seen, and the others do the same for what is seen, so does the
chain, from whichever position it is entered (`Inserts.drop`).
-/

namespace Chains

/-! ## Positions -/

/-- Where the handler of a position is when one is inserted at `k`. -/
def shift (k p : ℕ) : ℕ :=
  if p < k then p else p + 1

/-- Where the handler of a position was before one was inserted at `k`. -/
def unshift (k p : ℕ) : Option ℕ :=
  if p < k then some p else if p = k then none else some (p - 1)

@[simp] theorem unshift_shift (k p : ℕ) : unshift k (shift k p) = some p := by
  unfold unshift shift
  split_ifs
  · rfl
  · omega
  · omega
  · rw [Nat.add_sub_cancel]

@[simp] theorem unshift_self (k : ℕ) : unshift k k = none := by
  simp [unshift]

theorem shift_ne (k p : ℕ) : shift k p ≠ k := by
  unfold shift
  split_ifs <;> omega

theorem exists_shift {k p : ℕ} (h : p ≠ k) : ∃ q, p = shift k q := by
  by_cases hlt : p < k
  · exact ⟨p, (if_pos hlt).symm⟩
  · refine ⟨p - 1, ?_⟩
    unfold shift
    rw [if_neg (by omega)]
    omega

theorem shift_inj {k p q : ℕ} (h : shift k p = shift k q) : p = q := by
  have hsome := congrArg (unshift k) h
  rw [unshift_shift, unshift_shift] at hsome
  exact Option.some.inj hsome

/-- A position at which a chain is entered, without the inserted handler and with it. It is not
left out where the chain is entered at its own position. -/
def Beside (k p q : ℕ) : Prop :=
  (p ≤ k ∧ q = p) ∨ (k ≤ p ∧ q = p + 1)

theorem beside_zero (k : ℕ) : Beside k 0 0 :=
  Or.inl ⟨Nat.zero_le k, rfl⟩

theorem beside_shift (k p : ℕ) : Beside k p (shift k p) := by
  unfold Beside shift
  split_ifs <;> omega

theorem beside_succ (k p : ℕ) : Beside k (p + 1) (shift k p + 1) := by
  unfold Beside shift
  split_ifs <;> omega

/-- The positions of a log, as they are without the handler that was inserted. -/
def erased (k : ℕ) (calls : List ℕ) : List ℕ :=
  calls.filterMap (unshift k)

@[simp] theorem erased_nil (k : ℕ) : erased k [] = [] :=
  rfl

@[simp] theorem erased_concat_self (k : ℕ) (calls : List ℕ) :
    erased k (calls ++ [k]) = erased k calls := by
  simp [erased]

@[simp] theorem erased_concat_shift (k p : ℕ) (calls : List ℕ) :
    erased k (calls ++ [shift k p]) = erased k calls ++ [p] := by
  simp [erased]

theorem count_erased (k p : ℕ) (calls : List ℕ) :
    (erased k calls).count p = calls.count (shift k p) := by
  induction calls using List.reverseRecOn with
  | nil => rfl
  | append_singleton calls c ih =>
    by_cases hc : c = k
    · subst hc
      rw [erased_concat_self, ih, List.count_append, List.count_singleton]
      simp [Ne.symm (shift_ne c p)]
    · obtain ⟨q, rfl⟩ := exists_shift hc
      rw [erased_concat_shift, List.count_append, List.count_append, ih, List.count_singleton,
        List.count_singleton]
      by_cases hq : q = p
      · simp [hq]
      · have hne : shift k q ≠ shift k p := fun h => hq (shift_inj h)
        simp [hq, hne]

/-- The last position of a log that does not end with the inserted handler. -/
theorem getLast?_erased {k p : ℕ} {calls : List ℕ} (h : calls.getLast? ≠ some k) :
    (erased k calls).getLast? = some p ↔ calls.getLast? = some (shift k p) := by
  rcases List.eq_nil_or_concat calls with rfl | ⟨calls, c, rfl⟩
  · simp
  · rw [List.concat_eq_append, List.getLast?_concat] at h
    obtain ⟨q, rfl⟩ := exists_shift (k := k) fun hc => h (congrArg some hc)
    rw [List.concat_eq_append, erased_concat_shift, List.getLast?_concat, List.getLast?_concat,
      Option.some.injEq, Option.some.injEq]
    exact ⟨fun hq => by rw [hq], shift_inj⟩

section Insert

variable {ι : Type*} (x : ι)

theorem getElem?_insertIdx_shift (k p : ℕ) (fs : List ι) :
    (fs.insertIdx k x)[shift k p]? = fs[p]? := by
  unfold shift
  split_ifs with h
  · exact List.getElem?_insertIdx_of_lt h
  · rw [List.getElem?_insertIdx_of_gt (by omega), Nat.add_sub_cancel]

/-- The first handler of a kind that the inserted one is not of. -/
theorem findIdx_insertIdx {q : ι → Bool} (hx : q x = false) : ∀ (k : ℕ) (fs : List ι),
    (fs.insertIdx k x).findIdx q = shift k (fs.findIdx q)
  | 0, fs => by simp [List.findIdx_cons, hx, shift]
  | k + 1, [] => by simp [shift]
  | k + 1, f :: fs => by
    rw [List.insertIdx_succ_cons, List.findIdx_cons, List.findIdx_cons]
    cases q f with
    | true => simp [shift]
    | false =>
      rw [cond_false, cond_false, findIdx_insertIdx hx k fs]
      unfold shift
      split_ifs <;> omega

theorem any_insertIdx {q : ι → Bool} (hx : q x = false) : ∀ (k : ℕ) (fs : List ι),
    (fs.insertIdx k x).any q = fs.any q
  | 0, fs => by simp [hx]
  | k + 1, [] => rfl
  | k + 1, f :: fs => by
    rw [List.insertIdx_succ_cons, List.any_cons, List.any_cons, any_insertIdx hx k fs]

theorem drop_insertIdx_of_le : ∀ {n k : ℕ} (fs : List ι), n ≤ k → n ≤ fs.length →
    (fs.insertIdx k x).drop n = (fs.drop n).insertIdx (k - n) x
  | 0, _, _, _, _ => rfl
  | n + 1, 0, _, h, _ => absurd h (Nat.not_succ_le_zero n)
  | n + 1, k + 1, [], _, h => absurd h (Nat.not_succ_le_zero n)
  | n + 1, k + 1, f :: fs, h, hn => by
    rw [List.insertIdx_succ_cons, List.drop_succ_cons, List.drop_succ_cons,
      drop_insertIdx_of_le fs (Nat.le_of_succ_le_succ h) (Nat.le_of_succ_le_succ hn),
      Nat.add_sub_add_right]

theorem drop_insertIdx_of_ge : ∀ {n k : ℕ} (fs : List ι), k ≤ n →
    (fs.insertIdx k x).drop (n + 1) = fs.drop n
  | _, 0, _, _ => rfl
  | 0, k + 1, _, h => absurd h (Nat.not_succ_le_zero k)
  | n + 1, k + 1, [], _ => by simp
  | n + 1, k + 1, f :: fs, h => by
    rw [List.insertIdx_succ_cons, List.drop_succ_cons, List.drop_succ_cons,
      drop_insertIdx_of_ge fs (Nat.le_of_succ_le_succ h)]

end Insert

/-! ## The chain -/

section Chain

variable {ι ρ S : Type*} [DecidableEq ρ]

/-- The handlers from a position on. -/
def chain (go : ρ) (call : ι → ℕ → S → ρ × S) (stop : S → Bool) (finish : S → S) :
    List ι → ℕ → S → ρ × S
  | [], _, s => (go, finish s)
  | f :: fs, p, s =>
    match call f p s with
    | (r, s) =>
      if stop s then (go, finish s)
      else if r ≠ go then (r, s)
      else chain go call stop finish fs (p + 1) s

/-- A chain into which a handler `x` is inserted at `k`, and what is seen of its states : `P` holds
inside the chain, `Q` where it has ended. -/
structure Inserts (go : ρ) (call call' : ι → ℕ → S → ρ × S) (stop : S → Bool) (finish : S → S)
    (k : ℕ) (x : ι) (view : S → S) (P Q : S → Prop) : Prop where
  call : ∀ f p {s}, P s → call f p (view s) = (call' f (shift k p) s).map id view ∧
    P (call' f (shift k p) s).2 ∧ Q (call' f (shift k p) s).2
  inserted : ∀ {s}, P s → ∃ t, call' x k s = (go, t) ∧ view t = view s ∧ P t
  finish : ∀ {s}, P s → finish (view s) = view (finish s) ∧ Q (finish s)
  stop : ∀ s, stop (view s) = stop s

variable {go : ρ} {call call' : ι → ℕ → S → ρ × S} {stop : S → Bool} {finish : S → S} {k : ℕ}
  {x : ι} {view : S → S} {P Q : S → Prop}

/-- Behind the inserted handler the chain is the same, one position on. -/
theorem Inserts.behind (h : Inserts go call call' stop finish k x view P Q) :
    ∀ (fs : List ι) {p : ℕ} {s : S}, k ≤ p → P s →
      chain go call stop finish fs p (view s) =
          (chain go call' stop finish fs (p + 1) s).map id view ∧
        Q (chain go call' stop finish fs (p + 1) s).2
  | [], _, _, _, hs => by
    obtain ⟨hfinish, hend⟩ := h.finish hs
    exact ⟨congrArg (go, ·) hfinish, hend⟩
  | f :: fs, p, s, hp, hs => by
    obtain ⟨hcall, hinside, hend⟩ := h.call f p hs
    rw [show shift k p = p + 1 from if_neg (Nat.not_lt.mpr hp)] at hcall hinside hend
    unfold chain
    rw [hcall]
    generalize call' f (p + 1) s = result at hinside hend
    obtain ⟨r, t⟩ := result
    dsimp only [Prod.map, id]
    rw [h.stop]
    split_ifs with hstop hgo
    · obtain ⟨hfinish, hfinished⟩ := h.finish hinside
      exact ⟨congrArg (go, ·) hfinish, hfinished⟩
    · exact ⟨rfl, hend⟩
    · exact h.behind fs (Nat.le_succ_of_le hp) hinside

/-- At its position the inserted handler is called, and the chain goes on as before. -/
theorem Inserts.here (h : Inserts go call call' stop finish k x view P Q) (fs : List ι) {s : S}
    (hs : P s) (hstop : stop s = false) :
    chain go call stop finish fs k (view s) =
        (chain go call' stop finish (x :: fs) k s).map id view ∧
      Q (chain go call' stop finish (x :: fs) k s).2 := by
  obtain ⟨t, hcall, hview, ht⟩ := h.inserted hs
  have hchain : chain go call' stop finish (x :: fs) k s =
      chain go call' stop finish fs (k + 1) t := by
    have hgoes : stop t = false := by rw [← h.stop, hview, h.stop, hstop]
    rw [chain, hcall]
    simp [hgoes]
  rw [hchain, ← hview]
  exact h.behind fs (Nat.le_refl k) ht

/-- A chain that comes to the inserted handler, unless it ends before. -/
theorem Inserts.insertIdx (h : Inserts go call call' stop finish k x view P Q) :
    ∀ (fs : List ι) {p : ℕ} {s : S}, p ≤ k → P s → stop s = false →
      chain go call stop finish fs p (view s) =
          (chain go call' stop finish (fs.insertIdx (k - p) x) p s).map id view ∧
        Q (chain go call' stop finish (fs.insertIdx (k - p) x) p s).2 := by
  intro fs
  induction fs with
  | nil =>
    intro p s hp hs hstop
    rcases Nat.eq_or_lt_of_le hp with rfl | hlt
    · rw [Nat.sub_self]
      exact h.here [] hs hstop
    · obtain ⟨n, hn⟩ := Nat.exists_eq_succ_of_ne_zero (Nat.sub_ne_zero_of_lt hlt)
      obtain ⟨hfinish, hend⟩ := h.finish hs
      rw [hn, List.insertIdx_succ_nil]
      exact ⟨congrArg (go, ·) hfinish, hend⟩
  | cons f fs ih =>
    intro p s hp hs hstop
    rcases Nat.eq_or_lt_of_le hp with rfl | hlt
    · rw [Nat.sub_self]
      exact h.here (f :: fs) hs hstop
    · obtain ⟨hcall, hinside, hend⟩ := h.call f p hs
      rw [show shift k p = p from if_pos hlt] at hcall hinside hend
      rw [show k - p = k - (p + 1) + 1 by omega, List.insertIdx_succ_cons]
      unfold chain
      rw [hcall]
      generalize call' f p s = result at hinside hend
      obtain ⟨r, t⟩ := result
      dsimp only [Prod.map, id]
      rw [h.stop]
      split_ifs with hstops hgo
      · obtain ⟨hfinish, hfinished⟩ := h.finish hinside
        exact ⟨congrArg (go, ·) hfinish, hfinished⟩
      · exact ⟨rfl, hend⟩
      · exact ih hlt hinside (Bool.eq_false_iff.mpr hstops)

/-- A chain that is entered at a position. -/
theorem Inserts.drop (h : Inserts go call call' stop finish k x view P Q) (fs : List ι) {p q : ℕ}
    (hpq : Beside k p q) {s : S} (hs : P s) (hstop : stop s = false) :
    chain go call stop finish (fs.drop p) p (view s) =
        (chain go call' stop finish ((fs.insertIdx k x).drop q) q s).map id view ∧
      Q (chain go call' stop finish ((fs.insertIdx k x).drop q) q s).2 := by
  rcases hpq with ⟨hp, rfl⟩ | ⟨hp, rfl⟩
  · by_cases hlength : q ≤ fs.length
    · rw [drop_insertIdx_of_le x fs hp hlength]
      exact h.insertIdx (fs.drop q) hp hs hstop
    · have hbeyond := Nat.lt_of_not_le hlength
      obtain ⟨hfinish, hend⟩ := h.finish hs
      rw [List.insertIdx_of_length_lt (Nat.lt_of_lt_of_le hbeyond hp),
        List.drop_eq_nil_of_le (Nat.le_of_lt hbeyond)]
      exact ⟨congrArg (go, ·) hfinish, hend⟩
  · rw [drop_insertIdx_of_ge x fs hp]
    exact h.behind (fs.drop p) hp hs

end Chain

end Chains

import Mathlib.Data.List.Basic
import Mathlib.Tactic.SplitIfs

/-!
# Resumable decoders

A decoder is called again and again on a buffer that grows at its end. One round
either waits for more input, emits an item and takes it off the front of the buffer,
or fails. The decoder keeps a state between the rounds, and may already have moved
the front of an unfinished item out of the buffer when it waits.

`Splittable` says what makes the place of a cut invisible : a round on a longer
buffer emits the same item or fails the same way, and a round that waited comes to
the same end when it is called again. `Drains` is the outcome of running the decoder
on an input, which is not run on an empty buffer, and `dispatch` the loop that runs it.

`Follows` relates a decoder in the middle of its input to the decoder that has not
started : whatever input comes, both give the same outcome. It holds at the start,
new input keeps it (`Follows.append`) and so does the loop (`Follows.dispatch`), so
the items emitted over any chunks of an input are those of the whole input
(`Follows.drains`).

`Fed` is a decoder that is given its input in chunks. A decoder that is closed when it fails
is given no more, so of the state it fails in nothing has to be known (`Cuttable`). If every
round keeps what it takes off the buffer, in its state or in the item it emits (`Conserves`),
then the items, the state and the buffer of a decoder that has not failed are the input
(`Fed.conserved`).
Where no item is the front of another one they are the only items the input can be cut
into (`PrefixFree.flatten_unique`).
-/

namespace Resumable

variable {α σ ο : Type*}

/-- The end of one round : the state kept and what is left of the buffer. -/
inductive Round (α σ ο : Type*) where
  | wait (s : σ) (rest : List α)
  | emit (o : ο) (s : σ) (rest : List α)
  | fail (s : σ) (rest : List α)

/-- The items a decoder emits from an input before it waits or the input is at its end (`none`),
or fails, with what is left of the input there. -/
inductive Drains (round : σ → List α → Round α σ ο) :
    σ → List α → List ο → Option (List α) → Prop
  | nil {s} : Drains round s [] [] none
  | wait {s b s' b'} (hb : b ≠ []) (h : round s b = .wait s' b') : Drains round s b [] none
  | fail {s b s' b'} (hb : b ≠ []) (h : round s b = .fail s' b') : Drains round s b [] (some b')
  | emit {s b o s' b' os failed} (hb : b ≠ []) (h : round s b = .emit o s' b')
      (hd : Drains round s' b' os failed) : Drains round s b (o :: os) failed

/-- Rounds whose outcome does not depend on where the input was cut. An item takes some input,
unless the decoder was in the middle of it and not `fresh`. -/
structure Splittable (round : σ → List α → Round α σ ο) (I fresh : σ → Prop) : Prop where
  wait : ∀ {s b s' b'}, I s → round s b = .wait s' b' →
    I s' ∧ ∀ x, round s (b ++ x) = round s' (b' ++ x)
  emit : ∀ {s b o s' b'}, I s → round s b = .emit o s' b' →
    I s' ∧ fresh s' ∧ b'.length ≤ b.length ∧ (fresh s → b'.length < b.length) ∧
      ∀ x, round s (b ++ x) = .emit o s' (b' ++ x)
  fail : ∀ {s b s' b'}, I s → round s b = .fail s' b' →
    ∀ x, round s (b ++ x) = .fail s' (b' ++ x) ∧ round s' (b' ++ x) = .fail s' (b' ++ x)

/-! ## The outcome of an input -/

section Drains

variable {round : σ → List α → Round α σ ο}

theorem Drains.unique {s : σ} {b : List α} {os os' : List ο} {failed failed' : Option (List α)}
    (h : Drains round s b os failed) (h' : Drains round s b os' failed') :
    os = os' ∧ failed = failed' := by
  induction h generalizing os' with
  | nil =>
    cases h' with
    | nil => exact ⟨rfl, rfl⟩
    | wait hb | fail hb | emit hb => exact absurd rfl hb
  | wait hb hr =>
    cases h' with
    | nil => exact absurd rfl hb
    | wait _ _ => exact ⟨rfl, rfl⟩
    | fail _ hr' => rw [hr] at hr'; cases hr'
    | emit _ hr' _ => rw [hr] at hr'; cases hr'
  | fail hb hr =>
    cases h' with
    | nil => exact absurd rfl hb
    | wait _ hr' => rw [hr] at hr'; cases hr'
    | fail _ hr' => rw [hr] at hr'; cases hr'; exact ⟨rfl, rfl⟩
    | emit _ hr' _ => rw [hr] at hr'; cases hr'
  | emit hb hr _ ih =>
    cases h' with
    | nil => exact absurd rfl hb
    | wait _ hr' => rw [hr] at hr'; cases hr'
    | fail _ hr' => rw [hr] at hr'; cases hr'
    | emit _ hr' hd' =>
      rw [hr] at hr'
      cases hr'
      obtain ⟨rfl, rfl⟩ := ih hd'
      exact ⟨rfl, rfl⟩

/-- The outcome is decided by the first round alone. -/
theorem Drains.congr {s t : σ} {b c : List α} {os : List ο} {failed : Option (List α)}
    (hr : round s b = round t c) (hc : c ≠ []) (hb : b ≠ []) (h : Drains round s b os failed) :
    Drains round t c os failed := by
  cases h with
  | nil => exact absurd rfl hb
  | wait _ h => exact .wait hc (hr ▸ h)
  | fail _ h => exact .fail hc (hr ▸ h)
  | emit _ h hd => exact .emit hc (hr ▸ h) hd

end Drains

/-! ## The loop -/

/-- A decoder in the middle of its input : its state, the bytes it has not taken, the
items it has emitted and whether it has failed. -/
structure Progress (α σ ο : Type*) where
  state : σ
  buffer : List α
  emitted : List ο
  failed : Bool

/-- Rounds until one waits or fails, or the buffer is empty. -/
def dispatch (round : σ → List α → Round α σ ο) : ℕ → Progress α σ ο → Progress α σ ο
  | 0, p => p
  | fuel + 1, p =>
    match round p.state p.buffer with
    | .wait s b => { p with state := s, buffer := b }
    | .fail s b => { p with state := s, buffer := b, failed := true }
    | .emit o s [] => { p with state := s, buffer := [], emitted := p.emitted ++ [o] }
    | .emit o s (a :: b) =>
      dispatch round fuel { p with state := s, buffer := a :: b, emitted := p.emitted ++ [o] }

/-- A decoder that has come as far as `p` over the input `received`, started in `s₀` :
on any further input it comes to the end the whole input has from the start. -/
structure Follows (round : σ → List α → Round α σ ο) (I : σ → Prop) (s₀ : σ)
    (received : List α) (p : Progress α σ ο) : Prop where
  inv : p.failed = false → I p.state
  more : p.failed = false → ∀ x os failed,
    Drains round p.state (p.buffer ++ x) os failed →
      Drains round s₀ (received ++ x) (p.emitted ++ os) failed
  stuck : p.failed = true → ∀ x,
    Drains round s₀ (received ++ x) p.emitted (some (p.buffer ++ x)) ∧
      round p.state (p.buffer ++ x) = .fail p.state (p.buffer ++ x)

/-- The decoder has done what it can with its buffer. -/
def Settled (round : σ → List α → Round α σ ο) (p : Progress α σ ο) : Prop :=
  p.failed = true ∨ p.buffer = [] ∨ ∃ s b, round p.state p.buffer = .wait s b

section Follows

variable {round : σ → List α → Round α σ ο} {I fresh : σ → Prop} {s₀ : σ} {received : List α}
  {p : Progress α σ ο}

theorem follows_init (h : I s₀) : Follows round I s₀ [] ⟨s₀, [], [], false⟩ where
  inv _ := h
  more _ x os failed hd := hd
  stuck h := by cases h

/-- New input is what both decoders wait for. -/
theorem Follows.append (h : Follows round I s₀ received p) (x : List α) :
    Follows round I s₀ (received ++ x) { p with buffer := p.buffer ++ x } where
  inv := h.inv
  more hf y os failed hd := by
    rw [List.append_assoc] at hd ⊢
    exact h.more hf _ _ _ hd
  stuck hf y := by
    simp only [List.append_assoc]
    exact h.stuck hf (x ++ y)

theorem Follows.wait (hs : Splittable round I fresh) (h : Follows round I s₀ received p)
    (hb : p.buffer ≠ []) (hf : p.failed = false) {s : σ} {b : List α}
    (hr : round p.state p.buffer = .wait s b) :
    Follows round I s₀ received { p with state := s, buffer := b } where
  inv _ := (hs.wait (h.inv hf) hr).1
  more _ x os failed hd := by
    have hx := (hs.wait (h.inv hf) hr).2 x
    refine h.more hf x os failed ?_
    by_cases hnil : b ++ x = []
    · obtain ⟨rfl, rfl⟩ := List.append_eq_nil_iff.mp hnil
      obtain ⟨rfl, rfl⟩ := hd.unique .nil
      rw [List.append_nil]
      exact .wait hb hr
    · exact hd.congr hx.symm (by simp [hb]) hnil
  stuck hf' := by rw [hf] at hf'; cases hf'

theorem Follows.emit (hs : Splittable round I fresh) (h : Follows round I s₀ received p)
    (hb : p.buffer ≠ []) (hf : p.failed = false) {o : ο} {s : σ} {b : List α}
    (hr : round p.state p.buffer = .emit o s b) :
    Follows round I s₀ received
      { p with state := s, buffer := b, emitted := p.emitted ++ [o] } where
  inv _ := (hs.emit (h.inv hf) hr).1
  more _ x os failed hd := by
    have hx := (hs.emit (h.inv hf) hr).2.2.2.2 x
    simpa using h.more hf x (o :: os) failed (.emit (by simp [hb]) hx hd)
  stuck hf' := by rw [hf] at hf'; cases hf'

theorem Follows.fail (hs : Splittable round I fresh) (h : Follows round I s₀ received p)
    (hb : p.buffer ≠ []) (hf : p.failed = false) {s : σ} {b : List α}
    (hr : round p.state p.buffer = .fail s b) :
    Follows round I s₀ received { p with state := s, buffer := b, failed := true } where
  inv hf' := by cases hf'
  more hf' := by cases hf'
  stuck _ x := by
    obtain ⟨hx, hagain⟩ := hs.fail (h.inv hf) hr x
    exact ⟨by simpa using h.more hf x [] _ (.fail (by simp [hb]) hx), hagain⟩

/-- The loop follows the input, however far it gets. -/
theorem Follows.dispatch (hs : Splittable round I fresh) :
    ∀ (fuel : ℕ) {p : Progress α σ ο}, p.buffer ≠ [] → Follows round I s₀ received p →
      Follows round I s₀ received (dispatch round fuel p)
  | 0, _, _, h => h
  | fuel + 1, p, hb, h => by
    unfold Resumable.dispatch
    cases hf : p.failed with
    | true =>
      obtain ⟨-, hagain⟩ := h.stuck hf []
      rw [List.append_nil] at hagain
      rw [hagain]
      simpa only [← hf] using h
    | false =>
      cases hr : round p.state p.buffer with
      | wait s b => simpa only [hf] using h.wait hs hb hf hr
      | fail s b => exact h.fail hs hb hf hr
      | emit o s b =>
        have he := h.emit hs hb hf hr
        cases b with
        | nil => simpa only [hf] using he
        | cons a b =>
          exact Follows.dispatch hs fuel (List.cons_ne_nil _ _) (by simpa only [hf] using he)

/-- A round for each byte is enough, with one more if the first need not take any. -/
theorem settled_dispatch (hs : Splittable round I fresh) :
    ∀ (fuel : ℕ) {p : Progress α σ ο}, p.buffer ≠ [] → Follows round I s₀ received p →
      (fresh p.state ∧ p.buffer.length ≤ fuel ∨ p.buffer.length < fuel) →
        Settled round (dispatch round fuel p)
  | 0, p, hb, _, hn => by
    have hpos := List.length_pos_iff.mpr hb
    omega
  | fuel + 1, p, hb, h, hn => by
    unfold Resumable.dispatch
    cases hf : p.failed with
    | true =>
      obtain ⟨-, hagain⟩ := h.stuck hf []
      rw [List.append_nil] at hagain
      rw [hagain]
      exact Or.inl rfl
    | false =>
      cases hr : round p.state p.buffer with
      | wait s b =>
        have hw := (hs.wait (h.inv hf) hr).2 []
        simp only [List.append_nil] at hw
        exact Or.inr (Or.inr ⟨s, b, hw.symm.trans hr⟩)
      | fail s b => exact Or.inl rfl
      | emit o s b =>
        have he := h.emit hs hb hf hr
        obtain ⟨-, hfresh, hle, hlt, -⟩ := hs.emit (h.inv hf) hr
        cases b with
        | nil => exact Or.inr (Or.inl rfl)
        | cons a b =>
          refine settled_dispatch hs fuel (List.cons_ne_nil _ _) (by simpa only [hf] using he)
            (Or.inl ⟨hfresh, ?_⟩)
          rcases hn with ⟨hstart, hn⟩ | hn
          · exact Nat.le_of_lt_succ (Nat.lt_of_lt_of_le (hlt hstart) hn)
          · exact Nat.le_of_lt_succ (Nat.lt_of_le_of_lt hle hn)

/-- Once the decoder has done what it can, its outcome is the outcome of the input it has
received. -/
theorem Follows.drains (h : Follows round I s₀ received p) (hset : Settled round p) :
    Drains round s₀ received p.emitted (if p.failed then some p.buffer else none) := by
  cases hf : p.failed with
  | true => simpa using (h.stuck hf []).1
  | false =>
    have hd : Drains round p.state p.buffer [] none := by
      by_cases hb : p.buffer = []
      · rw [hb]
        exact .nil
      · rcases hset with h' | hnil | ⟨s, b, hr⟩
        · rw [hf] at h'
          cases h'
        · exact absurd hnil hb
        · exact .wait hb hr
    simpa using h.more hf [] [] none (by simpa using hd)

end Follows

/-! ## Chunks -/

/-- A chunk of input. The loop is not run on an empty buffer. -/
def feed (round : σ → List α → Round α σ ο) (p : Progress α σ ο) (x : List α) :
    Progress α σ ο :=
  if (p.buffer ++ x).isEmpty then { p with buffer := p.buffer ++ x }
  else dispatch round ((p.buffer ++ x).length + 1) { p with buffer := p.buffer ++ x }

/-- What a decoder started in `s₀` comes to over an input in chunks, where `again` says whether
it is given input after it has failed. -/
inductive Fed (round : σ → List α → Round α σ ο) (again : Prop) (s₀ : σ) :
    List α → Progress α σ ο → Prop
  | start : Fed round again s₀ [] ⟨s₀, [], [], false⟩
  | feed {received : List α} {p : Progress α σ ο} (h : Fed round again s₀ received p)
      (hagain : p.failed = true → again) (x : List α) :
      Fed round again s₀ (received ++ x) (feed round p x)

section Fed

variable {round : σ → List α → Round α σ ο} {I fresh : σ → Prop} {again : Prop} {s₀ : σ}
  {received : List α} {p : Progress α σ ο}

/-- However the input is cut, the decoder follows it and does what it can. -/
theorem Fed.follows (hs : Splittable round I fresh) (h₀ : I s₀)
    (h : Fed round again s₀ received p) :
    Settled round p ∧ Follows round I s₀ received p := by
  induction h with
  | start => exact ⟨Or.inr (Or.inl rfl), follows_init h₀⟩
  | @feed received p _ _ x ih =>
    have hf := ih.2.append x
    unfold Resumable.feed
    split_ifs with hnil
    · exact ⟨Or.inr (Or.inl (List.isEmpty_iff.mp hnil)), hf⟩
    · have hb : p.buffer ++ x ≠ [] := fun h => hnil (List.isEmpty_iff.mpr h)
      exact ⟨settled_dispatch hs _ hb hf (Or.inr (Nat.lt_succ_self _)), hf.dispatch hs _ hb⟩

/-- The outcome of an input does not depend on its chunks : the items, whether the decoder fails,
and where. -/
theorem Fed.unique (hs : Splittable round I fresh) (h₀ : I s₀)
    (h : Fed round again s₀ received p) {q : Progress α σ ο} (h' : Fed round again s₀ received q) :
    p.emitted = q.emitted ∧ p.failed = q.failed ∧ (p.failed = true → p.buffer = q.buffer) := by
  obtain ⟨hset, hf⟩ := h.follows hs h₀
  obtain ⟨hset', hf'⟩ := h'.follows hs h₀
  obtain ⟨hemitted, hfailed⟩ := (hf.drains hset).unique (hf'.drains hset')
  refine ⟨hemitted, ?_⟩
  cases hp : p.failed <;> cases hq : q.failed <;> simp_all

end Fed

/-! ## Decoders that are closed -/

/-- Rounds whose outcome does not depend on where the input was cut, as long as none has
failed. -/
structure Cuttable (round : σ → List α → Round α σ ο) (I fresh : σ → Prop) : Prop where
  wait : ∀ {s b s' b'}, I s → round s b = .wait s' b' →
    I s' ∧ ∀ x, round s (b ++ x) = round s' (b' ++ x)
  emit : ∀ {s b o s' b'}, I s → round s b = .emit o s' b' →
    I s' ∧ fresh s' ∧ b'.length ≤ b.length ∧ (fresh s → b'.length < b.length) ∧
      ∀ x, round s (b ++ x) = .emit o s' (b' ++ x)
  fail : ∀ {s b s' b'}, I s → round s b = .fail s' b' →
    ∀ x, ∃ s'', round s (b ++ x) = .fail s'' (b' ++ x)

/-- A decoder that is closed when it fails. There is no state then, and no input is taken. -/
def closing (round : σ → List α → Round α σ ο) : Option σ → List α → Round α (Option σ) ο
  | none, b => .fail none b
  | some s, b =>
    match round s b with
    | .wait s b => .wait (some s) b
    | .emit o s b => .emit o (some s) b
    | .fail _ b => .fail none b

/-- A decoder that was closed where it failed. -/
def Progress.closed (p : Progress α σ ο) : Progress α (Option σ) ο :=
  ⟨if p.failed then none else some p.state, p.buffer, p.emitted, p.failed⟩

section Closing

variable {round : σ → List α → Round α σ ο} {I fresh : σ → Prop} {s₀ : σ} {received : List α}
  {p : Progress α σ ο}

/-- Where a decoder fails in the same state, nothing has to be closed. -/
theorem Splittable.cuttable (hs : Splittable round I fresh) : Cuttable round I fresh where
  wait := hs.wait
  emit := hs.emit
  fail hi hr x := ⟨_, (hs.fail hi hr x).1⟩

/-- Where it fails does not depend on the cuts either. -/
theorem Cuttable.splittable (hc : Cuttable round I fresh) :
    Splittable (closing round) (fun state => ∀ s ∈ state, I s)
      (fun state => ∀ s ∈ state, fresh s) where
  wait := by
    rintro (_ | s) b s' b' hi hr
    · cases hr
    · cases hr' : round s b with
      | wait s₁ b₁ =>
        rw [closing, hr'] at hr
        cases hr
        obtain ⟨hi', hmore⟩ := hc.wait (hi s rfl) hr'
        exact ⟨by rintro _ ⟨⟩; exact hi', fun x => by rw [closing, closing, hmore x]⟩
      | emit | fail => rw [closing, hr'] at hr; cases hr
  emit := by
    rintro (_ | s) b o s' b' hi hr
    · cases hr
    · cases hr' : round s b with
      | emit o₁ s₁ b₁ =>
        rw [closing, hr'] at hr
        cases hr
        obtain ⟨hi', hfresh, hle, hlt, hmore⟩ := hc.emit (hi s rfl) hr'
        exact ⟨by rintro _ ⟨⟩; exact hi', by rintro _ ⟨⟩; exact hfresh, hle,
          fun h => hlt (h s rfl), fun x => by rw [closing, hmore x]⟩
      | wait | fail => rw [closing, hr'] at hr; cases hr
  fail := by
    rintro (_ | s) b s' b' hi hr x
    · cases hr
      exact ⟨rfl, rfl⟩
    · cases hr' : round s b with
      | fail s₁ b₁ =>
        rw [closing, hr'] at hr
        cases hr
        obtain ⟨s'', hmore⟩ := hc.fail (hi s rfl) hr' x
        exact ⟨by rw [closing, hmore], rfl⟩
      | wait | emit => rw [closing, hr'] at hr; cases hr

theorem dispatch_closing (hf : p.failed = false) (fuel : ℕ) :
    dispatch (closing round) fuel p.closed = (dispatch round fuel p).closed := by
  induction fuel generalizing p with
  | zero => rfl
  | succ fuel ih =>
    obtain ⟨s, b, emitted, failed⟩ := p
    dsimp only at hf
    subst hf
    have hclosed : (⟨s, b, emitted, false⟩ : Progress α σ ο).closed = ⟨some s, b, emitted, false⟩ :=
      rfl
    rw [hclosed, dispatch, dispatch, closing]
    cases hr : round s b with
    | wait s' b' => rfl
    | fail s' b' => rfl
    | emit o s' b' =>
      cases b' with
      | nil => rfl
      | cons a b' => exact @ih ⟨s', a :: b', emitted ++ [o], false⟩ rfl

theorem Fed.closed (h : Fed round False s₀ received p) :
    Fed (closing round) True (some s₀) received p.closed := by
  induction h with
  | start => exact .start
  | @feed received p _ hagain x ih =>
    have hf : p.failed = false := by simpa using hagain
    have hfeed : (Resumable.feed round p x).closed =
        Resumable.feed (closing round) p.closed x := by
      unfold Resumable.feed
      split_ifs with hnil hnil' hnil'
      · rfl
      · exact absurd hnil hnil'
      · exact absurd hnil' hnil
      · exact (@dispatch_closing _ _ _ round { p with buffer := p.buffer ++ x } hf _).symm
    rw [hfeed]
    exact .feed ih (fun _ => trivial) x

/-- What comes behind the place where a decoder has failed stays in front of it. -/
theorem Fed.closed_append (h : Fed round False s₀ received p) {rest : List α}
    (hrest : p.failed = false → rest = []) :
    Fed (closing round) True (some s₀) (received ++ rest)
      { p.closed with buffer := p.buffer ++ rest } := by
  cases hf : p.failed with
  | false =>
    rw [hrest hf, List.append_nil, List.append_nil]
    exact h.closed
  | true =>
    have hfeed : Resumable.feed (closing round) p.closed rest =
        { p.closed with buffer := p.buffer ++ rest } := by
      unfold Resumable.feed
      split_ifs
      · rfl
      · simp [dispatch, Progress.closed, hf, closing]
    rw [← hfeed]
    exact .feed h.closed (fun _ => trivial) rest

/-- The outcome of an input does not depend on its chunks, where a decoder that has failed leaves
the rest of the input. -/
theorem Fed.unique_closed (hc : Cuttable round I fresh) (h₀ : I s₀)
    (h : Fed round False s₀ received p) {received' : List α} {q : Progress α σ ο}
    (h' : Fed round False s₀ received' q) {rest rest' : List α}
    (hrest : p.failed = false → rest = []) (hrest' : q.failed = false → rest' = [])
    (hsame : received ++ rest = received' ++ rest') :
    p.emitted = q.emitted ∧ p.failed = q.failed ∧
      (p.failed = true → p.buffer ++ rest = q.buffer ++ rest') := by
  have hp := h.closed_append hrest
  have hq := h'.closed_append hrest'
  rw [hsame] at hp
  exact hp.unique hc.splittable (by rintro _ ⟨⟩; exact h₀) hq

end Closing

/-! ## Conservation -/

/-- Rounds that keep what they take off the buffer : `held` is what a state keeps of an
unfinished item, `bytes` what an item was made of. -/
structure Conserves (round : σ → List α → Round α σ ο) (I : σ → Prop) (held : σ → List α)
    (bytes : ο → List α) (whole : ο → Prop) : Prop where
  wait : ∀ {s b s' b'}, I s → round s b = .wait s' b' → I s' ∧ held s' ++ b' = held s ++ b
  emit : ∀ {s b o s' b'}, I s → round s b = .emit o s' b' →
    I s' ∧ whole o ∧ bytes o ++ held s' ++ b' = held s ++ b

/-- All of the input is in the items, the state and the buffer, in this order. -/
structure Conserved (I : σ → Prop) (held : σ → List α) (bytes : ο → List α) (whole : ο → Prop)
    (received : List α) (p : Progress α σ ο) : Prop where
  inv : I p.state
  whole : ∀ o ∈ p.emitted, whole o
  all : p.emitted.flatMap bytes ++ held p.state ++ p.buffer = received

section Conserves

variable {round : σ → List α → Round α σ ο} {I : σ → Prop} {held : σ → List α}
  {bytes : ο → List α} {whole : ο → Prop} {s₀ : σ} {received : List α} {p : Progress α σ ο}

/-- The loop does not forget a failure. -/
theorem failed_dispatch (hf : p.failed = true) :
    ∀ fuel, (dispatch round fuel p).failed = true := by
  intro fuel
  induction fuel generalizing p with
  | zero => exact hf
  | succ fuel ih =>
    unfold dispatch
    cases round p.state p.buffer with
    | wait s b => exact hf
    | fail s b => rfl
    | emit o s b =>
      cases b with
      | nil => exact hf
      | cons a b => exact ih hf

theorem Conserved.dispatch (hc : Conserves round I held bytes whole) :
    ∀ (fuel : ℕ) {p : Progress α σ ο}, Conserved I held bytes whole received p →
      (dispatch round fuel p).failed = false →
        Conserved I held bytes whole received (dispatch round fuel p)
  | 0, _, h, _ => h
  | fuel + 1, p, h, hf => by
    unfold Resumable.dispatch at hf ⊢
    cases hr : round p.state p.buffer with
    | wait s b =>
      obtain ⟨hi, hall⟩ := hc.wait h.inv hr
      exact ⟨hi, h.whole, by rw [List.append_assoc, hall, ← List.append_assoc, h.all]⟩
    | fail s b =>
      rw [hr] at hf
      cases hf
    | emit o s b =>
      obtain ⟨hi, hwhole, hall⟩ := hc.emit h.inv hr
      have he : Conserved I held bytes whole received
          { p with state := s, buffer := b, emitted := p.emitted ++ [o] } := by
        refine ⟨hi, fun o' ho' => ?_, ?_⟩
        · rcases List.mem_append.mp ho' with ho' | ho'
          · exact h.whole o' ho'
          · exact List.mem_singleton.mp ho' ▸ hwhole
        · rw [← h.all, List.flatMap_append, List.flatMap_singleton, List.append_assoc,
            List.append_assoc, ← List.append_assoc (bytes o), hall, List.append_assoc]
      cases b with
      | nil => exact he
      | cons a b =>
        rw [hr] at hf
        exact Conserved.dispatch hc fuel he hf

/-- Until it fails, a decoder that conserves its input has all of it. -/
theorem Fed.conserved (hc : Conserves round I held bytes whole) (h₀ : I s₀) (hnil : held s₀ = [])
    {again : Prop} (h : Fed round again s₀ received p) (hf : p.failed = false) :
    Conserved I held bytes whole received p := by
  induction h with
  | start => exact ⟨h₀, by rintro _ ⟨⟩, by simp [hnil]⟩
  | @feed received p _ _ x ih =>
    unfold Resumable.feed at hf ⊢
    have happend : p.failed = false →
        Conserved I held bytes whole (received ++ x) { p with buffer := p.buffer ++ x } := by
      intro hp
      obtain ⟨hi, hwhole, hall⟩ := ih hp
      exact ⟨hi, hwhole, by rw [← List.append_assoc, hall]⟩
    split_ifs at hf ⊢
    · exact happend hf
    · refine Conserved.dispatch hc _ (happend ?_) hf
      cases hp : p.failed with
      | false => rfl
      | true =>
        have hfailed := @failed_dispatch _ _ _ round { p with buffer := p.buffer ++ x } hp
        rw [hfailed] at hf
        cases hf

end Conserves

/-! ## Rest -/

/-- Rounds that do again what they have ended with, and take something of the input for every item
but the one they were in the middle of. -/
structure Steady (round : σ → List α → Round α σ ο) (I fresh : σ → Prop) : Prop where
  wait : ∀ {s b s' b'}, I s → round s b = .wait s' b' → I s' ∧ round s' b' = .wait s' b'
  emit : ∀ {s b o s' b'}, I s → round s b = .emit o s' b' →
    I s' ∧ fresh s' ∧ b'.length ≤ b.length ∧ (fresh s → b'.length < b.length)
  fail : ∀ {s b s' b'}, I s → round s b = .fail s' b' → I s' ∧ round s' b' = .fail s' b'

/-- Without more input the decoder stays where it is. -/
def Rests (round : σ → List α → Round α σ ο) (fresh : σ → Prop) (p : Progress α σ ο) : Prop :=
  fresh p.state ∧ p.buffer = [] ∨ round p.state p.buffer = .wait p.state p.buffer ∨
    p.failed = true ∧ round p.state p.buffer = .fail p.state p.buffer

section Steady

variable {round : σ → List α → Round α σ ο} {I fresh : σ → Prop} {again : Prop} {s₀ : σ}
  {received : List α} {p : Progress α σ ο}

theorem rests_dispatch (hs : Steady round I fresh) :
    ∀ (fuel : ℕ) {p : Progress α σ ο}, p.buffer ≠ [] → I p.state →
      (fresh p.state ∧ p.buffer.length ≤ fuel ∨ p.buffer.length < fuel) →
        I (dispatch round fuel p).state ∧ Rests round fresh (dispatch round fuel p)
  | 0, p, hb, _, hn => by
    have hpos := List.length_pos_iff.mpr hb
    omega
  | fuel + 1, p, hb, hi, hn => by
    unfold Resumable.dispatch
    cases hr : round p.state p.buffer with
    | wait s b =>
      obtain ⟨hi', hagain⟩ := hs.wait hi hr
      exact ⟨hi', Or.inr (Or.inl hagain)⟩
    | fail s b =>
      obtain ⟨hi', hagain⟩ := hs.fail hi hr
      exact ⟨hi', Or.inr (Or.inr ⟨rfl, hagain⟩)⟩
    | emit o s b =>
      obtain ⟨hi', hfresh, hle, hlt⟩ := hs.emit hi hr
      cases b with
      | nil => exact ⟨hi', Or.inl ⟨hfresh, rfl⟩⟩
      | cons a b =>
        refine rests_dispatch hs fuel (List.cons_ne_nil _ _) hi' (Or.inl ⟨hfresh, ?_⟩)
        rcases hn with ⟨hstart, hn⟩ | hn
        · exact Nat.le_of_lt_succ (Nat.lt_of_lt_of_le (hlt hstart) hn)
        · exact Nat.le_of_lt_succ (Nat.lt_of_le_of_lt hle hn)

/-- However the input is cut, the decoder comes to rest. -/
theorem Fed.rests (hs : Steady round I fresh) (h₀ : I s₀) (hfresh : fresh s₀)
    (h : Fed round again s₀ received p) : I p.state ∧ Rests round fresh p := by
  induction h with
  | start => exact ⟨h₀, Or.inl ⟨hfresh, rfl⟩⟩
  | @feed received p _ _ x ih =>
    unfold Resumable.feed
    split_ifs with hnil
    · obtain ⟨hbuffer, rfl⟩ := List.append_eq_nil_iff.mp (List.isEmpty_iff.mp hnil)
      simpa using ih
    · exact rests_dispatch hs _ (fun h => hnil (List.isEmpty_iff.mpr h)) ih.1
        (Or.inr (Nat.lt_succ_self _))

end Steady

/-! ## The state of a decoder that has not failed -/

section Cuttable

variable {round : σ → List α → Round α σ ο} {I fresh : σ → Prop} {again : Prop} {s₀ : σ}
  {received : List α} {p : Progress α σ ο}

/-- The invariant of the rounds holds until one fails. -/
theorem Cuttable.inv_dispatch (hc : Cuttable round I fresh) :
    ∀ (fuel : ℕ) {p : Progress α σ ο}, I p.state → (dispatch round fuel p).failed = false →
      I (dispatch round fuel p).state
  | 0, _, hi, _ => hi
  | fuel + 1, p, hi, hf => by
    unfold Resumable.dispatch at hf ⊢
    cases hr : round p.state p.buffer with
    | wait s b => exact (hc.wait hi hr).1
    | fail s b => simp [hr] at hf
    | emit o s b =>
      have hi' := (hc.emit hi hr).1
      cases b with
      | nil => exact hi'
      | cons a b =>
        rw [hr] at hf
        exact hc.inv_dispatch fuel (p := ⟨s, a :: b, p.emitted ++ [o], p.failed⟩) hi' hf

theorem Fed.inv (hc : Cuttable round I fresh) (h₀ : I s₀) (h : Fed round again s₀ received p)
    (hf : p.failed = false) : I p.state := by
  induction h with
  | start => exact h₀
  | @feed received p _ _ x ih =>
    unfold Resumable.feed at hf ⊢
    have hp : p.failed = false := by
      by_contra hp
      rw [Bool.not_eq_false] at hp
      split_ifs at hf
      · simp [hp] at hf
      · simp [@failed_dispatch _ _ _ round { p with buffer := p.buffer ++ x } hp] at hf
    split_ifs at hf ⊢
    · exact ih hp
    · exact hc.inv_dispatch _ (ih hp) hf

end Cuttable

/-! ## Items of an input -/

/-- No item is the front of another one. -/
def PrefixFree (whole : List α → Prop) : Prop :=
  ∀ {a b}, whole a → whole b → a <+: b → a = b

/-- An input can be cut into items in one way only, up to a rest with no item in front. -/
theorem PrefixFree.flatten_unique {whole : List α → Prop} (h : PrefixFree whole) {x y : List α}
    (hx : ∀ a, whole a → ¬a <+: x) (hy : ∀ a, whole a → ¬a <+: y) :
    ∀ {as bs : List (List α)}, (∀ a ∈ as, whole a) → (∀ b ∈ bs, whole b) →
      as.flatten ++ x = bs.flatten ++ y → as = bs
  | [], [], _, _, _ => rfl
  | [], b :: bs, _, hbs, heq => by
    refine absurd ⟨bs.flatten ++ y, ?_⟩ (hx b (hbs b (by simp)))
    simpa using heq.symm
  | a :: as, [], has, _, heq => by
    refine absurd ⟨as.flatten ++ x, ?_⟩ (hy a (has a (by simp)))
    simpa using heq
  | a :: as, b :: bs, has, hbs, heq => by
    have ha := has a (by simp)
    have hb := hbs b (by simp)
    have heq : a ++ (as.flatten ++ x) = b ++ (bs.flatten ++ y) := by simpa using heq
    have hab : a = b := by
      rcases List.prefix_or_prefix_of_prefix (List.prefix_append a (as.flatten ++ x))
        (heq ▸ List.prefix_append b (bs.flatten ++ y)) with hprefix | hprefix
      · exact h ha hb hprefix
      · exact (h hb ha hprefix).symm
    subst hab
    rw [PrefixFree.flatten_unique h hx hy (fun a ha => has a (by simp [ha]))
      (fun b hb => hbs b (by simp [hb])) (List.append_cancel_left heq)]

/-! ## Items read again -/

/-- An item that a decoder started in `s₀` reads from its own bytes, and then starts again. -/
structure Reads (round : σ → List α → Round α σ ο) (bytes : ο → List α) (s₀ : σ) (o : ο) :
    Prop where
  nonempty : bytes o ≠ []
  emit : round s₀ (bytes o) = .emit o s₀ []

/-- Input that is a part of an item, unless it is empty. -/
def Part (round : σ → List α → Round α σ ο) (bytes : ο → List α) (s₀ : σ) (part : List α) : Prop :=
  part ≠ [] → ∃ o rest, Reads round bytes s₀ o ∧ rest ≠ [] ∧ part ++ rest = bytes o

/-- Rounds that start again in `s₀` behind every item, which takes some input, and that do not wait
where an item is in front. -/
structure Restarts (round : σ → List α → Round α σ ο) (I : σ → Prop) (held : σ → List α)
    (bytes : ο → List α) (whole : ο → Prop) (s₀ : σ) : Prop
    extends Conserves round I held bytes whole where
  init : I s₀ ∧ held s₀ = []
  nonempty : ∀ {o}, whole o → bytes o ≠ []
  again : ∀ {s b o s' b'}, I s → round s b = .emit o s' b' → s' = s₀
  prompt : ∀ {s b s' b'}, I s → round s b = .wait s' b' →
    ∀ o, whole o → ¬bytes o <+: held s ++ b

/-- A decoder in the middle of an item, of which `received` has come : it does what a decoder
started in `s₀` does on that. -/
structure Stands (round : σ → List α → Round α σ ο) (I : σ → Prop) (held : σ → List α) (s₀ : σ)
    (received : List α) (s : σ) (b : List α) : Prop where
  inv : I s
  all : held s ++ b = received
  same : ∀ x, round s (b ++ x) = round s₀ (received ++ x)

section Restarts

variable {round : σ → List α → Round α σ ο} {I J fresh : σ → Prop} {held : σ → List α}
  {bytes : ο → List α} {whole : ο → Prop} {s₀ s s' : σ} {received b b' : List α} {o : ο}

theorem Restarts.stands (hr : Restarts round I held bytes whole s₀) (b : List α) :
    Stands round I held s₀ b s₀ b :=
  ⟨hr.init.1, by rw [hr.init.2, List.nil_append], fun _ => rfl⟩

theorem Stands.append (h : Stands round I held s₀ received s b) (x : List α) :
    Stands round I held s₀ (received ++ x) s (b ++ x) :=
  ⟨h.inv, by rw [← List.append_assoc, h.all], fun y => by
    rw [List.append_assoc, List.append_assoc, h.same]⟩

variable (hs : Splittable round J fresh) (hr : Restarts round I held bytes whole s₀)
include hs hr

theorem Stands.wait (h : Stands round I held s₀ received s b) (hJ : J s)
    (hround : round s b = .wait s' b') : Stands round I held s₀ received s' b' := by
  obtain ⟨hinv, hall⟩ := hr.wait h.inv hround
  exact ⟨hinv, hall.trans h.all, fun x => ((hs.wait hJ hround).2 x).symm.trans (h.same x)⟩

/-- The item is what has come, up to what is left of the buffer, and is read again from its own
bytes. -/
theorem Stands.emit (h : Stands round I held s₀ received s b) (hJ : J s₀)
    (hround : round s b = .emit o s' b') :
    s' = s₀ ∧ whole o ∧ bytes o ++ b' = received ∧ Reads round bytes s₀ o := by
  obtain ⟨-, hwhole, hall⟩ := hr.emit h.inv hround
  obtain rfl := hr.again h.inv hround
  rw [hr.init.2, List.append_nil, h.all] at hall
  refine ⟨rfl, hwhole, hall, hr.nonempty hwhole, ?_⟩
  have hreceived : round s' (bytes o ++ b') = .emit o s' b' := by
    have hsame := h.same []
    rw [List.append_nil, List.append_nil, hround] at hsame
    rw [hall, hsame]
  cases hown : round s' (bytes o) with
  | wait t c =>
    refine absurd ?_ (hr.prompt hr.init.1 hown o hwhole)
    rw [hr.init.2]
    exact List.prefix_rfl
  | fail t c =>
    rw [((hs.fail hJ hown) b').1] at hreceived
    cases hreceived
  | emit o' t c =>
    rw [(hs.emit hJ hown).2.2.2.2 b'] at hreceived
    injection hreceived with ho ht hc
    have hnil : c = [] := List.append_left_eq_self.mp hc
    rw [ho, ht, hnil]

/-- A decoder that stands where one just started would, or has failed for good, with items that are
read again. -/
structure Restarted (round : σ → List α → Round α σ ο) (I J : σ → Prop) (held : σ → List α)
    (bytes : ο → List α) (s₀ : σ) (p : Progress α σ ο) : Prop where
  stands : p.failed = false → J p.state ∧
    ∃ received, Stands round I held s₀ received p.state p.buffer
  stuck : p.failed = true → ∀ x, round p.state (p.buffer ++ x) = .fail p.state (p.buffer ++ x)
  reads : ∀ o ∈ p.emitted, Reads round bytes s₀ o

theorem Restarted.dispatch (h₀ : J s₀) : ∀ (fuel : ℕ) {p : Progress α σ ο},
    Restarted round I J held bytes s₀ p → Restarted round I J held bytes s₀ (dispatch round fuel p)
  | 0, _, h => h
  | fuel + 1, p, h => by
    unfold Resumable.dispatch
    cases hf : p.failed with
    | true =>
      have hagain := h.stuck hf []
      rw [List.append_nil] at hagain
      rw [hagain]
      simpa only [← hf] using h
    | false =>
      obtain ⟨hJ, received, hstands⟩ := h.stands hf
      cases hround : round p.state p.buffer with
      | wait s b =>
        exact ⟨fun _ => ⟨(hs.wait hJ hround).1, received, hstands.wait hs hr hJ hround⟩,
          fun hf' => (by cases hf'), h.reads⟩
      | fail s b =>
        exact ⟨fun hf' => (by cases hf'), fun _ x => (hs.fail hJ hround x).2, h.reads⟩
      | emit o s b =>
        obtain ⟨hback, -, -, hreads⟩ := hstands.emit hs hr h₀ hround
        have hnext : Restarted round I J held bytes s₀ ⟨s, b, p.emitted ++ [o], false⟩ := by
          rw [hback]
          refine ⟨fun _ => ⟨h₀, b, hr.stands b⟩, fun hf' => (by cases hf'), fun o' ho' => ?_⟩
          rcases List.mem_append.mp ho' with ho' | ho'
          · exact h.reads o' ho'
          · exact List.mem_singleton.mp ho' ▸ hreads
        cases b with
        | nil => simpa only [hf] using hnext
        | cons a b => exact Restarted.dispatch h₀ fuel (by simpa only [hf] using hnext)

/-- Every item of a decoder is read again from its own bytes. -/
theorem Fed.reads (h₀ : J s₀) {again : Prop} {p : Progress α σ ο}
    (h : Fed round again s₀ received p) : Restarted round I J held bytes s₀ p := by
  induction h with
  | start => exact ⟨fun _ => ⟨h₀, [], hr.stands []⟩, by rintro ⟨⟩, by rintro o ⟨⟩⟩
  | @feed received p _ _ x ih =>
    have happend : Restarted round I J held bytes s₀ { p with buffer := p.buffer ++ x } := by
      refine ⟨fun hf => ?_, fun hf y => ?_, ih.reads⟩
      · obtain ⟨hJ, received, hstands⟩ := ih.stands hf
        exact ⟨hJ, received ++ x, hstands.append x⟩
      · dsimp only
        rw [List.append_assoc]
        exact ih.stuck hf (x ++ y)
    unfold Resumable.feed
    split_ifs
    · exact happend
    · exact happend.dispatch hs hr h₀ _

omit hr in
/-- Items in front of an input that are read from their own bytes are read first. -/
theorem drains_items (h₀ : J s₀) {input : List α} {more : List ο} {failed : Option (List α)}
    (h : Drains round s₀ input more failed) : ∀ {os : List ο},
      (∀ o ∈ os, Reads round bytes s₀ o) →
        Drains round s₀ (os.flatMap bytes ++ input) (os ++ more) failed
  | [], _ => h
  | o :: os, hos => by
    have ho := hos o List.mem_cons_self
    have hemit := (hs.emit h₀ ho.emit).2.2.2.2 (os.flatMap bytes ++ input)
    rw [List.nil_append] at hemit
    rw [List.flatMap_cons, List.append_assoc]
    exact .emit (by simp [ho.nonempty]) hemit
      (drains_items h₀ h fun o' ho' => hos o' (List.mem_cons_of_mem o ho'))

omit hr in
/-- A decoder that has got an input has emitted its items, and failed where it fails. -/
theorem Fed.outcome (h₀ : J s₀) {again : Prop} {p : Progress α σ ο} {os : List ο}
    {failed : Option (List α)} (hd : Drains round s₀ received os failed)
    (h : Fed round again s₀ received p) : p.emitted = os ∧ p.failed = failed.isSome := by
  obtain ⟨hset, hf⟩ := h.follows hs h₀
  obtain ⟨hemitted, hfailed⟩ := (hf.drains hset).unique hd
  refine ⟨hemitted, ?_⟩
  rw [← hfailed]
  cases p.failed <;> rfl

omit hr in
/-- A part of an item is no item : the decoder waits for the rest of it. -/
theorem drains_part (h₀ : J s₀) {part : List α} (hpart : Part round bytes s₀ part) :
    Drains round s₀ part [] none := by
  by_cases hnil : part = []
  · rw [hnil]
    exact .nil
  obtain ⟨o, rest, ho, hrest, hall⟩ := hpart hnil
  cases hround : round s₀ part with
  | wait s b => exact .wait hnil hround
  | fail s b =>
    have hmore := (hs.fail h₀ hround rest).1
    rw [hall, ho.emit] at hmore
    cases hmore
  | emit o' s b =>
    have hmore := (hs.emit h₀ hround).2.2.2.2 rest
    rw [hall, ho.emit] at hmore
    injection hmore with _ _ hempty
    exact absurd (List.append_eq_nil_iff.mp hempty.symm).2 hrest

omit hr in
/-- Items that are read from their own bytes are read one by one, however their bytes are cut. -/
theorem Fed.emitted_part (h₀ : J s₀) {again : Prop} {p : Progress α σ ο} {os : List ο}
    {part : List α} (hos : ∀ o ∈ os, Reads round bytes s₀ o) (hpart : Part round bytes s₀ part)
    (h : Fed round again s₀ (os.flatMap bytes ++ part) p) : p.emitted = os ∧ p.failed = false := by
  have hdrains := drains_items hs h₀ (drains_part hs h₀ hpart) hos
  rw [List.append_nil] at hdrains
  exact h.outcome hs h₀ hdrains

omit hr in
theorem Fed.emitted_eq (h₀ : J s₀) {again : Prop} {p : Progress α σ ο} {os : List ο}
    (hos : ∀ o ∈ os, Reads round bytes s₀ o)
    (h : Fed round again s₀ (os.flatMap bytes) p) : p.emitted = os ∧ p.failed = false := by
  have hpart : Part round bytes s₀ [] := fun hne => absurd rfl hne
  rw [← List.append_nil (os.flatMap bytes)] at h
  exact h.emitted_part hs h₀ hos hpart

end Restarts

section Cut

variable {round : σ → List α → Round α σ ο} {I fresh : σ → Prop} {bytes : ο → List α} {s₀ : σ}
  {o : ο} {part received : List α} {p : Progress α σ ο}

theorem Reads.closing (h : Reads round bytes s₀ o) :
    Reads (closing round) bytes (some s₀) o :=
  ⟨h.nonempty, by rw [Resumable.closing, h.emit]⟩

theorem Part.closing (h : Part round bytes s₀ part) :
    Part (closing round) bytes (some s₀) part := fun hne =>
  let ⟨o, rest, ho, hrest⟩ := h hne
  ⟨o, rest, ho.closing, hrest⟩

theorem failed_feed (hf : p.failed = true) (x : List α) : (feed round p x).failed = true := by
  unfold feed
  split_ifs
  · exact hf
  · exact failed_dispatch (p := { p with buffer := p.buffer ++ x }) hf _

/-- A decoder that is given items, and a part of one behind them, fails nowhere, and has emitted
the items in the end. -/
theorem Fed.emitted_cut (hc : Cuttable round I fresh) (h₀ : I s₀) {os : List ο}
    (hos : ∀ o ∈ os, Reads round bytes s₀ o) (hpart : Part round bytes s₀ part)
    (h : Fed round False s₀ received p) {x : List α}
    (hx : received ++ x = os.flatMap bytes ++ part) :
    p.failed = false ∧ (x = [] → p.emitted = os) := by
  have hall : ∀ {q : Progress α (Option σ) ο},
      Fed (Resumable.closing round) True (some s₀) (received ++ x) q →
        q.emitted = os ∧ q.failed = false := fun hq =>
    Fed.emitted_part hc.splittable (by rintro _ ⟨⟩; exact h₀) (fun o ho => (hos o ho).closing)
      hpart.closing (hx ▸ hq)
  refine ⟨?_, ?_⟩
  · cases hf : p.failed with
    | false => rfl
    | true =>
      have hmore := (hall (h.closed.feed (fun _ => trivial) x)).2
      rw [failed_feed (p := p.closed) hf x] at hmore
      cases hmore
  · rintro rfl
    exact (hall (by rw [List.append_nil]; exact h.closed)).1

end Cut

end Resumable

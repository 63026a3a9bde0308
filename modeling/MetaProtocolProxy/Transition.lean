import Mathlib.Data.List.Induction

/-!
# Runs of a transition system

A system is given by when an event can happen and what it does. `Always` says something
of every event of a run in the state that finds it, and `Throughout` something of every
state of a run. An invariant that one step keeps holds throughout
(`throughout_of_step`); where a step keeps it exactly under a condition, it holds
throughout exactly if the condition always does (`throughout_iff_always`). What depends on
the events that have happened is shown event by event from the end (`history`). Where the events
have owners, what an owner sees depends on its own events only (`agree_run_filter`). Where an event
can be cut in two, it makes no difference whether it is (`agree_run_pieces`). Tasks that can be done
in any order can all be done (`run_tasks`).
-/

/-- A deterministic transition system with states `σ` and events `ε`. -/
structure Transition (σ ε : Type*) where
  Enabled : σ → ε → Prop
  step : σ → ε → σ

namespace Transition

variable {σ ε : Type*} (S : Transition σ ε)

/-- The state after the events. -/
def run (s : σ) (es : List ε) : σ :=
  es.foldl S.step s

/-- Every event satisfies `C` in the state that finds it. -/
def Always (C : σ → ε → Prop) : σ → List ε → Prop
  | _, [] => True
  | s, e :: es => C s e ∧ Always C (S.step s e) es

instance decidableAlways {C : σ → ε → Prop} [∀ s e, Decidable (C s e)] :
    ∀ (s : σ) (es : List ε), Decidable (S.Always C s es)
  | _, [] => inferInstanceAs (Decidable True)
  | s, e :: es =>
    have : Decidable (S.Always C (S.step s e) es) := decidableAlways _ _
    inferInstanceAs (Decidable (C s e ∧ S.Always C (S.step s e) es))

/-- Every state of the run satisfies `I`, the first and the last included. -/
def Throughout (I : σ → Prop) : σ → List ε → Prop
  | s, [] => I s
  | s, e :: es => I s ∧ Throughout I (S.step s e) es

/-- Every event can happen where it does. -/
def Admissible (s : σ) (es : List ε) : Prop :=
  S.Always S.Enabled s es

instance (s : σ) (es : List ε) [∀ s e, Decidable (S.Enabled s e)] :
    Decidable (S.Admissible s es) :=
  inferInstanceAs (Decidable (S.Always S.Enabled s es))

section Runs

variable {S} {I : σ → Prop} {C : σ → ε → Prop}

@[simp] theorem run_nil (s : σ) : S.run s [] = s :=
  rfl

@[simp] theorem run_cons (s : σ) (e : ε) (es : List ε) :
    S.run s (e :: es) = S.run (S.step s e) es :=
  rfl

theorem run_append (s : σ) (es es' : List ε) : S.run s (es ++ es') = S.run (S.run s es) es' :=
  List.foldl_append

theorem always_append : ∀ {s : σ} {es es' : List ε},
    S.Always C s (es ++ es') ↔ S.Always C s es ∧ S.Always C (S.run s es) es'
  | _, [], _ => by simp [Always]
  | s, e :: es, es' => by
    simp only [List.cons_append, Always, run_cons, always_append, and_assoc]

/-- What holds always holds wherever the run is cut. -/
theorem always_iff_forall {s : σ} {es : List ε} : S.Always C s es ↔
    ∀ es₁ e es₂, es = es₁ ++ e :: es₂ → C (S.run s es₁) e := by
  refine ⟨fun h es₁ e es₂ hes => ?_, fun h => ?_⟩
  · subst hes
    exact (always_append.mp h).2.1
  · induction es generalizing s with
    | nil => exact trivial
    | cons e es ih =>
      exact ⟨h [] e es rfl, ih fun es₁ e' es₂ hes => h (e :: es₁) e' es₂ (by rw [hes]; rfl)⟩

theorem always_congr {D : σ → ε → Prop} (h : ∀ s e, C s e ↔ D s e) :
    ∀ {s : σ} {es : List ε}, S.Always C s es ↔ S.Always D s es
  | _, [] => Iff.rfl
  | _, _ :: _ => and_congr (h _ _) (always_congr h)

theorem always_congr_of_admissible {D : σ → ε → Prop} (h : ∀ s e, S.Enabled s e → (C s e ↔ D s e)) :
    ∀ {s : σ} {es : List ε}, S.Admissible s es → (S.Always C s es ↔ S.Always D s es)
  | _, [], _ => Iff.rfl
  | _, _ :: _, he => and_congr (h _ _ he.1) (always_congr_of_admissible h he.2)

theorem admissible_append {s : σ} {es es' : List ε} :
    S.Admissible s (es ++ es') ↔ S.Admissible s es ∧ S.Admissible (S.run s es) es' :=
  always_append

/-- Where the events of one owner do the same to states that agree, and no other event makes a
difference, states that agree come to agree by the events of the owner alone. -/
theorem agree_run_filter {A : σ → σ → Prop} {J : σ → Prop} {D : ε → Prop} {own : ε → Bool}
    (hJ : ∀ s e, D e → J s → J (S.step s e))
    (hown : ∀ s s' e, D e → own e = true → J s → J s' → A s s' → A (S.step s e) (S.step s' e))
    (hother : ∀ s s' e, D e → own e = false → J s → A s s' → A (S.step s e) s') :
    ∀ {es : List ε} {s s' : σ}, (∀ e ∈ es, D e) → J s → J s' → A s s' →
      A (S.run s es) (S.run s' (es.filter own))
  | [], _, _, _, _, _, h => h
  | e :: es, s, s', hD, hs, hs', h => by
    have he := hD e List.mem_cons_self
    have hes := fun e' he' => hD e' (List.mem_cons_of_mem e he')
    cases ho : own e with
    | true =>
      rw [List.filter_cons_of_pos ho]
      exact agree_run_filter hJ hown hother hes (hJ s e he hs) (hJ s' e he hs')
        (hown s s' e he ho hs hs' h)
    | false =>
      rw [List.filter_cons_of_neg (by simp [ho])]
      exact agree_run_filter hJ hown hother hes (hJ s e he hs) hs' (hother s s' e he ho hs h)

/-- What holds at the start, and is kept when one more event happens, holds of every run together
with its events. -/
theorem history {s : σ} {P : List ε → σ → Prop} (hnil : P [] s)
    (hconcat : ∀ es e, S.Admissible s es → S.Enabled (S.run s es) e → P es (S.run s es) →
      P (es ++ [e]) (S.step (S.run s es) e)) (es : List ε) (h : S.Admissible s es) :
    P es (S.run s es) := by
  induction es using List.reverseRecOn with
  | nil => exact hnil
  | append_singleton es e ih =>
    obtain ⟨hes, he, -⟩ := admissible_append.mp h
    rw [run_append]
    exact hconcat es e hes he (ih hes)

/-- An event of a run with one more event is the last one, or an event of the run before. -/
theorem split_concat {es es₁ es₂ : List ε} {e e' : ε} (h : es ++ [e'] = es₁ ++ e :: es₂) :
    (es₁ = es ∧ e = e' ∧ es₂ = []) ∨ ∃ es₃, es₂ = es₃ ++ [e'] ∧ es = es₁ ++ e :: es₃ := by
  rcases List.eq_nil_or_concat es₂ with rfl | ⟨es₃, e₃, rfl⟩
  · obtain ⟨hes, he⟩ := List.append_inj' h rfl
    exact Or.inl ⟨hes.symm, (List.singleton_inj.mp he).symm, rfl⟩
  · have h' : es ++ [e'] = (es₁ ++ e :: es₃) ++ [e₃] := by simpa using h
    obtain ⟨hes, he⟩ := List.append_inj' h' rfl
    obtain rfl := List.singleton_inj.mp he
    exact Or.inr ⟨es₃, by simp, hes⟩

/-- What does not hold at the start and holds at the end of a run has come to hold by some event,
and has held since. -/
theorem exists_since {P : σ → Prop} {s : σ} (hs : ¬P s) (es : List ε) (h : P (S.run s es)) :
    ∃ es₁ e es₂, es = es₁ ++ e :: es₂ ∧ ¬P (S.run s es₁) ∧
      ∀ es₃ es₄, es₂ = es₃ ++ es₄ → P (S.run s (es₁ ++ e :: es₃)) := by
  induction es using List.reverseRecOn with
  | nil => exact absurd h hs
  | append_singleton es a ih =>
    by_cases hbefore : P (S.run s es)
    · obtain ⟨es₁, e, es₂, rfl, hnot, hsince⟩ := ih hbefore
      refine ⟨es₁, e, es₂ ++ [a], by simp, hnot, fun es₃ es₄ hes => ?_⟩
      rcases List.eq_nil_or_concat es₄ with rfl | ⟨es₄, b, rfl⟩
      · rw [List.append_nil] at hes
        rw [← hes]
        simpa using h
      · have hes' : es₂ ++ [a] = (es₃ ++ es₄) ++ [b] := by simpa using hes
        exact hsince es₃ es₄ (List.append_inj' hes' rfl).1
    · refine ⟨es, a, [], rfl, hbefore, fun es₃ es₄ hes => ?_⟩
      obtain ⟨rfl, -⟩ := List.append_eq_nil_iff.mp hes.symm
      exact h

theorem Throughout.first {s : σ} : ∀ {es : List ε}, S.Throughout I s es → I s
  | [], h => h
  | _ :: _, h => h.1

theorem Throughout.last : ∀ {s : σ} {es : List ε}, S.Throughout I s es → I (S.run s es)
  | _, [], h => h
  | _, _ :: _, h => h.2.last

theorem Throughout.mono {J : σ → Prop} (hIJ : ∀ s, I s → J s) :
    ∀ {s : σ} {es : List ε}, S.Throughout I s es → S.Throughout J s es
  | _, [], h => hIJ _ h
  | _, _ :: _, h => ⟨hIJ _ h.1, h.2.mono hIJ⟩

/-- What every step keeps holds throughout. -/
theorem throughout_of_step (hstep : ∀ s e, I s → S.Enabled s e → C s e → I (S.step s e)) :
    ∀ {s : σ} {es : List ε}, I s → S.Admissible s es → S.Always C s es → S.Throughout I s es
  | _, [], hI, _, _ => hI
  | _, _ :: _, hI, he, hC =>
    ⟨hI, throughout_of_step hstep (hstep _ _ hI he.1 hC.1) he.2 hC.2⟩

/-- Where a step keeps `I` exactly under `C`, the states of a run satisfy `I` exactly if
its events satisfy `C`. `J` is what is known of the states anyway. -/
theorem throughout_iff_always {J : σ → Prop}
    (hJ : ∀ s e, J s → S.Enabled s e → J (S.step s e))
    (hstep : ∀ s e, J s → I s → S.Enabled s e → (I (S.step s e) ↔ C s e)) :
    ∀ {s : σ} {es : List ε}, J s → I s → S.Admissible s es →
      (S.Throughout I s es ↔ S.Always C s es)
  | _, [], _, hI, _ => ⟨fun _ => trivial, fun _ => hI⟩
  | s, e :: es, hs, hI, he => by
    refine ⟨fun h => ?_, fun h => ?_⟩
    · have hC := (hstep s e hs hI he.1).mp h.2.first
      exact ⟨hC, (throughout_iff_always hJ hstep (hJ s e hs he.1) h.2.first he.2).mp h.2⟩
    · have hI' := (hstep s e hs hI he.1).mpr h.1
      exact ⟨hI, (throughout_iff_always hJ hstep (hJ s e hs he.1) hI' he.2).mpr h.2⟩

/-- The first events are the second ones, some of them cut into pieces, in two and in two again. -/
inductive InPieces (pieces : ε → ε → ε → Prop) : List ε → List ε → Prop
  | nil : InPieces pieces [] []
  | cons (e : ε) {es es' : List ε} (h : InPieces pieces es es') :
      InPieces pieces (e :: es) (e :: es')
  | cut {e e₁ e₂ : ε} {es es' : List ε} (he : pieces e e₁ e₂)
      (h : InPieces pieces (e :: es) es') : InPieces pieces (e₁ :: e₂ :: es) es'

/-- States that agree come to agree by the same events, if these are enabled in one of them. -/
theorem agree_run {A : σ → σ → Prop} {J : σ → Prop}
    (hJ : ∀ s e, J s → S.Enabled s e → J (S.step s e))
    (henabled : ∀ s s' e, A s s' → S.Enabled s e → S.Enabled s' e)
    (hstep : ∀ s s' e, J s → A s s' → S.Enabled s e → A (S.step s e) (S.step s' e)) :
    ∀ {es : List ε} {s s' : σ}, J s → A s s' → S.Admissible s es →
      S.Admissible s' es ∧ A (S.run s es) (S.run s' es)
  | [], _, _, _, h, _ => ⟨trivial, h⟩
  | e :: _, s, s', hs, h, hes => by
    obtain ⟨hadmissible, hrun⟩ := agree_run hJ henabled hstep (hJ s e hs hes.1)
      (hstep s s' e hs h hes.1) hes.2
    exact ⟨⟨henabled s s' e h hes.1, hadmissible⟩, hrun⟩

/-- Where two pieces do what the whole event does, it makes no difference to a run whether its
events come in pieces. -/
theorem agree_run_pieces {A : σ → σ → Prop} {J : σ → Prop} {pieces : ε → ε → ε → Prop}
    (htrans : ∀ s s' s'', A s s' → A s' s'' → A s s'')
    (hJ : ∀ s e, J s → S.Enabled s e → J (S.step s e))
    (henabled : ∀ s s' e, A s s' → S.Enabled s e → S.Enabled s' e)
    (hstep : ∀ s s' e, J s → A s s' → S.Enabled s e → A (S.step s e) (S.step s' e))
    (hpieces : ∀ s e e₁ e₂, pieces e e₁ e₂ → J s → S.Enabled s e₁ → S.Enabled (S.step s e₁) e₂ →
      S.Enabled s e ∧ A (S.step (S.step s e₁) e₂) (S.step s e))
    {es es' : List ε} (h : InPieces pieces es es') : ∀ {s s' : σ}, J s → A s s' →
      S.Admissible s es → S.Admissible s' es' ∧ A (S.run s es) (S.run s' es') := by
  induction h with
  | nil => exact fun _ h _ => ⟨trivial, h⟩
  | cons e _ ih =>
    intro s s' hs h hes
    obtain ⟨hadmissible, hrun⟩ := ih (hJ s e hs hes.1) (hstep s s' e hs h hes.1) hes.2
    exact ⟨⟨henabled s s' e h hes.1, hadmissible⟩, hrun⟩
  | @cut e e₁ e₂ es es' he _ ih =>
    rintro s s' hs h ⟨he₁, he₂, hes⟩
    obtain ⟨hwhole, hagree⟩ := hpieces s e e₁ e₂ he hs he₁ he₂
    have hpiece := hJ _ e₂ (hJ s e₁ hs he₁) he₂
    obtain ⟨hadmissible, hrun⟩ := agree_run hJ henabled hstep hpiece hagree hes
    obtain ⟨hadmissible', hrun'⟩ := ih hs h ⟨hwhole, hadmissible⟩
    exact ⟨hadmissible', htrans _ _ _ hrun hrun'⟩

/-! ## Tasks -/

variable (S) in
/-- No event can happen. -/
def Quiescent (s : σ) : Prop :=
  ∀ e, ¬S.Enabled s e

/-- Where a task that is left can be done, and doing it changes nothing about the others, all that
are left can be done one after the other. -/
theorem run_tasks {ι : Type*} {J : σ → Prop} {done : ι → σ → Prop} {task : ι → ε}
    (henabled : ∀ s i, J s → ¬done i s → S.Enabled s (task i))
    (hstep : ∀ s i, J s → ¬done i s →
      J (S.step s (task i)) ∧ ∀ j, done j (S.step s (task i)) ↔ done j s ∨ j = i) :
    ∀ {is : List ι} {s : σ}, J s → is.Nodup → (∀ i ∈ is, ¬done i s) →
      S.Admissible s (is.map task) ∧ J (S.run s (is.map task)) ∧
        ∀ j, done j (S.run s (is.map task)) ↔ done j s ∨ j ∈ is
  | [], s, hs, _, _ => ⟨trivial, hs, by simp⟩
  | i :: is, s, hs, hnodup, hleft => by
    have hi := hleft i List.mem_cons_self
    obtain ⟨hnot, hnodup⟩ := List.nodup_cons.mp hnodup
    obtain ⟨hs', hdone⟩ := hstep s i hs hi
    have hleft' : ∀ j ∈ is, ¬done j (S.step s (task i)) := by
      intro j hj hd
      rcases (hdone j).mp hd with hd | rfl
      · exact hleft j (List.mem_cons_of_mem i hj) hd
      · exact hnot hj
    obtain ⟨hadmissible, hrun, hall⟩ := run_tasks henabled hstep hs' hnodup hleft'
    refine ⟨⟨henabled s i hs hi, hadmissible⟩, hrun, fun j => ?_⟩
    rw [List.map_cons, run_cons, hall, hdone, List.mem_cons, or_assoc]

end Runs

end Transition

/-
  StarServer.Runs.Interleave — one run with the events of two components in it.

  A run folds a total step function; each step may give something out. The events of one
  component are `mine`, and `R` says that two states are the same to it.

  Proved:
    * `foldl_filter_rel`: where the other events keep `R`, a run is, to the component, the run
      of its own events;
    * `outs_filter_iff`: where its own events keep `R` only if `Same`, and give out the same
      only then, the outputs of the two runs are equal exactly when each of them is `Same`.
-/

import Mathlib.Data.List.Induction

namespace StarServer.Runs

variable {σ ε ρ : Type} (f : σ → ε → σ) (out : σ → ε → List ρ)

/-- What the steps of a run give out. -/
def outs : σ → List ε → List ρ
  | _, [] => []
  | s, e :: es => out s e ++ outs (f s e) es

/-- Each event has `P` with those before it. -/
def AtEach (P : List ε → ε → Prop) (es : List ε) : Prop := ∀ pre e post, es = pre ++ e :: post → P pre e

theorem outs_append (s : σ) (es es' : List ε) : outs f out s (es ++ es') = outs f out s es ++ outs f out (es.foldl f s) es' := by
  induction es generalizing s with
  | nil => rfl
  | cons e es ih =>
    simp only [List.cons_append, outs, List.foldl_cons, List.append_assoc]
    rw [ih]

theorem outs_concat (s : σ) (es : List ε) (e : ε) : outs f out s (es ++ [e]) = outs f out s es ++ out (es.foldl f s) e := by
  rw [outs_append]
  simp only [outs, List.append_nil]

theorem outs_silent {es : List ε} (h : ∀ e ∈ es, ∀ s, out s e = []) (s : σ) : outs f out s es = [] := by
  induction es generalizing s with
  | nil => rfl
  | cons e es ih =>
    simp only [outs]
    rw [h e List.mem_cons_self, ih fun e' he' => h e' (List.mem_cons_of_mem _ he')]
    rfl

theorem atEach_nil (P : List ε → ε → Prop) : AtEach P [] := by
  intro pre e post h
  cases pre <;> cases h

theorem atEach_concat {P : List ε → ε → Prop} {es : List ε} {e : ε} : AtEach P (es ++ [e]) ↔ AtEach P es ∧ P es e := by
  constructor
  · intro h
    refine ⟨fun pre e' post hes => h pre e' (post ++ [e]) ?_, h es e [] rfl⟩
    rw [hes]
    simp
  · rintro ⟨hes, he⟩ pre e' post h
    rcases List.eq_nil_or_concat post with rfl | ⟨post', x, rfl⟩
    · obtain ⟨rfl, hx⟩ := List.append_inj' h rfl
      cases hx
      exact he
    · have hsplit : es ++ [e] = (pre ++ e' :: post') ++ [x] := by
        rw [h]
        simp
      obtain ⟨hpre, -⟩ := List.append_inj' hsplit rfl
      exact hes pre e' post' hpre

variable {f out} {mine : ε → Bool} {R : σ → σ → Prop}

/-- Events that are not the component's leave its own to decide. -/
theorem foldl_filter_rel (hown : ∀ s t e, mine e = true → R s t → R (f s e) (f t e))
    (hother : ∀ s t e, mine e = false → R s t → R (f s e) t) {s t : σ} (h : R s t) (es : List ε) :
    R (es.foldl f s) ((es.filter mine).foldl f t) := by
  induction es generalizing s t with
  | nil => exact h
  | cons e es ih =>
    cases hm : mine e with
    | true =>
      rw [List.filter_cons_of_pos hm]
      exact ih (hown s t e hm h)
    | false =>
      rw [List.filter_cons_of_neg (by rw [hm]; decide)]
      exact ih (hother s t e hm h)

/-- Events that keep `R` to one and the same state. -/
theorem foldl_rel_left {es : List ε} (h : ∀ e ∈ es, ∀ s t, R s t → R (f s e) t) {s t : σ} (hst : R s t) : R (es.foldl f s) t := by
  induction es generalizing s with
  | nil => exact hst
  | cons e es ih => exact ih (fun e' he' => h e' (List.mem_cons_of_mem _ he')) (h e List.mem_cons_self s t hst)

/-- A component whose own events are the same to it, and give out the same, where `Same`. -/
structure Owns (f : σ → ε → σ) (out : σ → ε → List ρ) (mine : ε → Bool) (R : σ → σ → Prop) (Same : σ → σ → ε → Prop) : Prop where
  length : ∀ s t e, (out s e).length = (out t e).length
  out_iff : ∀ s t e, mine e = true → R s t → (out s e = out t e ↔ Same s t e)
  own : ∀ s t e, mine e = true → R s t → Same s t e → R (f s e) (f t e)
  silent : ∀ s e, mine e = false → out s e = []
  other : ∀ s t e, mine e = false → R s t → R (f s e) t

variable {Same : σ → σ → ε → Prop}

theorem outs_filter_iff (h : Owns f out mine R Same) {s t : σ} (hst : R s t) (es : List ε) :
    (outs f out s es = outs f out t (es.filter mine) ↔
      AtEach (fun pre e => mine e = true → Same (pre.foldl f s) ((pre.filter mine).foldl f t) e) es) ∧
    (outs f out s es = outs f out t (es.filter mine) → R (es.foldl f s) ((es.filter mine).foldl f t)) := by
  induction es using List.reverseRecOn with
  | nil => exact ⟨iff_of_true rfl (atEach_nil _), fun _ => hst⟩
  | append_singleton es e ih =>
    obtain ⟨hiff, hrel⟩ := ih
    rw [atEach_concat, outs_concat, List.foldl_append, List.foldl_cons, List.foldl_nil]
    cases hm : mine e with
    | false =>
      rw [h.silent _ e hm, List.append_nil, List.filter_append, List.filter_cons_of_neg (by rw [hm]; decide), List.filter_nil,
        List.append_nil]
      refine ⟨?_, fun heq => h.other _ _ e hm (hrel heq)⟩
      rw [hiff]
      exact ⟨fun hes => ⟨hes, fun hf => absurd hf Bool.false_ne_true⟩, fun hes => hes.1⟩
    | true =>
      rw [List.filter_append, List.filter_cons_of_pos hm, List.filter_nil, outs_concat, List.foldl_append,
        List.foldl_cons, List.foldl_nil]
      have hsplit : outs f out s es ++ out (es.foldl f s) e =
            outs f out t (es.filter mine) ++ out ((es.filter mine).foldl f t) e ↔
          outs f out s es = outs f out t (es.filter mine) ∧ out (es.foldl f s) e = out ((es.filter mine).foldl f t) e :=
        ⟨fun heq => List.append_inj' heq (h.length _ _ e), fun ⟨h1, h2⟩ => by rw [h1, h2]⟩
      rw [hsplit]
      constructor
      · constructor
        · rintro ⟨heq, hout⟩
          exact ⟨hiff.mp heq, fun _ => (h.out_iff _ _ e hm (hrel heq)).mp hout⟩
        · rintro ⟨hes, hsame⟩
          have heq := hiff.mpr hes
          exact ⟨heq, (h.out_iff _ _ e hm (hrel heq)).mpr (hsame rfl)⟩
      · rintro ⟨heq, hout⟩
        have hst' := hrel heq
        exact h.own _ _ e hm hst' ((h.out_iff _ _ e hm hst').mp hout)

end StarServer.Runs

/-
  StarServer.Runs.Components — a system of components that take their steps in any order.

  An event is a component and what it does. Where the others' steps keep a relation between
  the system and one component's own state, and its own steps have a counterpart there, the
  system's run is, to the component, the run of its own events alone.

  Components that share a store: two stores may differ where a component does not look.
-/

import Mathlib.Logic.Function.Basic
import StarServer.Runs.Steps

namespace StarServer.Runs

variable {ι σ τ ε : Type}

section Own

variable [DecidableEq ι]

/-- The events of component `i`. -/
def own (i : ι) : List (ι × ε) → List ε
  | [] => []
  | e :: es => if e.1 = i then e.2 :: own i es else own i es

variable {step : σ → ι × ε → Option σ} {step' : τ → ε → Option τ} {R : σ → τ → Prop}

/-- **A component in any company** does what it does alone. -/
theorem run_own (Ok : σ → ι × ε → Prop) (i : ι)
    (hown : ∀ s t e s', R s t → Ok s (i, e) → step s (i, e) = some s' → ∃ t', step' t e = some t' ∧ R s' t')
    (hother : ∀ s t j e s', j ≠ i → R s t → Ok s (j, e) → step s (j, e) = some s' → R s' t) {s s' : σ} {t : τ}
    {es : List (ι × ε)} (hr : R s t) (hok : RunOk step Ok s es) (h : run step s es = some s') :
    ∃ t', run step' t (own i es) = some t' ∧ R s' t' := by
  induction es generalizing s t with
  | nil =>
    simp only [run, Option.some.injEq] at h
    exact ⟨t, rfl, h ▸ hr⟩
  | cons e es ih =>
    obtain ⟨j, e⟩ := e
    obtain ⟨m, he, h⟩ := (run_cons step).mp h
    by_cases hj : j = i
    · subst hj
      obtain ⟨u, hu, hmu⟩ := hown s t e m hr hok.1 he
      obtain ⟨t', ht', hr'⟩ := ih hmu (hok.2 m he) h
      refine ⟨t', ?_, hr'⟩
      simp only [own, if_true]
      exact (run_cons step').mpr ⟨u, hu, ht'⟩
    · obtain ⟨t', ht', hr'⟩ := ih (hother s t j e m hj hr hok.1 he) (hok.2 m he) h
      refine ⟨t', ?_, hr'⟩
      simp only [own]
      rw [if_neg hj]
      exact ht'

end Own

/-! ## Stores that agree -/

variable {κ ν : Type}

/-- The same at every key in `P`. -/
def Agree (P : κ → Prop) (m m' : κ → ν) : Prop := ∀ k, P k → m k = m' k

theorem Agree.refl (P : κ → Prop) (m : κ → ν) : Agree P m m := fun _ _ => rfl

theorem Agree.update [DecidableEq κ] {P : κ → Prop} {m m' : κ → ν} (h : Agree P m m') (k : κ) (v : ν) :
    Agree P (Function.update m k v) (Function.update m' k v) := by
  intro k' hk'
  by_cases e : k' = k
  · subst e
    rw [Function.update_self, Function.update_self]
  · rw [Function.update_of_ne e, Function.update_of_ne e]
    exact h k' hk'

/-- A write where the component does not look. -/
theorem Agree.other {P : κ → Prop} {m m1 m' : κ → ν} (h : Agree P m m') (hw : ∀ k, P k → m1 k = m k) : Agree P m1 m' :=
  fun k hk => (hw k hk).trans (h k hk)

end StarServer.Runs

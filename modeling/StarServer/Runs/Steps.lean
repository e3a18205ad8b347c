/-
  StarServer.Runs.Steps — runs of a partial step function: invariants, invariants of
  runs whose steps all meet a condition, runs with a counterpart, runs within another
  machine's, and runs with notes.
-/

import Mathlib.Init

namespace StarServer.Runs

variable {σ ε : Type} (step : σ → ε → Option σ)

def run : σ → List ε → Option σ
  | s, [] => some s
  | s, e :: es =>
    match step s e with
    | none => none
    | some s' => run s' es

/-- Every step the events take from `s` meets `Ok`. -/
def RunOk (Ok : σ → ε → Prop) : σ → List ε → Prop
  | _, [] => True
  | s, e :: es => Ok s e ∧ ∀ s', step s e = some s' → RunOk Ok s' es

/-- Every state the events lead through from `s` satisfies `P`. -/
def RunAll (P : σ → Prop) : σ → List ε → Prop
  | s, [] => P s
  | s, e :: es => P s ∧ ∀ s', step s e = some s' → RunAll P s' es

theorem run_cons {s t : σ} {e : ε} {es : List ε} :
    run step s (e :: es) = some t ↔ ∃ s', step s e = some s' ∧ run step s' es = some t := by
  simp only [run]
  cases step s e <;> simp

theorem run_append {s t : σ} {es fs : List ε} :
    run step s (es ++ fs) = some t ↔ ∃ m, run step s es = some m ∧ run step m fs = some t := by
  induction es generalizing s with
  | nil => simp [run]
  | cons e es ih =>
    rw [List.cons_append, run_cons]
    constructor
    · rintro ⟨s', hs, ht⟩
      obtain ⟨m, hm, ht⟩ := ih.mp ht
      exact ⟨m, (run_cons step).mpr ⟨s', hs, hm⟩, ht⟩
    · rintro ⟨m, hm, ht⟩
      obtain ⟨s', hs, hm⟩ := (run_cons step).mp hm
      exact ⟨s', hs, ih.mpr ⟨m, hm, ht⟩⟩

/-- An invariant of the steps that meet `Ok` holds after a run of such steps. -/
theorem run_inv_ok {I : σ → Prop} (Ok : σ → ε → Prop) (hstep : ∀ s e s', I s → Ok s e → step s e = some s' → I s')
    {s t : σ} {es : List ε} (hs : I s) (hok : RunOk step Ok s es) (h : run step s es = some t) : I t := by
  induction es generalizing s with
  | nil =>
    simp only [run, Option.some.injEq] at h
    exact h ▸ hs
  | cons e es ih =>
    obtain ⟨s', he, ht⟩ := (run_cons step).mp h
    exact ih (hstep s e s' hs hok.1 he) (hok.2 s' he) ht

theorem RunOk.cons {Ok : σ → ε → Prop} {s s' : σ} {e : ε} {es : List ε} (hok : Ok s e) (he : step s e = some s')
    (hrest : RunOk step Ok s' es) : RunOk step Ok s (e :: es) := by
  refine ⟨hok, fun t ht => ?_⟩
  obtain rfl := Option.some.inj (he.symm.trans ht)
  exact hrest

theorem RunOk.and {Ok Ok' : σ → ε → Prop} {s : σ} {es : List ε} (h : RunOk step Ok s es) (h' : RunOk step Ok' s es) :
    RunOk step (fun s e => Ok s e ∧ Ok' s e) s es := by
  induction es generalizing s with
  | nil => trivial
  | cons e es ih => exact ⟨⟨h.1, h'.1⟩, fun s' he => ih (h.2 s' he) (h'.2 s' he)⟩

instance decidableRunOk (Ok : σ → ε → Prop) [∀ s e, Decidable (Ok s e)] :
    (s : σ) → (es : List ε) → Decidable (RunOk step Ok s es)
  | _, [] => isTrue trivial
  | s, e :: es =>
    match h : step s e with
    | none => decidable_of_iff (Ok s e) ⟨fun hok => ⟨hok, fun s' he => by rw [h] at he; cases he⟩, And.left⟩
    | some t =>
      have := decidableRunOk Ok t es
      decidable_of_iff (Ok s e ∧ RunOk step Ok t es)
        ⟨fun ⟨hok, hrest⟩ => ⟨hok, fun s' he => Option.some.inj (h.symm.trans he) ▸ hrest⟩,
          fun ⟨hok, hrest⟩ => ⟨hok, hrest t h⟩⟩

theorem RunAll.head {P : σ → Prop} {s : σ} {es : List ε} (h : RunAll step P s es) : P s := by
  cases es with
  | nil => exact h
  | cons e es => exact h.1

/-- What holds all along a run holds all along its end. -/
theorem RunAll.append {P : σ → Prop} {s m : σ} {es fs : List ε} (h : RunAll step P s (es ++ fs))
    (hrun : run step s es = some m) : RunAll step P m fs := by
  induction es generalizing s with
  | nil =>
    cases hrun
    exact h
  | cons e es ih =>
    obtain ⟨s', he, hrest⟩ := (run_cons step).mp hrun
    exact ih (h.2 s' he) hrest

theorem runOk_congr {Ok Ok' : σ → ε → Prop} (h : ∀ s e, Ok s e ↔ Ok' s e) (s : σ) (es : List ε) :
    RunOk step Ok s es ↔ RunOk step Ok' s es := by
  induction es generalizing s with
  | nil => exact Iff.rfl
  | cons e es ih => exact and_congr (h s e) (forall_congr' fun s' => imp_congr_right fun _ => ih s')

/-- In a run that does not stop, a condition on the events alone is one on each of them. -/
theorem runOk_forall {Ok : ε → Prop} {s t : σ} {es : List ε} (h : run step s es = some t) :
    RunOk step (fun _ e => Ok e) s es ↔ ∀ e ∈ es, Ok e := by
  induction es generalizing s with
  | nil => simp [RunOk]
  | cons e es ih =>
    obtain ⟨s', he, ht⟩ := (run_cons step).mp h
    rw [List.forall_mem_cons, ← ih ht]
    refine and_congr_right fun _ => ⟨fun hall => hall s' he, fun hrest s'' h'' => ?_⟩
    obtain rfl := Option.some.inj (he.symm.trans h'')
    exact hrest

/-- Events that may happen in any state. -/
theorem runOk_of_forall {Ok : σ → ε → Prop} (s : σ) {es : List ε} (h : ∀ e ∈ es, ∀ s, Ok s e) : RunOk step Ok s es := by
  induction es generalizing s with
  | nil => trivial
  | cons e es ih =>
    obtain ⟨he, hrest⟩ := List.forall_mem_cons.mp h
    exact ⟨he s, fun s' _ => ih s' hrest⟩

theorem runOk_trivial (s : σ) (es : List ε) : RunOk step (fun _ _ => True) s es :=
  runOk_of_forall step s fun _ _ _ => trivial

/-- An invariant of the steps that meet `Ok` holds all along a run of such steps. -/
theorem runAll_of_inv {I : σ → Prop} (Ok : σ → ε → Prop) (hstep : ∀ s e s', I s → Ok s e → step s e = some s' → I s')
    {s : σ} {es : List ε} (hs : I s) (hok : RunOk step Ok s es) : RunAll step I s es := by
  induction es generalizing s with
  | nil => exact hs
  | cons e es ih => exact ⟨hs, fun s' he => ih (hstep s e s' hs hok.1 he) (hok.2 s' he)⟩

theorem RunAll.mono {P Q : σ → Prop} (h : ∀ s, P s → Q s) {s : σ} {es : List ε} (hp : RunAll step P s es) :
    RunAll step Q s es := by
  induction es generalizing s with
  | nil => exact h s hp
  | cons e es ih => exact ⟨h s hp.1, fun s' he => ih (hp.2 s' he)⟩

/-- What holds of every step that meets `Ok` from a state that satisfies `I`. -/
theorem RunAll.runOk {I : σ → Prop} {Ok Q : σ → ε → Prop} (h : ∀ s e, I s → Ok s e → Q s e) {s : σ} {es : List ε}
    (hi : RunAll step I s es) (hok : RunOk step Ok s es) : RunOk step Q s es := by
  induction es generalizing s with
  | nil => trivial
  | cons e es ih => exact ⟨h s e hi.1 hok.1, fun s' he => ih (hi.2 s' he) (hok.2 s' he)⟩

/-- In runs whose steps meet `A`: where `Ok` is exactly what makes a step keep `P`, it is
    exactly what makes a run keep it. `I` is what may be used of a state that has kept it. -/
theorem runAll_iff_runOk_of {I P : σ → Prop} {A Ok : σ → ε → Prop}
    (hstep : ∀ s e s', I s → P s → A s e → step s e = some s' → (P s' ↔ Ok s e) ∧ (P s' → I s')) {s t : σ} {es : List ε}
    (hi : I s) (hs : P s) (ha : RunOk step A s es) (h : run step s es = some t) :
    RunAll step P s es ↔ RunOk step Ok s es := by
  induction es generalizing s with
  | nil => exact ⟨fun _ => trivial, fun _ => hs⟩
  | cons e es ih =>
    obtain ⟨s', he, ht⟩ := (run_cons step).mp h
    obtain ⟨hiff, hinv⟩ := hstep s e s' hi hs ha.1 he
    constructor
    · rintro ⟨-, hall⟩
      have hs' := hall s' he
      have hp' := hs'.head step
      refine ⟨hiff.mp hp', fun s'' h'' => ?_⟩
      obtain rfl := Option.some.inj (he.symm.trans h'')
      exact (ih (hinv hp') hp' (ha.2 s' he) ht).mp hs'
    · rintro ⟨hok, hrest⟩
      have hp' := hiff.mpr hok
      refine ⟨hs, fun s'' h'' => ?_⟩
      obtain rfl := Option.some.inj (he.symm.trans h'')
      exact (ih (hinv hp') hp' (ha.2 s' he) ht).mpr (hrest s' he)

/-- The same for a `P` that needs no more. -/
theorem runAll_iff_runOk {P : σ → Prop} {Ok : σ → ε → Prop}
    (hstep : ∀ s e s', P s → step s e = some s' → (P s' ↔ Ok s e)) {s t : σ} {es : List ε} (hs : P s)
    (h : run step s es = some t) : RunAll step P s es ↔ RunOk step Ok s es :=
  @runAll_iff_runOk_of σ ε step (fun _ => True) P (fun _ _ => True) Ok
    (fun s e s' _ hp _ he => ⟨hstep s e s' hp he, fun _ => trivial⟩) s t es trivial hs (runOk_trivial step s es) h

theorem run_inv {I : σ → Prop} (hstep : ∀ s e s', I s → step s e = some s' → I s') {s t : σ} {es : List ε} (hs : I s)
    (h : run step s es = some t) : I t :=
  run_inv_ok step (fun _ _ => True) (fun s e s' hi _ he => hstep s e s' hi he) hs (runOk_trivial step s es) h

/-! ## Two runs on the same events -/

/-- What a result is related to is a result. -/
theorem rel_some {α β : Type} {R : α → β → Prop} {x : α} {o : Option β} (h : Option.Rel R (some x) o) :
    ∃ y, o = some y ∧ R x y := by
  cases h with
  | some hxy => exact ⟨_, rfl, hxy⟩

/-- Where every step that meets `Ok` has a counterpart that keeps `R`, every run of such
    steps has one. -/
theorem run_sim {τ : Type} {step' : τ → ε → Option τ} {R : σ → τ → Prop} (Ok : σ → ε → Prop)
    (hstep : ∀ s t e s', R s t → Ok s e → step s e = some s' → ∃ t', step' t e = some t' ∧ R s' t') {s s' : σ} {t : τ}
    {es : List ε} (hs : R s t) (hok : RunOk step Ok s es) (h : run step s es = some s') :
    ∃ t', run step' t es = some t' ∧ R s' t' := by
  induction es generalizing s t with
  | nil =>
    simp only [run, Option.some.injEq] at h
    exact ⟨t, rfl, h ▸ hs⟩
  | cons e es ih =>
    obtain ⟨m, he, h⟩ := (run_cons step).mp h
    obtain ⟨n, he', hm⟩ := hstep s t e m hs hok.1 he
    obtain ⟨t', ht', hr⟩ := ih hm (hok.2 m he) h
    exact ⟨t', (run_cons step').mpr ⟨n, he', ht'⟩, hr⟩

/-- The same where the counterpart may stop on the way, for a reason of its own. -/
theorem run_sim_or {τ : Type} {step' : τ → ε → Option τ} {R : σ → τ → Prop} {Stop : τ → ε → Prop} (Ok : σ → ε → Prop)
    (Ok' : τ → ε → Prop) (hstep : ∀ s t e s', R s t → Ok s e → Ok' t e → step s e = some s' →
      Stop t e ∨ ∃ t', step' t e = some t' ∧ R s' t') {s s' : σ} {t : τ} {es : List ε} (hs : R s t)
    (hok : RunOk step Ok s es) (hok' : RunOk step' Ok' t es) (h : run step s es = some s') :
    (∃ t', run step' t es = some t' ∧ R s' t') ∨
      ∃ fs e gs m, es = fs ++ e :: gs ∧ run step' t fs = some m ∧ Stop m e := by
  induction es generalizing s t with
  | nil =>
    simp only [run, Option.some.injEq] at h
    exact Or.inl ⟨t, rfl, h ▸ hs⟩
  | cons e es ih =>
    obtain ⟨m, he, h⟩ := (run_cons step).mp h
    rcases hstep s t e m hs hok.1 hok'.1 he with hstop | ⟨n, he', hm⟩
    · exact Or.inr ⟨[], e, es, t, rfl, rfl, hstop⟩
    · rcases ih hm (hok.2 m he) (hok'.2 n he') h with ⟨t', ht', hr⟩ | ⟨fs, e', gs, k, rfl, hk, hstop⟩
      · exact Or.inl ⟨t', (run_cons step').mpr ⟨n, he', ht'⟩, hr⟩
      · exact Or.inr ⟨e :: fs, e', gs, k, rfl, (run_cons step').mpr ⟨n, he', hk⟩, hstop⟩

/-- Where each step is one of another machine's, a run is a run of that. -/
theorem run_within {τ δ : Type} {step' : τ → δ → Option τ} {f : σ → τ} {Ok : ε → Prop} {P : δ → Prop}
    (hstep : ∀ s e s', Ok e → step s e = some s' → ∃ d, P d ∧ step' (f s) d = some (f s')) {s s' : σ} {es : List ε}
    (hes : ∀ e ∈ es, Ok e) (h : run step s es = some s') : ∃ ds, (∀ d ∈ ds, P d) ∧ run step' (f s) ds = some (f s') := by
  induction es generalizing s with
  | nil =>
    cases h
    exact ⟨[], fun d hd => (by cases hd), rfl⟩
  | cons e es ih =>
    obtain ⟨m, he, h⟩ := (run_cons step).mp h
    obtain ⟨hok, hrest⟩ := List.forall_mem_cons.mp hes
    obtain ⟨d, hd, hm⟩ := hstep s e m hok he
    obtain ⟨ds, hds, hrun⟩ := ih hrest h
    exact ⟨d :: ds, List.forall_mem_cons.mpr ⟨hd, hds⟩, (run_cons step').mpr ⟨_, hm, hrun⟩⟩

/-- The steps with notes taken along the way: on the event and the state after it. -/
def noted {γ : Type} (note : γ → ε → σ → γ) (p : σ × γ) (e : ε) : Option (σ × γ) :=
  (step p.1 e).map fun s => (s, note p.2 e s)

/-- Notes can be taken of any run. -/
theorem run_noted {γ : Type} {note : γ → ε → σ → γ} {s t : σ} {es : List ε} (h : run step s es = some t) (n : γ) :
    ∃ m, run (noted step note) (s, n) es = some (t, m) := by
  induction es generalizing s n with
  | nil =>
    cases h
    exact ⟨n, rfl⟩
  | cons e es ih =>
    obtain ⟨s', he, ht⟩ := (run_cons step).mp h
    obtain ⟨m, hm⟩ := ih ht (note n e s')
    exact ⟨m, (run_cons (noted step note)).mpr ⟨(s', note n e s'), by rw [noted, he]; rfl, hm⟩⟩

end StarServer.Runs

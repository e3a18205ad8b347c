/-
  StarServer.Runs.SpinFlag — a section behind a plain flag: `while (flag); flag = true; …;
  flag = false`, with the test and the store two steps.

  Two threads may both see the flag down before either stores. The flag keeps them apart in
  exactly the runs where none passes the test while another is between its test and its store.

  Proved:
    * `spin_keeps`: a step that is no race keeps at most one thread past the test;
    * `alone_iff_noRace`: a run has at most one thread past the test throughout exactly if no
      step of it is a race.
-/

import Mathlib.Logic.Function.Basic
import StarServer.Runs.Steps

namespace StarServer.Runs

/-- Before the test, past it but not yet past the store, and in the section. -/
inductive SpinPc where
  | outside
  | passed
  | inside
  deriving DecidableEq, Repr

structure Spin (τ : Type) where
  flag : Bool
  pc : τ → SpinPc

inductive SpinEv (τ : Type) where
  | test (t : τ)
  | store (t : τ)
  | clear (t : τ)

variable {τ : Type} [DecidableEq τ]

def Spin.moved (s : Spin τ) (t : τ) (pc : SpinPc) (flag : Bool) : Spin τ := ⟨flag, Function.update s.pc t pc⟩

def spinStep (s : Spin τ) : SpinEv τ → Option (Spin τ)
  | .test t =>
    if s.pc t = .outside then
      -- the loop's body is empty: with the flag up the test is made again
      if s.flag then some s else some (s.moved t .passed s.flag)
    else none
  | .store t => if s.pc t = .passed then some (s.moved t .inside true) else none
  | .clear t => if s.pc t = .inside then some (s.moved t .outside false) else none

/-- At most one thread is past the test. -/
def Alone (s : Spin τ) : Prop := ∀ t t', s.pc t ≠ .outside → s.pc t' ≠ .outside → t = t'

/-- Nobody is past the test where this step passes it. -/
def NoRace (s : Spin τ) : SpinEv τ → Prop
  | .test _ => s.flag = false → ∀ t', s.pc t' ≠ .passed
  | _ => True

/-- The flag is up while a thread is in the section. -/
def FlagRight (s : Spin τ) : Prop := s.flag = true ↔ ∃ t, s.pc t = .inside

variable {s s' : Spin τ} {t : τ}

theorem Spin.moved_self (s : Spin τ) (t : τ) (pc : SpinPc) (flag : Bool) : (s.moved t pc flag).pc t = pc :=
  Function.update_self _ _ _

theorem Spin.moved_other {t' : τ} (h : t' ≠ t) (s : Spin τ) (pc : SpinPc) (flag : Bool) :
    (s.moved t pc flag).pc t' = s.pc t' := Function.update_of_ne h _ _

/-- Only thread `t` has moved, and the others are all before the test. -/
theorem alone_moved (h : ∀ t', t' ≠ t → s.pc t' = .outside) (pc : SpinPc) (flag : Bool) : Alone (s.moved t pc flag) := by
  have houtside : ∀ t', (s.moved t pc flag).pc t' ≠ .outside → t' = t := by
    intro t' ht'
    by_contra hne
    rw [Spin.moved_other hne] at ht'
    exact ht' (h t' hne)
  intro t1 t2 h1 h2
  rw [houtside t1 h1, houtside t2 h2]

omit [DecidableEq τ] in
theorem Alone.others (h : Alone s) (ht : s.pc t ≠ .outside) (t' : τ) (hne : t' ≠ t) : s.pc t' = .outside := by
  by_contra hout
  exact hne (h t' t hout ht)

omit [DecidableEq τ] in
/-- With the flag down and nobody between test and store, all are outside. -/
theorem FlagRight.all_outside (h : FlagRight s) (hflag : s.flag = false) (hpassed : ∀ t', s.pc t' ≠ .passed) (t' : τ) :
    s.pc t' = .outside := by
  cases hpc : s.pc t' with
  | outside => rfl
  | passed => exact absurd hpc (hpassed t')
  | inside =>
    have hup := h.mpr ⟨t', hpc⟩
    rw [hflag] at hup
    cases hup

/-- **One step**: at most one past the test after it, exactly if it is no race. -/
theorem spin_step_iff {e : SpinEv τ} (hflag : FlagRight s) (h : Alone s) (he : spinStep s e = some s') :
    (Alone s' ↔ NoRace s e) ∧ (Alone s' → FlagRight s') := by
  cases e with
  | test t =>
    simp only [spinStep] at he
    split at he
    · rename_i hpc
      split at he
      · rename_i hup
        cases he
        refine ⟨⟨fun _ hdown => ?_, fun _ => h⟩, fun _ => hflag⟩
        rw [hup] at hdown
        cases hdown
      · rename_i hdown
        cases he
        have hdown : s.flag = false := by simpa using hdown
        refine ⟨⟨fun halone _ t' ht' => ?_, fun hrace => ?_⟩, fun _ => ?_⟩
        · have hne : t' ≠ t := by
            rintro rfl
            rw [hpc] at ht'
            cases ht'
          refine hne (halone t' t ?_ ?_)
          · rw [Spin.moved_other hne, ht']
            decide
          · rw [Spin.moved_self]
            decide
        · exact alone_moved (fun t' _ => hflag.all_outside hdown (hrace hdown) t') _ _
        · constructor
          · intro hup
            rw [show (s.moved t .passed s.flag).flag = s.flag from rfl, hdown] at hup
            cases hup
          · rintro ⟨t', ht'⟩
            by_cases hne : t' = t
            · rw [hne, Spin.moved_self] at ht'
              cases ht'
            · rw [Spin.moved_other hne] at ht'
              have hup := hflag.mpr ⟨t', ht'⟩
              rw [hdown] at hup
              cases hup
    · cases he
  | store t =>
    simp only [spinStep] at he
    split at he
    · rename_i hpc
      cases he
      have halone := alone_moved (h.others (by rw [hpc]; decide)) SpinPc.inside true
      exact ⟨⟨fun _ => trivial, fun _ => halone⟩, fun _ => ⟨fun _ => ⟨t, Spin.moved_self _ _ _ _⟩, fun _ => rfl⟩⟩
    · cases he
  | clear t =>
    simp only [spinStep] at he
    split at he
    · rename_i hpc
      cases he
      have hothers := h.others (t := t) (by rw [hpc]; decide)
      refine ⟨⟨fun _ => trivial, fun _ => alone_moved hothers _ _⟩, fun _ => ⟨fun hup => (by cases hup), ?_⟩⟩
      rintro ⟨t', ht'⟩
      by_cases hne : t' = t
      · rw [hne, Spin.moved_self] at ht'
        cases ht'
      · rw [Spin.moved_other hne, hothers t' hne] at ht'
        cases ht'
    · cases he

/-- A step that is no race. -/
theorem spin_keeps {e : SpinEv τ} (hflag : FlagRight s) (h : Alone s) (hrace : NoRace s e) (he : spinStep s e = some s') :
    Alone s' ∧ FlagRight s' := by
  obtain ⟨hiff, hright⟩ := spin_step_iff hflag h he
  exact ⟨hiff.mpr hrace, hright (hiff.mpr hrace)⟩

/-- **The flag keeps the threads apart** exactly in the runs without a race. -/
theorem alone_iff_noRace {es : List (SpinEv τ)} (hflag : FlagRight s) (h : Alone s) (hrun : run spinStep s es = some s') :
    RunAll spinStep Alone s es ↔ RunOk spinStep NoRace s es :=
  @runAll_iff_runOk_of _ _ spinStep FlagRight Alone (fun _ _ => True) NoRace
    (fun _ _ _ hi hp _ he => spin_step_iff hi hp he) _ _ _ hflag h (runOk_trivial spinStep s es) hrun

end StarServer.Runs

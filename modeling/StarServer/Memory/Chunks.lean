/-
  StarServer.Memory.Chunks — cutting a list into pieces of at most `k` elements.
-/

import Mathlib.Data.List.Basic

namespace StarServer.Memory

variable {α : Type} (k : Nat)

/-- The cut with fuel; `chunks` gives it one step for every element. -/
def chunksFuel : Nat → List α → List (List α)
  | 0, _ => []
  | f + 1, l => if l.isEmpty then [] else l.take k :: chunksFuel f (l.drop k)

def chunks (l : List α) : List (List α) := chunksFuel k l.length l

variable {k}

/-- More fuel than elements changes nothing. -/
theorem chunksFuel_eq (hk : 0 < k) {f : Nat} {l : List α} (h : l.length ≤ f) : chunksFuel k f l = chunks k l := by
  suffices H : ∀ f g (l : List α), l.length ≤ f → l.length ≤ g → chunksFuel k f l = chunksFuel k g l from
    H f l.length l h (Nat.le_refl _)
  intro f
  induction f with
  | zero =>
    intro g l hf _
    have : l = [] := List.eq_nil_of_length_eq_zero (by omega)
    subst this
    cases g <;> simp [chunksFuel]
  | succ f ih =>
    intro g l hf hg
    cases g with
    | zero =>
      have : l = [] := List.eq_nil_of_length_eq_zero (by omega)
      simp [chunksFuel, this]
    | succ g =>
      simp only [chunksFuel]
      split
      · rfl
      · rename_i hne
        have hpos : 0 < l.length := List.length_pos_iff.mpr (by simpa using hne)
        rw [ih g (l.drop k) (by simp only [List.length_drop]; omega) (by simp only [List.length_drop]; omega)]

@[simp] theorem chunks_nil : chunks k ([] : List α) = [] := rfl

theorem chunks_step (hk : 0 < k) {l : List α} (h : l ≠ []) : chunks k l = l.take k :: chunks k (l.drop k) := by
  obtain ⟨x, r, rfl⟩ := List.exists_cons_of_ne_nil h
  show chunksFuel k (r.length + 1) (x :: r) = _
  simp only [chunksFuel, List.isEmpty_cons, Bool.false_eq_true, if_false]
  rw [chunksFuel_eq hk (by simp only [List.length_drop, List.length_cons]; omega)]

theorem chunks_short {l : List α} (hk : 0 < k) (h : l ≠ []) (hl : l.length ≤ k) : chunks k l = [l] := by
  rw [chunks_step hk h, List.take_of_length_le hl, List.drop_of_length_le hl, chunks_nil]

/-- Induction along the cut. -/
theorem chunks_induction {P : List α → Prop} (hk : 0 < k) (nil : P [])
    (step : ∀ l, l ≠ [] → P (l.drop k) → P l) (l : List α) : P l := by
  suffices H : ∀ n (l : List α), l.length ≤ n → P l from H _ l (Nat.le_refl _)
  intro n
  induction n with
  | zero =>
    intro l hl
    have : l = [] := List.eq_nil_of_length_eq_zero (by omega)
    exact this ▸ nil
  | succ n ih =>
    intro l hl
    by_cases h : l = []
    · exact h ▸ nil
    · have hpos : 0 < l.length := List.length_pos_iff.mpr h
      exact step l h (ih _ (by simp only [List.length_drop]; omega))

theorem chunks_flatten (hk : 0 < k) (l : List α) : (chunks k l).flatten = l := by
  induction l using chunks_induction hk with
  | nil => rfl
  | step l h ih => rw [chunks_step hk h, List.flatten_cons, ih, List.take_append_drop]

/-- Every piece has at least one and at most `k` elements. -/
theorem mem_chunks (hk : 0 < k) (l : List α) : ∀ p ∈ chunks k l, p ≠ [] ∧ p.length ≤ k := by
  induction l using chunks_induction hk with
  | nil => simp
  | step l h ih =>
    rw [chunks_step hk h]
    intro p hp
    rcases List.mem_cons.mp hp with rfl | hp
    · refine ⟨?_, by simp only [List.length_take]; omega⟩
      intro he
      rcases List.take_eq_nil_iff.mp he with h' | h'
      · omega
      · exact h h'
    · exact ih p hp

theorem length_chunks (hk : 0 < k) (l : List α) : (chunks k l).length = (l.length + (k - 1)) / k := by
  induction l using chunks_induction hk with
  | nil => simp [Nat.div_eq_of_lt (show k - 1 < k by omega)]
  | step l h ih =>
    have hpos : 0 < l.length := List.length_pos_iff.mpr h
    rw [chunks_step hk h, List.length_cons, ih, List.length_drop]
    by_cases hl : l.length ≤ k
    · have : l.length + (k - 1) = l.length - 1 + k := by omega
      rw [this, Nat.add_div_right _ hk, Nat.div_eq_of_lt (by omega), Nat.div_eq_of_lt (by omega)]
    · have : l.length + (k - 1) = l.length - k + (k - 1) + k := by omega
      rw [this, Nat.add_div_right _ hk]

theorem chunks_ne_nil (hk : 0 < k) {l : List α} (h : l ≠ []) : chunks k l ≠ [] := by
  rw [chunks_step hk h]; exact List.cons_ne_nil _ _

end StarServer.Memory

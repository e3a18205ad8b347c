/-
  StarServer.Runs.Prefixes — what the first entries of an infinite sequence decide, when the
  sequence is constant from some point on.
-/

import Mathlib.Data.List.Range

namespace StarServer.Runs

variable {α : Type} {σ : Nat → α} {x : α} {N n : Nat}

/-- The first `n` entries. -/
def before (σ : Nat → α) (n : Nat) : List α := (List.range n).map σ

/-- From `N` on the sequence is `x`. -/
def ConstFrom (σ : Nat → α) (x : α) (N : Nat) : Prop := ∀ i, N ≤ i → σ i = x

theorem before_add (σ : Nat → α) (n k : Nat) :
    before σ (n + k) = before σ n ++ (List.range k).map fun i => σ (n + i) := by
  unfold before
  rw [List.range_add, List.map_append, List.map_map]
  rfl

theorem before_const (h : ConstFrom σ x N) (hn : N ≤ n) : before σ n = before σ N ++ List.replicate (n - N) x := by
  obtain ⟨k, rfl⟩ := Nat.exists_eq_add_of_le hn
  rw [before_add, Nat.add_sub_cancel_left]
  congr 1
  apply List.ext_getElem
  · simp
  · intro i h1 h2
    simp only [List.getElem_map, List.getElem_range, List.getElem_replicate]
    exact h _ (Nat.le_add_right N i)

/-- What more entries never undo, and more of the constant never do, is decided before it. -/
theorem exists_before_iff {P : List α → Prop} (hmono : ∀ l r, P l → P (l ++ r))
    (hconst : ∀ l k, P (l ++ List.replicate k x) → P l) (h : ConstFrom σ x N) : (∃ n, P (before σ n)) ↔ P (before σ N) := by
  constructor
  · rintro ⟨n, hp⟩
    rcases Nat.le_total n N with hn | hn
    · obtain ⟨k, rfl⟩ := Nat.exists_eq_add_of_le hn
      rw [before_add]
      exact hmono _ _ hp
    · rw [before_const h hn] at hp
      exact hconst _ _ hp
  · intro hp
    exact ⟨N, hp⟩

end StarServer.Runs

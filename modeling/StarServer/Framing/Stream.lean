/-
  StarServer.Framing.Stream — streams cut into frames: a header of `head` items, then as
  many items as the header's `size` says.

  A stream is `Framed` when it is frames end to end. It can be cut in one way only, so what
  is behind a framed part is framed exactly when the whole is (`Framed.append_iff`), and
  `parse` decides it (`framed_iff_parse`).
-/

import Mathlib.Init

namespace StarServer.Framing

variable {α : Type} (head : Nat) (size : List α → Nat)

/-- One frame, whole. -/
structure IsFrame (l : List α) : Prop where
  header : head ≤ l.length
  length : l.length = head + size (l.take head)

/-- Frames end to end. -/
inductive Framed : List α → Prop
  | nil : Framed []
  | cons {f l : List α} : IsFrame head size f → Framed l → Framed (f ++ l)

variable {head size}

theorem IsFrame.framed {f : List α} (h : IsFrame head size f) : Framed head size f := by
  have hf := Framed.cons h .nil
  rwa [List.append_nil] at hf

theorem Framed.append {l r : List α} (hl : Framed head size l) (hr : Framed head size r) : Framed head size (l ++ r) := by
  induction hl with
  | nil => exact hr
  | cons hf _ ih =>
    rw [List.append_assoc]
    exact .cons hf ih

/-- The header of a frame with more behind it. -/
theorem IsFrame.take_append {f : List α} (h : IsFrame head size f) (l : List α) :
    (f ++ l).take head = f.take head :=
  List.take_append_of_le_length h.header

/-- Two frames at the front of one stream are the same. -/
theorem IsFrame.unique {f g l r : List α} (hf : IsFrame head size f) (hg : IsFrame head size g) (h : f ++ l = g ++ r) :
    f = g ∧ l = r := by
  refine List.append_inj h ?_
  rw [hf.length, hg.length, ← hf.take_append l, ← hg.take_append r, h]

/-- What is behind a frame is framed when the whole is. -/
theorem Framed.tail {f l : List α} (hh : 0 < head) (hf : IsFrame head size f) (h : Framed head size (f ++ l)) :
    Framed head size l := by
  generalize hs : f ++ l = s at h
  cases h with
  | nil =>
    have hlen := hf.header
    rw [(List.append_eq_nil_iff.mp hs).1] at hlen
    exact absurd hlen (Nat.not_le.mpr hh)
  | cons hg hr =>
    obtain ⟨-, rfl⟩ := hf.unique hg hs
    exact hr

theorem Framed.append_iff {l r : List α} (hh : 0 < head) (hl : Framed head size l) :
    Framed head size (l ++ r) ↔ Framed head size r := by
  refine ⟨fun h => ?_, hl.append⟩
  induction hl with
  | nil => exact h
  | cons hf _ ih =>
    rw [List.append_assoc] at h
    exact ih (h.tail hh hf)

/-- A header alone is a frame exactly when it announces nothing. -/
theorem framed_header_iff {l : List α} (hh : 0 < head) (hl : l.length = head) : Framed head size l ↔ size l = 0 := by
  have htake : l.take head = l := List.take_of_length_le (by omega)
  constructor
  · intro h
    cases h with
    | nil =>
      rw [List.length_nil] at hl
      omega
    | @cons f r hf _ =>
      have hflen := hf.length
      rw [← hf.take_append r, htake] at hflen
      rw [List.length_append] at hl
      omega
  · intro h0
    refine IsFrame.framed ⟨by omega, ?_⟩
    rw [htake, h0]
    exact hl

/-! ## Cutting a stream -/

variable (head size)

/-- The frames of a stream, with fuel for each. -/
def parse : Nat → List α → Option (List (List α))
  | _, [] => some []
  | 0, _ :: _ => none
  | fuel + 1, l =>
    let n := head + size (l.take head)
    if l.length < n then none else (parse fuel (l.drop n)).map (l.take n :: ·)

variable {head size}

theorem parse_nil (fuel : Nat) : parse head size fuel [] = some [] := by
  cases fuel <;> rfl

theorem parse_step {fuel : Nat} {l : List α} (hl : l ≠ []) : parse head size (fuel + 1) l =
    if l.length < head + size (l.take head) then none
    else (parse head size fuel (l.drop (head + size (l.take head)))).map (l.take (head + size (l.take head)) :: ·) := by
  cases l with
  | nil => exact absurd rfl hl
  | cons a l => rfl

theorem framed_of_parse {fuel : Nat} {l : List α} {fs : List (List α)} (h : parse head size fuel l = some fs) :
    Framed head size l := by
  induction fuel generalizing l fs with
  | zero =>
    cases l with
    | nil => exact .nil
    | cons a l => cases h
  | succ fuel ih =>
    by_cases hl : l = []
    · subst hl
      exact .nil
    · rw [parse_step hl] at h
      split at h
      · cases h
      · rename_i hlen
        obtain ⟨gs, hgs, -⟩ := Option.map_eq_some_iff.mp h
        have hlen := Nat.not_lt.mp hlen
        have htake := List.length_take_of_le hlen
        have hframe : IsFrame head size (l.take (head + size (l.take head))) := by
          refine ⟨by omega, ?_⟩
          rw [htake, List.take_take, Nat.min_eq_left (Nat.le_add_right _ _)]
        rw [← List.take_append_drop (head + size (l.take head)) l]
        exact .cons hframe (ih hgs)

theorem parse_of_framed (hh : 0 < head) {l : List α} (h : Framed head size l) :
    ∀ fuel, l.length ≤ fuel → ∃ fs, parse head size fuel l = some fs := by
  induction h with
  | nil => exact fun fuel _ => ⟨[], parse_nil fuel⟩
  | @cons f l hf _ ih =>
    intro fuel hfuel
    have hpos := hf.header
    rw [List.length_append] at hfuel
    obtain ⟨k, rfl⟩ : ∃ k, fuel = k + 1 := ⟨fuel - 1, by omega⟩
    obtain ⟨fs, hfs⟩ := ih k (by omega)
    have hne : f ++ l ≠ [] := by
      intro h0
      have := congrArg List.length h0
      rw [List.length_append, List.length_nil] at this
      omega
    refine ⟨f :: fs, ?_⟩
    rw [parse_step hne, hf.take_append l, ← hf.length, if_neg (by rw [List.length_append]; omega), List.drop_left,
      List.take_left, hfs]
    rfl

/-- **A stream is framed exactly when it parses.** -/
theorem framed_iff_parse (hh : 0 < head) (l : List α) : Framed head size l ↔ (parse head size l.length l).isSome = true := by
  rw [Option.isSome_iff_exists]
  exact ⟨fun h => parse_of_framed hh h _ (Nat.le_refl _), fun ⟨_, h⟩ => framed_of_parse h⟩

end StarServer.Framing

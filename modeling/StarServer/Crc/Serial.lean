/-
  StarServer.Crc.Serial — a cyclic redundancy check of any width, bit by bit.

  The remainder moves up one place at a time, and the generator is added when a bit falls
  out (`shift`). A byte is added to the top of the remainder and followed by eight moves
  (`feed`).

  Proved, for any width of at least 8 and any generator with its lowest bit set:
  (1) `shift_xor`: a move is linear in exclusive or.
  (2) `feed_table`: eight moves are the table's word for the top octet and the rest of the
      remainder moved up, so a byte can be taken at once.
  (3) `crc_differs`: two messages that differ in exactly one byte have different remainders.
-/

import Mathlib.Logic.Function.Iterate

namespace StarServer.Crc

variable {w : Nat}

/-! ## One bit -/

/-- One place up; the generator takes the place of the bit that falls out. -/
def shift (poly r : BitVec w) : BitVec w := if r.msb then (r <<< 1) ^^^ poly else r <<< 1

theorem shift_xor (poly a b : BitVec w) : shift poly (a ^^^ b) = shift poly a ^^^ shift poly b := by
  have hl : (a ^^^ b) <<< 1 = (a <<< 1) ^^^ (b <<< 1) := BitVec.shiftLeft_xor_distrib a b 1
  unfold shift
  rw [BitVec.msb_xor, hl]
  apply BitVec.eq_of_getLsbD_eq
  intro i _
  cases a.msb with
  | false =>
    cases b.msb with
    | false => rfl
    | true => simp
  | true =>
    cases b.msb with
    | false => simp [Bool.xor_comm]
    | true =>
      -- the generator is added twice
      have htwice (x y p : Bool) : (x ^^ y) = ((x ^^ p) ^^ (y ^^ p)) := by cases x <;> cases y <;> cases p <;> rfl
      rw [if_neg (by decide), if_pos rfl, if_pos rfl]
      simp only [BitVec.getLsbD_xor]
      exact htwice _ _ _

/-- Only zero moves to zero when the generator is odd. -/
theorem shift_eq_zero {poly r : BitVec w} (hpoly : poly.getLsbD 0 = true) (h : shift poly r = 0#w) : r = 0#w := by
  unfold shift at h
  cases hr : r.msb with
  | true =>
    rw [hr, if_pos rfl] at h
    have h0 := congrArg (BitVec.getLsbD · 0) h
    simp [hpoly] at h0
  | false =>
    rw [hr, if_neg (by decide)] at h
    apply BitVec.eq_of_getLsbD_eq
    intro i hi
    have hbit := congrArg (BitVec.getLsbD · (i + 1)) h
    rw [BitVec.getLsbD_zero]
    by_cases htop : i + 1 < w
    · simpa [htop, BitVec.getLsbD_eq_getElem hi] using hbit
    · rw [BitVec.msb_eq_getLsbD_last] at hr
      obtain rfl : i = w - 1 := by omega
      exact hr

theorem shift_injective {poly : BitVec w} (hpoly : poly.getLsbD 0 = true) : Function.Injective (shift poly) := by
  intro a b hab
  have hzero : shift poly (a ^^^ b) = 0#w := by rw [shift_xor, hab, BitVec.xor_self]
  exact BitVec.xor_eq_zero_iff.mp (shift_eq_zero hpoly hzero)

/-! ## Eight bits -/

theorem shifts_xor (poly a b : BitVec w) (n : Nat) :
    (shift poly)^[n] (a ^^^ b) = (shift poly)^[n] a ^^^ (shift poly)^[n] b := by
  induction n generalizing a b with
  | zero => rfl
  | succ n ih => rw [Function.iterate_succ_apply, Function.iterate_succ_apply, Function.iterate_succ_apply, shift_xor, ih]

/-- Where nothing falls out, a move is no more than that. -/
theorem shifts_low (poly : BitVec w) {n : Nat} {r : BitVec w} (h : ∀ i, w - n ≤ i → r.getLsbD i = false) :
    (shift poly)^[n] r = r <<< n := by
  induction n generalizing r with
  | zero => rw [Function.iterate_zero_apply, BitVec.shiftLeft_zero]
  | succ n ih =>
    have htop : r.msb = false := by
      rw [BitVec.msb_eq_getLsbD_last]
      exact h _ (by omega)
    have hstep : shift poly r = r <<< 1 := by
      unfold shift
      rw [htop, if_neg (by decide)]
    rw [Function.iterate_succ_apply, hstep, ih, ← BitVec.shiftLeft_add, Nat.add_comm]
    intro i hi
    rw [BitVec.getLsbD_shiftLeft]
    cases i with
    | zero => simp
    | succ i =>
      have hbit := h i (by omega)
      simp [hbit]

/-- A byte at the top of a register. -/
def atTop (b : BitVec 8) : BitVec w := b.setWidth w <<< (w - 8)

def feed (poly r : BitVec w) (b : BitVec 8) : BitVec w := (shift poly)^[8] (r ^^^ atTop b)

theorem atTop_injective (hw : 8 ≤ w) : Function.Injective (atTop (w := w)) := by
  intro a b hab
  apply BitVec.eq_of_getLsbD_eq
  intro i hi
  have hbit := congrArg (BitVec.getLsbD · (i + (w - 8))) hab
  have h1 : i + (w - 8) < w := by omega
  have h2 : i < w := by omega
  have h3 : ¬ i + (w - 8) < w - 8 := by omega
  simpa [atTop, h1, h2, h3] using hbit

theorem feed_injective {poly : BitVec w} (hpoly : poly.getLsbD 0 = true) (b : BitVec 8) :
    Function.Injective (feed poly · b) := by
  intro r s hrs
  exact (BitVec.xor_left_inj _).mp ((shift_injective hpoly).iterate 8 hrs)

theorem feed_byte_injective {poly : BitVec w} (hw : 8 ≤ w) (hpoly : poly.getLsbD 0 = true) (r : BitVec w) :
    Function.Injective (feed poly r) := by
  intro a b hab
  exact atTop_injective hw ((BitVec.xor_right_inj _).mp ((shift_injective hpoly).iterate 8 hab))

/-! ## A table of 256 words -/

def table (poly : BitVec w) (i : BitVec 8) : BitVec w := (shift poly)^[8] (atTop i)

/-- The top octet of a register. -/
def topByte (r : BitVec w) : BitVec 8 := (r >>> (w - 8)).setWidth 8

/-- A register is its top octet and the rest. -/
theorem split_top (hw : 8 ≤ w) (r : BitVec w) : r = atTop (topByte r) ^^^ ((r <<< 8) >>> 8) := by
  apply BitVec.eq_of_getLsbD_eq
  intro i hi
  simp only [atTop, topByte, BitVec.getLsbD_xor, BitVec.getLsbD_shiftLeft, BitVec.getLsbD_setWidth,
    BitVec.getLsbD_ushiftRight]
  by_cases htop : i < w - 8
  · simp [htop, show 8 + i < w by omega]
  · have h1 : ¬ 8 + i < w := by omega
    have h2 : i - (w - 8) < 8 := by omega
    have h3 : i - (w - 8) < w := by omega
    have h4 : w - 8 + (i - (w - 8)) = i := by omega
    simp [htop, hi, h1, h2, h3, h4]

theorem atTop_xor (a b : BitVec 8) : (atTop (a ^^^ b) : BitVec w) = atTop a ^^^ atTop b := by
  simp [atTop, BitVec.shiftLeft_xor_distrib]

/-- **A byte at once**: the table's word for the top octet and the byte, and the rest moved up. -/
theorem feed_table (hw : 8 ≤ w) (poly r : BitVec w) (b : BitVec 8) :
    feed poly r b = (r <<< 8) ^^^ table poly (topByte r ^^^ b) := by
  have hlow : (shift poly)^[8] ((r <<< 8) >>> 8) = r <<< 8 := by
    rw [shifts_low]
    · apply BitVec.eq_of_getLsbD_eq
      intro i hi
      simp only [BitVec.getLsbD_shiftLeft, BitVec.getLsbD_ushiftRight]
      by_cases h8 : i < 8
      · simp [h8]
      · simp [h8, hi, show 8 + (i - 8) = i by omega]
    · intro i hi
      simp only [BitVec.getLsbD_ushiftRight, BitVec.getLsbD_shiftLeft]
      simp [show ¬ 8 + i < w by omega]
  have hsplit : r ^^^ atTop b = atTop (topByte r ^^^ b) ^^^ ((r <<< 8) >>> 8) := by
    rw [atTop_xor, BitVec.xor_assoc, BitVec.xor_comm (atTop b), ← BitVec.xor_assoc, ← split_top hw]
  unfold feed table
  rw [hsplit, shifts_xor, hlow, BitVec.xor_comm]

/-! ## A message -/

def crc (poly : BitVec w) (r : BitVec w) (l : List (BitVec 8)) : BitVec w := l.foldl (feed poly) r

theorem crc_injective {poly : BitVec w} (hpoly : poly.getLsbD 0 = true) (l : List (BitVec 8)) :
    Function.Injective (crc poly · l) := by
  induction l with
  | nil => exact fun _ _ h => h
  | cons b l ih =>
    intro r s hrs
    exact feed_injective hpoly b (ih hrs)

/-- **One byte changed changes the remainder.** -/
theorem crc_differs {poly : BitVec w} (hw : 8 ≤ w) (hpoly : poly.getLsbD 0 = true) (r : BitVec w)
    (l : List (BitVec 8)) {a b : BitVec 8} (hab : a ≠ b) (m : List (BitVec 8)) :
    crc poly r (l ++ a :: m) ≠ crc poly r (l ++ b :: m) := by
  intro h
  simp only [crc, List.foldl_append, List.foldl_cons] at h
  exact hab (feed_byte_injective hw hpoly _ (crc_injective hpoly m h))

end StarServer.Crc

/-
  StarServer.Crc.Bursts — what a check misses, and generators with their lowest terms missing.

  The generator, its top term and all, is one bit wider than the register and leaves nothing in
  it: a burst of that shape is not seen, wherever it falls. A generator whose `c` lowest terms are
  missing puts nothing into the `c` lowest bits of the register, and what is above them is the
  check with the generator moved down.

  Proved, for any width:
  (1) `crcBits_missed`: at every place of every message there is a burst of the register's width
      and one bit more that is not seen.
  (2) `crcBits_narrow`: with the `c` lowest terms missing, two messages have the same check
      exactly if they have it in the register without those bits.
  (3) `crcBits_low`: and then the `c` lowest bits of any check of `c` bits or more are clear.
-/

import StarServer.Crc.Bits

namespace StarServer.Crc

variable {w : Nat}

/-! ## Bits and bytes -/

/-- The bits of a register, most significant first. -/
def msbs (r : BitVec w) : List Bool := (List.range w).map fun i => r.getMsbD i

@[simp] theorem length_msbs (r : BitVec w) : (msbs r).length = w := by simp [msbs]

theorem placed_msbs (r : BitVec w) : placed (msbs r) = r := by
  apply BitVec.eq_of_getMsbD_eq
  intro i hi
  rw [getMsbD_placed (by omega)]
  simp [msbs, List.getD_eq_getElem?_getD, hi]

theorem msbs_placed {bs : List Bool} (h : bs.length = w) : msbs (placed bs : BitVec w) = bs := by
  apply List.ext_getElem
  · simp [h]
  · intro i h1 h2
    have hi : i < w := by simpa using h1
    simp only [msbs, List.getElem_map, List.getElem_range]
    rw [getMsbD_placed (by omega)]
    simp [hi, List.getD_eq_getElem?_getD, h2]

/-- Bits that fill bytes are the bits of bytes. -/
theorem exists_bits {n : Nat} {bs : List Bool} (h : bs.length = 8 * n) : ∃ l, l.length = n ∧ bits l = bs := by
  induction n generalizing bs with
  | zero => exact ⟨[], rfl, (List.length_eq_zero_iff.mp h).symm⟩
  | succ n ih =>
    obtain ⟨l, hlen, hl⟩ := @ih (bs.drop 8) (by rw [List.length_drop]; omega)
    have hfirst : bitsOf (placed (bs.take 8)) = bs.take 8 := msbs_placed (by rw [List.length_take]; omega)
    refine ⟨placed (bs.take 8) :: l, by rw [List.length_cons, hlen], ?_⟩
    rw [bits_cons, hfirst, hl, List.take_append_drop]

/-! ## The generator as a message -/

theorem shifts_zero (poly : BitVec w) (n : Nat) : (shift poly)^[n] 0#w = 0#w := by
  have h := shifts_xor poly 0#w 0#w n
  rwa [BitVec.xor_self, BitVec.xor_self] at h

/-- Its own bits empty the register. -/
theorem crcBits_msbs (poly r : BitVec w) : crcBits poly r (msbs r) = 0#w := by
  rw [crcBits_placed (Nat.le_of_eq (length_msbs r)), placed_msbs, BitVec.xor_self, shifts_zero]

/-- The generator, with the top term that no register holds. -/
def generatorBits (poly : BitVec w) : List Bool := true :: msbs poly

theorem crcBits_generator (poly : BitVec w) : crcBits poly 0 (generatorBits poly) = 0#w := by
  have hfirst : feedBit poly 0 true = poly := by simp [feedBit]
  have hstep : crcBits poly 0 (generatorBits poly) = crcBits poly (feedBit poly 0 true) (msbs poly) := rfl
  rw [hstep, hfirst, crcBits_msbs]

/-- `m` at place `k` among `n` bits. -/
def burst (n k : Nat) (m : List Bool) : List Bool :=
  List.replicate k false ++ m ++ List.replicate (n - (k + m.length)) false

theorem length_burst {n k : Nat} {m : List Bool} (h : k + m.length ≤ n) : (burst n k m).length = n := by
  simp only [burst, List.length_append, List.length_replicate]
  omega

theorem burst_at {n k i : Nat} {m : List Bool} (h : (burst n k m)[i]? = some true) : k ≤ i ∧ i < k + m.length := by
  unfold burst at h
  by_cases hlo : i < k
  · rw [List.append_assoc, List.getElem?_append_left (by simpa using hlo)] at h
    simp [hlo] at h
  · by_cases hhi : i < k + m.length
    · exact ⟨by omega, hhi⟩
    · rw [List.getElem?_append_right (by rw [List.length_append, List.length_replicate]; omega)] at h
      rw [List.getElem?_replicate] at h
      split at h <;> cases h

theorem crcBits_burst_zero (hw : 0 < w) {poly : BitVec w} {m : List Bool} (hm : crcBits poly 0 m = 0#w) (n k : Nat) :
    crcBits poly 0 (burst n k m) = 0#w := by
  have hstart : crcBits poly (0 : BitVec w) (List.replicate k false) = 0 := by
    rw [crcBits_zeros hw]
    exact shifts_zero poly k
  unfold burst
  rw [crcBits_append, crcBits_append, hstart, hm, crcBits_zeros hw, shifts_zero]

/-- Turning bits over twice. -/
theorem differing_twice {as ds : List Bool} (h : as.length = ds.length) : differing as (differing as ds) = ds := by
  unfold differing
  induction as generalizing ds with
  | nil => exact (List.length_eq_zero_iff.mp h.symm).symm
  | cons a as ih =>
    rcases ds with _ | ⟨d, ds⟩
    · cases h
    · rw [List.zipWith_cons_cons, List.zipWith_cons_cons, ih (Nat.succ.inj h)]
      cases a <;> cases d <;> rfl

/-- **A burst that is not seen**, of the register's width and one bit more, at every place. -/
theorem crcBits_missed (hw : 0 < w) (poly r : BitVec w) {as : List Bool} {k : Nat} (hk : k + (w + 1) ≤ as.length) :
    ∃ bs, bs.length = as.length ∧ bs ≠ as ∧ (∀ i, as[i]? ≠ bs[i]? → k ≤ i ∧ i < k + (w + 1)) ∧
      crcBits poly r bs = crcBits poly r as := by
  have hgen : (generatorBits poly).length = w + 1 := by simp [generatorBits]
  have hds : as.length = (burst as.length k (generatorBits poly)).length := (length_burst (by rw [hgen]; exact hk)).symm
  have hbs : as.length = (differing as (burst as.length k (generatorBits poly))).length := by
    simp only [differing, List.length_zipWith]
    omega
  have hdiff := differing_twice hds
  refine ⟨_, hbs.symm, fun heq => ?_, fun i hi => ?_, ?_⟩
  · -- the burst has a bit set, a message and itself differ nowhere
    have htop : (burst as.length k (generatorBits poly))[k]? = some true := by
      unfold burst
      rw [List.append_assoc, List.getElem?_append_right (by simp), List.length_replicate, Nat.sub_self]
      rfl
    rw [← hdiff, differing_at hbs] at htop
    exact htop (by rw [heq])
  · rw [← differing_at hbs, hdiff] at hi
    have := burst_at hi
    rwa [hgen] at this
  · symm
    rw [crcBits_same hw poly r hbs, show List.zipWith xor as _ = differing as _ from rfl, hdiff]
    exact crcBits_burst_zero hw (crcBits_generator poly) _ _

/-! ## A generator moved up -/

variable {d c : Nat}

theorem feedBit_moved (hd : 0 < d) (q r : BitVec d) (b : Bool) :
    feedBit (q ++ 0#c) (r ++ 0#c) b = feedBit q r b ++ 0#c := by
  have hmsb : (r ++ 0#c).msb = r.msb := by
    rw [BitVec.msb_append, if_neg (by omega)]
  have hmove : (r ++ 0#c) <<< 1 = (r <<< 1) ++ 0#c := by
    apply BitVec.eq_of_getLsbD_eq
    intro i hi
    simp only [BitVec.getLsbD_shiftLeft, BitVec.getLsbD_append, BitVec.getLsbD_zero]
    by_cases hlo : i < c
    · simp [hlo, show i - 1 < c by omega]
    · by_cases hi0 : i < 1
      · have hc : c = 0 := by omega
        subst hc
        simp [hi0]
      · by_cases he : i = c
        · simp [he, show c - 1 < c by omega]
        · simp [hlo, hi0, show ¬i - 1 < c by omega, show i - c < d by omega, show ¬i - c < 1 by omega,
            show i - 1 - c = i - c - 1 by omega, hi]
  unfold feedBit
  rw [hmsb, hmove]
  split
  · rw [BitVec.xor_append, BitVec.xor_zero]
  · rfl

/-- The check with the generator moved up is the check moved up. -/
theorem crcBits_moved (hd : 0 < d) (q r : BitVec d) (bs : List Bool) :
    crcBits (q ++ 0#c) (r ++ 0#c) bs = crcBits q r bs ++ 0#c := by
  induction bs generalizing r with
  | nil => rfl
  | cons b bs ih =>
    have hstep : crcBits (q ++ 0#c) (r ++ 0#c) (b :: bs) = crcBits (q ++ 0#c) (feedBit (q ++ 0#c) (r ++ 0#c) b) bs := rfl
    rw [hstep, feedBit_moved hd, ih]
    rfl

/-- **The same check exactly if the narrow checks are the same**, from any start. -/
theorem crcBits_narrow (hd : 0 < d) (q s : BitVec d) (r : BitVec (d + c)) {as bs : List Bool} (hlen : as.length = bs.length) :
    crcBits (q ++ 0#c) r as = crcBits (q ++ 0#c) r bs ↔ crcBits q s as = crcBits q s bs := by
  have hzero : (0 : BitVec (d + c)) = 0#d ++ 0#c := by simp
  rw [crcBits_same (by omega) _ r hlen, crcBits_same hd q s hlen, hzero, crcBits_moved hd]
  constructor
  · intro h
    exact (BitVec.append_left_inj _).mp (h.trans hzero)
  · intro h
    rw [show (0 : BitVec d) = 0#d from rfl] at h
    rw [h, ← hzero]
    rfl

/-- **Nothing is left in the lowest bits** after as many steps as they are. -/
theorem crcBits_low (q : BitVec d) (r : BitVec (d + c)) (bs : List Bool) {i : Nat} (hi : i < c) :
    (crcBits (q ++ 0#c) r bs).getLsbD i = (decide (bs.length ≤ i) && r.getLsbD (i - bs.length)) := by
  induction bs generalizing r with
  | nil => simp [crcBits]
  | cons b bs ih =>
    have hlow : ∀ j < c, (feedBit (q ++ 0#c) r b).getLsbD j = (decide (1 ≤ j) && r.getLsbD (j - 1)) := by
      intro j hj
      have hmove : (r <<< 1).getLsbD j = (decide (1 ≤ j) && r.getLsbD (j - 1)) := by
        by_cases h1 : 1 ≤ j
        · simp only [BitVec.getLsbD_shiftLeft, h1, show j < d + c by omega, show ¬j < 1 by omega]
          rfl
        · simp only [BitVec.getLsbD_shiftLeft, h1, show j < 1 by omega]
          simp
      have hclear : (q ++ 0#c).getLsbD j = false := by
        rw [BitVec.getLsbD_append, if_pos hj, BitVec.getLsbD_zero]
      unfold feedBit
      split
      · rw [BitVec.getLsbD_xor, hmove, hclear, Bool.xor_false]
      · exact hmove
    have hstep : crcBits (q ++ 0#c) r (b :: bs) = crcBits (q ++ 0#c) (feedBit (q ++ 0#c) r b) bs := rfl
    rw [hstep, ih, hlow _ (by omega), List.length_cons]
    by_cases h : bs.length + 1 ≤ i
    · simp [h, show bs.length ≤ i by omega, show 1 ≤ i - bs.length by omega, Nat.sub_sub]
    · by_cases he : bs.length ≤ i
      · simp [h, show ¬1 ≤ i - bs.length by omega]
      · simp [h, he]

end StarServer.Crc

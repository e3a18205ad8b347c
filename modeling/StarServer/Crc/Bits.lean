/-
  StarServer.Crc.Bits — a cyclic redundancy check of any width, one bit of the message a step.

  The register divides: its top bit and the message's next bit, most significant first, decide
  whether the generator is taken away (`feedBit`). The register after `n` bits is what `n` moves
  make of it with the bits added at the top (`crcBits_placed`), so a byte at a time is the same
  (`crc_bits`).

  Proved, for any width and any generator with its lowest bit set:
  (1) `crc_bits`: the check of `StarServer.Crc.Serial` is this division.
  (2) `crcBits_burst`: two messages that differ within a window as wide as the register have
      different remainders.
  (3) `crcBits_odd`: so have, if the generator's terms below the top one are odd in number, two
      that differ in an odd number of bits.
-/

import StarServer.Crc.Serial

namespace StarServer.Crc

variable {w : Nat}

/-- The bits of a byte, most significant first. -/
def bitsOf (b : BitVec 8) : List Bool := (List.range 8).map fun i => b.getMsbD i

def bits (l : List (BitVec 8)) : List Bool := l.flatMap bitsOf

/-- The generator is taken away where the bit that falls out and the message's differ. -/
def feedBit (poly r : BitVec w) (b : Bool) : BitVec w := if (r.msb ^^ b) = true then (r <<< 1) ^^^ poly else r <<< 1

def crcBits (poly r : BitVec w) (bs : List Bool) : BitVec w := bs.foldl (feedBit poly) r

@[simp] theorem length_bitsOf (b : BitVec 8) : (bitsOf b).length = 8 := by simp [bitsOf]

@[simp] theorem bits_nil : bits [] = [] := rfl

@[simp] theorem bits_cons (b : BitVec 8) (l : List (BitVec 8)) : bits (b :: l) = bitsOf b ++ bits l := rfl

@[simp] theorem length_bits (l : List (BitVec 8)) : (bits l).length = 8 * l.length := by
  induction l with
  | nil => rfl
  | cons b l ih => simp only [bits_cons, List.length_append, length_bitsOf, ih, List.length_cons]; omega

theorem bitsOf_injective : Function.Injective bitsOf := by
  intro a b h
  apply BitVec.eq_of_getMsbD_eq
  intro i hi
  have := congrArg (·[i]?) h
  simpa [bitsOf, hi] using this

theorem bits_injective : Function.Injective bits := by
  intro l m h
  induction l generalizing m with
  | nil =>
    have hlen := congrArg List.length h
    rw [length_bits, length_bits, List.length_nil] at hlen
    exact (List.eq_nil_of_length_eq_zero (by omega)).symm
  | cons a l ih =>
    rcases m with _ | ⟨b, m⟩
    · have := congrArg List.length h
      simp at this
    · obtain ⟨hab, hrest⟩ := List.append_inj h (by simp)
      rw [bitsOf_injective hab, ih hrest]

@[simp] theorem crcBits_append (poly r : BitVec w) (as bs : List Bool) :
    crcBits poly r (as ++ bs) = crcBits poly (crcBits poly r as) bs := by
  simp [crcBits]

/-! ## A bit at the top of the register -/

def topBit (b : Bool) : BitVec w := if b then BitVec.twoPow w (w - 1) else 0

theorem msb_topBit (hw : 0 < w) (b : Bool) : (topBit b : BitVec w).msb = b := by
  cases b with
  | false => simp [topBit]
  | true =>
    have hlt : w - 1 < w := by omega
    simp [topBit, BitVec.msb_eq_getLsbD_last, hlt]

/-- Nothing of the bit is left after a move but its choice. -/
theorem topBit_move (b : Bool) : (topBit b : BitVec w) <<< 1 = 0#w := by
  cases b with
  | false => simp [topBit]
  | true =>
    apply BitVec.eq_of_getLsbD_eq
    intro i hi
    simp only [topBit, if_true, BitVec.getLsbD_shiftLeft, BitVec.getLsbD_twoPow, BitVec.getLsbD_zero]
    by_cases h : w - 1 = i - 1
    · have : i < 1 := by omega
      simp [this]
    · simp [h]

theorem feedBit_shift (hw : 0 < w) (poly r : BitVec w) (b : Bool) : feedBit poly r b = shift poly (r ^^^ topBit b) := by
  have hmove : (r ^^^ topBit b) <<< 1 = r <<< 1 := by
    rw [BitVec.shiftLeft_xor_distrib, topBit_move, BitVec.xor_zero]
  unfold feedBit shift
  rw [BitVec.msb_xor, msb_topBit hw, hmove]

theorem topBit_xor (a b : Bool) : (topBit (a ^^ b) : BitVec w) = topBit a ^^^ topBit b := by
  cases a <;> cases b <;> simp [topBit]

/-- A step is linear in the register and the bit together. -/
theorem feedBit_xor (hw : 0 < w) (poly a b : BitVec w) (x y : Bool) :
    feedBit poly (a ^^^ b) (x ^^ y) = feedBit poly a x ^^^ feedBit poly b y := by
  have hswap : a ^^^ b ^^^ (topBit x ^^^ topBit y) = a ^^^ topBit x ^^^ (b ^^^ topBit y) := by ac_rfl
  simp only [feedBit_shift hw]
  rw [topBit_xor, hswap, shift_xor]

/-! ## Bits at the top of the register -/

/-- The first bit at the top, the next one below it, and so on. -/
def placed : List Bool → BitVec w
  | [] => 0
  | b :: bs => topBit b ^^^ (placed bs >>> 1)

theorem getMsbD_placed (hw : 0 < w) (bs : List Bool) (k : Nat) :
    (placed bs : BitVec w).getMsbD k = (decide (k < w) && bs.getD k false) := by
  induction bs generalizing k with
  | nil => simp [placed]
  | cons b bs ih =>
    simp only [placed, BitVec.getMsbD_xor, BitVec.getMsbD_ushiftRight]
    cases k with
    | zero =>
      have htop : (topBit b : BitVec w).getMsbD 0 = b := msb_topBit hw b
      simp [htop, hw]
    | succ k =>
      have hlow : (topBit b : BitVec w).getMsbD (k + 1) = false := by
        have hne : w - 1 ≠ w - 1 - (k + 1) ∨ ¬k + 1 < w := by omega
        cases b with
        | false => simp [topBit]
        | true =>
          rcases hne with hne | hne
          · simp [topBit, BitVec.getMsbD_eq_getLsbD, BitVec.getLsbD_twoPow, hne]
          · simp [topBit, BitVec.getMsbD_eq_getLsbD, hne]
      have hk : ¬k + 1 < 1 := by omega
      simp only [hlow, Bool.false_xor, hk, Nat.add_sub_cancel, ih, List.getD_cons_succ]
      by_cases hlt : k + 1 < w
      · simp [hlt, show k < w by omega]
      · simp [hlt]

/-- Bits that do not fill the register leave its lowest place free, so a move back loses nothing. -/
theorem placed_move (bs : List Bool) (hlen : bs.length < w) (poly : BitVec w) :
    shift poly ((placed bs : BitVec w) >>> 1) = placed bs := by
  have hw : 0 < w := by omega
  have hmsb : ((placed bs : BitVec w) >>> 1).msb = false := by
    simp [BitVec.msb_eq_getMsbD_zero, BitVec.getMsbD_ushiftRight]
  have hlow : (placed bs : BitVec w).getLsbD 0 = false := by
    have := getMsbD_placed hw bs (w - 1)
    rw [BitVec.getMsbD_eq_getLsbD, List.getD_eq_getElem?_getD, List.getElem?_eq_none (by omega)] at this
    simpa [show w - 1 < w by omega] using this
  unfold shift
  rw [hmsb, if_neg (by decide)]
  apply BitVec.eq_of_getLsbD_eq
  intro i hi
  rw [BitVec.getLsbD_shiftLeft, BitVec.getLsbD_ushiftRight]
  cases i with
  | zero => simp [hlow]
  | succ i => simp [hi, Nat.add_comm]

/-- The register after as many bits as it can hold. -/
theorem crcBits_placed {bs : List Bool} (hlen : bs.length ≤ w) (poly r : BitVec w) :
    crcBits poly r bs = (shift poly)^[bs.length] (r ^^^ placed bs) := by
  induction bs generalizing r with
  | nil => simp [crcBits, placed]
  | cons b bs ih =>
    have hlt : bs.length < w := hlen
    have hstep : shift poly (r ^^^ placed (b :: bs)) = feedBit poly r b ^^^ placed bs := by
      have hsplit : r ^^^ placed (b :: bs) = (r ^^^ topBit b) ^^^ (placed bs >>> 1) := (BitVec.xor_assoc _ _ _).symm
      rw [hsplit, shift_xor, placed_move bs hlt, feedBit_shift (by omega)]
    rw [List.length_cons, Function.iterate_succ_apply, hstep, ← ih (by omega)]
    rfl

theorem getD_bitsOf (b : BitVec 8) (k : Nat) : (bitsOf b).getD k false = b.getMsbD k := by
  by_cases hk : k < 8
  · simp [bitsOf, hk]
  · have hlen : (bitsOf b).length ≤ k := by simp only [length_bitsOf]; omega
    rw [List.getD_eq_getElem?_getD, List.getElem?_eq_none hlen, BitVec.getMsbD_of_ge _ _ (by omega)]
    rfl

theorem placed_byte (hw : 8 ≤ w) (b : BitVec 8) : (placed (bitsOf b) : BitVec w) = atTop b := by
  apply BitVec.eq_of_getMsbD_eq
  intro k hk
  rw [getMsbD_placed (by omega), getD_bitsOf]
  simp only [atTop, BitVec.getMsbD_eq_getLsbD, BitVec.getLsbD_shiftLeft, BitVec.getLsbD_setWidth]
  by_cases h8 : k < 8
  · have h1 : w - 1 - k < w := by omega
    have h2 : ¬w - 1 - k < w - 8 := by omega
    have h3 : w - 1 - k - (w - 8) = 7 - k := by omega
    have h4 : 7 - k < w := by omega
    simp [hk, h8, h1, h2, h3, h4]
  · have h2 : w - 1 - k < w - 8 := by omega
    simp [h8, h2]

/-- **A byte at a time is a bit at a time.** -/
theorem crc_bits (hw : 8 ≤ w) (poly r : BitVec w) (l : List (BitVec 8)) : crc poly r l = crcBits poly r (bits l) := by
  induction l generalizing r with
  | nil => rfl
  | cons b l ih =>
    have hfeed : feed poly r b = crcBits poly r (bitsOf b) := by
      rw [crcBits_placed (by simpa using hw), length_bitsOf, placed_byte hw]
      rfl
    rw [bits_cons, crcBits_append, ← hfeed, ← ih]
    rfl

/-! ## Two messages -/

/-- The difference of two messages is what drives the difference of the registers. -/
theorem crcBits_xor (hw : 0 < w) (poly a b : BitVec w) {as bs : List Bool} (hlen : as.length = bs.length) :
    crcBits poly (a ^^^ b) (List.zipWith xor as bs) = crcBits poly a as ^^^ crcBits poly b bs := by
  induction as generalizing a b bs with
  | nil =>
    obtain rfl := List.length_eq_zero_iff.mp hlen.symm
    rfl
  | cons x as ih =>
    rcases bs with _ | ⟨y, bs⟩
    · simp at hlen
    · have hrest := ih (feedBit poly a x) (feedBit poly b y) (Nat.succ.inj hlen)
      rw [← feedBit_xor hw] at hrest
      exact hrest

theorem crcBits_same (hw : 0 < w) (poly r : BitVec w) {as bs : List Bool} (hlen : as.length = bs.length) :
    crcBits poly r as = crcBits poly r bs ↔ crcBits poly 0 (List.zipWith xor as bs) = 0#w := by
  have h := crcBits_xor hw poly r r hlen
  rw [BitVec.xor_self] at h
  rw [show (0 : BitVec w) = 0#w from rfl, h, BitVec.xor_eq_zero_iff]

/-- Steps without a bit are moves. -/
theorem crcBits_zeros (hw : 0 < w) (poly r : BitVec w) (n : Nat) :
    crcBits poly r (List.replicate n false) = (shift poly)^[n] r := by
  induction n generalizing r with
  | zero => rfl
  | succ n ih =>
    have hstep : feedBit poly r false = shift poly r := by
      rw [feedBit_shift hw]
      simp [topBit]
    rw [List.replicate_succ, Function.iterate_succ_apply, ← hstep, ← ih]
    rfl

theorem shifts_eq_zero {poly : BitVec w} (hpoly : poly.getLsbD 0 = true) {n : Nat} {r : BitVec w} :
    (shift poly)^[n] r = 0#w ↔ r = 0#w := by
  have hzero : (shift poly)^[n] 0#w = 0#w := by
    have h := shifts_xor poly 0#w 0#w n
    rwa [BitVec.xor_self, BitVec.xor_self] at h
  constructor
  · intro h
    exact (shift_injective hpoly).iterate n (h.trans hzero.symm)
  · intro h
    rw [h, hzero]

/-- A burst no wider than the register leaves something in it, whatever number of bits follow. -/
theorem crcBits_window {poly : BitVec w} (hpoly : poly.getLsbD 0 = true) {m : List Bool} (hlen : m.length ≤ w)
    (hm : true ∈ m) (i j : Nat) :
    crcBits poly 0 (List.replicate i false ++ m ++ List.replicate j false) ≠ 0#w := by
  have hw : 0 < w := by
    have := List.length_pos_of_mem hm
    omega
  have hstart : crcBits poly (0 : BitVec w) (List.replicate i false) = 0#w := by
    rw [crcBits_zeros hw]
    exact (shifts_eq_zero hpoly).mpr rfl
  rw [crcBits_append, crcBits_append, hstart, crcBits_zeros hw, crcBits_placed hlen]
  intro h
  have hplaced := (shifts_eq_zero hpoly).mp ((shifts_eq_zero hpoly).mp h)
  obtain ⟨k, hk, hbit⟩ := List.getElem_of_mem hm
  have hmsb := getMsbD_placed hw m k
  rw [BitVec.zero_xor] at hplaced
  rw [hplaced] at hmsb
  simp [List.getD_eq_getElem?_getD, hk, hbit, show k < w by omega] at hmsb

/-- Bits that are clear outside a window. -/
theorem split_window {ds : List Bool} {k n : Nat} (h : ∀ i, ds[i]? = some true → k ≤ i ∧ i < k + n) :
    ∃ m, m.length ≤ n ∧ (true ∈ ds → true ∈ m) ∧
      ∃ i j, ds = List.replicate i false ++ m ++ List.replicate j false := by
  have hbefore : ds.take k = List.replicate (ds.take k).length false := by
    refine List.eq_replicate_iff.mpr ⟨rfl, fun b hb => ?_⟩
    obtain ⟨i, hi, hbi⟩ := List.getElem_of_mem hb
    cases b with
    | false => rfl
    | true =>
      rw [List.length_take] at hi
      rw [List.getElem_take] at hbi
      have := h i (by rw [List.getElem?_eq_getElem (by omega), hbi])
      omega
  have hbehind : (ds.drop k).drop n = List.replicate ((ds.drop k).drop n).length false := by
    refine List.eq_replicate_iff.mpr ⟨rfl, fun b hb => ?_⟩
    obtain ⟨i, hi, hbi⟩ := List.getElem_of_mem hb
    cases b with
    | false => rfl
    | true =>
      rw [List.length_drop, List.length_drop] at hi
      rw [List.getElem_drop, List.getElem_drop] at hbi
      have := h (k + (n + i)) (by rw [List.getElem?_eq_getElem (by omega), hbi])
      omega
  have hall : ds = List.replicate (ds.take k).length false ++ (ds.drop k).take n ++
      List.replicate ((ds.drop k).drop n).length false := by
    rw [← hbefore, ← hbehind, List.append_assoc, List.take_append_drop, List.take_append_drop]
  refine ⟨(ds.drop k).take n, List.length_take_le _ _, fun hm => ?_, _, _, hall⟩
  rw [hall] at hm
  simpa using hm

/-- Where two messages differ. -/
def differing (as bs : List Bool) : List Bool := List.zipWith xor as bs

theorem differing_at {as bs : List Bool} (hlen : as.length = bs.length) (i : Nat) :
    (differing as bs)[i]? = some true ↔ as[i]? ≠ bs[i]? := by
  unfold differing
  rw [List.getElem?_zipWith]
  by_cases hi : i < as.length
  · rw [List.getElem?_eq_getElem hi, List.getElem?_eq_getElem (show i < bs.length by omega)]
    cases as[i] <;> cases bs[i] <;> simp
  · rw [List.getElem?_eq_none (by omega), List.getElem?_eq_none (by omega)]
    simp

/-- **A burst is seen**: differences within a window as wide as the register. -/
theorem crcBits_burst {poly : BitVec w} (hpoly : poly.getLsbD 0 = true) (r : BitVec w) {as bs : List Bool}
    (hlen : as.length = bs.length) (hne : as ≠ bs) {k : Nat} (h : ∀ i, as[i]? ≠ bs[i]? → k ≤ i ∧ i < k + w) :
    crcBits poly r as ≠ crcBits poly r bs := by
  obtain ⟨i, hi⟩ : ∃ i, as[i]? ≠ bs[i]? := by
    by_contra hall
    exact hne (List.ext_getElem? fun i => by_contra fun hi => hall ⟨i, hi⟩)
  have hw : 0 < w := by
    have := h i hi
    omega
  have hmem : true ∈ differing as bs := List.mem_of_getElem? ((differing_at hlen i).mpr hi)
  obtain ⟨m, hm, hin, p, q, hsplit⟩ := @split_window (differing as bs) k w fun j hj => h j ((differing_at hlen j).mp hj)
  intro heq
  have hzero := (crcBits_same hw poly r hlen).mp heq
  rw [show List.zipWith xor as bs = differing as bs from rfl, hsplit] at hzero
  exact crcBits_window hpoly hm (hin hmem) p q hzero

/-! ## Parity -/

def xorTo : Nat → (Nat → Bool) → Bool
  | 0, _ => false
  | n + 1, f => xorTo n f ^^ f n

/-- Whether an odd number of the register's bits are set. -/
def parity (r : BitVec w) : Bool := xorTo w r.getLsbD

theorem xorTo_xor (n : Nat) (f g : Nat → Bool) : xorTo n (fun i => f i ^^ g i) = (xorTo n f ^^ xorTo n g) := by
  induction n with
  | zero => rfl
  | succ n ih =>
    simp only [xorTo, ih]
    cases xorTo n f <;> cases xorTo n g <;> cases f n <;> cases g n <;> rfl

theorem xorTo_succ_left (n : Nat) (f : Nat → Bool) : xorTo (n + 1) f = (f 0 ^^ xorTo n fun i => f (i + 1)) := by
  induction n with
  | zero => simp [xorTo]
  | succ n ih =>
    rw [xorTo, ih, xorTo, Bool.xor_assoc]

theorem xorTo_congr {n : Nat} {f g : Nat → Bool} (h : ∀ i < n, f i = g i) : xorTo n f = xorTo n g := by
  induction n with
  | zero => rfl
  | succ n ih => rw [xorTo, xorTo, ih fun i hi => h i (by omega), h n (by omega)]

theorem parity_xor (a b : BitVec w) : parity (a ^^^ b) = (parity a ^^ parity b) := by
  unfold parity
  rw [← xorTo_xor]
  exact xorTo_congr fun i _ => by simp

/-- A move loses the top bit. -/
theorem parity_move (r : BitVec w) : parity (r <<< 1) = (parity r ^^ r.msb) := by
  rcases w with _ | w
  · simp [parity, xorTo, BitVec.msb_eq_getLsbD_last]
  · have hshift : parity (r <<< 1) = xorTo w r.getLsbD := by
      unfold parity
      rw [xorTo_succ_left]
      simp only [BitVec.getLsbD_shiftLeft]
      rw [xorTo_congr (g := r.getLsbD) fun i hi => by simp [show i + 1 < w + 1 by omega]]
      simp
    have hall : parity r = (xorTo w r.getLsbD ^^ r.msb) := by
      rw [BitVec.msb_eq_getLsbD_last]
      rfl
    rw [hshift, hall]
    cases xorTo w r.getLsbD <;> cases r.msb <;> rfl

/-- With an even number of terms in the generator, a step counts the message's bit and no more. -/
theorem parity_feedBit {poly : BitVec w} (hpoly : parity poly = true) (r : BitVec w) (b : Bool) :
    parity (feedBit poly r b) = (parity r ^^ b) := by
  unfold feedBit
  cases hb : r.msb ^^ b with
  | true =>
    rw [if_pos rfl, parity_xor, parity_move, hpoly]
    cases parity r <;> cases hr : r.msb <;> cases b <;> simp_all
  | false =>
    rw [if_neg (by decide), parity_move]
    cases parity r <;> cases hr : r.msb <;> cases b <;> simp_all

theorem parity_crcBits {poly : BitVec w} (hpoly : parity poly = true) (r : BitVec w) (bs : List Bool) :
    parity (crcBits poly r bs) = (parity r ^^ decide (bs.count true % 2 = 1)) := by
  induction bs generalizing r with
  | nil => simp [crcBits]
  | cons b bs ih =>
    have hstep : crcBits poly r (b :: bs) = crcBits poly (feedBit poly r b) bs := rfl
    rw [hstep, ih, parity_feedBit hpoly, List.count_cons, Bool.xor_assoc]
    congr 1
    cases b with
    | false => simp
    | true =>
      rcases Nat.mod_two_eq_zero_or_one (bs.count true) with h | h
      · have hnext : (bs.count true + 1) % 2 = 1 := by omega
        simp [h, hnext]
      · have hnext : (bs.count true + 1) % 2 = 0 := by omega
        simp [h, hnext]

/-- **An odd number of differences is seen.** -/
theorem crcBits_odd {poly : BitVec w} (hw : 0 < w) (hpoly : parity poly = true) (r : BitVec w) {as bs : List Bool}
    (hlen : as.length = bs.length) (hodd : (differing as bs).count true % 2 = 1) :
    crcBits poly r as ≠ crcBits poly r bs := by
  intro heq
  have hzero := (crcBits_same hw poly r hlen).mp heq
  have hparity := parity_crcBits hpoly 0 (differing as bs)
  rw [show differing as bs = List.zipWith xor as bs from rfl] at hparity hodd
  rw [hzero, hodd] at hparity
  have h0 : parity (0#w) = false := by
    have h := parity_xor (0#w) (0#w)
    rwa [BitVec.xor_self, Bool.xor_self] at h
  simp [h0] at hparity

end StarServer.Crc

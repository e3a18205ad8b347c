/-
  StarServer.Crc.Table — the table-driven CRCs of `StarSocketServer.cpp`. Each keeps its
  remainder in an unmasked 32-bit register, as the code does, and cuts it to the width at the
  end. The frames use CRC-16.

  The low bits of the register are the serial check with the same generator (`stosCRC16_eq`), so
  one changed byte changes it (`stosCRC16_differs`). The same goes for each of the three widths,
  any generator and a bit at a time (`tables_serial`); and with the frames' generator bursts
  and odd numbers of changed bits change it too (`stosCRC16_detects`).
-/

import StarServer.Crc.Bits
import StarServer.Memory.Bytes

namespace StarServer.Crc

open StarServer.Memory

/-- `STAR_CRC16_STANDARD_POLY`. -/
def starCRC16StandardPoly : BitVec 16 := 0xa001

/-- `STAR_CRC16_STANDARD_INIT`. -/
def starCRC16StandardInit : BitVec 16 := 0

/-- One pass of `_InitCRC16Table`'s inner loop. -/
def crc16Shift (poly : BitVec 16) (r : BitVec 32) : BitVec 32 :=
  if r &&& 0x8000 ≠ 0 then (r <<< 1) ^^^ poly.setWidth 32 else r <<< 1

/-- Entry `i` of the table `_InitCRC16Table` fills. -/
def initCRC16Table (poly : BitVec 16) (i : BitVec 8) : BitVec 16 :=
  ((crc16Shift poly)^[8] (i.setWidth 32 <<< 8)).setWidth 16

/-- `s_CRC16Table`, as `STOS_InitCRCTable` leaves it. -/
def crc16Table : BitVec 8 → BitVec 16 := initCRC16Table starCRC16StandardPoly

/-- One pass of `STOS_CRC16`'s loop. -/
def crc16Step (t : BitVec 8 → BitVec 16) (r : BitVec 32) (data : Byte) : BitVec 32 :=
  (r <<< 8) ^^^ (t (((r >>> 8) ^^^ data.setWidth 32).setWidth 8)).setWidth 32

/-- `STOS_CRC16` over the bytes it is given. -/
def stosCRC16 (input : List Byte) : BitVec 16 :=
  (input.foldl (crc16Step crc16Table) (starCRC16StandardInit.setWidth 32)).setWidth 16

example : stosCRC16 [0x31, 0x32, 0x33] = 0xb9c8 := by decide +kernel

/-! ## The other widths -/

/-- `STAR_CRC8_STANDARD_INIT`. -/
def starCRC8StandardInit : BitVec 8 := 0

/-- `STAR_CRC32_STANDARD_INIT`. -/
def starCRC32StandardInit : BitVec 32 := 0xffffffff

/-- One pass of the inner loop that fills a table, with the register's bit that the code tests. -/
def registerShift (top poly r : BitVec 32) : BitVec 32 := if r &&& top ≠ 0 then (r <<< 1) ^^^ poly else r <<< 1

def crc8Shift (poly : BitVec 8) : BitVec 32 → BitVec 32 := registerShift 0x80 (poly.setWidth 32)

def crc32Shift (poly : BitVec 32) : BitVec 32 → BitVec 32 := registerShift 0x80000000 poly

def initCRC8Table (poly : BitVec 8) (i : BitVec 8) : BitVec 8 := ((crc8Shift poly)^[8] (i.setWidth 32)).setWidth 8

def initCRC32Table (poly : BitVec 32) (i : BitVec 8) : BitVec 32 := (crc32Shift poly)^[8] (i.setWidth 32 <<< 24)

/-- One pass of `STOS_CRC8`'s loop: nothing of the register is kept. -/
def crc8Step (t : BitVec 8 → BitVec 8) (r : BitVec 32) (data : Byte) : BitVec 32 :=
  (t ((r ^^^ data.setWidth 32).setWidth 8)).setWidth 32

def crc32Step (t : BitVec 8 → BitVec 32) (r : BitVec 32) (data : Byte) : BitVec 32 :=
  (r <<< 8) ^^^ t (((r >>> 24) ^^^ data.setWidth 32).setWidth 8)

/-- `STOS_CRC8`, with what is in `s_CRC8Table`. -/
def stosCRC8 (t : BitVec 8 → BitVec 8) (input : List Byte) : BitVec 8 :=
  (input.foldl (crc8Step t) (starCRC8StandardInit.setWidth 32)).setWidth 8

/-- `STOS_CRC16`, with what is in `s_CRC16Table`. -/
def stosCRC16With (t : BitVec 8 → BitVec 16) (input : List Byte) : BitVec 16 :=
  (input.foldl (crc16Step t) (starCRC16StandardInit.setWidth 32)).setWidth 16

/-- `STOS_CRC32`, with what is in `s_CRC32Table`. -/
def stosCRC32 (t : BitVec 8 → BitVec 32) (input : List Byte) : BitVec 32 :=
  input.foldl (crc32Step t) starCRC32StandardInit

/-! ## The serial check -/

variable {w : Nat}

/-- The low bits of the register make the serial move, whatever is above them. -/
theorem registerShift_low (h0 : 0 < w) (hw : w ≤ 32) {top : BitVec 32} (htop : top = BitVec.twoPow 32 (w - 1))
    (poly : BitVec w) (r : BitVec 32) :
    (registerShift top (poly.setWidth 32) r).setWidth w = shift poly (r.setWidth w) := by
  have hbit : r &&& top ≠ 0 ↔ (r.setWidth w).msb = true := by
    have hlt : w - 1 < w := by omega
    have hlow : (r.setWidth w).getLsbD (w - 1) = r.getLsbD (w - 1) := by simp [hlt]
    rw [htop, BitVec.and_twoPow, BitVec.msb_eq_getLsbD_last, hlow]
    cases r.getLsbD (w - 1) with
    | true =>
      refine ⟨fun _ => rfl, fun _ h => ?_⟩
      have hone := congrArg (BitVec.getLsbD · (w - 1)) h
      simp [show w - 1 < 32 by omega] at hone
    | false => simp
  have hmove : (r <<< 1).setWidth w = r.setWidth w <<< 1 := BitVec.setWidth_shiftLeft_of_le hw
  unfold registerShift shift
  by_cases h : r &&& top ≠ 0
  · rw [if_pos h, if_pos (hbit.mp h), BitVec.setWidth_xor, hmove, BitVec.setWidth_setWidth_of_le _ hw, BitVec.setWidth_eq]
  · rw [if_neg h, if_neg (fun hm => h (hbit.mpr hm)), hmove]

/-- Eight moves of the register are eight serial moves of its low bits. -/
theorem registerTable_low {move : BitVec 32 → BitVec 32} {poly : BitVec w}
    (hmove : ∀ r, (move r).setWidth w = shift poly (r.setWidth w)) {r : BitVec 32} {i : BitVec 8}
    (hstart : r.setWidth w = atTop i) : (move^[8] r).setWidth w = table poly i := by
  have hsemi : Function.Semiconj (BitVec.setWidth w (w := 32)) move (shift poly) := hmove
  unfold table
  rw [(hsemi.iterate_right 8).eq, hstart]

theorem crc16Shift_low (poly : BitVec 16) (r : BitVec 32) :
    (crc16Shift poly r).setWidth 16 = shift poly (r.setWidth 16) :=
  registerShift_low (by decide) (by decide) (by decide) poly r

theorem initCRC8Table_eq (poly : BitVec 8) : initCRC8Table poly = table poly := by
  funext i
  have hmove : ∀ r, (crc8Shift poly r).setWidth 8 = shift poly (r.setWidth 8) :=
    registerShift_low (by decide) (by decide) (by decide) poly
  refine registerTable_low hmove ?_
  simp [atTop]

theorem initCRC16Table_eq (poly : BitVec 16) : initCRC16Table poly = table poly := by
  funext i
  refine registerTable_low (crc16Shift_low poly) ?_
  rw [BitVec.setWidth_shiftLeft_of_le (by decide), BitVec.setWidth_setWidth_of_le _ (by decide)]
  rfl

theorem initCRC32Table_eq (poly : BitVec 32) : initCRC32Table poly = table poly := by
  funext i
  have hmove : ∀ r, (crc32Shift poly r).setWidth 32 = shift poly (r.setWidth 32) := by
    intro r
    have h := @registerShift_low 32 (by decide) (by decide) 0x80000000 (by decide) poly r
    rwa [BitVec.setWidth_eq poly] at h
  have h := registerTable_low (i := i) hmove (r := i.setWidth 32 <<< 24) (by simp [atTop])
  rwa [BitVec.setWidth_eq] at h

/-- What the register holds above the width never comes back. -/
theorem registerStep_low (h8 : 8 ≤ w) (hw : w ≤ 32) (poly : BitVec w) (r : BitVec 32) (data : Byte) :
    ((r <<< 8) ^^^ (table poly (((r >>> (w - 8)) ^^^ data.setWidth 32).setWidth 8)).setWidth 32).setWidth w =
      feed poly (r.setWidth w) data := by
  have hidx : ((r >>> (w - 8)) ^^^ data.setWidth 32).setWidth 8 = topByte (r.setWidth w) ^^^ data := by
    apply BitVec.eq_of_getLsbD_eq
    intro i hi
    simp [topByte, hi, show i < 32 by omega, show w - 8 + i < w by omega]
  rw [feed_table h8, hidx, BitVec.setWidth_xor, BitVec.setWidth_shiftLeft_of_le hw, BitVec.setWidth_setWidth_of_le _ hw,
    BitVec.setWidth_eq]

theorem crc8Step_low (poly : BitVec 8) (r : BitVec 32) (data : Byte) :
    (crc8Step (table poly) r data).setWidth 8 = feed poly (r.setWidth 8) data := by
  have hlost : ((r <<< 8).setWidth 8 : BitVec 8) = 0#8 := by
    apply BitVec.eq_of_getLsbD_eq
    intro i hi
    simp [hi]
  have h := registerStep_low (w := 8) (by decide) (by decide) poly r data
  rw [BitVec.setWidth_xor, hlost, BitVec.zero_xor] at h
  exact h

theorem crc16Step_low (poly : BitVec 16) (r : BitVec 32) (data : Byte) :
    (crc16Step (table poly) r data).setWidth 16 = feed poly (r.setWidth 16) data :=
  registerStep_low (by decide) (by decide) poly r data

theorem crc32Step_low (poly : BitVec 32) (r : BitVec 32) (data : Byte) :
    (crc32Step (table poly) r data).setWidth 32 = feed poly (r.setWidth 32) data := by
  have h := registerStep_low (w := 32) (by decide) (by decide) poly r data
  rwa [BitVec.setWidth_eq (table poly _)] at h

/-- The low bits of the register after a message. -/
theorem foldl_low {step : BitVec 32 → Byte → BitVec 32} {poly : BitVec w}
    (hstep : ∀ r b, (step r b).setWidth w = feed poly (r.setWidth w) b) (l : List Byte) (r : BitVec 32) :
    (l.foldl step r).setWidth w = crc poly (r.setWidth w) l := by
  induction l generalizing r with
  | nil => rfl
  | cons b l ih =>
    rw [List.foldl_cons, ih, hstep]
    rfl

theorem stosCRC16With_eq (poly : BitVec 16) (l : List Byte) :
    stosCRC16With (initCRC16Table poly) l = crc poly starCRC16StandardInit l := by
  rw [initCRC16Table_eq]
  exact foldl_low (crc16Step_low poly) l _

theorem stosCRC16_eq (l : List Byte) : stosCRC16 l = crc starCRC16StandardPoly 0 l :=
  stosCRC16With_eq starCRC16StandardPoly l

/-- **One byte changed changes the CRC.** -/
theorem stosCRC16_differs (l : List Byte) {a b : Byte} (hab : a ≠ b) (m : List Byte) :
    stosCRC16 (l ++ a :: m) ≠ stosCRC16 (l ++ b :: m) := by
  rw [stosCRC16_eq, stosCRC16_eq]
  exact crc_differs (by decide) (by decide) 0 l hab m

/-- **Each table-driven CRC is the division**, one bit of the message at a time, for every
    generator and every message. -/
theorem tables_serial (l : List Byte) :
    (∀ poly, stosCRC8 (initCRC8Table poly) l = crcBits poly starCRC8StandardInit (bits l)) ∧
      (∀ poly, stosCRC16With (initCRC16Table poly) l = crcBits poly starCRC16StandardInit (bits l)) ∧
      ∀ poly, stosCRC32 (initCRC32Table poly) l = crcBits poly starCRC32StandardInit (bits l) := by
  refine ⟨?_, ?_, ?_⟩
  · intro poly
    rw [initCRC8Table_eq, ← crc_bits (by decide)]
    exact foldl_low (crc8Step_low poly) l _
  · intro poly
    rw [stosCRC16With_eq, crc_bits (by decide)]
  · intro poly
    rw [initCRC32Table_eq, ← crc_bits (by decide)]
    have h := foldl_low (crc32Step_low poly) l starCRC32StandardInit
    rwa [BitVec.setWidth_eq, BitVec.setWidth_eq] at h

/-- **Bursts of up to 16 bits, and odd numbers of changed bits, change the CRC-16.** -/
theorem stosCRC16_detects {a b : List Byte} (hlen : a.length = b.length) (hne : a ≠ b)
    (h : (∃ k, ∀ i, (bits a)[i]? ≠ (bits b)[i]? → k ≤ i ∧ i < k + 16) ∨
      (differing (bits a) (bits b)).count true % 2 = 1) : stosCRC16 a ≠ stosCRC16 b := by
  have hbits : (bits a).length = (bits b).length := by rw [length_bits, length_bits, hlen]
  rw [stosCRC16_eq, stosCRC16_eq, crc_bits (by decide), crc_bits (by decide)]
  rcases h with ⟨k, hk⟩ | hodd
  · have hdiff : bits a ≠ bits b := fun he => hne (bits_injective he)
    exact crcBits_burst (by decide) 0 hbits hdiff hk
  · exact crcBits_odd (by decide) (by decide) 0 hbits hodd

/-- The outermost bits of two bytes, and three bits far apart. -/
theorem stosCRC16_detects_bits : stosCRC16 [0x80, 0x01] ≠ stosCRC16 [0, 0] ∧
    stosCRC16 [0x80, 0, 0x10, 0, 0, 1] ≠ stosCRC16 [0, 0, 0, 0, 0, 0] := by
  refine ⟨stosCRC16_detects rfl (by decide) (Or.inl ⟨0, ?_⟩), stosCRC16_detects rfl (by decide) (Or.inr (by decide))⟩
  intro i hi
  by_contra hout
  have h16 : 16 ≤ i := by omega
  rw [List.getElem?_eq_none (by simpa using h16), List.getElem?_eq_none (by simpa using h16)] at hi
  exact hi rfl

end StarServer.Crc

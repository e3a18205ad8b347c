/-
  StarServer.Crc.Missed — what `STOS_CRC16` and `STOS_CRC32` do not see.

  Both take a generator that is written for a register that moves the other way. That of the
  CRC-16, 0xa001, still has its lowest term. That of the CRC-32, 0xedb88320, lacks its five
  lowest terms: it is a generator of 27 bits, moved up by five.

  Proved:
    * `stosCRC16_missed`: at every place of every message there is a burst of 17 bits that leaves
      the CRC-16 as it was;
    * `stosCRC32_narrow`: the five low bits of the CRC-32 of anything are clear, bursts of up to 27
      bits change it, and at every place of every message there is one of 28 that does not.
-/

import StarServer.Crc.Bursts
import StarServer.Crc.Table

namespace StarServer.Crc

open StarServer.Memory

/-- `STAR_CRC32_STANDARD_POLY`. -/
def starCRC32StandardPoly : BitVec 32 := 0xedb88320

/-- `s_CRC32Table`, as `STOS_InitCRCTable` leaves it. -/
def crc32Table : BitVec 8 → BitVec 32 := initCRC32Table starCRC32StandardPoly

/-- The generator without its missing terms. -/
def crc32Generator : BitVec 27 := 0x76dc419

theorem starCRC32StandardPoly_eq : starCRC32StandardPoly = crc32Generator ++ 0#5 := by decide

theorem stosCRC32_eq (l : List Byte) :
    stosCRC32 crc32Table l = crcBits (crc32Generator ++ 0#5) starCRC32StandardInit (bits l) := by
  have h := foldl_low (crc32Step_low starCRC32StandardPoly) l starCRC32StandardInit
  rw [BitVec.setWidth_eq, BitVec.setWidth_eq] at h
  rw [← starCRC32StandardPoly_eq, ← crc_bits (by decide), ← h]
  unfold crc32Table
  rw [initCRC32Table_eq]
  rfl

/-- The messages that differ from `a` in the window of `n` bits at `k`, and nowhere else. -/
structure DiffersIn (k n : Nat) (a b : List Byte) : Prop where
  length : b.length = a.length
  differs : b ≠ a
  within : ∀ i, (bits a)[i]? ≠ (bits b)[i]? → k ≤ i ∧ i < k + n

/-- A burst that the division misses, in bytes. -/
theorem missed_bytes {w : Nat} (hw : 0 < w) (poly r : BitVec w) {a : List Byte} {k : Nat} (hk : k + (w + 1) ≤ 8 * a.length) :
    ∃ b, DiffersIn k (w + 1) a b ∧ crcBits poly r (bits b) = crcBits poly r (bits a) := by
  have hroom : k + (w + 1) ≤ (bits a).length := by rwa [length_bits]
  obtain ⟨bs, hlen, hne, hwithin, hsame⟩ := crcBits_missed hw poly r hroom
  rw [length_bits] at hlen
  obtain ⟨b, hb, rfl⟩ := exists_bits hlen
  exact ⟨b, ⟨hb, fun heq => hne (congrArg bits heq), hwithin⟩, hsame⟩

/-- **Every message has one like it**, a burst of 17 bits away. -/
theorem stosCRC16_missed {a : List Byte} {k : Nat} (hk : k + 17 ≤ 8 * a.length) :
    ∃ b, DiffersIn k 17 a b ∧ stosCRC16 b = stosCRC16 a := by
  obtain ⟨b, hdiff, hsame⟩ := missed_bytes (by decide) starCRC16StandardPoly 0 hk
  refine ⟨b, hdiff, ?_⟩
  rwa [stosCRC16_eq, stosCRC16_eq, crc_bits (by decide), crc_bits (by decide)]

theorem stosCRC16_missed_three : ∃ b, DiffersIn 3 17 [1, 2, 3] b ∧ stosCRC16 b = stosCRC16 [1, 2, 3] :=
  stosCRC16_missed (by decide)

/-- The same CRC-32 exactly where the narrow check is the same. -/
theorem stosCRC32_same {a b : List Byte} (hlen : a.length = b.length) :
    stosCRC32 crc32Table a = stosCRC32 crc32Table b ↔ crcBits crc32Generator 0 (bits a) = crcBits crc32Generator 0 (bits b) := by
  rw [stosCRC32_eq, stosCRC32_eq]
  exact crcBits_narrow (by decide) _ _ _ (by rw [length_bits, length_bits, hlen])

theorem stosCRC32_low {l : List Byte} (hl : l ≠ []) : (stosCRC32 crc32Table l).setWidth 5 = 0#5 := by
  apply BitVec.eq_of_getLsbD_eq
  intro i hi
  have hlow := crcBits_low crc32Generator starCRC32StandardInit (bits l) hi
  have hlen : ¬(bits l).length ≤ i := by
    have := List.length_pos_iff.mpr hl
    rw [length_bits]
    omega
  rw [stosCRC32_eq, BitVec.getLsbD_setWidth, hlow, decide_eq_false hlen]
  simp

/-- **The CRC-32 is 27 bits wide**: its five low bits are clear, it sees every burst of 27 bits and
    misses one of 28 at every place. -/
theorem stosCRC32_narrow (a : List Byte) (k : Nat) :
    (a ≠ [] → (stosCRC32 crc32Table a).setWidth 5 = 0#5) ∧
      (∀ b, DiffersIn k 27 a b → stosCRC32 crc32Table b ≠ stosCRC32 crc32Table a) ∧
      (k + 28 ≤ 8 * a.length → ∃ b, DiffersIn k 28 a b ∧ stosCRC32 crc32Table b = stosCRC32 crc32Table a) := by
  refine ⟨stosCRC32_low, fun b hb => ?_, fun hk => ?_⟩
  · intro hsame
    rw [stosCRC32_same hb.length] at hsame
    have hlen : (bits a).length = (bits b).length := by rw [length_bits, length_bits, hb.length]
    exact crcBits_burst (by decide) 0 hlen (fun h => hb.differs (bits_injective h).symm) hb.within hsame.symm
  · obtain ⟨b, hdiff, hsame⟩ := missed_bytes (by decide) crc32Generator 0 hk
    exact ⟨b, hdiff, (stosCRC32_same hdiff.length).mpr hsame⟩

end StarServer.Crc

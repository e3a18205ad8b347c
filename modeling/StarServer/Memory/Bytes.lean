/-
  StarServer.Memory.Bytes — byte memory: buffers, the ranges written to them, and
  little-endian words.

  A buffer is memory from its own address 0 on. It has no end: a write past the
  allocation changes bytes the allocation does not own, and `top`, one past the last
  byte any write has touched, says whether that happened. Every read goes through
  `slice`, so what a reader sees is decided by the bytes of one range.
-/

import Mathlib.Algebra.Ring.Int.Defs
import Mathlib.Algebra.Ring.Nat
import Mathlib.Data.List.GetD

namespace StarServer.Memory

abbrev Byte := BitVec 8

structure Buf where
  mem : Nat → Byte
  /-- One past the last byte written so far. -/
  top : Nat

namespace Buf

def slice (b : Buf) (a n : Nat) : List Byte := (List.range n).map fun i => b.mem (a + i)

def store (b : Buf) (a : Nat) (l : List Byte) : Buf where
  mem := fun i => if a ≤ i ∧ i < a + l.length then l.getD (i - a) 0 else b.mem i
  top := if l.isEmpty then b.top else max b.top (a + l.length)

/-- `memcpy` inside one buffer: the source is read before the destination is written. -/
def copy (b : Buf) (dst src n : Nat) : Buf := b.store dst (b.slice src n)

end Buf

/-! ## Little-endian words -/

def ofLE : List Byte → Nat
  | [] => 0
  | b :: r => b.toNat + 256 * ofLE r

def toLE : Nat → Nat → List Byte
  | 0, _ => []
  | k + 1, v => BitVec.ofNat 8 v :: toLE k (v / 256)

@[simp] theorem length_toLE (k v : Nat) : (toLE k v).length = k := by
  induction k generalizing v with
  | zero => rfl
  | succ k ih => simp [toLE, ih]

theorem ofLE_toLE (k v : Nat) : ofLE (toLE k v) = v % 256 ^ k := by
  induction k generalizing v with
  | zero => simp [toLE, ofLE, Nat.mod_one]
  | succ k ih =>
    have hbyte : (BitVec.ofNat 8 v).toNat = v % 256 := by simp
    rw [toLE, ofLE, ih, hbyte, Nat.pow_succ, Nat.mul_comm (256 ^ k) 256, Nat.mod_mul]

theorem ofLE_lt (l : List Byte) : ofLE l < 256 ^ l.length := by
  induction l with
  | nil => simp [ofLE]
  | cons b r ih =>
    have hb : b.toNat < 256 := b.isLt
    simp only [ofLE, List.length_cons, Nat.pow_succ]
    omega

theorem toLE_ofLE (l : List Byte) : toLE l.length (ofLE l) = l := by
  induction l with
  | nil => rfl
  | cons b r ih =>
    have hb : b.toNat < 256 := b.isLt
    have hdiv : (b.toNat + 256 * ofLE r) / 256 = ofLE r := by omega
    have hlow : BitVec.ofNat 8 (b.toNat + 256 * ofLE r) = b := by
      apply BitVec.eq_of_toNat_eq
      simp only [BitVec.toNat_ofNat]
      omega
    simp only [List.length_cons, toLE, ofLE, hdiv, hlow, ih]

theorem ofLE_inj {l r : List Byte} (hlen : l.length = r.length) (h : ofLE l = ofLE r) : l = r := by
  rw [← toLE_ofLE l, ← toLE_ofLE r, hlen, h]

namespace Buf

def u16 (b : Buf) (a : Nat) : BitVec 16 := BitVec.ofNat 16 (ofLE (b.slice a 2))

def u32 (b : Buf) (a : Nat) : BitVec 32 := BitVec.ofNat 32 (ofLE (b.slice a 4))

def put16 (b : Buf) (a : Nat) (v : BitVec 16) : Buf := b.store a (toLE 2 v.toNat)

def put32 (b : Buf) (a : Nat) (v : BitVec 32) : Buf := b.store a (toLE 4 v.toNat)

/-! ## Slices -/

@[simp] theorem length_slice (b : Buf) (a n : Nat) : (b.slice a n).length = n := by simp [slice]

@[simp] theorem slice_zero (b : Buf) (a : Nat) : b.slice a 0 = [] := rfl

@[simp] theorem getElem_slice (b : Buf) (a n i : Nat) (h : i < (b.slice a n).length) :
    (b.slice a n)[i] = b.mem (a + i) := by simp [slice]

theorem slice_add (b : Buf) (a n k : Nat) : b.slice a (n + k) = b.slice a n ++ b.slice (a + n) k := by
  simp only [slice, List.range_add, List.map_append, List.map_map]
  congr 1
  apply List.map_congr_left
  intro i _
  simp [Nat.add_assoc]

/-- Two buffers with the same bytes in a range read the same slice of it. -/
theorem slice_congr {b c : Buf} {a n : Nat} (h : ∀ i, a ≤ i → i < a + n → b.mem i = c.mem i) :
    b.slice a n = c.slice a n := by
  apply List.map_congr_left
  intro i hi
  have := List.mem_range.mp hi
  exact h (a + i) (by omega) (by omega)

theorem mem_of_slice {b c : Buf} {a n : Nat} (h : b.slice a n = c.slice a n) {i : Nat} (h1 : a ≤ i) (h2 : i < a + n) :
    b.mem i = c.mem i := by
  have hb : i - a < (b.slice a n).length := by
    rw [length_slice]
    omega
  have hc : i - a < (c.slice a n).length := by
    rw [length_slice]
    omega
  have key : (b.slice a n)[i - a] = (c.slice a n)[i - a] := by simp only [h]
  rw [getElem_slice, getElem_slice, Nat.add_sub_cancel' h1] at key
  exact key

/-- A part of an agreeing slice agrees. -/
theorem slice_sub {b c : Buf} {a n a' n' : Nat} (h : b.slice a n = c.slice a n) (h1 : a ≤ a') (h2 : a' + n' ≤ a + n) :
    b.slice a' n' = c.slice a' n' :=
  slice_congr fun _ hi hj => mem_of_slice h (by omega) (by omega)

theorem slice_take (b : Buf) (a : Nat) {n k : Nat} (h : k ≤ n) : (b.slice a n).take k = b.slice a k := by
  obtain ⟨d, rfl⟩ := Nat.exists_eq_add_of_le h
  rw [slice_add, List.take_append_of_le_length (by simp), List.take_of_length_le (by simp)]

theorem slice_drop (b : Buf) (a : Nat) {n k : Nat} (h : k ≤ n) : (b.slice a n).drop k = b.slice (a + k) (n - k) := by
  obtain ⟨d, rfl⟩ := Nat.exists_eq_add_of_le h
  rw [slice_add, List.drop_append_of_le_length (by simp), List.drop_of_length_le (by simp)]
  simp

/-- A slice, around one of its bytes. -/
theorem slice_around (b : Buf) {a n i : Nat} (h1 : a ≤ i) (h2 : i < a + n) :
    b.slice a n = b.slice a (i - a) ++ b.mem i :: b.slice (i + 1) (a + n - (i + 1)) := by
  obtain ⟨k, rfl⟩ := Nat.exists_eq_add_of_le h1
  obtain ⟨d, rfl⟩ : ∃ d, n = k + (1 + d) := ⟨n - k - 1, by omega⟩
  have hk : a + k - a = k := by omega
  have hd : a + (k + (1 + d)) - (a + k + 1) = d := by omega
  have hone : b.slice (a + k) 1 = [b.mem (a + k)] := rfl
  rw [slice_add, slice_add, hk, hd, hone]
  rfl

/-! ## Stores -/

theorem mem_store_out {b : Buf} {a : Nat} {l : List Byte} {i : Nat} (h : i < a ∨ a + l.length ≤ i) :
    (b.store a l).mem i = b.mem i := by
  simp only [store]
  rw [if_neg (by omega)]

theorem mem_store_in {b : Buf} {a : Nat} {l : List Byte} {i : Nat} (h : i < l.length) :
    (b.store a l).mem (a + i) = l[i] := by
  simp only [store]
  rw [if_pos (by omega), Nat.add_sub_cancel_left, List.getD_eq_getElem _ _ h]

theorem slice_store_out {b : Buf} {a : Nat} {l : List Byte} {a' n : Nat} (h : a' + n ≤ a ∨ a + l.length ≤ a') :
    (b.store a l).slice a' n = b.slice a' n :=
  slice_congr fun _ _ _ => mem_store_out (by omega)

theorem slice_store (b : Buf) (a : Nat) (l : List Byte) : (b.store a l).slice a l.length = l := by
  apply List.ext_getElem (by simp)
  intro i h1 h2
  rw [getElem_slice, mem_store_in h2]

theorem slice_store_eq (b : Buf) {a n : Nat} {l : List Byte} (h : l.length = n) : (b.store a l).slice a n = l := by
  subst h
  exact slice_store b a l

/-- A slice that lies inside what was just stored. -/
theorem slice_store_in {b : Buf} {a : Nat} {l : List Byte} {a' n : Nat} (h1 : a ≤ a') (h2 : a' + n ≤ a + l.length) :
    (b.store a l).slice a' n = (l.drop (a' - a)).take n := by
  apply List.ext_getElem
  · simp; omega
  · intro i hi _
    have hi' : i < n := by simpa using hi
    obtain ⟨d, rfl⟩ := Nat.exists_eq_add_of_le h1
    rw [getElem_slice, Nat.add_assoc, mem_store_in (by omega)]
    simp

/-- The same store into two buffers that agree on a range. -/
theorem slice_store_congr {b c : Buf} {a n : Nat} (h : b.slice a n = c.slice a n) (p : Nat) (l : List Byte) :
    (b.store p l).slice a n = (c.store p l).slice a n := by
  apply slice_congr
  intro i h1 h2
  by_cases hin : p ≤ i ∧ i < p + l.length
  · obtain ⟨k, rfl⟩ := Nat.exists_eq_add_of_le hin.1
    rw [mem_store_in (by omega), mem_store_in (by omega)]
  · rw [mem_store_out (by omega), mem_store_out (by omega)]
    exact mem_of_slice h h1 h2

theorem store_nil (b : Buf) (a : Nat) : b.store a [] = b := by
  cases b
  simp only [store, List.length_nil, Nat.add_zero, List.isEmpty_nil, if_true, Buf.mk.injEq, and_true]
  funext i
  rw [if_neg (by omega)]

theorem top_store (b : Buf) (a : Nat) (l : List Byte) :
    (b.store a l).top = if l = [] then b.top else max b.top (a + l.length) := by
  cases l <;> simp [store]

/-- A store that ends within a bound keeps every write within it. -/
theorem top_store_le {b : Buf} {a : Nat} {l : List Byte} {N : Nat} (hb : b.top ≤ N) (h : a + l.length ≤ N) :
    (b.store a l).top ≤ N := by
  rw [top_store]
  split <;> omega

/-- And only then, when it stores anything. -/
theorem top_store_le_iff {b : Buf} {a : Nat} {l : List Byte} {N : Nat} :
    (b.store a l).top ≤ N ↔ b.top ≤ N ∧ (l = [] ∨ a + l.length ≤ N) := by
  rw [top_store]
  split
  · rename_i h; simp [h]
  · rename_i h; simp only [h, false_or]; omega

/-- Two stores one after the other are one store. -/
theorem store_append (b : Buf) (a : Nat) (l r : List Byte) :
    (b.store a l).store (a + l.length) r = b.store a (l ++ r) := by
  have hmem : ((b.store a l).store (a + l.length) r).mem = (b.store a (l ++ r)).mem := by
    funext i
    simp only [store, List.length_append]
    by_cases h1 : a + l.length ≤ i ∧ i < a + l.length + r.length
    · rw [if_pos h1, if_pos (by omega), List.getD_append_right _ _ _ _ (by omega)]
      congr 1; omega
    · rw [if_neg h1]
      by_cases h2 : a ≤ i ∧ i < a + l.length
      · rw [if_pos h2, if_pos (by omega), List.getD_append _ _ _ _ (by omega)]
      · rw [if_neg h2, if_neg (by omega)]
  have htop : ((b.store a l).store (a + l.length) r).top = (b.store a (l ++ r)).top := by
    simp only [top_store, List.append_eq_nil_iff, List.length_append]
    by_cases hl : l = [] <;> by_cases hr : r = []
    · simp [hl, hr]
    · simp [hl, hr]
    · simp [hl, hr]
    · simp only [hl, hr, if_false, false_and]; omega
  exact Buf.mk.injEq .. |>.mpr ⟨hmem, htop⟩

/-! ## Words in a buffer -/

theorem u16_congr {b c : Buf} {a : Nat} (h : b.slice a 2 = c.slice a 2) : b.u16 a = c.u16 a := by simp [u16, h]

theorem u32_congr {b c : Buf} {a : Nat} (h : b.slice a 4 = c.slice a 4) : b.u32 a = c.u32 a := by simp [u32, h]

/-- A word read is the bytes it was read from. -/
theorem slice_of_u16 {b c : Buf} {a : Nat} (h : b.u16 a = c.u16 a) : b.slice a 2 = c.slice a 2 := by
  have hb := ofLE_lt (b.slice a 2)
  have hc := ofLE_lt (c.slice a 2)
  have hword := congrArg BitVec.toNat h
  simp only [u16, BitVec.toNat_ofNat, length_slice] at hb hc hword
  exact ofLE_inj (by simp) (by omega)

theorem slice_of_u32 {b c : Buf} {a : Nat} (h : b.u32 a = c.u32 a) : b.slice a 4 = c.slice a 4 := by
  have hb := ofLE_lt (b.slice a 4)
  have hc := ofLE_lt (c.slice a 4)
  have hword := congrArg BitVec.toNat h
  simp only [u32, BitVec.toNat_ofNat, length_slice] at hb hc hword
  exact ofLE_inj (by simp) (by omega)

theorem u16_store_out {b : Buf} {a : Nat} {l : List Byte} {a' : Nat} (h : a' + 2 ≤ a ∨ a + l.length ≤ a') :
    (b.store a l).u16 a' = b.u16 a' := u16_congr (slice_store_out h)

theorem u32_store_out {b : Buf} {a : Nat} {l : List Byte} {a' : Nat} (h : a' + 4 ≤ a ∨ a + l.length ≤ a') :
    (b.store a l).u32 a' = b.u32 a' := u32_congr (slice_store_out h)

@[simp] theorem u16_put16 (b : Buf) (a : Nat) (v : BitVec 16) : (b.put16 a v).u16 a = v := by
  simp only [u16, put16]
  rw [slice_store_eq b (by simp), ofLE_toLE]
  apply BitVec.eq_of_toNat_eq
  have := v.isLt
  simp only [BitVec.toNat_ofNat]
  omega

@[simp] theorem u32_put32 (b : Buf) (a : Nat) (v : BitVec 32) : (b.put32 a v).u32 a = v := by
  simp only [u32, put32]
  rw [slice_store_eq b (by simp), ofLE_toLE]
  apply BitVec.eq_of_toNat_eq
  have := v.isLt
  simp only [BitVec.toNat_ofNat]
  omega

theorem u16_put16_out {b : Buf} {a a' : Nat} {v : BitVec 16} (h : a' + 2 ≤ a ∨ a + 2 ≤ a') :
    (b.put16 a v).u16 a' = b.u16 a' := u16_store_out (by simpa using h)

theorem u16_put32_out {b : Buf} {a a' : Nat} {v : BitVec 32} (h : a' + 2 ≤ a ∨ a + 4 ≤ a') :
    (b.put32 a v).u16 a' = b.u16 a' := u16_store_out (by simpa using h)

theorem u32_put16_out {b : Buf} {a a' : Nat} {v : BitVec 16} (h : a' + 4 ≤ a ∨ a + 2 ≤ a') :
    (b.put16 a v).u32 a' = b.u32 a' := u32_store_out (by simpa using h)

theorem u32_put32_out {b : Buf} {a a' : Nat} {v : BitVec 32} (h : a' + 4 ≤ a ∨ a + 4 ≤ a') :
    (b.put32 a v).u32 a' = b.u32 a' := u32_store_out (by simpa using h)

theorem slice_put16_out {b : Buf} {a a' n : Nat} {v : BitVec 16} (h : a' + n ≤ a ∨ a + 2 ≤ a') :
    (b.put16 a v).slice a' n = b.slice a' n := slice_store_out (by simpa using h)

theorem slice_put32_out {b : Buf} {a a' n : Nat} {v : BitVec 32} (h : a' + n ≤ a ∨ a + 4 ≤ a') :
    (b.put32 a v).slice a' n = b.slice a' n := slice_store_out (by simpa using h)

theorem top_put16_le {b : Buf} {a N : Nat} {v : BitVec 16} (hb : b.top ≤ N) (h : a + 2 ≤ N) : (b.put16 a v).top ≤ N :=
  top_store_le hb (by simpa using h)

theorem top_put32_le {b : Buf} {a N : Nat} {v : BitVec 32} (hb : b.top ≤ N) (h : a + 4 ≤ N) : (b.put32 a v).top ≤ N :=
  top_store_le hb (by simpa using h)

/-! ## Tables of 16-bit words -/

end Buf

/-- The bytes of a table of words. -/
def words (ws : List (BitVec 16)) : List Byte := ws.flatMap fun w => toLE 2 w.toNat

@[simp] theorem length_words (ws : List (BitVec 16)) : (words ws).length = 2 * ws.length := by
  induction ws with
  | nil => rfl
  | cons w ws ih =>
    have : words (w :: ws) = toLE 2 w.toNat ++ words ws := rfl
    rw [this, List.length_append, ih, length_toLE, List.length_cons]
    omega

theorem words_append (ws vs : List (BitVec 16)) : words (ws ++ vs) = words ws ++ words vs := by simp [words]

namespace Buf

theorem u16_of_slice {b : Buf} {a : Nat} {w : BitVec 16} (h : b.slice a 2 = toLE 2 w.toNat) : b.u16 a = w := by
  have hw := w.isLt
  apply BitVec.eq_of_toNat_eq
  simp only [u16, h, ofLE_toLE, BitVec.toNat_ofNat]
  omega

/-- A range that holds a table's bytes reads back as the table. -/
theorem u16s_of_slice {b : Buf} {ws : List (BitVec 16)} {a : Nat} (h : b.slice a (2 * ws.length) = words ws) :
    (List.range ws.length).map (fun i => b.u16 (a + 2 * i)) = ws := by
  induction ws generalizing a with
  | nil => rfl
  | cons w ws ih =>
    have hlen : 2 * (w :: ws).length = 2 + 2 * ws.length := by simp only [List.length_cons]; omega
    rw [hlen, slice_add] at h
    obtain ⟨h1, h2⟩ := List.append_inj h (by simp)
    rw [List.length_cons, List.range_succ_eq_map, List.map_cons, List.map_map]
    congr 1
    · exact u16_of_slice (by simpa using h1)
    · refine Eq.trans (List.map_congr_left fun i _ => ?_) (ih h2)
      show b.u16 (a + 2 * (i + 1)) = b.u16 (a + 2 + 2 * i)
      congr 1; omega

end Buf

end StarServer.Memory

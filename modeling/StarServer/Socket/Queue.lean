/-
  StarServer.Socket.Queue — what `STSV_SendData` leaves in the send queue.

  `queue c` reads the queue off the slot: each block's bytes, where `sendBufferMSG`
  points, and its message number. A message goes in as its 1024-byte pieces, as many as
  there are slots left (`queue_sendData`). `QueueOk` is what every call keeps: at most 62
  blocks of at most 1024 bytes.
-/

import StarServer.Memory.Chunks
import StarServer.Socket.Send

namespace StarServer.Socket

open StarServer.Memory

structure QueueOk (c : Client) : Prop where
  count : c.sendCount ≤ 62
  sizes : ∀ i < c.sendCount, c.sendBufferMSGSize i ≤ 1024

/-- The bytes of queued block `i`. -/
def block (c : Client) (i : Nat) : List Byte := c.sendBuffer.slice (msgSlot i) (c.sendBufferMSGSize i)

def queue (c : Client) : List (List Byte × BitVec 8) :=
  (List.range c.sendCount).map fun i => (block c i, c.sendPacketNo i)

/-- The pieces a message is queued in. -/
def pieces (m : List Byte) : List (List Byte) := chunks clientDefaultBuffer m

@[simp] theorem length_block (c : Client) (i : Nat) : (block c i).length = c.sendBufferMSGSize i := by simp [block]

@[simp] theorem length_queue (c : Client) : (queue c).length = c.sendCount := by simp [queue]

theorem msgSlot_eq (j : Nat) : msgSlot j = 2048 + 1024 * j := by
  simp only [msgSlot, clientDefaultBuffer]; omega

/-! ## One block -/

/-- A block goes behind the others and leaves them as they are. -/
theorem queue_putBlock {c : Client} (h : QueueOk c) (l : List Byte) :
    queue (putBlock c l) = queue c ++ [(l, c.curPacketNo.setWidth 8)] := by
  simp only [queue, putBlock, List.range_succ, List.map_append, List.map_singleton]
  congr 1
  · apply List.map_congr_left
    intro i hi
    have hi := List.mem_range.mp hi
    have hne : i ≠ c.sendCount := by omega
    have hs := h.sizes i hi
    simp only [block, Function.update_of_ne hne, Prod.mk.injEq, and_true]
    apply Buf.slice_store_out
    rw [msgSlot_eq, msgSlot_eq]; omega
  · simp [block, Buf.slice_store]

theorem putBlock_ok {c : Client} (h : QueueOk c) {l : List Byte} (hc : c.sendCount < 62) (hl : l.length ≤ 1024) :
    QueueOk (putBlock c l) := by
  refine ⟨?_, fun i hi => ?_⟩
  · show c.sendCount + 1 ≤ 62
    omega
  · by_cases e : i = c.sendCount
    · subst e; simpa [putBlock] using hl
    · simp only [putBlock, Function.update_of_ne e]
      exact h.sizes i (by simp only [putBlock] at hi; omega)

/-! ## A message -/

/-- What the fill loop leaves: the pieces that fit, behind what was queued. -/
structure Filled (c c' : Client) (m : List Byte) : Prop where
  ok : QueueOk c'
  queue : queue c' = queue c ++ ((pieces m).take (62 - c.sendCount)).map fun p => (p, c.curPacketNo.setWidth 8)
  curPacketNo : c'.curPacketNo = c.curPacketNo

theorem fillQueue_filled {c : Client} (h : QueueOk c) (hc : c.sendCount < 62) (m : List Byte) :
    ∀ fuel, m.length ≤ fuel → Filled c (fillQueue fuel c m) m := by
  intro fuel
  induction fuel generalizing c m with
  | zero =>
    intro hf
    have : m = [] := List.eq_nil_of_length_eq_zero (by omega)
    subst this
    exact ⟨h, by simp [fillQueue, pieces], rfl⟩
  | succ fuel ih =>
    intro hf
    simp only [fillQueue]
    split
    · rename_i hm
      subst hm
      exact ⟨h, by simp [pieces], rfl⟩
    · rename_i hne
      split
      · rename_i hs
        refine ⟨putBlock_ok h hc hs, ?_, rfl⟩
        have hlen : ([m] : List (List Byte)).length ≤ 62 - c.sendCount := by
          rw [List.length_singleton]
          omega
        rw [queue_putBlock h, pieces, chunks_short (by decide) hne hs, List.take_of_length_le hlen]
        rfl
      · rename_i hl
        have hlong : 1024 < m.length := by simpa [clientDefaultBuffer] using hl
        have ht : (m.take clientDefaultBuffer).length ≤ 1024 := List.length_take_le _ _
        have hok := putBlock_ok h hc ht
        have hq := queue_putBlock h (m.take clientDefaultBuffer)
        have hp : pieces m = m.take clientDefaultBuffer :: pieces (m.drop clientDefaultBuffer) :=
          chunks_step (by decide) hne
        split
        · rename_i hfull
          have hfull' : 62 - c.sendCount = 1 := by
            simp only [putBlock, clientDefaultMaxBlock] at hfull; omega
          refine ⟨hok, ?_, rfl⟩
          rw [hq, hp, hfull']
          rfl
        · rename_i hroom
          have hroom' : c.sendCount + 1 < 62 := by
            simp only [putBlock, clientDefaultMaxBlock] at hroom; omega
          obtain ⟨k, hk⟩ : ∃ k, 62 - c.sendCount = k + 1 := ⟨61 - c.sendCount, by omega⟩
          obtain ⟨h1, h2, h3⟩ := ih hok hroom' (m.drop clientDefaultBuffer) (by
            simp only [List.length_drop, clientDefaultBuffer]; omega)
          have hk' : 62 - (putBlock c (m.take clientDefaultBuffer)).sendCount = k := by
            simp only [putBlock]; omega
          refine ⟨h1, ?_, h3⟩
          rw [h2, hq, hp, hk, hk', List.append_assoc]
          rfl

theorem sendData_ok {c : Client} (h : QueueOk c) (m : List Byte) : QueueOk (stsvSendData c m) := by
  unfold stsvSendData
  split
  · rename_i hc
    have hf := (fillQueue_filled h (by simpa [clientDefaultMaxBlock] using hc) m _ (Nat.le_refl _)).ok
    exact ⟨hf.count, hf.sizes⟩
  · exact h

/-- **The queue after `STSV_SendData`**: the message's pieces behind it, as far as there
    is room, all under the current message number. -/
theorem queue_sendData {c : Client} (h : QueueOk c) (m : List Byte) :
    queue (stsvSendData c m) =
      queue c ++ ((pieces m).take (62 - c.sendCount)).map fun p => (p, c.curPacketNo.setWidth 8) := by
  unfold stsvSendData
  split
  · rename_i hc
    exact (fillQueue_filled h (by simpa [clientDefaultMaxBlock] using hc) m _ (Nat.le_refl _)).queue
  · rename_i hc
    have : 62 - c.sendCount = 0 := by simp only [clientDefaultMaxBlock] at hc; omega
    simp [this]

theorem sendData_curPacketNo {c : Client} (h : QueueOk c) (m : List Byte) :
    (stsvSendData c m).curPacketNo = if c.sendCount < 62 then c.curPacketNo + 1 else c.curPacketNo := by
  unfold stsvSendData
  by_cases hc : c.sendCount < 62
  · rw [if_pos (by simpa [clientDefaultMaxBlock] using hc), if_pos hc]
    simp only [(fillQueue_filled h hc m _ (Nat.le_refl _)).curPacketNo]
  · rw [if_neg (by simpa [clientDefaultMaxBlock] using hc), if_neg hc]

theorem sendCount_sendData {c : Client} (h : QueueOk c) (m : List Byte) :
    (stsvSendData c m).sendCount = c.sendCount + min (62 - c.sendCount) (pieces m).length := by
  rw [← length_queue, queue_sendData h]
  simp

/-- Queueing writes from the next free slot on. -/
theorem fillQueue_below (fuel : Nat) (c : Client) (m : List Byte) {n : Nat} (hn : n ≤ msgSlot c.sendCount) :
    (fillQueue fuel c m).sendBuffer.slice 0 n = c.sendBuffer.slice 0 n := by
  have hput (c : Client) (l : List Byte) (hn : n ≤ msgSlot c.sendCount) :
      (putBlock c l).sendBuffer.slice 0 n = c.sendBuffer.slice 0 n := Buf.slice_store_out (Or.inl (by omega))
  induction fuel generalizing c m with
  | zero => rfl
  | succ fuel ih =>
    simp only [fillQueue]
    split
    · rfl
    · split
      · exact hput c _ hn
      · split
        · exact hput c _ hn
        · have hnext : n ≤ msgSlot (putBlock c (m.take clientDefaultBuffer)).sendCount := by
            show n ≤ msgSlot (c.sendCount + 1)
            rw [msgSlot_eq] at hn ⊢
            omega
          rw [ih _ _ hnext, hput c _ hn]

theorem stsvSendData_below (c : Client) (m : List Byte) {n : Nat} (hn : n ≤ msgSlot c.sendCount) :
    (stsvSendData c m).sendBuffer.slice 0 n = c.sendBuffer.slice 0 n := by
  unfold stsvSendData
  split
  · exact fillQueue_below _ c m hn
  · rfl

/-! ## A sequence of messages -/

/-- Messages numbered from `n`, each as its pieces under its number. -/
def numbered : Nat → List (List Byte) → List (List Byte × BitVec 8)
  | _, [] => []
  | n, m :: ms => ((pieces m).map fun p => (p, BitVec.ofNat 8 n)) ++ numbered (n + 1) ms

theorem sendAll {c : Client} {n : Nat} {ms : List (List Byte)} (h : QueueOk c) (hn : c.curPacketNo = BitVec.ofNat 16 n)
    (hle : n ≤ c.sendCount) (hne : ∀ m ∈ ms, m ≠ [])
    (hfit : c.sendCount + (ms.map fun m => (pieces m).length).sum ≤ 62) :
    QueueOk (ms.foldl stsvSendData c) ∧ queue (ms.foldl stsvSendData c) = queue c ++ numbered n ms := by
  induction ms generalizing c n with
  | nil => exact ⟨h, by simp [numbered]⟩
  | cons m ms ih =>
    simp only [List.map_cons, List.sum_cons] at hfit
    have hm : m ≠ [] := hne m List.mem_cons_self
    have hpos : 0 < (pieces m).length := List.length_pos_iff.mpr (chunks_ne_nil (by decide) hm)
    have hcount := sendCount_sendData h m
    have hq := queue_sendData h m
    have hcur := sendData_curPacketNo h m
    rw [if_pos (by omega), hn] at hcur
    have hnext : (stsvSendData c m).curPacketNo = BitVec.ofNat 16 (n + 1) := by
      rw [hcur, BitVec.ofNat_add]
      rfl
    obtain ⟨hok, hqueue⟩ := ih (sendData_ok h m) hnext (by omega) (fun m' hm' => hne m' (List.mem_cons_of_mem _ hm'))
      (by omega)
    refine ⟨hok, ?_⟩
    have hwidth : (BitVec.ofNat 16 n).setWidth 8 = BitVec.ofNat 8 n := by
      apply BitVec.eq_of_toNat_eq
      simp only [BitVec.toNat_setWidth, BitVec.toNat_ofNat]
      omega
    rw [List.foldl_cons, hqueue, hq, List.take_of_length_le (by omega), hn, hwidth, List.append_assoc]
    rfl

end StarServer.Socket

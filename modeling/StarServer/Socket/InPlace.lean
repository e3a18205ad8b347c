/-
  StarServer.Socket.InPlace — the packer writes where its blocks lie.

  `_PackDataWithPacket` puts the header, the size table and the blocks into the buffer whose
  upper part holds the blocks. `headed`, `tabled` and `copied` are the buffer after each of its
  writes. Every write ends below the slot of the next block to copy: the header and the table
  within the first 140 bytes, and block `k` before 140 + 1024 (k + 1), against slots from 2048
  on, each 1024 bytes after the last.

  Proved:
    * `headed_slot`, `tabled_slot`, `copied_slot`: what each write leaves of the slots;
    * `copied_apart`: a copy's destination ends before its source begins;
    * `pack_in_place`: all of it for every queue, with the blocks packed one after the other.
-/

import StarServer.Socket.Packing

namespace StarServer.Socket

open StarServer.Memory

/-! ## The buffer after each write -/

/-- The stores to the header, in order. -/
def headerStores (c : Client) : List (Nat × List Byte) :=
  [(0, toLE 2 StSockMsg.packdatasize.toNat), (4, toLE 4 c.packRef.toNat), (2, toLE 2 stsockidServer.toNat),
    (8, toLE 4 (BitVec.ofNat 32 (sumSize c)).toNat), (14, toLE 2 (BitVec.ofNat 16 c.sendCount).toNat)]

/-- After `k` stores to the header. -/
def headed (c : Client) (k : Nat) : Buf := ((headerStores c).take k).foldl (fun b w => b.store w.1 w.2) c.sendBuffer

/-- After `k` entries of the size table. -/
def tabled (c : Client) (k : Nat) : Buf := ((List.range k).foldl (tableStep c) (headed c 5, 0, 0)).1

/-- After `k` copies, with `startDataAddr`. -/
def copied (c : Client) (k : Nat) : Buf × Nat :=
  (List.range k).foldl (copyStep c) (tabled c c.sendCount, packDataLen + 2 * c.sendCount)

theorem packDataWithPacket_copied (c : Client) : (packDataWithPacket c).sendBuffer = (copied c c.sendCount).1 := rfl

/-! ## What the writes leave of the slots -/

theorem headerStores_below {c : Client} {w : Nat × List Byte} (h : w ∈ headerStores c) : w.1 + w.2.length ≤ 16 := by
  simp only [headerStores, List.mem_cons, List.not_mem_nil, or_false] at h
  rcases h with rfl | rfl | rfl | rfl | rfl <;> simp

/-- Stores below an address leave what is from there on. -/
theorem slice_stores {ws : List (Nat × List Byte)} {b : Buf} {a n : Nat} (h : ∀ w ∈ ws, w.1 + w.2.length ≤ a) :
    (ws.foldl (fun b w => b.store w.1 w.2) b).slice a n = b.slice a n := by
  induction ws generalizing b with
  | nil => rfl
  | cons w ws ih =>
    rw [List.foldl_cons, ih fun w' hw' => h w' (List.mem_cons_of_mem _ hw')]
    exact Buf.slice_store_out (Or.inr (h w List.mem_cons_self))

theorem headed_slot (c : Client) (k i : Nat) : (headed c k).slice (msgSlot i) (c.sendBufferMSGSize i) = block c i := by
  unfold headed
  rw [slice_stores]
  · rfl
  · intro w hw
    have := headerStores_below (List.mem_of_mem_take hw)
    rw [msgSlot_eq]
    omega

theorem tabled_slot {c : Client} (h : QueueOk c) {k : Nat} (hk : k ≤ c.sendCount) (i : Nat) :
    (tabled c k).slice (msgSlot i) (c.sendBufferMSGSize i) = block c i := by
  have hn := h.count
  unfold tabled
  rw [tableLoop c _ k hk, Buf.slice_store_out, headed_slot]
  right
  rw [msgSlot_eq, length_words, length_entries, List.length_take, length_queue]
  omega

theorem copied_eq {c : Client} (h : QueueOk c) {k : Nat} (hk : k ≤ c.sendCount) :
    copied c k = ((tabled c c.sendCount).store (packDataLen + 2 * c.sendCount) (payload ((queue c).take k)),
      packDataLen + 2 * c.sendCount + (payload ((queue c).take k)).length) := by
  have hn := h.count
  have hstart : packDataLen + 2 * c.sendCount ≤ 2048 := by
    simp only [packDataLen]
    omega
  exact copyLoop h hstart (fun i _ => tabled_slot h (Nat.le_refl _) i) k hk

/-- Where copy `k` writes is below where any block from `k` on lies. -/
theorem copied_below {c : Client} (h : QueueOk c) {k i : Nat} (hk : k ≤ c.sendCount) (hi : k ≤ i) :
    (copied c k).2 + 1024 ≤ msgSlot i := by
  have hn := h.count
  have hle := payload_take_le h k hk
  rw [copied_eq h hk, msgSlot_eq]
  simp only [packDataLen]
  omega

theorem copied_apart {c : Client} (h : QueueOk c) {k : Nat} (hk : k < c.sendCount) :
    (copied c k).2 + c.sendBufferMSGSize k ≤ msgSlot k := by
  have hbelow := copied_below h (Nat.le_of_lt hk) (Nat.le_refl k)
  have hsize := h.sizes k hk
  omega

theorem copied_slot {c : Client} (h : QueueOk c) {k i : Nat} (hk : k ≤ c.sendCount) (hi : k ≤ i) :
    (copied c k).1.slice (msgSlot i) (c.sendBufferMSGSize i) = block c i := by
  have hbelow := copied_below h hk hi
  rw [copied_eq h hk] at hbelow ⊢
  dsimp only at hbelow ⊢
  rw [Buf.slice_store_out (Or.inr (by omega)), tabled_slot h (Nat.le_refl _)]

/-! ## The whole call -/

/-- The call's writes are these, no write reaches a block that is still to be copied, no copy
    overlaps its source, and what is packed are the blocks as they were. -/
structure InPlace (c : Client) : Prop where
  writes : (packDataWithPacket c).sendBuffer = (copied c c.sendCount).1
  header : ∀ k ≤ 5, ∀ i < c.sendCount, (headed c k).slice (msgSlot i) (c.sendBufferMSGSize i) = block c i
  table : ∀ k ≤ c.sendCount, ∀ i < c.sendCount, (tabled c k).slice (msgSlot i) (c.sendBufferMSGSize i) = block c i
  copies : ∀ k ≤ c.sendCount, ∀ i < c.sendCount, k ≤ i →
    (copied c k).1.slice (msgSlot i) (c.sendBufferMSGSize i) = block c i
  apart : ∀ k < c.sendCount, (copied c k).2 + c.sendBufferMSGSize k ≤ msgSlot k
  packed : (packDataWithPacket c).sendBuffer.slice (16 + 2 * c.sendCount) (queueBytes c) =
    ((List.range c.sendCount).map (block c)).flatten

theorem pack_in_place {c : Client} (h : QueueOk c) : InPlace c := by
  refine ⟨packDataWithPacket_copied c, fun k _ i _ => headed_slot c k i, fun k hk i _ => tabled_slot h hk i,
    fun k hk i _ hi => copied_slot h hk hi, fun k hk => copied_apart h hk, ?_⟩
  have hblocks : payload (queue c) = ((List.range c.sendCount).map (block c)).flatten := by
    simp [payload, queue, Function.comp_def]
  have htake : (queue c).take c.sendCount = queue c := List.take_of_length_le (by simp)
  rw [packDataWithPacket_copied, copied_eq h (Nat.le_refl _), htake, queueBytes_eq, ← hblocks]
  exact Buf.slice_store _ _ _

/-- A queue of a full block and two short ones, one of them empty. -/
def threeBlocks : Client :=
  { Client.zero (fun _ => 0) (fun i => BitVec.ofNat 8 i) with
    sendCount := 3, sendBufferMSGSize := fun i => if i = 0 then 1024 else i - 1 }

theorem threeBlocks_in_place : QueueOk threeBlocks ∧ InPlace threeBlocks := by
  have h : QueueOk threeBlocks := by
    refine ⟨by decide, ?_⟩
    decide
  exact ⟨h, pack_in_place h⟩

end StarServer.Socket

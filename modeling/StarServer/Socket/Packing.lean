/-
  StarServer.Socket.Packing — what `_PackDataWithPacket` leaves in `sendBuffer`.

  The packer's two loops write the size table and the blocks one after the other from
  offset 16, reading the blocks from the slots of the same buffer. The table and the
  packed blocks end before the slot of the block still to be copied (at most 140 bytes
  of header and table, then at most 1024 bytes a block, against slots from 2048 on), so
  the whole frame is one store of the table and the blocks over the header
  (`pack_sendBuffer`).
-/

import StarServer.Socket.Queue

namespace StarServer.Socket

open StarServer.Memory

/-! ## The table and the blocks of a queue -/

/-- The tag and last message number after one more block. -/
def tagStep (st : BitVec 16 × BitVec 8) (x : List Byte × BitVec 8) : BitVec 16 × BitVec 8 :=
  (if st.2 ≠ x.2 then 1 - st.1 else st.1, x.2)

/-- An entry: 11 bits of length, the tag above. -/
def mkEntry (len : Nat) (tag : BitVec 16) : BitVec 16 := BitVec.ofNat 16 len ||| (tag <<< 11)

/-- The size table of a queue, from the tag and number the blocks before it left. -/
def entries (st : BitVec 16 × BitVec 8) : List (List Byte × BitVec 8) → List (BitVec 16)
  | [] => []
  | x :: q => mkEntry x.1.length (tagStep st x).1 :: entries (tagStep st x) q

/-- The blocks of a queue, packed. -/
def payload (q : List (List Byte × BitVec 8)) : List Byte := (q.map (·.1)).flatten

@[simp] theorem length_entries (st : BitVec 16 × BitVec 8) (q : List (List Byte × BitVec 8)) :
    (entries st q).length = q.length := by
  induction q generalizing st with
  | nil => rfl
  | cons x q ih => simp [entries, ih]

theorem entries_append (st : BitVec 16 × BitVec 8) (q r : List (List Byte × BitVec 8)) :
    entries st (q ++ r) = entries st q ++ entries (q.foldl tagStep st) r := by
  induction q generalizing st with
  | nil => rfl
  | cons x q ih => simp [entries, ih]

theorem payload_append (q r : List (List Byte × BitVec 8)) : payload (q ++ r) = payload q ++ payload r := by
  simp [payload]

theorem length_payload (q : List (List Byte × BitVec 8)) : (payload q).length = (q.map (·.1.length)).sum := by
  simp [payload, List.length_flatten, Function.comp_def]

/-! ## The loops -/

/-- The queue up to block `k`, one block more. -/
theorem queue_take_succ {c : Client} {k : Nat} (hk : k < c.sendCount) :
    (queue c).take (k + 1) = (queue c).take k ++ [(block c k, c.sendPacketNo k)] := by
  rw [List.take_add_one]
  congr 1
  have hk' : k < (queue c).length := by simpa using hk
  rw [List.getElem?_eq_getElem hk']
  simp [queue]

theorem tableLoop (c : Client) (b : Buf) : ∀ k ≤ c.sendCount, (List.range k).foldl (tableStep c) (b, 0, 0) =
    (b.store 16 (words (entries (0, 0) ((queue c).take k))), ((queue c).take k).foldl tagStep (0, 0)) := by
  intro k
  induction k with
  | zero =>
    intro _
    simp [entries, words, Buf.store_nil]
  | succ k ih =>
    intro hk
    rw [List.range_succ, List.foldl_append, ih (by omega), queue_take_succ (by omega), entries_append, words_append,
      List.foldl_append]
    have hat : packDataLen + 2 * k = 16 + (words (entries (0, 0) ((queue c).take k))).length := by
      simp only [packDataLen, length_words, length_entries, List.length_take, length_queue]
      omega
    simp only [List.foldl_cons, List.foldl_nil, tableStep, Buf.put16, hat, Buf.store_append, tagStep, entries, mkEntry,
      length_block, words, List.flatMap_cons, List.flatMap_nil, List.append_nil]

theorem payload_take_le {c : Client} (h : QueueOk c) :
    ∀ k ≤ c.sendCount, (payload ((queue c).take k)).length ≤ 1024 * k := by
  intro k
  induction k with
  | zero =>
    intro _
    simp [payload]
  | succ k ih =>
    intro hk
    have hs := h.sizes k (by omega)
    have := ih (by omega)
    rw [queue_take_succ (by omega), payload_append, List.length_append]
    simp only [payload, List.map_cons, List.map_nil, List.flatten_cons, List.flatten_nil, List.append_nil, length_block]
      at this ⊢
    omega

/-- The copies, over a buffer whose slots still hold the queue. -/
theorem copyLoop {c : Client} (h : QueueOk c) {b : Buf} {start : Nat} (hstart : start ≤ 2048)
    (hb : ∀ i < c.sendCount, b.slice (msgSlot i) (c.sendBufferMSGSize i) = block c i) :
    ∀ k ≤ c.sendCount, (List.range k).foldl (copyStep c) (b, start) =
      (b.store start (payload ((queue c).take k)), start + (payload ((queue c).take k)).length) := by
  intro k
  induction k with
  | zero =>
    intro _
    simp [payload, Buf.store_nil]
  | succ k ih =>
    intro hk
    have hle := payload_take_le h k (by omega)
    -- block `k`'s slot lies past everything copied so far
    have hread : (b.store start (payload ((queue c).take k))).slice (msgSlot k) (c.sendBufferMSGSize k) = block c k := by
      rw [Buf.slice_store_out (by rw [msgSlot_eq]; omega)]
      exact hb k (by omega)
    have hlast : payload [(block c k, c.sendPacketNo k)] = block c k := by simp [payload]
    rw [List.range_succ, List.foldl_append, ih (by omega), queue_take_succ (by omega), payload_append, hlast]
    simp only [List.foldl_cons, List.foldl_nil, copyStep, Buf.copy, hread, Buf.store_append, List.length_append,
      length_block, Nat.add_assoc]

/-! ## The frame -/

/-- `sendBuffer` with the header written. -/
def packHeader (c : Client) : Buf :=
  ((((c.sendBuffer.put16 0 StSockMsg.packdatasize).put32 4 c.packRef).put16 2 stsockidServer).put32 8
    (BitVec.ofNat 32 (sumSize c))).put16 14 (BitVec.ofNat 16 c.sendCount)

/-- The size table and the packed blocks. -/
def packBody (c : Client) : List Byte := words (entries (0, 0) (queue c)) ++ payload (queue c)

theorem queueBytes_eq (c : Client) : queueBytes c = (payload (queue c)).length := by
  simp [queueBytes, length_payload, queue, Function.comp_def]

theorem length_packBody (c : Client) : (packBody c).length = 2 * c.sendCount + queueBytes c := by
  simp [packBody, queueBytes_eq]

theorem sumSize_eq (c : Client) : sumSize c = (packBody c).length + 4 := by
  rw [length_packBody]; unfold sumSize; omega

theorem queueBytes_le {c : Client} (h : QueueOk c) : queueBytes c ≤ 1024 * c.sendCount := by
  have := payload_take_le h c.sendCount (Nat.le_refl _)
  rwa [List.take_of_length_le (by simp), ← queueBytes_eq] at this

/-- At most 62 blocks of 1024 bytes, their table and four bytes. -/
theorem sumSize_le {c : Client} (h : QueueOk c) : sumSize c ≤ 63616 := by
  have h1 := queueBytes_le h
  have h2 := h.count
  unfold sumSize; omega

theorem slice_packHeader (c : Client) {a n : Nat} (h : 16 ≤ a) : (packHeader c).slice a n = c.sendBuffer.slice a n := by
  unfold packHeader
  rw [Buf.slice_put16_out (by omega), Buf.slice_put32_out (by omega), Buf.slice_put16_out (by omega),
    Buf.slice_put32_out (by omega), Buf.slice_put16_out (by omega)]

/-- **The packed frame**: header, then table and blocks in one piece, everything past
    them as it was. -/
theorem pack_sendBuffer {c : Client} (h : QueueOk c) :
    (packDataWithPacket c).sendBuffer = (packHeader c).store 16 (packBody c) := by
  have hn := h.count
  have htake : (queue c).take c.sendCount = queue c := List.take_of_length_le (by simp)
  have hlen : (words (entries (0, 0) (queue c))).length = 2 * c.sendCount := by simp
  have hread : ∀ i < c.sendCount, ((packHeader c).store 16 (words (entries (0, 0) (queue c)))).slice (msgSlot i)
      (c.sendBufferMSGSize i) = block c i := by
    intro i _
    rw [Buf.slice_store_out (by rw [msgSlot_eq, hlen]; omega), slice_packHeader c (by rw [msgSlot_eq]; omega)]
    rfl
  have htable := tableLoop c (packHeader c) c.sendCount (Nat.le_refl _)
  have hstart : packDataLen + 2 * c.sendCount ≤ 2048 := by simp only [packDataLen]; omega
  have hcopy := copyLoop h hstart hread c.sendCount (Nat.le_refl _)
  rw [htake] at htable hcopy
  show ((List.range c.sendCount).foldl (copyStep c) (((List.range c.sendCount).foldl (tableStep c)
    (packHeader c, 0, 0)).1, packDataLen + 2 * c.sendCount)).1 = _
  rw [htable, hcopy, ← hlen]
  exact Buf.store_append _ _ _ _

/-- The header fields of the packed frame; the crc field is still what it was. -/
structure PackedHeader (c : Client) (b : Buf) : Prop where
  type : b.u16 0 = StSockMsg.packdatasize
  fromID : b.u16 2 = stsockidServer
  packNo : b.u32 4 = c.packRef
  sizeAll : b.u32 8 = BitVec.ofNat 32 (sumSize c)
  numData : b.u16 14 = BitVec.ofNat 16 c.sendCount

theorem packHeader_fields (c : Client) : PackedHeader c (packHeader c) := by
  unfold packHeader
  constructor
  · rw [Buf.u16_put16_out (by omega), Buf.u16_put32_out (by omega), Buf.u16_put16_out (by omega),
      Buf.u16_put32_out (by omega), Buf.u16_put16]
  · rw [Buf.u16_put16_out (by omega), Buf.u16_put32_out (by omega), Buf.u16_put16]
  · rw [Buf.u32_put16_out (by omega), Buf.u32_put32_out (by omega), Buf.u32_put16_out (by omega), Buf.u32_put32]
  · rw [Buf.u32_put16_out (by omega), Buf.u32_put32]
  · rw [Buf.u16_put16]

theorem pack_fields {c : Client} (h : QueueOk c) : PackedHeader c (packDataWithPacket c).sendBuffer := by
  obtain ⟨h1, h2, h3, h4, h5⟩ := packHeader_fields c
  rw [pack_sendBuffer h]
  constructor
  · rw [Buf.u16_store_out (by omega), h1]
  · rw [Buf.u16_store_out (by omega), h2]
  · rw [Buf.u32_store_out (by omega), h3]
  · rw [Buf.u32_store_out (by omega), h4]
  · rw [Buf.u16_store_out (by omega), h5]

theorem pack_body {c : Client} (h : QueueOk c) :
    (packDataWithPacket c).sendBuffer.slice 16 (packBody c).length = packBody c := by
  rw [pack_sendBuffer h, Buf.slice_store]

theorem pack_top {c : Client} (h : QueueOk c) (ht : c.sendBuffer.top ≤ stsvMaxBuffer) :
    (packDataWithPacket c).sendBuffer.top ≤ stsvMaxBuffer := by
  have hs := sumSize_eq c
  have hle := sumSize_le h
  unfold stsvMaxBuffer at ht ⊢
  rw [pack_sendBuffer h]
  refine Buf.top_store_le ?_ (by omega)
  unfold packHeader
  exact Buf.top_put16_le (Buf.top_put32_le (Buf.top_put16_le (Buf.top_put32_le (Buf.top_put16_le ht (by omega))
    (by omega)) (by omega)) (by omega)) (by omega)

end StarServer.Socket

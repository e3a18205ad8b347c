/-
  StarServer.Socket.RoundTrip — messages through queue, packer and decoder.

  The packer numbers no messages: it tags the blocks of message `n` with `n % 2`. It
  starts from tag 0 and number 0, so message 0 gets 0; the decoder starts from tag 1, so
  the first block it meets opens a message. From there both see a change exactly where
  the message number changes (`entries_numbered`, `decode_numbered`).

  Proved:
    * `message_round_trip`: what goes in with `STSV_SendData` comes out of the decoder,
      and the CRC the packer writes is the one the receiver computes.
-/

import StarServer.Socket.Decode
import StarServer.Socket.Packing

namespace StarServer.Socket

open StarServer.Memory

/-! ## Table entries -/

/-- The tag of message `n`. -/
def tagOf (n : Nat) : BitVec 16 := if n % 2 = 0 then 0 else 1

theorem tagOf_succ (n : Nat) : 1 - tagOf n = tagOf (n + 1) := by
  unfold tagOf
  rcases Nat.mod_two_eq_zero_or_one n with h | h
  · rw [if_pos h, if_neg (by omega)]
    rfl
  · rw [if_neg (by omega), if_pos (by omega)]
    rfl

theorem tagOf_ne (n : Nat) : tagOf n ≠ tagOf (n + 1) := by
  unfold tagOf
  rcases Nat.mod_two_eq_zero_or_one n with h | h
  · rw [if_pos h, if_neg (by omega)]
    decide
  · rw [if_neg (by omega), if_pos (by omega)]
    decide

theorem entryLen_mkEntry {len : Nat} (h : len < 2048) (n : Nat) : entryLen (mkEntry len (tagOf n)) = len := by
  have htag : (tagOf n <<< 11) &&& (0x7ff : BitVec 16) = 0#16 := by
    unfold tagOf
    split <;> decide
  have hlow : (BitVec.ofNat 16 len &&& (0x7ff : BitVec 16)).toNat = len := by
    have hmask : (0x7ff : BitVec 16).toNat = 2 ^ 11 - 1 := rfl
    rw [BitVec.toNat_and, hmask, Nat.and_two_pow_sub_one_eq_mod, BitVec.toNat_ofNat]
    omega
  have hsplit : mkEntry len (tagOf n) &&& (0x7ff : BitVec 16) = BitVec.ofNat 16 len &&& (0x7ff : BitVec 16) := by
    unfold mkEntry
    rw [BitVec.and_comm, BitVec.and_or_distrib_left, BitVec.and_comm _ (tagOf n <<< 11), htag, BitVec.or_zero,
      BitVec.and_comm]
  unfold entryLen
  rw [hsplit, hlow]

theorem entryTag_mkEntry {len : Nat} (h : len < 2048) (n : Nat) : entryTag (mkEntry len (tagOf n)) = tagOf n := by
  have htag : (tagOf n <<< 11) >>> 11 = tagOf n := by
    unfold tagOf
    split <;> decide
  have hlow : BitVec.ofNat 16 len >>> 11 = 0#16 := by
    apply BitVec.eq_of_toNat_eq
    rw [BitVec.toNat_ushiftRight, BitVec.toNat_ofNat, Nat.shiftRight_eq_div_pow]
    have : len % 2 ^ 16 / 2 ^ 11 = 0 := by omega
    exact this
  unfold entryTag mkEntry
  rw [BitVec.ushiftRight_or_distrib, hlow, htag, BitVec.zero_or]

/-! ## The packer's table -/

/-- The packer's tag and number before message `n`. -/
def packedUpTo (n : Nat) : BitVec 16 × BitVec 8 := (tagOf (n - 1), BitVec.ofNat 8 (n - 1))

theorem tagStep_first {n : Nat} (h : n < 256) (p : List Byte) :
    tagStep (packedUpTo n) (p, BitVec.ofNat 8 n) = packedUpTo (n + 1) := by
  unfold tagStep packedUpTo
  cases n with
  | zero => rfl
  | succ n =>
    have hne : BitVec.ofNat 8 (n + 1 - 1) ≠ BitVec.ofNat 8 (n + 1) := by
      intro he
      have := congrArg BitVec.toNat he
      simp only [BitVec.toNat_ofNat] at this
      omega
    rw [if_pos hne]
    exact congrArg (·, _) (tagOf_succ n)

theorem tagStep_rest (n : Nat) (p : List Byte) :
    tagStep (packedUpTo (n + 1)) (p, BitVec.ofNat 8 n) = packedUpTo (n + 1) := by
  unfold tagStep packedUpTo
  rw [if_neg (fun h => h rfl)]
  rfl

theorem entries_same (n : Nat) (ps : List (List Byte)) :
    entries (packedUpTo (n + 1)) (ps.map fun p => (p, BitVec.ofNat 8 n)) =
        ps.map (fun p => mkEntry p.length (tagOf n)) ∧
      (ps.map fun p => (p, BitVec.ofNat 8 n)).foldl tagStep (packedUpTo (n + 1)) = packedUpTo (n + 1) := by
  induction ps with
  | nil => exact ⟨rfl, rfl⟩
  | cons p ps ih =>
    obtain ⟨h1, h2⟩ := ih
    simp only [List.map_cons, entries, List.foldl_cons, tagStep_rest]
    exact ⟨congrArg _ h1, h2⟩

/-- The blocks of message `n` all get tag `n % 2`. -/
theorem entries_message {n : Nat} (h : n < 256) {ps : List (List Byte)} (hps : ps ≠ []) :
    entries (packedUpTo n) (ps.map fun p => (p, BitVec.ofNat 8 n)) = ps.map (fun p => mkEntry p.length (tagOf n)) ∧
      (ps.map fun p => (p, BitVec.ofNat 8 n)).foldl tagStep (packedUpTo n) = packedUpTo (n + 1) := by
  obtain ⟨p, ps, rfl⟩ := List.exists_cons_of_ne_nil hps
  obtain ⟨h1, h2⟩ := entries_same n ps
  simp only [List.map_cons, entries, List.foldl_cons, tagStep_first h]
  exact ⟨congrArg _ h1, h2⟩

/-- The table of messages numbered from `n`. -/
def messageTable : Nat → List (List Byte) → List (BitVec 16)
  | _, [] => []
  | n, m :: ms => (pieces m).map (fun p => mkEntry p.length (tagOf n)) ++ messageTable (n + 1) ms

theorem entries_numbered {n : Nat} {ms : List (List Byte)} (h : n + ms.length ≤ 256) (hne : ∀ m ∈ ms, m ≠ []) :
    entries (packedUpTo n) (numbered n ms) = messageTable n ms := by
  induction ms generalizing n with
  | nil => rfl
  | cons m ms ih =>
    rw [List.length_cons] at h
    have hm : pieces m ≠ [] := chunks_ne_nil (by decide) (hne m List.mem_cons_self)
    obtain ⟨h1, h2⟩ := entries_message (show n < 256 by omega) hm
    rw [numbered, messageTable, entries_append, h1, h2]
    exact congrArg _ (ih (by omega) fun m' hm' => hne m' (List.mem_cons_of_mem _ hm'))

theorem payload_numbered (n : Nat) (ms : List (List Byte)) : payload (numbered n ms) = ms.flatten := by
  induction ms generalizing n with
  | nil => rfl
  | cons m ms ih =>
    have hm : payload ((pieces m).map fun p => (p, BitVec.ofNat 8 n)) = m := by
      simp only [payload, List.map_map]
      exact (congrArg List.flatten (List.map_id' _)).trans (chunks_flatten (by decide) m)
    rw [numbered, payload_append, ih, hm, List.flatten_cons]

/-- The packer's tags are 0 and 1, and a block's length comes back whichever it got. -/
theorem entries_lengths {q : List (List Byte × BitVec 8)} (hq : ∀ x ∈ q, x.1.length < 2048) {t : Nat}
    {no : BitVec 8} : (entries (tagOf t, no) q).map entryLen = q.map (·.1.length) := by
  induction q generalizing t no with
  | nil => rfl
  | cons x q ih =>
    obtain ⟨t', ht'⟩ : ∃ t', tagStep (tagOf t, no) x = (tagOf t', x.2) := by
      unfold tagStep
      by_cases hno : no ≠ x.2
      · exact ⟨t + 1, by rw [if_pos hno, tagOf_succ]⟩
      · exact ⟨t, by rw [if_neg hno]⟩
    simp only [entries, List.map_cons]
    rw [ht', entryLen_mkEntry (hq x List.mem_cons_self), ih fun y hy => hq y (List.mem_cons_of_mem _ hy)]

theorem queue_sizes {c : Client} (h : QueueOk c) : ∀ x ∈ queue c, x.1.length < 2048 := by
  intro x hx
  obtain ⟨i, hi, rfl⟩ := List.mem_map.mp hx
  have := h.sizes i (List.mem_range.mp hi)
  rw [length_block]
  omega

/-! ## The decoder on such a table -/

/-- The messages the decoder has opened so far, as a reader of the two arrays sees them. -/
def opened (b : Buf) (st : DecodeSt) : List (List Byte) :=
  (List.range (st.curPacket + 1).toNat).map fun k : Nat =>
    b.slice (st.recvBufferMSG k).toNat (st.recvBufferMSGSize k).toNat

/-- Entries of the open message's tag add up at its index. -/
theorem decode_same {n : Nat} {ps : List (List Byte)} (hps : ∀ p ∈ ps, p.length < 2048) {st : DecodeSt}
    (ht : st.continuePack = tagOf n) :
    let st' := (ps.map fun p => mkEntry p.length (tagOf n)).foldl decodeStep st
    st'.curPacket = st.curPacket ∧ st'.continuePack = tagOf n ∧
      st'.startDataAddr = st.startDataAddr + ps.flatten.length ∧ st'.recvBufferMSG = st.recvBufferMSG ∧
      st'.recvBufferMSGSize = Function.update st.recvBufferMSGSize st.curPacket
        (st.recvBufferMSGSize st.curPacket + ps.flatten.length) := by
  induction ps generalizing st with
  | nil =>
    refine ⟨rfl, ht, (Int.add_zero _).symm, rfl, ?_⟩
    show st.recvBufferMSGSize = Function.update st.recvBufferMSGSize st.curPacket (_ + ((0 : Nat) : Int))
    rw [Int.natCast_zero, Int.add_zero, Function.update_eq_self]
  | cons p ps ih =>
    have hp := hps p List.mem_cons_self
    have htag := entryTag_mkEntry hp n
    have hstep : decodeStep st (mkEntry p.length (tagOf n)) = addBlock st (mkEntry p.length (tagOf n)) := by
      unfold decodeStep
      rw [if_neg (fun hne => hne (ht.trans htag.symm))]
    obtain ⟨h1, h2, h3, h4, h5⟩ := @ih (fun q hq => hps q (List.mem_cons_of_mem _ hq))
      (decodeStep st (mkEntry p.length (tagOf n))) htag
    rw [hstep] at h1 h2 h3 h4 h5
    intro st'
    have hst' : st' = (ps.map fun p => mkEntry p.length (tagOf n)).foldl decodeStep
        (addBlock st (mkEntry p.length (tagOf n))) := by rw [← hstep]; rfl
    rw [hst', h1, h2, h3, h4, h5]
    have hlen := entryLen_mkEntry hp n
    refine ⟨rfl, rfl, ?_, rfl, ?_⟩
    · simp only [addBlock, hlen, List.flatten_cons, List.length_append]
      push_cast
      omega
    · simp only [addBlock, hlen, Function.update_self, Function.update_idem, List.flatten_cons, List.length_append]
      congr 1
      push_cast
      omega

/-- The blocks of one message, whose tag is new: one message more. -/
theorem decode_message {n : Nat} {ps : List (List Byte)} (hps : ∀ p ∈ ps, p.length < 2048) (hne : ps ≠ []) {b : Buf}
    {st : DecodeSt} (hcur : -1 ≤ st.curPacket) (ht : st.continuePack ≠ tagOf n)
    (hb : b.slice st.startDataAddr.toNat ps.flatten.length = ps.flatten) :
    let st' := (ps.map fun p => mkEntry p.length (tagOf n)).foldl decodeStep st
    st'.curPacket = st.curPacket + 1 ∧ st'.continuePack = tagOf n ∧
      st'.startDataAddr = st.startDataAddr + ps.flatten.length ∧ opened b st' = opened b st ++ [ps.flatten] := by
  obtain ⟨p, ps, rfl⟩ := List.exists_cons_of_ne_nil hne
  have hp := hps p List.mem_cons_self
  have htag := entryTag_mkEntry hp n
  have hlen := entryLen_mkEntry hp n
  have hstep : decodeStep st (mkEntry p.length (tagOf n)) = addBlock (openPacket st) (mkEntry p.length (tagOf n)) := by
    unfold decodeStep
    rw [if_pos (fun he => ht (he.trans htag))]
  obtain ⟨h1, h2, h3, h4, h5⟩ := @decode_same n ps (fun q hq => hps q (List.mem_cons_of_mem _ hq))
    (addBlock (openPacket st) (mkEntry p.length (tagOf n))) htag
  intro st'
  have hst' : st' = (ps.map fun p => mkEntry p.length (tagOf n)).foldl decodeStep
      (addBlock (openPacket st) (mkEntry p.length (tagOf n))) := by rw [← hstep]; rfl
  rw [← hst'] at h1 h2 h3 h4 h5
  have hmsg : st'.recvBufferMSG = Function.update st.recvBufferMSG (st.curPacket + 1) st.startDataAddr := h4
  have hsize : st'.recvBufferMSGSize =
      Function.update st.recvBufferMSGSize (st.curPacket + 1) ((p :: ps).flatten.length : Int) := by
    rw [h5]
    simp only [addBlock, openPacket, hlen, Function.update_self, Function.update_idem, List.flatten_cons,
      List.length_append]
    congr 1
    push_cast
    omega
  have hcur' : st'.curPacket = st.curPacket + 1 := h1
  refine ⟨hcur', h2, ?_, ?_⟩
  · rw [h3]
    simp only [addBlock, openPacket, hlen, List.flatten_cons, List.length_append]
    push_cast
    omega
  · have hn : (st'.curPacket + 1).toNat = (st.curPacket + 1).toNat + 1 := by omega
    unfold opened
    rw [hn, List.range_succ, List.map_append, List.map_singleton, hmsg, hsize]
    congr 1
    · apply List.map_congr_left
      intro k hk
      have hk := List.mem_range.mp hk
      rw [Function.update_of_ne (by omega), Function.update_of_ne (by omega)]
    · have hlast : (((st.curPacket + 1).toNat : Nat) : Int) = st.curPacket + 1 := by omega
      rw [hlast, Function.update_self, Function.update_self, Int.toNat_natCast, hb]

/-- The decoder's tag before message `n`. -/
def decodedUpTo (n : Nat) : BitVec 16 := if n = 0 then 1 else tagOf (n - 1)

theorem decodedUpTo_ne (n : Nat) : decodedUpTo n ≠ tagOf n := by
  unfold decodedUpTo
  cases n with
  | zero => decide
  | succ n =>
    rw [if_neg (Nat.succ_ne_zero n)]
    exact tagOf_ne n

theorem mem_pieces_length {m p : List Byte} (h : p ∈ pieces m) : p.length < 2048 := by
  have := (mem_chunks (by decide) m p h).2
  unfold clientDefaultBuffer at this
  omega

/-- **The decoder rejoins the messages**, in order, wherever the table is one the packer
    makes and the blocks lie at `startDataAddr`. -/
theorem decode_numbered {b : Buf} {ms : List (List Byte)} (hne : ∀ m ∈ ms, m ≠ []) {n : Nat} {st : DecodeSt}
    (hcur : -1 ≤ st.curPacket) (haddr : 0 ≤ st.startDataAddr) (ht : st.continuePack = decodedUpTo n)
    (hb : b.slice st.startDataAddr.toNat ms.flatten.length = ms.flatten) :
    let st' := (messageTable n ms).foldl decodeStep st
    st'.curPacket = st.curPacket + ms.length ∧ opened b st' = opened b st ++ ms := by
  induction ms generalizing n st with
  | nil => exact ⟨(Int.add_zero _).symm, (List.append_nil _).symm⟩
  | cons m ms ih =>
    have hm : (pieces m).flatten = m := chunks_flatten (by decide) m
    rw [List.flatten_cons, List.length_append, Buf.slice_add] at hb
    obtain ⟨hb1, hb2⟩ := List.append_inj hb (by simp)
    obtain ⟨h1, h2, h3, h4⟩ := decode_message (fun _ hp => mem_pieces_length hp)
      (chunks_ne_nil (by decide) (hne m List.mem_cons_self)) hcur (fun he => decodedUpTo_ne n (ht.symm.trans he))
      (by rw [hm]; exact hb1)
    rw [hm] at h3 h4
    have hstart : (st.startDataAddr + (m.length : Int)).toNat = st.startDataAddr.toNat + m.length := by omega
    obtain ⟨k1, k2⟩ := @ih (fun m' hm' => hne m' (List.mem_cons_of_mem _ hm')) (n + 1)
      (((pieces m).map fun p => mkEntry p.length (tagOf n)).foldl decodeStep st) (by omega) (by omega) h2
      (by rw [h3, hstart]; exact hb2)
    intro st'
    have hst' : st' = (messageTable (n + 1) ms).foldl decodeStep
        (((pieces m).map fun p => mkEntry p.length (tagOf n)).foldl decodeStep st) := List.foldl_append
    rw [hst', k1, k2, h1, h4]
    refine ⟨?_, ?_⟩
    · rw [List.length_cons]
      push_cast
      omega
    · rw [List.append_assoc]
      rfl

/-! ## The round trip -/

/-- A frame of `sizeAll + 12` bytes from `sendBuffer`, read to the front of `recvBuffer`
    by a `processMessageBuffer` that has just begun. -/
def placed (r s : Client) : Client :=
  { r with
    recvCount := 0
    recvBuffer := r.recvBuffer.store 0 (s.sendBuffer.slice 0 (dataSizeLen + (s.sendBuffer.u32 8).toNat)) }

theorem placed_slice (r s : Client) {a n : Nat} (h : a + n ≤ dataSizeLen + (s.sendBuffer.u32 8).toNat) :
    (placed r s).recvBuffer.slice a n = s.sendBuffer.slice a n := by
  have hall : (placed r s).recvBuffer.slice 0 (dataSizeLen + (s.sendBuffer.u32 8).toNat) =
      s.sendBuffer.slice 0 (dataSizeLen + (s.sendBuffer.u32 8).toNat) := Buf.slice_store_eq _ (by simp)
  exact Buf.slice_sub hall (Nat.zero_le _) (by omega)

/-- What the packers leave in `sendBuffer`, as a receiver reads it. -/
structure PackedFrame (c : Client) (b : Buf) : Prop where
  sizeAll : b.u32 8 = BitVec.ofNat 32 (sumSize c)
  numData : b.u16 14 = BitVec.ofNat 16 c.sendCount
  crc : b.u16 12 = Crc.stosCRC16 (packBody c)
  body : b.slice 16 (packBody c).length = packBody c

theorem crcLength_packed {c : Client} (h : QueueOk c) :
    ((BitVec.ofNat 32 (sumSize c) - 4#32).setWidth 16).toNat = (packBody c).length := by
  have hs := sumSize_eq c
  have hle := sumSize_le h
  simp only [BitVec.toNat_setWidth, BitVec.toNat_sub, BitVec.toNat_ofNat]
  omega

theorem packCRC16_frame {c : Client} (h : QueueOk c) :
    PackedFrame c (packDataWithCRC16 (packDataWithPacket c)).sendBuffer := by
  obtain ⟨-, -, -, h8, h14⟩ := pack_fields h
  have hcrc : crcOver (packDataWithPacket c).sendBuffer packDataLen
      (((packDataWithPacket c).sendBuffer.u32 8 - 4).setWidth 16) = Crc.stosCRC16 (packBody c) := by
    unfold crcOver
    rw [h8]
    exact congrArg Crc.stosCRC16 ((congrArg _ (crcLength_packed h)).trans (pack_body h))
  refine ⟨?_, ?_, ?_, ?_⟩
  · exact (Buf.u32_put16_out (by omega)).trans h8
  · exact (Buf.u16_put16_out (by omega)).trans h14
  · exact (Buf.u16_put16 _ _ _).trans hcrc
  · exact (Buf.slice_put16_out (by omega)).trans (pack_body h)

/-- The receiver reads the same frame. -/
theorem placed_frame {c r s : Client} (h : QueueOk c) (hs : PackedFrame c s.sendBuffer) :
    PackedFrame c (placed r s).recvBuffer := by
  have hle := sumSize_le h
  have hsum := sumSize_eq c
  have hsize : (s.sendBuffer.u32 8).toNat = sumSize c := by
    rw [hs.sizeAll, BitVec.toNat_ofNat]
    omega
  have h12 : dataSizeLen = 12 := rfl
  refine ⟨?_, ?_, ?_, ?_⟩
  · exact (Buf.u32_congr (placed_slice r s (by omega))).trans hs.sizeAll
  · exact (Buf.u16_congr (placed_slice r s (by omega))).trans hs.numData
  · exact (Buf.u16_congr (placed_slice r s (by omega))).trans hs.crc
  · exact (placed_slice r s (by omega)).trans hs.body

theorem crc_of_frame {c : Client} {b : Buf} (h : QueueOk c) (hb : PackedFrame c b) :
    crcOver b packDataLen (crcLength b) = b.u16 12 := by
  unfold crcOver crcLength
  rw [hb.crc, hb.sizeAll]
  exact congrArg Crc.stosCRC16 ((congrArg _ (crcLength_packed h)).trans hb.body)

theorem numData_of_count {c : Client} {b : Buf} (h : QueueOk c) (hnum : b.u16 14 = BitVec.ofNat 16 c.sendCount) :
    numData b = c.sendCount := by
  have hle := h.count
  unfold numData
  rw [hnum, BitVec.toInt_eq_toNat_of_lt]
  · rw [BitVec.toNat_ofNat]
    omega
  · rw [BitVec.toNat_ofNat]
    omega

theorem sizeTable_of_body {c : Client} {b : Buf} (hbody : b.slice 16 (packBody c).length = packBody c) :
    sizeTable b c.sendCount = entries (0, 0) (queue c) := by
  have hlen : (entries (0, 0) (queue c)).length = c.sendCount := by simp
  have hsplit : (packBody c).length = 2 * c.sendCount + (payload (queue c)).length := by simp [packBody]
  rw [hsplit, Buf.slice_add] at hbody
  obtain ⟨htab, -⟩ := List.append_inj hbody (by simp)
  rw [← hlen] at htab
  have := Buf.u16s_of_slice htab
  rwa [hlen] at this

theorem payload_of_body {c : Client} {b : Buf} (hbody : b.slice 16 (packBody c).length = packBody c) :
    b.slice (16 + 2 * c.sendCount) (payload (queue c)).length = payload (queue c) := by
  have hsplit : (packBody c).length = 2 * c.sendCount + (payload (queue c)).length := by simp [packBody]
  rw [hsplit, Buf.slice_add] at hbody
  exact (List.append_inj hbody (by simp)).2

/-- A packed queue of whole messages decodes to the messages. -/
theorem received_of_frame {c r : Client} {ms : List (List Byte)} (h : QueueOk c) (hq : queue c = numbered 0 ms)
    (hne : ∀ m ∈ ms, m ≠ []) (hms : ms.length ≤ 256) (hr : r.recvCount = 0) (hb : PackedFrame c r.recvBuffer) :
    (processMessagePacket r).recvCount = ms.length ∧ received (processMessagePacket r) = ms := by
  have hnum := numData_of_count h hb.numData
  have hlen : c.sendCount = (numbered 0 ms).length := by rw [← hq, length_queue]
  by_cases h0 : numData r.recvBuffer = 0
  · have hnil : ms = [] := by
      cases ms with
      | nil => rfl
      | cons m ms =>
        have hm := chunks_ne_nil (k := 1024) (by decide) (hne m List.mem_cons_self)
        have hpos : 0 < (pieces m).length := List.length_pos_iff.mpr hm
        simp only [numbered, List.length_append, List.length_map] at hlen
        omega
    unfold processMessagePacket received
    rw [if_pos h0, hr, hnil]
    exact ⟨rfl, rfl⟩
  · have htable : sizeTable r.recvBuffer (numData r.recvBuffer).toNat = messageTable 0 ms := by
      rw [hnum, Int.toNat_natCast, sizeTable_of_body hb.body, hq]
      exact entries_numbered (show 0 + ms.length ≤ 256 by omega) hne
    have hdata := payload_of_body hb.body
    rw [hq, payload_numbered] at hdata
    have hstart : (decodeStart r).startDataAddr.toNat = 16 + 2 * c.sendCount := by
      simp only [decodeStart, hnum, packDataLen]
      omega
    have hopen : opened r.recvBuffer (decodeStart r) = [] := rfl
    obtain ⟨hcur, hmsgs⟩ := @decode_numbered r.recvBuffer ms hne 0 (decodeStart r) (Int.le_refl _)
      (by simp only [decodeStart, hnum]; omega) rfl (by rw [hstart]; exact hdata)
    rw [← htable] at hcur hmsgs
    rw [hopen, List.nil_append] at hmsgs
    unfold processMessagePacket
    rw [if_neg h0]
    refine ⟨?_, hmsgs⟩
    have hcur' : (decodeTable r).curPacket = -1 + ms.length := hcur
    show (decodeTable r).curPacket + 1 = ms.length
    omega

theorem length_le_pieces {ms : List (List Byte)} (hne : ∀ m ∈ ms, m ≠ []) :
    ms.length ≤ (ms.map fun m => (pieces m).length).sum := by
  induction ms with
  | nil => exact Nat.le_refl _
  | cons m ms ih =>
    have hm : 0 < (pieces m).length := List.length_pos_iff.mpr (chunks_ne_nil (by decide) (hne m List.mem_cons_self))
    have := ih fun m' hm' => hne m' (List.mem_cons_of_mem _ hm')
    simp only [List.map_cons, List.sum_cons, List.length_cons]
    omega

theorem empty_queueOk {c : Client} (h : c.sendCount = 0) : QueueOk c := by
  refine ⟨by omega, fun i hi => ?_⟩
  omega

/-- The sizes a handler is given are those of the messages it is given. -/
theorem received_sizes {c : Client} {ms : List (List Byte)} (h : received c = ms) :
    ∀ k (hk : k < ms.length), (c.recvBufferMSGSize k).toNat = ms[k].length := by
  subst h
  intro k hk
  simp [received, stsvGetData]

/-- **Message round trip.** Whatever the slot's buffers held before, messages queued from
    an empty queue and packed reach a receiver whole, in order and with the right CRC. -/
theorem message_round_trip (c r : Client) (ms : List (List Byte)) (hcount : c.sendCount = 0) (hno : c.curPacketNo = 0)
    (hne : ∀ m ∈ ms, m ≠ []) (hfit : (ms.map fun m => (m.length + 1023) / 1024).sum ≤ 62) :
    let s := packDataWithCRC16 (packDataWithPacket (ms.foldl stsvSendData c))
    let r' := placed r s
    crcOver r'.recvBuffer packDataLen (crcLength r'.recvBuffer) = r'.recvBuffer.u16 12 ∧
      (processMessagePacket r').recvCount = ms.length ∧
      (∀ k (h : k < ms.length), ((processMessagePacket r').recvBufferMSGSize k).toNat = ms[k].length) ∧
      received (processMessagePacket r') = ms := by
  have hpieces : (ms.map fun m => (m.length + 1023) / 1024) = ms.map fun m => (pieces m).length := by
    apply List.map_congr_left
    intro m _
    exact (length_chunks (k := 1024) (by decide) m).symm
  rw [hpieces] at hfit
  obtain ⟨hok, hqueue⟩ := sendAll (empty_queueOk hcount) (n := 0) hno (Nat.zero_le _) hne (by omega)
  have hempty : queue c = [] := List.eq_nil_of_length_eq_zero (by rw [length_queue, hcount])
  rw [hempty, List.nil_append] at hqueue
  have hlen := length_le_pieces hne
  have hms : ms.length ≤ 256 := by omega
  generalize ms.foldl stsvSendData c = q at hok hqueue
  intro s r'
  have hframe : PackedFrame q r'.recvBuffer := placed_frame hok (packCRC16_frame hok)
  have hr : r'.recvCount = 0 := rfl
  obtain ⟨hn, hmsgs⟩ := received_of_frame hok hqueue hne hms hr hframe
  exact ⟨crc_of_frame hok hframe, hn, received_sizes hmsgs, hmsgs⟩

/-- An empty slot, a message of three bytes and one of two. -/
theorem message_round_trip_two :
    let c := Client.zero (fun _ => 7) (fun _ => 9)
    let s := packDataWithCRC16 (packDataWithPacket ([[1, 2, 3], [4, 5]].foldl stsvSendData c))
    let r' := placed c s
    crcOver r'.recvBuffer packDataLen (crcLength r'.recvBuffer) = r'.recvBuffer.u16 12 ∧
      (processMessagePacket r').recvCount = 2 ∧ received (processMessagePacket r') = [[1, 2, 3], [4, 5]] := by
  intro c s r'
  obtain ⟨h1, h2, -, h3⟩ := message_round_trip c c [[1, 2, 3], [4, 5]] rfl rfl (by decide) (by decide)
  exact ⟨h1, h2, h3⟩

end StarServer.Socket

/-
  StarServer.Socket.Rejoin — what a receiver makes of any packed queue.

  The packer writes a tag beside each block and changes it where the message number differs
  from the block's before; it starts from number 0. The decoder opens a message where the tag
  changes; it starts from tag 1. So a block opens a message where its number is new, and the
  first one where its number is 0 (`opens`), numbers being bytes.

  Proved:
    * `decodeStep_joins`: an entry opens a message or is added to the one before;
    * `decode_joined`: the table of any queue decodes to its blocks joined by their numbers;
    * `packFrame_joined`: so does the frame `EndPackSendData` sends;
    * `Tallied.send`, `Tallied.frame`: the same with message numbers that are not cut to bytes.
-/

import StarServer.Framing.Joined
import StarServer.Socket.Interleaved

namespace StarServer.Socket

open StarServer.Memory StarServer.Framing

/-- Whether a block with this number opens a message, after a block with number `last`. -/
def opens (last : Option (BitVec 8)) (no : BitVec 8) : Bool :=
  match last with
  | none => no == 0
  | some last => no != last

/-- A queue's blocks, each with whether it opens a message. -/
def openings : Option (BitVec 8) → List (List Byte × BitVec 8) → List (Bool × List Byte)
  | _, [] => []
  | last, x :: q => (opens last x.2, x.1) :: openings (some x.2) q

/-! ## One entry -/

theorem opened_of_none {b : Buf} {st : DecodeSt} (h : st.curPacket = -1) : opened b st = [] := by
  simp [opened, h]

/-- The messages up to the open one, and the open one. -/
theorem opened_last {b : Buf} {st : DecodeSt} (h : 0 ≤ st.curPacket) :
    opened b st = ((List.range st.curPacket.toNat).map fun k : Nat =>
        b.slice (st.recvBufferMSG k).toNat (st.recvBufferMSGSize k).toNat) ++
      [b.slice (st.recvBufferMSG st.curPacket).toNat (st.recvBufferMSGSize st.curPacket).toNat] := by
  have hn : (st.curPacket + 1).toNat = st.curPacket.toNat + 1 := by omega
  have hcur : ((st.curPacket.toNat : Nat) : Int) = st.curPacket := by omega
  unfold opened
  rw [hn, List.range_succ, List.map_append, List.map_singleton, hcur]

/-- An opened message is empty at first. -/
theorem openPacket_opened {b : Buf} {st : DecodeSt} (h : -1 ≤ st.curPacket) :
    opened b (openPacket st) = opened b st ++ [[]] := by
  have hcur : (openPacket st).curPacket = st.curPacket + 1 := rfl
  have hn : (st.curPacket + 1 + 1).toNat = (st.curPacket + 1).toNat + 1 := by omega
  have hlast : (((st.curPacket + 1).toNat : Nat) : Int) = st.curPacket + 1 := by omega
  unfold opened
  rw [hcur, hn, List.range_succ, List.map_append, List.map_singleton]
  congr 1
  · apply List.map_congr_left
    intro k hk
    have hk := List.mem_range.mp hk
    simp only [openPacket]
    rw [Function.update_of_ne (by omega), Function.update_of_ne (by omega)]
  · simp only [openPacket, hlast, Function.update_self]
    rfl

theorem addBlock_joins {b : Buf} {A : Int} {st : DecodeSt} {e : BitVec 16} {x : List Byte} (hA : 0 ≤ A) (h : Tiled A st)
    (hlen : entryLen e = x.length) (hb : b.slice st.startDataAddr.toNat x.length = x) :
    opened b (addBlock st e) = addLast (opened b st) x := by
  have hcur' : (addBlock st e).curPacket = st.curPacket := rfl
  by_cases hcur : st.curPacket = -1
  · rw [opened_of_none hcur, opened_of_none (hcur'.trans hcur)]
    rfl
  · have h0 : 0 ≤ st.curPacket := by
      have := h.cur
      omega
    have hsize := h.size st.curPacket h0 (Int.le_refl _)
    have hend := h.last h0
    have hstart := (h.inside h0 (Int.le_refl _)).1
    rw [opened_last h0, opened_last (hcur' ▸ h0), addLast_concat, hcur']
    congr 1
    · apply List.map_congr_left
      intro k hk
      have hk := List.mem_range.mp hk
      simp only [addBlock]
      rw [Function.update_of_ne (by omega)]
    · -- the block lies where the open message ends
      have hsum : (st.recvBufferMSGSize st.curPacket + (x.length : Int)).toNat =
          (st.recvBufferMSGSize st.curPacket).toNat + x.length := by omega
      have haddr : (st.recvBufferMSG st.curPacket).toNat + (st.recvBufferMSGSize st.curPacket).toNat =
          st.startDataAddr.toNat := by omega
      simp only [addBlock, Function.update_self, hlen]
      rw [hsum, Buf.slice_add, haddr, hb]

/-- An entry whose tag is new opens a message, any other adds to the last. -/
theorem decodeStep_joins {b : Buf} {A : Int} {st : DecodeSt} {x : List Byte} (hA : 0 ≤ A) (h : Tiled A st)
    (hx : x.length < 2048) (n : Nat) (hb : b.slice st.startDataAddr.toNat x.length = x) :
    opened b (decodeStep st (mkEntry x.length (tagOf n))) =
      joinStep (opened b st) (decide (st.continuePack ≠ tagOf n), x) := by
  have htag := entryTag_mkEntry hx n
  have hlen := entryLen_mkEntry hx n
  unfold decodeStep
  by_cases ht : st.continuePack = tagOf n
  · rw [if_neg (by simpa [htag] using ht), decide_eq_false (by simpa using ht), joinStep_add]
    exact addBlock_joins hA h hlen hb
  · rw [if_pos (by simpa [htag] using ht), decide_eq_true ht, joinStep_open,
      addBlock_joins hA (openPacket_tiled h) hlen hb, openPacket_opened h.cur, addLast_concat]
    rfl

/-! ## A queue -/

/-- The packer's tag after one more block. -/
theorem tagStep_tagOf (n : Nat) (last : BitVec 8) (x : List Byte × BitVec 8) :
    tagStep (tagOf n, last) x = (tagOf (if last ≠ x.2 then n + 1 else n), x.2) := by
  unfold tagStep
  by_cases h : last ≠ x.2
  · rw [if_pos h, if_pos h, tagOf_succ]
  · rw [if_neg h, if_neg h]

theorem opens_some (n : Nat) (last no : BitVec 8) :
    decide (tagOf n ≠ tagOf (if last ≠ no then n + 1 else n)) = opens (some last) no := by
  by_cases h : last = no
  · subst h
    simp [opens]
  · rw [if_pos h, decide_eq_true (tagOf_ne n)]
    exact (bne_iff_ne.mpr fun he => h he.symm).symm

theorem opens_none (no : BitVec 8) :
    decide ((1 : BitVec 16) ≠ tagOf (if (0 : BitVec 8) ≠ no then 0 + 1 else 0)) = opens none no := by
  by_cases h : (0 : BitVec 8) = no
  · subst h
    rfl
  · have hne : no ≠ 0 := fun he => h he.symm
    rw [if_pos h, decide_eq_false (fun he => he rfl)]
    simpa [opens] using hne

/-- The decoder on blocks after the first: it is where the packer was. -/
theorem decode_rest {b : Buf} {A : Int} {q : List (List Byte × BitVec 8)} {n : Nat} {last : BitVec 8} {st : DecodeSt}
    (hA : 0 ≤ A) (h : Tiled A st) (ht : st.continuePack = tagOf n) (hq : ∀ x ∈ q, x.1.length < 2048)
    (hb : b.slice st.startDataAddr.toNat (payload q).length = payload q) :
    opened b ((entries (tagOf n, last) q).foldl decodeStep st) = (openings (some last) q).foldl joinStep (opened b st) := by
  induction q generalizing n last st with
  | nil => rfl
  | cons x q ih =>
    have hx := hq x List.mem_cons_self
    have hcons : payload (x :: q) = x.1 ++ payload q := rfl
    rw [hcons, List.length_append, Buf.slice_add] at hb
    obtain ⟨hb1, hb2⟩ := List.append_inj hb (by simp)
    have hstep := decodeStep_joins hA h hx (if last ≠ x.2 then n + 1 else n) hb1
    have hopens : decide (st.continuePack ≠ tagOf (if last ≠ x.2 then n + 1 else n)) = opens (some last) x.2 := by
      rw [ht]
      exact opens_some n last x.2
    rw [hopens] at hstep
    have haddr := h.addr
    have hnext : (decodeStep st (mkEntry x.1.length (tagOf (if last ≠ x.2 then n + 1 else n)))).startDataAddr.toNat =
        st.startDataAddr.toNat + x.1.length := by
      rw [decodeStep_startDataAddr, entryLen_mkEntry hx]
      omega
    rw [entries, tagStep_tagOf, List.foldl_cons, openings, List.foldl_cons, ← hstep]
    exact ih (decodeStep_tiled _ h) (entryTag_mkEntry hx _) (fun y hy => hq y (List.mem_cons_of_mem _ hy))
      (by rw [hnext]; exact hb2)

/-- The decoder on a whole queue, whose first block it compares with tag 1. -/
theorem decode_joined {b : Buf} {A : Int} {q : List (List Byte × BitVec 8)} {st : DecodeSt} (hA : 0 ≤ A) (h : Tiled A st)
    (ht : st.continuePack = 1) (hnone : opened b st = []) (hq : ∀ x ∈ q, x.1.length < 2048)
    (hb : b.slice st.startDataAddr.toNat (payload q).length = payload q) :
    opened b ((entries (0, 0) q).foldl decodeStep st) = joined (openings none q) := by
  cases q with
  | nil => exact hnone
  | cons x q =>
    have hx := hq x List.mem_cons_self
    have hcons : payload (x :: q) = x.1 ++ payload q := rfl
    rw [hcons, List.length_append, Buf.slice_add] at hb
    obtain ⟨hb1, hb2⟩ := List.append_inj hb (by simp)
    have hstep := decodeStep_joins hA h hx (if (0 : BitVec 8) ≠ x.2 then 0 + 1 else 0) hb1
    have hopens : decide (st.continuePack ≠ tagOf (if (0 : BitVec 8) ≠ x.2 then 0 + 1 else 0)) = opens none x.2 := by
      rw [ht]
      exact opens_none x.2
    rw [hopens, hnone] at hstep
    have haddr := h.addr
    have hnext : (decodeStep st (mkEntry x.1.length (tagOf (if (0 : BitVec 8) ≠ x.2 then 0 + 1 else 0)))).startDataAddr.toNat =
        st.startDataAddr.toNat + x.1.length := by
      rw [decodeStep_startDataAddr, entryLen_mkEntry hx]
      omega
    have h00 : ((0 : BitVec 16), (0 : BitVec 8)) = (tagOf 0, 0) := rfl
    rw [h00, entries, tagStep_tagOf, List.foldl_cons, openings, joined, List.foldl_cons, ← hstep]
    exact decode_rest hA (decodeStep_tiled _ h) (entryTag_mkEntry hx _) (fun y hy => hq y (List.mem_cons_of_mem _ hy))
      (by rw [hnext]; exact hb2)

/-! ## A frame -/

/-- The count a handler is given is that of the messages it can get. -/
theorem recvCount_received {r : Client} (hr : r.recvCount = 0) :
    (processMessagePacket r).recvCount = (received (processMessagePacket r)).length := by
  have hcur := (decodeTable_tiled r).cur
  simp only [received, List.length_map, List.length_range]
  unfold processMessagePacket
  split
  · omega
  · simp only
    omega

/-- **A packed queue decodes to its blocks joined by their numbers.** -/
theorem received_joined {c r : Client} (h : QueueOk c) (hr : r.recvCount = 0)
    (hnum : r.recvBuffer.u16 14 = BitVec.ofNat 16 c.sendCount)
    (hbody : r.recvBuffer.slice 16 (packBody c).length = packBody c) :
    received (processMessagePacket r) = joined (openings none (queue c)) := by
  have hcount := numData_of_count h hnum
  have hlen := length_queue c
  by_cases h0 : numData r.recvBuffer = 0
  · have hnil : queue c = [] := List.eq_nil_of_length_eq_zero (by omega)
    unfold processMessagePacket received
    rw [if_pos h0, hr, hnil]
    rfl
  · have hstart : (decodeStart r).startDataAddr.toNat = 16 + 2 * c.sendCount := by
      simp only [decodeStart, hcount, packDataLen]
      omega
    have hdec := @decode_joined r.recvBuffer _ (queue c) (decodeStart r) (by rw [hcount]; omega) (decodeStart_tiled r) rfl
      rfl (queue_sizes h) (by rw [hstart]; exact payload_of_body hbody)
    have htable : decodeTable r = (entries (0, 0) (queue c)).foldl decodeStep (decodeStart r) := by
      unfold decodeTable
      rw [hcount, Int.toNat_natCast, sizeTable_of_body hbody]
    rw [← hdec, ← htable]
    unfold processMessagePacket
    rw [if_neg h0]
    rfl

/-- A frame's header counts at least its messages. -/
theorem packFrame_size_ge {env : Env} {fs : FS} {c : Client} (h : QueueOk c)
    (hrest : c.fileDataSending = true → (sendRest c).toNat < 2 ^ 31) :
    sumSize c ≤ ((packFrame env fs c).sendBuffer.u32 8).toNat := by
  have hle := sumSize_le h
  by_cases hfile : NoFile env fs c
  · rw [packFrame_noFile hfile, sealFrame_u32_8, (pack_fields h).sizeAll, BitVec.toNat_ofNat]
    omega
  · obtain ⟨file, hs, hopen⟩ := file_of_not_noFile hfile
    rw [packFrame_size h hs hopen (hrest hs)]
    omega

/-- **The frame `EndPackSendData` sends**, with or without a file behind its messages, at a
    receiver that reads all of it. -/
theorem packFrame_joined {env : Env} {fs : FS} {c : Client} (h : QueueOk c)
    (hrest : c.fileDataSending = true → (sendRest c).toNat < 2 ^ 31) (r : Client) :
    received (processMessagePacket (placed r (packFrame env fs c))) = joined (openings none (queue c)) := by
  have hge := @packFrame_size_ge env fs c h hrest
  have hsum := sumSize_eq c
  have h12 : dataSizeLen = 12 := rfl
  refine received_joined h rfl ?_ ?_
  · refine (Buf.u16_congr (placed_slice r _ (by omega))).trans ?_
    exact (Buf.u16_congr (packFrame_slice h (Nat.le_refl _) (by omega))).trans (pack_fields h).numData
  · refine (placed_slice r _ (by omega)).trans ?_
    rw [packFrame_slice h (by omega) (by omega), pack_body h]

/-! ## Numbers -/

/-- For each number in turn, whether a block with it opens a message. -/
def boundaries : Option Nat → List Nat → List Bool
  | _, [] => []
  | none, n :: ns => (n % 256 == 0) :: boundaries (some n) ns
  | some last, n :: ns => (n % 256 != last % 256) :: boundaries (some n) ns

/-- What a receiver makes of blocks with the numbers of their messages. -/
def messagesOf (bs : List (List Byte × Nat)) : List (List Byte) :=
  joined ((boundaries none (bs.map Prod.snd)).zip (bs.map Prod.fst))

@[simp] theorem length_boundaries (last : Option Nat) (ns : List Nat) : (boundaries last ns).length = ns.length := by
  induction ns generalizing last with
  | nil => cases last <;> rfl
  | cons n ns ih => cases last <;> simp [boundaries, ih]

theorem opens_ofNat (last : Option Nat) (n : Nat) (ns : List Nat) :
    boundaries last (n :: ns) = opens (last.map (BitVec.ofNat 8)) (BitVec.ofNat 8 n) :: boundaries (some n) ns := by
  cases last with
  | none =>
    have hmod : n % 256 = (BitVec.ofNat 8 n).toNat := by simp
    simp only [boundaries, opens, Option.map_none]
    congr 1
    rw [Bool.eq_iff_iff, beq_iff_eq, beq_iff_eq, hmod, ← BitVec.toNat_inj]
    rfl
  | some last =>
    have hmod : ∀ k, k % 256 = (BitVec.ofNat 8 k).toNat := by
      intro k
      simp
    simp only [boundaries, opens, Option.map_some]
    congr 1
    rw [Bool.eq_iff_iff, bne_iff_ne, bne_iff_ne, hmod n, hmod last]
    exact not_congr BitVec.toNat_inj

theorem openings_ofNat (last : Option Nat) (bs : List (List Byte × Nat)) :
    openings (last.map (BitVec.ofNat 8)) (bs.map fun x => (x.1, BitVec.ofNat 8 x.2)) =
      (boundaries last (bs.map Prod.snd)).zip (bs.map Prod.fst) := by
  induction bs generalizing last with
  | nil => simp [openings]
  | cons x bs ih =>
    rw [List.map_cons, List.map_cons, List.map_cons, opens_ofNat, List.zip_cons_cons, openings]
    exact congrArg _ (ih (some x.2))

/-- A queue as `STSV_SendData` fills it: each block with the number of its message, and the
    number the next message gets. -/
structure Tally where
  no : Nat
  blocks : List (List Byte × Nat)

def Tally.send (t : Tally) (buffer : List Byte) : Tally :=
  if t.blocks.length < 62 then
    ⟨t.no + 1, t.blocks ++ ((pieces buffer).take (62 - t.blocks.length)).map fun p => (p, t.no)⟩
  else t

/-- What a slot has queued so far. -/
def tallyOf (c : Client) : Tally := ⟨c.curPacketNo.toNat, (queue c).map fun x => (x.1, x.2.toNat)⟩

/-- The slot keeps a tally's numbers in 16 and in 8 bits. -/
structure Tallied (t : Tally) (c : Client) : Prop where
  queueOk : QueueOk c
  blocks : queue c = t.blocks.map fun x => (x.1, BitVec.ofNat 8 x.2)
  no : c.curPacketNo = BitVec.ofNat 16 t.no

theorem tallyOf_tallied {c : Client} (h : QueueOk c) : Tallied (tallyOf c) c := by
  refine ⟨h, ?_, ?_⟩
  · simp [tallyOf, Function.comp_def]
  · simp [tallyOf]

theorem Tallied.sendCount {t : Tally} {c : Client} (h : Tallied t c) : c.sendCount = t.blocks.length := by
  rw [← length_queue, h.blocks, List.length_map]

theorem Tallied.send {t : Tally} {c : Client} (h : Tallied t c) (buffer : List Byte) :
    Tallied (t.send buffer) (stsvSendData c buffer) := by
  have hcount := h.sendCount
  have hno := sendData_curPacketNo h.queueOk buffer
  have hqueue := queue_sendData h.queueOk buffer
  refine ⟨sendData_ok h.queueOk buffer, ?_, ?_⟩
  · have hwidth : (BitVec.ofNat 16 t.no).setWidth 8 = BitVec.ofNat 8 t.no := by
      apply BitVec.eq_of_toNat_eq
      simp only [BitVec.toNat_setWidth, BitVec.toNat_ofNat]
      omega
    rw [hqueue, h.blocks, h.no, hwidth, hcount]
    unfold Tally.send
    split
    · simp [Function.comp_def]
    · have h0 : 62 - t.blocks.length = 0 := by omega
      simp [h0]
  · rw [hno, hcount]
    unfold Tally.send
    split
    · rw [h.no, BitVec.ofNat_add]
      rfl
    · exact h.no

/-- The frame packed from a slot, by the slot's tally. -/
theorem Tallied.frame {env : Env} {fs : FS} {t : Tally} {c : Client} (h : Tallied t c)
    (hrest : c.fileDataSending = true → (sendRest c).toNat < 2 ^ 31) (r : Client) :
    received (processMessagePacket (placed r (packFrame env fs c))) = messagesOf t.blocks := by
  have hopen := openings_ofNat none t.blocks
  rw [packFrame_joined h.queueOk hrest, h.blocks]
  exact congrArg joined hopen

end StarServer.Socket

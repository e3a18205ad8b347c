/-
  StarServer.Socket.DataFrame — the bytes of a data frame, whoever packs it.

  A frame is a 12-byte header, crc and numData, the size table, the blocks, and with a file or
  big data an upload part. `dataFrame` is what `_PackDataWithPacket` and `_PackDataWithCRC16`
  lay out for a list of messages; a client that uses the same packers sends the same bytes with
  its own id and packNo.

  Proved:
    * `holdsFrame_iff`: a buffer has a data frame at its front exactly when its header
      fields, its crc, its count and its body are the frame's;
    * `received_of_body`: the decoder gets the messages back;
    * `packFrame_bytes`: the frame the server packs from a queue of whole messages.
-/

import StarServer.Socket.FileFrame
import StarServer.Socket.Headers
import StarServer.Socket.RoundTrip

namespace StarServer.Socket

open StarServer.Memory

/-! ## The bytes -/

/-- The size table and the blocks. -/
def messageBody (ms : List (List Byte)) : List Byte := words (messageTable 0 ms) ++ ms.flatten

/-- The 12 bytes that every message starts with. -/
def headerBytes (type fromID : BitVec 16) (packNo size : BitVec 32) : List Byte :=
  toLE 2 type.toNat ++ (toLE 2 fromID.toNat ++ (toLE 4 packNo.toNat ++ toLE 4 size.toNat))

/-- A frame of any type with `n` table entries: its `sizeAll` is 4 and the body. -/
def bodyFrame (type fromID : BitVec 16) (packNo : BitVec 32) (n : Nat) (body : List Byte) : List Byte :=
  headerBytes type fromID packNo (BitVec.ofNat 32 (4 + body.length)) ++
    (toLE 2 (Crc.stosCRC16 body).toNat ++ (toLE 2 (BitVec.ofNat 16 n).toNat ++ body))

/-- A frame of messages alone. -/
def dataFrame (fromID : BitVec 16) (packNo : BitVec 32) (ms : List (List Byte)) : List Byte :=
  bodyFrame StSockMsg.packdatasize fromID packNo (messageTable 0 ms).length (messageBody ms)

@[simp] theorem length_headerBytes (type fromID : BitVec 16) (packNo size : BitVec 32) :
    (headerBytes type fromID packNo size).length = dataSizeLen := by
  simp [headerBytes, dataSizeLen]

theorem length_bodyFrame (type fromID : BitVec 16) (packNo : BitVec 32) (n : Nat) (body : List Byte) :
    (bodyFrame type fromID packNo n body).length = packDataLen + body.length := by
  have h12 : dataSizeLen = 12 := rfl
  have h16 : packDataLen = 16 := rfl
  simp only [bodyFrame, List.length_append, length_headerBytes, length_toLE]
  omega

/-! ## In a buffer -/

/-- A word read is the bytes it was read from. -/
theorem slice_u16 (b : Buf) (a : Nat) : b.slice a 2 = toLE 2 (b.u16 a).toNat := by
  have hlt := ofLE_lt (b.slice a 2)
  rw [Buf.length_slice] at hlt
  have hnat : (b.u16 a).toNat = ofLE (b.slice a 2) := by
    rw [Buf.u16, BitVec.toNat_ofNat]
    omega
  have hread := toLE_ofLE (b.slice a 2)
  rw [Buf.length_slice] at hread
  rw [hnat, hread]

theorem slice_u32 (b : Buf) (a : Nat) : b.slice a 4 = toLE 4 (b.u32 a).toNat := by
  have hlt := ofLE_lt (b.slice a 4)
  rw [Buf.length_slice] at hlt
  have hnat : (b.u32 a).toNat = ofLE (b.slice a 4) := by
    rw [Buf.u32, BitVec.toNat_ofNat]
    omega
  have hread := toLE_ofLE (b.slice a 4)
  rw [Buf.length_slice] at hread
  rw [hnat, hread]

theorem slice_headerBytes (b : Buf) : b.slice 0 dataSizeLen = headerBytes (b.u16 0) (b.u16 2) (b.u32 4) (b.u32 8) := by
  rw [show dataSizeLen = 2 + (2 + (4 + 4)) from rfl, Buf.slice_add, Buf.slice_add, Buf.slice_add, slice_u16, slice_u16,
    slice_u32, slice_u32]
  rfl

/-- A frame's fields, read off a buffer. -/
structure HoldsFrame (b : Buf) (type fromID : BitVec 16) (packNo : BitVec 32) (n : Nat) (body : List Byte) : Prop extends
    Header b type fromID packNo (BitVec.ofNat 32 (4 + body.length)) where
  crc : b.u16 12 = Crc.stosCRC16 body
  numData : b.u16 14 = BitVec.ofNat 16 n
  body : b.slice 16 body.length = body

/-- **The frame's bytes and its fields** are the same thing. -/
theorem holdsFrame_iff (b : Buf) (type fromID : BitVec 16) (packNo : BitVec 32) (n : Nat) (body : List Byte) :
    HoldsFrame b type fromID packNo n body ↔
      b.slice 0 (packDataLen + body.length) = bodyFrame type fromID packNo n body := by
  have hsplit : b.slice 0 (packDataLen + body.length) = b.slice 0 dataSizeLen ++ (toLE 2 (b.u16 12).toNat ++
      (toLE 2 (b.u16 14).toNat ++ b.slice 16 body.length)) := by
    rw [show packDataLen + body.length = dataSizeLen + (2 + (2 + body.length)) by
      have h12 : dataSizeLen = 12 := rfl
      have h16 : packDataLen = 16 := rfl
      omega, Buf.slice_add, Buf.slice_add, Buf.slice_add, slice_u16 b (0 + dataSizeLen), slice_u16 b (0 + dataSizeLen + 2)]
    rfl
  rw [hsplit]
  constructor
  · rintro ⟨⟨h0, h2, h4, h8⟩, h12, h14, hbody⟩
    rw [slice_headerBytes, h0, h2, h4, h8, h12, h14, hbody]
    rfl
  · intro h
    obtain ⟨hhead, h⟩ := List.append_inj h (by simp)
    obtain ⟨h12, h⟩ := List.append_inj h (by simp)
    obtain ⟨h14, hbody⟩ := List.append_inj h (by simp)
    rw [← slice_u16] at h12 h14
    rw [show dataSizeLen = 2 + (2 + (4 + 4)) from rfl, Buf.slice_add, Buf.slice_add, Buf.slice_add] at hhead
    obtain ⟨h0, hhead⟩ := List.append_inj hhead (by simp)
    obtain ⟨h2, hhead⟩ := List.append_inj hhead (by simp)
    obtain ⟨h4, h8⟩ := List.append_inj hhead (by simp)
    exact ⟨⟨Buf.u16_of_slice h0, Buf.u16_of_slice h2, u32_of_slice h4, u32_of_slice h8⟩, Buf.u16_of_slice h12,
      Buf.u16_of_slice h14, hbody⟩

variable {type fromID : BitVec 16} {packNo : BitVec 32} {l : List Byte}

/-- Its size, where the frame fits a receive buffer. -/
theorem HoldsFrame.sizes {b : Buf} {n : Nat} (h : HoldsFrame b type fromID packNo n l)
    (hfits : packDataLen + l.length ≤ stsvMaxBuffer) :
    msgSize b = 4 + l.length ∧ (b.u32 8).toNat = 4 + l.length := by
  have h64 : stsvMaxBuffer = 65536 := rfl
  have hnat : (b.u32 8).toNat = 4 + l.length := by
    rw [h.size, BitVec.toNat_ofNat]
    omega
  refine ⟨?_, hnat⟩
  unfold msgSize
  rw [BitVec.toInt_eq_toNat_of_lt (by omega), hnat]
  omega

/-! ## The receiver -/

variable {ms : List (List Byte)} {rest : List Byte}

theorem HoldsFrame.numData_eq {b : Buf}
    (h : HoldsFrame b type fromID packNo (messageTable 0 ms).length (messageBody ms ++ rest))
    (hfits : packDataLen + (messageBody ms ++ rest).length ≤ stsvMaxBuffer) :
    Socket.numData b = (messageTable 0 ms).length := by
  have hlen : 2 * (messageTable 0 ms).length ≤ (messageBody ms).length := by simp [messageBody]
  have h16 : packDataLen = 16 := rfl
  have h64 : stsvMaxBuffer = 65536 := rfl
  rw [List.length_append] at hfits
  have hnat : (b.u16 14).toNat = (messageTable 0 ms).length := by
    rw [h.numData, BitVec.toNat_ofNat]
    omega
  unfold Socket.numData
  rw [BitVec.toInt_eq_toNat_of_lt (by omega), hnat]

/-- The size table, and what stands behind it. -/
theorem HoldsFrame.table {b : Buf}
    (h : HoldsFrame b type fromID packNo (messageTable 0 ms).length (messageBody ms ++ rest))
    (hfits : packDataLen + (messageBody ms ++ rest).length ≤ stsvMaxBuffer) :
    sizeTable b (Socket.numData b).toNat = messageTable 0 ms ∧
      b.slice (16 + 2 * (messageTable 0 ms).length) ms.flatten.length = ms.flatten := by
  have hnum := h.numData_eq hfits
  have hlen : (messageBody ms).length = 2 * (messageTable 0 ms).length + ms.flatten.length := by simp [messageBody]
  have hbody := h.body
  rw [List.length_append, Buf.slice_add] at hbody
  obtain ⟨hbody, -⟩ := List.append_inj hbody (by simp)
  rw [hlen, Buf.slice_add] at hbody
  obtain ⟨htab, hdata⟩ := List.append_inj hbody (by simp)
  rw [hnum, Int.toNat_natCast]
  exact ⟨Buf.u16s_of_slice htab, hdata⟩

/-- What follows the messages. -/
theorem HoldsFrame.tail {b : Buf} {n : Nat} (h : HoldsFrame b type fromID packNo n (messageBody ms ++ rest)) :
    b.slice (16 + (messageBody ms).length) rest.length = rest := by
  have hbody := h.body
  rw [List.length_append, Buf.slice_add] at hbody
  exact (List.append_inj hbody (by simp)).2

theorem messageTable_ne_nil (hne : ∀ m ∈ ms, m ≠ []) (h : ms ≠ []) (n : Nat) : messageTable n ms ≠ [] := by
  obtain ⟨m, ms, rfl⟩ := List.exists_cons_of_ne_nil h
  have hm : pieces m ≠ [] := chunks_ne_nil (by decide) (hne m List.mem_cons_self)
  unfold messageTable
  simp [hm]

/-- **The decoder gives the messages back**, whatever follows them. -/
theorem received_of_body {r : Client}
    (h : HoldsFrame r.recvBuffer type fromID packNo (messageTable 0 ms).length (messageBody ms ++ rest))
    (hfits : packDataLen + (messageBody ms ++ rest).length ≤ stsvMaxBuffer) (hne : ∀ m ∈ ms, m ≠ [])
    (hr : r.recvCount = 0) : received (processMessagePacket r) = ms := by
  have hnum := h.numData_eq hfits
  obtain ⟨htable, hdata⟩ := h.table hfits
  by_cases h0 : Socket.numData r.recvBuffer = 0
  · have hnil : ms = [] := by
      by_contra hms
      have hpos := List.length_pos_iff.mpr (messageTable_ne_nil hne hms 0)
      omega
    unfold processMessagePacket received
    rw [if_pos h0, hr, hnil]
    rfl
  · have hstart : (decodeStart r).startDataAddr.toNat = 16 + 2 * (messageTable 0 ms).length := by
      simp only [decodeStart, hnum, packDataLen]
      omega
    have hopen : opened r.recvBuffer (decodeStart r) = [] := rfl
    obtain ⟨-, hmsgs⟩ := @decode_numbered r.recvBuffer ms hne 0 (decodeStart r) (Int.le_refl _)
      (by simp only [decodeStart, hnum]; omega) rfl (by rw [hstart]; exact hdata)
    rw [← htable, hopen, List.nil_append] at hmsgs
    unfold processMessagePacket
    rw [if_neg h0]
    exact hmsgs

/-- And the CRC is the one the receiver computes. -/
theorem crc_of_body {b : Buf} {n : Nat} (h : HoldsFrame b type fromID packNo n l)
    (hfits : packDataLen + l.length ≤ stsvMaxBuffer) : crcOver b packDataLen (crcLength b) = b.u16 12 := by
  have h16 : packDataLen = 16 := rfl
  have h64 : stsvMaxBuffer = 65536 := rfl
  have hlen : (crcLength b).toNat = l.length := by
    have h4 : (4 : BitVec 32).toNat = 4 := rfl
    unfold crcLength
    rw [h.size]
    simp only [BitVec.toNat_setWidth, BitVec.toNat_sub, BitVec.toNat_ofNat, h4]
    omega
  unfold crcOver
  rw [hlen, h.crc]
  exact congrArg Crc.stosCRC16 h.body

/-! ## The server's own frames -/

/-- A queue of whole messages, and no file on its way. -/
structure QueuedWhole (c : Client) (ms : List (List Byte)) : Prop where
  ok : QueueOk c
  queue : queue c = numbered 0 ms
  messages : ms.length ≤ 256
  nonempty : ∀ m ∈ ms, m ≠ []

theorem QueuedWhole.body {c : Client} {ms : List (List Byte)} (h : QueuedWhole c ms) :
    packBody c = messageBody ms ∧ c.sendCount = (messageTable 0 ms).length ∧ sumSize c = 4 + (messageBody ms).length := by
  have hentries : entries (0, 0) (Socket.queue c) = messageTable 0 ms := by
    rw [h.queue]
    exact entries_numbered (n := 0) (by have := h.messages; omega) h.nonempty
  have hbody : packBody c = messageBody ms := by
    unfold packBody messageBody
    rw [hentries, h.queue, payload_numbered]
  refine ⟨hbody, ?_, ?_⟩
  · rw [← hentries, length_entries, length_queue]
  · rw [sumSize_eq, hbody]
    omega

/-- **What goes out for a queue of whole messages** is their data frame, from the server,
    with `packRef` as packNo. -/
theorem packFrame_bytes {env : Env} {fs : FS} {c : Client} {ms : List (List Byte)} (h : QueuedWhole c ms)
    (hfile : c.fileDataSending = false) :
    (packFrame env fs c).sendBuffer.slice 0 (packFrame env fs c).sendDataSize = dataFrame stsockidServer c.packRef ms := by
  have hno : NoFile env fs c := Or.inl hfile
  have hsmall : FrameSmall env fs c := by
    intro file hs
    rw [hfile] at hs
    cases hs
  obtain ⟨hbody, hcount, hsum⟩ := h.body
  have hpacked := packCRC16_frame h.ok
  have hfields := pack_fields h.ok
  have hsize : (packFrame env fs c).sendBuffer.u32 8 = BitVec.ofNat 32 (4 + (messageBody ms).length) := by
    rw [packFrame_noFile hno, sealFrame_u32_8, hfields.sizeAll, hsum]
  have hle := sumSize_le h.ok
  have hlen : (packFrame env fs c).sendDataSize = (dataFrame stsockidServer c.packRef ms).length := by
    rw [packFrame_sendDataSize h.ok hsmall, hsize, dataFrame, length_bodyFrame, BitVec.toNat_ofNat]
    have h12 : dataSizeLen = 12 := rfl
    have h16 : packDataLen = 16 := rfl
    omega
  rw [hlen, dataFrame, length_bodyFrame]
  refine (holdsFrame_iff _ _ _ _ _ _).mp ⟨⟨?_, ?_, (packFrame_header h.ok).2, hsize⟩, ?_, ?_, ?_⟩
  · rw [packFrame_noFile hno, sealFrame_u16_0, hfields.type]
  · rw [packFrame_noFile hno]
    unfold sealFrame
    rw [Buf.u16_put32_out (by omega), Buf.u16_put16_out (by omega), hfields.fromID]
  · rw [packFrame_noFile hno]
    exact ((Buf.u16_put32_out (by omega)).trans hpacked.crc).trans (congrArg _ hbody)
  · rw [packFrame_noFile hno]
    refine (Buf.u16_congr (sealFrame_slice (by omega))).trans ?_
    rw [hfields.numData, hcount]
  · rw [packFrame_noFile hno, sealFrame_slice (by omega), ← hbody]
    exact pack_body h.ok

end StarServer.Socket

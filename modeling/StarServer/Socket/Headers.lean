/-
  StarServer.Socket.Headers — the headers of what the server writes.

  Every `WriteTo` sends a message whose first 12 bytes are type, fromID, packNo and size.
  The short messages are built fresh; a data frame's header is patched in `sendBuffer` by
  three functions, its packNo last.
-/

import StarServer.Framing.Stream
import StarServer.Socket.FileFrame

namespace StarServer.Socket

open StarServer.Memory StarServer.Framing

theorem u32_of_slice {b : Buf} {a : Nat} {w : BitVec 32} (h : b.slice a 4 = toLE 4 w.toNat) : b.u32 a = w := by
  have hw := w.isLt
  apply BitVec.eq_of_toNat_eq
  simp only [Buf.u32, h, ofLE_toLE, BitVec.toNat_ofNat]
  omega

/-- The header fields of a message. -/
structure Header (b : Buf) (type fromID : BitVec 16) (packNo size : BitVec 32) : Prop where
  type : b.u16 0 = type
  fromID : b.u16 2 = fromID
  packNo : b.u32 4 = packNo
  size : b.u32 8 = size

theorem dataSizeMsg_header (type fromID : BitVec 16) (packNo size : BitVec 32) :
    Header (dataSizeMsg type fromID packNo size) type fromID packNo size := by
  have hall : (dataSizeMsg type fromID packNo size).slice 0 (2 + (2 + (4 + 4))) =
      toLE 2 type.toNat ++ (toLE 2 fromID.toNat ++ (toLE 4 packNo.toNat ++ toLE 4 size.toNat)) := by
    unfold dataSizeMsg
    rw [List.append_assoc, List.append_assoc]
    exact Buf.slice_store_eq _ (by simp)
  rw [Buf.slice_add, Buf.slice_add, Buf.slice_add] at hall
  obtain ⟨h1, hall⟩ := List.append_inj hall (by simp)
  obtain ⟨h2, hall⟩ := List.append_inj hall (by simp)
  obtain ⟨h3, h4⟩ := List.append_inj hall (by simp)
  exact ⟨Buf.u16_of_slice h1, Buf.u16_of_slice h2, u32_of_slice h3, u32_of_slice h4⟩

/-- The type of a data frame, with a file part or without. -/
def IsDataType (type : BitVec 16) : Prop :=
  type = StSockMsg.packdatasize ∨ type = StSockMsg.packdatasize ||| StSockMsg.filedata

theorem sealFrame_u16_0 (b : Buf) (v : BitVec 32) : (sealFrame b v).u16 0 = b.u16 0 := by
  unfold sealFrame
  rw [Buf.u16_put32_out (by omega), Buf.u16_put16_out (by omega)]

theorem file_of_not_noFile {env : Env} {fs : FS} {c : Client} (h : ¬ NoFile env fs c) :
    ∃ file, c.fileDataSending = true ∧ fopenRead env fs (dbFilePath c.fileSendName.bytes) = some file := by
  obtain ⟨file, hopen⟩ := Option.ne_none_iff_exists'.mp fun e => h (Or.inr e)
  exact ⟨file, Bool.not_eq_false _ ▸ fun e => h (Or.inl e), hopen⟩

/-- A frame with a file part says so. -/
theorem packFrame_fileType {env : Env} {fs : FS} {c : Client} (hq : QueueOk c) (hfile : ¬ NoFile env fs c) :
    (packFrame env fs c).sendBuffer.u16 0 = StSockMsg.packdatasize ||| StSockMsg.filedata := by
  obtain ⟨file, hs, hopen⟩ := file_of_not_noFile hfile
  obtain ⟨h, hp, hframe⟩ := packFrame_file hq hs hopen
  have htyped : (typedFrame c).u16 0 = StSockMsg.packdatasize ||| StSockMsg.filedata := by
    unfold typedFrame putFileType
    rw [if_pos hs, Buf.u16_put16, (pack_fields hq).type]
  rw [hframe, sealFrame_u16_0, Buf.u16_congr (hp.out 0 2 (by omega)), htyped]

/-- A data frame says so, and carries `packRef`. -/
theorem packFrame_header {env : Env} {fs : FS} {c : Client} (hq : QueueOk c) :
    IsDataType ((packFrame env fs c).sendBuffer.u16 0) ∧ (packFrame env fs c).sendBuffer.u32 4 = c.packRef := by
  by_cases hfile : NoFile env fs c
  · rw [packFrame_noFile hfile, sealFrame_u16_0]
    exact ⟨Or.inl (pack_fields hq).type, Buf.u32_put32 _ _ _⟩
  · refine ⟨Or.inr (packFrame_fileType hq hfile), ?_⟩
    obtain ⟨file, hs, hopen⟩ := file_of_not_noFile hfile
    obtain ⟨h, -, hframe⟩ := packFrame_file hq hs hopen
    rw [hframe]
    exact Buf.u32_put32 _ _ _

/-! ## The size of a data frame -/

/-- The frame's size stays a positive `int`: where the queue leaves no room for the file, its
    whole rest must do so too. -/
def FrameSmall (env : Env) (fs : FS) (c : Client) : Prop :=
  ∀ file, c.fileDataSending = true → fopenRead env fs (dbFilePath c.fileSendName.bytes) = some file →
    sumSize c ≤ 61440 ∨ sumSize c + 8 + nameLen c + (sendRest c).toNat < 2 ^ 31

theorem fileTake_le {c : Client} (hq : QueueOk c) : (fileTake c (typedFrame c)).toNat ≤ (sendRest c).toNat ∧
    (sumSize c ≤ 61440 → (fileTake c (typedFrame c)).toNat ≤ 61440 - sumSize c) := by
  have hroom := room_toNat hq
  unfold fileTake
  by_cases hlt : sendRest c < sizeDataCanSend (typedFrame c)
  · have hnat : (sendRest c).toNat < (sizeDataCanSend (typedFrame c)).toNat := BitVec.lt_def.mp hlt
    rw [if_pos hlt]
    refine ⟨Nat.le_refl _, fun hS => ?_⟩
    rw [if_pos hS] at hroom
    omega
  · have hnat : (sizeDataCanSend (typedFrame c)).toNat ≤ (sendRest c).toNat :=
      BitVec.le_def.mp (BitVec.not_lt.mp hlt)
    rw [if_neg hlt]
    refine ⟨hnat, fun hS => ?_⟩
    rw [if_pos hS] at hroom
    omega

/-- The size of a frame with a file part. -/
theorem packFrame_fileSize {env : Env} {fs : FS} {c : Client} {file : List Byte} (hq : QueueOk c)
    (hsmall : FrameSmall env fs c) (hs : c.fileDataSending = true)
    (hopen : fopenRead env fs (dbFilePath c.fileSendName.bytes) = some file) :
    ((packFrame env fs c).sendBuffer.u32 8).toNat = sumSize c + 8 + nameLen c + (fileTake c (typedFrame c)).toNat ∧
      sumSize c + 8 + nameLen c + (fileTake c (typedFrame c)).toNat < 2 ^ 31 := by
  obtain ⟨h, hp, hframe⟩ := packFrame_file hq hs hopen
  obtain ⟨hrest, hroom⟩ := fileTake_le hq
  have hle := sumSize_le hq
  have hn := nameLen_le c
  have hlt : sumSize c + 8 + nameLen c + (fileTake c (typedFrame c)).toNat < 2 ^ 31 := by
    rcases hsmall file hs hopen with hS | hS
    · have := hroom hS
      omega
    · omega
  rw [hframe, sealFrame_u32_8, hp.sizeAll, typedFrame_sizeAll hq, toNat_sizeAll _ _ _ (by omega)]
  exact ⟨rfl, hlt⟩

theorem packFrame_size_lt {env : Env} {fs : FS} {c : Client} (hq : QueueOk c) (hsmall : FrameSmall env fs c) :
    ((packFrame env fs c).sendBuffer.u32 8).toNat < 2 ^ 31 := by
  by_cases hfile : NoFile env fs c
  · have hle := sumSize_le hq
    rw [packFrame_noFile hfile, sealFrame_u32_8, (pack_fields hq).sizeAll, BitVec.toNat_ofNat]
    omega
  · obtain ⟨file, hs, hopen⟩ := file_of_not_noFile hfile
    obtain ⟨hsize, hlt⟩ := packFrame_fileSize hq hsmall hs hopen
    omega

/-- 12 bytes and the size field, an `s32`, as the `size_t` that `WriteTo` is given. -/
def frameCount (msg : Buf) : Nat := ((msg.u32 8).signExtend 64 + BitVec.ofNat 64 dataSizeLen).toNat

theorem frameCount_small {msg : Buf} (h : (msg.u32 8).toNat < 2 ^ 31) : frameCount msg = dataSizeLen + (msg.u32 8).toNat := by
  have h12 : dataSizeLen = 12 := rfl
  unfold frameCount
  rw [BitVec.signExtend_eq_setWidth_of_msb_false, BitVec.toNat_add, BitVec.toNat_setWidth, BitVec.toNat_ofNat]
  · omega
  · rw [BitVec.msb_eq_false_iff_two_mul_lt]
    omega

/-- What is sent of a frame is what its header says, whatever the size comes to. -/
theorem packFrame_count (env : Env) (fs : FS) (c : Client) :
    (packFrame env fs c).sendDataSize = frameCount (packFrame env fs c).sendBuffer := by
  unfold packFrame frameCount
  dsimp only
  rw [Buf.u32_put32_out (by omega)]

/-- A frame's size passes 2^31 only with a file part. -/
theorem packFrame_plainSize {env : Env} {fs : FS} {c : Client} (hq : QueueOk c)
    (hplain : (packFrame env fs c).sendBuffer.u16 0 ≠ StSockMsg.packdatasize ||| StSockMsg.filedata) :
    ((packFrame env fs c).sendBuffer.u32 8).toNat < 2 ^ 31 := by
  refine packFrame_size_lt hq fun file hs hopen => ?_
  refine absurd (packFrame_fileType hq fun hfile => ?_) hplain
  rcases hfile with hnone | hnone
  · rw [hs] at hnone
    cases hnone
  · rw [hopen] at hnone
    cases hnone

/-- **As many bytes are sent as the header says.** -/
theorem packFrame_sendDataSize {env : Env} {fs : FS} {c : Client} (hq : QueueOk c) (hsmall : FrameSmall env fs c) :
    (packFrame env fs c).sendDataSize = dataSizeLen + ((packFrame env fs c).sendBuffer.u32 8).toNat :=
  (packFrame_count env fs c).trans (frameCount_small (packFrame_size_lt hq hsmall))

theorem slice_isFrame {b : Buf} {n : Nat} (h : n = dataSizeLen + (b.u32 8).toNat) :
    IsFrame dataSizeLen wireSize (b.slice 0 n) := by
  have hn : dataSizeLen ≤ n := by omega
  refine ⟨by rw [Buf.length_slice]; exact hn, ?_⟩
  rw [Buf.length_slice, wireSize_slice b hn]
  exact h

end StarServer.Socket

/-
  StarServer.Socket.Alike — two slots with the same sending side: the same queue, the same
  transfer, the same bytes to send again, over two `sendBuffer`s that may differ everywhere
  else.

  Queueing, starting a file and packing a frame keep them so (`sendData_alike`,
  `sendDBFile_alike`, `packFrame_agree`): a frame's bytes come from the queue, the file and
  the transfer, so long as the file holds what the frame counts and the frame's size stays
  an `int`.
-/

import StarServer.Socket.AtMostOnce
import StarServer.Socket.FileTransfer

namespace StarServer.Socket

open StarServer.Memory StarServer.Crc

structure SameSending (c d : Client) : Prop where
  sendDone : c.sendDone = d.sendDone
  curPacketNo : c.curPacketNo = d.curPacketNo
  sendDataSize : c.sendDataSize = d.sendDataSize
  fileSendName : c.fileSendName = d.fileSendName
  fileDataSending : c.fileDataSending = d.fileDataSending
  transfer : c.fileDataSending = true → SameSend c d
  leftOk : QueueOk c
  rightOk : QueueOk d
  queue : queue c = queue d
  resend : c.sendBuffer.slice 0 c.sendDataSize = d.sendBuffer.slice 0 c.sendDataSize
  /-- A REGISTER reply's packNo and size. -/
  stale : c.sendBuffer.slice 4 8 = d.sendBuffer.slice 4 8

theorem SameSending.sendCount {c d : Client} (h : SameSending c d) : c.sendCount = d.sendCount := by
  rw [← length_queue c, h.queue, length_queue]

/-! ## Queueing -/

/-- Queueing the same message in the same place of two buffers. -/
theorem fillQueue_agree (fuel : Nat) {c d : Client} (l : List Byte) {a n : Nat} (hcount : c.sendCount = d.sendCount)
    (h : c.sendBuffer.slice a n = d.sendBuffer.slice a n) :
    (fillQueue fuel c l).sendBuffer.slice a n = (fillQueue fuel d l).sendBuffer.slice a n := by
  have hput (c d : Client) (l : List Byte) (hcount : c.sendCount = d.sendCount)
      (h : c.sendBuffer.slice a n = d.sendBuffer.slice a n) :
      (putBlock c l).sendBuffer.slice a n = (putBlock d l).sendBuffer.slice a n := by
    unfold putBlock
    rw [hcount]
    exact Buf.slice_store_congr h _ _
  induction fuel generalizing c d l with
  | zero => exact h
  | succ fuel ih =>
    simp only [fillQueue]
    by_cases hnil : l = []
    · rw [if_pos hnil, if_pos hnil]
      exact h
    · rw [if_neg hnil, if_neg hnil]
      by_cases hlen : l.length ≤ clientDefaultBuffer
      · rw [if_pos hlen, if_pos hlen]
        exact hput c d l hcount h
      · rw [if_neg hlen, if_neg hlen]
        have hnext : (putBlock c (l.take clientDefaultBuffer)).sendCount =
            (putBlock d (l.take clientDefaultBuffer)).sendCount := congrArg (· + 1) hcount
        have hbuf := hput c d (l.take clientDefaultBuffer) hcount h
        rw [hnext]
        split
        · exact hbuf
        · exact ih _ hnext hbuf

theorem stsvSendData_agree {c d : Client} (l : List Byte) {a n : Nat} (hcount : c.sendCount = d.sendCount)
    (h : c.sendBuffer.slice a n = d.sendBuffer.slice a n) :
    (stsvSendData c l).sendBuffer.slice a n = (stsvSendData d l).sendBuffer.slice a n := by
  unfold stsvSendData
  rw [hcount]
  split
  · exact fillQueue_agree _ l hcount h
  · exact h

theorem OnlySent.sendDone {c r : Client} (h : OnlySent c r) : r.sendDone = c.sendDone := h.field (·.sendDone) fun _ _ => rfl

theorem sendData_alike {c d : Client} (h : SameSending c d) (l : List Byte) :
    SameSending (stsvSendData c l) (stsvSendData d l) := by
  have hcount := h.sendCount
  obtain ⟨hname, hsend, hsize, hdone⟩ := stsvSendData_same c l
  obtain ⟨hname', hsend', hsize', hdone'⟩ := stsvSendData_same d l
  constructor
  · rw [(stsvSendData_only c l).sendDone, (stsvSendData_only d l).sendDone, h.sendDone]
  · rw [sendData_curPacketNo h.leftOk, sendData_curPacketNo h.rightOk, hcount, h.curPacketNo]
  · rw [stsvSendData_size, stsvSendData_size, h.sendDataSize]
  · rw [hname, hname', h.fileSendName]
  · rw [hsend, hsend', h.fileDataSending]
  · intro hs
    rw [hsend] at hs
    obtain ⟨h1, h2, h3, h4⟩ := h.transfer hs
    refine ⟨?_, ?_, ?_, ?_⟩
    · rw [hname, hname', h1]
    · rw [hsend, hsend', h2]
    · rw [hsize, hsize', h3]
    · rw [hdone, hdone', h4]
  · exact sendData_ok h.leftOk l
  · exact sendData_ok h.rightOk l
  · rw [queue_sendData h.leftOk, queue_sendData h.rightOk, h.queue, hcount, h.curPacketNo]
  · rw [stsvSendData_size]
    exact stsvSendData_agree l hcount h.resend
  · exact stsvSendData_agree l hcount h.stale

/-! ## Starting a file -/

/-- Fields of the sending side that starting a file leaves alone. -/
structure FileStarted (c c' : Client) : Prop where
  sendDone : c'.sendDone = c.sendDone
  curPacketNo : c'.curPacketNo = c.curPacketNo
  sendDataSize : c'.sendDataSize = c.sendDataSize
  sendBuffer : c'.sendBuffer = c.sendBuffer
  sendCount : c'.sendCount = c.sendCount
  sizes : c'.sendBufferMSGSize = c.sendBufferMSGSize
  numbers : c'.sendPacketNo = c.sendPacketNo

theorem stsvSendDBFile_started (env : Env) (fs : FS) (c : Client) (name : List Byte) :
    FileStarted c (stsvSendDBFile env fs c name) := by
  unfold stsvSendDBFile
  split
  · exact ⟨rfl, rfl, rfl, rfl, rfl, rfl, rfl⟩
  · have h1 : FileStarted c (sprintfFileSendName c (dbFilePath name)) := ⟨rfl, rfl, rfl, rfl, rfl, rfl, rfl⟩
    generalize sprintfFileSendName c (dbFilePath name) = c1 at h1 ⊢
    obtain ⟨g1, g2, g3, g4, g5, g6, g7⟩ := h1
    cases fopenRead env fs (dbFilePath name) with
    | some file => exact ⟨g1, g2, g3, g4, g5, g6, g7⟩
    | none => exact ⟨g1, g2, g3, g4, g5, g6, g7⟩

/-- What `sprintf` makes of the same name, flag and sizes is the same. -/
theorem sprintfFileSendName_same {c d : Client} (h : SameSend c d) (s : List Byte) :
    SameSend (sprintfFileSendName c s) (sprintfFileSendName d s) := by
  have hfields : sendFields d = sendFields c := by
    unfold sendFields sendFlags
    rw [h.name, h.sending, h.size, h.done]
  constructor
  · show Name32.ofList _ = Name32.ofList _
    rw [hfields]
  · show decide _ = decide _
    rw [hfields]
  · show BitVec.ofNat 32 _ = BitVec.ofNat 32 _
    rw [hfields]
  · show BitVec.ofNat 32 _ = BitVec.ofNat 32 _
    rw [hfields]

theorem overlay_take {old rest new : List Byte} : (overlay (old ++ rest) new).take old.length = overlay old new := by
  by_cases h : new.length ≤ old.length
  · rw [overlay_append h, List.take_append_of_le_length (Nat.le_of_eq (length_overlay _ _).symm),
      List.take_of_length_le (Nat.le_of_eq (length_overlay _ _))]
  · have hlen : (new.take (old ++ rest).length).length = min (old.length + rest.length) new.length := by
      rw [List.length_take, List.length_append]
    unfold overlay
    rw [List.take_append_of_le_length (by omega), List.take_take, List.drop_of_length_le (by omega), List.append_nil,
      List.length_append, Nat.min_eq_left (by omega)]

/-- The old name alone decides the new one. -/
theorem sprintfFileSendName_name {c d : Client} (h : c.fileSendName = d.fileSendName) (s : List Byte) :
    (sprintfFileSendName c s).fileSendName = (sprintfFileSendName d s).fileSendName := by
  have htake (c : Client) : (overlay (sendFields c) (s ++ [0])).take 32 = overlay c.fileSendName.bytes (s ++ [0]) := by
    have hlen : c.fileSendName.bytes.length = 32 := c.fileSendName.len
    unfold sendFields
    rw [← hlen]
    exact overlay_take
  show Name32.ofList _ = Name32.ofList _
  rw [htake, htake, h]

/-- The transfers the same call starts on two slots. -/
structure SameStart (c d : Client) : Prop where
  name : c.fileSendName = d.fileSendName
  sending : c.fileDataSending = d.fileDataSending
  transfer : c.fileDataSending = true → SameSend c d

theorem stsvSendDBFile_same {env : Env} {fs gs : FS} {c d : Client} {name : List Byte} (h : SameSending c d)
    (hfs : fs (dbFilePath name) = gs (dbFilePath name)) :
    SameStart (stsvSendDBFile env fs c name) (stsvSendDBFile env gs d name) := by
  have hopen : fopenRead env fs (dbFilePath name) = fopenRead env gs (dbFilePath name) := by
    unfold fopenRead
    rw [hfs]
  have hname := sprintfFileSendName_name h.fileSendName (dbFilePath name)
  unfold stsvSendDBFile
  rw [← h.fileDataSending, ← hopen]
  by_cases hs : c.fileDataSending = true
  · rw [if_pos hs, if_pos hs]
    exact ⟨h.fileSendName, h.fileDataSending, h.transfer⟩
  · rw [if_neg hs, if_neg hs]
    simp only
    generalize sprintfFileSendName c (dbFilePath name) = c1 at hname ⊢
    generalize sprintfFileSendName d (dbFilePath name) = d1 at hname ⊢
    cases fopenRead env fs (dbFilePath name) with
    | none =>
      refine ⟨hname, rfl, fun ht => ?_⟩
      cases ht
    | some file =>
      have hstart : SameSend
          { c1 with bigDataSendSize := BitVec.ofNat 32 file.length, bigDataSendSizeDone := 0, fileDataSending := true }
          { d1 with bigDataSendSize := BitVec.ofNat 32 file.length, bigDataSendSizeDone := 0, fileDataSending := true } :=
        ⟨hname.symm, rfl, rfl, rfl⟩
      have hnamed := sprintfFileSendName_same hstart (cstr name)
      exact ⟨hnamed.name.symm, hnamed.sending.symm, fun _ => hnamed⟩

theorem queue_congr {c c' : Client} (hb : c'.sendBuffer = c.sendBuffer) (hn : c'.sendCount = c.sendCount)
    (hs : c'.sendBufferMSGSize = c.sendBufferMSGSize) (hno : c'.sendPacketNo = c.sendPacketNo) : queue c' = queue c := by
  unfold queue block
  rw [hb, hn, hs, hno]

theorem sendDBFile_alike {env : Env} {fs gs : FS} {c d : Client} {name : List Byte} (h : SameSending c d)
    (hfs : fs (dbFilePath name) = gs (dbFilePath name)) :
    SameSending (stsvSendDBFile env fs c name) (stsvSendDBFile env gs d name) := by
  obtain ⟨g1, g2, g3, g4, g5, g6, g7⟩ := stsvSendDBFile_started env fs c name
  obtain ⟨k1, k2, k3, k4, k5, k6, k7⟩ := stsvSendDBFile_started env gs d name
  obtain ⟨hname, hsend, htrans⟩ := @stsvSendDBFile_same env fs gs c d name h hfs
  refine ⟨?_, ?_, ?_, hname, hsend, htrans, queueOk_of_eq h.leftOk g5 g6, queueOk_of_eq h.rightOk k5 k6, ?_, ?_, ?_⟩
  · rw [g1, k1, h.sendDone]
  · rw [g2, k2, h.curPacketNo]
  · rw [g3, k3, h.sendDataSize]
  · rw [queue_congr g4 g5 g6 g7, queue_congr k4 k5 k6 k7, h.queue]
  · rw [g3, g4, k4]
    exact h.resend
  · rw [g4, k4]
    exact h.stale

/-! ## Packing a frame -/

/-- The bytes of a frame but its crc, which comes last. -/
structure FrameAgree (b c : Buf) (n : Nat) : Prop where
  head : b.slice 0 12 = c.slice 0 12
  body : b.slice 14 (n - 14) = c.slice 14 (n - 14)

theorem slice_header {b c : Buf} (h0 : b.u16 0 = c.u16 0) (h2 : b.u16 2 = c.u16 2) (h4 : b.u32 4 = c.u32 4)
    (h8 : b.u32 8 = c.u32 8) : b.slice 0 12 = c.slice 0 12 := by
  show b.slice 0 (2 + (2 + (4 + 4))) = c.slice 0 (2 + (2 + (4 + 4)))
  rw [Buf.slice_add, Buf.slice_add, Buf.slice_add, Buf.slice_add, Buf.slice_add, Buf.slice_add, Buf.slice_of_u16 h0,
    Buf.slice_of_u16 h2, Buf.slice_of_u32 h4, Buf.slice_of_u32 h8]

/-- The CRC and `packNo` complete the frame. -/
theorem sealFrame_agree {b c : Buf} {n : Nat} (h : FrameAgree b c n) (hn : n = dataSizeLen + (b.u32 8).toNat)
    (h16 : 16 ≤ n) (v : BitVec 32) : (sealFrame b v).slice 0 n = (sealFrame c v).slice 0 n := by
  have h12 : dataSizeLen = 12 := rfl
  have hsize : b.u32 8 = c.u32 8 := Buf.u32_congr (Buf.slice_sub h.head (by omega) (by omega))
  have hlen : ((b.u32 8 - 4).setWidth 16).toNat ≤ n - 16 := by
    have h4 : (4 : BitVec 32).toNat = 4 := rfl
    have hlt := (b.u32 8).isLt
    rw [BitVec.toNat_setWidth, BitVec.toNat_sub, h4]
    omega
  have hcrc : crcOver b packDataLen ((b.u32 8 - 4).setWidth 16) = crcOver c packDataLen ((c.u32 8 - 4).setWidth 16) := by
    unfold crcOver
    rw [← hsize]
    exact congrArg stosCRC16 (Buf.slice_sub h.body (by decide) (by unfold packDataLen; omega))
  have hsplit (b : Buf) (v : BitVec 32) (crc : BitVec 16) : ((b.put16 12 crc).put32 4 v).slice 0 n =
      ((b.put16 12 crc).put32 4 v).slice 0 12 ++ (toLE 2 crc.toNat ++ b.slice 14 (n - 14)) := by
    have hfield : ((b.put16 12 crc).put32 4 v).slice 12 2 = toLE 2 crc.toNat := by
      rw [Buf.slice_put32_out (by omega)]
      exact Buf.slice_store_eq _ (by simp)
    have hrest : ((b.put16 12 crc).put32 4 v).slice 14 (n - 14) = b.slice 14 (n - 14) := by
      rw [Buf.slice_put32_out (by omega), Buf.slice_put16_out (by omega)]
    have hall := Buf.slice_add ((b.put16 12 crc).put32 4 v) 0 12 (2 + (n - 14))
    rw [Buf.slice_add _ (0 + 12), show 12 + (2 + (n - 14)) = n by omega, hfield] at hall
    rw [hall, hrest]
  unfold sealFrame
  rw [hsplit, hsplit, hcrc, h.body]
  congr 1
  refine Buf.slice_store_congr ?_ 4 _
  rw [Buf.slice_put16_out (by omega), Buf.slice_put16_out (by omega)]
  exact h.head

theorem FrameAgree.store {b c : Buf} {n : Nat} (h : FrameAgree b c n) (p : Nat) (l : List Byte) :
    FrameAgree (b.store p l) (c.store p l) n :=
  ⟨Buf.slice_store_congr h.head p l, Buf.slice_store_congr h.body p l⟩

theorem SameSending.sumSize {c d : Client} (h : SameSending c d) : sumSize c = sumSize d := by
  rw [sumSize_eq, sumSize_eq]
  unfold packBody
  rw [h.queue]

/-- The packed queues, header and all. -/
theorem pack_agree {c d : Client} (h : SameSending c d) (hp : c.packRef = d.packRef) :
    FrameAgree (packDataWithPacket c).sendBuffer (packDataWithPacket d).sendBuffer (sumSize c + dataSizeLen) := by
  obtain ⟨h1, h2, h3, h4, h5⟩ := pack_fields h.leftOk
  obtain ⟨k1, k2, k3, k4, k5⟩ := pack_fields h.rightOk
  have hbody : packBody c = packBody d := by
    unfold packBody
    rw [h.queue]
  have hsum := sumSize_eq c
  refine ⟨slice_header ?_ ?_ ?_ ?_, ?_⟩
  · rw [h1, k1]
  · rw [h2, k2]
  · rw [h3, k3, hp]
  · rw [h4, k4, h.sumSize]
  · have hnat : sumSize c + dataSizeLen - 14 = 2 + (packBody c).length := by
      unfold dataSizeLen
      omega
    rw [hnat, Buf.slice_add, Buf.slice_add, pack_body h.leftOk, hbody, pack_body h.rightOk]
    congr 1
    refine Buf.slice_of_u16 ?_
    rw [h5, k5, h.sendCount]

theorem typedFrame_agree {c d : Client} (h : SameSending c d) (hp : c.packRef = d.packRef) :
    FrameAgree (typedFrame c) (typedFrame d) (sumSize c + dataSizeLen) := by
  have hpack := pack_agree h hp
  unfold typedFrame putFileType
  rw [← h.fileDataSending, (pack_fields h.leftOk).type, (pack_fields h.rightOk).type]
  split
  · exact hpack.store 0 _
  · exact hpack

/-- The file still holds what the transfer has left to send. -/
def FileHolds (env : Env) (fs : FS) (c : Client) : Prop :=
  ∀ file, c.fileDataSending = true → fopenRead env fs (dbFilePath c.fileSendName.bytes) = some file →
    c.bigDataSendSizeDone.toNat + (sendRest c).toNat ≤ file.length

/-- So `fread` gives all the bytes the frame counts. -/
theorem fileTake_le_fileBytes {c : Client} {file : List Byte} (hq : QueueOk c)
    (hfile : c.bigDataSendSizeDone.toNat + (sendRest c).toNat ≤ file.length) :
    (fileTake c (typedFrame c)).toNat ≤ (fileBytes c file (typedFrame c)).length := by
  have hrest := (fileTake_le hq).1
  have hread : (fileTake c (typedFrame c)).toNat ≤ freadSize c (typedFrame c) := by
    unfold fileTake freadSize
    split
    · exact Nat.le_refl _
    · have hlt := (sizeDataCanSend (typedFrame c)).isLt
      rw [BitVec.toNat_signExtend, BitVec.toNat_setWidth]
      omega
  unfold fileBytes freadAt
  rw [List.length_take, List.length_drop]
  omega

/-- The file parts of the same transfer behind the same packed queue. -/
theorem filePart_agree {c : Client} {file : List Byte} {b b' h h' : Buf} {head : Nat} {flags : BitVec 32}
    (hb : FrameAgree b b' head) (hh : 16 ≤ head) (hp : FilePart c file b head flags h) (hp' : FilePart c file b' head flags h')
    (htake : (fileTake c b).toNat ≤ (fileBytes c file b).length) :
    FrameAgree h h' (head + 8 + nameLen c + (fileTake c b).toNat) := by
  have hsize : b.u32 8 = b'.u32 8 := Buf.u32_congr (Buf.slice_sub hb.head (by omega) (by omega))
  have hsame : fileTake c b = fileTake c b' ∧ fileBytes c file b = fileBytes c file b' := by
    unfold fileTake fileBytes freadSize sizeDataCanSend
    rw [hsize]
    exact ⟨rfl, rfl⟩
  refine ⟨?_, ?_⟩
  · have h8 : h.u32 8 = h'.u32 8 := by rw [hp.sizeAll, hp'.sizeAll, hsize, hsame.1]
    have hlow : h.slice 0 8 = h'.slice 0 8 := by
      rw [hp.out 0 8 (by omega), hp'.out 0 8 (by omega)]
      exact Buf.slice_sub hb.head (by omega) (by omega)
    show h.slice 0 (8 + 4) = h'.slice 0 (8 + 4)
    rw [Buf.slice_add, Buf.slice_add, hlow, Buf.slice_of_u32 h8]
  · have hmid : h.slice 14 (head - 14) = h'.slice 14 (head - 14) := by
      rw [hp.out _ _ (by omega), hp'.out _ _ (by omega)]
      exact hb.body
    have hflags : h.slice head 4 = h'.slice head 4 := Buf.slice_of_u32 (hp.flags.trans hp'.flags.symm)
    have htotal : h.slice (head + 4) 4 = h'.slice (head + 4) 4 := Buf.slice_of_u32 (hp.total.trans hp'.total.symm)
    have hname : h.slice (head + 8) (nameLen c) = h'.slice (head + 8) (nameLen c) := hp.name.trans hp'.name.symm
    have hbytes : h.slice (head + 8 + nameLen c) (fileTake c b).toNat =
        h'.slice (head + 8 + nameLen c) (fileTake c b).toNat := by
      have hall := hp'.bytes
      rw [← hsame.2] at hall
      rw [← Buf.slice_take h _ htake, ← Buf.slice_take h' _ htake, hp.bytes, hall]
    have hnat : head + 8 + nameLen c + (fileTake c b).toNat - 14 =
        (head - 14) + (4 + (4 + (nameLen c + (fileTake c b).toNat))) := by omega
    rw [hnat, Buf.slice_add, Buf.slice_add, Buf.slice_add, Buf.slice_add, Buf.slice_add h', Buf.slice_add h',
      Buf.slice_add h', Buf.slice_add h', show 14 + (head - 14) = head by omega, hmid, hflags, htotal, hname, hbytes]

/-- What is asked of the file that goes out with a frame. -/
structure FrameWhole (env : Env) (fs : FS) (c : Client) : Prop where
  small : FrameSmall env fs c
  holds : FileHolds env fs c

theorem FrameSmall.same {env : Env} {fs gs : FS} {c d : Client} (h : SameSending c d)
    (hfs : ∀ name, fs (dbFilePath name) = gs (dbFilePath name)) (hw : FrameSmall env fs c) : FrameSmall env gs d := by
  intro file hs hopen
  rw [← h.fileDataSending] at hs
  have hsame := h.transfer hs
  have hopen' : fopenRead env fs (dbFilePath c.fileSendName.bytes) = some file := by
    rw [← hopen, ← h.fileSendName]
    unfold fopenRead
    rw [hfs]
  have hfit := hw file hs hopen'
  unfold nameLen sendRest at hfit ⊢
  rw [hsame.done, hsame.size, ← h.sumSize]
  exact hfit

/-- **The same frame, byte for byte.** -/
theorem packFrame_agree {env : Env} {fs gs : FS} {c d : Client} (h : SameSending c d) (hp : c.packRef = d.packRef)
    (hfs : ∀ name, fs (dbFilePath name) = gs (dbFilePath name)) (hw : FrameWhole env fs c) :
    (packFrame env fs c).sendDataSize = (packFrame env gs d).sendDataSize ∧
      (packFrame env fs c).sendBuffer.slice 0 (packFrame env fs c).sendDataSize =
        (packFrame env gs d).sendBuffer.slice 0 (packFrame env fs c).sendDataSize := by
  have hsize := packFrame_sendDataSize h.leftOk hw.small
  have hsize' := packFrame_sendDataSize h.rightOk (hw.small.same h hfs)
  have hopens : fopenRead env fs (dbFilePath c.fileSendName.bytes) = fopenRead env gs (dbFilePath d.fileSendName.bytes) := by
    rw [← h.fileSendName]
    unfold fopenRead
    rw [hfs]
  have hle := sumSize_le h.leftOk
  have h12 : dataSizeLen = 12 := rfl
  have hbytes : ∀ n, n = dataSizeLen + ((packFrame env fs c).sendBuffer.u32 8).toNat →
      (packFrame env fs c).sendBuffer.slice 0 n = (packFrame env gs d).sendBuffer.slice 0 n := by
    intro n hn
    by_cases hfile : NoFile env fs c
    · have hfile' : NoFile env gs d := hfile.imp (fun e => h.fileDataSending ▸ e) (fun e => hopens ▸ e)
      have hpack := pack_agree h hp
      have hall := (pack_fields h.leftOk).sizeAll
      rw [packFrame_noFile hfile] at hn ⊢
      rw [packFrame_noFile hfile', ← hp]
      rw [sealFrame_u32_8, hall, BitVec.toNat_ofNat] at hn
      have hnat : n = sumSize c + dataSizeLen := by omega
      have hsum : 4 ≤ sumSize c := by
        unfold sumSize
        omega
      rw [hnat]
      refine sealFrame_agree hpack ?_ (by omega) _
      rw [hall, BitVec.toNat_ofNat]
      omega
    · obtain ⟨file, hs, hopen⟩ := file_of_not_noFile hfile
      have hs' : d.fileDataSending = true := h.fileDataSending ▸ hs
      obtain ⟨b, hb, hframe⟩ := packFrame_file h.leftOk hs hopen
      obtain ⟨b', hb', hframe'⟩ := packFrame_file h.rightOk hs' (hopens ▸ hopen)
      have htyped := typedFrame_agree h hp
      have h8 : (typedFrame c).u32 8 = (typedFrame d).u32 8 :=
        Buf.u32_congr (Buf.slice_sub htyped.head (by omega) (by omega))
      have hend : endFlag c (typedFrame c) = endFlag c (typedFrame d) := by
        unfold endFlag fileTake sizeDataCanSend
        rw [h8]
      have hb' := hb'.same (h.transfer hs)
      rw [← hend, ← h.sumSize] at hb'
      have htake := fileTake_le_fileBytes h.leftOk (hw.holds file hs hopen)
      have hsum : 4 ≤ sumSize c := by
        unfold sumSize
        omega
      have hagree := filePart_agree htyped (by omega) hb hb' htake
      obtain ⟨htotal, -⟩ := packFrame_fileSize h.leftOk hw.small hs hopen
      have hn' : n = sumSize c + dataSizeLen + 8 + nameLen c + (fileTake c (typedFrame c)).toNat := by omega
      rw [hframe, sealFrame_u32_8] at htotal
      rw [hframe, hframe', ← hp, hn']
      exact sealFrame_agree hagree (by omega) (by omega) _
  have h8 : (packFrame env fs c).sendBuffer.u32 8 = (packFrame env gs d).sendBuffer.u32 8 := by
    refine Buf.u32_congr (Buf.slice_sub (hbytes _ rfl) (Nat.zero_le 8) ?_)
    omega
  refine ⟨by rw [hsize, hsize', h8], ?_⟩
  rw [hsize]
  exact hbytes _ rfl

theorem packDataWithPacket_send (c : Client) : SameSend c (packDataWithPacket c) := by
  constructor <;> simp only [packDataWithPacket]

theorem sealClient_send (c : Client) : SameSend c (sealClient c) := by
  constructor <;> simp only [sealClient]

/-- Without a file part the transfer stays where it was. -/
theorem packFrame_noFile_send {env : Env} {fs : FS} {c : Client} (h : NoFile env fs c) :
    SameSend c (packFrame env fs c) := by
  rw [packFrame_eq, filledFrame_noFile h]
  exact (packDataWithPacket_send c).trans (sealClient_send _)

/-- The transfers after the same frame. -/
theorem packFrame_same {env : Env} {fs gs : FS} {c d : Client} (h : SameSending c d) (hp : c.packRef = d.packRef)
    (hfs : ∀ name, fs (dbFilePath name) = gs (dbFilePath name)) :
    SameStart (packFrame env fs c) (packFrame env gs d) := by
  have hopens : fopenRead env fs (dbFilePath c.fileSendName.bytes) = fopenRead env gs (dbFilePath d.fileSendName.bytes) := by
    rw [← h.fileSendName]
    unfold fopenRead
    rw [hfs]
  by_cases hfile : NoFile env fs c
  · have hfile' : NoFile env gs d := hfile.imp (fun e => h.fileDataSending ▸ e) (fun e => hopens ▸ e)
    obtain ⟨h1, h2, h3, h4⟩ := packFrame_noFile_send hfile
    obtain ⟨k1, k2, k3, k4⟩ := packFrame_noFile_send hfile'
    refine ⟨by rw [h1, k1, h.fileSendName], by rw [h2, k2, h.fileDataSending], fun hs => ?_⟩
    rw [h2] at hs
    obtain ⟨g1, g2, g3, g4⟩ := h.transfer hs
    exact ⟨by rw [k1, h1, g1], by rw [k2, h2, g2], by rw [k3, h3, g3], by rw [k4, h4, g4]⟩
  · obtain ⟨file, hs, hopen⟩ := file_of_not_noFile hfile
    obtain ⟨h1, h2, h3, h4⟩ := packFrame_next hs hopen
    obtain ⟨k1, k2, k3, k4⟩ := packFrame_next (h.fileDataSending ▸ hs) (hopens ▸ hopen)
    have hsame := h.transfer hs
    have htyped := typedFrame_agree h hp
    have h8 : (typedFrame c).u32 8 = (typedFrame d).u32 8 :=
      Buf.u32_congr (Buf.slice_sub htyped.head (by omega) (by omega))
    have hdone : c.bigDataSendSizeDone + fileTake c (typedFrame c) = d.bigDataSendSizeDone + fileTake d (typedFrame d) := by
      rw [hsame.fileTake, hsame.done]
      unfold fileTake sizeDataCanSend
      rw [h8]
    rw [← hdone, hsame.size] at k4
    exact ⟨by rw [h1, k1, h.fileSendName], by rw [h4, k4],
      fun _ => ⟨by rw [k1, h1, h.fileSendName], by rw [h4, k4], by rw [k2, h2, hsame.size], by rw [k3, h3, hdone]⟩⟩

theorem packFrame_sendDone (env : Env) (fs : FS) (c : Client) : (packFrame env fs c).sendDone = c.sendDone :=
  (packFrame_only env fs c).sendDone

/-- **Two slots that have sent the same frame.** -/
theorem sentFrame_alike {env : Env} {fs gs : FS} {c d : Client} (h : SameSending c d) (hp : c.packRef = d.packRef)
    (hfs : ∀ name, fs (dbFilePath name) = gs (dbFilePath name)) (hw : FrameWhole env fs c) :
    SameSending (afterSend (packFrame env fs c)) (afterSend (packFrame env gs d)) := by
  obtain ⟨hsize, hbytes⟩ := packFrame_agree h hp hfs hw
  obtain ⟨hname, hsend, htrans⟩ := @packFrame_same env fs gs c d h hp hfs
  have hlen := packFrame_sendDataSize h.leftOk hw.small
  have hdone : (packFrame env fs c).sendDone = (packFrame env gs d).sendDone := by
    rw [packFrame_sendDone, packFrame_sendDone, h.sendDone]
  have h12 : dataSizeLen = 12 := rfl
  generalize packFrame env fs c = f at hsize hbytes hname hsend htrans hlen hdone ⊢
  generalize packFrame env gs d = g at hsize hbytes hname hsend htrans hdone ⊢
  have hstale : f.sendBuffer.slice 4 8 = g.sendBuffer.slice 4 8 := Buf.slice_sub hbytes (Nat.zero_le 4) (by omega)
  refine ⟨hdone, rfl, hsize, hname, hsend, fun hs => ?_, queueOk_empty rfl, queueOk_empty rfl, rfl, hbytes, hstale⟩
  obtain ⟨h1, h2, h3, h4⟩ := htrans hs
  exact ⟨h1, h2, h3, h4⟩

end StarServer.Socket

/-
  StarServer.Socket.FileTransfer — a file from `STSV_SendDBFile` over any number of
  frames to `_ProessMessageFileData`.

  The sender finds the file part at `sizeAll + 12`, the receiver at the sum of the size
  table plus 16 and the table itself; both are `sumSize + 12`. What the frames carry is
  exact: after every frame the receiver's file is the prefix the sender has counted, and
  the name is the name sent. Only the last flag goes wrong. The sender ORs END to HEADER
  or CONTINUE, the receiver compares with `==`, and `fileDataReady` is never set.

  Proved:
    * `file_delivered`: bytes and name arrive, and the file is not ready after any frame;
    * `file_never_ready`: so no transfer at all is a round trip;
    * `file_transfer_fails`: the run with a file of one byte.
-/

import StarServer.Socket.FileFrame
import StarServer.Socket.RoundTrip

namespace StarServer.Socket

open StarServer.Memory

/-! ## Starting a transfer -/

theorem overlay_append {old rest new : List Byte} (h : new.length ≤ old.length) :
    overlay (old ++ rest) new = overlay old new ++ rest := by
  unfold overlay
  rw [List.take_of_length_le (by simp only [List.length_append]; omega), List.take_of_length_le h,
    List.drop_append_of_le_length h, List.append_assoc]

theorem ofLE_toLE4 (v : BitVec 32) : BitVec.ofNat 32 (ofLE (toLE 4 v.toNat)) = v := by
  apply BitVec.eq_of_toNat_eq
  have := v.isLt
  rw [ofLE_toLE, BitVec.toNat_ofNat]
  omega

theorem sendFlags_read (c : Client) :
    ((sendFlags c).getD 0 0 ≠ 0) = (c.fileDataSending = true) ∧
      BitVec.ofNat 32 (ofLE (((sendFlags c).drop 2).take 4)) = c.bigDataSendSize ∧
      BitVec.ofNat 32 (ofLE (((sendFlags c).drop 6).take 4)) = c.bigDataSendSizeDone := by
  have hsize : ((sendFlags c).drop 2).take 4 = toLE 4 c.bigDataSendSize.toNat := by
    unfold sendFlags
    simp
  have hdone : ((sendFlags c).drop 6).take 4 = toLE 4 c.bigDataSendSizeDone.toNat := by
    have hlen : (toLE 4 c.bigDataSendSizeDone.toNat).length = 4 := length_toLE 4 _
    have hdrop : (sendFlags c).drop 6 = toLE 4 c.bigDataSendSizeDone.toNat := by
      unfold sendFlags
      simp
    rw [hdrop, List.take_of_length_le (by omega)]
  refine ⟨?_, ?_, ?_⟩
  · unfold sendFlags
    cases c.fileDataSending <;> simp
  · rw [hsize, ofLE_toLE4]
  · rw [hdone, ofLE_toLE4]

/-- A name that fits spills nothing. -/
theorem sprintf_short {c : Client} {s : List Byte} (h : s.length ≤ 31) :
    sprintfFileSendName c s = { c with fileSendName := .ofList (overlay c.fileSendName.bytes (s ++ [0])) } := by
  have hname : c.fileSendName.bytes.length = 32 := c.fileSendName.len
  have hs : (s ++ [(0 : Byte)]).length ≤ c.fileSendName.bytes.length := by
    rw [List.length_append, hname, List.length_singleton]
    omega
  have hover : (overlay c.fileSendName.bytes (s ++ [0])).length = 32 := by rw [length_overlay, hname]
  obtain ⟨hflag, hsize, hdone⟩ := sendFlags_read c
  unfold sprintfFileSendName sendFields
  rw [overlay_append hs]
  generalize overlay c.fileSendName.bytes (s ++ [0]) = o at hover ⊢
  have htake : (o ++ sendFlags c).take 32 = o := by
    rw [List.take_append_of_le_length (by omega), List.take_of_length_le (by omega)]
  have hget : (o ++ sendFlags c).getD 32 0 = (sendFlags c).getD 0 0 := by
    rw [List.getD_append_right _ _ _ _ (by omega), hover]
  have hdropSize : (o ++ sendFlags c).drop 34 = (sendFlags c).drop 2 := by
    rw [List.drop_append, List.drop_of_length_le (by omega), hover, List.nil_append]
  have hdropDone : (o ++ sendFlags c).drop 38 = (sendFlags c).drop 6 := by
    rw [List.drop_append, List.drop_of_length_le (by omega), hover, List.nil_append]
  simp only [htake, hget, hdropSize, hdropDone, hsize, hdone, hflag, Bool.decide_eq_true]

/-- A slot that is sending a file of that name and content, or has just sent its end, and
    has counted `done` bytes of it. -/
structure SendState (c : Client) (name content : List Byte) (done : Nat) : Prop where
  queue : QueueOk c
  named : Named c.fileSendName name
  size : c.bigDataSendSize = BitVec.ofNat 32 content.length
  sizeDone : c.bigDataSendSizeDone = BitVec.ofNat 32 done
  le : done ≤ content.length

theorem stsvSendDBFile_starts {env : Env} {fs : FS} {c : Client} {name content : List Byte} (hq : QueueOk c)
    (hidle : c.fileDataSending = false) (h0 : 0 ∉ name) (hlen : name.length ≤ 31)
    (hopen : fopenRead env fs (dbFilePath name) = some content) :
    SendState (stsvSendDBFile env fs c name) name content 0 := by
  unfold stsvSendDBFile
  rw [hidle, if_neg (by decide), hopen]
  simp only
  rw [(cstr_nul_free h0).1, sprintf_short hlen]
  have hcount : (sprintfFileSendName c (dbFilePath name)).sendCount = c.sendCount := rfl
  have hsizes : (sprintfFileSendName c (dbFilePath name)).sendBufferMSGSize = c.sendBufferMSGSize := rfl
  generalize sprintfFileSendName c (dbFilePath name) = c1 at hcount hsizes
  refine ⟨⟨?_, ?_⟩, overlay_named c1.fileSendName h0 hlen, rfl, rfl, Nat.zero_le _⟩
  · show c1.sendCount ≤ 62
    rw [hcount]
    exact hq.count
  · show ∀ i < c1.sendCount, c1.sendBufferMSGSize i ≤ 1024
    rw [hcount, hsizes]
    exact hq.sizes

theorem stsvSendDBFile_sending {env : Env} {fs : FS} {c : Client} {name content : List Byte}
    (hidle : c.fileDataSending = false) (h0 : 0 ∉ name) (hlen : name.length ≤ 31)
    (hopen : fopenRead env fs (dbFilePath name) = some content) :
    (stsvSendDBFile env fs c name).fileDataSending = true := by
  unfold stsvSendDBFile
  rw [hidle, if_neg (by decide), hopen]
  simp only
  rw [(cstr_nul_free h0).1, sprintf_short hlen]

/-! ## A file frame, as the receiver reads it -/

/-- What a receiver uses of a frame with `data` as its file bytes. -/
structure SentFile (c : Client) (data : List Byte) (b : Buf) : Prop where
  sizeAll : (b.u32 8).toNat = sumSize c + 8 + nameLen c + data.length
  count : b.u16 14 = BitVec.ofNat 16 c.sendCount
  table : b.slice 16 (2 * c.sendCount) = words (entries (0, 0) (queue c))
  flags : b.u32 (sumSize c + 12) = startFlag c ||| endFlag c (typedFrame c)
  name : b.slice (sumSize c + 20) (nameLen c) = c.fileSendName.bytes.take (nameLen c)
  bytes : b.slice (sumSize c + 20 + nameLen c) data.length = data

/-- Only bytes of the frame itself are used. -/
theorem SentFile.congr {c : Client} {data : List Byte} {b b' : Buf} (h : SentFile c data b)
    (hb : b'.slice 0 (dataSizeLen + (b.u32 8).toNat) = b.slice 0 (dataSizeLen + (b.u32 8).toNat)) :
    SentFile c data b' := by
  obtain ⟨h1, h2, h3, h4, h5, h6⟩ := h
  have h12 : dataSizeLen = 12 := rfl
  have hsum : sumSize c = queueBytes c + 2 * c.sendCount + 4 := rfl
  have hsub : ∀ a n, a + n ≤ sumSize c + 20 + nameLen c + data.length → b'.slice a n = b.slice a n := by
    intro a n ha
    exact Buf.slice_sub hb (Nat.zero_le _) (by omega)
  refine ⟨?_, ?_, ?_, ?_, ?_, ?_⟩
  · rw [Buf.u32_congr (hsub 8 4 (by omega)), h1]
  · rw [Buf.u16_congr (hsub 14 2 (by omega)), h2]
  · rw [hsub _ _ (by omega), h3]
  · rw [Buf.u32_congr (hsub _ 4 (by omega)), h4]
  · rw [hsub _ _ (by omega), h5]
  · rw [hsub _ _ (by omega), h6]

theorem packFrame_sent {env : Env} {fs : FS} {c : Client} {file : List Byte} (hq : QueueOk c)
    (hs : c.fileDataSending = true) (hopen : fopenRead env fs (dbFilePath c.fileSendName.bytes) = some file)
    (hr : (sendRest c).toNat < 2 ^ 31) (hle : c.bigDataSendSizeDone.toNat + frameTake c ≤ file.length) :
    SentFile c ((file.drop c.bigDataSendSizeDone.toNat).take (frameTake c)) (packFrame env fs c).sendBuffer := by
  have hall := packFrame_size hq hs hopen hr
  obtain ⟨h, hp, hframe⟩ := packFrame_file hq hs hopen
  obtain ⟨-, htake⟩ := take_eq hq hr
  have h12 : dataSizeLen = 12 := rfl
  have hsum : sumSize c = queueBytes c + 2 * c.sendCount + 4 := rfl
  have hbody := sumSize_eq c
  have hlen : ((file.drop c.bigDataSendSizeDone.toNat).take (frameTake c)).length = frameTake c := by
    rw [List.length_take, List.length_drop]
    omega
  have hbytes : fileBytes c file (typedFrame c) = (file.drop c.bigDataSendSizeDone.toNat).take (frameTake c) := by
    unfold fileBytes freadAt
    rw [htake]
  have hpart := hp.bytes
  rw [hbytes, hlen] at hpart
  refine ⟨?_, ?_, ?_, ?_, ?_, ?_⟩
  · rw [hall, hlen]
  · have hslice : (sealFrame h c.packRef).slice 14 2 = (packDataWithPacket c).sendBuffer.slice 14 2 := by
      rw [sealFrame_slice (by omega), hp.out _ _ (by omega), typedFrame_slice c (by omega)]
    rw [hframe, Buf.u16_congr hslice]
    exact (pack_fields hq).numData
  · have htab := pack_body hq
    have hsplit : (packBody c).length = 2 * c.sendCount + (payload (queue c)).length := by simp [packBody]
    rw [hsplit, Buf.slice_add] at htab
    obtain ⟨htab, -⟩ := List.append_inj htab (by simp)
    rw [hframe, sealFrame_slice (by omega), hp.out _ _ (by omega), typedFrame_slice c (by omega)]
    exact htab
  · rw [hframe, Buf.u32_congr (sealFrame_slice (by omega))]
    exact hp.flags
  · rw [hframe, sealFrame_slice (by omega)]
    exact hp.name
  · rw [hframe, sealFrame_slice (by omega), hlen]
    exact hpart

/-! ## The receiver's offsets -/

/-- The receiver's `u16` sum of the table. -/
theorem sum_entries (es : List (BitVec 16)) (acc : BitVec 16) :
    (es.foldl (fun sum e => sum + (e &&& 0x7ff)) acc).toNat = (acc.toNat + tableBytes es) % 65536 := by
  induction es generalizing acc with
  | nil =>
    have := acc.isLt
    simp only [List.foldl_nil, tableBytes, List.map_nil, List.sum_nil]
    omega
  | cons e es ih =>
    have hadd : (acc + (e &&& 0x7ff)).toNat = (acc.toNat + entryLen e) % 65536 := BitVec.toNat_add _ _
    rw [List.foldl_cons, ih, hadd]
    simp only [tableBytes, List.map_cons, List.sum_cons]
    omega

theorem SentFile.sizeTable {c : Client} {data : List Byte} {b : Buf} (hq : QueueOk c) (h : SentFile c data b) :
    numData b = c.sendCount ∧ sizeTable b c.sendCount = entries (0, 0) (queue c) := by
  have hle := hq.count
  have hlen : (entries (0, 0) (queue c)).length = c.sendCount := by simp
  have htab := h.table
  rw [← hlen] at htab
  have hread := Buf.u16s_of_slice htab
  rw [hlen] at hread
  refine ⟨?_, hread⟩
  unfold numData
  rw [h.count, BitVec.toInt_eq_toNat_of_lt]
  · rw [BitVec.toNat_ofNat]
    omega
  · rw [BitVec.toNat_ofNat]
    omega

/-- The receiver finds the file part where the sender put it. -/
theorem SentFile.start {c : Client} {data : List Byte} {b : Buf} (hq : QueueOk c) (h : SentFile c data b) :
    (packetDataSize b).toNat = sumSize c + 12 := by
  obtain ⟨hn, htable⟩ := h.sizeTable hq
  have hle := sumSize_le hq
  have hsum : sumSize c = queueBytes c + 2 * c.sendCount + 4 := rfl
  have h16 : packDataLen = 16 := rfl
  have hsizes : tableBytes (entries (0, 0) (queue c)) = queueBytes c := by
    have hlens : (entries (0, 0) (queue c)).map entryLen = (queue c).map (·.1.length) :=
      @entries_lengths (queue c) (queue_sizes hq) 0 0
    unfold tableBytes
    rw [hlens, queueBytes_eq, length_payload]
  have hfold := sum_entries (entries (0, 0) (queue c)) 0
  rw [hsizes] at hfold
  have htail : (BitVec.ofInt 16 (packDataLen + 2 * (c.sendCount : Int))).toNat = 16 + 2 * c.sendCount := by
    have hcount := hq.count
    rw [BitVec.toNat_ofInt, h16]
    omega
  unfold packetDataSize
  rw [hn, Int.toNat_natCast, htable, BitVec.toNat_add, hfold, htail]
  have h0 : (0 : BitVec 16).toNat = 0 := rfl
  omega

/-- And its size. -/
theorem SentFile.packSize {c : Client} {data : List Byte} {b : Buf} (hq : QueueOk c) (h : SentFile c data b)
    (hd : data.length < 2 ^ 31 - 65536) : bigDataPackSize b = BitVec.ofNat 64 (nameLen c + data.length) := by
  have hstart := h.start hq
  have hle := sumSize_le hq
  have hn := nameLen_le c
  have hall := h.sizeAll
  have hint : (b.u32 8).toInt = sumSize c + 8 + nameLen c + data.length := by
    rw [BitVec.toInt_eq_toNat_of_lt (by omega), hall]
    push_cast
    rfl
  unfold bigDataPackSize
  rw [hint, hstart]
  apply BitVec.eq_of_toNat_eq
  have h8 : (8 : BitVec 64).toNat = 8 := rfl
  have h12 : dataSizeLen = 12 := rfl
  rw [BitVec.toNat_sub, BitVec.toNat_add, BitVec.toNat_ofInt, BitVec.toNat_ofNat, BitVec.toNat_ofNat, h8, h12]
  omega

/-! ## One frame at the receiver -/

theorem flags_first {c : Client} (b : Buf) (h : c.bigDataSendSizeDone = 0) :
    (startFlag c ||| endFlag c b) &&& StSockMsg.bigdataHeader ≠ 0 := by
  unfold startFlag endFlag
  rw [if_pos h]
  split <;> decide

theorem flags_next {c : Client} (b : Buf) (h : c.bigDataSendSizeDone ≠ 0) :
    ¬ (startFlag c ||| endFlag c b) &&& StSockMsg.bigdataHeader ≠ 0 ∧
      (startFlag c ||| endFlag c b) &&& StSockMsg.bigdataContinue ≠ 0 := by
  unfold startFlag endFlag
  rw [if_neg h]
  split <;> decide

/-- END never stands alone. -/
theorem flags_ne_end (c : Client) (b : Buf) : startFlag c ||| endFlag c b ≠ StSockMsg.bigdataEnd := by
  unfold startFlag endFlag
  split <;> split <;> decide

theorem finishFileData_ready {c : Client} {file : Option FS} {fs : FS} {start skip : Nat}
    (h : c.recvBuffer.u32 start ≠ StSockMsg.bigdataEnd) :
    (finishFileData c file fs start skip).2.1.fileDataReady = c.fileDataReady := by
  unfold finishFileData writeUpload
  cases file with
  | none =>
    simp only
    rw [if_neg h]
  | some fs' =>
    simp only
    rw [if_neg h]

/-- **No frame of the sender's makes the file ready.** -/
theorem receive_ready {renv : Env} {fs : FS} {r c : Client} {data : List Byte} (hq : QueueOk c)
    (h : SentFile c data r.recvBuffer) :
    (proessMessageFileData renv fs r).2.1.fileDataReady = if c.bigDataSendSizeDone = 0 then false else r.fileDataReady := by
  have hflags : r.recvBuffer.u32 (packetDataSize r.recvBuffer).toNat = startFlag c ||| endFlag c (typedFrame c) := by
    rw [h.start hq]
    exact h.flags
  have hend := flags_ne_end c (typedFrame c)
  rw [← hflags] at hend
  unfold proessMessageFileData
  simp only
  by_cases h0 : c.bigDataSendSizeDone = 0
  · have hfirst := flags_first (typedFrame c) h0
    rw [← hflags] at hfirst
    rw [if_pos hfirst, if_pos h0]
    split
    · rfl
    · exact @finishFileData_ready (beginFileData r (packetDataSize r.recvBuffer).toNat) _ _ _ _ hend
  · obtain ⟨hno, hcont⟩ := flags_next (typedFrame c) h0
    rw [← hflags] at hno hcont
    rw [if_neg hno, if_pos (Or.inl hcont), if_neg h0, finishFileData_ready hend]

/-- The file `finishFileData` leaves when it has one. -/
theorem finishFileData_file {c : Client} {fs1 fs : FS} {start skip : Nat} :
    (finishFileData c (some fs1) fs start skip).2.2 (fileDataPath c) =
      some ((fs1 (fileDataPath c)).getD [] ++ c.recvBuffer.slice (start + 8 + skip)
        (bigDataPackSize c.recvBuffer - BitVec.ofNat 64 skip).toNat) := by
  unfold finishFileData writeUpload fwriteEnd
  simp only
  rw [Function.update_self]

theorem fileDataPath_congr {c d : Client} (hidx : d.idx = c.idx) (hname : d.fileDataName = c.fileDataName)
    (hsend : d.fileSendName = c.fileSendName) (hflag : d.fileDataSending = c.fileDataSending) :
    fileDataPath d = fileDataPath c := by
  unfold fileDataPath fileDataNameStr
  rw [hidx, hname, hsend, hflag]

theorem finishFileData_name {c : Client} {file : Option FS} {fs : FS} {start skip : Nat} :
    (finishFileData c file fs start skip).2.1.fileDataName = c.fileDataName := by
  unfold finishFileData writeUpload
  cases file with
  | none =>
    simp only
    split <;> rfl
  | some fs' =>
    simp only
    split <;> rfl

theorem finishFileData_path {c : Client} {file : Option FS} {fs : FS} {start skip : Nat} :
    (finishFileData c file fs start skip).2.1.fileDataName = c.fileDataName ∧
      fileDataPath (finishFileData c file fs start skip).2.1 = fileDataPath c := by
  have hname := @finishFileData_name c file fs start skip
  have honly := finishFileData_only c file fs start skip
  generalize (finishFileData c file fs start skip).2.1 = d at hname honly
  unfold OnlyUploaded at honly
  refine ⟨hname, fileDataPath_congr ?_ hname ?_ ?_⟩
  · rw [honly]
    rfl
  · rw [honly]
    rfl
  · rw [honly]
    rfl

/-- The first frame starts the file and names it. -/
theorem receive_first {renv : Env} {fs : FS} {r c : Client} {data : List Byte} (hq : QueueOk c)
    (h : SentFile c data r.recvBuffer) (hd : data.length < 2 ^ 31 - 65536) (h0 : c.bigDataSendSizeDone = 0)
    (hopen : ∀ p, renv.canOpen p = true) :
    (proessMessageFileData renv fs r).2.1.fileDataName = c.fileSendName ∧
      (proessMessageFileData renv fs r).2.2 (fileDataPath (proessMessageFileData renv fs r).2.1) = some data := by
  have hstart := h.start hq
  have hflags : r.recvBuffer.u32 (packetDataSize r.recvBuffer).toNat = startFlag c ||| endFlag c (typedFrame c) := by
    rw [hstart]
    exact h.flags
  have hfirst := flags_first (typedFrame c) h0
  rw [← hflags] at hfirst
  have hn : nameLen c = 32 := if_pos h0
  have hname := h.name
  have hbytes := h.bytes
  have hsize := h.packSize hq hd
  rw [hn] at hname hbytes hsize
  rw [List.take_of_length_le (Nat.le_of_eq c.fileSendName.len)] at hname
  have hopen' : fopenWrite renv fs (fileDataPath (beginFileData r (packetDataSize r.recvBuffer).toNat)) =
      some (Function.update fs (fileDataPath (beginFileData r (packetDataSize r.recvBuffer).toNat)) (some [])) :=
    if_pos (hopen _)
  have hskip : (bigDataPackSize r.recvBuffer - BitVec.ofNat 64 32).toNat = data.length := by
    rw [hsize, BitVec.toNat_sub, BitVec.toNat_ofNat, BitVec.toNat_ofNat]
    omega
  have hcall : proessMessageFileData renv fs r = finishFileData (beginFileData r (packetDataSize r.recvBuffer).toNat)
      (some (Function.update fs (fileDataPath (beginFileData r (packetDataSize r.recvBuffer).toNat)) (some []))) fs
      (packetDataSize r.recvBuffer).toNat 32 := by
    unfold proessMessageFileData
    simp only
    rw [if_pos hfirst, hopen']
  obtain ⟨hnm, hpath⟩ := @finishFileData_path (beginFileData r (packetDataSize r.recvBuffer).toNat)
    (some (Function.update fs (fileDataPath (beginFileData r (packetDataSize r.recvBuffer).toNat)) (some []))) fs
    (packetDataSize r.recvBuffer).toNat 32
  rw [hcall, hpath, hnm, finishFileData_file, Function.update_self]
  refine ⟨?_, ?_⟩
  · show Name32.ofList (r.recvBuffer.slice ((packetDataSize r.recvBuffer).toNat + 8) 32) = c.fileSendName
    rw [hstart, hname, Name32.ofList_self]
  · show some ([] ++ r.recvBuffer.slice ((packetDataSize r.recvBuffer).toNat + 8 + 32)
      (bigDataPackSize r.recvBuffer - BitVec.ofNat 64 32).toNat) = some data
    rw [hskip, hstart, List.nil_append]
    exact congrArg some hbytes

/-- A later one appends to it. -/
theorem receive_next {renv : Env} {fs : FS} {r c : Client} {data : List Byte} (hq : QueueOk c)
    (h : SentFile c data r.recvBuffer) (hd : data.length < 2 ^ 31 - 65536) (h0 : c.bigDataSendSizeDone ≠ 0)
    (hopen : ∀ p, renv.canOpen p = true) :
    (proessMessageFileData renv fs r).2.1.fileDataName = r.fileDataName ∧
      (proessMessageFileData renv fs r).2.2 (fileDataPath (proessMessageFileData renv fs r).2.1) =
        some ((fs (fileDataPath r)).getD [] ++ data) := by
  have hstart := h.start hq
  have hflags : r.recvBuffer.u32 (packetDataSize r.recvBuffer).toNat = startFlag c ||| endFlag c (typedFrame c) := by
    rw [hstart]
    exact h.flags
  obtain ⟨hno, hcont⟩ := flags_next (typedFrame c) h0
  rw [← hflags] at hno hcont
  have hn : nameLen c = 0 := if_neg h0
  have hbytes := h.bytes
  have hsize := h.packSize hq hd
  rw [hn] at hbytes hsize
  have hskip : (bigDataPackSize r.recvBuffer - BitVec.ofNat 64 0).toNat = data.length := by
    rw [hsize, BitVec.toNat_sub, BitVec.toNat_ofNat, BitVec.toNat_ofNat]
    omega
  have hopen' : fopenAppend renv fs (fileDataPath r) =
      some (Function.update fs (fileDataPath r) (some ((fs (fileDataPath r)).getD []))) := if_pos (hopen _)
  have hcall : proessMessageFileData renv fs r = finishFileData r
      (some (Function.update fs (fileDataPath r) (some ((fs (fileDataPath r)).getD [])))) fs
      (packetDataSize r.recvBuffer).toNat 0 := by
    unfold proessMessageFileData
    simp only
    rw [if_neg hno, if_pos (Or.inl hcont), hopen']
  obtain ⟨hnm, hpath⟩ := @finishFileData_path r
    (some (Function.update fs (fileDataPath r) (some ((fs (fileDataPath r)).getD [])))) fs
    (packetDataSize r.recvBuffer).toNat 0
  rw [hcall, hpath, hnm, finishFileData_file, Function.update_self, hskip, hstart]
  exact ⟨rfl, congrArg (fun l => some ((fs (fileDataPath r)).getD [] ++ l)) hbytes⟩

/-! ## The sender from frame to frame -/

/-- The slot after `EndPackSendData` has written its frame. -/
def afterSend (c : Client) : Client := { c with recvCount := 0, sendCount := 0, curPacketNo := 0 }

/-- What the packers make of the transfer's own fields. -/
structure NextSend (c f : Client) (done : BitVec 32) : Prop where
  name : f.fileSendName = c.fileSendName
  size : f.bigDataSendSize = c.bigDataSendSize
  sizeDone : f.bigDataSendSizeDone = done
  sending : f.fileDataSending = decide (done ≠ c.bigDataSendSize)

theorem finishFileSend_next {c : Client} (hs : c.fileDataSending = true) (b : Buf) (head : Nat) (done : BitVec 32) :
    NextSend c (finishFileSend c b head done) done := by
  unfold finishFileSend
  by_cases h : done = c.bigDataSendSize
  · rw [if_pos h]
    exact ⟨rfl, rfl, rfl, (decide_eq_false fun hne => hne h).symm⟩
  · rw [if_neg h]
    exact ⟨rfl, rfl, rfl, hs.trans (decide_eq_true h).symm⟩

theorem sealClient_next {c d : Client} {done : BitVec 32} (h : NextSend c d done) : NextSend c (sealClient d) done := by
  unfold sealClient
  exact ⟨h.name, h.size, h.sizeDone, h.sending⟩

theorem packFrame_next {env : Env} {fs : FS} {c : Client} {file : List Byte} (hs : c.fileDataSending = true)
    (hopen : fopenRead env fs (dbFilePath c.fileSendName.bytes) = some file) :
    NextSend c (packFrame env fs c) (c.bigDataSendSizeDone + fileTake c (typedFrame c)) := by
  have hbig := @packDataWithBigData_some env fs (packDataWithPacket c) file hopen (typedFrame c) rfl
  have hfill : filledFrame env fs c = packDataWithBigData env fs (packDataWithPacket c) := if_pos hs
  have hsame : SameSend c (packDataWithPacket c) := ⟨rfl, rfl, rfl, rfl⟩
  have hnext := @finishFileSend_next (packDataWithPacket c) hs
    (putFilePart (packDataWithPacket c) file (typedFrame c) (((typedFrame c).u32 8).toNat + dataSizeLen))
    (((typedFrame c).u32 8).toNat + dataSizeLen)
    ((packDataWithPacket c).bigDataSendSizeDone + fileTake (packDataWithPacket c) (typedFrame c))
  rw [← hbig, ← hfill, hsame.fileTake, hsame.done] at hnext
  rw [packFrame_eq]
  obtain ⟨h1, h2, h3, h4⟩ := sealClient_next hnext
  rw [hsame.name] at h1
  rw [hsame.size] at h2 h4
  exact ⟨h1, h2, h3, h4⟩

/-- The slot with a queue behind it, in the same state of the same transfer. -/
theorem SendState.queued {c : Client} {name content : List Byte} {done : Nat} (h : SendState c name content done)
    (ms : List (List Byte)) : SendState (ms.foldl stsvSendData c) name content done := by
  obtain ⟨hname, -, hsize, hdone⟩ := sendAll_same c ms
  refine ⟨?_, hname ▸ h.named, hsize.trans h.size, hdone.trans h.sizeDone, h.le⟩
  have hall : ∀ (ms : List (List Byte)) (c : Client), QueueOk c → QueueOk (ms.foldl stsvSendData c) := by
    intro ms
    induction ms with
    | nil => exact fun _ hc => hc
    | cons m ms ih => exact fun c hc => ih _ (sendData_ok hc m)
  exact hall ms c h.queue

theorem SendState.rest {c : Client} {name content : List Byte} {done : Nat} (h : SendState c name content done)
    (hlen : content.length < 2 ^ 31) : (sendRest c).toNat = content.length - done ∧ c.bigDataSendSizeDone.toNat = done := by
  have hle := h.le
  unfold sendRest
  rw [h.size, h.sizeDone, BitVec.toNat_sub, BitVec.toNat_ofNat, BitVec.toNat_ofNat]
  omega

theorem SendState.opens {env : Env} {fs : FS} {c : Client} {name content : List Byte} {done : Nat}
    (h : SendState c name content done) (h0 : 0 ∉ name) (hopen : fopenRead env fs (dbFilePath name) = some content) :
    fopenRead env fs (dbFilePath c.fileSendName.bytes) = some content := by
  have hpath : dbFilePath c.fileSendName.bytes = dbFilePath name := by
    unfold dbFilePath
    rw [h.named.str, (cstr_nul_free h0).1]
  rw [hpath, hopen]

/-- One frame on: `done` grows by what the frame takes, and the transfer is over exactly
    when nothing is left. -/
theorem SendState.next {env : Env} {fs : FS} {c : Client} {name content : List Byte} {done : Nat}
    (h : SendState c name content done) (hs : c.fileDataSending = true) (h0 : 0 ∉ name)
    (hlen : content.length < 2 ^ 31) (hopen : fopenRead env fs (dbFilePath name) = some content)
    (hroom : sumSize c < 61440) :
    SendState (afterSend (packFrame env fs c)) name content (done + frameTake c) ∧
      ((afterSend (packFrame env fs c)).fileDataSending = false ↔ done + frameTake c = content.length) ∧
      (done + frameTake c ≠ content.length → done + frameTake c ≠ 0) := by
  have hle := h.le
  obtain ⟨hrest, hdone⟩ := h.rest hlen
  obtain ⟨htake, -⟩ := take_eq h.queue (show (sendRest c).toNat < 2 ^ 31 by omega)
  have hframe : frameTake c = min (content.length - done) (61440 - sumSize c) := by
    unfold frameTake
    rw [if_pos (Nat.le_of_lt hroom), hrest]
  obtain ⟨h1, h2, h3, h4⟩ := packFrame_next hs (h.opens h0 hopen)
  have hnext : c.bigDataSendSizeDone + fileTake c (typedFrame c) = BitVec.ofNat 32 (done + frameTake c) := by
    apply BitVec.eq_of_toNat_eq
    rw [BitVec.toNat_add, htake, hdone, BitVec.toNat_ofNat]
  have hend : BitVec.ofNat 32 (done + frameTake c) = BitVec.ofNat 32 content.length ↔ done + frameTake c = content.length := by
    constructor
    · intro he
      have := congrArg BitVec.toNat he
      rw [BitVec.toNat_ofNat, BitVec.toNat_ofNat] at this
      omega
    · exact fun he => congrArg _ he
  rw [hnext] at h3 h4
  rw [h.size] at h4
  refine ⟨⟨⟨Nat.zero_le _, fun i hi => absurd hi (Nat.not_lt_zero i)⟩, ?_, h2.trans h.size, h3, by omega⟩, ?_, ?_⟩
  · show Named (packFrame env fs c).fileSendName name
    rw [h1]
    exact h.named
  · show (packFrame env fs c).fileDataSending = false ↔ _
    rw [h4, decide_eq_false_iff_not, Classical.not_not]
    exact hend
  · omega

/-! ## Transfers -/

theorem placed_keeps (r f : Client) : fileDataPath (placed r f) = fileDataPath r ∧
    (placed r f).fileDataName = r.fileDataName ∧ (placed r f).fileDataReady = r.fileDataReady := by
  unfold placed
  exact ⟨fileDataPath_congr rfl rfl rfl rfl, rfl, rfl⟩

/-- The two ends of a transfer, and the receiver's files. -/
structure Transfer where
  sender : Client
  receiver : Client
  files : FS

/-- One `EndPackSendData` of the sender, with messages queued for it, and the frame's body
    at the receiver. -/
def transferRound (env renv : Env) (fs : FS) (t : Transfer) (ms : List (List Byte)) : Transfer :=
  let f := packFrame env fs (ms.foldl stsvSendData t.sender)
  let r := proessMessageFileData renv t.files (placed t.receiver f)
  ⟨afterSend f, r.2.1, r.2.2⟩

variable (env renv : Env) (fs : FS)

theorem transferRound_eq {t : Transfer} {ms : List (List Byte)} {c : Client} (hc : ms.foldl stsvSendData t.sender = c) :
    transferRound env renv fs t ms = ⟨afterSend (packFrame env fs c),
      (proessMessageFileData renv t.files (placed t.receiver (packFrame env fs c))).2.1,
      (proessMessageFileData renv t.files (placed t.receiver (packFrame env fs c))).2.2⟩ := by
  subst hc
  rfl

/-- The queues sent along with the file, one for each of its frames: each leaves room, and
    with the last the transfer is over. -/
def Rounds : Transfer → List (List (List Byte)) → Prop
  | t, [] => t.sender.fileDataSending = false
  | t, ms :: qs => t.sender.fileDataSending = true ∧ sumSize (ms.foldl stsvSendData t.sender) < 61440 ∧
      Rounds (transferRound env renv fs t ms) qs

/-- The transfer is the round trip it should be. -/
structure FileRoundTrip (t : Transfer) (name content : List Byte) (qs : List (List (List Byte))) : Prop where
  file : (qs.foldl (transferRound env renv fs) t).files (fileDataPath (qs.foldl (transferRound env renv fs) t).receiver) =
    some content
  name : fileDataNameStr (qs.foldl (transferRound env renv fs) t).receiver = name
  early : ∀ k, 0 < k → k < qs.length →
    ((qs.take k).foldl (transferRound env renv fs) t).receiver.fileDataReady = false
  ready : (qs.foldl (transferRound env renv fs) t).receiver.fileDataReady = true

variable {env renv : Env} {fs : FS}

/-- The frame of one round at the receiver. -/
theorem round_sent {c r : Client} {name content : List Byte} {done : Nat} (h : SendState c name content done)
    (hs : c.fileDataSending = true) (h0 : 0 ∉ name) (hlen : content.length < 2 ^ 31)
    (hopen : fopenRead env fs (dbFilePath name) = some content) (hroom : sumSize c < 61440) :
    SentFile c ((content.drop done).take (frameTake c)) (placed r (packFrame env fs c)).recvBuffer := by
  have hle := h.le
  obtain ⟨hrest, hdone⟩ := h.rest hlen
  have hframe : frameTake c = min (content.length - done) (61440 - sumSize c) := by
    unfold frameTake
    rw [if_pos (Nat.le_of_lt hroom), hrest]
  have hsent := packFrame_sent h.queue hs (h.opens h0 hopen) (show (sendRest c).toNat < 2 ^ 31 by omega) (by omega)
  rw [hdone] at hsent
  exact hsent.congr (placed_slice r _ (by omega))

/-- Where both ends are after at least one frame. -/
structure Delivered (t : Transfer) (name content : List Byte) (done : Nat) : Prop where
  file : t.files (fileDataPath t.receiver) = some (content.take done)
  named : Named t.receiver.fileDataName name

/-- **One frame**: the receiver's file grows by the bytes the sender counts. -/
theorem round_delivered {t : Transfer} {ms : List (List Byte)} {name content : List Byte} {done : Nat}
    (h : SendState t.sender name content done) (hs : t.sender.fileDataSending = true) (h0 : 0 ∉ name)
    (hlen : content.length < 2 ^ 31) (hopen : fopenRead env fs (dbFilePath name) = some content)
    (hroom : sumSize (ms.foldl stsvSendData t.sender) < 61440) (hrecv : ∀ p, renv.canOpen p = true)
    (hd : done = 0 ∨ Delivered t name content done) :
    Delivered (transferRound env renv fs t ms) name content (done + frameTake (ms.foldl stsvSendData t.sender)) := by
  have hsame := sendAll_same t.sender ms
  have hq := h.queued ms
  generalize hc : ms.foldl stsvSendData t.sender = c at *
  have hs' : c.fileDataSending = true := hsame.sending.trans hs
  obtain ⟨hrest, hdone⟩ := hq.rest hlen
  have hsent := @round_sent env fs c t.receiver _ _ _ hq hs' h0 hlen hopen hroom
  have hle := hq.le
  have hframe : frameTake c = min (content.length - done) (61440 - sumSize c) := by
    unfold frameTake
    rw [if_pos (Nat.le_of_lt hroom), hrest]
  have hdata : ((content.drop done).take (frameTake c)).length < 2 ^ 31 - 65536 := by
    rw [List.length_take, List.length_drop]
    omega
  rw [transferRound_eq env renv fs hc]
  by_cases hz : c.bigDataSendSizeDone = 0
  · have hzero : done = 0 := by
      rw [hz] at hdone
      exact hdone.symm
    obtain ⟨hnm, hfile⟩ := @receive_first renv t.files _ _ _ hq.queue hsent hdata hz hrecv
    generalize proessMessageFileData renv t.files (placed t.receiver (packFrame env fs c)) = r at hnm hfile ⊢
    rw [hzero, List.drop_zero] at hfile
    rw [hzero, Nat.zero_add]
    exact ⟨hfile, hnm ▸ hq.named⟩
  · have hnz : done ≠ 0 := by
      intro he
      apply hz
      rw [hq.sizeDone, he]
      rfl
    have hprev := hd.resolve_left hnz
    obtain ⟨hnm, hfile⟩ := @receive_next renv t.files _ _ _ hq.queue hsent hdata hz hrecv
    obtain ⟨hpath, hplaced, -⟩ := placed_keeps t.receiver (packFrame env fs c)
    rw [hpath, hprev.file, Option.getD_some, ← List.take_add] at hfile
    rw [hplaced] at hnm
    generalize proessMessageFileData renv t.files (placed t.receiver (packFrame env fs c)) = r at hnm hfile ⊢
    exact ⟨hfile, hnm ▸ hprev.named⟩

theorem round_sender {t : Transfer} (ms : List (List Byte)) {name content : List Byte} {done : Nat}
    (h : SendState t.sender name content done) (hs : t.sender.fileDataSending = true) (h0 : 0 ∉ name)
    (hlen : content.length < 2 ^ 31) (hopen : fopenRead env fs (dbFilePath name) = some content)
    (hroom : sumSize (ms.foldl stsvSendData t.sender) < 61440) :
    SendState (transferRound env renv fs t ms).sender name content
        (done + frameTake (ms.foldl stsvSendData t.sender)) ∧
      ((transferRound env renv fs t ms).sender.fileDataSending = false ↔
        done + frameTake (ms.foldl stsvSendData t.sender) = content.length) := by
  have hsame := sendAll_same t.sender ms
  obtain ⟨h1, h2, -⟩ := (h.queued ms).next (hsame.sending.trans hs) h0 hlen hopen hroom
  exact ⟨h1, h2⟩

/-- **A whole transfer**, from any frame on: when the sender has sent its last frame the
    receiver has the whole file, under its name. -/
theorem rounds_delivered {name content : List Byte} (h0 : 0 ∉ name) (hlen : content.length < 2 ^ 31)
    (hopen : fopenRead env fs (dbFilePath name) = some content) (hrecv : ∀ p, renv.canOpen p = true)
    (qs : List (List (List Byte))) : ∀ (t : Transfer) (done : Nat), SendState t.sender name content done →
      Rounds env renv fs t qs → (done = 0 ∧ t.sender.fileDataSending = true) ∨ Delivered t name content done →
      (t.sender.fileDataSending = false → done = content.length) →
      Delivered (qs.foldl (transferRound env renv fs) t) name content content.length := by
  induction qs with
  | nil =>
    intro t done h hr hd hend
    have hover : t.sender.fileDataSending = false := hr
    rcases hd with ⟨-, hs⟩ | hd
    · rw [hover] at hs
      cases hs
    · exact hend hover ▸ hd
  | cons ms qs ih =>
    intro t done h hr hd hend
    obtain ⟨hs, hroom, hrest⟩ := hr
    obtain ⟨hnext, hover⟩ := @round_sender env renv fs t ms _ _ _ h hs h0 hlen hopen hroom
    have hdel := @round_delivered env renv fs t ms _ _ _ h hs h0 hlen hopen hroom hrecv (hd.imp_left And.left)
    exact ih _ _ hnext hrest (Or.inr hdel) hover.mp

/-- **The file is never ready**: not after the last frame, nor after any before it. -/
theorem rounds_ready {name content : List Byte} (h0 : 0 ∉ name) (hlen : content.length < 2 ^ 31)
    (hopen : fopenRead env fs (dbFilePath name) = some content) (qs : List (List (List Byte))) :
    ∀ (t : Transfer) (done : Nat), SendState t.sender name content done → Rounds env renv fs t qs →
      (done = 0 ∧ t.sender.fileDataSending = true) ∨ t.receiver.fileDataReady = false →
      (qs.foldl (transferRound env renv fs) t).receiver.fileDataReady = false := by
  induction qs with
  | nil =>
    intro t done h hr hd
    have hover : t.sender.fileDataSending = false := hr
    rcases hd with ⟨-, hs⟩ | hd
    · rw [hover] at hs
      cases hs
    · exact hd
  | cons ms qs ih =>
    intro t done h hr hd
    obtain ⟨hs, hroom, hrest⟩ := hr
    obtain ⟨hnext, -⟩ := @round_sender env renv fs t ms _ _ _ h hs h0 hlen hopen hroom
    have hq := h.queued ms
    have hs' := (sendAll_same t.sender ms).sending.trans hs
    have hsent := @round_sent env fs _ t.receiver _ _ _ hq hs' h0 hlen hopen hroom
    have hready := @receive_ready renv t.files _ _ _ hq.queue hsent
    refine ih _ _ hnext hrest (Or.inr ?_)
    obtain ⟨-, -, hplaced⟩ := placed_keeps t.receiver (packFrame env fs (ms.foldl stsvSendData t.sender))
    rw [hplaced] at hready
    rw [transferRound_eq env renv fs rfl]
    generalize proessMessageFileData renv t.files (placed t.receiver (packFrame env fs (ms.foldl stsvSendData t.sender))) =
      r at hready ⊢
    refine hready.trans ?_
    split
    · rfl
    · rename_i hnz
      rcases hd with ⟨hz, -⟩ | hd
      · rw [hq.sizeDone, hz] at hnz
        exact absurd rfl hnz
      · exact hd

/-! ## What the receiver ends with -/

/-- A transfer as `STSV_SendDBFile` starts it, in a slot that was sending no file. -/
structure Started (env : Env) (fs : FS) (t : Transfer) (name content : List Byte) : Prop where
  nul : 0 ∉ name
  nameLe : name.length ≤ 31
  contentLt : content.length < 2 ^ 31
  file : fopenRead env fs (dbFilePath name) = some content
  sender : ∃ c, QueueOk c ∧ c.fileDataSending = false ∧ t.sender = stsvSendDBFile env fs c name

theorem Started.state {t : Transfer} {name content : List Byte} (h : Started env fs t name content) :
    SendState t.sender name content 0 ∧ t.sender.fileDataSending = true := by
  obtain ⟨c, hq, hidle, ht⟩ := h.sender
  rw [ht]
  exact ⟨stsvSendDBFile_starts hq hidle h.nul h.nameLe h.file, stsvSendDBFile_sending hidle h.nul h.nameLe h.file⟩

/-- The bytes and the name do arrive, whatever is queued along with them. -/
theorem file_delivered {t : Transfer} {name content : List Byte} {qs : List (List (List Byte))}
    (h : Started env fs t name content) (hr : Rounds env renv fs t qs) (hrecv : ∀ p, renv.canOpen p = true) :
    (qs.foldl (transferRound env renv fs) t).files (fileDataPath (qs.foldl (transferRound env renv fs) t).receiver) =
        some content ∧
      fileDataNameStr (qs.foldl (transferRound env renv fs) t).receiver = name := by
  obtain ⟨hstate, hs⟩ := h.state
  obtain ⟨hfile, hname⟩ := rounds_delivered h.nul h.contentLt h.file hrecv qs t 0 hstate hr (Or.inl ⟨rfl, hs⟩)
    fun hn => by
      rw [hs] at hn
      cases hn
  refine ⟨hfile.trans (by rw [List.take_length]), ?_⟩
  unfold fileDataNameStr
  rw [List.append_assoc, cstr_append hname.nul, hname.str]

/-- **No transfer is a round trip**: over every content, name and sequence of queues, the
    file is not ready after the last frame. -/
theorem file_never_ready {t : Transfer} {name content : List Byte} {qs : List (List (List Byte))}
    (h : Started env fs t name content) (hr : Rounds env renv fs t qs) :
    ¬ FileRoundTrip env renv fs t name content qs := by
  intro hrt
  obtain ⟨hstate, hs⟩ := h.state
  have hready := rounds_ready h.nul h.contentLt h.file qs t 0 hstate hr (Or.inl ⟨rfl, hs⟩)
  rw [hrt.ready] at hready
  cases hready

/-- A file of one byte, sent from a fresh slot to a fresh slot. -/
def oneByteTransfer : Transfer where
  sender := stsvSendDBFile ⟨0, fun _ => true, 0⟩ (fun _ => some [65]) (Client.zero (fun _ => 0) (fun _ => 0)) (str "a")
  receiver := Client.zero (fun _ => 0) (fun _ => 0)
  files := fun _ => none

theorem oneByteTransfer_started :
    Started ⟨0, fun _ => true, 0⟩ (fun _ => some [65]) oneByteTransfer (str "a") [65] ∧
      Rounds ⟨0, fun _ => true, 0⟩ ⟨0, fun _ => true, 0⟩ (fun _ => some [65]) oneByteTransfer [[]] := by
  have hend : (transferRound ⟨0, fun _ => true, 0⟩ ⟨0, fun _ => true, 0⟩ (fun _ => some [65]) oneByteTransfer
      []).sender.fileDataSending = false := by decide +kernel
  refine ⟨⟨by decide, by decide, by decide, rfl, ⟨Client.zero (fun _ => 0) (fun _ => 0), ?_, rfl, rfl⟩⟩,
    by decide +kernel, by decide +kernel, hend⟩
  exact ⟨by decide, fun i hi => absurd hi (Nat.not_lt_zero i)⟩

theorem file_never_ready_oneByte :
    ¬ FileRoundTrip ⟨0, fun _ => true, 0⟩ ⟨0, fun _ => true, 0⟩ (fun _ => some [65]) oneByteTransfer (str "a") [65] [[]] :=
  file_never_ready oneByteTransfer_started.1 oneByteTransfer_started.2

/-- **One frame, HEADER and END at once.** The file is there and is not ready. -/
theorem file_transfer_fails :
    Started ⟨0, fun _ => true, 0⟩ (fun _ => some [65]) oneByteTransfer (str "a") [65] ∧
      Rounds ⟨0, fun _ => true, 0⟩ ⟨0, fun _ => true, 0⟩ (fun _ => some [65]) oneByteTransfer [[]] ∧
      (transferRound ⟨0, fun _ => true, 0⟩ ⟨0, fun _ => true, 0⟩ (fun _ => some [65]) oneByteTransfer []).files
        (str "FILE/file00000000a") = some [65] ∧
      (transferRound ⟨0, fun _ => true, 0⟩ ⟨0, fun _ => true, 0⟩ (fun _ => some [65]) oneByteTransfer
        []).receiver.fileDataReady = false ∧
      ¬ FileRoundTrip ⟨0, fun _ => true, 0⟩ ⟨0, fun _ => true, 0⟩ (fun _ => some [65]) oneByteTransfer (str "a") [65] [[]] := by
  obtain ⟨h1, h2⟩ := oneByteTransfer_started
  have hready : (transferRound ⟨0, fun _ => true, 0⟩ ⟨0, fun _ => true, 0⟩ (fun _ => some [65]) oneByteTransfer
      []).receiver.fileDataReady = false := by decide +kernel
  refine ⟨h1, h2, by decide +kernel, hready, fun hrt => ?_⟩
  have hyes : (transferRound ⟨0, fun _ => true, 0⟩ ⟨0, fun _ => true, 0⟩ (fun _ => some [65]) oneByteTransfer
      []).receiver.fileDataReady = true := hrt.ready
  rw [hready] at hyes
  cases hyes

end StarServer.Socket

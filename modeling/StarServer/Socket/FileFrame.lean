/-
  StarServer.Socket.FileFrame — the frame `EndPackSendData` builds while a file is going
  out: the packed queue, then eight bytes of flags and size, the file's name in the first
  frame, and file bytes.

  `FilePart` says what `_PackDataWithBigData` leaves in the buffer, `packFrame_size`
  and `packFrame_top` what the frame counts and how far it writes. The room left is
  61440 less the packed queue; over that the subtraction is negative, the comparison
  unsigned, and the frame takes the whole rest of the file.

  Proved:
    * `frame_fits_iff`: the frame stays in `sendBuffer`, and its CRC covers it, exactly
      when the queue leaves room or the whole rest of the file happens to fit;
    * `frame_overflows`: 62 full blocks and a file of 10000 bytes.
-/

import StarServer.Socket.Packing

namespace StarServer.Socket

open StarServer.Memory

/-! ## The file part -/

/-- The first frame of a file carries its name. -/
def nameLen (c : Client) : Nat := if c.bigDataSendSizeDone = 0 then 32 else 0

def startFlag (c : Client) : BitVec 32 :=
  if c.bigDataSendSizeDone = 0 then StSockMsg.bigdataHeader else StSockMsg.bigdataContinue

/-- What `putFileHeader` leaves, with the file part starting at `head`. -/
structure FileHead (c : Client) (b : Buf) (head : Nat) (h : Buf) (start : Nat) : Prop where
  start : start = head + 8 + nameLen c
  sizeAll : h.u32 8 = b.u32 8 + 8 + BitVec.ofNat 32 (nameLen c)
  flags : h.u32 head = startFlag c
  total : h.u32 (head + 4) = c.bigDataSendSize
  name : h.slice (head + 8) (nameLen c) = c.fileSendName.bytes.take (nameLen c)
  out : ∀ a n, a + n ≤ 8 ∨ (12 ≤ a ∧ a + n ≤ head) → h.slice a n = b.slice a n
  top : ∀ N, b.top ≤ N → head + 8 + nameLen c ≤ N → h.top ≤ N

theorem putFileHeader_head {c : Client} (hs : c.fileDataSending = true) (b : Buf) {head : Nat} (hh : 12 ≤ head) :
    FileHead c b head (putFileHeader c b head).1 (putFileHeader c b head).2 := by
  have hname : c.fileSendName.bytes.length = 32 := c.fileSendName.len
  unfold putFileHeader
  simp only
  by_cases h0 : c.bigDataSendSizeDone = 0
  · have hn : nameLen c = 32 := if_pos h0
    have hf : startFlag c = StSockMsg.bigdataHeader := if_pos h0
    rw [if_pos h0, if_pos hs]
    refine ⟨?_, ?_, ?_, ?_, ?_, fun a n ha => ?_, fun N hb hN => ?_⟩
    · rw [hn]
    · rw [hn, Buf.u32_put32, Buf.u32_store_out (by omega), Buf.u32_put32_out (by omega), Buf.u32_put32_out (by omega),
        Buf.u32_put32]
      rfl
    · rw [hf, Buf.u32_put32_out (by omega), Buf.u32_store_out (by omega), Buf.u32_put32_out (by omega), Buf.u32_put32]
    · rw [Buf.u32_put32_out (by omega), Buf.u32_store_out (by omega), Buf.u32_put32]
    · rw [hn, Buf.slice_put32_out (by omega), Buf.slice_store_eq _ hname, List.take_of_length_le (by omega)]
    · rw [Buf.slice_put32_out (by omega), Buf.slice_store_out (by omega), Buf.slice_put32_out (by omega),
        Buf.slice_put32_out (by omega), Buf.slice_put32_out (by omega)]
    · rw [hn] at hN
      exact Buf.top_put32_le (Buf.top_store_le (Buf.top_put32_le (Buf.top_put32_le (Buf.top_put32_le hb (by omega))
        (by omega)) (by omega)) (by omega)) (by omega)
  · have hn : nameLen c = 0 := if_neg h0
    have hf : startFlag c = StSockMsg.bigdataContinue := if_neg h0
    rw [if_neg h0]
    refine ⟨?_, ?_, ?_, ?_, ?_, fun a n ha => ?_, fun N hb hN => ?_⟩
    · rw [hn]
    · rw [hn, Buf.u32_put32_out (by omega), Buf.u32_put32_out (by omega), Buf.u32_put32]
      exact (BitVec.add_zero _).symm
    · rw [hf, Buf.u32_put32_out (by omega), Buf.u32_put32]
    · rw [Buf.u32_put32]
    · rw [hn]
      rfl
    · rw [Buf.slice_put32_out (by omega), Buf.slice_put32_out (by omega), Buf.slice_put32_out (by omega)]
    · rw [hn] at hN
      exact Buf.top_put32_le (Buf.top_put32_le (Buf.top_put32_le hb (by omega)) (by omega)) (by omega)

/-- The file bytes `_PackDataWithBigData` reads for the frame. -/
def fileBytes (c : Client) (file : List Byte) (b : Buf) : List Byte :=
  freadAt file c.bigDataSendSizeDone.toNat (freadSize c b)

/-- END, with the last byte of the file. -/
def endFlag (c : Client) (b : Buf) : BitVec 32 :=
  if c.bigDataSendSizeDone + fileTake c b = c.bigDataSendSize then StSockMsg.bigdataEnd else 0

/-- What `_PackDataWithBigData` makes of the packed frame `b` whose body ends at `head`,
    with `flags` as the flag word. -/
structure FilePart (c : Client) (file : List Byte) (b : Buf) (head : Nat) (flags : BitVec 32) (h : Buf) : Prop where
  sizeAll : h.u32 8 = b.u32 8 + 8 + BitVec.ofNat 32 (nameLen c) + fileTake c b
  flags : h.u32 head = flags
  total : h.u32 (head + 4) = c.bigDataSendSize
  name : h.slice (head + 8) (nameLen c) = c.fileSendName.bytes.take (nameLen c)
  bytes : h.slice (head + 8 + nameLen c) (fileBytes c file b).length = fileBytes c file b
  out : ∀ a n, a + n ≤ 8 ∨ (12 ≤ a ∧ a + n ≤ head) → h.slice a n = b.slice a n
  top : ∀ N, b.top ≤ N → head + 40 ≤ N →
    (h.top ≤ N ↔ fileBytes c file b = [] ∨ head + 8 + nameLen c + (fileBytes c file b).length ≤ N)

theorem nameLen_le (c : Client) : nameLen c ≤ 32 := by
  unfold nameLen
  split <;> omega

theorem top_put32_iff {b : Buf} {a N : Nat} {v : BitVec 32} (h : a + 4 ≤ N) : (b.put32 a v).top ≤ N ↔ b.top ≤ N := by
  unfold Buf.put32
  rw [Buf.top_store_le_iff]
  have hlen : (toLE 4 v.toNat).length = 4 := length_toLE 4 _
  rw [hlen]
  exact ⟨fun hb => hb.1, fun hb => ⟨hb, Or.inr h⟩⟩

theorem putFilePart_part {c : Client} (hs : c.fileDataSending = true) (file : List Byte) (b : Buf) {head : Nat}
    (hh : 12 ≤ head) : FilePart c file b head (startFlag c) (putFilePart c file b head) := by
  obtain ⟨hstart, h1, h2, h3, h4, h5, h6⟩ := putFileHeader_head hs b hh
  have hn := nameLen_le c
  unfold putFilePart
  generalize putFileHeader c b head = p at hstart h1 h2 h3 h4 h5 h6
  obtain ⟨h, start⟩ := p
  simp only at hstart h1 h2 h3 h4 h5 h6 ⊢
  subst hstart
  refine ⟨?_, ?_, ?_, ?_, ?_, fun a n ha => ?_, fun N hb hN => ?_⟩
  · rw [Buf.u32_put32, Buf.u32_store_out (by omega), h1]
  · rw [Buf.u32_put32_out (by omega), Buf.u32_store_out (by omega), h2]
  · rw [Buf.u32_put32_out (by omega), Buf.u32_store_out (by omega), h3]
  · rw [Buf.slice_put32_out (by omega), Buf.slice_store_out (by omega), h4]
  · rw [Buf.slice_put32_out (by omega)]
    exact Buf.slice_store _ _ _
  · rw [Buf.slice_put32_out (by omega), Buf.slice_store_out (by omega), h5 a n ha]
  · have hle := h6 N hb (by omega)
    rw [top_put32_iff (by omega), Buf.top_store_le_iff]
    exact ⟨fun h => h.2, fun h => ⟨hle, h⟩⟩

theorem finishFileSend_part {c : Client} {file : List Byte} {b h : Buf} {head : Nat} (hh : 12 ≤ head)
    (hp : FilePart c file b head (startFlag c) h) :
    FilePart c file b head (startFlag c ||| endFlag c b)
      (finishFileSend c h head (c.bigDataSendSizeDone + fileTake c b)).sendBuffer := by
  obtain ⟨h1, h2, h3, h4, h5, h6, h7⟩ := hp
  have hn := nameLen_le c
  unfold finishFileSend endFlag
  by_cases hdone : c.bigDataSendSizeDone + fileTake c b = c.bigDataSendSize
  · rw [if_pos hdone, if_pos hdone]
    refine ⟨?_, ?_, ?_, ?_, ?_, fun a n ha => ?_, fun N hb hN => ?_⟩
    · rw [Buf.u32_put32_out (by omega), Buf.u32_put32_out (by omega), h1]
    · rw [Buf.u32_put32_out (by omega), Buf.u32_put32, h2]
    · rw [Buf.u32_put32]
    · rw [Buf.slice_put32_out (by omega), Buf.slice_put32_out (by omega), h4]
    · rw [Buf.slice_put32_out (by omega), Buf.slice_put32_out (by omega), h5]
    · rw [Buf.slice_put32_out (by omega), Buf.slice_put32_out (by omega), h6 a n ha]
    · rw [top_put32_iff (by omega), top_put32_iff (by omega), h7 N hb hN]
  · rw [if_neg hdone, if_neg hdone]
    refine ⟨h1, ?_, h3, h4, h5, h6, h7⟩
    rw [h2]
    exact (BitVec.or_zero).symm

/-- Two slots in the same state of the same transfer. -/
structure SameSend (c d : Client) : Prop where
  name : d.fileSendName = c.fileSendName
  sending : d.fileDataSending = c.fileDataSending
  size : d.bigDataSendSize = c.bigDataSendSize
  done : d.bigDataSendSizeDone = c.bigDataSendSizeDone

theorem SameSend.trans {c d e : Client} (h1 : SameSend c d) (h2 : SameSend d e) : SameSend c e :=
  ⟨h2.name.trans h1.name, h2.sending.trans h1.sending, h2.size.trans h1.size, h2.done.trans h1.done⟩

theorem putBlock_same (c : Client) (l : List Byte) : SameSend c (putBlock c l) := ⟨rfl, rfl, rfl, rfl⟩

theorem fillQueue_same (fuel : Nat) (c : Client) (l : List Byte) : SameSend c (fillQueue fuel c l) := by
  induction fuel generalizing c l with
  | zero => exact ⟨rfl, rfl, rfl, rfl⟩
  | succ fuel ih =>
    simp only [fillQueue]
    split
    · exact ⟨rfl, rfl, rfl, rfl⟩
    · split
      · exact putBlock_same _ _
      · split
        · exact putBlock_same _ _
        · exact (putBlock_same _ _).trans (ih _ _)

/-- Queueing leaves the transfer alone. -/
theorem stsvSendData_same (c : Client) (l : List Byte) : SameSend c (stsvSendData c l) := by
  unfold stsvSendData
  split
  · exact (fillQueue_same _ _ _).trans ⟨rfl, rfl, rfl, rfl⟩
  · exact ⟨rfl, rfl, rfl, rfl⟩

theorem sendAll_same (c : Client) (ms : List (List Byte)) : SameSend c (ms.foldl stsvSendData c) := by
  induction ms generalizing c with
  | nil => exact ⟨rfl, rfl, rfl, rfl⟩
  | cons m ms ih => exact (stsvSendData_same c m).trans (ih _)

theorem SameSend.fileTake {c d : Client} (h : SameSend c d) (b : Buf) : fileTake d b = fileTake c b := by
  unfold Socket.fileTake sendRest
  rw [h.size, h.done]

theorem SameSend.fileBytes {c d : Client} (h : SameSend c d) (file : List Byte) (b : Buf) :
    fileBytes d file b = fileBytes c file b := by
  unfold Socket.fileBytes freadSize sendRest
  rw [h.size, h.done]

theorem FilePart.same {c d : Client} {file : List Byte} {b h : Buf} {head : Nat} (hs : SameSend c d)
    (hp : FilePart d file b head (startFlag d ||| endFlag d b) h) :
    FilePart c file b head (startFlag c ||| endFlag c b) h := by
  have hn : nameLen d = nameLen c := by
    unfold nameLen
    rw [hs.done]
  have hf : startFlag d ||| endFlag d b = startFlag c ||| endFlag c b := by
    unfold startFlag endFlag
    rw [hs.fileTake, hs.done, hs.size]
  obtain ⟨h1, h2, h3, h4, h5, h6, h7⟩ := hp
  rw [hn, hs.fileTake] at h1
  rw [hf] at h2
  rw [hs.size] at h3
  rw [hn, hs.name] at h4
  rw [hn, hs.fileBytes] at h5
  rw [hn, hs.fileBytes] at h7
  exact ⟨h1, h2, h3, h4, h5, h6, h7⟩

/-! ## The whole frame -/

/-- The slot while `_PackDataWithBigData` runs, and the buffer it starts from. -/
def typedFrame (c : Client) : Buf := putFileType c (packDataWithPacket c).sendBuffer

/-- The last two writes of `packFrame`: the CRC and `packRef`. -/
def sealFrame (b : Buf) (packRef : BitVec 32) : Buf :=
  (b.put16 12 (crcOver b packDataLen ((b.u32 8 - 4).setWidth 16))).put32 4 packRef

theorem sealFrame_u32_8 (b : Buf) (v : BitVec 32) : (sealFrame b v).u32 8 = b.u32 8 := by
  unfold sealFrame
  rw [Buf.u32_put32_out (by omega), Buf.u32_put16_out (by omega)]

theorem sealFrame_top (b : Buf) (v : BitVec 32) {N : Nat} (hN : 14 ≤ N) : (sealFrame b v).top ≤ N ↔ b.top ≤ N := by
  unfold sealFrame Buf.put16
  rw [top_put32_iff (by omega), Buf.top_store_le_iff]
  exact ⟨fun h => h.1, fun h => ⟨h, Or.inr (by simp only [length_toLE]; omega)⟩⟩

/-- The slot when the frame is sealed. -/
def filledFrame (env : Env) (fs : FS) (c : Client) : Client :=
  if c.fileDataSending then packDataWithBigData env fs (packDataWithPacket c) else packDataWithPacket c

/-- What the last steps make of the slot: the sealed buffer and the count to be sent. -/
def sealClient (d : Client) : Client :=
  { d with
    sendBuffer := sealFrame d.sendBuffer d.packRef
    sendDataSize := (((packDataWithCRC16 d).sendBuffer.u32 8).signExtend 64 + BitVec.ofNat 64 dataSizeLen).toNat }

theorem packFrame_eq (env : Env) (fs : FS) (c : Client) : packFrame env fs c = sealClient (filledFrame env fs c) := rfl

theorem packFrame_sealed (env : Env) (fs : FS) (c : Client) : (packFrame env fs c).sendBuffer =
    sealFrame (filledFrame env fs c).sendBuffer (filledFrame env fs c).packRef := rfl

/-- No file goes out in this frame. -/
def NoFile (env : Env) (fs : FS) (c : Client) : Prop :=
  c.fileDataSending = false ∨ fopenRead env fs (dbFilePath c.fileSendName.bytes) = none

theorem packDataWithBigData_none {env : Env} {fs : FS} {c : Client}
    (h : fopenRead env fs (dbFilePath c.fileSendName.bytes) = none) : packDataWithBigData env fs c = c := by
  unfold packDataWithBigData
  rw [h]

theorem packDataWithBigData_some {env : Env} {fs : FS} {c : Client} {file : List Byte}
    (h : fopenRead env fs (dbFilePath c.fileSendName.bytes) = some file) {b : Buf} (hb : putFileType c c.sendBuffer = b) :
    packDataWithBigData env fs c = finishFileSend c (putFilePart c file b ((b.u32 8).toNat + dataSizeLen))
      ((b.u32 8).toNat + dataSizeLen) (c.bigDataSendSizeDone + fileTake c b) := by
  subst hb
  unfold packDataWithBigData
  rw [h]

theorem filledFrame_noFile {env : Env} {fs : FS} {c : Client} (h : NoFile env fs c) :
    filledFrame env fs c = packDataWithPacket c := by
  unfold filledFrame
  rcases h with hs | hopen
  · rw [hs]
    rfl
  · rw [@packDataWithBigData_none env fs (packDataWithPacket c) hopen, ite_self]

theorem packFrame_noFile {env : Env} {fs : FS} {c : Client} (h : NoFile env fs c) :
    (packFrame env fs c).sendBuffer = sealFrame (packDataWithPacket c).sendBuffer c.packRef := by
  rw [packFrame_sealed, filledFrame_noFile h]
  rfl

theorem finishFileSend_packRef (c : Client) (b : Buf) (head : Nat) (done : BitVec 32) :
    (finishFileSend c b head done).packRef = c.packRef := by
  unfold finishFileSend
  split <;> rfl

/-- A seal keeps what lies at 14 and past it. -/
theorem sealFrame_slice {b : Buf} {v : BitVec 32} {a n : Nat} (h : 14 ≤ a) : (sealFrame b v).slice a n = b.slice a n := by
  unfold sealFrame
  rw [Buf.slice_put32_out (by omega), Buf.slice_put16_out (by omega)]

theorem typedFrame_slice (c : Client) {a n : Nat} (h : 2 ≤ a) :
    (typedFrame c).slice a n = (packDataWithPacket c).sendBuffer.slice a n := by
  unfold typedFrame putFileType
  split
  · rw [Buf.slice_put16_out (by omega)]
  · rfl

theorem typedFrame_sizeAll {c : Client} (hq : QueueOk c) : (typedFrame c).u32 8 = BitVec.ofNat 32 (sumSize c) := by
  unfold typedFrame putFileType
  split
  · rw [Buf.u32_put16_out (by omega)]
    exact (pack_fields hq).sizeAll
  · exact (pack_fields hq).sizeAll

/-- With a file, the frame is the sealed file part. -/
theorem packFrame_file {env : Env} {fs : FS} {c : Client} {file : List Byte} (hq : QueueOk c)
    (hs : c.fileDataSending = true) (hopen : fopenRead env fs (dbFilePath c.fileSendName.bytes) = some file) :
    ∃ h, FilePart c file (typedFrame c) (sumSize c + dataSizeLen) (startFlag c ||| endFlag c (typedFrame c)) h ∧
      (packFrame env fs c).sendBuffer = sealFrame h c.packRef := by
  have hle := sumSize_le hq
  have h12 : dataSizeLen = 12 := rfl
  have hhead : ((typedFrame c).u32 8).toNat + dataSizeLen = sumSize c + dataSizeLen := by
    rw [typedFrame_sizeAll hq, BitVec.toNat_ofNat]
    omega
  have hh : 12 ≤ sumSize c + dataSizeLen := by omega
  have hp := finishFileSend_part hh (@putFilePart_part (packDataWithPacket c) hs file (typedFrame c) _ hh)
  have hsame : SameSend c (packDataWithPacket c) := ⟨rfl, rfl, rfl, rfl⟩
  have hbig := @packDataWithBigData_some env fs (packDataWithPacket c) file hopen (typedFrame c) rfl
  rw [hhead] at hbig
  have hfill : filledFrame env fs c = packDataWithBigData env fs (packDataWithPacket c) := if_pos hs
  refine ⟨_, hp.same hsame, ?_⟩
  rw [packFrame_sealed, hfill, hbig, finishFileSend_packRef]
  rfl

/-! ## How much of the file a frame takes -/

/-- What the code takes of the file: as much as there is room for, and where the room is
    negative the whole rest. -/
def frameTake (c : Client) : Nat :=
  if sumSize c ≤ 61440 then min (sendRest c).toNat (61440 - sumSize c) else (sendRest c).toNat

theorem room_toNat {c : Client} (hq : QueueOk c) : (sizeDataCanSend (typedFrame c)).toNat =
    if sumSize c ≤ 61440 then 61440 - sumSize c else 2 ^ 32 + 61440 - sumSize c := by
  have hle := sumSize_le hq
  unfold sizeDataCanSend
  rw [typedFrame_sizeAll hq, BitVec.toNat_sub, BitVec.toNat_ofNat, BitVec.toNat_ofNat]
  have h60 : 60 <<< 10 = 61440 := rfl
  rw [h60]
  split <;> omega

theorem take_eq {c : Client} (hq : QueueOk c) (hr : (sendRest c).toNat < 2 ^ 31) :
    (fileTake c (typedFrame c)).toNat = frameTake c ∧ freadSize c (typedFrame c) = frameTake c := by
  have hle := sumSize_le hq
  have hroom := room_toNat hq
  unfold fileTake freadSize frameTake
  by_cases hlt : sendRest c < sizeDataCanSend (typedFrame c)
  · have hnat : (sendRest c).toNat < (sizeDataCanSend (typedFrame c)).toNat := BitVec.lt_def.mp hlt
    rw [if_pos hlt, if_pos hlt]
    split at hroom <;> split <;> omega
  · have hnat : (sizeDataCanSend (typedFrame c)).toNat ≤ (sendRest c).toNat :=
      BitVec.le_def.mp (BitVec.not_lt.mp hlt)
    rw [if_neg hlt, if_neg hlt]
    by_cases hS : sumSize c ≤ 61440
    · rw [if_pos hS] at hroom
      have hsign : ((sizeDataCanSend (typedFrame c)).signExtend 64).toNat = (sizeDataCanSend (typedFrame c)).toNat := by
        rw [BitVec.signExtend_eq_setWidth_of_msb_false, BitVec.toNat_setWidth]
        · omega
        · rw [BitVec.msb_eq_false_iff_two_mul_lt]
          omega
      rw [hsign, if_pos hS]
      omega
    · rw [if_neg hS] at hroom
      omega

theorem toNat_sizeAll (s n : Nat) (t : BitVec 32) (h : s + 8 + n + t.toNat < 2 ^ 32) :
    (BitVec.ofNat 32 s + 8 + BitVec.ofNat 32 n + t).toNat = s + 8 + n + t.toNat := by
  have h8 : (8 : BitVec 32).toNat = 8 := rfl
  simp only [BitVec.toNat_add, BitVec.toNat_ofNat, h8]
  omega

/-- The size the frame's header gives. -/
theorem packFrame_size {env : Env} {fs : FS} {c : Client} {file : List Byte} (hq : QueueOk c)
    (hs : c.fileDataSending = true) (hopen : fopenRead env fs (dbFilePath c.fileSendName.bytes) = some file)
    (hr : (sendRest c).toNat < 2 ^ 31) :
    ((packFrame env fs c).sendBuffer.u32 8).toNat = sumSize c + 8 + nameLen c + frameTake c := by
  obtain ⟨h, hp, hframe⟩ := packFrame_file hq hs hopen
  have hle := sumSize_le hq
  have hn := nameLen_le c
  obtain ⟨htake, -⟩ := take_eq hq hr
  have hbound : frameTake c < 2 ^ 31 + 61440 := by
    unfold frameTake
    split <;> omega
  rw [hframe, sealFrame_u32_8, hp.sizeAll, typedFrame_sizeAll hq, toNat_sizeAll _ _ _ (by omega), htake]

theorem typedFrame_top {c : Client} (hq : QueueOk c) (ht : c.sendBuffer.top ≤ stsvMaxBuffer) :
    (typedFrame c).top ≤ stsvMaxBuffer := by
  have hp := pack_top hq ht
  unfold typedFrame putFileType
  split
  · exact Buf.top_put16_le hp (by decide)
  · exact hp

theorem packFrame_top {env : Env} {fs : FS} {c : Client} {file : List Byte} (hq : QueueOk c)
    (ht : c.sendBuffer.top ≤ stsvMaxBuffer) (hs : c.fileDataSending = true)
    (hopen : fopenRead env fs (dbFilePath c.fileSendName.bytes) = some file) (hr : (sendRest c).toNat < 2 ^ 31) :
    (packFrame env fs c).sendBuffer.top ≤ stsvMaxBuffer ↔
      sumSize c + 20 + nameLen c + min (frameTake c) (file.length - c.bigDataSendSizeDone.toNat) ≤ stsvMaxBuffer := by
  obtain ⟨h, hp, hframe⟩ := packFrame_file hq hs hopen
  have hle := sumSize_le hq
  have hn := nameLen_le c
  obtain ⟨-, htake⟩ := take_eq hq hr
  have hlen : (fileBytes c file (typedFrame c)).length = min (frameTake c) (file.length - c.bigDataSendSizeDone.toNat) := by
    unfold fileBytes freadAt
    rw [htake, List.length_take, List.length_drop]
  have hmax : stsvMaxBuffer = 65536 := rfl
  have h12 : dataSizeLen = 12 := rfl
  rw [hframe, sealFrame_top _ _ (by decide), hp.top _ (typedFrame_top hq ht) (by omega), ← hlen]
  constructor
  · intro hroom
    rcases hroom with hnil | hend
    · rw [hnil, List.length_nil]
      omega
    · omega
  · intro hend
    exact Or.inr (by omega)

/-! ## Frames that fit -/

/-- Nothing is written past `sendBuffer`, and the `u16` length of the CRC covers the body. -/
structure FrameInBounds (c : Client) : Prop where
  writes : c.sendBuffer.top ≤ stsvMaxBuffer
  crc : ((c.sendBuffer.u32 8).toNat : Int) - 4 < 65536

/-- No file goes out, or the queue leaves room for some of it, or the rest of the file is
    small enough to fit all the same. -/
def FrameFits (env : Env) (fs : FS) (c : Client) : Prop :=
  ∀ file, c.fileDataSending = true → fopenRead env fs (dbFilePath c.fileSendName.bytes) = some file →
    sumSize c ≤ 61440 ∨
      (sumSize c + 8 + nameLen c + (sendRest c).toNat - 4 < 65536 ∧
        sumSize c + 20 + nameLen c + min (sendRest c).toNat (file.length - c.bigDataSendSizeDone.toNat) ≤ stsvMaxBuffer)

theorem noFile_inBounds {env : Env} {fs : FS} {c : Client} (hq : QueueOk c) (ht : c.sendBuffer.top ≤ stsvMaxBuffer)
    (h : NoFile env fs c) : FrameInBounds (packFrame env fs c) := by
  have hle := sumSize_le hq
  have hsize := (pack_fields hq).sizeAll
  constructor
  · rw [packFrame_noFile h, sealFrame_top _ _ (by decide)]
    exact pack_top hq ht
  · rw [packFrame_noFile h, sealFrame_u32_8, hsize, BitVec.toNat_ofNat]
    omega

theorem sendRest_lt {c : Client} (hsize : 0 ≤ c.bigDataSendSize.toInt)
    (hdone : c.bigDataSendSizeDone.toNat ≤ c.bigDataSendSize.toNat) : (sendRest c).toNat < 2 ^ 31 := by
  have hlt := c.bigDataSendSize.isLt
  have hpos : c.bigDataSendSize.toNat < 2 ^ 31 := by
    rw [BitVec.toInt_eq_toNat_cond] at hsize
    by_cases hsign : 2 * c.bigDataSendSize.toNat < 2 ^ 32
    · omega
    · rw [if_neg hsign] at hsize
      omega
  unfold sendRest
  rw [BitVec.toNat_sub]
  omega

/-- **A frame fits exactly when there is room for file bytes, or the rest of the file
    happens to fit**: over every queue and every state of a transfer. -/
theorem frame_fits_iff {env : Env} {fs : FS} {c : Client} (hq : QueueOk c) (ht : c.sendBuffer.top ≤ stsvMaxBuffer)
    (hsize : 0 ≤ c.bigDataSendSize.toInt) (hdone : c.bigDataSendSizeDone.toNat ≤ c.bigDataSendSize.toNat) :
    FrameInBounds (packFrame env fs c) ↔ FrameFits env fs c := by
  have hr := sendRest_lt hsize hdone
  have hle := sumSize_le hq
  have hn := nameLen_le c
  have hmax : stsvMaxBuffer = 65536 := rfl
  by_cases hfile : NoFile env fs c
  · refine ⟨fun _ file hs hopen => ?_, fun _ => noFile_inBounds hq ht hfile⟩
    rcases hfile with h | h
    · rw [hs] at h
      cases h
    · rw [hopen] at h
      cases h
  · have hs : c.fileDataSending = true := by
      cases e : c.fileDataSending with
      | true => rfl
      | false => exact absurd (Or.inl e) hfile
    obtain ⟨file, hopen⟩ : ∃ file, fopenRead env fs (dbFilePath c.fileSendName.bytes) = some file := by
      cases e : fopenRead env fs (dbFilePath c.fileSendName.bytes) with
      | some file => exact ⟨file, rfl⟩
      | none => exact absurd (Or.inr e) hfile
    have hall := packFrame_size hq hs hopen hr
    have htop := packFrame_top hq ht hs hopen hr
    have htake : frameTake c = if sumSize c ≤ 61440 then min (sendRest c).toNat (61440 - sumSize c)
      else (sendRest c).toNat := rfl
    constructor
    · intro hfits file' _ hopen'
      obtain ⟨hw, hc⟩ := hfits
      obtain rfl : file = file' := Option.some.inj (hopen.symm.trans hopen')
      by_cases hS : sumSize c ≤ 61440
      · exact Or.inl hS
      · rw [if_neg hS] at htake
        rw [htake] at hall htop
        exact Or.inr ⟨by omega, htop.mp hw⟩
    · intro hfit
      have hcase := hfit file hs hopen
      by_cases hS : sumSize c ≤ 61440
      · rw [if_pos hS] at htake
        exact ⟨htop.mpr (by omega), by omega⟩
      · rw [if_neg hS] at htake
        obtain ⟨h1, h2⟩ := hcase.resolve_left hS
        rw [htake] at hall htop
        exact ⟨htop.mpr h2, by omega⟩

/-- A file of 100 bytes of which 40 are sent, then a message of 1500 bytes and one of three. -/
def queuedClient : Client :=
  [List.replicate 1500 7, [1, 2, 3]].foldl stsvSendData
    { stsvSendDBFile ⟨0, fun _ => true, 0⟩ (fun _ => some (List.replicate 100 0)) (Client.zero (fun _ => 0) (fun _ => 0)) (str "a") with
      bigDataSendSizeDone := 40 }

/-- Three blocks and the other 60 bytes: the frame fits. -/
theorem frame_fits_iff_queued : queuedClient.sendCount = 3 ∧ queuedClient.fileDataSending = true ∧
    FrameInBounds (packFrame ⟨0, fun _ => true, 0⟩ (fun _ => some (List.replicate 100 0)) queuedClient) := by
  obtain ⟨hcount, hsizes, htop, hsum⟩ : queuedClient.sendCount = 3 ∧
      (∀ i < 3, queuedClient.sendBufferMSGSize i ≤ clientDefaultBuffer) ∧ queuedClient.sendBuffer.top ≤ stsvMaxBuffer ∧
      sumSize queuedClient = 1513 := by decide +kernel
  have hq : QueueOk queuedClient := by
    refine ⟨by omega, fun i hi => hsizes i (by omega)⟩
  refine ⟨hcount, by decide +kernel, (frame_fits_iff hq htop (by decide +kernel) (by decide +kernel)).mpr fun _ _ _ => Or.inl ?_⟩
  omega

/-- `STSV_SendDBFile` of a file of 10000 bytes, then 62 times `STSV_SendData` of 1024. -/
def crowdedClient : Client :=
  (List.replicate 62 (List.replicate 1024 0)).foldl stsvSendData
    (stsvSendDBFile ⟨0, fun _ => true, 0⟩ (fun _ => some (List.replicate 10000 0))
      (Client.zero (fun _ => 0) (fun _ => 0)) (str "a"))

theorem crowdedClient_queue : QueueOk crowdedClient ∧ sumSize crowdedClient = 63616 := by
  obtain ⟨hcount, hsizes⟩ : crowdedClient.sendCount = 62 ∧ ∀ i < 62, crowdedClient.sendBufferMSGSize i = 1024 := by
    decide +kernel
  refine ⟨⟨by omega, fun i hi => ?_⟩, ?_⟩
  · exact Nat.le_of_eq (hsizes i (by omega))
  · have hmap : (List.range 62).map crowdedClient.sendBufferMSGSize = (List.range 62).map fun _ => 1024 :=
      List.map_congr_left fun i hi => hsizes i (List.mem_range.mp hi)
    unfold sumSize queueBytes
    rw [hcount, hmap]
    decide

/-- **The queue leaves no room, the frame takes the whole file.** Its header says 73656. -/
theorem frame_overflows :
    ((packFrame ⟨0, fun _ => true, 0⟩ (fun _ => some (List.replicate 10000 0)) crowdedClient).sendBuffer.u32 8).toNat =
        73656 ∧
      ¬ FrameInBounds (packFrame ⟨0, fun _ => true, 0⟩ (fun _ => some (List.replicate 10000 0)) crowdedClient) := by
  obtain ⟨hq, hsum⟩ := crowdedClient_queue
  -- queueing leaves the transfer as `STSV_SendDBFile` started it
  have hsame : SameSend (stsvSendDBFile ⟨0, fun _ => true, 0⟩ (fun _ => some (List.replicate 10000 0))
      (Client.zero (fun _ => 0) (fun _ => 0)) (str "a")) crowdedClient := sendAll_same _ _
  have hrest : (sendRest crowdedClient).toNat = 10000 := by
    unfold sendRest
    rw [hsame.size, hsame.done]
    decide +kernel
  have hname : nameLen crowdedClient = 32 := by
    unfold nameLen
    rw [hsame.done]
    decide +kernel
  have htake : frameTake crowdedClient = 10000 := by
    unfold frameTake
    rw [hsum, hrest]
    rfl
  have hall := @packFrame_size ⟨0, fun _ => true, 0⟩ (fun _ => some (List.replicate 10000 0)) crowdedClient _ hq
    hsame.sending rfl (by omega)
  rw [hsum, hname, htake] at hall
  refine ⟨hall, fun h => ?_⟩
  have := h.crc
  omega

end StarServer.Socket

/-
  StarServer.Socket.AlikeReceive — the same data frame received by two slots.

  The frame is all of what the two `recvBuffer`s need have in common: its messages are
  bytes of the frame when its size table fits it (`processMessagePacket_alike`), and its
  upload part goes into the same file when it lies inside the frame (`bigData_alike`,
  `fileData_alike`). A part that is not an upload's first goes behind what the file holds,
  so there the file must have been begun on this connection.

  `Uploads` is what the connection has begun so far.
-/

import StarServer.Socket.Alike

namespace StarServer.Socket

open StarServer.Memory

/-! ## The frame -/

/-- The same `n` bytes at the front, which are a frame of its size. -/
structure SameFrame (b c : Buf) (n : Nat) : Prop where
  bytes : b.slice 0 n = c.slice 0 n
  size : (n : Int) = dataSizeLen + msgSize b
  header : packDataLen ≤ n

theorem SameFrame.slice {b c : Buf} {n a k : Nat} (h : SameFrame b c n) (hk : a + k ≤ n) : b.slice a k = c.slice a k :=
  Buf.slice_sub h.bytes (Nat.zero_le a) (by omega)

/-- Message header fields are in the first 12 bytes. -/
theorem header_congr {b c : Buf} (h : b.slice 0 dataSizeLen = c.slice 0 dataSizeLen) :
    msgType b = msgType c ∧ msgFromID b = msgFromID c ∧ msgPackNo b = msgPackNo c ∧ msgSize b = msgSize c := by
  have h12 : dataSizeLen = 12 := rfl
  refine ⟨?_, ?_, ?_, ?_⟩
  · exact Buf.u16_congr (Buf.slice_sub h (Nat.zero_le _) (by omega))
  · exact congrArg BitVec.toInt (Buf.u16_congr (Buf.slice_sub h (Nat.zero_le _) (by omega)))
  · exact Buf.u32_congr (Buf.slice_sub h (Nat.zero_le _) (by omega))
  · exact congrArg BitVec.toInt (Buf.u32_congr (Buf.slice_sub h (Nat.zero_le _) (by omega)))

theorem SameFrame.fields {b c : Buf} {n : Nat} (h : SameFrame b c n) :
    msgType b = msgType c ∧ msgFromID b = msgFromID c ∧ msgPackNo b = msgPackNo c ∧ msgSize b = msgSize c :=
  header_congr (h.slice (Nat.le_trans (by decide) h.header))

theorem SameFrame.numData {b c : Buf} {n : Nat} (h : SameFrame b c n) : numData b = numData c := by
  have h16 : packDataLen = 16 := rfl
  have hn := h.header
  exact congrArg BitVec.toInt (Buf.u16_congr (h.slice (by omega)))

theorem SameFrame.sizeTable {b c : Buf} {n m : Nat} (h : SameFrame b c n) (hm : packDataLen + 2 * m ≤ n) :
    sizeTable b m = sizeTable c m := by
  apply List.map_congr_left
  intro i hi
  have hi := List.mem_range.mp hi
  exact Buf.u16_congr (h.slice (by omega))

/-! ## Its messages -/

/-- The messages a handler is given. -/
structure SameMessages (c d : Client) : Prop where
  recvCount : c.recvCount = d.recvCount
  data : ∀ k, 0 ≤ k → k < c.recvCount → stsvGetData c k = stsvGetData d k

theorem sameMessages_none {c d : Client} (hc : c.recvCount = 0) (hd : d.recvCount = 0) : SameMessages c d := by
  refine ⟨hc.trans hd.symm, fun k h0 hk => ?_⟩
  omega

/-- Two decoders at the same place, whose arrays agree on the messages opened so far. -/
structure DecodeAlike (st st' : DecodeSt) : Prop where
  curPacket : st.curPacket = st'.curPacket
  continuePack : st.continuePack = st'.continuePack
  startDataAddr : st.startDataAddr = st'.startDataAddr
  addr : ∀ k, 0 ≤ k → k ≤ st.curPacket → st.recvBufferMSG k = st'.recvBufferMSG k
  size : ∀ k, 0 ≤ k → k ≤ st.curPacket → st.recvBufferMSGSize k = st'.recvBufferMSGSize k

theorem openPacket_alike {st st' : DecodeSt} (h : DecodeAlike st st') : DecodeAlike (openPacket st) (openPacket st') := by
  refine ⟨congrArg (· + 1) h.curPacket, congrArg (1 - ·) h.continuePack, h.startDataAddr, fun k h0 hk => ?_,
    fun k h0 hk => ?_⟩
  · have hk : k ≤ st.curPacket + 1 := hk
    show Function.update st.recvBufferMSG _ _ k = Function.update st'.recvBufferMSG _ _ k
    rw [← h.curPacket, ← h.startDataAddr]
    by_cases e : k = st.curPacket + 1
    · subst e
      rw [Function.update_self, Function.update_self]
    · rw [Function.update_of_ne e, Function.update_of_ne e]
      exact h.addr k h0 (by omega)
  · have hk : k ≤ st.curPacket + 1 := hk
    show Function.update st.recvBufferMSGSize _ _ k = Function.update st'.recvBufferMSGSize _ _ k
    rw [← h.curPacket]
    by_cases e : k = st.curPacket + 1
    · subst e
      rw [Function.update_self, Function.update_self]
    · rw [Function.update_of_ne e, Function.update_of_ne e]
      exact h.size k h0 (by omega)

theorem addBlock_alike {st st' : DecodeSt} (h : DecodeAlike st st') (e : BitVec 16) :
    DecodeAlike (addBlock st e) (addBlock st' e) := by
  refine ⟨h.curPacket, rfl, congrArg (· + (entryLen e : Int)) h.startDataAddr, h.addr, fun k h0 hk => ?_⟩
  have hk : k ≤ st.curPacket := hk
  show Function.update st.recvBufferMSGSize _ _ k = Function.update st'.recvBufferMSGSize _ _ k
  rw [← h.curPacket]
  by_cases he : k = st.curPacket
  · subst he
    rw [Function.update_self, Function.update_self, h.size _ h0 hk]
  · rw [Function.update_of_ne he, Function.update_of_ne he]
    exact h.size k h0 hk

theorem decode_alike (es : List (BitVec 16)) {st st' : DecodeSt} (h : DecodeAlike st st') :
    DecodeAlike (es.foldl decodeStep st) (es.foldl decodeStep st') := by
  induction es generalizing st st' with
  | nil => exact h
  | cons e es ih =>
    refine ih ?_
    unfold decodeStep
    rw [← h.continuePack]
    split
    · exact addBlock_alike (openPacket_alike h) e
    · exact addBlock_alike h e

/-- `c` with the fields that the decoder writes, as they are in `r`. -/
def messagesUpdate (c r : Client) : Client :=
  { c with recvCount := r.recvCount, recvBufferMSG := r.recvBufferMSG, recvBufferMSGSize := r.recvBufferMSGSize }

theorem processMessagePacket_eq (c : Client) : processMessagePacket c = messagesUpdate c (processMessagePacket c) := by
  unfold processMessagePacket
  split
  · rfl
  · rfl

theorem processMessagePacket_recvBuffer (c : Client) : (processMessagePacket c).recvBuffer = c.recvBuffer := by
  rw [processMessagePacket_eq]
  rfl

/-- **The same messages**, where the size table fits the frame. -/
theorem processMessagePacket_alike {c d : Client} {n : Nat} (h : SameFrame c.recvBuffer d.recvBuffer n)
    (hc : c.recvCount = 0) (hd : d.recvCount = 0) (hfit : TableFits c.recvBuffer) :
    SameMessages (processMessagePacket c) (processMessagePacket d) := by
  have hnum := h.numData
  rcases Int.lt_or_le 0 (numData c.recvBuffer) with hpos | hneg
  · obtain ⟨-, -, hend⟩ := hfit.resolve_left (by omega)
    obtain ⟨hmsg, hsize, hcount⟩ := processMessagePacket_some hpos
    obtain ⟨hmsg', hsize', hcount'⟩ := processMessagePacket_some (hnum ▸ hpos)
    have hn := h.size
    have htable : sizeTable c.recvBuffer (numData c.recvBuffer).toNat =
        sizeTable d.recvBuffer (numData d.recvBuffer).toNat := by
      rw [← hnum]
      exact h.sizeTable (by omega)
    have halike : DecodeAlike (decodeTable c) (decodeTable d) := by
      unfold decodeTable
      rw [htable]
      refine decode_alike _ ⟨rfl, rfl, ?_, fun k h0 hk => ?_, fun k h0 hk => ?_⟩
      · show packDataLen + 2 * numData c.recvBuffer = packDataLen + 2 * numData d.recvBuffer
        rw [hnum]
      · have hk : k ≤ -1 := hk
        omega
      · have hk : k ≤ -1 := hk
        omega
    refine ⟨by rw [hcount, hcount', halike.curPacket], fun k h0 hk => ?_⟩
    rw [hcount] at hk
    have hk : k ≤ (decodeTable c).curPacket := by omega
    have hin := (decodeTable_tiled c).inside h0 hk
    have hlen := (decodeTable_tiled c).size k h0 hk
    rw [decodeTable_startDataAddr] at hin
    unfold stsvGetData
    rw [hmsg, hsize, hmsg', hsize', ← halike.addr k h0 hk, ← halike.size k h0 hk, processMessagePacket_recvBuffer,
      processMessagePacket_recvBuffer]
    exact h.slice (by omega)
  · exact sameMessages_none (processMessagePacket_none hc hneg).1 (processMessagePacket_none hd (hnum ▸ hneg)).1

/-! ## Uploads -/

/-- What a connection has begun: whether a first part has named a file, and the files that
    its first parts opened. -/
structure Uploads where
  named : Bool
  begun : List Path

def noUploads : Uploads := ⟨false, []⟩

/-- A frame's upload part starts with flags. -/
def uploadFlags (b : Buf) : BitVec 32 := b.u32 (packetDataSize b).toNat

def FirstPart (b : Buf) : Prop := uploadFlags b &&& StSockMsg.bigdataHeader ≠ 0

def NextPart (b : Buf) : Prop :=
  ¬ FirstPart b ∧ (uploadFlags b &&& StSockMsg.bigdataContinue ≠ 0 ∨ uploadFlags b &&& StSockMsg.bigdataEnd ≠ 0)

instance (b : Buf) : Decidable (FirstPart b) := by unfold FirstPart; infer_instance

instance (b : Buf) : Decidable (NextPart b) := by unfold NextPart; infer_instance

theorem fopenWrite_isSome (env : Env) (fs : FS) (path : Path) :
    (fopenWrite env fs path).isSome = true ↔ env.canOpen path = true := by
  unfold fopenWrite
  by_cases hcan : env.canOpen path = true
  · rw [if_pos hcan]
    exact ⟨fun _ => hcan, fun _ => rfl⟩
  · rw [if_neg hcan]
    exact ⟨(fun h => nomatch h), fun h => absurd h hcan⟩

/-- The ways through `_ProessMessageBigData`: a first part whose file opens or does not, one
    that goes on, and one without any of the flags. -/
inductive BigHandled (env : Env) (fs : FS) (c : Client) : Int × Client × FS → Prop
  | unopened : FirstPart c.recvBuffer → fopenWrite env fs (bigDataPath c.idx.toNat) = none →
      BigHandled env fs c (-1, beginBigData c (packetDataSize c.recvBuffer).toNat, fs)
  | first (f : FS) : FirstPart c.recvBuffer → fopenWrite env fs (bigDataPath c.idx.toNat) = some f →
      BigHandled env fs c (finishBigData (beginBigData c (packetDataSize c.recvBuffer).toNat) (some f) fs
        (packetDataSize c.recvBuffer).toNat)
  | next : NextPart c.recvBuffer →
      BigHandled env fs c (finishBigData c (fopenAppend env fs (bigDataPath c.idx.toNat)) fs (packetDataSize c.recvBuffer).toNat)
  | neither : ¬FirstPart c.recvBuffer → ¬NextPart c.recvBuffer →
      BigHandled env fs c (finishBigData c none fs (packetDataSize c.recvBuffer).toNat)

theorem bigData_handled (env : Env) (fs : FS) (c : Client) : BigHandled env fs c (proessMessageBigData env fs c) := by
  unfold proessMessageBigData
  simp only
  by_cases hfirst : FirstPart c.recvBuffer
  · rw [if_pos (show c.recvBuffer.u32 (packetDataSize c.recvBuffer).toNat &&& StSockMsg.bigdataHeader ≠ 0 from hfirst)]
    cases hopen : fopenWrite env fs (bigDataPath c.idx.toNat) with
    | none => exact .unopened hfirst hopen
    | some f => exact .first f hfirst hopen
  · rw [if_neg (show ¬c.recvBuffer.u32 (packetDataSize c.recvBuffer).toNat &&& StSockMsg.bigdataHeader ≠ 0 from hfirst)]
    split
    · rename_i hmore
      exact .next ⟨hfirst, hmore⟩
    · rename_i hnone
      exact .neither hfirst fun hnext => hnone hnext.2

/-- The ways through `_ProessMessageFileData`. -/
inductive FileHandled (env : Env) (fs : FS) (c : Client) : Int × Client × FS → Prop
  | unopened : FirstPart c.recvBuffer →
      fopenWrite env fs (fileDataPath (beginFileData c (packetDataSize c.recvBuffer).toNat)) = none →
      FileHandled env fs c (-1, beginFileData c (packetDataSize c.recvBuffer).toNat, fs)
  | first (f : FS) : FirstPart c.recvBuffer →
      fopenWrite env fs (fileDataPath (beginFileData c (packetDataSize c.recvBuffer).toNat)) = some f →
      FileHandled env fs c (finishFileData (beginFileData c (packetDataSize c.recvBuffer).toNat) (some f) fs
        (packetDataSize c.recvBuffer).toNat 32)
  | next : NextPart c.recvBuffer →
      FileHandled env fs c (finishFileData c (fopenAppend env fs (fileDataPath c)) fs (packetDataSize c.recvBuffer).toNat 0)
  | neither : ¬FirstPart c.recvBuffer → ¬NextPart c.recvBuffer →
      FileHandled env fs c (finishFileData c none fs (packetDataSize c.recvBuffer).toNat 0)

theorem fileData_handled (env : Env) (fs : FS) (c : Client) : FileHandled env fs c (proessMessageFileData env fs c) := by
  unfold proessMessageFileData
  simp only
  by_cases hfirst : FirstPart c.recvBuffer
  · rw [if_pos (show c.recvBuffer.u32 (packetDataSize c.recvBuffer).toNat &&& StSockMsg.bigdataHeader ≠ 0 from hfirst)]
    cases hopen : fopenWrite env fs (fileDataPath (beginFileData c (packetDataSize c.recvBuffer).toNat)) with
    | none => exact .unopened hfirst hopen
    | some f => exact .first f hfirst hopen
  · rw [if_neg (show ¬c.recvBuffer.u32 (packetDataSize c.recvBuffer).toNat &&& StSockMsg.bigdataHeader ≠ 0 from hfirst)]
    split
    · rename_i hmore
      exact .next ⟨hfirst, hmore⟩
    · rename_i hnone
      exact .neither hfirst fun hnext => hnone hnext.2

/-- The table and `skip` bytes more than the flags of the upload part are in the frame. -/
structure PartInside (b : Buf) (skip : Nat) : Prop where
  table : packDataLen + 2 * numData b ≤ dataSizeLen + msgSize b
  part : (packetDataSize b).toNat + 8 + skip ≤ dataSizeLen + msgSize b

theorem SameFrame.packetDataSize {b c : Buf} {n skip : Nat} (h : SameFrame b c n) (hin : PartInside b skip) :
    packetDataSize b = packetDataSize c := by
  have hn := h.size
  have htable := hin.table
  have hlen := h.header
  unfold Socket.packetDataSize
  rw [← h.numData, ← h.sizeTable (by omega)]

theorem SameFrame.flags {b c : Buf} {n skip : Nat} (h : SameFrame b c n) (hin : PartInside b skip) :
    uploadFlags b = uploadFlags c := by
  have hn := h.size
  have hpart := hin.part
  unfold uploadFlags
  rw [← h.packetDataSize hin]
  exact Buf.u32_congr (h.slice (by omega))

/-- The same, at the place the receiver has computed. -/
theorem SameFrame.flagsAt {b c : Buf} {n skip start : Nat} (h : SameFrame b c n) (hin : PartInside b skip)
    (hstart : start = (Socket.packetDataSize b).toNat) : b.u32 start = c.u32 start := by
  have hflags := h.flags hin
  unfold uploadFlags at hflags
  rw [← h.packetDataSize hin] at hflags
  rw [hstart, hflags]

/-- The bytes a part adds to the file are the rest of the frame. -/
theorem SameFrame.part {b c : Buf} {n skip : Nat} (h : SameFrame b c n) (hin : PartInside b skip) :
    bigDataPackSize b = bigDataPackSize c ∧
      b.slice ((Socket.packetDataSize b).toNat + 8 + skip) (bigDataPackSize b - BitVec.ofNat 64 skip).toNat =
        c.slice ((Socket.packetDataSize b).toNat + 8 + skip) (bigDataPackSize b - BitVec.ofNat 64 skip).toNat := by
  have hn := h.size
  have hpart := hin.part
  have hsize : (b.u32 8).toInt = (c.u32 8).toInt := h.fields.2.2.2
  have h12 : dataSizeLen = 12 := rfl
  have h8 : (8 : BitVec 64).toNat = 8 := rfl
  have hlen : (bigDataPackSize b - BitVec.ofNat 64 skip).toNat = n - ((Socket.packetDataSize b).toNat + 8 + skip) := by
    have hint : (b.u32 8).toInt = msgSize b := rfl
    have hlt := BitVec.toInt_lt (x := b.u32 8)
    unfold bigDataPackSize
    rw [BitVec.toNat_sub, BitVec.toNat_sub, BitVec.toNat_add, BitVec.toNat_ofInt, BitVec.toNat_ofNat, BitVec.toNat_ofNat,
      h8, h12]
    omega
  refine ⟨?_, ?_⟩
  · unfold bigDataPackSize
    rw [hsize, h.packetDataSize hin]
  · rw [hlen]
    exact h.slice (by omega)

/-! ## Their files -/

/-- No file differs that did not before. -/
def FilesKept (fs gs f g : FS) : Prop := ∀ p, fs p = gs p → f p = g p

/-- A file opened on both sides, where it now is the same. -/
structure OpenAlike (fs gs : FS) (path : Path) (f g : FS) : Prop where
  kept : FilesKept fs gs f g
  opened : f path = g path

/-- The same content for one file. -/
theorem update_alike (fs gs : FS) (path : Path) (file : Option (List Byte)) :
    OpenAlike fs gs path (Function.update fs path file) (Function.update gs path file) := by
  refine ⟨fun p hp => ?_, ?_⟩
  · by_cases e : p = path
    · subst e
      rw [Function.update_self, Function.update_self]
    · rw [Function.update_of_ne e, Function.update_of_ne e, hp]
  · rw [Function.update_self, Function.update_self]

theorem fopenWrite_alike (env : Env) (fs gs : FS) (path : Path) :
    Option.Rel (OpenAlike fs gs path) (fopenWrite env fs path) (fopenWrite env gs path) := by
  unfold fopenWrite
  split
  · exact .some (update_alike fs gs path _)
  · exact .none

theorem fopenAppend_alike (env : Env) {fs gs : FS} {path : Path} (h : fs path = gs path) :
    Option.Rel (OpenAlike fs gs path) (fopenAppend env fs path) (fopenAppend env gs path) := by
  unfold fopenAppend
  rw [← h]
  split
  · exact .some (update_alike fs gs path _)
  · exact .none

theorem writeUpload_alike {c d : Client} {file file' : Option FS} {fs gs : FS} {path : Path} {start : Nat} {size : BitVec 64}
    (hfile : Option.Rel (OpenAlike fs gs path) file file')
    (hbytes : c.recvBuffer.slice start size.toNat = d.recvBuffer.slice start size.toNat) :
    FilesKept fs gs (writeUpload c file fs path start size).2 (writeUpload d file' gs path start size).2 ∧
      (file ≠ none → (writeUpload c file fs path start size).2 path = (writeUpload d file' gs path start size).2 path) := by
  cases hfile with
  | none => exact ⟨fun p hp => hp, fun h => absurd rfl h⟩
  | @some f g hf =>
    have hwrite : OpenAlike f g path (writeUpload c (some f) fs path start size).2
        (writeUpload d (some g) gs path start size).2 := by
      show OpenAlike f g path (fwriteEnd f path _) (fwriteEnd g path _)
      unfold fwriteEnd
      rw [hbytes, hf.opened]
      exact update_alike f g path _
    exact ⟨fun p hp => hwrite.kept p (hf.kept p hp), fun _ => hwrite.opened⟩

/-! ## Upload handlers -/

/-- What two slots' uploads have in common. The temp file counts when it is ready, and the
    files and the announced size when they are this connection's. -/
structure UploadsAlike (u : Uploads) (c d : Client) (fs gs : FS) : Prop where
  idx : c.idx = d.idx
  bigDataReady : c.bigDataReady = d.bigDataReady
  fileDataReady : c.fileDataReady = d.fileDataReady
  ready : c.bigDataReady = true → c.bigDataReadSize = d.bigDataReadSize ∧
    fs (bigDataPath c.idx.toNat) = gs (bigDataPath c.idx.toNat)
  size : u.begun ≠ [] → c.bigDataReadSize = d.bigDataReadSize
  name : u.named = true → c.fileDataName = d.fileDataName
  files : ∀ p ∈ u.begun, fs p = gs p
  dbFiles : ∀ name, fs (dbFilePath name) = gs (dbFilePath name)

/-- The results of the same upload part on two slots; a first part opens the file at `path`. -/
structure PartAlike (u : Uploads) (fs gs : FS) (path : Path) (first : Prop) (r r' : Int × Client × FS) : Prop where
  ret : r.1 = r'.1
  uploads : UploadsAlike u r.2.1 r'.2.1 r.2.2 r'.2.2
  kept : FilesKept fs gs r.2.2 r'.2.2
  opened : first → r.1 = 0 → r.2.2 path = r'.2.2 path
  size : first → r.2.1.bigDataReadSize = r'.2.1.bigDataReadSize

/-- The fields `_ProessMessageBigData` leaves at its end. -/
structure BigDone (c : Client) (file : Option FS) (fs : FS) (start : Nat) (r : Int × Client × FS) : Prop where
  ret : r.1 = 0
  only : OnlyUploaded c r.2.1
  ready : r.2.1.bigDataReady = (c.bigDataReady || decide (c.recvBuffer.u32 start &&& StSockMsg.bigdataEnd ≠ 0))
  fileDataReady : r.2.1.fileDataReady = c.fileDataReady
  size : r.2.1.bigDataReadSize = c.bigDataReadSize
  name : r.2.1.fileDataName = c.fileDataName
  fs : r.2.2 = (writeUpload c file fs (bigDataPath c.idx.toNat) (start + 8) (bigDataPackSize c.recvBuffer)).2

theorem writeUpload_client (c : Client) (file : Option FS) (fs : FS) (path : Path) (start : Nat) (size : BitVec 64) :
    ∃ done, (writeUpload c file fs path start size).1 = { c with bigDataReadSizeDone := done } := by
  cases file with
  | none => exact ⟨_, rfl⟩
  | some f => exact ⟨_, rfl⟩

theorem finishBigData_done (c : Client) (file : Option FS) (fs : FS) (start : Nat) :
    BigDone c file fs start (finishBigData c file fs start) := by
  obtain ⟨done, hdone⟩ := writeUpload_client c file fs (bigDataPath c.idx.toNat) (start + 8) (bigDataPackSize c.recvBuffer)
  have honly := finishBigData_only c file fs start
  unfold finishBigData at honly ⊢
  simp only [hdone] at honly ⊢
  by_cases hend : c.recvBuffer.u32 start &&& StSockMsg.bigdataEnd ≠ 0
  · rw [if_pos hend] at honly ⊢
    refine ⟨rfl, honly, ?_, rfl, rfl, rfl, rfl⟩
    rw [decide_eq_true hend, Bool.or_true]
  · rw [if_neg hend] at honly ⊢
    refine ⟨rfl, honly, ?_, rfl, rfl, rfl, rfl⟩
    rw [decide_eq_false hend, Bool.or_false]

theorem OnlyUploaded.idx {c r : Client} (h : OnlyUploaded c r) : r.idx = c.idx := by
  unfold OnlyUploaded at h
  rw [h]
  rfl

/-- The end of a big-data part does the same to the files of both sides. -/
theorem finishBigData_files {c d : Client} {file file' : Option FS} {fs gs : FS} {n start : Nat}
    (hf : SameFrame c.recvBuffer d.recvBuffer n) (hin : PartInside c.recvBuffer 0) (hidx : c.idx = d.idx)
    (hstart : start = (packetDataSize c.recvBuffer).toNat)
    (hfile : Option.Rel (OpenAlike fs gs (bigDataPath c.idx.toNat)) file file') :
    FilesKept fs gs (finishBigData c file fs start).2.2 (finishBigData d file' gs start).2.2 ∧
      (file ≠ none → (finishBigData c file fs start).2.2 (bigDataPath c.idx.toNat) =
        (finishBigData d file' gs start).2.2 (bigDataPath c.idx.toNat)) := by
  obtain ⟨hpack, hbytes⟩ := hf.part hin
  have hbytes : c.recvBuffer.slice (start + 8) (bigDataPackSize c.recvBuffer).toNat =
      d.recvBuffer.slice (start + 8) (bigDataPackSize c.recvBuffer).toNat := by
    rw [hstart]
    simpa using hbytes
  rw [(finishBigData_done c file fs start).fs, (finishBigData_done d file' gs start).fs, ← hpack, ← hidx]
  exact writeUpload_alike hfile hbytes

theorem finishBigData_alike {u : Uploads} {c d : Client} {file file' : Option FS} {fs gs : FS} {n start : Nat}
    (hf : SameFrame c.recvBuffer d.recvBuffer n) (hin : PartInside c.recvBuffer 0) (h : UploadsAlike u c d fs gs)
    (hstart : start = (packetDataSize c.recvBuffer).toNat)
    (hfile : Option.Rel (OpenAlike fs gs (bigDataPath c.idx.toNat)) file file')
    (hend : c.recvBuffer.u32 start &&& StSockMsg.bigdataEnd ≠ 0 → c.bigDataReadSize = d.bigDataReadSize ∧
      (file ≠ none ∨ fs (bigDataPath c.idx.toNat) = gs (bigDataPath c.idx.toNat))) :
    UploadsAlike u (finishBigData c file fs start).2.1 (finishBigData d file' gs start).2.1 (finishBigData c file fs start).2.2
        (finishBigData d file' gs start).2.2 ∧
      FilesKept fs gs (finishBigData c file fs start).2.2 (finishBigData d file' gs start).2.2 ∧
      (file ≠ none → (finishBigData c file fs start).2.2 (bigDataPath c.idx.toNat) =
        (finishBigData d file' gs start).2.2 (bigDataPath c.idx.toNat)) := by
  obtain ⟨-, honly, hready, hfready, hsize, hname, -⟩ := finishBigData_done c file fs start
  obtain ⟨-, honly', hready', hfready', hsize', hname', -⟩ := finishBigData_done d file' gs start
  have hflags := hf.flagsAt hin hstart
  obtain ⟨hkept, hopened⟩ := finishBigData_files hf hin h.idx hstart hfile
  generalize finishBigData c file fs start = r at *
  generalize finishBigData d file' gs start = r' at *
  refine ⟨⟨?_, ?_, ?_, fun hr => ?_, fun hne => ?_, fun hn => ?_, fun p hp => hkept p (h.files p hp),
    fun name => hkept _ (h.dbFiles name)⟩, hkept, hopened⟩
  · rw [honly.idx, honly'.idx, h.idx]
  · rw [hready, hready', h.bigDataReady, hflags]
  · rw [hfready, hfready', h.fileDataReady]
  · rw [hsize, hsize', honly.idx]
    rw [hready] at hr
    rcases Bool.or_eq_true_iff.mp hr with hr | hr
    · obtain ⟨h1, h2⟩ := h.ready hr
      exact ⟨h1, hkept _ h2⟩
    · obtain ⟨h1, h2⟩ := hend (of_decide_eq_true hr)
      exact ⟨h1, h2.elim hopened (hkept _)⟩
  · rw [hsize, hsize', h.size hne]
  · rw [hname, hname', h.name hn]

/-- A first part starts over on both sides. -/
theorem beginBigData_alike {u : Uploads} {c d : Client} {fs gs : FS} {start : Nat} (h : UploadsAlike u c d fs gs)
    (hsize : c.recvBuffer.u32 (start + 4) = d.recvBuffer.u32 (start + 4)) :
    UploadsAlike u (beginBigData c start) (beginBigData d start) fs gs :=
  ⟨h.idx, rfl, h.fileDataReady, fun hr => absurd hr Bool.false_ne_true, fun _ => hsize, h.name, h.files, h.dbFiles⟩

/-- **The same big-data part**: to the same file, begun by it or before it. -/
theorem bigData_alike {u : Uploads} {env : Env} {fs gs : FS} {c d : Client} {n : Nat}
    (hf : SameFrame c.recvBuffer d.recvBuffer n) (hin : PartInside c.recvBuffer 0) (h : UploadsAlike u c d fs gs)
    (hnext : NextPart c.recvBuffer → bigDataPath c.idx.toNat ∈ u.begun) :
    PartAlike u fs gs (bigDataPath c.idx.toNat) (FirstPart c.recvBuffer) (proessMessageBigData env fs c)
      (proessMessageBigData env gs d) := by
  have hn := hf.size
  have hpart := hin.part
  have hflags := hf.flags hin
  unfold proessMessageBigData
  simp only
  unfold uploadFlags at hflags
  rw [← hf.packetDataSize hin] at hflags ⊢
  rw [← h.idx, ← hflags]
  generalize hstart : (packetDataSize c.recvBuffer).toNat = start at *
  by_cases hfirst : c.recvBuffer.u32 start &&& StSockMsg.bigdataHeader ≠ 0
  · rw [if_pos hfirst, if_pos hfirst]
    have hsize : c.recvBuffer.u32 (start + 4) = d.recvBuffer.u32 (start + 4) := Buf.u32_congr (hf.slice (by omega))
    have hbegin := @beginBigData_alike u c d fs gs start h hsize
    have hopen := fopenWrite_alike env fs gs (bigDataPath c.idx.toNat)
    generalize fopenWrite env fs (bigDataPath c.idx.toNat) = f at hopen ⊢
    generalize fopenWrite env gs (bigDataPath c.idx.toNat) = g at hopen ⊢
    cases hopen with
    | none => exact ⟨rfl, hbegin, fun p hp => hp, fun _ (h0 : (-1 : Int) = 0) => absurd h0 (by decide), fun _ => hsize⟩
    | @some f g hfg =>
      obtain ⟨h1, h2, h3⟩ := @finishBigData_alike u (beginBigData c start) (beginBigData d start) (some f) (some g) fs gs n
        start hf hin hbegin hstart.symm (.some hfg) fun _ => ⟨hsize, Or.inl (by simp)⟩
      refine ⟨rfl, h1, h2, fun _ _ => h3 (by simp), fun _ => ?_⟩
      rw [(finishBigData_done (beginBigData c start) (some f) fs start).size,
        (finishBigData_done (beginBigData d start) (some g) gs start).size]
      exact hsize
  · rw [if_neg hfirst, if_neg hfirst]
    have hnot : ¬ FirstPart c.recvBuffer := by
      unfold FirstPart uploadFlags
      rw [hstart]
      exact hfirst
    split
    · rename_i hmore
      have hbegun := hnext ⟨hnot, by unfold uploadFlags; rw [hstart]; exact hmore⟩
      have hfile := h.files _ hbegun
      obtain ⟨h1, h2, -⟩ := @finishBigData_alike u c d _ _ fs gs n start hf hin h hstart.symm
        (fopenAppend_alike env hfile) fun _ => ⟨h.size (List.ne_nil_of_mem hbegun), Or.inr hfile⟩
      exact ⟨rfl, h1, h2, fun h => absurd h hnot, fun h => absurd h hnot⟩
    · rename_i hnone
      obtain ⟨h1, h2, -⟩ := @finishBigData_alike u c d none none fs gs n start hf hin h hstart.symm .none
        fun hend => absurd (Or.inr hend) hnone
      exact ⟨rfl, h1, h2, fun h => absurd h hnot, fun h => absurd h hnot⟩

/-- The fields `_ProessMessageFileData` leaves at its end. -/
structure FileDone (c : Client) (file : Option FS) (fs : FS) (start skip : Nat) (r : Int × Client × FS) : Prop where
  ret : r.1 = 0
  only : OnlyUploaded c r.2.1
  ready : r.2.1.bigDataReady = c.bigDataReady
  fileDataReady : r.2.1.fileDataReady = (c.fileDataReady || decide (c.recvBuffer.u32 start = StSockMsg.bigdataEnd))
  size : r.2.1.bigDataReadSize = c.bigDataReadSize
  fs : r.2.2 = (writeUpload c file fs (fileDataPath c) (start + 8 + skip)
    (bigDataPackSize c.recvBuffer - BitVec.ofNat 64 skip)).2

theorem finishFileData_done (c : Client) (file : Option FS) (fs : FS) (start skip : Nat) :
    FileDone c file fs start skip (finishFileData c file fs start skip) := by
  obtain ⟨done, hdone⟩ := writeUpload_client c file fs (fileDataPath c) (start + 8 + skip)
    (bigDataPackSize c.recvBuffer - BitVec.ofNat 64 skip)
  have honly := finishFileData_only c file fs start skip
  unfold finishFileData at honly ⊢
  simp only [hdone] at honly ⊢
  by_cases hend : c.recvBuffer.u32 start = StSockMsg.bigdataEnd
  · rw [if_pos hend] at honly ⊢
    refine ⟨rfl, honly, rfl, ?_, rfl, rfl⟩
    rw [decide_eq_true hend, Bool.or_true]
  · rw [if_neg hend] at honly ⊢
    refine ⟨rfl, honly, rfl, ?_, rfl, rfl⟩
    rw [decide_eq_false hend, Bool.or_false]

/-- The end of a file part does the same to the files of both sides. -/
theorem finishFileData_files {c d : Client} {file file' : Option FS} {fs gs : FS} {n start skip : Nat}
    (hf : SameFrame c.recvBuffer d.recvBuffer n) (hin : PartInside c.recvBuffer skip)
    (hstart : start = (packetDataSize c.recvBuffer).toNat) (hpath : file ≠ none → fileDataPath c = fileDataPath d)
    (hfile : Option.Rel (OpenAlike fs gs (fileDataPath c)) file file') :
    FilesKept fs gs (finishFileData c file fs start skip).2.2 (finishFileData d file' gs start skip).2.2 ∧
      (file ≠ none → (finishFileData c file fs start skip).2.2 (fileDataPath c) =
        (finishFileData d file' gs start skip).2.2 (fileDataPath c)) := by
  obtain ⟨hpack, hbytes⟩ := hf.part hin
  rw [(finishFileData_done c file fs start skip).fs, (finishFileData_done d file' gs start skip).fs]
  cases hfile with
  | none => exact ⟨fun p hp => hp, fun h => absurd rfl h⟩
  | some hfg =>
    rw [← hpath (by simp), ← hpack]
    rw [← hstart] at hbytes
    exact writeUpload_alike (.some hfg) hbytes

theorem finishFileData_alike {u : Uploads} {c d : Client} {file file' : Option FS} {fs gs : FS} {n start skip : Nat}
    (hf : SameFrame c.recvBuffer d.recvBuffer n) (hin : PartInside c.recvBuffer skip) (h : UploadsAlike u c d fs gs)
    (hstart : start = (packetDataSize c.recvBuffer).toNat) (hpath : file ≠ none → fileDataPath c = fileDataPath d)
    (hfile : Option.Rel (OpenAlike fs gs (fileDataPath c)) file file') :
    UploadsAlike u (finishFileData c file fs start skip).2.1 (finishFileData d file' gs start skip).2.1
        (finishFileData c file fs start skip).2.2 (finishFileData d file' gs start skip).2.2 ∧
      FilesKept fs gs (finishFileData c file fs start skip).2.2 (finishFileData d file' gs start skip).2.2 ∧
      (file ≠ none → (finishFileData c file fs start skip).2.2 (fileDataPath c) =
        (finishFileData d file' gs start skip).2.2 (fileDataPath c)) := by
  obtain ⟨-, honly, hready, hfready, hsize, -⟩ := finishFileData_done c file fs start skip
  obtain ⟨-, honly', hready', hfready', hsize', -⟩ := finishFileData_done d file' gs start skip
  have hname := @finishFileData_name c file fs start skip
  have hname' := @finishFileData_name d file' gs start skip
  have hflags := hf.flagsAt hin hstart
  obtain ⟨hkept, hopened⟩ := finishFileData_files hf hin hstart hpath hfile
  generalize finishFileData c file fs start skip = r at *
  generalize finishFileData d file' gs start skip = r' at *
  refine ⟨⟨?_, ?_, ?_, fun hr => ?_, fun hne => ?_, fun hn => ?_, fun p hp => hkept p (h.files p hp),
    fun name => hkept _ (h.dbFiles name)⟩, hkept, hopened⟩
  · rw [honly.idx, honly'.idx, h.idx]
  · rw [hready, hready', h.bigDataReady]
  · rw [hfready, hfready', h.fileDataReady, hflags]
  · rw [hready] at hr
    obtain ⟨h1, h2⟩ := h.ready hr
    rw [hsize, hsize', honly.idx]
    exact ⟨h1, hkept _ h2⟩
  · rw [hsize, hsize', h.size hne]
  · rw [hname, hname', h.name hn]

/-- A first part names the file on both sides. -/
theorem beginFileData_alike {u : Uploads} {c d : Client} {fs gs : FS} {start : Nat} (h : UploadsAlike u c d fs gs)
    (hsize : c.recvBuffer.u32 (start + 4) = d.recvBuffer.u32 (start + 4))
    (hname : c.recvBuffer.slice (start + 8) 32 = d.recvBuffer.slice (start + 8) 32) :
    UploadsAlike u (beginFileData c start) (beginFileData d start) fs gs :=
  ⟨h.idx, h.bigDataReady, rfl, fun hr => ⟨hsize, (h.ready hr).2⟩, fun _ => hsize,
    fun _ => congrArg Name32.ofList hname, h.files, h.dbFiles⟩

/-- How much of the frame a file part has before its bytes. -/
def nameSkip (b : Buf) : Nat := if FirstPart b then 32 else 0

/-- **The same file part**: to the same file, named by it or before it. -/
theorem fileData_alike {u : Uploads} {env : Env} {fs gs : FS} {c d : Client} {n : Nat}
    (hf : SameFrame c.recvBuffer d.recvBuffer n) (hin : PartInside c.recvBuffer (nameSkip c.recvBuffer))
    (h : UploadsAlike u c d fs gs) (hsend : c.fileSendName = d.fileSendName ∧ c.fileDataSending = d.fileDataSending)
    (hnext : NextPart c.recvBuffer → u.named = true ∧ fileDataPath c ∈ u.begun) :
    PartAlike u fs gs (fileDataPath (proessMessageFileData env fs c).2.1) (FirstPart c.recvBuffer)
        (proessMessageFileData env fs c) (proessMessageFileData env gs d) ∧
      (FirstPart c.recvBuffer →
        (proessMessageFileData env fs c).2.1.fileDataName = (proessMessageFileData env gs d).2.1.fileDataName) := by
  have hn := hf.size
  have hpart := hin.part
  have hflags := hf.flags hin
  unfold proessMessageFileData
  simp only
  unfold uploadFlags at hflags
  rw [← hf.packetDataSize hin] at hflags ⊢
  rw [← hflags]
  generalize hstart : (packetDataSize c.recvBuffer).toNat = start at *
  by_cases hfirst : c.recvBuffer.u32 start &&& StSockMsg.bigdataHeader ≠ 0
  · have hyes : FirstPart c.recvBuffer := by
      unfold FirstPart uploadFlags
      rw [hstart]
      exact hfirst
    have hskip : nameSkip c.recvBuffer = 32 := if_pos hyes
    rw [hskip] at hin hpart
    rw [if_pos hfirst, if_pos hfirst]
    have hsize : c.recvBuffer.u32 (start + 4) = d.recvBuffer.u32 (start + 4) := Buf.u32_congr (hf.slice (by omega))
    have hname : c.recvBuffer.slice (start + 8) 32 = d.recvBuffer.slice (start + 8) 32 := hf.slice (by omega)
    have hbegin := @beginFileData_alike u c d fs gs start h hsize hname
    have hnames : (beginFileData c start).fileDataName = (beginFileData d start).fileDataName :=
      congrArg Name32.ofList hname
    have hpath : fileDataPath (beginFileData c start) = fileDataPath (beginFileData d start) :=
      fileDataPath_congr h.idx hnames hsend.1 hsend.2
    have hopen := fopenWrite_alike env fs gs (fileDataPath (beginFileData c start))
    rw [← hpath]
    generalize fopenWrite env fs (fileDataPath (beginFileData c start)) = f at hopen ⊢
    generalize fopenWrite env gs (fileDataPath (beginFileData c start)) = g at hopen ⊢
    cases hopen with
    | none =>
      exact ⟨⟨rfl, hbegin, fun p hp => hp, fun _ (h0 : (-1 : Int) = 0) => absurd h0 (by decide), fun _ => hsize⟩,
        fun _ => hnames⟩
    | @some f g hfg =>
      obtain ⟨h1, h2, h3⟩ := @finishFileData_alike u (beginFileData c start) (beginFileData d start) (some f) (some g) fs gs
        n start 32 hf hin hbegin hstart.symm (fun _ => hpath) (.some hfg)
      refine ⟨⟨rfl, h1, h2, fun _ _ => ?_, fun _ => ?_⟩, fun _ => ?_⟩
      · rw [(@finishFileData_path (beginFileData c start) (some f) fs start 32).2]
        exact h3 (by simp)
      · rw [(finishFileData_done (beginFileData c start) (some f) fs start 32).size,
          (finishFileData_done (beginFileData d start) (some g) gs start 32).size]
        exact hsize
      · rw [finishFileData_name, finishFileData_name]
        exact hnames
  · have hnot : ¬ FirstPart c.recvBuffer := by
      unfold FirstPart uploadFlags
      rw [hstart]
      exact hfirst
    have hskip : nameSkip c.recvBuffer = 0 := if_neg hnot
    rw [hskip] at hin
    rw [if_neg hfirst, if_neg hfirst]
    split
    · rename_i hmore
      obtain ⟨hnamed, hbegun⟩ := hnext ⟨hnot, by unfold uploadFlags; rw [hstart]; exact hmore⟩
      have hpath : fileDataPath c = fileDataPath d := fileDataPath_congr h.idx (h.name hnamed) hsend.1 hsend.2
      have hopen := fopenAppend_alike env (h.files _ hbegun)
      rw [← hpath]
      obtain ⟨h1, h2, -⟩ := @finishFileData_alike u c d _ _ fs gs n start 0 hf hin h hstart.symm (fun _ => hpath) hopen
      exact ⟨⟨rfl, h1, h2, fun h => absurd h hnot, fun h => absurd h hnot⟩, fun h => absurd h hnot⟩
    · obtain ⟨h1, h2, -⟩ := @finishFileData_alike u c d none none fs gs n start 0 hf hin h hstart.symm
        (fun h => absurd rfl h) .none
      exact ⟨⟨rfl, h1, h2, fun h => absurd h hnot, fun h => absurd h hnot⟩, fun h => absurd h hnot⟩

/-! ## The frame's three parts -/

def messagePart (c : Client) : Client :=
  if msgType c.recvBuffer &&& StSockMsg.packdatasize ≠ 0 then processMessagePacket c else c

def bigPart (env : Env) (fs : FS) (b : Buf) (c : Client) : Int × Client × FS :=
  if msgType b &&& StSockMsg.bigdata ≠ 0 then proessMessageBigData env fs c else (0, c, fs)

def filePart (env : Env) (fs : FS) (b : Buf) (c : Client) : Int × Client × FS :=
  if msgType b &&& StSockMsg.filedata ≠ 0 then proessMessageFileData env fs c else (0, c, fs)

theorem processFrame_parts (env : Env) (s : Conn) : processFrame env s =
    let r := bigPart env s.fs s.client.recvBuffer (messagePart s.client)
    if r.1 ≠ 0 then (r.1, { s with client := r.2.1, fs := r.2.2 })
    else
      let r' := filePart env r.2.2 s.client.recvBuffer r.2.1
      if r'.1 ≠ 0 then (r'.1, { s with client := r'.2.1, fs := r'.2.2 })
      else (0, { s with client := { r'.2.1 with packRef := msgPackNo s.client.recvBuffer }, fs := r'.2.2 }) := rfl

/-- What the connection has begun, with the frame the slot has just taken. -/
def frameUploads (c : Client) (u : Uploads) : Uploads :=
  let big := if msgType c.recvBuffer &&& StSockMsg.bigdata ≠ 0 ∧ FirstPart c.recvBuffer then [bigDataPath c.idx.toNat] else []
  if msgType c.recvBuffer &&& StSockMsg.filedata ≠ 0 ∧ FirstPart c.recvBuffer then
    ⟨true, fileDataPath c :: (big ++ u.begun)⟩
  else ⟨u.named, big ++ u.begun⟩

/-- A frame whose parts lie inside it, and whose upload, if it is no first part, goes on
    with one that this connection has begun. -/
structure FrameInside (u : Uploads) (c : Client) : Prop where
  table : msgType c.recvBuffer &&& StSockMsg.packdatasize ≠ 0 → TableFits c.recvBuffer
  big : msgType c.recvBuffer &&& StSockMsg.bigdata ≠ 0 → PartInside c.recvBuffer 0
  file : msgType c.recvBuffer &&& StSockMsg.filedata ≠ 0 → PartInside c.recvBuffer (nameSkip c.recvBuffer)
  bigNext : msgType c.recvBuffer &&& StSockMsg.bigdata ≠ 0 → NextPart c.recvBuffer →
    bigDataPath c.idx.toNat ∈ u.begun
  fileNext : msgType c.recvBuffer &&& StSockMsg.filedata ≠ 0 → NextPart c.recvBuffer →
    u.named = true ∧ fileDataPath c ∈ u.begun

theorem messagePart_alike {c d : Client} {n : Nat} (hf : SameFrame c.recvBuffer d.recvBuffer n) (hc : c.recvCount = 0)
    (hd : d.recvCount = 0) (hfit : msgType c.recvBuffer &&& StSockMsg.packdatasize ≠ 0 → TableFits c.recvBuffer) :
    SameMessages (messagePart c) (messagePart d) := by
  unfold messagePart
  rw [← hf.fields.1]
  split
  · rename_i hty
    exact processMessagePacket_alike hf hc hd (hfit hty)
  · exact sameMessages_none hc hd

theorem messagePart_eq (c : Client) : messagePart c = messagesUpdate c (messagePart c) := by
  unfold messagePart
  split
  · exact processMessagePacket_eq c
  · rfl

/-- The decoder has no part in uploads. -/
theorem UploadsAlike.messages {u : Uploads} {c d : Client} {fs gs : FS} (h : UploadsAlike u c d fs gs) (r r' : Client) :
    UploadsAlike u (messagesUpdate c r) (messagesUpdate d r') fs gs :=
  ⟨h.idx, h.bigDataReady, h.fileDataReady, h.ready, h.size, h.name, h.files, h.dbFiles⟩

/-- And uploads none in the messages. -/
theorem SameMessages.uploads {c c' d d' : Client} (h : SameMessages c d) (hc : OnlyUploaded c c') (hd : OnlyUploaded d d') :
    SameMessages c' d' := by
  unfold OnlyUploaded at hc hd
  rw [hc, hd]
  exact ⟨h.recvCount, h.data⟩

theorem bigPart_only (env : Env) (fs : FS) (b : Buf) (c : Client) : OnlyUploaded c (bigPart env fs b c).2.1 := by
  unfold bigPart
  split
  · exact proessMessageBigData_only env fs c
  · rfl

theorem filePart_only (env : Env) (fs : FS) (b : Buf) (c : Client) : OnlyUploaded c (filePart env fs b c).2.1 := by
  unfold filePart
  split
  · exact proessMessageFileData_only env fs c
  · rfl

theorem bigPart_name (env : Env) (fs : FS) (b : Buf) (c : Client) :
    (bigPart env fs b c).2.1.fileDataName = c.fileDataName := by
  unfold bigPart
  split
  · have h := bigData_handled env fs c
    generalize proessMessageBigData env fs c = r at h ⊢
    cases h with
    | unopened => rfl
    | first f => exact (finishBigData_done _ _ _ _).name
    | next => exact (finishBigData_done _ _ _ _).name
    | neither => exact (finishBigData_done _ _ _ _).name
  · rfl

theorem PartAlike.skip {u : Uploads} {c d : Client} {fs gs : FS} {path : Path} {first : Prop}
    (h : UploadsAlike u c d fs gs) (hno : ¬ first) : PartAlike u fs gs path first (0, c, fs) (0, d, gs) :=
  ⟨rfl, h, fun _ hp => hp, fun hf => absurd hf hno, fun hf => absurd hf hno⟩

theorem bigPart_alike {u : Uploads} {env : Env} {fs gs : FS} {c d : Client} {n : Nat}
    (hf : SameFrame c.recvBuffer d.recvBuffer n) (hok : FrameInside u c) (h : UploadsAlike u c d fs gs) :
    PartAlike u fs gs (bigDataPath c.idx.toNat) (msgType c.recvBuffer &&& StSockMsg.bigdata ≠ 0 ∧ FirstPart c.recvBuffer)
      (bigPart env fs c.recvBuffer c) (bigPart env gs d.recvBuffer d) := by
  unfold bigPart
  rw [← hf.fields.1]
  split
  · rename_i hty
    obtain ⟨h1, h2, h3, h4, h5⟩ := @bigData_alike u env fs gs c d n hf (hok.big hty) h (hok.bigNext hty)
    exact ⟨h1, h2, h3, fun hp => h4 hp.2, fun hp => h5 hp.2⟩
  · rename_i hty
    exact .skip h fun hp => hty hp.1

theorem filePart_alike {u : Uploads} {env : Env} {fs gs : FS} {c d : Client} {n : Nat}
    (hf : SameFrame c.recvBuffer d.recvBuffer n) (hok : FrameInside u c) (h : UploadsAlike u c d fs gs)
    (hsend : c.fileSendName = d.fileSendName ∧ c.fileDataSending = d.fileDataSending) :
    PartAlike u fs gs (fileDataPath (filePart env fs c.recvBuffer c).2.1)
        (msgType c.recvBuffer &&& StSockMsg.filedata ≠ 0 ∧ FirstPart c.recvBuffer) (filePart env fs c.recvBuffer c)
        (filePart env gs d.recvBuffer d) ∧
      (msgType c.recvBuffer &&& StSockMsg.filedata ≠ 0 ∧ FirstPart c.recvBuffer →
        (filePart env fs c.recvBuffer c).2.1.fileDataName = (filePart env gs d.recvBuffer d).2.1.fileDataName) := by
  unfold filePart
  rw [← hf.fields.1]
  split
  · rename_i hty
    obtain ⟨⟨h1, h2, h3, h4, h5⟩, hname⟩ :=
      @fileData_alike u env fs gs c d n hf (hok.file hty) h hsend (hok.fileNext hty)
    exact ⟨⟨h1, h2, h3, fun hp => h4 hp.2, fun hp => h5 hp.2⟩, fun hp => hname hp.2⟩
  · rename_i hty
    exact ⟨.skip h fun hp => hty hp.1, fun hp => absurd hp.1 hty⟩

theorem FrameInside.congr {u : Uploads} {c c' : Client} (h : FrameInside u c) (hb : c'.recvBuffer = c.recvBuffer)
    (hidx : c'.idx = c.idx) (hpath : fileDataPath c' = fileDataPath c) : FrameInside u c' := by
  obtain ⟨h1, h2, h3, h4, h5⟩ := h
  constructor
  · rw [hb]
    exact h1
  · rw [hb]
    exact h2
  · rw [hb]
    exact h3
  · rw [hb, hidx]
    exact h4
  · rw [hb, hpath]
    exact h5

theorem OnlyUploaded.recvBuffer {c r : Client} (h : OnlyUploaded c r) : r.recvBuffer = c.recvBuffer := by
  unfold OnlyUploaded at h
  rw [h]
  rfl

theorem OnlyUploaded.send {c r : Client} (h : OnlyUploaded c r) :
    r.fileSendName = c.fileSendName ∧ r.fileDataSending = c.fileDataSending := by
  unfold OnlyUploaded at h
  rw [h]
  exact ⟨rfl, rfl⟩

/-- Two slots after the same frame. -/
structure FrameTaken (u : Uploads) (r r' : Int × Conn) : Prop where
  ret : r.1 = r'.1
  messages : SameMessages r.2.client r'.2.client
  uploads : UploadsAlike (if r.1 = 0 then frameUploads r.2.client u else u) r.2.client r'.2.client r.2.fs r'.2.fs

/-- What both parts of an upload have begun. -/
theorem parts_uploads {u : Uploads} {fs gs fs2 gs2 : FS} {c2 d2 : Client} {r r' : Int × Client × FS} {packNo : BitVec 32}
    (h2 : PartAlike u fs gs (bigDataPath c2.idx.toNat) (msgType c2.recvBuffer &&& StSockMsg.bigdata ≠ 0 ∧
      FirstPart c2.recvBuffer) (0, c2, fs2) (0, d2, gs2))
    (h3 : PartAlike u fs2 gs2 (fileDataPath r.2.1) (msgType c2.recvBuffer &&& StSockMsg.filedata ≠ 0 ∧
      FirstPart c2.recvBuffer) r r')
    (hname : msgType c2.recvBuffer &&& StSockMsg.filedata ≠ 0 ∧ FirstPart c2.recvBuffer →
      r.2.1.fileDataName = r'.2.1.fileDataName)
    (hsize : ¬ (msgType c2.recvBuffer &&& StSockMsg.filedata ≠ 0 ∧ FirstPart c2.recvBuffer) → FirstPart c2.recvBuffer →
      r.2.1.bigDataReadSize = c2.bigDataReadSize ∧ r'.2.1.bigDataReadSize = d2.bigDataReadSize)
    (honly : OnlyUploaded c2 r.2.1) (h0 : r.1 = 0) :
    UploadsAlike (frameUploads { r.2.1 with packRef := packNo } u) { r.2.1 with packRef := packNo }
      { r'.2.1 with packRef := packNo } r.2.2 r'.2.2 := by
  obtain ⟨g1, g2, g3, g4, g5, g6, g7, g8⟩ := h3.uploads
  have hbig : ∀ p ∈ (if msgType c2.recvBuffer &&& StSockMsg.bigdata ≠ 0 ∧ FirstPart c2.recvBuffer then
      [bigDataPath c2.idx.toNat] else []), r.2.2 p = r'.2.2 p := by
    intro p hp
    split at hp
    · rename_i hb
      rw [List.mem_singleton.mp hp]
      exact h3.kept _ (h2.opened hb rfl)
    · cases hp
  have hsizes : FirstPart c2.recvBuffer → (msgType c2.recvBuffer &&& StSockMsg.bigdata ≠ 0 ∨
      msgType c2.recvBuffer &&& StSockMsg.filedata ≠ 0) → r.2.1.bigDataReadSize = r'.2.1.bigDataReadSize := by
    intro hfirst hty
    by_cases hfile : msgType c2.recvBuffer &&& StSockMsg.filedata ≠ 0
    · exact h3.size ⟨hfile, hfirst⟩
    · obtain ⟨e1, e2⟩ := hsize (fun h => hfile h.1) hfirst
      rw [e1, e2]
      exact h2.size ⟨hty.resolve_right hfile, hfirst⟩
  have hup : frameUploads { r.2.1 with packRef := packNo } u =
      (if msgType c2.recvBuffer &&& StSockMsg.filedata ≠ 0 ∧ FirstPart c2.recvBuffer then
        ⟨true, fileDataPath r.2.1 :: ((if msgType c2.recvBuffer &&& StSockMsg.bigdata ≠ 0 ∧ FirstPart c2.recvBuffer then
          [bigDataPath c2.idx.toNat] else []) ++ u.begun)⟩
      else ⟨u.named, (if msgType c2.recvBuffer &&& StSockMsg.bigdata ≠ 0 ∧ FirstPart c2.recvBuffer then
          [bigDataPath c2.idx.toNat] else []) ++ u.begun⟩) := by
    rw [← honly.recvBuffer, ← honly.idx]
    rfl
  rw [hup]
  have hall : ∀ p ∈ (if msgType c2.recvBuffer &&& StSockMsg.bigdata ≠ 0 ∧ FirstPart c2.recvBuffer then
      [bigDataPath c2.idx.toNat] else []) ++ u.begun, r.2.2 p = r'.2.2 p := by
    intro p hp
    rcases List.mem_append.mp hp with hp | hp
    · exact hbig p hp
    · exact g7 p hp
  split
  · rename_i hfile
    refine ⟨g1, g2, g3, g4, fun _ => h3.size hfile, fun _ => hname hfile, fun p hp => ?_, g8⟩
    rcases List.mem_cons.mp hp with rfl | hp
    · exact h3.opened hfile h0
    · exact hall p hp
  · refine ⟨g1, g2, g3, g4, fun hne => ?_, g6, hall, g8⟩
    by_cases hb : msgType c2.recvBuffer &&& StSockMsg.bigdata ≠ 0 ∧ FirstPart c2.recvBuffer
    · exact hsizes hb.2 (Or.inl hb.1)
    · rw [if_neg hb] at hne
      exact g5 hne

theorem filePart_none {env : Env} {fs : FS} {b : Buf} {c : Client} (h : ¬ msgType b &&& StSockMsg.filedata ≠ 0) :
    filePart env fs b c = (0, c, fs) := if_neg h

/-- The fields of the slot that name its files. -/
structure SamePlace (c c' : Client) : Prop where
  recvBuffer : c'.recvBuffer = c.recvBuffer
  idx : c'.idx = c.idx
  path : fileDataPath c' = fileDataPath c
  send : c'.fileSendName = c.fileSendName ∧ c'.fileDataSending = c.fileDataSending

theorem messagePart_place (c : Client) : SamePlace c (messagePart c) := by
  rw [messagePart_eq]
  exact ⟨rfl, rfl, rfl, rfl, rfl⟩

theorem bigPart_place (env : Env) (fs : FS) (b : Buf) (c : Client) : SamePlace c (bigPart env fs b c).2.1 := by
  have honly := bigPart_only env fs b c
  exact ⟨honly.recvBuffer, honly.idx, fileDataPath_congr honly.idx (bigPart_name env fs b c) honly.send.1 honly.send.2,
    honly.send⟩

/-- **The same frame**: taken or not by both slots, with the same messages and uploads. -/
theorem processFrame_alike {u : Uploads} {env : Env} {s t : Conn} {n : Nat}
    (hf : SameFrame s.client.recvBuffer t.client.recvBuffer n) (hs : s.client.recvCount = 0) (ht : t.client.recvCount = 0)
    (h : UploadsAlike u s.client t.client s.fs t.fs)
    (hsend : s.client.fileSendName = t.client.fileSendName ∧ s.client.fileDataSending = t.client.fileDataSending)
    (hok : FrameInside u s.client) : FrameTaken u (processFrame env s) (processFrame env t) := by
  have hmsg := messagePart_alike hf hs ht hok.table
  have hup : UploadsAlike u (messagePart s.client) (messagePart t.client) s.fs t.fs := by
    rw [messagePart_eq s.client, messagePart_eq t.client]
    exact h.messages _ _
  obtain ⟨hb, hidx, hpath, hnames⟩ := messagePart_place s.client
  obtain ⟨hb', -, -, hnames'⟩ := messagePart_place t.client
  have hpackNo := hf.fields.2.2.1
  rw [processFrame_parts, processFrame_parts, ← hb, ← hb']
  rw [← hb, ← hb'] at hf hpackNo
  have hok := hok.congr hb hidx hpath
  have hsend : (messagePart s.client).fileSendName = (messagePart t.client).fileSendName ∧
      (messagePart s.client).fileDataSending = (messagePart t.client).fileDataSending := by
    rw [hnames.1, hnames.2, hnames'.1, hnames'.2]
    exact hsend
  generalize messagePart s.client = c at *
  generalize messagePart t.client = d at *
  clear hb hb' hidx hpath hnames hnames' h
  have hbig := @bigPart_alike u env s.fs t.fs c d n hf hok hup
  have honly := bigPart_only env s.fs c.recvBuffer c
  have honly' := bigPart_only env t.fs d.recvBuffer d
  obtain ⟨hb, hidx, hpath, hnames⟩ := bigPart_place env s.fs c.recvBuffer c
  obtain ⟨hb', -, -, hnames'⟩ := bigPart_place env t.fs d.recvBuffer d
  generalize bigPart env s.fs c.recvBuffer c = r at *
  generalize bigPart env t.fs d.recvBuffer d = r' at *
  obtain ⟨ret, c2, fs2⟩ := r
  obtain ⟨ret', d2, gs2⟩ := r'
  have hret : ret = ret' := hbig.ret
  subst hret
  simp only at *
  by_cases h0 : ret ≠ 0
  · rw [if_pos h0, if_pos h0]
    exact ⟨rfl, hmsg.uploads honly honly', by rw [if_neg h0]; exact hbig.uploads⟩
  · rw [if_neg h0, if_neg h0]
    have h0 : ret = 0 := Classical.not_not.mp h0
    rw [← hb, ← hb'] at hf hpackNo ⊢
    rw [← hb, ← hidx] at hbig
    have hok := hok.congr hb hidx hpath
    have hsend : c2.fileSendName = d2.fileSendName ∧ c2.fileDataSending = d2.fileDataSending := by
      rw [hnames.1, hnames.2, hnames'.1, hnames'.2]
      exact hsend
    have hmsg := hmsg.uploads honly honly'
    obtain ⟨hfile, hname⟩ := @filePart_alike u env fs2 gs2 c2 d2 n hf hok hbig.uploads hsend
    have hsize : ¬ (msgType c2.recvBuffer &&& StSockMsg.filedata ≠ 0 ∧ FirstPart c2.recvBuffer) →
        FirstPart c2.recvBuffer →
        (filePart env fs2 c2.recvBuffer c2).2.1.bigDataReadSize = c2.bigDataReadSize ∧
          (filePart env gs2 d2.recvBuffer d2).2.1.bigDataReadSize = d2.bigDataReadSize := by
      intro hno hfirst
      have hty : ¬ msgType c2.recvBuffer &&& StSockMsg.filedata ≠ 0 := fun hty => hno ⟨hty, hfirst⟩
      rw [filePart_none hty, filePart_none (hf.fields.1 ▸ hty)]
      exact ⟨rfl, rfl⟩
    have honly := filePart_only env fs2 c2.recvBuffer c2
    have honly' := filePart_only env gs2 d2.recvBuffer d2
    generalize filePart env fs2 c2.recvBuffer c2 = q at *
    generalize filePart env gs2 d2.recvBuffer d2 = q' at *
    have hmsg := hmsg.uploads honly honly'
    rw [← hfile.ret]
    by_cases h3 : q.1 ≠ 0
    · rw [if_pos h3, if_pos h3]
      exact ⟨rfl, hmsg, by rw [if_neg h3]; exact hfile.uploads⟩
    · rw [if_neg h3, if_neg h3, ← hpackNo]
      subst h0
      exact ⟨rfl, ⟨hmsg.recvCount, hmsg.data⟩, parts_uploads hbig hfile hname hsize honly (Classical.not_not.mp h3)⟩

end StarServer.Socket

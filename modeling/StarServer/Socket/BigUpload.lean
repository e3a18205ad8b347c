/-
  StarServer.Socket.BigUpload — big data from its first frame to `STSV_GetBigData`.

  The declared total, the running count, the temp file and the ready flag change one by one
  with the flag bits of each frame, and nothing compares them. A file upload keeps its total
  and count in the same two fields.

  `Upload` is what the frames of a connection have brought: the payloads since the last
  HEADER, and whether all of them went into the file with nothing else in between. A slot
  runs with it (`uploadStep`).

  Proved:
  (1) `frame_upload`: what one taken frame does to the flag, the two sizes and the file.
  (2) `big_data_complete`: in every run whose frames set or keep the flag only when the
      upload is then complete (`UploadOk`), big data that is ready is complete in every
      state, and `STSV_GetBigData` gives exactly its bytes and stays in the block.
  (3) `big_data_incomplete`: an END without a HEADER, and a total the payloads do not reach.
-/

import StarServer.Socket.SlotReuse
import StarServer.Socket.Taken

namespace StarServer.Socket

open StarServer.Memory

/-! ## What the frames bring -/

def CarriesBig (b : Buf) : Prop := msgType b &&& StSockMsg.bigdata ≠ 0

def CarriesFile (b : Buf) : Prop := msgType b &&& StSockMsg.filedata ≠ 0

instance (b : Buf) : Decidable (CarriesBig b) := by unfold CarriesBig; infer_instance

instance (b : Buf) : Decidable (CarriesFile b) := by unfold CarriesFile; infer_instance

instance (b : Buf) (skip : Nat) : Decidable (PartInside b skip) :=
  decidable_of_iff (packDataLen + 2 * numData b ≤ dataSizeLen + msgSize b ∧
    (packetDataSize b).toNat + 8 + skip ≤ dataSizeLen + msgSize b) ⟨fun ⟨h1, h2⟩ => ⟨h1, h2⟩, fun h => ⟨h.table, h.part⟩⟩

/-- The payload of a frame's upload part: the rest of the frame, behind the flags. -/
def partBytes (b : Buf) : List Byte :=
  b.slice ((packetDataSize b).toNat + 8) (dataSizeLen + msgSize b - ((packetDataSize b).toNat + 8)).toNat

/-- The total that a first part announces. -/
def announced (b : Buf) : BitVec 32 := b.u32 ((packetDataSize b).toNat + 4)

/-- The payloads since the last HEADER that opened the file (`none`: there is none on this
    connection), and whether the file and the count are theirs alone. -/
structure Upload where
  payloads : Option (List Byte)
  sound : Bool
  deriving DecidableEq

def noUpload : Upload := ⟨none, false⟩

/-- The frame's file part writes the two sizes that it shares with the big data. -/
def FileTouches (env : Env) (c : Client) : Prop :=
  CarriesFile c.recvBuffer ∧ (FirstPart c.recvBuffer ∨
    (NextPart c.recvBuffer ∧ env.canOpen (fileDataPath c) = true ∧ bigDataPackSize c.recvBuffer ≠ 0))

instance (env : Env) (c : Client) : Decidable (FileTouches env c) := by unfold FileTouches; infer_instance

/-- The part's payload, which lies in the frame, goes into the temp file, and no file part
    comes with it. -/
def PartWritten (env : Env) (c : Client) : Prop :=
  PartInside c.recvBuffer 0 ∧ (env.canOpen (bigDataPath c.idx.toNat) = true ∨ bigDataPackSize c.recvBuffer = 0) ∧
    ¬ FileTouches env c

instance (env : Env) (c : Client) : Decidable (PartWritten env c) := by unfold PartWritten; infer_instance

/-- The upload with the frame in `recvBuffer`. -/
def frameUpload (env : Env) (c : Client) (u : Upload) : Upload :=
  if CarriesBig c.recvBuffer ∧ FirstPart c.recvBuffer then
    if env.canOpen (bigDataPath c.idx.toNat) = true then ⟨some (partBytes c.recvBuffer), PartWritten env c⟩ else noUpload
  else if CarriesBig c.recvBuffer ∧ NextPart c.recvBuffer then
    ⟨u.payloads.map (· ++ partBytes c.recvBuffer), u.sound && PartWritten env c⟩
  else ⟨u.payloads, u.sound && !decide (FileTouches env c)⟩

variable (srv : Server)

def trackUpload (s : Slot) (u : Upload) : Ev → Upload
  | .accept .. => noUpload
  | .message env =>
    match takenFrame srv s.conn with
    | some t => frameUpload env t.client u
    | none => u
  | _ => u

/-- The slot's step, with the upload. -/
def uploadStep (p : Slot × Upload) (e : Ev) : Option (Slot × Upload) :=
  (step srv p.1 e).map fun s => (s, trackUpload srv p.1 p.2 e)

/-! ## The property and the condition -/

/-- Big data that is ready is what the frames brought: the file, the count, the total, and
    what `STSV_GetBigData` gives a handler. -/
def BigDataComplete (s : Conn) (u : Upload) : Prop :=
  s.client.bigDataReady = true → ∃ l, u.payloads = some l ∧ s.fs (bigDataPath s.client.idx.toNat) = some l ∧
    s.client.bigDataReadSizeDone = s.client.bigDataReadSize ∧ l.length = s.client.bigDataReadSize.toNat ∧
    s.client.bigDataReadSize.toNat ≤ stsvBigdataBuffer ∧
    ∀ env, ((stsvGetBigData env s).1 =
        if getBigDataBufferIdx s.pool = none ∨ env.canOpen (bigDataPath s.client.idx.toNat) = false then .null else .data l) ∧
      ((∀ p ∈ s.pool, p.buffer.top ≤ stsvBigdataBuffer) →
        ∀ p ∈ (stsvGetBigData env s).2.pool, p.buffer.top ≤ stsvBigdataBuffer)

/-- With this frame the flag is set, or stays so. -/
def EndsReady (env : Env) (c : Client) : Prop :=
  if CarriesBig c.recvBuffer ∧ FirstPart c.recvBuffer then
    env.canOpen (bigDataPath c.idx.toNat) = true ∧ uploadFlags c.recvBuffer &&& StSockMsg.bigdataEnd ≠ 0
  else c.bigDataReady = true ∨ (CarriesBig c.recvBuffer ∧ uploadFlags c.recvBuffer &&& StSockMsg.bigdataEnd ≠ 0)

/-- The total that is declared with this frame, or was before it. -/
def declared (c : Client) : BitVec 32 :=
  if CarriesBig c.recvBuffer ∧ FirstPart c.recvBuffer then announced c.recvBuffer else c.bigDataReadSize

/-- All of `size` has come, and a block holds it. -/
def Complete (u : Upload) (size : BitVec 32) : Prop :=
  u.sound = true ∧ ∃ l, u.payloads = some l ∧ l.length = size.toNat ∧ size.toNat ≤ stsvBigdataBuffer

/-- A frame that leaves the flag set completes the upload, or leaves it complete. -/
def UploadOk (env : Env) (c : Client) (u : Upload) : Prop := EndsReady env c → Complete (frameUpload env c u) (declared c)

/-- The condition on a step. -/
def UploadStepOk (p : Slot × Upload) : Ev → Prop
  | .message env => ∀ t, takenFrame srv p.1.conn = some t → UploadOk env t.client p.2
  | _ => True

/-! ## One part -/

theorem partSize {b : Buf} (h : PartInside b 0) :
    (bigDataPackSize b).toNat = (dataSizeLen + msgSize b - ((packetDataSize b).toNat + 8)).toNat := by
  have hpart := h.part
  have h12 : dataSizeLen = 12 := rfl
  have h8 : (8 : BitVec 64).toNat = 8 := rfl
  have hint : (b.u32 8).toInt = msgSize b := rfl
  have hlt := BitVec.toInt_lt (x := b.u32 8)
  have hp := (packetDataSize b).isLt
  unfold bigDataPackSize
  rw [BitVec.toNat_sub, BitVec.toNat_add, BitVec.toNat_ofInt, BitVec.toNat_ofNat, h8, h12]
  omega

/-- What the code writes of a part inside the frame is its payload. -/
theorem partBytes_eq {b : Buf} (h : PartInside b 0) :
    b.slice ((packetDataSize b).toNat + 8) (bigDataPackSize b).toNat = partBytes b ∧
      (bigDataPackSize b).setWidth 32 = BitVec.ofNat 32 (partBytes b).length := by
  refine ⟨by rw [partSize h]; rfl, ?_⟩
  apply BitVec.eq_of_toNat_eq
  rw [BitVec.toNat_setWidth, BitVec.toNat_ofNat, partBytes, Buf.length_slice, partSize h]

theorem partBytes_nil {b : Buf} (h : PartInside b 0) (h0 : bigDataPackSize b = 0) : partBytes b = [] := by
  have hlen : (partBytes b).length = (bigDataPackSize b).toNat := by rw [partSize h, partBytes, Buf.length_slice]
  rw [h0] at hlen
  exact List.eq_nil_of_length_eq_zero hlen

/-- The files of the two kinds of upload are in different directories. -/
theorem bigDataPath_ne (n : Nat) (c : Client) : bigDataPath n ≠ fileDataPath c := by
  intro h
  have hbig : (bigDataPath n).head? = some 0x54 := by simp [bigDataPath, str]
  have hfile : (fileDataPath c).head? = some 0x46 := by simp [fileDataPath, str]
  rw [h, hfile] at hbig
  exact absurd hbig (by decide)

/-! ## What one frame does -/

/-- Before it: the count and the file are the payloads', while nothing has come between. -/
def Sound (c : Client) (fs : FS) (u : Upload) : Prop :=
  u.sound = true → ∃ l, u.payloads = some l ∧ fs (bigDataPath c.idx.toNat) = some l ∧
    c.bigDataReadSizeDone = BitVec.ofNat 32 l.length

theorem finishBigData_count (c : Client) (file : Option FS) (fs : FS) (start : Nat) :
    (finishBigData c file fs start).2.1.bigDataReadSizeDone =
      (writeUpload c file fs (bigDataPath c.idx.toNat) (start + 8) (bigDataPackSize c.recvBuffer)).1.bigDataReadSizeDone := by
  unfold finishBigData
  simp only
  split
  · rfl
  · rfl

/-- A part behind what the file holds. -/
theorem bigNext_written {env : Env} {c : Client} {fs : FS} {l : List Byte} (hw : PartWritten env c)
    (hfile : fs (bigDataPath c.idx.toNat) = some l) (hdone : c.bigDataReadSizeDone = BitVec.ofNat 32 l.length) :
    let r := finishBigData c (fopenAppend env fs (bigDataPath c.idx.toNat)) fs (packetDataSize c.recvBuffer).toNat
    r.2.2 (bigDataPath c.idx.toNat) = some (l ++ partBytes c.recvBuffer) ∧
      r.2.1.bigDataReadSizeDone = BitVec.ofNat 32 (l ++ partBytes c.recvBuffer).length := by
  obtain ⟨hin, hopen, -⟩ := hw
  obtain ⟨hbytes, hcount⟩ := partBytes_eq hin
  simp only
  rw [(finishBigData_done _ _ _ _).fs, finishBigData_count]
  unfold fopenAppend
  by_cases hcan : env.canOpen (bigDataPath c.idx.toNat) = true
  · rw [if_pos hcan]
    simp only [writeUpload, fwriteEnd, Function.update_self, hfile, Option.getD_some, hbytes, hcount, hdone]
    refine ⟨trivial, ?_⟩
    rw [List.length_append, BitVec.ofNat_add]
  · -- the file did not open, and there was nothing to write
    have hnil := partBytes_nil hin (hopen.resolve_left hcan)
    rw [if_neg hcan, hnil, List.append_nil]
    exact ⟨hfile, hdone⟩

/-- A first part in the new file. -/
theorem bigFirst_written {env : Env} {c : Client} {fs fs' : FS} (hin : PartInside c.recvBuffer 0)
    (hopen : fopenWrite env fs (bigDataPath c.idx.toNat) = some fs') :
    let start := (packetDataSize c.recvBuffer).toNat
    let r := finishBigData (beginBigData c start) (some fs') fs start
    r.2.2 (bigDataPath c.idx.toNat) = some (partBytes c.recvBuffer) ∧
      r.2.1.bigDataReadSizeDone = BitVec.ofNat 32 (partBytes c.recvBuffer).length := by
  obtain ⟨hbytes, hcount⟩ := partBytes_eq hin
  unfold fopenWrite at hopen
  by_cases hcan : env.canOpen (bigDataPath c.idx.toNat) = true
  · rw [if_pos hcan] at hopen
    cases hopen
    simp only
    rw [(finishBigData_done _ _ _ _).fs, finishBigData_count]
    simp only [writeUpload, fwriteEnd, beginBigData, Function.update_self, Option.getD_some, hbytes, hcount,
      List.nil_append]
    exact ⟨trivial, BitVec.zero_add _⟩
  · rw [if_neg hcan] at hopen
    cases hopen

/-- What the big-data part of a frame leaves. -/
structure BigParted (env : Env) (c : Client) (u : Upload) (r : Int × Client × FS) : Prop where
  ready : r.2.1.bigDataReady = true → EndsReady env c
  size : r.1 = 0 → r.2.1.bigDataReadSize = declared c
  sound : (frameUpload env c u).sound = true → r.1 = 0 ∧ ∃ l, (frameUpload env c u).payloads = some l ∧
    r.2.2 (bigDataPath c.idx.toNat) = some l ∧ r.2.1.bigDataReadSizeDone = BitVec.ofNat 32 l.length

theorem parted_first {env : Env} {c : Client} {fs : FS} {u : Upload} (hbig : CarriesBig c.recvBuffer)
    (hfirst : FirstPart c.recvBuffer) : BigParted env c u (proessMessageBigData env fs c) := by
  have hcan := fopenWrite_isSome env fs (bigDataPath c.idx.toNat)
  have h := bigData_handled env fs c
  generalize proessMessageBigData env fs c = r at h ⊢
  cases h with
  | unopened _ hopen =>
    rw [hopen] at hcan
    refine ⟨(fun hr => nomatch hr), (fun hret => nomatch hret), fun hs => ?_⟩
    unfold frameUpload at hs
    rw [if_pos ⟨hbig, hfirst⟩, if_neg fun h => nomatch hcan.mpr h] at hs
    cases hs
  | first f _ hopen =>
    rw [hopen] at hcan
    have hdone := finishBigData_done (beginBigData c (packetDataSize c.recvBuffer).toNat) (some f) fs
      (packetDataSize c.recvBuffer).toNat
    refine ⟨fun hr => ?_, fun _ => ?_, fun hs => ⟨hdone.ret, ?_⟩⟩
    · simp only [hdone.ready] at hr
      unfold EndsReady
      rw [if_pos ⟨hbig, hfirst⟩]
      exact ⟨hcan.mp rfl, of_decide_eq_true ((Bool.false_or _).symm.trans hr)⟩
    · unfold declared
      rw [if_pos ⟨hbig, hfirst⟩]
      exact hdone.size
    · unfold frameUpload at hs ⊢
      rw [if_pos ⟨hbig, hfirst⟩, if_pos (hcan.mp rfl)] at hs ⊢
      exact ⟨_, rfl, bigFirst_written (of_decide_eq_true hs).1 hopen⟩
  | next hnext => exact absurd hfirst hnext.1
  | neither hno => exact absurd hfirst hno

/-- The parts that are no first ones, whether the code opens the file for them or not. -/
theorem parted_finish {env : Env} {c : Client} {fs : FS} {u : Upload} (file : Option FS) (hbig : CarriesBig c.recvBuffer)
    (hfirst : ¬ FirstPart c.recvBuffer)
    (hs : (frameUpload env c u).sound = true → ∃ l, (frameUpload env c u).payloads = some l ∧
      (finishBigData c file fs (packetDataSize c.recvBuffer).toNat).2.2 (bigDataPath c.idx.toNat) = some l ∧
      (finishBigData c file fs (packetDataSize c.recvBuffer).toNat).2.1.bigDataReadSizeDone = BitVec.ofNat 32 l.length) :
    BigParted env c u (finishBigData c file fs (packetDataSize c.recvBuffer).toNat) := by
  have hdone := finishBigData_done c file fs (packetDataSize c.recvBuffer).toNat
  refine ⟨fun hr => ?_, fun _ => ?_, fun h => ⟨hdone.ret, hs h⟩⟩
  · rw [hdone.ready] at hr
    unfold EndsReady
    rw [if_neg fun hf => hfirst hf.2]
    rcases (Bool.or_eq_true_iff).mp hr with hr | hr
    · exact Or.inl hr
    · exact Or.inr ⟨hbig, of_decide_eq_true hr⟩
  · unfold declared
    rw [if_neg fun hf => hfirst hf.2]
    exact hdone.size

theorem parted_later {env : Env} {c : Client} {fs : FS} {u : Upload} (h : Sound c fs u) (hbig : CarriesBig c.recvBuffer)
    (hfirst : ¬ FirstPart c.recvBuffer) : BigParted env c u (proessMessageBigData env fs c) := by
  have hway := bigData_handled env fs c
  generalize proessMessageBigData env fs c = r at hway ⊢
  cases hway with
  | unopened hf => exact absurd hf hfirst
  | first f hf => exact absurd hf hfirst
  | next hnext =>
    refine parted_finish _ hbig hfirst fun hs => ?_
    unfold frameUpload at hs ⊢
    rw [if_neg fun hf => hfirst hf.2, if_pos ⟨hbig, hnext⟩] at hs ⊢
    obtain ⟨hsound, hw⟩ := (Bool.and_eq_true_iff).mp hs
    obtain ⟨l, hl, hfile, hcount⟩ := h hsound
    exact ⟨l ++ partBytes c.recvBuffer, by rw [hl]; rfl, bigNext_written (of_decide_eq_true hw) hfile hcount⟩
  | neither _ hnone =>
    refine parted_finish _ hbig hfirst fun hs => ?_
    unfold frameUpload at hs ⊢
    rw [if_neg fun hf => hfirst hf.2, if_neg fun hn => hnone hn.2] at hs ⊢
    rw [(finishBigData_done _ _ _ _).fs, finishBigData_count]
    exact h ((Bool.and_eq_true_iff).mp hs).1

theorem bigPart_parted {env : Env} {c : Client} {fs : FS} {u : Upload} (h : Sound c fs u) :
    BigParted env c u (bigPart env fs c.recvBuffer c) := by
  unfold bigPart
  by_cases hbig : CarriesBig c.recvBuffer
  · rw [if_pos (show msgType c.recvBuffer &&& StSockMsg.bigdata ≠ 0 from hbig)]
    by_cases hfirst : FirstPart c.recvBuffer
    · exact parted_first hbig hfirst
    · exact parted_later h hbig hfirst
  · rw [if_neg (show ¬ msgType c.recvBuffer &&& StSockMsg.bigdata ≠ 0 from hbig)]
    refine ⟨fun hr => ?_, fun _ => ?_, fun hs => ⟨rfl, ?_⟩⟩
    · unfold EndsReady
      rw [if_neg fun hf => hbig hf.1]
      exact Or.inl hr
    · unfold declared
      rw [if_neg fun hf => hbig hf.1]
    · unfold frameUpload at hs ⊢
      rw [if_neg fun hf => hbig hf.1, if_neg fun hn => hbig hn.1] at hs ⊢
      exact h ((Bool.and_eq_true_iff).mp hs).1

/-- An upload that a frame leaves sound has no file part beside it. -/
theorem frameUpload_untouched {env : Env} {c : Client} {u : Upload} (h : (frameUpload env c u).sound = true) :
    ¬ FileTouches env c := by
  unfold frameUpload at h
  split at h
  · split at h
    · exact (of_decide_eq_true h).2.2
    · cases h
  · split at h
    · exact (of_decide_eq_true ((Bool.and_eq_true_iff).mp h).2).2.2
    · have hno := ((Bool.and_eq_true_iff).mp h).2
      rw [Bool.not_eq_true', decide_eq_false_iff_not] at hno
      exact hno

/-! ## The file part -/

/-- What a file part leaves of the big data: the flag and the file, and when it touches
    nothing the two sizes. -/
structure FileParted (env : Env) (c : Client) (fs : FS) (r : Int × Client × FS) : Prop where
  ready : r.2.1.bigDataReady = c.bigDataReady
  fs : ∀ n, r.2.2 (bigDataPath n) = fs (bigDataPath n)
  sizes : ¬ FileTouches env c → r.2.1.bigDataReadSize = c.bigDataReadSize ∧ r.2.1.bigDataReadSizeDone = c.bigDataReadSizeDone

theorem finishFileData_count (c : Client) (file : Option FS) (fs : FS) (start skip : Nat) :
    (finishFileData c file fs start skip).2.1.bigDataReadSizeDone = (writeUpload c file fs (fileDataPath c)
      (start + 8 + skip) (bigDataPackSize c.recvBuffer - BitVec.ofNat 64 skip)).1.bigDataReadSizeDone := by
  unfold finishFileData
  simp only
  split
  · rfl
  · rfl

/-- The end of the file part writes no temp file. -/
theorem finishFileData_fs {c : Client} {file : Option FS} {fs : FS} {start skip n : Nat}
    (h : ∀ f, file = some f → f (bigDataPath n) = fs (bigDataPath n)) :
    (finishFileData c file fs start skip).2.2 (bigDataPath n) = fs (bigDataPath n) := by
  rw [(finishFileData_done _ _ _ _ _).fs]
  cases file with
  | none => rfl
  | some f =>
    simp only [writeUpload, fwriteEnd]
    rw [Function.update_of_ne (bigDataPath_ne n c)]
    exact h f rfl

theorem fopenAppend_big {env : Env} {fs f : FS} {c : Client} {n : Nat}
    (h : fopenAppend env fs (fileDataPath c) = some f) : f (bigDataPath n) = fs (bigDataPath n) := by
  unfold fopenAppend at h
  split at h
  · cases h
    exact Function.update_of_ne (bigDataPath_ne n c) _ _
  · cases h

theorem filePart_parted (env : Env) (fs : FS) (c : Client) : FileParted env c fs (filePart env fs c.recvBuffer c) := by
  unfold filePart
  by_cases hfile : CarriesFile c.recvBuffer
  · rw [if_pos (show msgType c.recvBuffer &&& StSockMsg.filedata ≠ 0 from hfile)]
    have h := fileData_handled env fs c
    generalize proessMessageFileData env fs c = r at h ⊢
    cases h with
    | unopened hfirst => exact ⟨rfl, fun _ => rfl, fun hno => absurd ⟨hfile, Or.inl hfirst⟩ hno⟩
    | first f hfirst hopen =>
      refine ⟨(finishFileData_done _ _ _ _ _).ready, fun n => ?_, fun hno => absurd ⟨hfile, Or.inl hfirst⟩ hno⟩
      refine finishFileData_fs fun f' hf => ?_
      cases hf
      unfold fopenWrite at hopen
      split at hopen
      · cases hopen
        exact Function.update_of_ne (bigDataPath_ne n _) _ _
      · cases hopen
    | next hnext =>
      refine ⟨(finishFileData_done _ _ _ _ _).ready, fun n => finishFileData_fs fun f hf => fopenAppend_big hf,
        fun hno => ⟨(finishFileData_done _ _ _ _ _).size, ?_⟩⟩
      rw [finishFileData_count]
      unfold fopenAppend
      by_cases hcan : env.canOpen (fileDataPath c) = true
      · -- it opens, so there is nothing to write
        rw [if_pos hcan]
        by_cases h0 : bigDataPackSize c.recvBuffer = 0
        · simp only [writeUpload, h0]
          exact BitVec.add_zero _
        · exact absurd ⟨hfile, Or.inr ⟨hnext, hcan, h0⟩⟩ hno
      · rw [if_neg hcan]
        rfl
    | neither =>
      refine ⟨(finishFileData_done _ _ _ _ _).ready, fun n => finishFileData_fs (fun f hf => nomatch hf),
        fun _ => ⟨(finishFileData_done _ _ _ _ _).size, ?_⟩⟩
      rw [finishFileData_count]
      rfl
  · rw [if_neg (show ¬ msgType c.recvBuffer &&& StSockMsg.filedata ≠ 0 from hfile)]
    exact ⟨rfl, fun _ => rfl, fun _ => ⟨rfl, rfl⟩⟩

/-! ## The frame -/

/-- What holds between steps: the count and the file of a sound upload, and that big data is
    ready only when it is complete. -/
structure UploadInv (s : Conn) (u : Upload) : Prop where
  sound : Sound s.client s.fs u
  ready : s.client.bigDataReady = true → Complete u s.client.bigDataReadSize

/-- The messages of a frame have no part in this. -/
theorem messagePart_upload (env : Env) (c : Client) (u : Upload) :
    frameUpload env (messagePart c) u = frameUpload env c u ∧ (EndsReady env (messagePart c) ↔ EndsReady env c) ∧
      declared (messagePart c) = declared c ∧ (FileTouches env (messagePart c) ↔ FileTouches env c) := by
  rw [messagePart_eq]
  exact ⟨rfl, Iff.rfl, rfl, Iff.rfl⟩

theorem FileTouches.congr {env : Env} {c c' : Client} (h : SamePlace c c') : FileTouches env c' ↔ FileTouches env c := by
  unfold FileTouches
  rw [h.recvBuffer, h.path]

/-- **A taken frame that meets the condition keeps big data complete.** -/
theorem frame_upload {env : Env} {s : Conn} {u : Upload} (h : UploadInv s u) (hok : UploadOk env s.client u) :
    UploadInv (processFrame env s).2 (frameUpload env s.client u) := by
  have hm := messagePart_place s.client
  obtain ⟨hu, hends, hdecl, htouch⟩ := messagePart_upload env s.client u
  have hsound : Sound (messagePart s.client) s.fs u := by
    rw [messagePart_eq]
    exact h.sound
  have hbig : BigParted env _ _ _ := bigPart_parted hsound
  have hplace := bigPart_place env s.fs s.client.recvBuffer (messagePart s.client)
  rw [hm.recvBuffer] at hbig
  rw [processFrame_parts]
  simp only
  generalize bigPart env s.fs s.client.recvBuffer (messagePart s.client) = r at hbig hplace ⊢
  obtain ⟨hready, hsize, hcame⟩ := hbig
  rw [hends] at hready
  rw [hdecl] at hsize
  rw [hu, hm.idx] at hcame
  have hbuf : r.2.1.recvBuffer = s.client.recvBuffer := hplace.recvBuffer.trans hm.recvBuffer
  have hidx : r.2.1.idx = s.client.idx := hplace.idx.trans hm.idx
  by_cases hr : r.1 = 0
  · rw [if_neg (not_not_intro hr)]
    have hfile := filePart_parted env r.2.2 r.2.1
    have hidx' := (filePart_only env r.2.2 s.client.recvBuffer r.2.1).idx
    rw [hbuf] at hfile
    generalize filePart env r.2.2 s.client.recvBuffer r.2.1 = r' at hfile hidx' ⊢
    have hsizes (hs : (frameUpload env s.client u).sound = true) := hfile.sizes fun ht =>
      frameUpload_untouched hs (htouch.mp ((FileTouches.congr hplace).mp ht))
    have hS : Sound r'.2.1 r'.2.2 (frameUpload env s.client u) := by
      intro hs
      obtain ⟨-, l, hl, hbytes, hcount⟩ := hcame hs
      refine ⟨l, hl, ?_, (hsizes hs).2.trans hcount⟩
      rw [hidx', hidx, hfile.fs]
      exact hbytes
    have hR : r'.2.1.bigDataReady = true → Complete (frameUpload env s.client u) r'.2.1.bigDataReadSize := by
      intro hon
      have hcomplete := hok (hready (hfile.ready ▸ hon))
      rw [(hsizes hcomplete.1).1, hsize hr]
      exact hcomplete
    split
    · exact ⟨hS, hR⟩
    · exact ⟨hS, hR⟩
  · rw [if_pos hr]
    refine ⟨fun hs => ?_, fun hon => ?_⟩
    · exact absurd (hcame hs).1 hr
    · exact absurd (hcame (hok (hready hon)).1).1 hr

/-! ## The slot -/

/-- Steps that write neither the two sizes nor a file, and set no flag. -/
theorem UploadInv.congr {s s' : Conn} {u : Upload} (h : UploadInv s u)
    (hready : s'.client.bigDataReady = true → s.client.bigDataReady = true)
    (hsize : s'.client.bigDataReadSize = s.client.bigDataReadSize)
    (hdone : s'.client.bigDataReadSizeDone = s.client.bigDataReadSizeDone) (hidx : s'.client.idx = s.client.idx)
    (hfs : s'.fs = s.fs) : UploadInv s' u := by
  refine ⟨fun hs => ?_, fun hon => ?_⟩
  · obtain ⟨l, hl, hbytes, hcount⟩ := h.sound hs
    exact ⟨l, hl, by rw [hfs, hidx]; exact hbytes, hdone.trans hcount⟩
  · rw [hsize]
    exact h.ready (hready hon)

variable {srv}

/-- No call makes big data ready. -/
theorem call_bigDataReady {env : Env} {s s' : Conn} {a : Call} {r : Reply} (h : doCall srv env s a = some (r, s'))
    (hon : s'.client.bigDataReady = true) : s.client.bigDataReady = true := by
  cases a with
  | sendData l =>
    cases h
    rw [(stsvSendData_only s.client l).field (·.bigDataReady) fun _ _ => rfl] at hon
    exact hon
  | sendDBFile name =>
    cases h
    rw [(stsvSendDBFile_only env s.fs s.client name).field (·.bigDataReady) fun _ _ => rfl] at hon
    exact hon
  | sendDuplicateLogin =>
    obtain ⟨s1, h1, hr⟩ := Option.map_eq_some_iff.mp h
    cases hr
    rw [(sendNotice_done h1).2] at hon
    exact hon
  | sendServerFULL =>
    obtain ⟨s1, h1, hr⟩ := Option.map_eq_some_iff.mp h
    cases hr
    rw [(sendNotice_done h1).2] at hon
    exact hon
  | getBigData =>
    have h' : s' = (stsvGetBigData env s).2 := by
      simp only [doCall, Option.some.injEq] at h
      rw [h]
    rw [h'] at hon
    unfold stsvGetBigData at hon
    split at hon
    · exact hon
    · split at hon
      · exact hon
      · simp only at hon
        split at hon
        · exact hon
        · exact hon
  | freeBigData =>
    cases h
    cases hon
  | _ =>
    cases h
    exact hon

/-- **A step that meets the condition keeps big data complete.** -/
theorem step_upload {p q : Slot × Upload} {e : Ev} (h : UploadInv p.1.conn p.2) (hok : UploadStepOk srv p e)
    (he : uploadStep srv p e = some q) : UploadInv q.1.conn q.2 := by
  obtain ⟨s, u⟩ := p
  obtain ⟨s', hs, rfl⟩ := Option.map_eq_some_iff.mp he
  have hmessage {env : Env} {c : Conn} {ret : Int} (hok : UploadStepOk srv (s, u) (.message env))
      (hm : processMessageBuffer srv env s.conn = some (ret, c)) : UploadInv c (trackUpload srv s u (.message env)) := by
    cases ht : takenFrame srv s.conn with
    | none =>
      obtain ⟨-, hun⟩ := message_untaken ht hm
      simp only [trackUpload, ht]
      exact h.congr (fun hon => hun.uploads.bigDataReady ▸ hon) hun.uploads.bigDataReadSize
        hun.uploads.bigDataReadSizeDone hun.idx hun.uploads.fs
    | some t =>
      rw [processMessageBuffer_taken env ht] at hm
      obtain ⟨n, hd, -, -⟩ := takenFrame_iff.mp ht
      have hun := hd.untouched
      have ht' : UploadInv (traceCrc t) u := h.congr (fun hon => hun.uploads.bigDataReady ▸ hon)
        hun.uploads.bigDataReadSize hun.uploads.bigDataReadSizeDone hun.idx hun.uploads.fs
      have hc : c = (processFrame env (traceCrc t)).2 := by rw [Option.some.inj hm]
      simp only [trackUpload, ht]
      rw [hc]
      exact frame_upload ht' (hok t ht)
  cases step_stepped hs with
  | accept idx inp recvs sends =>
    refine ⟨(fun hs => nomatch hs), fun hon => ?_⟩
    cases hon
  | handled env c hph hon hm => exact hmessage hok hm
  | dropped env c ret hph hon hret hm => exact hmessage hok hm
  | timeout hph hon => exact h.congr (fun hon => hon) rfl rfl rfl rfl
  | endPack env c hph hc =>
    cases hc with
    | frame ret sock hq hw =>
      have honly := packFrame_only env s.conn.fs s.conn.client
      refine h.congr (fun hon => ?_) ?_ ?_ ?_ rfl
      · exact (honly.field (·.bigDataReady) fun _ _ => rfl).symm.trans hon
      · exact honly.field (·.bigDataReadSize) fun _ _ => rfl
      · exact honly.field (·.bigDataReadSizeDone) fun _ _ => rfl
      · exact honly.field (·.idx) fun _ _ => rfl
    | confirm ret sock h0 hf hw => exact h.congr (fun hon => hon) rfl rfl rfl rfl
  | call env a r c hc =>
    have hdone := doCall_done hc
    refine h.congr (call_bigDataReady hc) ?_ ?_ ?_ hdone.fs
    · rw [hdone.client]
      rfl
    · rw [hdone.client]
      rfl
    · rw [hdone.client]
      rfl

theorem mem_modify {α : Type} {f : α → α} {i : Nat} {l : List α} {x : α} (h : x ∈ l.modify i f) :
    x ∈ l ∨ ∃ y ∈ l, f y = x := by
  induction l generalizing i with
  | nil =>
    rw [List.modify_nil] at h
    cases h
  | cons y l ih =>
    cases i with
    | zero =>
      rw [List.modify_zero_cons] at h
      rcases List.mem_cons.mp h with rfl | h
      · exact Or.inr ⟨y, List.mem_cons_self, rfl⟩
      · exact Or.inl (List.mem_cons_of_mem _ h)
    | succ i =>
      rw [List.modify_succ_cons] at h
      rcases List.mem_cons.mp h with rfl | h
      · exact Or.inl List.mem_cons_self
      · rcases ih h with h | ⟨z, hz, rfl⟩
        · exact Or.inl (List.mem_cons_of_mem _ h)
        · exact Or.inr ⟨z, List.mem_cons_of_mem _ hz, rfl⟩

/-- A block never takes more than its upload has. -/
theorem getBigData_top {env : Env} {s : Conn} (hsize : s.client.bigDataReadSize.toNat ≤ stsvBigdataBuffer)
    (h : ∀ p ∈ s.pool, p.buffer.top ≤ stsvBigdataBuffer) :
    ∀ p ∈ (stsvGetBigData env s).2.pool, p.buffer.top ≤ stsvBigdataBuffer := by
  have hset (i : Nat) : ∀ p ∈ setUse s.pool i true, p.buffer.top ≤ stsvBigdataBuffer := by
    intro p hp
    unfold setUse at hp
    rcases mem_modify hp with hp | ⟨q, hq, rfl⟩
    · exact h p hp
    · exact h q hq
  unfold stsvGetBigData
  split
  · exact h
  · split
    · exact h
    · rename_i i hi
      simp only
      split
      · exact hset i
      · rename_i file hfile
        intro p hp
        rcases mem_modify hp with hp | ⟨q, hq, rfl⟩
        · exact hset i p hp
        · refine Buf.top_store_le (hset i q hq) ?_
          unfold freadAt
          rw [List.length_take]
          omega

/-- **What is complete is what a handler gets.** -/
theorem UploadInv.complete {s : Conn} {u : Upload} (h : UploadInv s u) : BigDataComplete s u := by
  intro hon
  obtain ⟨hsound, l, hl, hlen, hsize⟩ := h.ready hon
  obtain ⟨l', hl', hbytes, hcount⟩ := h.sound hsound
  obtain rfl : l = l' := Option.some.inj (hl.symm.trans hl')
  have hdone : s.client.bigDataReadSizeDone = s.client.bigDataReadSize := by
    rw [hcount, hlen]
    exact BitVec.ofNat_toNat _ _
  refine ⟨l, hl, hbytes, hdone, hlen, hsize, fun env => ⟨?_, getBigData_top hsize⟩⟩
  unfold stsvGetBigData
  rw [if_neg (by rw [hon]; decide)]
  cases hi : getBigDataBufferIdx s.pool with
  | none => rfl
  | some i =>
    have hlt : i < (setUse s.pool i true).length := by
      unfold setUse
      rw [List.length_modify]
      unfold getBigDataBufferIdx at hi
      exact (List.findIdx?_eq_some_iff_getElem.mp hi).1
    have hblock := storeBlock_slice hlt l
    have hread : freadAt l 0 s.client.bigDataReadSize.toNat = l := by
      unfold freadAt
      rw [List.drop_zero, ← hlen, List.take_length]
    by_cases hcan : env.canOpen (bigDataPath s.client.idx.toNat) = true
    · have hfile : fopenRead env s.fs (bigDataPath s.client.idx.toNat) = some l := by
        unfold fopenRead
        rw [if_pos hcan, hbytes]
      simp only [hfile, hread, hcan]
      rw [← hlen, hblock]
      rfl
    · have hfile : fopenRead env s.fs (bigDataPath s.client.idx.toNat) = none := if_neg hcan
      simp only [hfile, hcan]
      rfl

variable (srv)

/-- **In a run whose frames leave big data ready only when it is complete, it is complete in
    every state.** -/
theorem big_data_complete {recvMem sendMem : Nat → Byte} {fs : FS} {pool : List BigDataBlock} {es : List Ev}
    (hok : Runs.RunOk (uploadStep srv) (UploadStepOk srv) (freshSlot recvMem sendMem fs pool, noUpload) es) :
    Runs.RunAll (uploadStep srv) (fun p => BigDataComplete p.1.conn p.2) (freshSlot recvMem sendMem fs pool, noUpload) es := by
  have hinv : Runs.RunAll (uploadStep srv) (fun p => UploadInv p.1.conn p.2) (freshSlot recvMem sendMem fs pool, noUpload) es :=
    Runs.runAll_of_inv (uploadStep srv) (UploadStepOk srv) (fun p e q hp hpe he => step_upload hp hpe he)
      ⟨(fun hs => nomatch hs), fun hon => nomatch hon⟩ hok
  exact Runs.RunAll.mono (uploadStep srv) (fun p hp => hp.complete) hinv

/-- One frame with HEADER and END, a total of 1 and the one byte 7. -/
def oneByteUpload : List Ev :=
  [.accept 0 [8, 0, 0, 0, 1, 0, 0, 0, 13, 0, 0, 0, 0x72, 0x35, 0, 0, 5, 0, 0, 0, 1, 0, 0, 0, 7] [some 12, some 13] [some 12],
    .message quietEnv]

theorem big_data_complete_oneByte :
    (∃ p, Runs.run (uploadStep defaultServer) (emptySlot, noUpload) oneByteUpload = some p ∧
      p.1.conn.client.bigDataReady = true ∧ p.2.payloads = some [7]) ∧
    Runs.RunAll (uploadStep defaultServer) (fun p => BigDataComplete p.1.conn p.2) (emptySlot, noUpload) oneByteUpload := by
  refine ⟨⟨_, rfl, by decide +kernel, by decide +kernel⟩, big_data_complete defaultServer ?_⟩
  refine .cons _ trivial rfl (.cons _ (fun t ht _ => ?_) rfl trivial)
  obtain ⟨t', ht', hup, hdecl⟩ : ∃ t', takenFrame defaultServer (newConn [8, 0, 0, 0, 1, 0, 0, 0, 13, 0, 0, 0, 0x72, 0x35, 0, 0,
      5, 0, 0, 0, 1, 0, 0, 0, 7] [some 12, some 13] []) = some t' ∧
      frameUpload quietEnv t'.client noUpload = ⟨some [7], true⟩ ∧ declared t'.client = 1 :=
    ⟨_, rfl, by decide +kernel, by decide +kernel⟩
  obtain rfl : t' = t := Option.some.inj (ht'.symm.trans ht)
  show Complete (frameUpload quietEnv t'.client noUpload) (declared t'.client)
  rw [hup, hdecl]
  exact ⟨rfl, [7], rfl, rfl, by decide⟩

/-- One frame with HEADER and END, a total of 2 MB and no payload. -/
def emptyUpload : List Ev :=
  [.accept 0 [8, 0, 0, 0, 1, 0, 0, 0, 12, 0, 0, 0, 0x1e, 0x3e, 0, 0, 5, 0, 0, 0, 0, 0, 0x20, 0] [some 12, some 12] [some 12],
    .message quietEnv]

/-- **Ready, and nothing has come.** The total is not compared with the count, nor with the
    size of a block: `STSV_GetBigData` reads 2 MB into one of 1 MB. -/
theorem big_data_incomplete : ∃ p, Runs.run (uploadStep defaultServer) (emptySlot, noUpload) emptyUpload = some p ∧
    p.1.conn.client.bigDataReady = true ∧ p.2.payloads = some [] ∧ p.1.conn.client.bigDataReadSizeDone = 0 ∧
    stsvBigdataBuffer < p.1.conn.client.bigDataReadSize.toNat ∧ ¬ BigDataComplete p.1.conn p.2 := by
  have hsome : (Runs.run (uploadStep defaultServer) (emptySlot, noUpload) emptyUpload).any (fun p =>
      decide (p.1.conn.client.bigDataReady = true ∧ p.2.payloads = some [] ∧ p.1.conn.client.bigDataReadSizeDone = 0 ∧
        stsvBigdataBuffer < p.1.conn.client.bigDataReadSize.toNat)) = true := by
    decide +kernel
  obtain ⟨p, hrun, hp⟩ := (Option.any_eq_true _ _).mp hsome
  obtain ⟨hon, hnone, hdone, hsize⟩ := of_decide_eq_true hp
  refine ⟨p, hrun, hon, hnone, hdone, hsize, fun h => ?_⟩
  obtain ⟨l, -, -, -, -, hle, -⟩ := h hon
  omega

end StarServer.Socket

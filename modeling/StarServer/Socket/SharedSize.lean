/-
  StarServer.Socket.SharedSize — a big-data and a file upload on one connection.

  The two uploads have a ready flag and a file each, but one `bigDataReadSize`: the last HEADER
  of either kind writes it, and `STSV_GetBigData` takes it for the length of the big data. (The
  running count `bigDataReadSizeDone`, shared too, is read by nothing.)

  A run is any sequence of whole frames, each with one upload part that fits it, and of the two
  calls on big data. `SameBig` and `SameFile` are what the uploads have of a slot each.

  Proved:
    * `message_big`, `message_file`: a message that is taken, with one such part, is an event;
    * `bigData_same`, `fileData_same`: an upload's frames do to its part of the slot what that
      part and the frame say;
    * `takeUpload_size`: the size is the one of the last HEADER;
    * `uploads_apart_iff`: an interleaving delivers, stores and flags what the big data first and
      the file then do, exactly when at every delivery that HEADER has the size of the last one
      of the big data;
    * `size_overwritten`: a file announced before the big data is fetched.
-/

import StarServer.Runs.Interleave
import StarServer.Socket.BigPool
import StarServer.Socket.UploadPath

namespace StarServer.Socket

open StarServer.Memory StarServer.Runs

/-! ## Frames and calls -/

/-- A `recvBuffer` with these bytes and nothing else. -/
def frameBuf (l : List Byte) : Buf := Buf.store ⟨fun _ => 0, 0⟩ 0 l

/-- The bytes of one whole frame. -/
structure UploadFrame where
  bytes : List Byte
  header : packDataLen ≤ bytes.length
  whole : (bytes.length : Int) = dataSizeLen + msgSize (frameBuf bytes)

def UploadFrame.buf (f : UploadFrame) : Buf := frameBuf f.bytes

/-- A well-formed frame with a part of big data alone. -/
structure BigFrame extends UploadFrame where
  big : CarriesBig toUploadFrame.buf
  alone : ¬CarriesFile toUploadFrame.buf
  inside : PartInside toUploadFrame.buf 0

/-- A well-formed frame with a part of a file alone. -/
structure FileFrame extends UploadFrame where
  file : CarriesFile toUploadFrame.buf
  alone : ¬CarriesBig toUploadFrame.buf
  inside : PartInside toUploadFrame.buf (nameSkip toUploadFrame.buf)

inductive UploadEv where
  | big (env : Env) (frame : BigFrame)
  | file (env : Env) (frame : FileFrame)
  | getBigData (env : Env)
  | freeBigData

/-- The slot with a frame read. -/
def takeBytes (s : Conn) (l : List Byte) : Conn :=
  { s with client := { s.client with recvCount := 0, recvBuffer := s.client.recvBuffer.store 0 l } }

def takeUpload (s : Conn) : UploadEv → Conn
  | .big env frame => (processFrame env (takeBytes s frame.bytes)).2
  | .file env frame => (processFrame env (takeBytes s frame.bytes)).2
  | .getBigData env => (stsvGetBigData env s).2
  | .freeBigData => stsvFreeBigData s

def uploadReply (s : Conn) : UploadEv → List Reply
  | .getBigData env => [(stsvGetBigData env s).1]
  | _ => []

def UploadEv.isBig : UploadEv → Bool
  | .file .. => false
  | _ => true

def runUploads (s : Conn) (es : List UploadEv) : Conn := es.foldl takeUpload s

/-- What the calls of `STSV_GetBigData` give. -/
def uploadReplies (s : Conn) (es : List UploadEv) : List Reply := outs takeUpload uploadReply s es

/-- The big data first, and then the file. -/
def inTurn (es : List UploadEv) : List UploadEv := es.filter (·.isBig) ++ es.filter (!·.isBig)

/-! ## The property and the condition -/

/-- As if the two uploads had come one after the other. -/
structure Apart (s : Conn) (es : List UploadEv) : Prop where
  replies : uploadReplies s es = uploadReplies s (inTurn es)
  fs : (runUploads s es).fs = (runUploads s (inTurn es)).fs
  bigDataReady : (runUploads s es).client.bigDataReady = (runUploads s (inTurn es)).client.bigDataReady
  fileDataReady : (runUploads s es).client.fileDataReady = (runUploads s (inTurn es)).client.fileDataReady

/-- The size a HEADER announces. -/
def announcedBy : UploadEv → Option (BitVec 32)
  | .big _ frame => if FirstPart frame.buf then some (announced frame.buf) else none
  | .file _ frame => if FirstPart frame.buf then some (announced frame.buf) else none
  | _ => none

/-- The size of the last HEADER, `size` before the first. -/
def lastSize (size : BitVec 32) (es : List UploadEv) : BitVec 32 := es.foldl (fun size e => (announcedBy e).getD size) size

/-- `STSV_GetBigData` gets as far as `fread`. -/
structure Delivers (env : Env) (s : Conn) : Prop where
  ready : s.client.bigDataReady = true
  block : (getBigDataBufferIdx s.pool).isSome = true
  opened : (fopenRead env s.fs (bigDataPath s.client.idx.toNat)).isSome = true

/-- At every delivery the last HEADER has the size of the last one of big data. -/
def SizesKept (s : Conn) (es : List UploadEv) : Prop :=
  AtEach (fun pre e => ∀ env, e = .getBigData env → Delivers env (runUploads s pre) →
    lastSize s.client.bigDataReadSize pre = lastSize s.client.bigDataReadSize (pre.filter (·.isBig))) es

/-! ## The frame in the buffer -/

theorem UploadFrame.same (f : UploadFrame) (b : Buf) : SameFrame f.buf (b.store 0 f.bytes) f.bytes.length := by
  refine ⟨?_, f.whole, f.header⟩
  rw [Buf.slice_store]
  exact Buf.slice_store _ _ _

theorem SameFrame.symm {b c : Buf} {n : Nat} (h : SameFrame b c n) : SameFrame c b n :=
  ⟨h.bytes.symm, h.fields.2.2.2 ▸ h.size, h.header⟩

theorem SameFrame.trans {b c d : Buf} {n : Nat} (h1 : SameFrame b c n) (h2 : SameFrame b d n) : SameFrame c d n :=
  ⟨h1.bytes.symm.trans h2.bytes, h1.fields.2.2.2 ▸ h1.size, h1.header⟩

theorem SameFrame.inside {b c : Buf} {n skip : Nat} (h : SameFrame b c n) (hin : PartInside b skip) : PartInside c skip := by
  have htable := hin.table
  have hpart := hin.part
  rw [h.numData, h.fields.2.2.2] at htable
  rw [h.packetDataSize hin, h.fields.2.2.2] at hpart
  exact ⟨htable, hpart⟩

theorem SameFrame.first {b c : Buf} {n skip : Nat} (h : SameFrame b c n) (hin : PartInside b skip) :
    FirstPart b ↔ FirstPart c := by
  unfold FirstPart
  rw [h.flags hin]

theorem SameFrame.announced {b c : Buf} {n skip : Nat} (h : SameFrame b c n) (hin : PartInside b skip) :
    announced b = announced c := by
  have hpart := hin.part
  have hsize := h.size
  unfold Socket.announced
  rw [← h.packetDataSize hin]
  exact Buf.u32_congr (h.slice (by omega))

theorem SameFrame.nameSkip {b c : Buf} {n skip : Nat} (h : SameFrame b c n) (hin : PartInside b skip) :
    nameSkip b = nameSkip c := by
  unfold Socket.nameSkip
  simp only [h.first hin]

/-! ## The two parts of the slot -/

/-- What the big data has of a slot, the size apart. -/
structure SameBig (c d : Client) (fs gs : FS) : Prop where
  idx : c.idx = d.idx
  bigDataReady : c.bigDataReady = d.bigDataReady
  bigDataBuffer : c.bigDataBuffer = d.bigDataBuffer
  file : fs (bigDataPath c.idx.toNat) = gs (bigDataPath c.idx.toNat)

/-- What a file upload has of it. -/
structure SameFile (c d : Client) (fs gs : FS) : Prop where
  idx : c.idx = d.idx
  fileDataReady : c.fileDataReady = d.fileDataReady
  name : c.fileDataName = d.fileDataName
  send : c.fileSendName = d.fileSendName ∧ c.fileDataSending = d.fileDataSending
  files : ∀ p, p ≠ bigDataPath c.idx.toNat → fs p = gs p

theorem OnlyUploaded.bigDataBuffer {c r : Client} (h : OnlyUploaded c r) : r.bigDataBuffer = c.bigDataBuffer := by
  unfold OnlyUploaded at h
  rw [h]
  rfl

theorem finishBigData_same {c d : Client} {file file' : Option FS} {fs gs : FS} {n start : Nat}
    (hf : SameFrame c.recvBuffer d.recvBuffer n) (hin : PartInside c.recvBuffer 0) (h : SameBig c d fs gs)
    (hstart : start = (packetDataSize c.recvBuffer).toNat)
    (hfile : Option.Rel (OpenAlike fs gs (bigDataPath c.idx.toNat)) file file') :
    SameBig (finishBigData c file fs start).2.1 (finishBigData d file' gs start).2.1 (finishBigData c file fs start).2.2
      (finishBigData d file' gs start).2.2 := by
  have hdone := finishBigData_done c file fs start
  have hdone' := finishBigData_done d file' gs start
  obtain ⟨hkept, -⟩ := finishBigData_files hf hin h.idx hstart hfile
  refine ⟨?_, ?_, ?_, ?_⟩
  · rw [hdone.only.idx, hdone'.only.idx, h.idx]
  · rw [hdone.ready, hdone'.ready, h.bigDataReady, hf.flagsAt hin hstart]
  · rw [hdone.only.bigDataBuffer, hdone'.only.bigDataBuffer, h.bigDataBuffer]
  · rw [hdone.only.idx]
    exact hkept _ h.file

/-- **A big-data part does the same to the same big data**, whatever the rest of the slot. -/
theorem bigData_same {env : Env} {c d : Client} {fs gs : FS} {n : Nat} (hf : SameFrame c.recvBuffer d.recvBuffer n)
    (hin : PartInside c.recvBuffer 0) (h : SameBig c d fs gs) :
    SameBig (proessMessageBigData env fs c).2.1 (proessMessageBigData env gs d).2.1 (proessMessageBigData env fs c).2.2
      (proessMessageBigData env gs d).2.2 := by
  have hflags := hf.flags hin
  unfold proessMessageBigData
  simp only
  unfold uploadFlags at hflags
  rw [← hf.packetDataSize hin] at hflags ⊢
  rw [← h.idx, ← hflags]
  generalize hstart : (packetDataSize c.recvBuffer).toNat = start at *
  by_cases hfirst : c.recvBuffer.u32 start &&& StSockMsg.bigdataHeader ≠ 0
  · rw [if_pos hfirst, if_pos hfirst]
    have hbegin : SameBig (beginBigData c start) (beginBigData d start) fs gs := ⟨h.idx, rfl, h.bigDataBuffer, h.file⟩
    have hopen := fopenWrite_alike env fs gs (bigDataPath c.idx.toNat)
    generalize fopenWrite env fs (bigDataPath c.idx.toNat) = f at hopen ⊢
    generalize fopenWrite env gs (bigDataPath c.idx.toNat) = g at hopen ⊢
    cases hopen with
    | none => exact hbegin
    | @some f g hfg =>
      exact @finishBigData_same (beginBigData c start) (beginBigData d start) _ _ fs gs n start hf hin hbegin hstart.symm (.some hfg)
  · rw [if_neg hfirst, if_neg hfirst]
    split
    · exact finishBigData_same hf hin h hstart.symm (fopenAppend_alike env h.file)
    · exact finishBigData_same hf hin h hstart.symm .none

theorem finishFileData_same {c d : Client} {file file' : Option FS} {fs gs : FS} {n start skip : Nat}
    (hf : SameFrame c.recvBuffer d.recvBuffer n) (hin : PartInside c.recvBuffer skip) (h : SameFile c d fs gs)
    (hstart : start = (packetDataSize c.recvBuffer).toNat)
    (hfile : Option.Rel (OpenAlike fs gs (fileDataPath c)) file file') :
    SameFile (finishFileData c file fs start skip).2.1 (finishFileData d file' gs start skip).2.1
      (finishFileData c file fs start skip).2.2 (finishFileData d file' gs start skip).2.2 := by
  have hdone := finishFileData_done c file fs start skip
  have hdone' := finishFileData_done d file' gs start skip
  have hpath : fileDataPath c = fileDataPath d := fileDataPath_congr h.idx h.name h.send.1 h.send.2
  obtain ⟨hkept, -⟩ := finishFileData_files hf hin hstart (fun _ => hpath) hfile
  refine ⟨?_, ?_, ?_, ?_, fun p hp => ?_⟩
  · rw [hdone.only.idx, hdone'.only.idx, h.idx]
  · rw [hdone.fileDataReady, hdone'.fileDataReady, h.fileDataReady, hf.flagsAt hin hstart]
  · rw [finishFileData_name, finishFileData_name, h.name]
  · rw [hdone.only.send.1, hdone.only.send.2, hdone'.only.send.1, hdone'.only.send.2]
    exact h.send
  · rw [hdone.only.idx] at hp
    exact hkept p (h.files p hp)

/-- **A file part does the same to the same file upload.** -/
theorem fileData_same {env : Env} {c d : Client} {fs gs : FS} {n : Nat} (hf : SameFrame c.recvBuffer d.recvBuffer n)
    (hin : PartInside c.recvBuffer (nameSkip c.recvBuffer)) (h : SameFile c d fs gs) :
    SameFile (proessMessageFileData env fs c).2.1 (proessMessageFileData env gs d).2.1 (proessMessageFileData env fs c).2.2
      (proessMessageFileData env gs d).2.2 := by
  have hn := hf.size
  have hpart := hin.part
  have hflags := hf.flags hin
  have hskip : nameSkip c.recvBuffer = if c.recvBuffer.u32 (packetDataSize c.recvBuffer).toNat &&& StSockMsg.bigdataHeader ≠ 0 then 32 else 0 := rfl
  unfold proessMessageFileData
  simp only
  unfold uploadFlags at hflags
  rw [← hf.packetDataSize hin] at hflags ⊢
  rw [← hflags]
  generalize hstart : (packetDataSize c.recvBuffer).toNat = start at *
  by_cases hfirst : c.recvBuffer.u32 start &&& StSockMsg.bigdataHeader ≠ 0
  · rw [if_pos hfirst] at hskip
    rw [hskip] at hin hpart
    rw [if_pos hfirst, if_pos hfirst]
    have hname : c.recvBuffer.slice (start + 8) 32 = d.recvBuffer.slice (start + 8) 32 := hf.slice (by omega)
    have hbegin : SameFile (beginFileData c start) (beginFileData d start) fs gs :=
      ⟨h.idx, rfl, congrArg Name32.ofList hname, h.send, h.files⟩
    have hpath : fileDataPath (beginFileData c start) = fileDataPath (beginFileData d start) :=
      fileDataPath_congr h.idx hbegin.name h.send.1 h.send.2
    have hopen := fopenWrite_alike env fs gs (fileDataPath (beginFileData c start))
    rw [← hpath]
    generalize fopenWrite env fs (fileDataPath (beginFileData c start)) = f at hopen ⊢
    generalize fopenWrite env gs (fileDataPath (beginFileData c start)) = g at hopen ⊢
    cases hopen with
    | none => exact hbegin
    | @some f g hfg =>
      exact @finishFileData_same (beginFileData c start) (beginFileData d start) _ _ fs gs n start 32 hf hin hbegin hstart.symm (.some hfg)
  · rw [if_neg hfirst] at hskip
    rw [hskip] at hin
    rw [if_neg hfirst, if_neg hfirst]
    have hpath : fileDataPath c = fileDataPath d := fileDataPath_congr h.idx h.name h.send.1 h.send.2
    split
    · rw [← hpath]
      exact finishFileData_same hf hin h hstart.symm (fopenAppend_alike env (h.files _ (bigDataPath_ne _ c).symm))
    · exact finishFileData_same hf hin h hstart.symm .none

/-- A part leaves the size its HEADER announces, or the one it finds. -/
theorem bigData_size (env : Env) (fs : FS) (c : Client) : (proessMessageBigData env fs c).2.1.bigDataReadSize =
    if FirstPart c.recvBuffer then announced c.recvBuffer else c.bigDataReadSize := by
  have h := bigData_handled env fs c
  generalize proessMessageBigData env fs c = r at h ⊢
  cases h with
  | unopened hfirst => exact (if_pos hfirst).symm
  | first f hfirst => exact (finishBigData_done _ _ _ _).size.trans (if_pos hfirst).symm
  | next hnext => exact (finishBigData_done _ _ _ _).size.trans (if_neg hnext.1).symm
  | neither hfirst => exact (finishBigData_done _ _ _ _).size.trans (if_neg hfirst).symm

theorem fileData_size (env : Env) (fs : FS) (c : Client) : (proessMessageFileData env fs c).2.1.bigDataReadSize =
    if FirstPart c.recvBuffer then announced c.recvBuffer else c.bigDataReadSize := by
  have h := fileData_handled env fs c
  generalize proessMessageFileData env fs c = r at h ⊢
  cases h with
  | unopened hfirst => exact (if_pos hfirst).symm
  | first f hfirst => exact (finishFileData_done _ _ _ _ _).size.trans (if_pos hfirst).symm
  | next hnext => exact (finishFileData_done _ _ _ _ _).size.trans (if_neg hnext.1).symm
  | neither hfirst => exact (finishFileData_done _ _ _ _ _).size.trans (if_neg hfirst).symm

theorem bigData_fileReady (env : Env) (fs : FS) (c : Client) :
    (proessMessageBigData env fs c).2.1.fileDataReady = c.fileDataReady := by
  have h := bigData_handled env fs c
  generalize proessMessageBigData env fs c = r at h ⊢
  cases h with
  | unopened => rfl
  | first f => exact (finishBigData_done _ _ _ _).fileDataReady
  | next => exact (finishBigData_done _ _ _ _).fileDataReady
  | neither => exact (finishBigData_done _ _ _ _).fileDataReady

/-! ## A frame with one part -/

/-- What a frame of big data alone leaves. -/
theorem processFrame_big (env : Env) {s : Conn} (hbig : CarriesBig s.client.recvBuffer) (hfile : ¬CarriesFile s.client.recvBuffer) :
    ∃ packRef, (processFrame env s).2 = { s with
      client := { (proessMessageBigData env s.fs (messagePart s.client)).2.1 with packRef := packRef }
      fs := (proessMessageBigData env s.fs (messagePart s.client)).2.2 } := by
  rw [processFrame_parts]
  have hpart : bigPart env s.fs s.client.recvBuffer (messagePart s.client) = proessMessageBigData env s.fs (messagePart s.client) :=
    if_pos hbig
  simp only [hpart, filePart_none hfile]
  split
  · exact ⟨_, rfl⟩
  · exact ⟨_, rfl⟩

theorem processFrame_file (env : Env) {s : Conn} (hfile : CarriesFile s.client.recvBuffer) (hbig : ¬CarriesBig s.client.recvBuffer) :
    ∃ packRef, (processFrame env s).2 = { s with
      client := { (proessMessageFileData env s.fs (messagePart s.client)).2.1 with packRef := packRef }
      fs := (proessMessageFileData env s.fs (messagePart s.client)).2.2 } := by
  rw [processFrame_parts]
  have hnone : bigPart env s.fs s.client.recvBuffer (messagePart s.client) = (0, messagePart s.client, s.fs) := if_neg hbig
  have hpart : filePart env s.fs s.client.recvBuffer (messagePart s.client) = proessMessageFileData env s.fs (messagePart s.client) :=
    if_pos hfile
  simp only [hnone, hpart, ne_eq, not_true_eq_false, if_false]
  split
  · exact ⟨_, rfl⟩
  · exact ⟨_, rfl⟩

/-! ## One event -/

/-- Two slots that are the same to the big data, the pool with it. -/
structure BigAlike (s t : Conn) : Prop where
  big : SameBig s.client t.client s.fs t.fs
  pool : s.pool = t.pool

def FileAlike (s t : Conn) : Prop := SameFile s.client t.client s.fs t.fs

/-- The frame's bytes decide, not what was in the buffer. -/
theorem takeBytes_same (f : UploadFrame) (s t : Conn) :
    SameFrame (messagePart (takeBytes s f.bytes).client).recvBuffer (messagePart (takeBytes t f.bytes).client).recvBuffer f.bytes.length := by
  rw [(messagePart_place _).recvBuffer, (messagePart_place _).recvBuffer]
  exact (f.same _).trans (f.same _)

theorem takeBytes_frame (f : UploadFrame) (s : Conn) :
    SameFrame f.buf (messagePart (takeBytes s f.bytes).client).recvBuffer f.bytes.length := by
  rw [(messagePart_place _).recvBuffer]
  exact f.same _

theorem big_taken (env : Env) (f : BigFrame) (s : Conn) :
    ∃ packRef, takeUpload s (.big env f) = { takeBytes s f.bytes with
      client := { (proessMessageBigData env s.fs (messagePart (takeBytes s f.bytes).client)).2.1 with packRef := packRef }
      fs := (proessMessageBigData env s.fs (messagePart (takeBytes s f.bytes).client)).2.2 } := by
  have htype : msgType f.buf = msgType (takeBytes s f.bytes).client.recvBuffer := (f.same s.client.recvBuffer).fields.1
  have hbig := f.big
  have halone := f.alone
  unfold CarriesBig at hbig
  unfold CarriesFile at halone
  rw [htype] at hbig halone
  exact processFrame_big env hbig halone

theorem file_taken (env : Env) (f : FileFrame) (s : Conn) :
    ∃ packRef, takeUpload s (.file env f) = { takeBytes s f.bytes with
      client := { (proessMessageFileData env s.fs (messagePart (takeBytes s f.bytes).client)).2.1 with packRef := packRef }
      fs := (proessMessageFileData env s.fs (messagePart (takeBytes s f.bytes).client)).2.2 } := by
  have htype : msgType f.buf = msgType (takeBytes s f.bytes).client.recvBuffer := (f.same s.client.recvBuffer).fields.1
  have hfile := f.file
  have halone := f.alone
  unfold CarriesFile at hfile
  unfold CarriesBig at halone
  rw [htype] at hfile halone
  exact processFrame_file env hfile halone

theorem big_big (env : Env) (f : BigFrame) {s t : Conn} (h : BigAlike s t) :
    BigAlike (takeUpload s (.big env f)) (takeUpload t (.big env f)) := by
  obtain ⟨packRef, hs⟩ := big_taken env f s
  obtain ⟨packRef', ht⟩ := big_taken env f t
  have hstart : SameBig (messagePart (takeBytes s f.bytes).client) (messagePart (takeBytes t f.bytes).client) s.fs t.fs := by
    rw [messagePart_eq, messagePart_eq (takeBytes t f.bytes).client]
    exact ⟨h.big.idx, h.big.bigDataReady, h.big.bigDataBuffer, h.big.file⟩
  have hsame := @bigData_same env _ _ _ _ _ (takeBytes_same f.toUploadFrame s t) ((takeBytes_frame f.toUploadFrame s).inside f.inside) hstart
  rw [hs, ht]
  exact ⟨⟨hsame.idx, hsame.bigDataReady, hsame.bigDataBuffer, hsame.file⟩, h.pool⟩

theorem file_file (env : Env) (f : FileFrame) {s t : Conn} (h : FileAlike s t) :
    FileAlike (takeUpload s (.file env f)) (takeUpload t (.file env f)) := by
  obtain ⟨packRef, hs⟩ := file_taken env f s
  obtain ⟨packRef', ht⟩ := file_taken env f t
  have hstart : SameFile (messagePart (takeBytes s f.bytes).client) (messagePart (takeBytes t f.bytes).client) s.fs t.fs := by
    rw [messagePart_eq, messagePart_eq (takeBytes t f.bytes).client]
    exact ⟨h.idx, h.fileDataReady, h.name, h.send, h.files⟩
  have hframe := takeBytes_frame f.toUploadFrame s
  have hin := hframe.inside f.inside
  rw [hframe.nameSkip f.inside] at hin
  have hsame := @fileData_same env _ _ _ _ _ (takeBytes_same f.toUploadFrame s t) hin hstart
  rw [hs, ht]
  exact ⟨hsame.idx, hsame.fileDataReady, hsame.name, hsame.send, hsame.files⟩

/-- A file's frame is nothing to the big data. -/
theorem file_big (env : Env) (f : FileFrame) {s t : Conn} (h : BigAlike s t) : BigAlike (takeUpload s (.file env f)) t := by
  obtain ⟨packRef, hs⟩ := file_taken env f s
  have hframe := takeBytes_frame f.toUploadFrame s
  have hfile : CarriesFile (messagePart (takeBytes s f.bytes).client).recvBuffer := by
    unfold CarriesFile
    rw [← hframe.fields.1]
    exact f.file
  have hparted := filePart_parted env s.fs (messagePart (takeBytes s f.bytes).client)
  have honly := filePart_only env s.fs (messagePart (takeBytes s f.bytes).client).recvBuffer (messagePart (takeBytes s f.bytes).client)
  have hpart : filePart env s.fs (messagePart (takeBytes s f.bytes).client).recvBuffer (messagePart (takeBytes s f.bytes).client) =
    proessMessageFileData env s.fs (messagePart (takeBytes s f.bytes).client) := if_pos hfile
  rw [hpart] at hparted honly
  rw [hs]
  have hplace := messagePart_eq (takeBytes s f.bytes).client
  refine ⟨⟨?_, ?_, ?_, ?_⟩, h.pool⟩
  · exact honly.idx.trans ((messagePart_place _).idx.trans h.big.idx)
  · refine hparted.ready.trans ?_
    rw [hplace]
    exact h.big.bigDataReady
  · refine honly.bigDataBuffer.trans ?_
    rw [hplace]
    exact h.big.bigDataBuffer
  · refine (hparted.fs _).trans ?_
    rw [honly.idx, (messagePart_place _).idx]
    exact h.big.file

/-- And a frame of big data is nothing to the file. -/
theorem big_file (env : Env) (f : BigFrame) {s t : Conn} (h : FileAlike s t) : FileAlike (takeUpload s (.big env f)) t := by
  obtain ⟨packRef, hs⟩ := big_taken env f s
  have hframe := takeBytes_frame f.toUploadFrame s
  have hbig : CarriesBig (messagePart (takeBytes s f.bytes).client).recvBuffer := by
    unfold CarriesBig
    rw [← hframe.fields.1]
    exact f.big
  have hname := bigPart_name env s.fs (messagePart (takeBytes s f.bytes).client).recvBuffer (messagePart (takeBytes s f.bytes).client)
  have honly := bigPart_only env s.fs (messagePart (takeBytes s f.bytes).client).recvBuffer (messagePart (takeBytes s f.bytes).client)
  have hother := fun p => @bigPart_other env s.fs (messagePart (takeBytes s f.bytes).client).recvBuffer (messagePart (takeBytes s f.bytes).client) p
  have hpart : bigPart env s.fs (messagePart (takeBytes s f.bytes).client).recvBuffer (messagePart (takeBytes s f.bytes).client) =
    proessMessageBigData env s.fs (messagePart (takeBytes s f.bytes).client) := if_pos hbig
  rw [hpart] at hname honly
  simp only [hpart] at hother
  have hplace := messagePart_eq (takeBytes s f.bytes).client
  rw [hs]
  refine ⟨?_, ?_, ?_, ?_, fun p hp => ?_⟩
  · exact honly.idx.trans ((messagePart_place _).idx.trans h.idx)
  · refine (bigData_fileReady env s.fs _).trans ?_
    rw [hplace]
    exact h.fileDataReady
  · refine hname.trans ?_
    rw [hplace]
    exact h.name
  · refine ⟨honly.send.1.trans ((messagePart_place _).send.1.trans h.send.1), honly.send.2.trans ((messagePart_place _).send.2.trans h.send.2)⟩
  · have hidx := honly.idx.trans (messagePart_place (takeBytes s f.bytes).client).idx
    have hp : p ≠ bigDataPath (proessMessageBigData env s.fs (messagePart (takeBytes s f.bytes).client)).2.1.idx.toNat := hp
    rw [hidx] at hp
    refine (hother p ?_).trans (h.files p hp)
    rw [(messagePart_place _).idx]
    exact hp

/-! ## Messages -/

/-- A frame's two parts see the client and the files alone. -/
theorem processFrame_congr (env : Env) {s t : Conn} (hclient : s.client = t.client) (hfs : s.fs = t.fs) :
    (processFrame env s).2.client = (processFrame env t).2.client ∧ (processFrame env s).2.fs = (processFrame env t).2.fs := by
  rw [processFrame_parts, processFrame_parts, hclient, hfs]
  simp only
  split
  · exact ⟨rfl, rfl⟩
  · split
    · exact ⟨rfl, rfl⟩
    · exact ⟨rfl, rfl⟩

/-- What an event leaves of the uploads is what the call `s'` on a message leaves. -/
structure IsUpload (s s' : Conn) (e : UploadEv) : Prop where
  client : s'.client = (takeUpload s e).client
  fs : s'.fs = (takeUpload s e).fs
  pool : s'.pool = (takeUpload s e).pool

/-- The bytes of a message that is taken. -/
theorem takenFrame_bytes {srv : Server} {s t : Conn} (ht : takenFrame srv s = some t) (hmin : 4 ≤ msgSize t.client.recvBuffer) :
    ∃ f : UploadFrame, f.bytes <+: s.sock.inp ∧ t.client = (takeBytes s f.bytes).client ∧ t.fs = s.fs ∧ t.pool = s.pool := by
  obtain ⟨n, hd, -, hintact⟩ := takenFrame_iff.mp ht
  obtain ⟨hlen, hdata, got, rs, -, hpay, rfl⟩ := hd.eq
  have hsize := hintact.size
  obtain ⟨-, -, -, hheader⟩ := header_store (nextHeader s) got
  simp only at hsize hmin
  rw [hheader] at hsize hmin
  have h12 : dataSizeLen = 12 := rfl
  have h16 : packDataLen = 16 := rfl
  obtain ⟨hwhole, hgot⟩ : (msgSize (nextHeader s)).toNat ≤ (s.sock.inp.drop dataSizeLen).length ∧
      got = (s.sock.inp.drop dataSizeLen).take (msgSize (nextHeader s)).toNat := by
    rcases hpay with ⟨-, hle, hg⟩ | ⟨h0, hlt, hg⟩
    · exact ⟨hle, hg⟩
    · omega
  obtain ⟨l, hl⟩ : ∃ l, l = s.sock.inp.take (dataSizeLen + (msgSize (nextHeader s)).toNat) := ⟨_, rfl⟩
  have hlength : l.length = dataSizeLen + (msgSize (nextHeader s)).toNat := by
    rw [List.length_drop] at hwhole
    rw [hl]
    exact List.length_take_of_le (by omega)
  have hframe : (nextHeader s).store dataSizeLen got = s.client.recvBuffer.store 0 l := by
    have htake : (s.sock.inp.take dataSizeLen).length = dataSizeLen := List.length_take_of_le hlen
    have happ := Buf.store_append s.client.recvBuffer 0 (s.sock.inp.take dataSizeLen) got
    rw [htake, Nat.zero_add, hgot, ← List.take_add, ← hl] at happ
    rw [hgot, ← happ]
    rfl
  -- the length that the header gives, read from the bytes alone
  have hfield : msgSize (frameBuf l) = msgSize (nextHeader s) := by
    rw [← hheader, hframe]
    refine congrArg BitVec.toInt (Buf.u32_congr ?_)
    unfold frameBuf
    rw [Buf.slice_store_in (Nat.zero_le _) (by omega), Buf.slice_store_in (Nat.zero_le _) (by omega)]
  refine ⟨⟨l, by omega, ?_⟩, ?_, ?_, rfl, rfl⟩
  · rw [hfield, hlength]
    omega
  · show l <+: s.sock.inp
    rw [hl]
    exact List.take_prefix _ _
  · rw [hframe]
    rfl

/-- **A message of big data alone is the event of its frame.** -/
theorem message_big {srv : Server} {s t : Conn} (ht : takenFrame srv s = some t) (hmin : 4 ≤ msgSize t.client.recvBuffer)
    (hbig : CarriesBig t.client.recvBuffer) (halone : ¬CarriesFile t.client.recvBuffer) (hin : PartInside t.client.recvBuffer 0) :
    ∃ f : BigFrame, ∀ env, ∃ ret s', processMessageBuffer srv env s = some (ret, s') ∧ IsUpload s s' (.big env f) := by
  obtain ⟨f, -, hclient, hfs, hpool⟩ := takenFrame_bytes ht hmin
  have hframe : SameFrame t.client.recvBuffer f.buf f.bytes.length := by
    rw [hclient]
    exact (f.same s.client.recvBuffer).symm
  have htype := hframe.fields.1
  unfold CarriesBig at hbig
  unfold CarriesFile at halone
  rw [htype] at hbig halone
  refine ⟨⟨f, hbig, halone, hframe.inside hin⟩, fun env => ⟨_, _, processMessageBuffer_taken env ht, ?_⟩⟩
  obtain ⟨h1, h2⟩ := @processFrame_congr env (traceCrc t) (takeBytes s f.bytes) hclient hfs
  exact ⟨h1, h2, (processFrame_done env _).pool.trans (hpool.trans (processFrame_done env (takeBytes s f.bytes)).pool.symm)⟩

theorem message_file {srv : Server} {s t : Conn} (ht : takenFrame srv s = some t) (hmin : 4 ≤ msgSize t.client.recvBuffer)
    (hfile : CarriesFile t.client.recvBuffer) (halone : ¬CarriesBig t.client.recvBuffer)
    (hin : PartInside t.client.recvBuffer (nameSkip t.client.recvBuffer)) :
    ∃ f : FileFrame, ∀ env, ∃ ret s', processMessageBuffer srv env s = some (ret, s') ∧ IsUpload s s' (.file env f) := by
  obtain ⟨f, -, hclient, hfs, hpool⟩ := takenFrame_bytes ht hmin
  have hframe : SameFrame t.client.recvBuffer f.buf f.bytes.length := by
    rw [hclient]
    exact (f.same s.client.recvBuffer).symm
  have htype := hframe.fields.1
  have hskip := hframe.nameSkip hin
  unfold CarriesFile at hfile
  unfold CarriesBig at halone
  rw [htype] at hfile halone
  refine ⟨⟨f, hfile, halone, hskip ▸ hframe.inside hin⟩, fun env => ⟨_, _, processMessageBuffer_taken env ht, ?_⟩⟩
  obtain ⟨h1, h2⟩ := @processFrame_congr env (traceCrc t) (takeBytes s f.bytes) hclient hfs
  exact ⟨h1, h2, (processFrame_done env _).pool.trans (hpool.trans (processFrame_done env (takeBytes s f.bytes)).pool.symm)⟩

/-! ## The calls -/

theorem block_length {pool : List BigDataBlock} {i : Nat} (hi : i < pool.length) (n : Nat) :
    ((pool.map fun p => p.buffer.slice 0 n).getD i []).length = n := by
  have hlt : i < (pool.map fun p => p.buffer.slice 0 n).length := by
    rw [List.length_map]
    exact hi
  rw [List.getD_eq_getElem _ _ hlt, List.getElem_map, Buf.length_slice]

/-- Two slots that are the same to the big data deliver the same exactly where they have the
    same size, and then stay the same. -/
theorem getBigData_big {env : Env} {s t : Conn} (h : BigAlike s t) :
    ((stsvGetBigData env s).1 = (stsvGetBigData env t).1 ↔
      (Delivers env s → s.client.bigDataReadSize = t.client.bigDataReadSize)) ∧
    ((Delivers env s → s.client.bigDataReadSize = t.client.bigDataReadSize) →
      BigAlike (stsvGetBigData env s).2 (stsvGetBigData env t).2) := by
  obtain ⟨⟨hidx, hready, hbuffer, hfile⟩, hpool⟩ := h
  have hopen : fopenRead env s.fs (bigDataPath s.client.idx.toNat) = fopenRead env t.fs (bigDataPath t.client.idx.toNat) := by
    unfold fopenRead
    rw [← hidx, hfile]
  unfold stsvGetBigData
  rw [← hready, ← hpool]
  simp only [← hopen]
  by_cases hr : s.client.bigDataReady = false
  · rw [if_pos hr, if_pos hr]
    refine ⟨iff_of_true rfl fun hd => ?_, fun _ => ⟨⟨hidx, hready, hbuffer, hfile⟩, hpool⟩⟩
    exact absurd (hr.symm.trans hd.ready) Bool.false_ne_true
  · rw [if_neg hr, if_neg hr]
    cases hi : getBigDataBufferIdx s.pool with
    | none =>
      refine ⟨iff_of_true rfl fun hd => ?_, fun _ => ⟨⟨hidx, hready, hbuffer, hfile⟩, hpool⟩⟩
      have hblock := hd.block
      rw [hi] at hblock
      cases hblock
    | some i =>
      have hlt : i < s.pool.length := (bufferIdx_some hi).1
      cases hread : fopenRead env s.fs (bigDataPath s.client.idx.toNat) with
      | none =>
        refine ⟨iff_of_true rfl fun hd => ?_, fun _ => ⟨⟨hidx, hready, rfl, hfile⟩, ?_⟩⟩
        · have hopened := hd.opened
          rw [hread] at hopened
          cases hopened
        · exact rfl
      | some file =>
        have hdelivers : Delivers env s := by
          refine ⟨Bool.not_eq_false _ ▸ hr, ?_, ?_⟩
          · rw [hi]
            rfl
          · rw [hread]
            rfl
        constructor
        · constructor
          · intro heq _
            -- the two blocks that are returned are as long as the sizes say
            have hlen := congrArg List.length (Reply.data.inj heq)
            rw [block_length, block_length] at hlen
            · exact BitVec.eq_of_toNat_eq hlen
            · simpa [setUse] using hlt
            · simpa [setUse] using hlt
          · intro hsize
            simp only [hsize hdelivers]
        · intro hsize
          refine ⟨⟨hidx, hready, rfl, hfile⟩, ?_⟩
          simp only [hsize hdelivers]

theorem freeBigData_big {s t : Conn} (h : BigAlike s t) : BigAlike (stsvFreeBigData s) (stsvFreeBigData t) := by
  obtain ⟨⟨hidx, hready, hbuffer, hfile⟩, hpool⟩ := h
  refine ⟨⟨hidx, rfl, rfl, hfile⟩, ?_⟩
  unfold stsvFreeBigData
  rw [hbuffer, hpool]

theorem getBigData_file (env : Env) {s t : Conn} (h : FileAlike s t) : FileAlike (stsvGetBigData env s).2 t := by
  unfold stsvGetBigData
  split
  · exact h
  · split
    · exact h
    · simp only
      split
      · exact ⟨h.idx, h.fileDataReady, h.name, h.send, h.files⟩
      · exact ⟨h.idx, h.fileDataReady, h.name, h.send, h.files⟩

theorem getBigData_size (env : Env) (s : Conn) : (stsvGetBigData env s).2.client.bigDataReadSize = s.client.bigDataReadSize := by
  unfold stsvGetBigData
  split
  · rfl
  · split
    · rfl
    · simp only
      split
      · rfl
      · rfl

theorem announced_getD (b : Buf) (size : BitVec 32) : (if FirstPart b then announced b else size) =
    (if FirstPart b then some (announced b) else none).getD size := by
  split
  · rfl
  · rfl

/-- **The size is the one of the last HEADER.** -/
theorem takeUpload_size (s : Conn) (e : UploadEv) :
    (takeUpload s e).client.bigDataReadSize = (announcedBy e).getD s.client.bigDataReadSize := by
  cases e with
  | big env f =>
    obtain ⟨packRef, hs⟩ := big_taken env f s
    have hframe := takeBytes_frame f.toUploadFrame s
    have hsize := bigData_size env s.fs (messagePart (takeBytes s f.bytes).client)
    have hfound : (messagePart (takeBytes s f.bytes).client).bigDataReadSize = s.client.bigDataReadSize := by
      rw [messagePart_eq]
      rfl
    rw [← hframe.announced f.inside, hfound] at hsize
    simp only [← hframe.first f.inside] at hsize
    rw [hs]
    exact hsize.trans (announced_getD f.buf _)
  | file env f =>
    obtain ⟨packRef, hs⟩ := file_taken env f s
    have hframe := takeBytes_frame f.toUploadFrame s
    have hsize := fileData_size env s.fs (messagePart (takeBytes s f.bytes).client)
    have hfound : (messagePart (takeBytes s f.bytes).client).bigDataReadSize = s.client.bigDataReadSize := by
      rw [messagePart_eq]
      rfl
    rw [← hframe.announced f.inside, hfound] at hsize
    simp only [← hframe.first f.inside] at hsize
    rw [hs]
    exact hsize.trans (announced_getD f.buf _)
  | getBigData env => exact getBigData_size env s
  | freeBigData => rfl

/-! ## Runs -/

theorem runUploads_size (s : Conn) (es : List UploadEv) :
    (runUploads s es).client.bigDataReadSize = lastSize s.client.bigDataReadSize es := by
  unfold runUploads lastSize
  induction es generalizing s with
  | nil => rfl
  | cons e es ih =>
    rw [List.foldl_cons, List.foldl_cons, ih, takeUpload_size]

/-- The delivery of one event is the same with the same size. -/
def SameDelivery (s t : Conn) (e : UploadEv) : Prop :=
  ∀ env, e = .getBigData env → Delivers env s → s.client.bigDataReadSize = t.client.bigDataReadSize

/-- **The big data owns its frames and its calls**, up to the size. -/
theorem bigData_owns : Owns takeUpload uploadReply (·.isBig) BigAlike SameDelivery where
  length s t e := by cases e <;> rfl
  out_iff s t e hmine h := by
    cases e with
    | big env f => exact iff_of_true rfl fun env he => nomatch he
    | file env f => cases hmine
    | getBigData env =>
      have hiff := (@getBigData_big env s t h).1
      simp only [uploadReply, List.cons.injEq, and_true]
      rw [hiff]
      constructor
      · intro hsize env' he
        cases he
        exact hsize
      · intro hsame
        exact hsame env rfl
    | freeBigData => exact iff_of_true rfl fun env he => nomatch he
  own s t e hmine h hsame := by
    cases e with
    | big env f => exact big_big env f h
    | file env f => cases hmine
    | getBigData env => exact (@getBigData_big env s t h).2 (hsame env rfl)
    | freeBigData => exact freeBigData_big h
  silent s e hmine := by
    cases e with
    | file env f => rfl
    | big env f => cases hmine
    | getBigData env => cases hmine
    | freeBigData => cases hmine
  other s t e hmine h := by
    cases e with
    | file env f => exact file_big env f h
    | big env f => cases hmine
    | getBigData env => cases hmine
    | freeBigData => cases hmine

/-- What is the big data's is nothing to the file. -/
theorem isBig_file {e : UploadEv} (he : e.isBig = true) {s t : Conn} (h : FileAlike s t) : FileAlike (takeUpload s e) t := by
  cases e with
  | big env f => exact big_file env f h
  | file env f => cases he
  | getBigData env => exact getBigData_file env h
  | freeBigData => exact ⟨h.idx, h.fileDataReady, h.name, h.send, h.files⟩

theorem SameBig.symm {c d : Client} {fs gs : FS} (h : SameBig c d fs gs) : SameBig d c gs fs :=
  ⟨h.idx.symm, h.bigDataReady.symm, h.bigDataBuffer.symm, h.idx ▸ h.file.symm⟩

theorem SameFile.symm {c d : Client} {fs gs : FS} (h : SameFile c d fs gs) : SameFile d c gs fs :=
  ⟨h.idx.symm, h.fileDataReady.symm, h.name.symm, ⟨h.send.1.symm, h.send.2.symm⟩, fun p hp => (h.files p (h.idx ▸ hp)).symm⟩

/-- The run of the big data alone, and then of the file. -/
theorem inTurn_run (s : Conn) (es : List UploadEv) :
    uploadReplies s (inTurn es) = uploadReplies s (es.filter (·.isBig)) ∧
      BigAlike (runUploads s (inTurn es)) (runUploads s (es.filter (·.isBig))) ∧
      FileAlike (runUploads s es) (runUploads s (inTurn es)) := by
  unfold inTurn uploadReplies runUploads
  rw [outs_append, List.foldl_append]
  have hsilent : ∀ e ∈ es.filter (!·.isBig), ∀ s, uploadReply s e = [] := by
    intro e he s
    have hno := (List.mem_filter.mp he).2
    exact bigData_owns.silent s e (by simpa using hno)
  rw [outs_silent takeUpload uploadReply hsilent, List.append_nil]
  refine ⟨rfl, ?_, ?_⟩
  · refine foldl_rel_left (fun e he t t' h => ?_) ⟨⟨rfl, rfl, rfl, rfl⟩, rfl⟩
    have hno := (List.mem_filter.mp he).2
    exact bigData_owns.other t t' e (by simpa using hno) h
  · have hbig : FileAlike ((es.filter (·.isBig)).foldl takeUpload s) s :=
      foldl_rel_left (fun e he t t' h => isBig_file (List.mem_filter.mp he).2 h) ⟨rfl, rfl, rfl, ⟨rfl, rfl⟩, fun _ _ => rfl⟩
    refine foldl_filter_rel (R := FileAlike) (fun t t' e he h => ?_) (fun t t' e he h => ?_) hbig.symm es
    · cases e with
      | file env f => exact file_file env f h
      | big env f => cases he
      | getBigData env => cases he
      | freeBigData => cases he
    · exact isBig_file (by simpa using he) h

/-- The condition, said of the size each delivery finds. -/
theorem sizesKept_iff (s : Conn) (es : List UploadEv) : SizesKept s es ↔
    AtEach (fun pre e => e.isBig = true →
      SameDelivery (pre.foldl takeUpload s) ((pre.filter (·.isBig)).foldl takeUpload s) e) es := by
  unfold SizesKept SameDelivery
  have hsize := runUploads_size s
  unfold runUploads at hsize ⊢
  constructor
  · intro h pre e post hes _ env he hd
    rw [hsize, hsize]
    exact h pre e post hes env he hd
  · intro h pre e post hes env he hd
    have hkept := h pre e post hes (by rw [he]; rfl) env he hd
    rwa [hsize, hsize] at hkept

/-- **An interleaving is as good as one upload after the other** exactly when at every delivery
    the last HEADER and the last HEADER of the big data announced the same size. -/
theorem uploads_apart_iff (s : Conn) (es : List UploadEv) : Apart s es ↔ SizesKept s es := by
  obtain ⟨hreplies, hbig, hfile⟩ := inTurn_run s es
  have hstart : BigAlike s s := ⟨⟨rfl, rfl, rfl, rfl⟩, rfl⟩
  obtain ⟨hiff, hrun⟩ := outs_filter_iff bigData_owns hstart es
  rw [sizesKept_iff, ← hiff]
  constructor
  · intro h
    exact h.replies.trans hreplies
  · intro h
    have halike := hrun h
    have hidx : (runUploads s es).client.idx = (runUploads s (inTurn es)).client.idx := hfile.idx
    refine ⟨h.trans hreplies.symm, funext fun p => ?_, ?_, hfile.fileDataReady⟩
    · by_cases hp : p = bigDataPath (runUploads s es).client.idx.toNat
      · have hone := halike.big.file
        have htwo := hbig.big.file
        rw [← hidx] at htwo
        rw [hp]
        exact hone.trans htwo.symm
      · exact hfile.files p hp
    · exact halike.big.bigDataReady.trans hbig.big.bigDataReady.symm

/-- Three bytes of big data, announced and ended in one frame. -/
def bigWhole : BigFrame where
  bytes := [8, 0, 0, 0, 1, 0, 0, 0, 15, 0, 0, 0, 0x6a, 0x9d, 0, 0, 5, 0, 0, 0, 3, 0, 0, 0, 65, 66, 67]
  header := by decide
  whole := by decide +kernel
  big := by decide +kernel
  alone := by decide +kernel
  inside := by decide +kernel

/-- The first two of the five bytes of a file `a`. -/
def fileBegun : FileFrame where
  bytes := [4, 0, 0, 0, 2, 0, 0, 0, 46, 0, 0, 0, 0x25, 0x0a, 0, 0, 1, 0, 0, 0, 5, 0, 0, 0, 97] ++ List.replicate 31 0 ++ [88, 89]
  header := by decide
  whole := by decide +kernel
  file := by decide +kernel
  alone := by decide +kernel
  inside := by decide +kernel

/-- A connection just accepted, with one block in the pool. -/
def onePool : Conn := { newConn [] [] [] with pool := [⟨false, frameBuf []⟩] }

/-- **A file is announced before the big data is fetched**: five bytes are delivered for the
    three that were sent. -/
theorem size_overwritten :
    uploadReplies onePool [.big quietEnv bigWhole, .file quietEnv fileBegun, .getBigData quietEnv] = [.data [65, 66, 67, 0, 0]] ∧
    uploadReplies onePool (inTurn [.big quietEnv bigWhole, .file quietEnv fileBegun, .getBigData quietEnv]) = [.data [65, 66, 67]] ∧
    ¬Apart onePool [.big quietEnv bigWhole, .file quietEnv fileBegun, .getBigData quietEnv] := by
  have hmixed : uploadReplies onePool [.big quietEnv bigWhole, .file quietEnv fileBegun, .getBigData quietEnv] =
      [.data [65, 66, 67, 0, 0]] := by decide +kernel
  have hturn : uploadReplies onePool (inTurn [.big quietEnv bigWhole, .file quietEnv fileBegun, .getBigData quietEnv]) =
      [.data [65, 66, 67]] := by decide +kernel
  refine ⟨hmixed, hturn, fun h => ?_⟩
  have hreplies := h.replies
  rw [hmixed, hturn] at hreplies
  exact absurd hreplies (by decide)

end StarServer.Socket

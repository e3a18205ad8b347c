/-
  StarServer.Socket.UploadPart — the upload part of a client's frame, and what is stored of it.

  Behind the messages of a frame with BIGDATA or FILEDATA stand a flag word, the announced
  total, with the first part of a file its name, and the payload. A first part (HEADER) starts
  its file over, a later one (CONTINUE or END) goes on at its end.

  `Disk` is what a client's parts make of the files: the current file is the one its last first
  part named.

  Proved:
    * `holdsFrame_part`: both handlers find the part where the client put it, exactly;
    * `bigData_stored`, `fileData_stored`: with files that open, a handler stores the part;
    * `frame_stored`: so does a frame, and the ready flags follow the flag words.
-/

import StarServer.Socket.DataFrame
import StarServer.Socket.UploadPath

namespace StarServer.Socket

open StarServer.Memory

/-! ## Parts -/

inductive UploadKind where
  | big
  | file
  deriving DecidableEq, Repr

structure Part where
  kind : UploadKind
  flags : BitVec 32
  total : BitVec 32
  /-- Sent with a file's first part only. -/
  name : Name32
  payload : List Byte

def Part.first (p : Part) : Bool := p.flags &&& StSockMsg.bigdataHeader != 0

/-- The part starts a file with a name in it. -/
def Part.named (p : Part) : Bool := p.kind = .file && p.first

def Part.nameBytes (p : Part) : List Byte := if p.named then p.name.bytes else []

def Part.bytes (p : Part) : List Byte := toLE 4 p.flags.toNat ++ (toLE 4 p.total.toNat ++ (p.nameBytes ++ p.payload))

/-- The bit of its frame's type. -/
def Part.bit (p : Part) : BitVec 16 :=
  match p.kind with
  | .big => StSockMsg.bigdata
  | .file => StSockMsg.filedata

/-- A first part, with a name that ends in its field, or one that goes on. -/
structure Part.Ok (p : Part) : Prop where
  name : p.named = true → 0 ∈ p.name.bytes
  next : p.first = false → p.flags &&& StSockMsg.bigdataContinue ≠ 0 ∨ p.flags &&& StSockMsg.bigdataEnd ≠ 0

/-- The flag after the part. -/
def Part.bigReady (p : Part) (ready : Bool) : Bool :=
  match p.kind with
  | .big => (!p.first && ready) || decide (p.flags &&& StSockMsg.bigdataEnd ≠ 0)
  | .file => ready

/-- `== END` here. -/
def Part.fileReady (p : Part) (ready : Bool) : Bool :=
  match p.kind with
  | .big => ready
  | .file => (!p.first && ready) || decide (p.flags = StSockMsg.bigdataEnd)

/-! ## What is stored -/

structure Disk where
  files : FS
  current : Option Path

def filePath (idx : Nat) (name : List Byte) : Path := str "FILE/file" ++ pad8 idx ++ name

/-- The file a part goes to. -/
def Part.path (p : Part) (idx : Nat) (d : Disk) : Path :=
  match p.kind with
  | .big => bigDataPath idx
  | .file => if p.first then filePath idx (cstr p.name.bytes) else d.current.getD []

def Part.apply (idx : Nat) (p : Part) (d : Disk) : Disk where
  files := Function.update d.files (p.path idx d)
    (some ((if p.first then [] else (d.files (p.path idx d)).getD []) ++ p.payload))
  current := if p.kind = .file then some (p.path idx d) else d.current

/-! ## Where the handlers find it -/

/-- The part, as the handlers read it off the buffer. -/
structure HoldsPart (b : Buf) (p : Part) : Prop where
  flags : b.u32 (packetDataSize b).toNat = p.flags
  name : p.named = true → nameField b = p.name
  payload : b.slice (payloadStart b p.nameBytes.length) (payloadSize b p.nameBytes.length) = p.payload

theorem Part.length_nameBytes (p : Part) : p.nameBytes.length = if p.named then 32 else 0 := by
  unfold Part.nameBytes
  split
  · exact p.name.len
  · rfl

theorem tableBytes_message (n : Nat) (ms : List (List Byte)) : tableBytes (messageTable n ms) = ms.flatten.length := by
  induction ms generalizing n with
  | nil => rfl
  | cons m ms ih =>
    have hpieces : ∀ ps : List (List Byte), (∀ p ∈ ps, p.length < 2048) →
        tableBytes (ps.map fun p => mkEntry p.length (tagOf n)) = ps.flatten.length := by
      intro ps
      induction ps with
      | nil =>
        intro _
        rfl
      | cons p ps ihp =>
        intro h
        have hrest := ihp fun q hq => h q (List.mem_cons_of_mem _ hq)
        unfold tableBytes at hrest ⊢
        rw [List.map_cons, List.map_cons, List.sum_cons, hrest, entryLen_mkEntry (h p List.mem_cons_self), List.flatten_cons,
          List.length_append]
    have hm := hpieces (pieces m) fun p hp => mem_pieces_length hp
    have hflat : (pieces m).flatten = m := Memory.chunks_flatten (by decide) m
    rw [hflat] at hm
    have hrest := ih (n + 1)
    unfold tableBytes at hm hrest ⊢
    rw [messageTable, List.map_append, List.sum_append, hm, hrest, List.flatten_cons, List.length_append]

/-- **The part is found where it stands.** -/
theorem holdsFrame_part {b : Buf} {type fromID : BitVec 16} {packNo : BitVec 32} {ms : List (List Byte)} {p : Part}
    (h : HoldsFrame b type fromID packNo (messageTable 0 ms).length (messageBody ms ++ p.bytes))
    (hfits : packDataLen + (messageBody ms ++ p.bytes).length ≤ stsvMaxBuffer) : HoldsPart b p := by
  have h16 : packDataLen = 16 := rfl
  have h12 : dataSizeLen = 12 := rfl
  have h64 : stsvMaxBuffer = 65536 := rfl
  obtain ⟨hsize, -⟩ := h.sizes hfits
  have hnum := h.numData_eq hfits
  obtain ⟨htable, -⟩ := h.table hfits
  have htail := h.tail
  have hbody : (messageBody ms).length = 2 * (messageTable 0 ms).length + ms.flatten.length := by simp [messageBody]
  have hbytes : p.bytes.length = 8 + p.nameBytes.length + p.payload.length := by
    simp only [Part.bytes, List.length_append, length_toLE]
    omega
  have hskip : p.nameBytes.length ≤ 32 := by
    rw [p.length_nameBytes]
    split <;> omega
  rw [List.length_append] at hfits hsize
  have hplace : partOffset b = 16 + (messageBody ms).length := by
    unfold partOffset
    rw [htable, tableBytes_message, hnum, hbody]
    omega
  have hstart : (packetDataSize b).toNat = 16 + (messageBody ms).length := by
    have hoff := packetDataSize_offset b
    omega
  have hend : frameEnd b = partOffset b + 8 + p.nameBytes.length + p.payload.length := by
    unfold frameEnd
    omega
  have hexact := (partExact_iff hskip (by omega : 0 ≤ msgSize b)).mpr ⟨by omega, by omega, by omega⟩
  have hpay : payloadSize b p.nameBytes.length = p.payload.length := by
    have := hexact.exact
    omega
  rw [← hstart, show p.bytes.length = 4 + (4 + (p.nameBytes.length + p.payload.length)) by omega, Buf.slice_add, Buf.slice_add,
    Buf.slice_add, Part.bytes] at htail
  obtain ⟨hflags, htail⟩ := List.append_inj htail (by simp)
  obtain ⟨-, htail⟩ := List.append_inj htail (by simp)
  obtain ⟨hname, hpayload⟩ := List.append_inj htail (by simp)
  refine ⟨u32_of_slice hflags, fun hnamed => ?_, ?_⟩
  · have hlen : p.nameBytes.length = 32 := by rw [p.length_nameBytes, if_pos hnamed]
    have hbytes : p.nameBytes = p.name.bytes := if_pos hnamed
    rw [hlen, hbytes] at hname
    unfold nameField
    rw [show (packetDataSize b).toNat + 8 = (packetDataSize b).toNat + 4 + 4 by omega, hname, Name32.ofList_self]
  · rw [hpay, payloadStart, show (packetDataSize b).toNat + 8 + p.nameBytes.length =
      (packetDataSize b).toNat + 4 + 4 + p.nameBytes.length by omega]
    exact hpayload

/-! ## What a handler stores -/

/-- The slot is at the file that its connection has named last. -/
def AtCurrent (c : Client) (d : Disk) : Prop :=
  ∀ path, d.current = some path → path = filePath c.idx.toNat (cstr c.fileDataName.bytes) ∧ 0 ∈ c.fileDataName.bytes

/-- A handler's answer to a part it has stored. -/
structure Stored (p : Part) (d : Disk) (c : Client) (r : Int × Client × FS) : Prop where
  ret : r.1 = 0
  files : r.2.2 = (p.apply c.idx.toNat d).files
  bigReady : r.2.1.bigDataReady = p.bigReady c.bigDataReady
  fileReady : r.2.1.fileDataReady = p.fileReady c.fileDataReady
  current : AtCurrent r.2.1 (p.apply c.idx.toNat d)

theorem HoldsPart.first_iff {b : Buf} {p : Part} (h : HoldsPart b p) : FirstPart b ↔ p.first = true := by
  unfold FirstPart uploadFlags Part.first
  rw [h.flags, bne_iff_ne]

theorem HoldsPart.next {b : Buf} {p : Part} (h : HoldsPart b p) (hok : p.Ok) (hfirst : ¬FirstPart b) : NextPart b := by
  refine ⟨hfirst, ?_⟩
  unfold uploadFlags
  rw [h.flags]
  exact hok.next (Bool.eq_false_iff.mpr fun hp => hfirst (h.first_iff.mpr hp))

/-- The `fwrite` into a file as `fopen` has left it. -/
theorem writeUpload_opened {c : Client} {fs : FS} {path : Path} {old l : List Byte} {start : Nat} {size : BitVec 64}
    (h : c.recvBuffer.slice start size.toNat = l) :
    (writeUpload c (some (Function.update fs path (some old))) fs path start size).2 =
      Function.update fs path (some (old ++ l)) := by
  unfold writeUpload fwriteEnd
  simp only
  rw [Function.update_self, Function.update_idem, Option.getD_some, h]

theorem Part.apply_first {p : Part} {idx : Nat} {d : Disk} {path : Path} (hpath : p.path idx d = path) (h : p.first = true) :
    (p.apply idx d).files = Function.update d.files path (some ([] ++ p.payload)) := by
  unfold Part.apply
  rw [hpath, if_pos h]

theorem Part.apply_next {p : Part} {idx : Nat} {d : Disk} {path : Path} (hpath : p.path idx d = path) (h : p.first = false) :
    (p.apply idx d).files = Function.update d.files path (some ((d.files path).getD [] ++ p.payload)) := by
  unfold Part.apply
  rw [hpath, if_neg (by rw [h]; decide)]

variable {env : Env}

theorem fopenWrite_opens (hopen : ∀ q, env.canOpen q = true) (fs : FS) (path : Path) :
    fopenWrite env fs path = some (Function.update fs path (some [])) := if_pos (hopen path)

theorem fopenAppend_opens (hopen : ∀ q, env.canOpen q = true) (fs : FS) (path : Path) :
    fopenAppend env fs path = some (Function.update fs path (some ((fs path).getD []))) := if_pos (hopen path)

/-- Who keeps index and name keeps the place. -/
theorem AtCurrent.same {c c' : Client} {d : Disk} (h : AtCurrent c d) (hidx : c'.idx = c.idx)
    (hname : c'.fileDataName = c.fileDataName) : AtCurrent c' d := by
  unfold AtCurrent
  rw [hidx, hname]
  exact h

theorem bigData_stored {c : Client} {p : Part} {d : Disk} (h : HoldsPart c.recvBuffer p) (hok : p.Ok) (hk : p.kind = .big)
    (hat : AtCurrent c d) (hopen : ∀ q, env.canOpen q = true) : Stored p d c (proessMessageBigData env d.files c) := by
  have hpath : p.path c.idx.toNat d = bigDataPath c.idx.toNat := by rw [Part.path, hk]
  have hcurrent : (p.apply c.idx.toNat d).current = d.current := if_neg (by rw [hk]; decide)
  have hat' : AtCurrent c (p.apply c.idx.toNat d) := by
    unfold AtCurrent
    rw [hcurrent]
    exact hat
  have hpayload : c.recvBuffer.slice ((packetDataSize c.recvBuffer).toNat + 8) (bigDataPackSize c.recvBuffer).toNat = p.payload := by
    have hskip : p.nameBytes.length = 0 := by
      rw [p.length_nameBytes, Part.named, hk]
      rfl
    have hpayload := h.payload
    rw [hskip, payloadStart, payloadSize, show BitVec.ofNat 64 0 = 0#64 from rfl, BitVec.sub_zero] at hpayload
    exact hpayload
  have hhandled := bigData_handled env d.files c
  generalize proessMessageBigData env d.files c = r at hhandled ⊢
  cases hhandled with
  | unopened _ hf =>
    rw [fopenWrite_opens hopen] at hf
    cases hf
  | first f hf hfopen =>
    rw [fopenWrite_opens hopen] at hfopen
    cases hfopen
    have hp := h.first_iff.mp hf
    obtain ⟨hret, honly, hready, hfile, -, hname, hfs⟩ := finishBigData_done (beginBigData c (packetDataSize c.recvBuffer).toNat)
      (some (Function.update d.files (bigDataPath c.idx.toNat) (some []))) d.files (packetDataSize c.recvBuffer).toNat
    refine ⟨hret, ?_, ?_, ?_, hat'.same ((beginBigData_only c _).trans honly).idx hname⟩
    · rw [hfs, Part.apply_first hpath hp]
      exact writeUpload_opened hpayload
    · rw [hready, Part.bigReady, hk, hp, ← h.flags]
      rfl
    · rw [hfile, Part.fileReady, hk]
      rfl
  | next hn =>
    have hp : p.first = false := Bool.eq_false_iff.mpr fun hp => hn.1 (h.first_iff.mpr hp)
    obtain ⟨hret, honly, hready, hfile, -, hname, hfs⟩ := finishBigData_done c
      (fopenAppend env d.files (bigDataPath c.idx.toNat)) d.files (packetDataSize c.recvBuffer).toNat
    refine ⟨hret, ?_, ?_, ?_, hat'.same honly.idx hname⟩
    · rw [hfs, fopenAppend_opens hopen, Part.apply_next hpath hp]
      exact writeUpload_opened hpayload
    · rw [hready, Part.bigReady, hk, hp, ← h.flags]
      rfl
    · rw [hfile, Part.fileReady, hk]
  | neither hf hn => exact absurd (h.next hok hf) hn

/-- A name that ends in its field is the file's. -/
theorem fileDataPath_named {c : Client} (h : 0 ∈ c.fileDataName.bytes) :
    fileDataPath c = filePath c.idx.toNat (cstr c.fileDataName.bytes) := by
  unfold fileDataPath filePath
  rw [(fileDataNameStr_iff c).mpr (Or.inl h)]

theorem fileData_stored {c : Client} {p : Part} {d : Disk} (h : HoldsPart c.recvBuffer p) (hok : p.Ok) (hk : p.kind = .file)
    (hat : AtCurrent c d) (hcur : p.first = false → d.current.isSome) (hopen : ∀ q, env.canOpen q = true) :
    Stored p d c (proessMessageFileData env d.files c) := by
  have hcurrent : (p.apply c.idx.toNat d).current = some (p.path c.idx.toNat d) := if_pos hk
  have hhandled := fileData_handled env d.files c
  generalize proessMessageFileData env d.files c = r at hhandled ⊢
  cases hhandled with
  | unopened _ hf =>
    rw [fopenWrite_opens hopen] at hf
    cases hf
  | first f hf hfopen =>
    rw [fopenWrite_opens hopen] at hfopen
    cases hfopen
    have hp := h.first_iff.mp hf
    have hnamed : p.named = true := by
      unfold Part.named
      rw [hk, hp]
      rfl
    have hfield : nameField c.recvBuffer = p.name := h.name hnamed
    have hbegin : (beginFileData c (packetDataSize c.recvBuffer).toNat).fileDataName = p.name := hfield
    have hnul : 0 ∈ (beginFileData c (packetDataSize c.recvBuffer).toNat).fileDataName.bytes := by
      rw [hbegin]
      exact hok.name hnamed
    have hpath : p.path c.idx.toNat d = fileDataPath (beginFileData c (packetDataSize c.recvBuffer).toNat) := by
      rw [fileDataPath_named hnul, hbegin, Part.path, hk, if_pos hp]
      rfl
    have hpayload := h.payload
    rw [p.length_nameBytes, if_pos hnamed] at hpayload
    obtain ⟨hret, honly, hbig, hready, -, hfs⟩ := finishFileData_done (beginFileData c (packetDataSize c.recvBuffer).toNat)
      (some (Function.update d.files (fileDataPath (beginFileData c (packetDataSize c.recvBuffer).toNat)) (some []))) d.files
      (packetDataSize c.recvBuffer).toNat 32
    have hname := @finishFileData_name (beginFileData c (packetDataSize c.recvBuffer).toNat)
      (some (Function.update d.files (fileDataPath (beginFileData c (packetDataSize c.recvBuffer).toNat)) (some []))) d.files
      (packetDataSize c.recvBuffer).toNat 32
    refine ⟨hret, ?_, ?_, ?_, ?_⟩
    · rw [hfs, Part.apply_first hpath hp]
      exact writeUpload_opened hpayload
    · rw [hbig, Part.bigReady, hk]
      rfl
    · rw [hready, Part.fileReady, hk, hp, ← h.flags]
      rfl
    · intro path he
      rw [hcurrent] at he
      cases he
      rw [honly.idx, hname]
      exact ⟨hpath.trans (fileDataPath_named hnul), hnul⟩
  | next hn =>
    have hp : p.first = false := Bool.eq_false_iff.mpr fun hp => hn.1 (h.first_iff.mpr hp)
    obtain ⟨path, hsome⟩ := Option.isSome_iff_exists.mp (hcur hp)
    obtain ⟨hplace, hnul⟩ := hat path hsome
    have hpath : p.path c.idx.toNat d = fileDataPath c := by
      rw [Part.path, hk, hp, hsome, fileDataPath_named hnul, hplace]
      rfl
    have hpayload := h.payload
    rw [p.length_nameBytes, Part.named, hp, Bool.and_false, if_neg (by decide)] at hpayload
    obtain ⟨hret, honly, hbig, hready, -, hfs⟩ := finishFileData_done c (fopenAppend env d.files (fileDataPath c)) d.files
      (packetDataSize c.recvBuffer).toNat 0
    have hname := @finishFileData_name c (fopenAppend env d.files (fileDataPath c)) d.files (packetDataSize c.recvBuffer).toNat 0
    refine ⟨hret, ?_, ?_, ?_, ?_⟩
    · rw [hfs, fopenAppend_opens hopen, Part.apply_next hpath hp]
      exact writeUpload_opened hpayload
    · rw [hbig, Part.bigReady, hk]
    · rw [hready, Part.fileReady, hk, hp, ← h.flags]
      rfl
    · intro path he
      rw [hcurrent] at he
      cases he
      rw [honly.idx, hname]
      exact ⟨hpath.trans (fileDataPath_named hnul), hnul⟩
  | neither hf hn => exact absurd (h.next hok hf) hn

/-! ## A frame -/

/-- The type of a frame with messages and this part. -/
def uploadType : Option Part → BitVec 16
  | none => StSockMsg.packdatasize
  | some p => StSockMsg.packdatasize ||| p.bit

def uploadBytes : Option Part → List Byte
  | none => []
  | some p => p.bytes

def Disk.after (d : Disk) (idx : Nat) : Option Part → Disk
  | none => d
  | some p => p.apply idx d

/-- A part that can be stored where the connection is. -/
structure Storable (b : Buf) (d : Disk) (p : Part) : Prop where
  holds : HoldsPart b p
  ok : p.Ok
  next : p.kind = .file → p.first = false → d.current.isSome

/-- What a frame leaves, when it is taken. -/
structure FrameStored (part : Option Part) (d : Disk) (s : Conn) (r : Int × Conn) : Prop where
  ret : r.1 = 0
  messages : received r.2.client = received (processMessagePacket s.client)
  packRef : r.2.client.packRef = msgPackNo s.client.recvBuffer
  files : r.2.fs = (d.after s.client.idx.toNat part).files
  current : AtCurrent r.2.client (d.after s.client.idx.toNat part)
  bigReady : r.2.client.bigDataReady = (part.map fun p => p.bigReady s.client.bigDataReady).getD s.client.bigDataReady
  fileReady : r.2.client.fileDataReady = (part.map fun p => p.fileReady s.client.fileDataReady).getD s.client.fileDataReady

theorem received_uploaded {c r : Client} (h : OnlyUploaded c r) : received r = received c := by
  unfold OnlyUploaded at h
  rw [h]
  rfl

/-- The decoder leaves the upload's side of a slot. -/
theorem processMessagePacket_current {c : Client} {d : Disk} (h : AtCurrent c d) : AtCurrent (processMessagePacket c) d := by
  rw [processMessagePacket_eq]
  exact h

theorem uploadType_big {p : Part} (h : p.kind = .big) : uploadType (some p) = 9 := by
  show StSockMsg.packdatasize ||| p.bit = 9
  unfold Part.bit
  rw [h]
  rfl

theorem uploadType_file {p : Part} (h : p.kind = .file) : uploadType (some p) = 5 := by
  show StSockMsg.packdatasize ||| p.bit = 5
  unfold Part.bit
  rw [h]
  rfl

theorem uploadType_messages (part : Option Part) : uploadType part &&& StSockMsg.packdatasize ≠ 0 := by
  cases part with
  | none => decide
  | some p =>
    cases hk : p.kind with
    | big =>
      rw [uploadType_big hk]
      decide
    | file =>
      rw [uploadType_file hk]
      decide

/-- Such a frame is a data message. -/
theorem uploadType_data (part : Option Part) : uploadType part ≠ StSockMsg.register ∧ uploadType part ≠ StSockMsg.retrasmit ∧
    uploadType part ≠ StSockMsg.ping ∧ uploadType part &&& StSockMsg.alldata ≠ 0 := by
  cases part with
  | none => decide
  | some p =>
    cases hk : p.kind with
    | big =>
      rw [uploadType_big hk]
      decide
    | file =>
      rw [uploadType_file hk]
      decide

/-- **One frame**: its messages to the handler, its part to the file it belongs to. -/
theorem frame_stored {s : Conn} {part : Option Part} {d : Disk} (htype : msgType s.client.recvBuffer = uploadType part)
    (hpart : ∀ p, part = some p → Storable s.client.recvBuffer d p) (hat : AtCurrent s.client d) (hfs : s.fs = d.files)
    (hopen : part.isSome → ∀ q, env.canOpen q = true) : FrameStored part d s (processFrame env s) := by
  have hmsg : messagePart s.client = processMessagePacket s.client := if_pos (by rw [htype]; exact uploadType_messages part)
  have heq := processMessagePacket_eq s.client
  have hat1 := processMessagePacket_current hat
  rw [processFrame_parts, hmsg, hfs]
  generalize hc : processMessagePacket s.client = c at heq hat1 ⊢
  have hbuf : c.recvBuffer = s.client.recvBuffer := by
    rw [heq]
    rfl
  have hidx : c.idx = s.client.idx := by
    rw [heq]
    rfl
  have hbig : c.bigDataReady = s.client.bigDataReady := by
    rw [heq]
    rfl
  have hready : c.fileDataReady = s.client.fileDataReady := by
    rw [heq]
    rfl
  cases part with
  | none =>
    have hnobig : bigPart env d.files s.client.recvBuffer c = (0, c, d.files) := if_neg (by rw [htype]; decide)
    have hnofile : filePart env d.files s.client.recvBuffer c = (0, c, d.files) := if_neg (by rw [htype]; decide)
    rw [hnobig]
    simp only [ne_eq, not_true_eq_false, if_false, hnofile]
    exact ⟨rfl, by rw [hc]; rfl, rfl, rfl, hat1, hbig, hready⟩
  | some p =>
    obtain ⟨hholds, hok, hnext⟩ := hpart p rfl
    rw [← hbuf] at hholds
    cases hk : p.kind with
    | big =>
      have hbigpart : bigPart env d.files s.client.recvBuffer c = proessMessageBigData env d.files c :=
        if_pos (by rw [htype, uploadType_big hk]; decide)
      have hnofile : ∀ fs c', filePart env fs s.client.recvBuffer c' = (0, c', fs) := fun fs c' =>
        if_neg (by rw [htype, uploadType_big hk]; decide)
      obtain ⟨hret, hfiles, h1, h2, hat2⟩ := bigData_stored hholds hok hk hat1 (hopen rfl)
      have hrecv := received_uploaded (proessMessageBigData_only env d.files c)
      rw [hidx] at hfiles hat2
      rw [hbigpart]
      generalize proessMessageBigData env d.files c = r at hret hfiles h1 h2 hat2 hrecv ⊢
      simp only [hret, ne_eq, not_true_eq_false, if_false, hnofile]
      exact ⟨rfl, by rw [hc]; exact hrecv, rfl, hfiles, hat2, by rw [h1, hbig]; rfl, by rw [h2, hready]; rfl⟩
    | file =>
      have hnobig : bigPart env d.files s.client.recvBuffer c = (0, c, d.files) :=
        if_neg (by rw [htype, uploadType_file hk]; decide)
      have hfilepart : filePart env d.files s.client.recvBuffer c = proessMessageFileData env d.files c :=
        if_pos (by rw [htype, uploadType_file hk]; decide)
      obtain ⟨hret, hfiles, h1, h2, hat2⟩ := fileData_stored hholds hok hk hat1 (hnext hk) (hopen rfl)
      have hrecv := received_uploaded (proessMessageFileData_only env d.files c)
      rw [hidx] at hfiles hat2
      rw [hnobig]
      simp only [ne_eq, not_true_eq_false, if_false]
      rw [hfilepart]
      generalize proessMessageFileData env d.files c = r at hret hfiles h1 h2 hat2 hrecv ⊢
      simp only [hret, not_true_eq_false, if_false]
      exact ⟨rfl, by rw [hc]; exact hrecv, rfl, hfiles, hat2, by rw [h1, hbig]; rfl, by rw [h2, hready]; rfl⟩

end StarServer.Socket

/-
  StarServer.Socket.Apart — a slot on two file systems that agree where it looks.

  A slot opens its temp file, the files whose names start with its own eight digits, and what
  `STSV_SendDBFile` is asked for. Where two file systems agree on these, a step does the same
  on both and leaves them agreeing; and it writes only the slot's own files.

  Proved:
    * `processFrame_files`, `message_files`: one message;
    * `step_files`: one step of the slot;
    * `step_writes_own`: the files it writes;
    * `ownFile_unique`: no file is two slots' own.
-/

import StarServer.Runs.Components
import StarServer.Socket.UploadPath
import StarServer.Text.Decimal

namespace StarServer.Socket

open StarServer.Memory StarServer.Runs

/-! ## Whose file it is -/

/-- The file is slot `i`'s: its temp file, or an upload's with its digits. -/
def OwnFile (i : Nat) (path : Path) : Prop := path = bigDataPath i ∨ ∃ name, path = str "FILE/file" ++ pad8 i ++ name

theorem pad8_padded (n : Nat) : pad8 n = Text.padded 8 n := rfl

/-- **No file is two slots' own.** -/
theorem ownFile_unique {i j : Nat} {path : Path} (hi : i < 10 ^ 8) (hj : j < 10 ^ 8) (h : OwnFile i path) (h' : OwnFile j path) :
    i = j := by
  have hleni := Text.padded_length (show 0 < 8 by decide) hi
  have hlenj := Text.padded_length (show 0 < 8 by decide) hj
  have hlen : (pad8 i).length = (pad8 j).length := by rw [pad8_padded, pad8_padded, hleni, hlenj]
  have hbig : ∀ k, (bigDataPath k).head? = some 0x54 := by
    intro k
    simp [bigDataPath, str]
  have hfile : ∀ (k : Nat) (l : List Byte), (str "FILE/file" ++ pad8 k ++ l).head? = some 0x46 := by
    intro k l
    simp [str]
  rcases h with rfl | ⟨name, rfl⟩
  · rcases h' with h' | ⟨name', h'⟩
    · unfold bigDataPath at h'
      rw [List.append_assoc, List.append_assoc] at h'
      exact Text.padded_injective 8 (List.append_inj (List.append_cancel_left h') hlen).1
    · have hhead := hbig i
      rw [h', hfile] at hhead
      exact absurd hhead (by decide)
  · rcases h' with h' | ⟨name', h'⟩
    · have hhead := hfile i name
      rw [h', hbig] at hhead
      exact absurd hhead (by decide)
    · rw [List.append_assoc, List.append_assoc] at h'
      exact Text.padded_injective 8 (List.append_inj (List.append_cancel_left h') hlen).1

/-- A slot with this index looks at its own files. -/
def Sees (P : Path → Prop) (c : Client) : Prop := ∀ p, OwnFile c.idx.toNat p → P p

theorem fileDataPath_own (c : Client) : OwnFile c.idx.toNat (fileDataPath c) := Or.inr ⟨fileDataNameStr c, rfl⟩

/-! ## Uploads -/

/-- The slot with its files and pool replaced. -/
def onShared (gs : FS) (q : List BigDataBlock) (s : Conn) : Conn := { s with fs := gs, pool := q }

variable {P : Path → Prop} {env : Env} {q : List BigDataBlock}

theorem fopenRead_agree {fs gs : FS} (h : Agree P fs gs) {path : Path} (hp : P path) :
    fopenRead env gs path = fopenRead env fs path := by
  unfold fopenRead
  rw [h path hp]

/-- The same answer and slot, and files that agree. -/
structure SameResult (P : Path → Prop) (r r' : Int × Client × FS) : Prop where
  ret : r'.1 = r.1
  client : r'.2.1 = r.2.1
  files : Agree P r.2.2 r'.2.2

theorem writeUpload_files {c : Client} {file file' : Option FS} {fs gs : FS} {path : Path} {start : Nat} {size : BitVec 64}
    (h : Agree P fs gs) (hp : P path) (hfile : Option.Rel (Agree P) file file') :
    (writeUpload c file' gs path start size).1 = (writeUpload c file fs path start size).1 ∧
      Agree P (writeUpload c file fs path start size).2 (writeUpload c file' gs path start size).2 := by
  cases hfile with
  | none => exact ⟨rfl, h⟩
  | @some f g hfg =>
    refine ⟨rfl, ?_⟩
    show Agree P (fwriteEnd f path _) (fwriteEnd g path _)
    unfold fwriteEnd
    rw [hfg path hp]
    exact hfg.update path _

theorem fopenWrite_files {fs gs : FS} (h : Agree P fs gs) (path : Path) :
    Option.Rel (Agree P) (fopenWrite env fs path) (fopenWrite env gs path) := by
  unfold fopenWrite
  split
  · exact .some (h.update path _)
  · exact .none

theorem fopenAppend_files {fs gs : FS} (h : Agree P fs gs) {path : Path} (hp : P path) :
    Option.Rel (Agree P) (fopenAppend env fs path) (fopenAppend env gs path) := by
  unfold fopenAppend
  rw [h path hp]
  split
  · exact .some (h.update path _)
  · exact .none

theorem finishBigData_files_agree {c : Client} {file file' : Option FS} {fs gs : FS} (start : Nat) (hc : Sees P c)
    (h : Agree P fs gs) (hfile : Option.Rel (Agree P) file file') :
    SameResult P (finishBigData c file fs start) (finishBigData c file' gs start) := by
  have hw := @writeUpload_files P c file file' fs gs (bigDataPath c.idx.toNat) (start + 8) (bigDataPackSize c.recvBuffer) h
    (hc _ (Or.inl rfl)) hfile
  obtain ⟨h1, h2⟩ := hw
  unfold finishBigData
  refine ⟨rfl, ?_, h2⟩
  simp only [h1]

theorem bigData_files {fs gs : FS} {c : Client} (hc : Sees P c) (h : Agree P fs gs) :
    SameResult P (proessMessageBigData env fs c) (proessMessageBigData env gs c) := by
  have hopen := @fopenWrite_files P env fs gs h (bigDataPath c.idx.toNat)
  have happend := @fopenAppend_files P env fs gs h _ (hc _ (Or.inl rfl))
  unfold proessMessageBigData
  simp only
  split
  · generalize fopenWrite env fs (bigDataPath c.idx.toNat) = f at hopen ⊢
    generalize fopenWrite env gs (bigDataPath c.idx.toNat) = g at hopen ⊢
    cases hopen with
    | none => exact ⟨rfl, rfl, h⟩
    | some hfg => exact finishBigData_files_agree _ hc h (.some hfg)
  · split
    · exact finishBigData_files_agree _ hc h happend
    · exact finishBigData_files_agree _ hc h .none

theorem finishFileData_files_agree {c : Client} {file file' : Option FS} {fs gs : FS} (start skip : Nat) (hc : Sees P c)
    (h : Agree P fs gs) (hfile : Option.Rel (Agree P) file file') :
    SameResult P (finishFileData c file fs start skip) (finishFileData c file' gs start skip) := by
  have hw := @writeUpload_files P c file file' fs gs (fileDataPath c) (start + 8 + skip)
    (bigDataPackSize c.recvBuffer - BitVec.ofNat 64 skip) h (hc _ (fileDataPath_own c)) hfile
  obtain ⟨h1, h2⟩ := hw
  unfold finishFileData
  refine ⟨rfl, ?_, h2⟩
  simp only [h1]

theorem fileData_files {fs gs : FS} {c : Client} (hc : Sees P c) (h : Agree P fs gs) :
    SameResult P (proessMessageFileData env fs c) (proessMessageFileData env gs c) := by
  have hopen := @fopenWrite_files P env fs gs h (fileDataPath (beginFileData c (packetDataSize c.recvBuffer).toNat))
  have happend := @fopenAppend_files P env fs gs h _ (hc _ (fileDataPath_own c))
  unfold proessMessageFileData
  simp only
  split
  · generalize fopenWrite env fs (fileDataPath (beginFileData c (packetDataSize c.recvBuffer).toNat)) = f at hopen ⊢
    generalize fopenWrite env gs (fileDataPath (beginFileData c (packetDataSize c.recvBuffer).toNat)) = g at hopen ⊢
    cases hopen with
    | none => exact ⟨rfl, rfl, h⟩
    | some hfg => exact finishFileData_files_agree _ _ hc h (.some hfg)
  · split
    · exact finishFileData_files_agree _ _ hc h happend
    · exact finishFileData_files_agree _ _ hc h .none

theorem bigPart_files {fs gs : FS} {b : Buf} {c : Client} (hc : Sees P c) (h : Agree P fs gs) :
    SameResult P (bigPart env fs b c) (bigPart env gs b c) := by
  unfold bigPart
  split
  · exact bigData_files hc h
  · exact ⟨rfl, rfl, h⟩

theorem filePart_files {fs gs : FS} {b : Buf} {c : Client} (hc : Sees P c) (h : Agree P fs gs) :
    SameResult P (filePart env fs b c) (filePart env gs b c) := by
  unfold filePart
  split
  · exact fileData_files hc h
  · exact ⟨rfl, rfl, h⟩

theorem Sees.place {c c' : Client} (h : Sees P c) (hidx : c'.idx = c.idx) : Sees P c' := by
  unfold Sees
  rw [hidx]
  exact h

/-! ## Messages -/

/-- The same slot but for the pool, and for files that agree. -/
structure SameButShared (P : Path → Prop) (s t : Conn) : Prop where
  conn : t = onShared t.fs t.pool s
  files : Agree P s.fs t.fs

theorem onShared_same {s : Conn} {gs : FS} (h : Agree P s.fs gs) : SameButShared P s (onShared gs q s) := ⟨rfl, h⟩

/-- **A checked frame** on both. -/
theorem processFrame_files {s : Conn} {gs : FS} (hc : Sees P s.client) (h : Agree P s.fs gs) :
    (processFrame env (onShared gs q s)).1 = (processFrame env s).1 ∧
      SameButShared P (processFrame env s).2 (processFrame env (onShared gs q s)).2 := by
  have hm := messagePart_place s.client
  have hbig := @bigPart_files P env s.fs gs s.client.recvBuffer (messagePart s.client) (hc.place hm.idx) h
  have hplace := bigPart_place env s.fs s.client.recvBuffer (messagePart s.client)
  rw [processFrame_parts, processFrame_parts]
  simp only [show (onShared gs q s).client = s.client from rfl, show (onShared gs q s).fs = gs from rfl]
  generalize bigPart env s.fs s.client.recvBuffer (messagePart s.client) = r at hbig hplace ⊢
  generalize bigPart env gs s.client.recvBuffer (messagePart s.client) = r' at hbig ⊢
  obtain ⟨ret, c, fs⟩ := r
  obtain ⟨ret', c', fs'⟩ := r'
  obtain ⟨h1, h2, h3⟩ := hbig
  simp only at h1 h2 h3 hplace ⊢
  subst h1 h2
  split
  · exact ⟨rfl, rfl, h3⟩
  · have hfile := @filePart_files P env fs fs' s.client.recvBuffer c' ((hc.place hm.idx).place hplace.idx) h3
    generalize filePart env fs s.client.recvBuffer c' = q at hfile ⊢
    generalize filePart env fs' s.client.recvBuffer c' = q' at hfile ⊢
    obtain ⟨ret2, c2, fs2⟩ := q
    obtain ⟨ret2', c2', fs2'⟩ := q'
    obtain ⟨g1, g2, g3⟩ := hfile
    simp only at g1 g2 g3 ⊢
    subst g1 g2
    split
    · exact ⟨rfl, rfl, g3⟩
    · exact ⟨rfl, rfl, g3⟩

/-- The same answer, and slots the same but for files. -/
def SameAnswer (P : Path → Prop) (x y : Option (Int × Conn)) : Prop :=
  Option.Rel (fun a b => b.1 = a.1 ∧ SameButShared P a.2 b.2) x y

variable {srv : Server}

theorem sendDataSizeMsg_files (s : Conn) (msg : Buf) (gs : FS) (q : List BigDataBlock) :
    sendDataSizeMsg srv (onShared gs q s) msg = (sendDataSizeMsg srv s msg).map (onShared gs q) := by
  unfold sendDataSizeMsg
  simp only [show (onShared gs q s).sock = s.sock from rfl]
  cases writeTo srv msg dataSizeLen s.sock with
  | none => rfl
  | some r => rfl

theorem sendDataSizeMsg_fs {s s' : Conn} {msg : Buf} (h : sendDataSizeMsg srv s msg = some s') : s'.fs = s.fs := by
  obtain ⟨ret, sock, -, rfl⟩ := sendDataSizeMsg_done h
  rfl

theorem sendReTrasmit_files {s : Conn} {gs : FS} (h : Agree P s.fs gs) (packNo : BitVec 32) :
    SameAnswer P ((sendReTrasmit srv s packNo).map fun s => (-1, s))
      ((sendReTrasmit srv (onShared gs q s) packNo).map fun s => (-1, s)) := by
  unfold sendReTrasmit
  rw [sendDataSizeMsg_files]
  cases hs : sendDataSizeMsg srv s (dataSizeMsg StSockMsg.retrasmit stsockidServer packNo 0) with
  | none => exact .none
  | some s' => exact .some ⟨rfl, onShared_same (by rw [sendDataSizeMsg_fs hs]; exact h)⟩

theorem processPayload_files {s : Conn} {gs : FS} (hc : Sees P s.client) (h : Agree P s.fs gs) (n : Nat) :
    SameAnswer P (processPayload srv env n s) (processPayload srv env n (onShared gs q s)) := by
  simp only [processPayload, show (onShared gs q s).client = s.client from rfl]
  split
  · exact .some ⟨rfl, onShared_same h⟩
  · split
    · exact .some ⟨rfl, onShared_same h⟩
    · split
      · exact sendReTrasmit_files h _
      · split
        · exact sendReTrasmit_files (s := traceCrc s) h _
        · exact .some (processFrame_files (s := traceCrc s) hc h)

theorem readFrom_files (off count : Nat) (s : Conn) (gs : FS) (q : List BigDataBlock) :
    readFrom off count (onShared gs q s) = (readFrom off count s).map fun r => (r.1, onShared gs q r.2) := by
  unfold readFrom
  simp only [show (onShared gs q s).sock = s.sock from rfl]
  cases readLoop count s.sock.recvs [] s.sock.inp with
  | none => rfl
  | some r => rfl

theorem readFromNonBlocking_files (off : Nat) (count : Int) (s : Conn) (gs : FS) (q : List BigDataBlock) :
    readFromNonBlocking off count (onShared gs q s) = (readFromNonBlocking off count s).map fun r => (r.1, onShared gs q r.2) := by
  unfold readFromNonBlocking
  simp only [show (onShared gs q s).sock = s.sock from rfl]
  cases s.sock.recvs with
  | nil => rfl
  | cons r rs =>
    cases r with
    | none => rfl
    | some k => rfl

theorem readFrom_same {off count n : Nat} {s s' : Conn} (h : readFrom off count s = some (n, s')) :
    s'.fs = s.fs ∧ s'.client.idx = s.client.idx := by
  obtain ⟨got, rs, -, -, rfl⟩ := readFrom_blocking h
  exact ⟨rfl, rfl⟩

theorem processRegister_files {s : Conn} {gs : FS} (h : Agree P s.fs gs) :
    SameAnswer P (processRegister srv env s) (processRegister srv env (onShared gs q s)) := by
  unfold processRegister
  simp only [show (onShared gs q s).client = s.client from rfl, readFromNonBlocking_files]
  cases hr : readFromNonBlocking dataSizeLen (msgSize s.client.recvBuffer) s with
  | none => exact .none
  | some r =>
    obtain ⟨n, s2⟩ := r
    obtain ⟨piece, rs, -, -, hs2⟩ := readFromNonBlocking_cases hr
    have hfs : Agree P s2.fs gs := by
      rw [hs2]
      exact h
    simp only [Option.map_some]
    split
    · exact .some ⟨rfl, onShared_same hfs⟩
    · simp only [show (onShared gs q s2).sock = s2.sock from rfl, show (onShared gs q s2).client = s2.client from rfl]
      cases writeTo srv (registerReply srv env s2.client) dataSizeLen s2.sock with
      | none => exact .none
      | some w => exact .some ⟨rfl, rfl, hfs⟩

theorem processRetrasmit_files {s : Conn} {gs : FS} (h : Agree P s.fs gs) :
    SameAnswer P (processRetrasmit srv s) (processRetrasmit srv (onShared gs q s)) := by
  unfold processRetrasmit
  simp only [show (onShared gs q s).client = s.client from rfl, show (onShared gs q s).sock = s.sock from rfl]
  cases writeTo srv s.client.sendBuffer s.client.sendDataSize s.sock with
  | none => exact .none
  | some w => exact .some ⟨rfl, rfl, h⟩

theorem processDefault_files {s : Conn} {gs : FS} (hc : Sees P s.client) (h : Agree P s.fs gs) :
    SameAnswer P (processDefault srv env s) (processDefault srv env (onShared gs q s)) := by
  simp only [processDefault, show (onShared gs q s).client = s.client from rfl, readFrom_files]
  split
  · exact .some ⟨rfl, onShared_same h⟩
  · split
    · exact .some ⟨rfl, onShared_same h⟩
    · split
      · exact .some ⟨rfl, onShared_same h⟩
      · cases hr : readFrom dataSizeLen (msgSize s.client.recvBuffer).toNat s with
        | none => exact .none
        | some r =>
          obtain ⟨hfs, hidx⟩ := readFrom_same hr
          exact processPayload_files (hc.place hidx) (by rw [hfs]; exact h) r.1

/-- **One message** on both. -/
theorem message_files {s : Conn} {gs : FS} (hc : Sees P s.client) (h : Agree P s.fs gs) :
    SameAnswer P (processMessageBuffer srv env s) (processMessageBuffer srv env (onShared gs q s)) := by
  unfold processMessageBuffer
  rw [show startMessage (onShared gs q s) = onShared gs q (startMessage s) from rfl, readFrom_files]
  cases hr : readFrom 0 dataSizeLen (startMessage s) with
  | none => exact .none
  | some r =>
    obtain ⟨n, s1⟩ := r
    obtain ⟨hfs, hidx⟩ := readFrom_same hr
    have hfs1 : Agree P s1.fs gs := by
      rw [hfs]
      exact h
    have hc1 : Sees P s1.client := hc.place hidx
    simp only [Option.map_some]
    split
    · exact .some ⟨rfl, onShared_same hfs1⟩
    · simp only [processMessage, show (onShared gs q s1).client = s1.client from rfl]
      split
      · exact processRegister_files hfs1
      · split
        · exact processRetrasmit_files hfs1
        · split
          · exact .some ⟨rfl, onShared_same hfs1⟩
          · exact processDefault_files hc1 hfs1

/-! ## The slot -/

theorem dbFile_not_own (i : Nat) (name : List Byte) : ¬OwnFile i (dbFilePath name) := by
  have hdb : (dbFilePath name).head? = some 0x44 := by simp [dbFilePath, str]
  intro h
  rcases h with h | ⟨l, h⟩
  · rw [h] at hdb
    simp [bigDataPath, str] at hdb
  · rw [h] at hdb
    simp [str] at hdb

theorem packFrame_files {fs gs : FS} (c : Client) (hdb : ∀ name, P (dbFilePath name)) (h : Agree P fs gs) :
    packFrame env gs c = packFrame env fs c := by
  have hbig : ∀ c, packDataWithBigData env gs c = packDataWithBigData env fs c := by
    intro c
    unfold packDataWithBigData
    rw [fopenRead_agree h (hdb _)]
  unfold packFrame
  simp only [hbig]

theorem endPack_files {s : Conn} {gs : FS} (hdb : ∀ name, P (dbFilePath name)) (h : Agree P s.fs gs) :
    Option.Rel (SameButShared P) (endPackSendData srv env s) (endPackSendData srv env (onShared gs q s)) := by
  unfold endPackSendData
  simp only [show (onShared gs q s).client = s.client from rfl, show (onShared gs q s).sock = s.sock from rfl,
    show (onShared gs q s).fs = gs from rfl, packFrame_files s.client hdb h]
  split
  · cases writeTo srv (packFrame env s.fs s.client).sendBuffer (packFrame env s.fs s.client).sendDataSize s.sock with
    | none => exact .none
    | some w => exact .some ⟨rfl, h⟩
  · unfold sendConfirmMessage
    rw [sendDataSizeMsg_files]
    cases hs : sendDataSizeMsg srv s (dataSizeMsg StSockMsg.confirm stsockidServer s.client.packRef 0) with
    | none => exact .none
    | some s' =>
      have hfs : Agree P s'.fs gs := by
        rw [sendDataSizeMsg_fs hs]
        exact h
      simp only [Option.map_some]
      split
      · exact .some ⟨rfl, hfs⟩
      · exact .some ⟨rfl, hfs⟩

theorem sendNotice_files {s : Conn} {gs : FS} (type : BitVec 16) (h : Agree P s.fs gs) :
    Option.Rel (SameButShared P) (sendNotice srv env type s) (sendNotice srv env type (onShared gs q s)) := by
  unfold sendNotice
  simp only [show (onShared gs q s).sock = s.sock from rfl]
  cases writeTo srv (dataSizeMsg type stsockidServer env.junk 0) dataSizeLen s.sock with
  | none => exact .none
  | some w => exact .some ⟨rfl, h⟩

/-- The same reply, and slots the same but for what is shared. -/
def SameReply (P : Path → Prop) (x y : Option (Reply × Conn)) : Prop :=
  Option.Rel (fun a b => b.1 = a.1 ∧ SameButShared P a.2 b.2) x y

/-- A call that takes a block of the pool. -/
def Call.takesBlock : Call → Bool
  | .getBigData => true
  | _ => false

theorem notice_reply {x y : Option Conn} (h : Option.Rel (SameButShared P) x y) :
    SameReply P (x.map fun s => (Reply.unit, s)) (y.map fun s => (Reply.unit, s)) := by
  cases h with
  | none => exact .none
  | some hs => exact .some ⟨rfl, hs⟩

/-- **One call** on both. -/
theorem call_files {s : Conn} {gs : FS} {a : Call} (hdb : ∀ name, P (dbFilePath name)) (h : Agree P s.fs gs)
    (ha : a.takesBlock = false) : SameReply P (doCall srv env s a) (doCall srv env (onShared gs q s) a) := by
  cases a with
  | sendDBFile name =>
    have hsame : stsvSendDBFile env gs s.client name = stsvSendDBFile env s.fs s.client name := by
      unfold stsvSendDBFile
      rw [fopenRead_agree h (hdb name)]
    refine .some ⟨rfl, ?_, h⟩
    show { onShared gs q s with client := stsvSendDBFile env gs s.client name } = _
    rw [hsame]
    rfl
  | sendDuplicateLogin => exact notice_reply (sendNotice_files _ h)
  | sendServerFULL => exact notice_reply (sendNotice_files _ h)
  | getBigData => cases ha
  | _ => exact .some ⟨rfl, rfl, h⟩

/-- The same slot but for what is shared. -/
structure SameSlot (P : Path → Prop) (s t : Slot) : Prop where
  slot : t = { s with conn := t.conn }
  conn : SameButShared P s.conn t.conn

/-- **One step** on both. -/
theorem step_files {s t s' : Slot} {e : Ev} (hdb : ∀ name, P (dbFilePath name))
    (hc : s.conn.client.online = true → Sees P s.conn.client) (h : SameSlot P s t)
    (ha : ∀ env a, e = .call env a → a.takesBlock = false) (he : step srv s e = some s') :
    ∃ t', step srv t e = some t' ∧ SameSlot P s' t' := by
  obtain ⟨conn, phase, handled, answers, seen⟩ := s
  obtain ⟨gs, q, ht, hfs⟩ : ∃ gs q, t = ⟨onShared gs q conn, phase, handled, answers, seen⟩ ∧ Agree P conn.fs gs := by
    refine ⟨t.conn.fs, t.conn.pool, ?_, h.conn.files⟩
    rw [h.slot, ← h.conn.conn]
  subst ht
  cases e with
  | accept idx inp recvs sends =>
    simp only [step, show (onShared gs q conn).client = conn.client from rfl] at he ⊢
    split at he
    · rename_i hg
      rw [if_pos hg]
      unfold acceptConnection at he ⊢
      cases hw : writeTo srv (dataSizeMsg StSockMsg.giveid stsockidServer (idx.setWidth 32) 0) dataSizeLen ⟨inp, recvs, sends, []⟩ with
      | none =>
        simp only [hw] at he
        cases he
      | some w =>
        simp only [hw] at he ⊢
        cases he
        exact ⟨_, rfl, rfl, rfl, hfs⟩
    · cases he
  | message env =>
    simp only [step, show (onShared gs q conn).client = conn.client from rfl] at he ⊢
    split at he
    · rename_i hg
      rw [if_pos hg]
      have hm := @message_files P env q srv conn gs (hc hg.2) hfs
      unfold SameAnswer at hm
      generalize processMessageBuffer srv env conn = x at hm he
      generalize processMessageBuffer srv env (onShared gs q conn) = y at hm ⊢
      cases hm with
      | none => cases he
      | @some x y hxy =>
        obtain ⟨ret, c⟩ := x
        obtain ⟨ret', c'⟩ := y
        obtain ⟨hret, hsame⟩ := hxy
        simp only at hret hsame he ⊢
        subst hret
        have hno : msgPackNo c'.client.recvBuffer = msgPackNo c.client.recvBuffer := by
          rw [hsame.conn]
          rfl
        by_cases h0 : ret' = 0
        · rw [if_pos h0] at he ⊢
          cases he
          rw [hno]
          exact ⟨_, rfl, ⟨rfl, hsame⟩⟩
        · rw [if_neg h0] at he ⊢
          cases he
          exact ⟨_, rfl, ⟨rfl, hsame⟩⟩
    · cases he
  | timeout =>
    simp only [step, show (onShared gs q conn).client = conn.client from rfl] at he ⊢
    split at he
    · rename_i hg
      cases he
      rw [if_pos hg]
      exact ⟨_, rfl, rfl, rfl, hfs⟩
    · cases he
  | endPack env =>
    simp only [step] at he ⊢
    split at he
    · rename_i hg
      rw [if_pos hg]
      obtain ⟨c, hcs, rfl⟩ := Option.map_eq_some_iff.mp he
      have hend := @endPack_files P env q srv conn gs hdb hfs
      rw [hcs] at hend
      cases hx : endPackSendData srv env (onShared gs q conn) with
      | none =>
        rw [hx] at hend
        cases hend
      | some c' =>
        rw [hx] at hend
        cases hend with
        | some hsame =>
          have hout : c'.sock.out = c.sock.out := by
            rw [hsame.conn]
            rfl
          refine ⟨_, rfl, ?_, hsame⟩
          simp only [hout]
          rfl
    · cases he
  | call env a =>
    simp only [step] at he ⊢
    obtain ⟨⟨r, c⟩, hcs, rfl⟩ := Option.map_eq_some_iff.mp he
    have hcall := @call_files P env q srv conn gs a hdb hfs (ha env a rfl)
    rw [hcs] at hcall
    cases hx : doCall srv env (onShared gs q conn) a with
    | none =>
      rw [hx] at hcall
      cases hcall
    | some y =>
      obtain ⟨r', c'⟩ := y
      rw [hx] at hcall
      cases hcall with
      | some hsame =>
        obtain ⟨hr, hsame⟩ := hsame
        simp only at hr hsame
        subst hr
        exact ⟨_, rfl, rfl, hsame⟩

/-! ## What a step writes -/

/-- The upload's file is one of the slot's own. -/
theorem openedPath_own {c : Client} {path : Path} (h : openedPath env c = some path) : OwnFile c.idx.toNat path := by
  unfold openedPath at h
  split at h
  · split at h
    · cases h
      exact fileDataPath_own _
    · split at h
      · cases h
        exact fileDataPath_own c
      · cases h
  · cases h

theorem message_writes_own {s s' : Conn} {ret : Int} {p : Path} (hp : ¬OwnFile s.client.idx.toNat p)
    (h : processMessageBuffer srv env s = some (ret, s')) : s'.fs p = s.fs p ∧ s'.client.idx = s.client.idx := by
  cases ht : takenFrame srv s with
  | none =>
    obtain ⟨-, hun⟩ := message_untaken ht h
    exact ⟨congrFun hun.uploads.fs p, hun.idx⟩
  | some t =>
    rw [processMessageBuffer_taken env ht] at h
    obtain ⟨n, hd, -, -⟩ := takenFrame_iff.mp ht
    have hun := hd.untouched
    have hs' : s' = (processFrame env (traceCrc t)).2 := by rw [Option.some.inj h]
    rw [hs']
    constructor
    · rw [frame_opens]
      · exact congrFun hun.uploads.fs p
      · intro hpath
        subst hpath
        refine hp (Or.inl ?_)
        rw [← hun.idx]
        rfl
      · intro hopen
        refine hp ?_
        rw [← hun.idx]
        exact openedPath_own hopen
    · rw [(processFrame_done env (traceCrc t)).client]
      exact hun.idx

/-- The slot's number, once a connection has been given to it. -/
def Numbered (i : Nat) (s : Slot) : Prop := s.conn.client.online = true → s.conn.client.idx.toNat = i

/-- Every connection is given the slot's number. -/
def Ev.names (i : Nat) : Ev → Prop
  | .accept idx _ _ _ => idx.toNat = i
  | _ => True

/-- **A step writes the slot's own files**, while it has a client, and leaves it its number. -/
theorem step_writes_own {s s' : Slot} {e : Ev} {i : Nat} (hi : Numbered i s) (hname : e.names i)
    (he : step srv s e = some s') :
    (∀ p, (s.conn.client.online = true → ¬OwnFile i p) → s'.conn.fs p = s.conn.fs p) ∧ Numbered i s' := by
  cases step_stepped he with
  | accept => exact ⟨fun p _ => rfl, fun _ => hname⟩
  | handled env c hph hon hm =>
    refine ⟨fun p hp => ?_, fun _ => ?_⟩
    · exact (message_writes_own (by rw [hi hon]; exact hp hon) hm).1
    · rw [← hi hon]
      exact congrArg BitVec.toNat (message_writes_own (p := dbFilePath []) (dbFile_not_own _ _) hm).2
  | dropped env c ret hph hon hret hm =>
    refine ⟨fun p hp => ?_, fun _ => ?_⟩
    · exact (message_writes_own (by rw [hi hon]; exact hp hon) hm).1
    · rw [← hi hon]
      exact congrArg BitVec.toNat (message_writes_own (p := dbFilePath []) (dbFile_not_own _ _) hm).2
  | timeout => exact ⟨fun p _ => rfl, fun hon => by cases hon⟩
  | endPack env c hph hc =>
    cases hc with
    | frame ret sock _ hw =>
      refine ⟨fun p _ => rfl, fun hon => ?_⟩
      have hidx := (packFrame_only env s.conn.fs s.conn.client).field (·.idx) fun _ _ => rfl
      show (packFrame env s.conn.fs s.conn.client).idx.toNat = i
      rw [hidx]
      exact hi (Bool.and_eq_true_iff.mp hon).1
    | confirm ret sock _ _ hw => exact ⟨fun p _ => rfl, fun hon => hi (Bool.and_eq_true_iff.mp hon).1⟩
  | call env a r c hc =>
    have hdone := doCall_done hc
    refine ⟨fun p _ => congrFun hdone.fs p, fun hon => ?_⟩
    have hidx : c.client.idx = s.conn.client.idx := by
      rw [hdone.client]
      rfl
    show c.client.idx.toNat = i
    rw [hidx]
    exact hi (call_online hc hon)

end StarServer.Socket

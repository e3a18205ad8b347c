/-
  StarServer.Socket.Dispatch — what one call of `processMessageBuffer` can do.

  `Outcome` lists every way out of the function, with the state it leaves; what holds of
  single messages is a case analysis on it (`processMessageBuffer_outcome`).
-/

import StarServer.Socket.Receive

namespace StarServer.Socket

open StarServer.Memory

variable (srv : Server)

/-- The header has been read: `s1` holds it at the front of `recvBuffer`. -/
def HeaderRead (s s1 : Conn) : Prop := readFrom 0 dataSizeLen (startMessage s) = some (dataSizeLen, s1)

/-- The type is none that the switch names. -/
structure IsDefault (b : Buf) : Prop where
  notRegister : msgType b ≠ StSockMsg.register
  notRetrasmit : msgType b ≠ StSockMsg.retrasmit
  notPing : msgType b ≠ StSockMsg.ping

/-- `default` with a sender id in range. -/
structure IsKnown (b : Buf) : Prop extends IsDefault b where
  fromID : 0 ≤ msgFromID b
  fromIDLt : msgFromID b < srv.nMaxConnection

/-- The header of a data message whose payload the server will read. -/
structure IsData (b : Buf) : Prop extends IsKnown srv b where
  type : msgType b &&& StSockMsg.alldata ≠ 0
  size : 0 ≤ msgSize b
  sizeLe : msgSize b ≤ stsvMaxBuffer

/-- A data message's header and payload have been read, the second `ReadFrom` answering
    `readSize`. -/
structure DataRead (s s2 : Conn) (readSize : Nat) : Prop where
  read : ∃ s1, HeaderRead s s1 ∧ IsData srv s1.client.recvBuffer ∧
    readFrom dataSizeLen (msgSize s1.client.recvBuffer).toNat s1 = some (readSize, s2)

/-- The message is new and the session still takes it. -/
structure IsFresh (c : Client) : Prop where
  packNo : c.packRef < msgPackNo c.recvBuffer
  session : ¬ sessionOver srv c

/-- It is whole and its CRC is right. -/
structure IsIntact (readSize : Nat) (b : Buf) : Prop where
  size : (readSize : Int) = msgSize b
  crc : crcOver b packDataLen (crcLength b) = b.u16 12

/-! ## What has been read -/

/-- `recvBuffer` with the next 12 bytes of the stream at its front. -/
def nextHeader (s : Conn) : Buf := s.client.recvBuffer.store 0 (s.sock.inp.take dataSizeLen)

/-- A payload at offset 12 leaves the header as it is. -/
theorem header_store (b : Buf) (l : List Byte) :
    msgType (b.store dataSizeLen l) = msgType b ∧ msgFromID (b.store dataSizeLen l) = msgFromID b ∧
      msgPackNo (b.store dataSizeLen l) = msgPackNo b ∧ msgSize (b.store dataSizeLen l) = msgSize b := by
  have h12 : dataSizeLen = 12 := rfl
  refine ⟨?_, ?_, ?_, ?_⟩
  · exact Buf.u16_store_out (by omega)
  · exact congrArg BitVec.toInt (Buf.u16_store_out (by omega))
  · exact Buf.u32_store_out (by omega)
  · exact congrArg BitVec.toInt (Buf.u32_store_out (by omega))

/-- The slot once the header is read. -/
theorem HeaderRead.eq {s s1 : Conn} (h : HeaderRead s s1) :
    dataSizeLen ≤ s.sock.inp.length ∧ ∃ rs, rs <:+ s.sock.recvs ∧
      s1 = { s with
        client := { s.client with recvCount := 0, recvBuffer := nextHeader s }
        sock := { s.sock with inp := s.sock.inp.drop dataSizeLen, recvs := rs }
        trace := s.trace ++ [.recv 0 dataSizeLen] } := by
  obtain ⟨got, rs, hrs, hcase, rfl⟩ := readFrom_blocking h
  rcases hcase with ⟨-, hlen, rfl⟩ | ⟨h0, -⟩
  · have hgot : (s.sock.inp.take dataSizeLen).length = dataSizeLen := List.length_take_of_le hlen
    refine ⟨hlen, rs, hrs, ?_⟩
    simp only [startMessage, hgot]
    rfl
  · exact absurd h0 (by decide)

/-- The payload `ReadFrom` put into the buffer: all of it, or what was left of a stream
    that ended. -/
def Payload (s : Conn) (got : List Byte) (n : Nat) : Prop :=
  let size := (msgSize (nextHeader s)).toNat
  let rest := s.sock.inp.drop dataSizeLen
  (n = size ∧ size ≤ rest.length ∧ got = rest.take size) ∨ (n = 0 ∧ rest.length < size ∧ got = rest)

/-- The slot once header and payload are read. -/
theorem DataRead.eq {s s2 : Conn} {n : Nat} (h : DataRead srv s s2 n) :
    dataSizeLen ≤ s.sock.inp.length ∧ IsData srv (nextHeader s) ∧ ∃ got rs, rs <:+ s.sock.recvs ∧ Payload s got n ∧
      s2 = { s with
        client := { s.client with recvCount := 0, recvBuffer := (nextHeader s).store dataSizeLen got }
        sock := { s.sock with inp := (s.sock.inp.drop dataSizeLen).drop got.length, recvs := rs }
        trace := s.trace ++ [.recv 0 dataSizeLen, .recv dataSizeLen (msgSize (nextHeader s)).toNat] } := by
  obtain ⟨s1, hh, hdata, hr⟩ := h.read
  obtain ⟨hlen, rs1, hrs1, rfl⟩ := hh.eq
  obtain ⟨got, rs, hrs, hcase, rfl⟩ := readFrom_blocking hr
  refine ⟨hlen, hdata, got, rs, hrs.trans hrs1, hcase, ?_⟩
  simp only [List.append_assoc, List.singleton_append]

/-! ## What the frame handlers leave alone -/

/-- `c` with the fields that the handlers of a data frame write, as they are in `r`. -/
def recvUpdate (c r : Client) : Client :=
  { c with
    packRef := r.packRef
    recvCount := r.recvCount
    recvBufferMSG := r.recvBufferMSG
    recvBufferMSGSize := r.recvBufferMSGSize
    bigDataReadSize := r.bigDataReadSize
    bigDataReadSizeDone := r.bigDataReadSizeDone
    bigDataReady := r.bigDataReady
    fileDataReady := r.fileDataReady
    fileDataName := r.fileDataName }

/-- Only fields that the handlers write differ. -/
def OnlyReceived (c r : Client) : Prop := r = recvUpdate c r

theorem OnlyReceived.refl (c : Client) : OnlyReceived c c := rfl

theorem OnlyReceived.trans {a b c : Client} (h1 : OnlyReceived a b) (h2 : OnlyReceived b c) : OnlyReceived a c := by
  unfold OnlyReceived at h1 h2 ⊢
  rw [h1] at h2
  exact h2

theorem processMessagePacket_only (c : Client) :
    OnlyReceived c (processMessagePacket c) ∧ (processMessagePacket c).packRef = c.packRef := by
  unfold processMessagePacket
  split
  · exact ⟨rfl, rfl⟩
  · exact ⟨rfl, rfl⟩

/-- `c` with the fields that an upload writes, as they are in `r`. -/
def uploadUpdate (c r : Client) : Client :=
  { c with
    bigDataReadSize := r.bigDataReadSize
    bigDataReadSizeDone := r.bigDataReadSizeDone
    bigDataReady := r.bigDataReady
    fileDataReady := r.fileDataReady
    fileDataName := r.fileDataName }

/-- Only fields that an upload writes differ. -/
def OnlyUploaded (c r : Client) : Prop := r = uploadUpdate c r

theorem OnlyUploaded.trans {a b c : Client} (h1 : OnlyUploaded a b) (h2 : OnlyUploaded b c) : OnlyUploaded a c := by
  unfold OnlyUploaded at h1 h2 ⊢
  rw [h1] at h2
  exact h2

theorem OnlyUploaded.received {c r : Client} (h : OnlyUploaded c r) : OnlyReceived c r ∧ r.packRef = c.packRef := by
  unfold OnlyUploaded at h
  rw [h]
  exact ⟨rfl, rfl⟩

theorem writeUpload_only (c : Client) (file : Option FS) (fs : FS) (path : Path) (start : Nat) (size : BitVec 64) :
    OnlyUploaded c (writeUpload c file fs path start size).1 := by
  cases file with
  | none => rfl
  | some fs' => rfl

theorem beginBigData_only (c : Client) (start : Nat) : OnlyUploaded c (beginBigData c start) := rfl

theorem finishBigData_only (c : Client) (file : Option FS) (fs : FS) (start : Nat) :
    OnlyUploaded c (finishBigData c file fs start).2.1 := by
  have h := writeUpload_only c file fs (bigDataPath c.idx.toNat) (start + 8) (bigDataPackSize c.recvBuffer)
  unfold finishBigData
  generalize writeUpload c file fs (bigDataPath c.idx.toNat) (start + 8) (bigDataPackSize c.recvBuffer) = r at h ⊢
  simp only
  split
  · exact h.trans rfl
  · exact h

theorem proessMessageBigData_only (env : Env) (fs : FS) (c : Client) :
    OnlyUploaded c (proessMessageBigData env fs c).2.1 := by
  unfold proessMessageBigData
  have h := beginBigData_only c (packetDataSize c.recvBuffer).toNat
  simp only
  split
  · cases fopenWrite env fs (bigDataPath c.idx.toNat) with
    | none => exact h
    | some fs' => exact h.trans (finishBigData_only _ _ _ _)
  · split
    · exact finishBigData_only _ _ _ _
    · exact finishBigData_only _ _ _ _

theorem beginFileData_only (c : Client) (start : Nat) : OnlyUploaded c (beginFileData c start) := rfl

theorem finishFileData_only (c : Client) (file : Option FS) (fs : FS) (start skip : Nat) :
    OnlyUploaded c (finishFileData c file fs start skip).2.1 := by
  have h := writeUpload_only c file fs (fileDataPath c) (start + 8 + skip)
    (bigDataPackSize c.recvBuffer - BitVec.ofNat 64 skip)
  unfold finishFileData
  generalize writeUpload c file fs (fileDataPath c) (start + 8 + skip)
    (bigDataPackSize c.recvBuffer - BitVec.ofNat 64 skip) = r at h ⊢
  simp only
  split
  · exact h.trans rfl
  · exact h

theorem proessMessageFileData_only (env : Env) (fs : FS) (c : Client) :
    OnlyUploaded c (proessMessageFileData env fs c).2.1 := by
  unfold proessMessageFileData
  have h := beginFileData_only c (packetDataSize c.recvBuffer).toNat
  simp only
  split
  · cases fopenWrite env fs (fileDataPath (beginFileData c (packetDataSize c.recvBuffer).toNat)) with
    | none => exact h
    | some fs' => exact h.trans (finishFileData_only _ _ _ _ _)
  · split
    · exact finishFileData_only _ _ _ _ _
    · exact finishFileData_only _ _ _ _ _

/-- What a checked frame leaves of the connection: the socket, the pool, the trace and the
    sending side as they were. `packRef` is the frame's packNo when it answers 0, and what
    it was otherwise. -/
structure FrameDone (s : Conn) (ret : Int) (s' : Conn) : Prop where
  client : OnlyReceived s.client s'.client
  sock : s'.sock = s.sock
  pool : s'.pool = s.pool
  trace : s'.trace = s.trace
  packRef : s'.client.packRef = if ret = 0 then msgPackNo s.client.recvBuffer else s.client.packRef

theorem processFrame_done (env : Env) (s : Conn) : FrameDone s (processFrame env s).1 (processFrame env s).2 := by
  unfold processFrame
  simp only
  have h1 : OnlyReceived s.client (if msgType s.client.recvBuffer &&& StSockMsg.packdatasize ≠ 0 then
      processMessagePacket s.client else s.client) ∧ (if msgType s.client.recvBuffer &&& StSockMsg.packdatasize ≠ 0 then
      processMessagePacket s.client else s.client).packRef = s.client.packRef := by
    split
    · exact processMessagePacket_only _
    · exact ⟨rfl, rfl⟩
  generalize (if msgType s.client.recvBuffer &&& StSockMsg.packdatasize ≠ 0 then
    processMessagePacket s.client else s.client) = c1 at h1 ⊢
  have h2 : OnlyReceived c1 (if msgType s.client.recvBuffer &&& StSockMsg.bigdata ≠ 0 then
      proessMessageBigData env s.fs c1 else (0, c1, s.fs)).2.1 ∧ (if msgType s.client.recvBuffer &&& StSockMsg.bigdata ≠ 0
      then proessMessageBigData env s.fs c1 else (0, c1, s.fs)).2.1.packRef = c1.packRef := by
    split
    · exact (proessMessageBigData_only _ _ _).received
    · exact ⟨rfl, rfl⟩
  generalize (if msgType s.client.recvBuffer &&& StSockMsg.bigdata ≠ 0 then proessMessageBigData env s.fs c1
    else (0, c1, s.fs)) = r2 at h2 ⊢
  obtain ⟨ret2, c2, fs2⟩ := r2
  simp only at h2 ⊢
  have hc2 := h1.1.trans h2.1
  have hp2 := h2.2.trans h1.2
  split
  · rename_i hr
    exact ⟨hc2, rfl, rfl, rfl, hp2.trans (if_neg hr).symm⟩
  · have h3 : OnlyReceived c2 (if msgType s.client.recvBuffer &&& StSockMsg.filedata ≠ 0 then
        proessMessageFileData env fs2 c2 else (0, c2, fs2)).2.1 ∧ (if msgType s.client.recvBuffer &&& StSockMsg.filedata ≠ 0
        then proessMessageFileData env fs2 c2 else (0, c2, fs2)).2.1.packRef = c2.packRef := by
      split
      · exact (proessMessageFileData_only _ _ _).received
      · exact ⟨rfl, rfl⟩
    generalize (if msgType s.client.recvBuffer &&& StSockMsg.filedata ≠ 0 then proessMessageFileData env fs2 c2
      else (0, c2, fs2)) = r3 at h3 ⊢
    obtain ⟨ret3, c3, fs3⟩ := r3
    simp only at h3 ⊢
    have hc3 := hc2.trans h3.1
    split
    · rename_i hr
      exact ⟨hc3, rfl, rfl, rfl, (h3.2.trans hp2).trans (if_neg hr).symm⟩
    · exact ⟨hc3.trans rfl, rfl, rfl, rfl, (if_pos rfl).symm⟩

/-! ## The ways out -/

inductive Outcome (env : Env) (s : Conn) : Int → Conn → Prop
  /-- The stream ended before a whole header. -/
  | closed (s1 : Conn) : readFrom 0 dataSizeLen (startMessage s) = some (0, s1) → Outcome env s (-1) (offline s1)
  | registerBad (s1 s2 : Conn) (n : Int) : HeaderRead s s1 → msgType s1.client.recvBuffer = StSockMsg.register →
      readFromNonBlocking dataSizeLen (msgSize s1.client.recvBuffer) s1 = some (n, s2) → n ≠ 24 →
      Outcome env s (-1) (offline s2)
  | register (s1 s2 : Conn) (ret : Nat) (sock : Sock) : HeaderRead s s1 →
      msgType s1.client.recvBuffer = StSockMsg.register →
      readFromNonBlocking dataSizeLen (msgSize s1.client.recvBuffer) s1 = some (24, s2) →
      writeTo srv (registerReply srv env s2.client) dataSizeLen s2.sock = some (ret, sock) →
      Outcome env s (-1) { s2 with
        sock := sock
        client := { s2.client with
          sendBuffer := registerReply srv env s2.client
          sendDataSize := dataSizeLen
          online := s2.client.online && ret != 0 } }
  | retrasmit (s1 : Conn) (ret : Nat) (sock : Sock) : HeaderRead s s1 →
      msgType s1.client.recvBuffer = StSockMsg.retrasmit →
      writeTo srv s1.client.sendBuffer s1.client.sendDataSize s1.sock = some (ret, sock) →
      Outcome env s (-1) { s1 with sock := sock, client := { s1.client with online := s1.client.online && ret != 0 } }
  | ping (s1 : Conn) : HeaderRead s s1 → msgType s1.client.recvBuffer = StSockMsg.ping → Outcome env s (-1) s1
  /-- A sender id out of range, or a data message with a size out of range. -/
  | hack (s1 : Conn) : HeaderRead s s1 → IsDefault s1.client.recvBuffer →
      (¬ IsKnown srv s1.client.recvBuffer ∨
        msgType s1.client.recvBuffer &&& StSockMsg.alldata ≠ 0 ∧ ¬ IsData srv s1.client.recvBuffer) →
      Outcome env s (-1) (offline s1)
  | unknown (s1 : Conn) : HeaderRead s s1 → IsKnown srv s1.client.recvBuffer →
      msgType s1.client.recvBuffer &&& StSockMsg.alldata = 0 → Outcome env s (-1) s1
  | old (s2 : Conn) (n : Nat) : DataRead srv s s2 n → msgPackNo s2.client.recvBuffer ≤ s2.client.packRef →
      Outcome env s (-1) s2
  | ahead (s2 : Conn) (n : Nat) : DataRead srv s s2 n → s2.client.packRef < msgPackNo s2.client.recvBuffer →
      sessionOver srv s2.client → Outcome env s (-1) (offline s2)
  | badLength (s2 s3 : Conn) (n : Nat) : DataRead srv s s2 n → IsFresh srv s2.client →
      (n : Int) ≠ msgSize s2.client.recvBuffer →
      sendReTrasmit srv s2 (msgPackNo s2.client.recvBuffer) = some s3 → Outcome env s (-1) s3
  | badCrc (s2 s3 : Conn) (n : Nat) : DataRead srv s s2 n → IsFresh srv s2.client →
      (n : Int) = msgSize s2.client.recvBuffer →
      crcOver s2.client.recvBuffer packDataLen (crcLength s2.client.recvBuffer) ≠ s2.client.recvBuffer.u16 12 →
      sendReTrasmit srv (traceCrc s2) (msgPackNo s2.client.recvBuffer) = some s3 → Outcome env s (-1) s3
  | accepted (s2 : Conn) (n : Nat) : DataRead srv s s2 n → IsFresh srv s2.client →
      IsIntact n s2.client.recvBuffer →
      Outcome env s (processFrame env (traceCrc s2)).1 (processFrame env (traceCrc s2)).2

variable {srv}

theorem processPayload_outcome {env : Env} {s s2 s' : Conn} {n : Nat} {ret : Int} (hd : DataRead srv s s2 n)
    (h : processPayload srv env n s2 = some (ret, s')) : Outcome srv env s ret s' := by
  simp only [processPayload] at h
  split at h
  · rename_i hold
    cases h
    exact .old s2 n hd hold
  · rename_i hnew
    have hnew := BitVec.not_le.mp hnew
    split at h
    · rename_i hover
      cases h
      exact .ahead s2 n hd hnew hover
    · rename_i hover
      split at h
      · rename_i hlen
        obtain ⟨s3, h3, hr⟩ := Option.map_eq_some_iff.mp h
        cases hr
        exact .badLength s2 _ n hd ⟨hnew, hover⟩ hlen h3
      · rename_i hlen
        have hlen := Classical.not_not.mp hlen
        split at h
        · rename_i hcrc
          obtain ⟨s3, h3, hr⟩ := Option.map_eq_some_iff.mp h
          cases hr
          exact .badCrc s2 _ n hd ⟨hnew, hover⟩ hlen hcrc h3
        · rename_i hcrc
          have hcrc := Classical.not_not.mp hcrc
          have hr := Option.some.inj h
          have h1 : ret = (processFrame env (traceCrc s2)).1 := by rw [hr]
          have h2 : s' = (processFrame env (traceCrc s2)).2 := by rw [hr]
          rw [h1, h2]
          exact .accepted s2 n hd ⟨hnew, hover⟩ ⟨hlen, hcrc⟩

/-- Where a data message's header takes `processMessage`. -/
theorem IsData.processMessage {env : Env} {s : Conn} (hd : IsData srv s.client.recvBuffer) :
    processMessage srv env s =
      (readFrom dataSizeLen (msgSize s.client.recvBuffer).toNat s).bind fun r => processPayload srv env r.1 r.2 := by
  have hid : ¬ (msgFromID s.client.recvBuffer < 0 ∨ msgFromID s.client.recvBuffer ≥ srv.nMaxConnection) := by
    have := hd.fromID
    have := hd.fromIDLt
    omega
  have hsize : ¬ (msgSize s.client.recvBuffer < 0 ∨ msgSize s.client.recvBuffer > stsvMaxBuffer) := by
    have := hd.size
    have := hd.sizeLe
    omega
  unfold Socket.processMessage
  simp only [processDefault]
  rw [if_neg hd.notRegister, if_neg hd.notRetrasmit, if_neg hd.notPing, if_neg hid, if_neg hd.type, if_neg hsize]
  cases readFrom dataSizeLen (msgSize s.client.recvBuffer).toNat s with
  | none => rfl
  | some r => rfl

theorem processDefault_outcome {env : Env} {s s1 s' : Conn} {ret : Int} (hh : HeaderRead s s1)
    (ht : IsDefault s1.client.recvBuffer) (h : processDefault srv env s1 = some (ret, s')) : Outcome srv env s ret s' := by
  simp only [processDefault] at h
  split at h
  · rename_i hid
    cases h
    refine .hack s1 hh ht (Or.inl fun hk => ?_)
    have := hk.fromID
    have := hk.fromIDLt
    omega
  · rename_i hid
    have hk : IsKnown srv s1.client.recvBuffer := ⟨ht, by omega, by omega⟩
    split at h
    · rename_i hty
      cases h
      exact .unknown _ hh hk hty
    · rename_i hty
      split at h
      · rename_i hsz
        cases h
        refine .hack s1 hh ht (Or.inr ⟨hty, fun hd => ?_⟩)
        have := hd.size
        have := hd.sizeLe
        omega
      · rename_i hsz
        split at h
        · cases h
        · rename_i n s2 hr
          exact processPayload_outcome ⟨s1, hh, ⟨hk, hty, by omega, by omega⟩, hr⟩ h

/-- **Every return of `processMessageBuffer` is one of the outcomes.** -/
theorem processMessageBuffer_outcome {env : Env} {s s' : Conn} {ret : Int}
    (h : processMessageBuffer srv env s = some (ret, s')) : Outcome srv env s ret s' := by
  unfold processMessageBuffer at h
  split at h
  · cases h
  · rename_i n s1 hr
    obtain ⟨got, rs, -, hcase, -⟩ := readFrom_blocking hr
    split at h
    · rename_i hn
      cases h
      exact .closed s1 (hn ▸ hr)
    · rename_i hn
      have hn : n = dataSizeLen := by
        rcases hcase with ⟨h1, -⟩ | ⟨h1, -⟩
        · exact h1
        · exact absurd h1 hn
      have hh : HeaderRead s s1 := by
        unfold HeaderRead
        rw [hr, hn]
      simp only [processMessage] at h
      split at h
      · rename_i hty
        unfold processRegister at h
        split at h
        · cases h
        · rename_i k s2 hk
          split at h
          · rename_i hbad
            cases h
            exact .registerBad s1 s2 k hh hty hk hbad
          · rename_i hgood
            have hgood := Classical.not_not.mp hgood
            subst hgood
            simp only at h
            split at h
            · cases h
            · rename_i r sock hw
              cases h
              exact .register s1 s2 r sock hh hty hk hw
      · rename_i hreg
        split at h
        · rename_i hty
          unfold processRetrasmit at h
          split at h
          · cases h
          · rename_i r sock hw
            cases h
            exact .retrasmit s1 r sock hh hty hw
        · rename_i hretr
          split at h
          · rename_i hty
            cases h
            exact .ping _ hh hty
          · rename_i hping
            exact processDefault_outcome hh ⟨hreg, hretr, hping⟩ h

/-! ## What any message leaves alone -/

/-- `c` with the fields that a message can write, as they are in `r`. -/
def messageUpdate (c r : Client) : Client :=
  { recvUpdate c r with
    recvBuffer := r.recvBuffer
    sendBuffer := r.sendBuffer
    sendDataSize := r.sendDataSize
    online := r.online }

/-- The queue, the file transfer and the slot's identity are not the client's to write. -/
structure MessageDone (s s' : Conn) : Prop where
  client : s'.client = messageUpdate s.client s'.client
  pool : s'.pool = s.pool

theorem sendDataSizeMsg_done {s s' : Conn} {msg : Buf} (h : sendDataSizeMsg srv s msg = some s') :
    ∃ ret sock, writeTo srv msg dataSizeLen s.sock = some (ret, sock) ∧
      s' = { s with sock := sock, client := { s.client with online := s.client.online && ret != 0 } } := by
  unfold sendDataSizeMsg at h
  split at h
  · cases h
  · rename_i ret sock hw
    cases h
    exact ⟨ret, sock, hw, rfl⟩

theorem dataRead_done {s s2 : Conn} {n : Nat} (h : DataRead srv s s2 n) : MessageDone s s2 := by
  obtain ⟨-, -, got, rs, -, -, rfl⟩ := h.eq
  exact ⟨rfl, rfl⟩

theorem outcome_done {env : Env} {s s' : Conn} {ret : Int} (h : Outcome srv env s ret s') : MessageDone s s' := by
  cases h with
  | closed s1 h1 =>
    obtain ⟨got, rs, -, -, rfl⟩ := readFrom_blocking h1
    exact ⟨rfl, rfl⟩
  | registerBad s1 s2 n hh hty hr hn =>
    obtain ⟨-, rs, -, rfl⟩ := hh.eq
    obtain ⟨piece, rs', -, -, rfl⟩ := readFromNonBlocking_cases hr
    exact ⟨rfl, rfl⟩
  | register s1 s2 r sock hh hty hr hw =>
    obtain ⟨-, rs, -, rfl⟩ := hh.eq
    obtain ⟨piece, rs', -, -, rfl⟩ := readFromNonBlocking_cases hr
    exact ⟨rfl, rfl⟩
  | retrasmit s1 r sock hh hty hw =>
    obtain ⟨-, rs, -, rfl⟩ := hh.eq
    exact ⟨rfl, rfl⟩
  | ping s1 hh hty =>
    obtain ⟨-, rs, -, rfl⟩ := hh.eq
    exact ⟨rfl, rfl⟩
  | hack s1 hh hdef hbad =>
    obtain ⟨-, rs, -, rfl⟩ := hh.eq
    exact ⟨rfl, rfl⟩
  | unknown s1 hh hk hty =>
    obtain ⟨-, rs, -, rfl⟩ := hh.eq
    exact ⟨rfl, rfl⟩
  | old s2 n hd hold => exact dataRead_done hd
  | ahead s2 n hd hnew hover =>
    obtain ⟨-, -, got, rs, -, -, rfl⟩ := hd.eq
    exact ⟨rfl, rfl⟩
  | badLength s2 s3 n hd hfresh hn hs =>
    obtain ⟨ret, sock, -, rfl⟩ := sendDataSizeMsg_done hs
    obtain ⟨-, -, got, rs, -, -, rfl⟩ := hd.eq
    exact ⟨rfl, rfl⟩
  | badCrc s2 s3 n hd hfresh hn hcrc hs =>
    obtain ⟨ret, sock, -, rfl⟩ := sendDataSizeMsg_done hs
    obtain ⟨-, -, got, rs, -, -, rfl⟩ := hd.eq
    exact ⟨rfl, rfl⟩
  | accepted s2 n hd hfresh hi =>
    obtain ⟨hclient, -, hpool, -, -⟩ := processFrame_done env (traceCrc s2)
    generalize (processFrame env (traceCrc s2)).2 = s3 at hclient hpool
    obtain ⟨-, -, got, rs, -, -, rfl⟩ := hd.eq
    unfold OnlyReceived at hclient
    refine ⟨?_, hpool⟩
    rw [hclient]
    rfl

/-- A result of 0 is an accepted frame, whose packNo is now `packRef`. -/
theorem outcome_zero {env : Env} {s s' : Conn} (h : Outcome srv env s 0 s') :
    ∃ s2 n, DataRead srv s s2 n ∧ IsFresh srv s2.client ∧ IsIntact n s2.client.recvBuffer ∧
      FrameDone (traceCrc s2) 0 s' := by
  generalize hr : (0 : Int) = ret at h
  cases h with
  | accepted s2 n hd hfresh hi => exact ⟨s2, n, hd, hfresh, hi, processFrame_done env (traceCrc s2)⟩
  | _ => exact absurd hr (by decide)

end StarServer.Socket

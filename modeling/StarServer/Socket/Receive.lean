/-
  StarServer.Socket.Receive — the receiving half: the size-table decoder, the two
  upload handlers and `processMessageBuffer`, as the code computes them.

  A message is a 12-byte header (type, fromID, packNo, size) and a payload; a data
  message's payload starts with crc and numData, then the size table, the blocks and,
  with BIGDATA or FILEDATA, the upload part. `none` is a call that has not returned yet
  (the socket's results so far do not let it).
-/

import StarServer.Socket.Send

namespace StarServer.Socket

open StarServer.Memory StarServer.Crc

/-! ## The size-table decoder -/

/-- `numData`, the signed count the client puts in the frame. -/
def numData (b : Buf) : Int := (b.u16 14).toInt

/-- `dataSizeTable[0 .. n)`. -/
def sizeTable (b : Buf) (n : Nat) : List (BitVec 16) := (List.range n).map fun i => b.u16 (packDataLen + 2 * i)

/-- An entry's block length (11 bits) and its continuation tag (5 bits). -/
def entryLen (e : BitVec 16) : Nat := (e &&& 0x7ff).toNat

def entryTag (e : BitVec 16) : BitVec 16 := e >>> 11

/-- The locals of `_processMessagePacket`'s loop with the two arrays it fills;
    `touched` are the indices it has written them at. -/
structure DecodeSt where
  curPacket : Int
  continuePack : BitVec 16
  startDataAddr : Int
  recvBufferMSG : Int → Int
  recvBufferMSGSize : Int → Int
  touched : List Int

/-- A change of tag opens the next message at the current address. -/
def openPacket (st : DecodeSt) : DecodeSt :=
  { st with
    continuePack := 1 - st.continuePack
    curPacket := st.curPacket + 1
    recvBufferMSG := Function.update st.recvBufferMSG (st.curPacket + 1) st.startDataAddr
    recvBufferMSGSize := Function.update st.recvBufferMSGSize (st.curPacket + 1) 0
    touched := st.touched ++ [st.curPacket + 1] }

def addBlock (st : DecodeSt) (e : BitVec 16) : DecodeSt :=
  { st with
    recvBufferMSGSize :=
      Function.update st.recvBufferMSGSize st.curPacket (st.recvBufferMSGSize st.curPacket + entryLen e)
    continuePack := entryTag e
    startDataAddr := st.startDataAddr + entryLen e
    touched := st.touched ++ [st.curPacket] }

def decodeStep (st : DecodeSt) (e : BitVec 16) : DecodeSt :=
  addBlock (if st.continuePack ≠ entryTag e then openPacket st else st) e

def decodeStart (c : Client) : DecodeSt where
  curPacket := -1
  continuePack := 1
  startDataAddr := packDataLen + 2 * numData c.recvBuffer
  recvBufferMSG := c.recvBufferMSG
  recvBufferMSGSize := c.recvBufferMSGSize
  touched := []

/-- The loop over the size table; a negative `numData` runs it no time. -/
def decodeTable (c : Client) : DecodeSt :=
  (sizeTable c.recvBuffer (numData c.recvBuffer).toNat).foldl decodeStep (decodeStart c)

/-- `_processMessagePacket`; it returns 0 on every path. -/
def processMessagePacket (c : Client) : Client :=
  if numData c.recvBuffer = 0 then c
  else
    let st := decodeTable c
    { c with
      recvBufferMSG := st.recvBufferMSG
      recvBufferMSGSize := st.recvBufferMSGSize
      recvCount := st.curPacket + 1 }

/-- `STSV_GetData`: the bytes at the address and size in the two arrays. -/
def stsvGetData (c : Client) (dataIdx : Int) : List Byte :=
  c.recvBuffer.slice (c.recvBufferMSG dataIdx).toNat (c.recvBufferMSGSize dataIdx).toNat

/-- The messages `STSV_GetDataCount` and `STSV_GetData` give a handler. -/
def received (c : Client) : List (List Byte) := (List.range c.recvCount.toNat).map fun k : Nat => stsvGetData c k

/-! ## Uploads -/

/-- `packetDataSize`, a `u16`: where the upload part starts. -/
def packetDataSize (b : Buf) : BitVec 16 :=
  (sizeTable b (numData b).toNat).foldl (fun sum e => sum + (e &&& 0x7ff)) 0 +
    BitVec.ofInt 16 (packDataLen + 2 * numData b)

/-- `bigDataPackSize`, a `size_t`: what is left after the 8 bytes of flags. -/
def bigDataPackSize (b : Buf) : BitVec 64 :=
  BitVec.ofInt 64 ((b.u32 8).toInt - (packetDataSize b).toNat) + BitVec.ofNat 64 dataSizeLen - 8

def bigDataPath (idx : Nat) : Path := str "TEMP/bigData" ++ pad8 idx ++ str ".tmp"

/-- The string at `fileDataName`: with no NUL in its 32 bytes it runs on into
    `fileSendName` and the flag after that. -/
def fileDataNameStr (c : Client) : List Byte :=
  cstr (c.fileDataName.bytes ++ c.fileSendName.bytes ++ [if c.fileDataSending then 1 else 0, 0])

def fileDataPath (c : Client) : Path := str "FILE/file" ++ pad8 c.idx.toNat ++ fileDataNameStr c

/-- `fopen(path, "wb")`. -/
def fopenWrite (env : Env) (fs : FS) (path : Path) : Option FS :=
  if env.canOpen path then some (Function.update fs path (some [])) else none

/-- `fopen(path, "ab")`. -/
def fopenAppend (env : Env) (fs : FS) (path : Path) : Option FS :=
  if env.canOpen path then some (Function.update fs path (some ((fs path).getD []))) else none

/-- `fwrite` at the end of an open file. -/
def fwriteEnd (fs : FS) (path : Path) (l : List Byte) : FS := Function.update fs path (some ((fs path).getD [] ++ l))

/-- The `fwrite` both handlers do when they have the file, and its count. -/
def writeUpload (c : Client) (file : Option FS) (fs : FS) (path : Path) (start : Nat) (size : BitVec 64) : Client × FS :=
  match file with
  | none => (c, fs)
  | some fs => ({ c with bigDataReadSizeDone := c.bigDataReadSizeDone + size.setWidth 32 },
      fwriteEnd fs path (c.recvBuffer.slice start size.toNat))

/-- A first frame starts over: the flag, the announced size and the count so far. -/
def beginBigData (c : Client) (start : Nat) : Client :=
  { c with bigDataReady := false, bigDataReadSize := c.recvBuffer.u32 (start + 4), bigDataReadSizeDone := 0 }

/-- The end of `_ProessMessageBigData`, once it has opened the file or not. -/
def finishBigData (c : Client) (file : Option FS) (fs : FS) (start : Nat) : Int × Client × FS :=
  let r := writeUpload c file fs (bigDataPath c.idx.toNat) (start + 8) (bigDataPackSize c.recvBuffer)
  (0, if r.1.recvBuffer.u32 start &&& StSockMsg.bigdataEnd ≠ 0 then { r.1 with bigDataReady := true } else r.1, r.2)

/-- Returns the code's result (-1 when the file of a first frame does not open). -/
def proessMessageBigData (env : Env) (fs : FS) (c : Client) : Int × Client × FS :=
  let start := (packetDataSize c.recvBuffer).toNat
  let flags := c.recvBuffer.u32 start
  let path := bigDataPath c.idx.toNat
  if flags &&& StSockMsg.bigdataHeader ≠ 0 then
    match fopenWrite env fs path with
    | none => (-1, beginBigData c start, fs)
    | some fs' => finishBigData (beginBigData c start) (some fs') fs start
  else if flags &&& StSockMsg.bigdataContinue ≠ 0 ∨ flags &&& StSockMsg.bigdataEnd ≠ 0 then
    finishBigData c (fopenAppend env fs path) fs start
  else finishBigData c none fs start

/-- A first frame also names the file. -/
def beginFileData (c : Client) (start : Nat) : Client :=
  { c with
    fileDataReady := false
    bigDataReadSize := c.recvBuffer.u32 (start + 4)
    bigDataReadSizeDone := 0
    fileDataName := .ofList (c.recvBuffer.slice (start + 8) 32) }

/-- The end of `_ProessMessageFileData`; `skip` is 32 after a name. The last frame is
    `== END` here. -/
def finishFileData (c : Client) (file : Option FS) (fs : FS) (start skip : Nat) : Int × Client × FS :=
  let r := writeUpload c file fs (fileDataPath c) (start + 8 + skip)
    (bigDataPackSize c.recvBuffer - BitVec.ofNat 64 skip)
  (0, if r.1.recvBuffer.u32 start = StSockMsg.bigdataEnd then { r.1 with fileDataReady := true } else r.1, r.2)

def proessMessageFileData (env : Env) (fs : FS) (c : Client) : Int × Client × FS :=
  let start := (packetDataSize c.recvBuffer).toNat
  let flags := c.recvBuffer.u32 start
  if flags &&& StSockMsg.bigdataHeader ≠ 0 then
    match fopenWrite env fs (fileDataPath (beginFileData c start)) with
    | none => (-1, beginFileData c start, fs)
    | some fs' => finishFileData (beginFileData c start) (some fs') fs start 32
  else if flags &&& StSockMsg.bigdataContinue ≠ 0 ∨ flags &&& StSockMsg.bigdataEnd ≠ 0 then
    finishFileData c (fopenAppend env fs (fileDataPath c)) fs start 0
  else finishFileData c none fs start 0

/-! ## processMessageBuffer -/

/-- The header fields of the message in `recvBuffer`. -/
def msgType (b : Buf) : BitVec 16 := b.u16 0
def msgFromID (b : Buf) : Int := (b.u16 2).toInt
def msgPackNo (b : Buf) : BitVec 32 := b.u32 4
def msgSize (b : Buf) : Int := (b.u32 8).toInt

def offline (s : Conn) : Conn := { s with client := { s.client with online := false } }

def readVersion (b : Buf) (a : Nat) : StarVersion := ⟨(b.u32 a).toInt, (b.u32 (a + 4)).toInt, (b.u32 (a + 8)).toInt⟩

/-- The comparison both version checks make, component by component. -/
def versionWrong (v support : StarVersion) : Bool :=
  if v.major < support.major then true
  else if v.minor < support.minor then true
  else if v.revision < support.revision then true
  else false

/-- The code a REGISTER is answered with. -/
def registerVerdict (srv : Server) (env : Env) (engineVersion clientVersion : StarVersion) : BitVec 16 :=
  let v := if srv.nServerType = .oneTime then StSockMsg.regisOkSection else StSockMsg.regisOkAlway
  let v := if versionWrong engineVersion srv.engineSupport then StSockMsg.oldVersion else v
  let v := if versionWrong clientVersion srv.clientSupport then StSockMsg.clientWrong else v
  if BitVec.ofInt 32 (srv.nMaxConnection - 10) ≤ env.nCurLoginCount then StSockMsg.serverFull else v

/-- The answer is built over what `sendBuffer` holds, only its type and fromID written. -/
def registerReply (srv : Server) (env : Env) (c : Client) : Buf :=
  (c.sendBuffer.put16 2 (registerVerdict srv env (readVersion c.recvBuffer 12) (readVersion c.recvBuffer 24))).put16 0
    StSockMsg.register

/-- `case STSOCKMSG_REGISTER`. -/
def processRegister (srv : Server) (env : Env) (s : Conn) : Option (Int × Conn) :=
  match readFromNonBlocking dataSizeLen (msgSize s.client.recvBuffer) s with
  | none => none
  | some (readSize, s) =>
    if readSize ≠ 24 then some (-1, offline s)
    else
      let b := registerReply srv env s.client
      match writeTo srv b dataSizeLen s.sock with
      | none => none
      | some (ret, sock) =>
        some (-1, { s with
          sock := sock
          client := { s.client with
            sendBuffer := b
            sendDataSize := dataSizeLen
            online := s.client.online && ret != 0 } })

/-- `case STSOCKMSG_RETRASMIT`: whatever `sendBuffer` holds now, up to `sendDataSize`. -/
def processRetrasmit (srv : Server) (s : Conn) : Option (Int × Conn) :=
  match writeTo srv s.client.sendBuffer s.client.sendDataSize s.sock with
  | none => none
  | some (ret, sock) =>
    some (-1, { s with sock := sock, client := { s.client with online := s.client.online && ret != 0 } })

/-- The checked frame: its messages, its uploads, and then `packRef`. -/
def processFrame (env : Env) (s : Conn) : Int × Conn :=
  let type := msgType s.client.recvBuffer
  let packNo := msgPackNo s.client.recvBuffer
  let c := if type &&& StSockMsg.packdatasize ≠ 0 then processMessagePacket s.client else s.client
  let (ret, c, fs) := if type &&& StSockMsg.bigdata ≠ 0 then proessMessageBigData env s.fs c else (0, c, s.fs)
  if ret ≠ 0 then (ret, { s with client := c, fs := fs })
  else
    let (ret, c, fs) := if type &&& StSockMsg.filedata ≠ 0 then proessMessageFileData env fs c else (0, c, fs)
    if ret ≠ 0 then (ret, { s with client := c, fs := fs })
    else (0, { s with client := { c with packRef := packNo }, fs := fs })

/-- `DataMsg->size-4` as the `u16` that `STOS_CRC16` takes. -/
def crcLength (b : Buf) : BitVec 16 := (b.u32 8 - 4).setWidth 16

/-- In a one-time session the answer has gone out and this is no upload. -/
def sessionOver (srv : Server) (c : Client) : Prop :=
  srv.nServerType = .oneTime ∧ c.sendDone = true ∧ msgType c.recvBuffer &&& StSockMsg.bigdata = 0 ∧
    msgType c.recvBuffer &&& StSockMsg.filedata = 0

instance (srv : Server) (c : Client) : Decidable (sessionOver srv c) := by unfold sessionOver; infer_instance

/-- The CRC is computed. -/
def traceCrc (s : Conn) : Conn :=
  { s with trace := s.trace ++ [.crc packDataLen (crcLength s.client.recvBuffer).toNat (msgSize s.client.recvBuffer)] }

/-- A data message whose payload `ReadFrom` has answered with `readSize`. -/
def processPayload (srv : Server) (env : Env) (readSize : Nat) (s : Conn) : Option (Int × Conn) :=
  let b := s.client.recvBuffer
  -- `s32 <= u32` compares unsigned
  if msgPackNo b ≤ s.client.packRef then some (-1, s)
  else if sessionOver srv s.client then some (-1, offline s)
  else if (readSize : Int) ≠ msgSize b then (sendReTrasmit srv s (msgPackNo b)).map fun s => (-1, s)
  else if crcOver b packDataLen (crcLength b) ≠ b.u16 12 then
    (sendReTrasmit srv (traceCrc s) (msgPackNo b)).map fun s => (-1, s)
  else some (processFrame env (traceCrc s))

/-- `default`: data messages, and everything unknown. -/
def processDefault (srv : Server) (env : Env) (s : Conn) : Option (Int × Conn) :=
  let b := s.client.recvBuffer
  if msgFromID b < 0 ∨ msgFromID b ≥ srv.nMaxConnection then some (-1, offline s)
  else if msgType b &&& StSockMsg.alldata = 0 then some (-1, s)
  else if msgSize b < 0 ∨ msgSize b > stsvMaxBuffer then some (-1, offline s)
  else
    match readFrom dataSizeLen (msgSize b).toNat s with
    | none => none
    | some (readSize, s) => processPayload srv env readSize s

/-- The switch on `Msg->type`. -/
def processMessage (srv : Server) (env : Env) (s : Conn) : Option (Int × Conn) :=
  let type := msgType s.client.recvBuffer
  if type = StSockMsg.register then processRegister srv env s
  else if type = StSockMsg.retrasmit then processRetrasmit srv s
  else if type = StSockMsg.ping then some (-1, s)
  else processDefault srv env s

/-- `client->recvCount = 0`, first of all. -/
def startMessage (s : Conn) : Conn := { s with client := { s.client with recvCount := 0 } }

def processMessageBuffer (srv : Server) (env : Env) (s : Conn) : Option (Int × Conn) :=
  match readFrom 0 dataSizeLen (startMessage s) with
  | none => none
  | some (readSize, s) => if readSize = 0 then some (-1, offline s) else processMessage srv env s

end StarServer.Socket

/-
  StarServer.Socket.Send — the sending half: `STSV_SendData`, `STSV_SendDBFile`, the
  three packers, `EndPackSendData` and the notices, as the code computes them.

  The packers write into `sendBuffer` in the code's order; the queue's blocks are read
  from the same buffer (`msgSlot`) as it is at that point. Sizes that the code keeps in
  32 bits are `BitVec 32`; the comparison of `sizeDataCanSend` (an `int`) with the rest
  of the file (a `u32`) is unsigned, as in C.
-/

import StarServer.Crc.Table
import StarServer.Socket.Transport

namespace StarServer.Socket

open StarServer.Memory StarServer.Crc

/-! ## Queueing -/

/-- One block into the queue: `memcpy` into the next slot, its size and message number. -/
def putBlock (c : Client) (block : List Byte) : Client :=
  { c with
    sendBuffer := c.sendBuffer.store (msgSlot c.sendCount) block
    sendBufferMSGSize := Function.update c.sendBufferMSGSize c.sendCount block.length
    sendPacketNo := Function.update c.sendPacketNo c.sendCount (c.curPacketNo.setWidth 8)
    sendCount := c.sendCount + 1 }

/-- `STSV_SendData`'s `while (fillSize)`, with fuel for every byte. -/
def fillQueue : Nat → Client → List Byte → Client
  | 0, c, _ => c
  | fuel + 1, c, buffer =>
    if buffer = [] then c
    else if buffer.length ≤ clientDefaultBuffer then putBlock c buffer
    else
      let c' := putBlock c (buffer.take clientDefaultBuffer)
      if c'.sendCount ≥ clientDefaultMaxBlock - 2 then c'
      else fillQueue fuel c' (buffer.drop clientDefaultBuffer)

def stsvSendData (c : Client) (buffer : List Byte) : Client :=
  if c.sendCount < clientDefaultMaxBlock - 2 then
    let c' := fillQueue buffer.length c buffer
    { c' with curPacketNo := c'.curPacketNo + 1 }
  else c

/-- The bytes after `fileSendName` up to and with `bigDataSendSizeDone`, as the struct lays
    them out: the name is at offset 274, the flag at 306 with one byte of padding, and the two
    sizes at 308 and 312. -/
def sendFlags (c : Client) : List Byte :=
  [if c.fileDataSending then 1 else 0, 0] ++ toLE 4 c.bigDataSendSize.toNat ++
    toLE 4 c.bigDataSendSizeDone.toNat

def sendFields (c : Client) : List Byte := c.fileSendName.bytes ++ sendFlags c

/-- `sprintf` into `fileSendName`: what does not fit spills into the fields after it. -/
def sprintfFileSendName (c : Client) (s : List Byte) : Client :=
  let a := overlay (sendFields c) (s ++ [0])
  { c with
    fileSendName := .ofList (a.take 32)
    fileDataSending := a.getD 32 0 ≠ 0
    bigDataSendSize := BitVec.ofNat 32 (ofLE ((a.drop 34).take 4))
    bigDataSendSizeDone := BitVec.ofNat 32 (ofLE ((a.drop 38).take 4)) }

def dbFilePath (name : List Byte) : Path := str "DBFILE/" ++ cstr name

/-- A file as `fopen(path, "rb")` finds it. -/
def fopenRead (env : Env) (fs : FS) (path : Path) : Option (List Byte) := if env.canOpen path then fs path else none

def stsvSendDBFile (env : Env) (fs : FS) (c : Client) (fileName : List Byte) : Client :=
  if c.fileDataSending then c
  else
    let c1 := sprintfFileSendName c (dbFilePath fileName)
    match fopenRead env fs (dbFilePath fileName) with
    | some file =>
      let c2 := { c1 with
        bigDataSendSize := BitVec.ofNat 32 file.length
        bigDataSendSizeDone := 0
        fileDataSending := true }
      sprintfFileSendName c2 (cstr fileName)
    | none => { c1 with fileDataSending := false }

/-! ## Packing -/

/-- Block `i`'s entry of the size table; carries `continuePack` and `curPacket`. -/
def tableStep (c : Client) (st : Buf × BitVec 16 × BitVec 8) (i : Nat) : Buf × BitVec 16 × BitVec 8 :=
  let continuePack := if st.2.2 ≠ c.sendPacketNo i then 1 - st.2.1 else st.2.1
  (st.1.put16 (packDataLen + 2 * i) (BitVec.ofNat 16 (c.sendBufferMSGSize i) ||| (continuePack <<< 11)),
    continuePack, c.sendPacketNo i)

/-- Block `i`'s `memcpy` to `startDataAddr`. -/
def copyStep (c : Client) (st : Buf × Nat) (i : Nat) : Buf × Nat :=
  (st.1.copy st.2 (msgSlot i) (c.sendBufferMSGSize i), st.2 + c.sendBufferMSGSize i)

/-- The sum of the queued block sizes. -/
def queueBytes (c : Client) : Nat := ((List.range c.sendCount).map c.sendBufferMSGSize).sum

/-- `sumSize`: the blocks, two bytes of table for each, four bytes of extended header. -/
def sumSize (c : Client) : Nat := queueBytes c + 2 * c.sendCount + 4

def packDataWithPacket (c : Client) : Client :=
  let n := c.sendCount
  let b := c.sendBuffer.put16 0 StSockMsg.packdatasize
  let b := b.put32 4 c.packRef
  let b := b.put16 2 stsockidServer
  let b := b.put32 8 (BitVec.ofNat 32 (sumSize c))
  let b := b.put16 14 (BitVec.ofNat 16 n)
  let b := ((List.range n).foldl (tableStep c) (b, 0, 0)).1
  let b := ((List.range n).foldl (copyStep c) (b, packDataLen + 2 * n)).1
  { c with sendBuffer := b }

/-- `_PackDataWithBigData`'s flag words at `head` and, in the first frame, the name.
    Returns the buffer and where the file's bytes go. -/
def putFileHeader (c : Client) (b : Buf) (head : Nat) : Buf × Nat :=
  let b := b.put32 8 (b.u32 8 + 8)
  if c.bigDataSendSizeDone = 0 then
    let b := (b.put32 head StSockMsg.bigdataHeader).put32 (head + 4) c.bigDataSendSize
    if c.fileDataSending then
      let b := b.store (head + 8) c.fileSendName.bytes
      (b.put32 8 (b.u32 8 + 32), head + 40)
    else (b, head + 8)
  else ((b.put32 head StSockMsg.bigdataContinue).put32 (head + 4) c.bigDataSendSize, head + 8)

/-- What `fseek` and `fread` put in the buffer: at most `size` bytes of the file. -/
def freadAt (file : List Byte) (pos size : Nat) : List Byte := (file.drop pos).take size

/-- The room for file bytes, an `int`: 60 KB less what the frame already holds. -/
def sizeDataCanSend (b : Buf) : BitVec 32 := BitVec.ofNat 32 (60 <<< 10) - b.u32 8

/-- `bigDataSendSize - bigDataSendSizeDone`, a `u32`. -/
def sendRest (c : Client) : BitVec 32 := c.bigDataSendSize - c.bigDataSendSizeDone

/-- The bytes the frame counts. `int > u32` compares unsigned: a negative room is a huge
    one. -/
def fileTake (c : Client) (b : Buf) : BitVec 32 :=
  if sendRest c < sizeDataCanSend b then sendRest c else sizeDataCanSend b

/-- The bytes `fread` is asked for, a `size_t`. -/
def freadSize (c : Client) (b : Buf) : Nat :=
  if sendRest c < sizeDataCanSend b then (sendRest c).toNat else ((sizeDataCanSend b).signExtend 64).toNat

/-- The frame's type, with FILEDATA while a file is going out. -/
def putFileType (c : Client) (b : Buf) : Buf :=
  if c.fileDataSending then b.put16 0 (b.u16 0 ||| StSockMsg.filedata) else b

/-- `bigDataSendSizeDone`, and with the last byte the END flag. -/
def finishFileSend (c : Client) (b : Buf) (head : Nat) (done : BitVec 32) : Client :=
  if done = c.bigDataSendSize then
    { c with
      sendBuffer := (b.put32 head (b.u32 head ||| StSockMsg.bigdataEnd)).put32 (head + 4) c.bigDataSendSize
      bigDataSendSizeDone := done
      fileDataSending := false }
  else { c with sendBuffer := b, bigDataSendSizeDone := done }

/-- The frame with the file part, before the last flag. -/
def putFilePart (c : Client) (file : List Byte) (b : Buf) (head : Nat) : Buf :=
  let (h, start) := putFileHeader c b head
  let h := h.store start (freadAt file c.bigDataSendSizeDone.toNat (freadSize c b))
  h.put32 8 (h.u32 8 + fileTake c b)

def packDataWithBigData (env : Env) (fs : FS) (c : Client) : Client :=
  match fopenRead env fs (dbFilePath c.fileSendName.bytes) with
  | none => c
  | some file =>
    let b := putFileType c c.sendBuffer
    let head := (b.u32 8).toNat + dataSizeLen
    finishFileSend c (putFilePart c file b head) head (c.bigDataSendSizeDone + fileTake c b)

/-- `STOS_CRC16(&buffer[off], dataLength)`. -/
def crcOver (b : Buf) (off : Nat) (dataLength : BitVec 16) : BitVec 16 := stosCRC16 (b.slice off dataLength.toNat)

def packDataWithCRC16 (c : Client) : Client :=
  let crc16 := crcOver c.sendBuffer packDataLen ((c.sendBuffer.u32 8 - 4).setWidth 16)
  { c with sendBuffer := c.sendBuffer.put16 12 crc16 }

/-! ## Sending -/

/-- A `STSOCKMSGDATA_DATASIZE` of its own. -/
def dataSizeMsg (type fromID : BitVec 16) (packNo size : BitVec 32) : Buf :=
  Buf.store ⟨fun _ => 0, 0⟩ 0 (toLE 2 type.toNat ++ toLE 2 fromID.toNat ++ toLE 4 packNo.toNat ++ toLE 4 size.toNat)

/-- `WriteTo` of such a message, by the callers that go offline when it returns 0. -/
def sendDataSizeMsg (srv : Server) (s : Conn) (msg : Buf) : Option Conn :=
  match writeTo srv msg dataSizeLen s.sock with
  | none => none
  | some (ret, sock) =>
    some { s with sock := sock, client := { s.client with online := s.client.online && ret != 0 } }

def sendReTrasmit (srv : Server) (s : Conn) (packetNo : BitVec 32) : Option Conn :=
  sendDataSizeMsg srv s (dataSizeMsg StSockMsg.retrasmit stsockidServer packetNo 0)

def sendConfirmMessage (srv : Server) (s : Conn) (packetNo : BitVec 32) : Option Conn :=
  sendDataSizeMsg srv s (dataSizeMsg StSockMsg.confirm stsockidServer packetNo 0)

/-- The frame `EndPackSendData` builds when something is queued or a file is going out. -/
def packFrame (env : Env) (fs : FS) (c : Client) : Client :=
  let c := packDataWithPacket c
  let c := if c.fileDataSending then packDataWithBigData env fs c else c
  let c := packDataWithCRC16 c
  { c with
    sendDataSize := ((c.sendBuffer.u32 8).signExtend 64 + BitVec.ofNat 64 dataSizeLen).toNat
    sendBuffer := c.sendBuffer.put32 4 c.packRef }

def endPackSendData (srv : Server) (env : Env) (s : Conn) : Option Conn :=
  if s.client.sendCount > 0 ∨ s.client.fileDataSending = true then
    let c := packFrame env s.fs s.client
    match writeTo srv c.sendBuffer c.sendDataSize s.sock with
    | none => none
    | some (ret, sock) =>
      some { s with
        sock := sock
        client := { c with online := c.online && ret != 0, recvCount := 0, sendCount := 0, curPacketNo := 0 } }
  else
    match sendConfirmMessage srv s s.client.packRef with
    | none => none
    | some s' =>
      if srv.nServerType = .oneTime then some { s' with client := { s'.client with sendDone := true } } else some s'

/-- A notice: its `packNo` is never set. -/
def sendNotice (srv : Server) (env : Env) (type : BitVec 16) (s : Conn) : Option Conn :=
  match writeTo srv (dataSizeMsg type stsockidServer env.junk 0) dataSizeLen s.sock with
  | none => none
  | some (_, sock) => some { s with sock := sock, client := { s.client with online := false } }

def stsvSendDuplicateLogin (srv : Server) (env : Env) (s : Conn) : Option Conn :=
  sendNotice srv env StSockMsg.duplicate s

def stsvSendServerFULL (srv : Server) (env : Env) (s : Conn) : Option Conn :=
  sendNotice srv env StSockMsg.serverFull s

end StarServer.Socket

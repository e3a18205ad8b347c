/-
  StarServer.Socket.Session — a client slot over its life: connections accepted into
  it, the thread's loop, and the calls handlers and other threads make on it.

  `accept` is `AcceptConnection` up to and with the start of the thread. Then the
  thread alternates: `message` is a poll that found data and the `processMessageBuffer`
  after it (a result of 0 enters the request handler), `endPack` the `EndPackSendData`
  after the handler, `timeout` a poll that found none. `call` is one library call on the
  slot, atomic, from the handler or any other thread, at any time. A thread whose client
  is offline has left its loop when it is not in a handler, and the slot can be given to
  the next connection.

  `handled`, `answers` and `seen` record, for the current connection, the packNos the
  handler ran for, the writes of each `endPack`, and what the calls returned.
-/

import StarServer.Runs.Steps
import StarServer.Socket.Receive

namespace StarServer.Socket

open StarServer.Memory

/-! ## The library's calls on a slot -/

/-- What a call returns: nothing, a flag, a count, or bytes it points the caller to. -/
inductive Reply where
  | unit
  | flag (b : Bool)
  | count (n : Int)
  | data (l : List Byte)
  | null
  deriving DecidableEq

inductive Call where
  | sendData (buffer : List Byte)
  | sendDBFile (fileName : List Byte)
  | sendDuplicateLogin
  | sendServerFULL
  | getData (dataIdx : Int)
  | getDataCount
  | haveBigData
  | getBigData
  | freeBigData
  | getFileDataName
  | haveFileData
  | freeFileData

/-- `GetBigDataBufferIdx`: the first block not in use. -/
def getBigDataBufferIdx (pool : List BigDataBlock) : Option Nat := pool.findIdx? fun p => !p.use

def setUse (pool : List BigDataBlock) (i : Nat) (use : Bool) : List BigDataBlock :=
  pool.modify i fun p => { p with use := use }

/-- `STSV_GetBigData`; the caller is pointed to `bigDataReadSize` bytes of the block. -/
def stsvGetBigData (env : Env) (s : Conn) : Reply × Conn :=
  if s.client.bigDataReady = false then (.null, s)
  else
    match getBigDataBufferIdx s.pool with
    | none => (.null, s)
    | some i =>
      let s := { s with client := { s.client with bigDataBuffer := some i }, pool := setUse s.pool i true }
      match fopenRead env s.fs (bigDataPath s.client.idx.toNat) with
      | none => (.null, s)
      | some file =>
        let size := s.client.bigDataReadSize.toNat
        let pool := s.pool.modify i fun p => { p with buffer := p.buffer.store 0 (freadAt file 0 size) }
        let block := (pool.map fun p => p.buffer.slice 0 size).getD i []
        (.data block, { s with pool := pool })

def stsvFreeBigData (s : Conn) : Conn :=
  let pool := match s.client.bigDataBuffer with
    | some i => setUse s.pool i false
    | none => s.pool
  { s with client := { s.client with bigDataBuffer := none, bigDataReady := false }, pool := pool }

def doCall (srv : Server) (env : Env) (s : Conn) : Call → Option (Reply × Conn)
  | .sendData buffer => some (.unit, { s with client := stsvSendData s.client buffer })
  | .sendDBFile fileName => some (.unit, { s with client := stsvSendDBFile env s.fs s.client fileName })
  | .sendDuplicateLogin => (stsvSendDuplicateLogin srv env s).map fun s => (.unit, s)
  | .sendServerFULL => (stsvSendServerFULL srv env s).map fun s => (.unit, s)
  | .getData dataIdx => some (.data (stsvGetData s.client dataIdx), s)
  | .getDataCount => some (.count s.client.recvCount, s)
  | .haveBigData => some (.flag s.client.bigDataReady, s)
  | .getBigData => some (stsvGetBigData env s)
  | .freeBigData => some (.unit, stsvFreeBigData s)
  | .getFileDataName => some (.data s.client.fileDataName.bytes, s)
  | .haveFileData => some (.flag s.client.fileDataReady, s)
  | .freeFileData => some (.unit, { s with client := { s.client with fileDataReady := false } })

/-! ## Accepting -/

/-- What `AcceptConnection` resets; all else of the slot stays as it was. -/
def acceptClient (freeHostIdx : BitVec 16) (c : Client) : Client :=
  { c with
    online := true
    idx := freeHostIdx
    packRef := 0
    roomIdx := -1
    curPacketNo := 0
    fileDataSending := false
    bigDataReady := false }

/-- What `STSV_ClientThreadFuncAlway` resets as it starts. -/
def startThread (c : Client) : Client :=
  { c with thread := true, sendDone := false, sendDataSize := 0 }

/-- A new connection into the slot: the resets, the GIVEID message, the thread. -/
def acceptConnection (srv : Server) (freeHostIdx : BitVec 16) (inp : List Byte) (recvs sends : List (Option Nat))
    (s : Conn) : Option Conn :=
  let msg := dataSizeMsg StSockMsg.giveid stsockidServer (freeHostIdx.setWidth 32) 0
  match writeTo srv msg dataSizeLen ⟨inp, recvs, sends, []⟩ with
  | none => none
  | some (_, sock) =>
    some { s with client := startThread (acceptClient freeHostIdx s.client), sock := sock, trace := [] }

/-! ## The slot's steps -/

inductive Phase where
  | polling
  | handling
  deriving DecidableEq, Repr

structure Slot where
  conn : Conn
  phase : Phase
  /-- The packNos of this connection's frames the request handler ran for. -/
  handled : List (BitVec 32)
  /-- The writes of each `EndPackSendData` of this connection. -/
  answers : List (List Write)
  /-- What the calls on the slot returned since it was accepted. -/
  seen : List Reply

inductive Ev where
  | accept (freeHostIdx : BitVec 16) (inp : List Byte) (recvs sends : List (Option Nat))
  | message (env : Env)
  | timeout
  | endPack (env : Env)
  | call (env : Env) (a : Call)

variable (srv : Server)

def step (s : Slot) : Ev → Option Slot
  | .accept freeHostIdx inp recvs sends =>
    if s.phase = .polling ∧ s.conn.client.online = false then
      (acceptConnection srv freeHostIdx inp recvs sends s.conn).map fun c =>
        { conn := c, phase := .polling, handled := [], answers := [], seen := [] }
    else none
  | .message env =>
    if s.phase = .polling ∧ s.conn.client.online = true then
      match processMessageBuffer srv env s.conn with
      | none => none
      | some (ret, c) =>
        if ret = 0 then some { s with conn := c, phase := .handling, handled := s.handled ++ [msgPackNo c.client.recvBuffer] }
        else some { s with conn := c }
    else none
  | .timeout =>
    if s.phase = .polling ∧ s.conn.client.online = true then some { s with conn := offline s.conn } else none
  | .endPack env =>
    if s.phase = .handling then
      (endPackSendData srv env s.conn).map fun c =>
        { s with conn := c, phase := .polling, answers := s.answers ++ [c.sock.out.drop s.conn.sock.out.length] }
    else none
  | .call env a =>
    (doCall srv env s.conn a).map fun (r, c) => { s with conn := c, seen := s.seen ++ [r] }

/-- A slot no connection has used. -/
def freshSlot (recvMem sendMem : Nat → Byte) (fs : FS) (pool : List BigDataBlock) : Slot where
  conn := ⟨Client.zero recvMem sendMem, ⟨[], [], [], []⟩, fs, pool, []⟩
  phase := .polling
  handled := []
  answers := []
  seen := []

/-- Nobody else is logged in and every file opens. -/
def quietEnv : Env := ⟨0, fun _ => true, 0⟩

/-- A slot no connection has used, its buffers zero, with no files and no pool. -/
def emptySlot : Slot := freshSlot (fun _ => 0) (fun _ => 0) (fun _ => none) []

/-- Slot 0 just accepted for the first time, with an empty file system and pool. -/
def newConn (inp : List Byte) (recvs sends : List (Option Nat)) : Conn where
  client := startThread (acceptClient 0 (Client.zero (fun _ => 0) (fun _ => 0)))
  sock := ⟨inp, recvs, sends, [⟨dataSizeMsg StSockMsg.giveid stsockidServer 0 0, dataSizeLen, dataSizeLen⟩]⟩
  fs := fun _ => none
  pool := []
  trace := []

theorem accept_newConn (inp : List Byte) (recvs sends : List (Option Nat)) :
    acceptConnection defaultServer 0 inp recvs (some 12 :: sends) emptySlot.conn = some (newConn inp recvs sends) := by
  unfold acceptConnection writeTo
  cases sends <;> rfl

/-- A slot state some history of connections and calls leads to. -/
def Reachable (s : Slot) : Prop :=
  ∃ recvMem sendMem fs pool es, Runs.run (step srv) (freshSlot recvMem sendMem fs pool) es = some s

end StarServer.Socket

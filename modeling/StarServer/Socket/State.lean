/-
  StarServer.Socket.State — the data of `StarSocketServer.cpp` / `.h`: packet types,
  server settings, one client slot (`Client_t`), its socket, the files and the
  big-data pool.

  Sizes of the arrays are the header's. `sendBufferMSG[j]` is the constant address
  `sendBuffer + 2048 + 1024 j` (`msgSlot`): the queue lives in the buffer the frame is
  packed into. `recvBufferMSG` holds offsets into `recvBuffer`. The two message arrays
  are indexed by `Int`, since the decoder's index can leave `[0, 64)`.
-/

import Mathlib.Logic.Function.Basic
import StarServer.Memory.Bytes

namespace StarServer.Socket

open StarServer.Memory

/-! ## Packet types -/

namespace StSockMsg

def packdatasize : BitVec 16 := 0x0001
def filedata : BitVec 16 := 0x0004
def bigdata : BitVec 16 := 0x0008
def alldata : BitVec 16 := 0x000f

def giveid : BitVec 16 := -2
def register : BitVec 16 := -5
def retrasmit : BitVec 16 := -6
def ping : BitVec 16 := -9
def confirm : BitVec 16 := -10
def duplicate : BitVec 16 := -11

def bigdataHeader : BitVec 32 := 0x0001
def bigdataContinue : BitVec 32 := 0x0002
def bigdataEnd : BitVec 32 := 0x0004

/-- The answers to a REGISTER (`STSOCKMSG_REGIS_OK_ALWAY` and the others). -/
def regisOkAlway : BitVec 16 := 1
def regisOkSection : BitVec 16 := 2
def oldVersion : BitVec 16 := 3
def serverFull : BitVec 16 := 4
def clientWrong : BitVec 16 := 5

end StSockMsg

/-- `STSOCKID_SERVER`. -/
def stsockidServer : BitVec 16 := -1

/-- `STAR_CLIENT_DEFAULT_BUFFER`. -/
def clientDefaultBuffer : Nat := 1024

/-- `STAR_CLIENT_DEFAULT_MAX_BLOCK`. -/
def clientDefaultMaxBlock : Nat := 64

/-- `STSV_MAX_BUFFER`, the default DATA_BUFFER. -/
def stsvMaxBuffer : Nat := 64 * 1024

/-- `STSV_BIGDATA_BUFFER`. -/
def stsvBigdataBuffer : Nat := 1 * 1024 * 1024

/-- `sizeof(STSOCKMSGDATA_DATASIZE)`: type, fromID, packNo, size. -/
def dataSizeLen : Nat := 12

/-- `sizeof(STSOCKMSGDATA_PACKDATASIZE)`: the same and crc, numData. -/
def packDataLen : Nat := 16

/-- The address `sendBufferMSG[j]` in `sendBuffer`. -/
def msgSlot (j : Nat) : Nat := clientDefaultBuffer * 2 + j * clientDefaultBuffer

inductive ServerType where
  | alwayOn
  | oneTime
  deriving DecidableEq, Repr

inductive Protocol where
  | tcp
  | udp
  deriving DecidableEq, Repr

structure StarVersion where
  major : Int
  minor : Int
  revision : Int
  deriving DecidableEq, Repr

/-- The settings `STSV_Init` leaves fixed. -/
structure Server where
  nMaxConnection : Int
  nServerType : ServerType
  nProtocol : Protocol
  engineSupport : StarVersion
  clientSupport : StarVersion

/-- The defaults `ReadConfigFile` falls back to, with the versions the file declares. -/
def defaultServer : Server := ⟨50, .alwayOn, .tcp, ⟨2, 86, 0⟩, ⟨1, 8, 0⟩⟩

/-! ## Strings and names -/

abbrev Path := List Byte

def str (s : String) : List Byte := s.toList.map fun c => BitVec.ofNat 8 c.toNat

/-- The characters of a C string: up to the first NUL. -/
def cstr (l : List Byte) : List Byte := l.takeWhile (· ≠ 0)

theorem cstr_cons {b : Byte} (h : b ≠ 0) (l : List Byte) : cstr (b :: l) = b :: cstr l := by
  unfold cstr
  rw [List.takeWhile_cons, if_pos (decide_eq_true h)]

/-- A string with no NUL in it, and what a C string holds of one with a NUL behind it. -/
theorem cstr_nul_free {l : List Byte} (h : 0 ∉ l) : cstr l = l ∧ ∀ r, cstr (l ++ 0 :: r) = l := by
  induction l with
  | nil => exact ⟨rfl, fun r => rfl⟩
  | cons b l ih =>
    have hb : b ≠ 0 := fun he => h (he ▸ List.mem_cons_self)
    obtain ⟨h1, h2⟩ := ih fun hm => h (List.mem_cons_of_mem _ hm)
    refine ⟨?_, fun r => ?_⟩
    · rw [cstr_cons hb, h1]
    · rw [List.cons_append, cstr_cons hb, h2]

/-- What follows a NUL does not matter. -/
theorem cstr_append {l : List Byte} (h : 0 ∈ l) (r : List Byte) : cstr (l ++ r) = cstr l := by
  induction l with
  | nil => cases h
  | cons b l ih =>
    by_cases hb : b = 0
    · subst hb
      rfl
    · have hl : 0 ∈ l := (List.mem_cons.mp h).resolve_left fun he => hb he.symm
      rw [List.cons_append, cstr_cons hb, cstr_cons hb, ih hl]

/-- `%08d` of a non-negative number. -/
def pad8 (n : Nat) : List Byte :=
  let d := (Nat.toDigits 10 n).map fun c => BitVec.ofNat 8 c.toNat
  List.replicate (8 - d.length) (BitVec.ofNat 8 '0'.toNat) ++ d

/-- What writing `new` over the front of `old` leaves of `old`'s length. -/
def overlay (old new : List Byte) : List Byte := new.take old.length ++ old.drop new.length

@[simp] theorem length_overlay (old new : List Byte) : (overlay old new).length = old.length := by
  simp only [overlay, List.length_append, List.length_take, List.length_drop]; omega

/-- A `char[32]`. -/
structure Name32 where
  bytes : List Byte
  len : bytes.length = 32
  deriving DecidableEq

/-- Thirty-two bytes from the front of a list, zeros where it is shorter. -/
def Name32.ofList (l : List Byte) : Name32 where
  bytes := (l ++ List.replicate 32 0).take 32
  len := by simp

theorem Name32.ofList_bytes {l : List Byte} (h : l.length = 32) : (Name32.ofList l).bytes = l := by
  simp only [Name32.ofList]
  rw [List.take_append_of_le_length (by omega), List.take_of_length_le (by omega)]

theorem Name32.ofList_self (n : Name32) : Name32.ofList n.bytes = n := by
  have h := Name32.ofList_bytes n.len
  cases n
  simpa [Name32.ofList] using h

/-- The name a C string holds, and its NUL within 32 bytes. -/
structure Named (n : Name32) (name : List Byte) : Prop where
  str : cstr n.bytes = name
  nul : 0 ∈ n.bytes

/-- A string printed over a `char[32]`: what a C string holds of it. -/
theorem overlay_cstr (n : Name32) {l : List Byte} (h : l.length ≤ 31) :
    Named (.ofList (overlay n.bytes (l ++ [0]))) (cstr l) := by
  have hlen : n.bytes.length = 32 := n.len
  have hover : overlay n.bytes (l ++ [0]) = l ++ 0 :: n.bytes.drop (l.length + 1) := by
    unfold overlay
    rw [List.take_of_length_le (by rw [List.length_append, List.length_singleton]; omega), List.append_assoc]
    simp
  have hbytes : (Name32.ofList (overlay n.bytes (l ++ [0]))).bytes = l ++ 0 :: n.bytes.drop (l.length + 1) := by
    rw [Name32.ofList_bytes (by rw [length_overlay, hlen]), hover]
  constructor
  · rw [hbytes]
    by_cases h0 : 0 ∈ l
    · exact cstr_append h0 _
    · rw [(cstr_nul_free h0).2, (cstr_nul_free h0).1]
  · rw [hbytes]
    simp

theorem overlay_named (n : Name32) {name : List Byte} (h0 : 0 ∉ name) (h : name.length ≤ 31) :
    Named (.ofList (overlay n.bytes (name ++ [0]))) name := by
  have hnamed := overlay_cstr n h
  rwa [(cstr_nul_free h0).1] at hnamed

/-! ## One client slot -/

/-- `Client_t`, without its socket and mutex and the flags nothing reads. -/
structure Client where
  online : Bool
  thread : Bool
  idx : BitVec 16
  roomIdx : BitVec 16
  sendDataSize : Nat
  sendDone : Bool
  recvBuffer : Buf
  sendBuffer : Buf
  packRef : BitVec 32
  sendCount : Nat
  recvCount : Int
  curPacketNo : BitVec 16
  sendPacketNo : Nat → BitVec 8
  /-- The pool block this slot took, by its number. -/
  bigDataBuffer : Option Nat
  bigDataReadSize : BitVec 32
  bigDataReadSizeDone : BitVec 32
  bigDataReady : Bool
  fileDataReady : Bool
  fileDataName : Name32
  fileSendName : Name32
  fileDataSending : Bool
  bigDataSendSize : BitVec 32
  bigDataSendSizeDone : BitVec 32
  recvBufferMSG : Int → Int
  sendBufferMSGSize : Nat → Nat
  recvBufferMSGSize : Int → Int

/-- A slot as `memset` leaves it, over whatever `malloc` left in the two buffers. -/
def Client.zero (recvMem sendMem : Nat → Byte) : Client where
  online := false
  thread := false
  idx := 0
  roomIdx := 0
  sendDataSize := 0
  sendDone := false
  recvBuffer := ⟨recvMem, 0⟩
  sendBuffer := ⟨sendMem, 0⟩
  packRef := 0
  sendCount := 0
  recvCount := 0
  curPacketNo := 0
  sendPacketNo := fun _ => 0
  bigDataBuffer := none
  bigDataReadSize := 0
  bigDataReadSizeDone := 0
  bigDataReady := false
  fileDataReady := false
  fileDataName := .ofList []
  fileSendName := .ofList []
  fileDataSending := false
  bigDataSendSize := 0
  bigDataSendSizeDone := 0
  recvBufferMSG := fun _ => 0
  sendBufferMSGSize := fun _ => 0
  recvBufferMSGSize := fun _ => 0

/-! ## Socket, files, pool -/

/-- One `WriteTo`: the memory it was given, how many bytes of it, how many `send` took. -/
structure Write where
  msg : Buf
  count : Nat
  sent : Nat

/-- What the write put on the wire. -/
def Write.bytes (w : Write) : List Byte := w.msg.slice 0 w.sent

/-- The size field of a message's bytes. -/
def wireSize (l : List Byte) : Nat := ofLE ((l.drop 8).take 4)

theorem wireSize_slice (b : Buf) {n : Nat} (h : dataSizeLen ≤ n) :
    wireSize ((b.slice 0 n).take dataSizeLen) = (b.u32 8).toNat := by
  have h12 : dataSizeLen = 12 := rfl
  have hlt := ofLE_lt (b.slice 8 4)
  rw [Buf.length_slice] at hlt
  rw [wireSize, Buf.slice_take _ _ h, Buf.slice_drop _ _ (by omega), Buf.slice_take _ _ (by omega), Nat.zero_add, Buf.u32,
    BitVec.toNat_ofNat]
  omega

/-- The client's end of the connection: the bytes the peer has yet to deliver (after
    them the stream ends), the results the next `recv` and `send` calls give (`none` is
    -1, `some k` at most `k` bytes), and every write so far. -/
structure Sock where
  inp : List Byte
  recvs : List (Option Nat)
  sends : List (Option Nat)
  out : List Write

abbrev FS := Path → Option (List Byte)

/-- `s_BigDataBuffer[i]` and `s_BigDataUse[i]`. -/
structure BigDataBlock where
  use : Bool
  buffer : Buf

/-- The buffer accesses whose extent the peer chooses. -/
inductive Access where
  /-- A `ReadFrom` into `recvBuffer`: offset, and the count as the caller has it. -/
  | recv (off : Nat) (count : Int)
  /-- A `STOS_CRC16` over `recvBuffer`: offset and length, and the size the frame's
      header gives. -/
  | crc (off len : Nat) (size : Int)
  deriving DecidableEq, Repr

/-- A client slot with what its thread works on. -/
structure Conn where
  client : Client
  sock : Sock
  fs : FS
  pool : List BigDataBlock
  trace : List Access

/-- What a step finds outside: the login count, which files `fopen` opens, and the
    bytes an uninitialised `packNo` holds. -/
structure Env where
  nCurLoginCount : BitVec 32
  canOpen : Path → Bool
  junk : BitVec 32

end StarServer.Socket

/-
  StarServer.Socket.Taken — which message goes to the frame handlers, and what all the
  others leave alone.

  `takenFrame` is the slot as `processFrame` finds it, when the message at the front of the
  stream is a data message, whole, new and with the right CRC. Such a message is decided by
  `processFrame` alone (`processMessageBuffer_taken`). Any other answers -1, leaves no
  messages behind, and changes neither `packRef` nor the uploads (`message_untaken`).
-/

import StarServer.Socket.AtMostOnce

namespace StarServer.Socket

open StarServer.Memory

variable (srv : Server)

instance (b : Buf) : Decidable (IsDefault b) :=
  decidable_of_iff (msgType b ≠ StSockMsg.register ∧ msgType b ≠ StSockMsg.retrasmit ∧ msgType b ≠ StSockMsg.ping)
    ⟨fun ⟨h1, h2, h3⟩ => ⟨h1, h2, h3⟩, fun h => ⟨h.notRegister, h.notRetrasmit, h.notPing⟩⟩

instance (b : Buf) : Decidable (IsKnown srv b) :=
  decidable_of_iff (IsDefault b ∧ 0 ≤ msgFromID b ∧ msgFromID b < srv.nMaxConnection)
    ⟨fun ⟨h1, h2, h3⟩ => ⟨h1, h2, h3⟩, fun h => ⟨h.toIsDefault, h.fromID, h.fromIDLt⟩⟩

instance (b : Buf) : Decidable (IsData srv b) :=
  decidable_of_iff (IsKnown srv b ∧ msgType b &&& StSockMsg.alldata ≠ 0 ∧ 0 ≤ msgSize b ∧ msgSize b ≤ stsvMaxBuffer)
    ⟨fun ⟨h1, h2, h3, h4⟩ => ⟨h1, h2, h3, h4⟩, fun h => ⟨h.toIsKnown, h.type, h.size, h.sizeLe⟩⟩

instance (c : Client) : Decidable (IsFresh srv c) :=
  decidable_of_iff (c.packRef < msgPackNo c.recvBuffer ∧ ¬ sessionOver srv c)
    ⟨fun ⟨h1, h2⟩ => ⟨h1, h2⟩, fun h => ⟨h.packNo, h.session⟩⟩

instance (n : Nat) (b : Buf) : Decidable (IsIntact n b) :=
  decidable_of_iff ((n : Int) = msgSize b ∧ crcOver b packDataLen (crcLength b) = b.u16 12)
    ⟨fun ⟨h1, h2⟩ => ⟨h1, h2⟩, fun h => ⟨h.size, h.crc⟩⟩

/-- The data message at the front of the stream once it is read, and what its payload's
    `ReadFrom` answers. -/
def readData (s : Conn) : Option (Nat × Conn) :=
  match readFrom 0 dataSizeLen (startMessage s) with
  | some (12, s1) => if IsData srv s1.client.recvBuffer then readFrom dataSizeLen (msgSize s1.client.recvBuffer).toNat s1 else none
  | _ => none

def takenFrame (s : Conn) : Option Conn :=
  match readData srv s with
  | some (n, t) => if IsFresh srv t.client ∧ IsIntact n t.client.recvBuffer then some t else none
  | none => none

variable {srv}

theorem readData_iff {s t : Conn} {n : Nat} : readData srv s = some (n, t) ↔ DataRead srv s t n := by
  constructor
  · intro h
    unfold readData at h
    split at h
    · rename_i s1 hh
      by_cases hd : IsData srv s1.client.recvBuffer
      · rw [if_pos hd] at h
        exact ⟨s1, hh, hd, h⟩
      · rw [if_neg hd] at h
        cases h
    · cases h
  · intro h
    obtain ⟨s1, hh, hd, hr⟩ := h.read
    unfold HeaderRead at hh
    unfold readData
    rw [hh]
    exact (if_pos hd).trans hr

theorem takenFrame_iff {s t : Conn} : takenFrame srv s = some t ↔
    ∃ n, DataRead srv s t n ∧ IsFresh srv t.client ∧ IsIntact n t.client.recvBuffer := by
  unfold takenFrame
  constructor
  · intro h
    split at h
    · rename_i n t' hr
      by_cases hok : IsFresh srv t'.client ∧ IsIntact n t'.client.recvBuffer
      · rw [if_pos hok] at h
        cases h
        exact ⟨n, readData_iff.mp hr, hok⟩
      · rw [if_neg hok] at h
        cases h
    · cases h
  · intro ⟨n, hd, hok⟩
    rw [readData_iff.mpr hd]
    exact if_pos hok

theorem processMessageBuffer_taken (env : Env) {s t : Conn} (h : takenFrame srv s = some t) :
    processMessageBuffer srv env s = some (processFrame env (traceCrc t)) := by
  obtain ⟨n, hd, hf, hi⟩ := takenFrame_iff.mp h
  rw [processMessageBuffer_dataRead hd]
  simp only [processPayload]
  rw [if_neg (BitVec.not_le.mpr hf.packNo), if_neg hf.session, if_neg (not_not_intro hi.size), if_neg (not_not_intro hi.crc)]

/-- The message has told the handler nothing and moved no upload. -/
structure Untouched (s s' : Conn) : Prop where
  packRef : s'.client.packRef = s.client.packRef
  recvCount : s'.client.recvCount = 0
  idx : s'.client.idx = s.client.idx
  uploads : SameUploads s s'

theorem HeaderRead.untouched {s s1 : Conn} (h : HeaderRead s s1) : Untouched s s1 := by
  obtain ⟨-, rs, -, rfl⟩ := h.eq
  exact ⟨rfl, rfl, rfl, ⟨rfl, rfl, rfl, rfl, rfl, rfl⟩⟩

theorem DataRead.untouched {s s2 : Conn} {n : Nat} (h : DataRead srv s s2 n) : Untouched s s2 := by
  obtain ⟨-, -, got, rs, -, -, rfl⟩ := h.eq
  exact ⟨rfl, rfl, rfl, ⟨rfl, rfl, rfl, rfl, rfl, rfl⟩⟩

/-- Going offline, or a write, moves nothing either. -/
theorem Untouched.online {s s1 : Conn} (h : Untouched s s1) (sock : Sock) (on : Bool) :
    Untouched s { s1 with sock := sock, client := { s1.client with online := on } } :=
  ⟨h.packRef, h.recvCount, h.idx, ⟨h.uploads.bigDataReady, h.uploads.fileDataReady, h.uploads.bigDataReadSize,
    h.uploads.bigDataReadSizeDone, h.uploads.fileDataName, h.uploads.fs⟩⟩

theorem Untouched.sendReTrasmit {s s1 s2 t : Conn} {packNo : BitVec 32} (h : Untouched s s1)
    (ht : t = s1 ∨ t = traceCrc s1) (hs : sendReTrasmit srv t packNo = some s2) : Untouched s s2 := by
  obtain ⟨ret, sock, -, rfl⟩ := sendDataSizeMsg_done hs
  have ht' : Untouched s t := by
    rcases ht with rfl | rfl
    · exact h
    · exact ⟨h.packRef, h.recvCount, h.idx, ⟨h.uploads.bigDataReady, h.uploads.fileDataReady, h.uploads.bigDataReadSize,
        h.uploads.bigDataReadSizeDone, h.uploads.fileDataName, h.uploads.fs⟩⟩
  exact ht'.online _ _

/-- **A message that is not taken.** -/
theorem message_untaken {env : Env} {s s' : Conn} {ret : Int} (hno : takenFrame srv s = none)
    (h : processMessageBuffer srv env s = some (ret, s')) : ret = -1 ∧ Untouched s s' := by
  cases processMessageBuffer_outcome h with
  | closed s1 h1 =>
    obtain ⟨got, rs, -, -, rfl⟩ := readFrom_blocking h1
    exact ⟨rfl, ⟨rfl, rfl, rfl, ⟨rfl, rfl, rfl, rfl, rfl, rfl⟩⟩⟩
  | registerBad s1 s2 n hh hty hr hn =>
    obtain ⟨-, rs, -, rfl⟩ := hh.eq
    obtain ⟨piece, rs', -, -, rfl⟩ := readFromNonBlocking_cases hr
    exact ⟨rfl, ⟨rfl, rfl, rfl, ⟨rfl, rfl, rfl, rfl, rfl, rfl⟩⟩⟩
  | register s1 s2 r sock hh hty hr hw =>
    obtain ⟨-, rs, -, rfl⟩ := hh.eq
    obtain ⟨piece, rs', -, -, rfl⟩ := readFromNonBlocking_cases hr
    exact ⟨rfl, ⟨rfl, rfl, rfl, ⟨rfl, rfl, rfl, rfl, rfl, rfl⟩⟩⟩
  | retrasmit s1 r sock hh hty hw => exact ⟨rfl, hh.untouched.online _ _⟩
  | ping s1 hh hty => exact ⟨rfl, hh.untouched⟩
  | hack s1 hh hdef hbad => exact ⟨rfl, hh.untouched.online _ _⟩
  | unknown s1 hh hk hty => exact ⟨rfl, hh.untouched⟩
  | old s2 n hd hold => exact ⟨rfl, hd.untouched⟩
  | ahead s2 n hd hnew hover => exact ⟨rfl, hd.untouched.online _ _⟩
  | badLength s2 s3 n hd hfresh hn hs => exact ⟨rfl, hd.untouched.sendReTrasmit (Or.inl rfl) hs⟩
  | badCrc s2 s3 n hd hfresh hn hcrc hs => exact ⟨rfl, hd.untouched.sendReTrasmit (Or.inr rfl) hs⟩
  | accepted s2 n hd hfresh hi =>
    rw [takenFrame_iff.mpr ⟨n, hd, hfresh, hi⟩] at hno
    cases hno

end StarServer.Socket

/-
  StarServer.Socket.Line — one connection's `STSV_SendData` and `EndPackSendData` calls, in any
  order, with the data frames they pack.

  Proved:
    * `lineStep_endPack`: what an `EndPackSendData` leaves of the slot, whether it sends a data
      frame or a CONFIRM.
-/

import StarServer.Socket.Interleaved

namespace StarServer.Socket

open StarServer.Memory

inductive QueueCall where
  | sendData (buffer : List Byte)
  | endPack (env : Env)

/-- A connection with its data frames, each the slot as it was packed. -/
structure Line where
  conn : Conn
  frames : List Client

variable (srv : Server)

def lineStep (s : Line) : QueueCall → Option Line
  | .sendData buffer => some { s with conn := { s.conn with client := stsvSendData s.conn.client buffer } }
  | .endPack env =>
    (endPackSendData srv env s.conn).map fun c =>
      { conn := c
        frames := if endPackTest s.conn.client then s.frames ++ [packFrame env s.conn.fs s.conn.client] else s.frames }

def startLine (c : Conn) : Line := ⟨c, []⟩

theorem sealClient_same (c : Client) : SameSend c (sealClient c) := by
  unfold sealClient
  exact ⟨rfl, rfl, rfl, rfl⟩

/-- Packing leaves the transfer alone where there is none. -/
theorem packFrame_idle {env : Env} {fs : FS} {c : Client} (h : c.fileDataSending = false) :
    SameSend c (packFrame env fs c) := by
  have hpack : SameSend c (packDataWithPacket c) := ⟨rfl, rfl, rfl, rfl⟩
  rw [packFrame_eq, filledFrame_noFile (Or.inl h)]
  exact hpack.trans (sealClient_same _)

variable {srv}

theorem endPackFrame_client {env : Env} {s s' : Conn} (h : endPackFrame srv env s = some s') :
    ∃ on, s'.client = { packFrame env s.fs s.client with online := on, recvCount := 0, sendCount := 0, curPacketNo := 0 } := by
  unfold endPackFrame at h
  simp only at h
  split at h
  · cases h
  · cases h
    exact ⟨_, rfl⟩

theorem endPackConfirm_client {s s' : Conn} (h : endPackConfirm srv s = some s') :
    ∃ on done, s'.client = { s.client with online := on, sendDone := done } := by
  unfold endPackConfirm at h
  split at h
  · cases h
  · rename_i s1 hs
    obtain ⟨ret, sock, -, rfl⟩ := sendDataSizeMsg_done hs
    split at h
    · cases h
      exact ⟨_, _, rfl⟩
    · cases h
      exact ⟨_, _, rfl⟩

/-- A data frame where something is queued or a file is going out, else a CONFIRM. -/
theorem lineStep_endPack {env : Env} {s s' : Line} (h : lineStep srv s (.endPack env) = some s') :
    (endPackTest s.conn.client = true ∧ s'.frames = s.frames ++ [packFrame env s.conn.fs s.conn.client] ∧
      ∃ on, s'.conn.client = { packFrame env s.conn.fs s.conn.client with
        online := on, recvCount := 0, sendCount := 0, curPacketNo := 0 }) ∨
    (endPackTest s.conn.client = false ∧ s'.frames = s.frames ∧
      ∃ on done, s'.conn.client = { s.conn.client with online := on, sendDone := done }) := by
  obtain ⟨c, hc, rfl⟩ := Option.map_eq_some_iff.mp h
  rw [endPackSendData_halves] at hc
  by_cases ht : endPackTest s.conn.client = true
  · rw [if_pos ht] at hc
    exact Or.inl ⟨ht, if_pos ht, endPackFrame_client hc⟩
  · rw [if_neg ht] at hc
    exact Or.inr ⟨by simpa using ht, if_neg ht, endPackConfirm_client hc⟩

end StarServer.Socket

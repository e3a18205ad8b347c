/-
  StarServer.Socket.SystemMessages — messages of a negative type, the range the source keeps
  for system packets.

  REGISTER, RETRASMIT and PING have a case of their own. Every other type goes through the
  test `type & 0xf`, so a negative one with a low bit set is a data message like any other;
  one without is dropped. All of them begin with `recvCount = 0`.

  Proved:
    * `untaken_of_type`: types with a case of their own or without a low bit are never taken
      for data;
    * `system_message_kept`: a message that is not taken for data answers -1, tells the handler
      nothing and moves no upload;
    * `system_message_acts`: a PING after a frame with a message, and a frame of type -15.
-/

import StarServer.Socket.Taken

namespace StarServer.Socket

open StarServer.Memory

/-- The type is negative as an `s16`. -/
def IsSystem (b : Buf) : Prop := (msgType b).toInt < 0

instance (b : Buf) : Decidable (IsSystem b) := by unfold IsSystem; infer_instance

/-- The type has a case of its own, or none of the bits of a data type. -/
def HasNoData (b : Buf) : Prop :=
  msgType b = StSockMsg.register ∨ msgType b = StSockMsg.retrasmit ∨ msgType b = StSockMsg.ping ∨
    msgType b &&& StSockMsg.alldata = 0

/-- What a message that is not taken for data leaves alone. -/
structure Kept (s : Conn) (ret : Int) (s' : Conn) : Prop where
  ret : ret ≠ 0
  packRef : s'.client.packRef = s.client.packRef
  recvCount : s'.client.recvCount = 0
  uploads : SameUploads s s'

variable {srv : Server}

theorem untaken_of_type {s : Conn} (h : HasNoData (nextHeader s)) : takenFrame srv s = none := by
  rcases ht : takenFrame srv s with _ | t
  · rfl
  · obtain ⟨n, hd, -, -⟩ := takenFrame_iff.mp ht
    obtain ⟨-, hdata, -⟩ := hd.eq
    rcases h with h | h | h | h
    · exact absurd h hdata.notRegister
    · exact absurd h hdata.notRetrasmit
    · exact absurd h hdata.notPing
    · exact absurd h hdata.type

variable (srv)

/-- **System messages that are not taken for data**, and all others that are not. -/
theorem system_message_kept {env : Env} {s s' : Conn} {ret : Int} (huntaken : takenFrame srv s = none)
    (h : processMessageBuffer srv env s = some (ret, s')) : Kept s ret s' := by
  obtain ⟨hret, hkeep⟩ := message_untaken huntaken h
  refine ⟨?_, hkeep.packRef, hkeep.recvCount, hkeep.uploads⟩
  rw [hret]
  decide

/-- The first part of a file, then a message of type -15 whose CRC is wrong. -/
def systemBehindFile : List Ev :=
  [.accept 0 ([4, 0, 0, 0, 1, 0, 0, 0, 47, 0, 0, 0, 0x6b, 0x69, 0, 0, 1, 0, 0, 0, 0, 0, 0, 0, 0x61] ++ List.replicate 31 0 ++
      [65, 66, 67] ++ [0xf1, 0xff, 0, 0, 2, 0, 0, 0, 4, 0, 0, 0, 1, 0, 0, 0]) [some 12, some 47, some 12, some 4]
      [some 12, some 12, some 12], .message quietEnv, .endPack quietEnv]

theorem system_message_kept_crc : ∃ s s', Runs.run (step defaultServer) emptySlot systemBehindFile = some s ∧
    IsSystem (nextHeader s.conn) ∧ s.conn.client.packRef = 1 ∧ s.conn.fs (str "FILE/file00000000a") = some [65, 66, 67] ∧
    processMessageBuffer defaultServer quietEnv s.conn = some (-1, s') ∧ Kept s.conn (-1) s' := by
  have hrun : (Runs.run (step defaultServer) emptySlot systemBehindFile).any (fun s => decide (IsSystem (nextHeader s.conn) ∧
      s.conn.client.packRef = 1 ∧ s.conn.fs (str "FILE/file00000000a") = some [65, 66, 67] ∧
      (takenFrame defaultServer s.conn).isNone = true ∧
      (processMessageBuffer defaultServer quietEnv s.conn).map Prod.fst = some (-1))) = true := by decide +kernel
  obtain ⟨s, hrun, hs⟩ := (Option.any_eq_true _ _).mp hrun
  obtain ⟨hsys, hpack, hfile, huntaken, hret⟩ := of_decide_eq_true hs
  obtain ⟨⟨ret, s'⟩, hm, rfl⟩ := Option.map_eq_some_iff.mp hret
  exact ⟨s, s', hrun, hsys, hpack, hfile, hm, system_message_kept defaultServer (Option.isNone_iff_eq_none.mp huntaken) hm⟩

/-- A PING. -/
def pingMsg : List Byte := [0xf7, 0xff, 0, 0, 0, 0, 0, 0, 0, 0, 0, 0]

/-- **System messages that act**: a PING after a frame with one message, answered by a
    CONFIRM, takes the message from `recvCount`; a frame of type -15 is handled as data. -/
theorem system_message_acts :
    (∃ s s', Runs.run (step defaultServer) emptySlot
        [.accept 0 ([1, 0, 0, 0, 1, 0, 0, 0, 7, 0, 0, 0, 211, 51, 1, 0, 1, 0, 65] ++ pingMsg)
          [some 12, some 7, some 12] [some 12, some 12], .message quietEnv, .endPack quietEnv] = some s ∧
      IsSystem (nextHeader s.conn) ∧ step defaultServer s (.message quietEnv) = some s' ∧
      s.conn.client.recvCount = 1 ∧ s'.conn.client.recvCount = 0) ∧
    (∃ s c, Runs.run (step defaultServer) emptySlot
        [.accept 0 [0xf1, 0xff, 0, 0, 1, 0, 0, 0, 4, 0, 0, 0, 0, 0, 0, 0] [some 12, some 4] [some 12]] = some s ∧
      IsSystem (nextHeader s.conn) ∧ processMessageBuffer defaultServer quietEnv s.conn = some (0, c) ∧
      s.conn.client.packRef = 0 ∧ c.client.packRef = 1) :=
  ⟨⟨_, _, rfl, by decide +kernel, rfl, by decide +kernel, by decide +kernel⟩,
    ⟨_, _, rfl, by decide +kernel, rfl, by decide +kernel, by decide +kernel⟩⟩

end StarServer.Socket

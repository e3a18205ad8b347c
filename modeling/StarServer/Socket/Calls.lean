/-
  StarServer.Socket.Calls — what the library's calls and `EndPackSendData` leave alone.

  A call writes the sending side, `online` and the ready flags; `EndPackSendData` also
  empties the queue and the received messages. `packRef`, `recvBuffer` and the stream are
  the client thread's own, and neither touches them.
-/

import StarServer.Socket.Session

namespace StarServer.Socket

open StarServer.Memory

/-- `c` with the fields that queueing and packing write, as they are in `r`. -/
def sendUpdate (c r : Client) : Client :=
  { c with
    sendBuffer := r.sendBuffer
    sendCount := r.sendCount
    curPacketNo := r.curPacketNo
    sendPacketNo := r.sendPacketNo
    sendBufferMSGSize := r.sendBufferMSGSize
    fileSendName := r.fileSendName
    fileDataSending := r.fileDataSending
    bigDataSendSize := r.bigDataSendSize
    bigDataSendSizeDone := r.bigDataSendSizeDone
    sendDataSize := r.sendDataSize }

/-- Only fields of the sending side differ. -/
def OnlySent (c r : Client) : Prop := r = sendUpdate c r

theorem OnlySent.refl (c : Client) : OnlySent c c := rfl

theorem OnlySent.trans {a b c : Client} (h1 : OnlySent a b) (h2 : OnlySent b c) : OnlySent a c := by
  unfold OnlySent at h1 h2 ⊢
  rw [h1] at h2
  exact h2

theorem onlySent_mk (c : Client) (b : Buf) (n size : Nat) (cur : BitVec 16) (no : Nat → BitVec 8) (sizes : Nat → Nat)
    (name : Name32) (sending : Bool) (total done : BitVec 32) :
    OnlySent c { c with
      sendBuffer := b, sendCount := n, curPacketNo := cur, sendPacketNo := no, sendBufferMSGSize := sizes
      fileSendName := name, fileDataSending := sending, bigDataSendSize := total, bigDataSendSizeDone := done
      sendDataSize := size } := rfl

/-- What is read off the other fields is as it was. -/
theorem OnlySent.field {β : Type} {c r : Client} (h : OnlySent c r) (f : Client → β)
    (hf : ∀ c r, f (sendUpdate c r) = f c) : f r = f c := by
  unfold OnlySent at h
  rw [h, hf]

theorem OnlySent.online {c r : Client} (h : OnlySent c r) : r.online = c.online := h.field (·.online) fun _ _ => rfl

theorem OnlySent.packRef {c r : Client} (h : OnlySent c r) : r.packRef = c.packRef := h.field (·.packRef) fun _ _ => rfl

theorem putBlock_only (c : Client) (l : List Byte) : OnlySent c (putBlock c l) := rfl

theorem fillQueue_only (fuel : Nat) (c : Client) (l : List Byte) : OnlySent c (fillQueue fuel c l) := by
  induction fuel generalizing c l with
  | zero => exact .refl c
  | succ fuel ih =>
    simp only [fillQueue]
    split
    · exact .refl c
    · split
      · exact putBlock_only _ _
      · split
        · exact putBlock_only _ _
        · exact (putBlock_only _ _).trans (ih _ _)

theorem stsvSendData_only (c : Client) (l : List Byte) : OnlySent c (stsvSendData c l) := by
  unfold stsvSendData
  split
  · exact (fillQueue_only _ _ _).trans rfl
  · exact .refl c

theorem sprintfFileSendName_only (c : Client) (l : List Byte) : OnlySent c (sprintfFileSendName c l) :=
  onlySent_mk c _ _ _ _ _ _ _ _ _ _

theorem stsvSendDBFile_only (env : Env) (fs : FS) (c : Client) (name : List Byte) :
    OnlySent c (stsvSendDBFile env fs c name) := by
  unfold stsvSendDBFile
  split
  · exact .refl c
  · have h1 := sprintfFileSendName_only c (dbFilePath name)
    generalize sprintfFileSendName c (dbFilePath name) = c1 at h1 ⊢
    cases fopenRead env fs (dbFilePath name) with
    | some file => exact (h1.trans (onlySent_mk c1 _ _ _ _ _ _ _ _ _ _)).trans (sprintfFileSendName_only _ _)
    | none => exact h1.trans (onlySent_mk c1 _ _ _ _ _ _ _ _ _ _)

theorem packDataWithPacket_only (c : Client) : OnlySent c (packDataWithPacket c) := rfl

theorem packDataWithCRC16_only (c : Client) : OnlySent c (packDataWithCRC16 c) := rfl

theorem finishFileSend_only (c : Client) (b : Buf) (head : Nat) (done : BitVec 32) :
    OnlySent c (finishFileSend c b head done) := by
  unfold finishFileSend
  split
  · exact onlySent_mk c _ _ _ _ _ _ _ _ _ _
  · exact onlySent_mk c _ _ _ _ _ _ _ _ _ _

theorem packDataWithBigData_only (env : Env) (fs : FS) (c : Client) : OnlySent c (packDataWithBigData env fs c) := by
  unfold packDataWithBigData
  split
  · exact .refl c
  · exact finishFileSend_only _ _ _ _

theorem packFrame_only (env : Env) (fs : FS) (c : Client) : OnlySent c (packFrame env fs c) := by
  have h1 := packDataWithPacket_only c
  unfold packFrame
  generalize packDataWithPacket c = c1 at h1 ⊢
  have h2 : OnlySent c1 (if c1.fileDataSending = true then packDataWithBigData env fs c1 else c1) := by
    split
    · exact packDataWithBigData_only _ _ _
    · exact .refl _
  simp only
  generalize (if c1.fileDataSending = true then packDataWithBigData env fs c1 else c1) = c2 at h2 ⊢
  exact ((h1.trans h2).trans (packDataWithCRC16_only c2)).trans rfl

/-! ## Calls -/

/-- `c` with the fields that any call writes, as they are in `r`. -/
def callUpdate (c r : Client) : Client :=
  { sendUpdate c r with
    online := r.online
    bigDataBuffer := r.bigDataBuffer
    bigDataReady := r.bigDataReady
    fileDataReady := r.fileDataReady
    sendDataSize := c.sendDataSize }

/-- What a call on the slot leaves alone. -/
structure CallDone (s s' : Conn) : Prop where
  client : s'.client = callUpdate s.client s'.client
  inp : s'.sock.inp = s.sock.inp
  recvs : s'.sock.recvs = s.sock.recvs
  fs : s'.fs = s.fs
  trace : s'.trace = s.trace

variable {srv : Server}

theorem sendNotice_done {env : Env} {type : BitVec 16} {s s' : Conn} (h : sendNotice srv env type s = some s') :
    CallDone s s' ∧ s'.client = { s.client with online := false } := by
  unfold sendNotice at h
  split at h
  · cases h
  · rename_i k sock hw
    obtain ⟨sent, rs, -, rfl, -⟩ := writeTo_cases hw
    cases h
    exact ⟨⟨rfl, rfl, rfl, rfl, rfl⟩, rfl⟩

theorem stsvSendData_size (c : Client) (l : List Byte) : (stsvSendData c l).sendDataSize = c.sendDataSize := by
  have hfill : ∀ (fuel : Nat) (c : Client) (l : List Byte), (fillQueue fuel c l).sendDataSize = c.sendDataSize := by
    intro fuel
    induction fuel with
    | zero =>
      intro c l
      rfl
    | succ fuel ih =>
      intro c l
      simp only [fillQueue]
      split
      · rfl
      · split
        · rfl
        · split
          · rfl
          · rw [ih]
            rfl
  unfold stsvSendData
  split
  · exact hfill _ _ _
  · rfl

theorem stsvSendDBFile_size (env : Env) (fs : FS) (c : Client) (name : List Byte) :
    (stsvSendDBFile env fs c name).sendDataSize = c.sendDataSize := by
  unfold stsvSendDBFile
  split
  · rfl
  · have h1 : (sprintfFileSendName c (dbFilePath name)).sendDataSize = c.sendDataSize := rfl
    generalize sprintfFileSendName c (dbFilePath name) = c1 at h1 ⊢
    cases fopenRead env fs (dbFilePath name) with
    | some file => exact h1
    | none => exact h1

theorem stsvGetBigData_done (env : Env) (s : Conn) : CallDone s (stsvGetBigData env s).2 := by
  unfold stsvGetBigData
  split
  · exact ⟨rfl, rfl, rfl, rfl, rfl⟩
  · split
    · exact ⟨rfl, rfl, rfl, rfl, rfl⟩
    · simp only
      split
      · exact ⟨rfl, rfl, rfl, rfl, rfl⟩
      · exact ⟨rfl, rfl, rfl, rfl, rfl⟩

theorem callUpdate_of_sent {c r : Client} (h : OnlySent c r) (hs : r.sendDataSize = c.sendDataSize) :
    r = callUpdate c r := by
  unfold OnlySent at h
  rw [h]
  unfold callUpdate sendUpdate
  simp only [hs]

theorem doCall_done {env : Env} {s s' : Conn} {a : Call} {r : Reply} (h : doCall srv env s a = some (r, s')) :
    CallDone s s' := by
  cases a with
  | sendData l =>
    cases h
    exact ⟨callUpdate_of_sent (stsvSendData_only _ _) (stsvSendData_size _ _), rfl, rfl, rfl, rfl⟩
  | sendDBFile name =>
    cases h
    exact ⟨callUpdate_of_sent (stsvSendDBFile_only _ _ _ _) (stsvSendDBFile_size _ _ _ _), rfl, rfl, rfl, rfl⟩
  | sendDuplicateLogin =>
    obtain ⟨s1, h1, hr⟩ := Option.map_eq_some_iff.mp h
    cases hr
    exact (sendNotice_done h1).1
  | sendServerFULL =>
    obtain ⟨s1, h1, hr⟩ := Option.map_eq_some_iff.mp h
    cases hr
    exact (sendNotice_done h1).1
  | getData k =>
    cases h
    exact ⟨rfl, rfl, rfl, rfl, rfl⟩
  | getDataCount =>
    cases h
    exact ⟨rfl, rfl, rfl, rfl, rfl⟩
  | haveBigData =>
    cases h
    exact ⟨rfl, rfl, rfl, rfl, rfl⟩
  | getBigData =>
    have h' : s' = (stsvGetBigData env s).2 := by
      simp only [doCall, Option.some.injEq] at h
      rw [h]
    rw [h']
    exact stsvGetBigData_done env s
  | freeBigData =>
    cases h
    exact ⟨rfl, rfl, rfl, rfl, rfl⟩
  | getFileDataName =>
    cases h
    exact ⟨rfl, rfl, rfl, rfl, rfl⟩
  | haveFileData =>
    cases h
    exact ⟨rfl, rfl, rfl, rfl, rfl⟩
  | freeFileData =>
    cases h
    exact ⟨rfl, rfl, rfl, rfl, rfl⟩

/-- No call brings a client back online. -/
theorem call_online {env : Env} {s s' : Conn} {a : Call} {r : Reply} (h : doCall srv env s a = some (r, s'))
    (hon : s'.client.online = true) : s.client.online = true := by
  cases a with
  | sendData l =>
    cases h
    rw [← (stsvSendData_only s.client l).online]
    exact hon
  | sendDBFile name =>
    cases h
    rw [← (stsvSendDBFile_only env s.fs s.client name).online]
    exact hon
  | sendDuplicateLogin =>
    obtain ⟨s1, h1, hr⟩ := Option.map_eq_some_iff.mp h
    cases hr
    rw [(sendNotice_done h1).2] at hon
    cases hon
  | sendServerFULL =>
    obtain ⟨s1, h1, hr⟩ := Option.map_eq_some_iff.mp h
    cases hr
    rw [(sendNotice_done h1).2] at hon
    cases hon
  | getBigData =>
    have h' : s' = (stsvGetBigData env s).2 := by
      simp only [doCall, Option.some.injEq] at h
      rw [h]
    rw [h'] at hon
    unfold stsvGetBigData at hon
    split at hon
    · exact hon
    · split at hon
      · exact hon
      · simp only at hon
        split at hon
        · exact hon
        · exact hon
  | _ =>
    cases h
    exact hon

/-! ## EndPackSendData -/

/-- The two ways out of `EndPackSendData`, with the one write each makes. -/
inductive EndPacked (srv : Server) (env : Env) (s : Conn) : Conn → Prop
  | frame (ret : Nat) (sock : Sock) : (s.client.sendCount > 0 ∨ s.client.fileDataSending = true) →
      writeTo srv (packFrame env s.fs s.client).sendBuffer (packFrame env s.fs s.client).sendDataSize s.sock =
        some (ret, sock) →
      EndPacked srv env s { s with
        sock := sock
        client := { packFrame env s.fs s.client with
          online := s.client.online && ret != 0
          recvCount := 0
          sendCount := 0
          curPacketNo := 0 } }
  | confirm (ret : Nat) (sock : Sock) : s.client.sendCount = 0 → s.client.fileDataSending = false →
      writeTo srv (dataSizeMsg StSockMsg.confirm stsockidServer s.client.packRef 0) dataSizeLen s.sock =
        some (ret, sock) →
      EndPacked srv env s { s with
        sock := sock
        client := { s.client with
          online := s.client.online && ret != 0
          sendDone := s.client.sendDone || srv.nServerType == .oneTime } }

theorem packFrame_online (env : Env) (fs : FS) (c : Client) : (packFrame env fs c).online = c.online :=
  (packFrame_only env fs c).online

theorem endPackSendData_packed {env : Env} {s s' : Conn} (h : endPackSendData srv env s = some s') :
    EndPacked srv env s s' := by
  unfold endPackSendData at h
  split at h
  · rename_i hsend
    simp only at h
    split at h
    · cases h
    · rename_i ret sock hw
      cases h
      rw [packFrame_online]
      exact .frame ret sock hsend hw
  · rename_i hsend
    have h0 : s.client.sendCount = 0 := by
      by_cases e : s.client.sendCount = 0
      · exact e
      · exact absurd (Or.inl (Nat.pos_of_ne_zero e)) hsend
    have hf : s.client.fileDataSending = false := by
      cases e : s.client.fileDataSending with
      | false => rfl
      | true => exact absurd (Or.inr e) hsend
    unfold sendConfirmMessage sendDataSizeMsg at h
    split at h
    · cases h
    · rename_i s1 hs1
      split at hs1
      · cases hs1
      · rename_i ret sock hw
        cases hs1
        have key : EndPacked srv env s _ := .confirm ret sock h0 hf hw
        split at h
        · rename_i hone
          cases h
          rw [hone] at key
          simpa using key
        · rename_i hone
          cases h
          have hne : (srv.nServerType == ServerType.oneTime) = false := by simpa using hone
          rw [hne, Bool.or_false] at key
          exact key

/-- `EndPackSendData` empties the queue, keeps `packRef` and the stream, and brings no
    client back online. -/
structure EndKept (s s' : Conn) : Prop where
  sendCount : s'.client.sendCount = 0
  packRef : s'.client.packRef = s.client.packRef
  online : s'.client.online = true → s.client.online = true
  inp : s'.sock.inp = s.sock.inp

theorem endPacked_keeps {env : Env} {s s' : Conn} (h : EndPacked srv env s s') : EndKept s s' := by
  cases h with
  | frame ret sock _ hw =>
    obtain ⟨sent, rs, -, rfl, -⟩ := writeTo_cases hw
    exact ⟨rfl, (packFrame_only env s.fs s.client).packRef, fun hon => (Bool.and_eq_true_iff.mp hon).1, rfl⟩
  | confirm ret sock h0 _ hw =>
    obtain ⟨sent, rs, -, rfl, -⟩ := writeTo_cases hw
    exact ⟨h0, rfl, fun hon => (Bool.and_eq_true_iff.mp hon).1, rfl⟩

/-! ## The slot's steps -/

/-- What a step of the slot can be. -/
inductive Stepped (srv : Server) (s : Slot) : Ev → Slot → Prop
  | accept (idx : BitVec 16) (inp : List Byte) (recvs sends : List (Option Nat)) (sent ret : Nat) (rs : List (Option Nat)) :
      s.phase = .polling → s.conn.client.online = false →
      writeTo srv (dataSizeMsg StSockMsg.giveid stsockidServer (idx.setWidth 32) 0) dataSizeLen ⟨inp, recvs, sends, []⟩ =
        some (ret, ⟨inp, recvs, rs, [⟨dataSizeMsg StSockMsg.giveid stsockidServer (idx.setWidth 32) 0, dataSizeLen, sent⟩]⟩) →
      Stepped srv s (.accept idx inp recvs sends)
        { conn := { s.conn with
            client := startThread (acceptClient idx s.conn.client)
            sock := ⟨inp, recvs, rs,
              [⟨dataSizeMsg StSockMsg.giveid stsockidServer (idx.setWidth 32) 0, dataSizeLen, sent⟩]⟩
            trace := [] }
          phase := .polling, handled := [], answers := [], seen := [] }
  | handled (env : Env) (conn : Conn) : s.phase = .polling → s.conn.client.online = true →
      processMessageBuffer srv env s.conn = some (0, conn) →
      Stepped srv s (.message env)
        { s with conn := conn, phase := .handling, handled := s.handled ++ [msgPackNo conn.client.recvBuffer] }
  | dropped (env : Env) (conn : Conn) (ret : Int) : s.phase = .polling → s.conn.client.online = true → ret ≠ 0 →
      processMessageBuffer srv env s.conn = some (ret, conn) → Stepped srv s (.message env) { s with conn := conn }
  | timeout : s.phase = .polling → s.conn.client.online = true → Stepped srv s .timeout { s with conn := offline s.conn }
  | endPack (env : Env) (conn : Conn) : s.phase = .handling → EndPacked srv env s.conn conn →
      Stepped srv s (.endPack env)
        { s with
          conn := conn, phase := .polling
          answers := s.answers ++ [conn.sock.out.drop s.conn.sock.out.length] }
  | call (env : Env) (a : Call) (r : Reply) (conn : Conn) : doCall srv env s.conn a = some (r, conn) →
      Stepped srv s (.call env a) { s with conn := conn, seen := s.seen ++ [r] }

/-- **Every step is one of these.** -/
theorem step_stepped {s s' : Slot} {e : Ev} (h : step srv s e = some s') : Stepped srv s e s' := by
  cases e with
  | accept idx inp recvs sends =>
    simp only [step] at h
    split at h
    · rename_i hg
      obtain ⟨c, hc, rfl⟩ := Option.map_eq_some_iff.mp h
      unfold acceptConnection at hc
      simp only at hc
      split at hc
      · cases hc
      · rename_i ret sock hw
        cases hc
        obtain ⟨sent, rs, -, rfl, -⟩ := writeTo_cases hw
        exact .accept idx inp recvs sends sent ret rs hg.1 hg.2 hw
    · cases h
  | message env =>
    simp only [step] at h
    split at h
    · rename_i hg
      split at h
      · cases h
      · rename_i ret c hm
        split at h
        · rename_i h0
          cases h
          subst h0
          exact .handled env c hg.1 hg.2 hm
        · rename_i h0
          cases h
          exact .dropped env c ret hg.1 hg.2 h0 hm
    · cases h
  | timeout =>
    simp only [step] at h
    split at h
    · rename_i hg
      cases h
      exact .timeout hg.1 hg.2
    · cases h
  | endPack env =>
    simp only [step] at h
    split at h
    · rename_i hg
      obtain ⟨c, hc, rfl⟩ := Option.map_eq_some_iff.mp h
      exact .endPack env c hg (endPackSendData_packed hc)
    · cases h
  | call env a =>
    simp only [step] at h
    obtain ⟨⟨r, c⟩, hc, rfl⟩ := Option.map_eq_some_iff.mp h
    exact .call env a r c hc

end StarServer.Socket

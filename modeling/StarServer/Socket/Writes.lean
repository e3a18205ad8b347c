/-
  StarServer.Socket.Writes — what a message makes the server write, and what it leaves of
  `sendBuffer[0, sendDataSize)`, which a RETRASMIT sends again.

  Only the REGISTER reply is built over `sendBuffer`; the others are messages of their own
  or `sendBuffer` as it is.
-/

import StarServer.Socket.Calls
import StarServer.Socket.Dispatch
import StarServer.Socket.Headers

namespace StarServer.Socket

open StarServer.Memory

/-- What a RETRASMIT would send stays as it is. -/
structure SameResend (s s' : Conn) : Prop where
  sendBuffer : s'.client.sendBuffer = s.client.sendBuffer
  sendDataSize : s'.client.sendDataSize = s.client.sendDataSize

/-- The step made one `WriteTo`, and it returned `ret`. -/
def WroteTo (srv : Server) (msg : Buf) (count : Nat) (s s' : Conn) (ret : Nat) : Prop :=
  ∃ k : Sock, k.out = s.sock.out ∧ k.sends = s.sock.sends ∧ writeTo srv msg count k = some (ret, s'.sock)

/-- The message is a REGISTER, and its 24 bytes come in one piece. -/
def Registers (s : Conn) : Prop :=
  ∃ s1 s2, HeaderRead s s1 ∧ msgType s1.client.recvBuffer = StSockMsg.register ∧
    readFromNonBlocking dataSizeLen (msgSize s1.client.recvBuffer) s1 = some (24, s2)

/-- The REGISTER reply over a buffer. -/
def replyOver (b : Buf) (verdict : BitVec 16) : Buf := (b.put16 2 verdict).put16 0 StSockMsg.register

inductive MessageWrote (srv : Server) (s s' : Conn) : Prop
  | quiet : ¬ Registers s → s'.sock.out = s.sock.out → s'.sock.sends = s.sock.sends → SameResend s s' →
      MessageWrote srv s s'
  | asked (packNo : BitVec 32) (ret : Nat) : ¬ Registers s →
      WroteTo srv (dataSizeMsg StSockMsg.retrasmit stsockidServer packNo 0) dataSizeLen s s' ret → SameResend s s' →
      MessageWrote srv s s'
  | resent (ret : Nat) : ¬ Registers s → WroteTo srv s.client.sendBuffer s.client.sendDataSize s s' ret →
      SameResend s s' → MessageWrote srv s s'
  | registered (verdict : BitVec 16) (ret : Nat) : Registers s →
      WroteTo srv (replyOver s.client.sendBuffer verdict) dataSizeLen s s' ret →
      s'.client.sendBuffer = replyOver s.client.sendBuffer verdict → s'.client.sendDataSize = dataSizeLen →
      MessageWrote srv s s'

variable {srv : Server}

theorem not_registers {s s1 : Conn} (hh : HeaderRead s s1) (hty : msgType s1.client.recvBuffer ≠ StSockMsg.register) :
    ¬ Registers s := by
  rintro ⟨s1', s2, hh', hty', -⟩
  have he := Option.some.inj (hh.symm.trans hh')
  simp only [Prod.mk.injEq, true_and] at he
  subst he
  exact hty hty'

theorem headerRead_wrote {s s1 : Conn} (hh : HeaderRead s s1) :
    s1.sock.out = s.sock.out ∧ s1.sock.sends = s.sock.sends ∧ SameResend s s1 := by
  obtain ⟨-, rs, -, rfl⟩ := hh.eq
  exact ⟨rfl, rfl, rfl, rfl⟩

theorem dataRead_wrote {s s2 : Conn} {n : Nat} (h : DataRead srv s s2 n) :
    ¬ Registers s ∧ s2.sock.out = s.sock.out ∧ s2.sock.sends = s.sock.sends ∧ SameResend s s2 := by
  obtain ⟨s1, hh, hd, -⟩ := h.read
  obtain ⟨-, -, got, rs, -, -, rfl⟩ := h.eq
  exact ⟨not_registers hh hd.notRegister, rfl, rfl, rfl, rfl⟩

theorem sendReTrasmit_messageWrote {s s2 s' : Conn} {n : Nat} {packNo : BitVec 32} (hd : DataRead srv s s2 n)
    (h : sendReTrasmit srv s2 packNo = some s' ∨ sendReTrasmit srv (traceCrc s2) packNo = some s') :
    MessageWrote srv s s' := by
  obtain ⟨hno, hout, hsends, hsame⟩ := dataRead_wrote hd
  rcases h with h | h
  · obtain ⟨ret, sock, hw, rfl⟩ := sendDataSizeMsg_done h
    exact .asked packNo ret hno ⟨s2.sock, hout, hsends, hw⟩ ⟨hsame.sendBuffer, hsame.sendDataSize⟩
  · obtain ⟨ret, sock, hw, rfl⟩ := sendDataSizeMsg_done h
    exact .asked packNo ret hno ⟨s2.sock, hout, hsends, hw⟩ ⟨hsame.sendBuffer, hsame.sendDataSize⟩

/-- **What one message writes.** -/
theorem outcome_wrote {env : Env} {s s' : Conn} {ret : Int} (h : Outcome srv env s ret s') : MessageWrote srv s s' := by
  cases h with
  | closed s1 h1 =>
    have hno : ¬ Registers s := by
      rintro ⟨s1', s2, hh, -⟩
      have he := Option.some.inj (h1.symm.trans hh)
      simp only [Prod.mk.injEq] at he
      exact absurd he.1 (by decide)
    obtain ⟨got, rs, -, -, rfl⟩ := readFrom_blocking h1
    exact .quiet hno rfl rfl ⟨rfl, rfl⟩
  | registerBad s1 s2 n hh hty hr hn =>
    have hno : ¬ Registers s := by
      rintro ⟨s1', s2', hh', -, hr'⟩
      have he := Option.some.inj (hh.symm.trans hh')
      simp only [Prod.mk.injEq, true_and] at he
      subst he
      have he := Option.some.inj (hr.symm.trans hr')
      exact hn (congrArg Prod.fst he)
    obtain ⟨-, rs, -, rfl⟩ := hh.eq
    obtain ⟨piece, rs', -, -, rfl⟩ := readFromNonBlocking_cases hr
    exact .quiet hno rfl rfl ⟨rfl, rfl⟩
  | register s1 s2 r sock hh hty hr hw =>
    have hyes : Registers s := ⟨s1, s2, hh, hty, hr⟩
    obtain ⟨hout1, hsends1, hsame⟩ := headerRead_wrote hh
    have hkept : s2.client.sendBuffer = s1.client.sendBuffer ∧ s2.sock.out = s1.sock.out ∧
        s2.sock.sends = s1.sock.sends := by
      obtain ⟨piece, rs', -, -, rfl⟩ := readFromNonBlocking_cases hr
      exact ⟨rfl, rfl, rfl⟩
    obtain ⟨hbuf, hout, hsends⟩ := hkept
    obtain ⟨v, hv⟩ : ∃ v, registerReply srv env s2.client = replyOver s2.client.sendBuffer v := ⟨_, rfl⟩
    rw [hbuf, hsame.sendBuffer] at hv
    rw [hv] at hw ⊢
    exact .registered v r hyes ⟨s2.sock, hout.trans hout1, hsends.trans hsends1, hw⟩ rfl rfl
  | retrasmit s1 r sock hh hty hw =>
    have hno := not_registers hh fun he => absurd (hty.symm.trans he) (by decide)
    obtain ⟨hout, hsends, hsame⟩ := headerRead_wrote hh
    rw [hsame.sendBuffer, hsame.sendDataSize] at hw
    exact .resent r hno ⟨s1.sock, hout, hsends, hw⟩ ⟨hsame.sendBuffer, hsame.sendDataSize⟩
  | ping s1 hh hty =>
    have hno := not_registers hh fun he => absurd (hty.symm.trans he) (by decide)
    obtain ⟨hout, hsends, hsame⟩ := headerRead_wrote hh
    exact .quiet hno hout hsends hsame
  | hack s1 hh hdef hbad =>
    obtain ⟨hout, hsends, hsame⟩ := headerRead_wrote hh
    exact .quiet (not_registers hh hdef.notRegister) hout hsends ⟨hsame.sendBuffer, hsame.sendDataSize⟩
  | unknown s1 hh hk hty =>
    obtain ⟨hout, hsends, hsame⟩ := headerRead_wrote hh
    exact .quiet (not_registers hh hk.notRegister) hout hsends hsame
  | old s2 n hd hold =>
    obtain ⟨hno, hout, hsends, hsame⟩ := dataRead_wrote hd
    exact .quiet hno hout hsends hsame
  | ahead s2 n hd hnew hover =>
    obtain ⟨hno, hout, hsends, hsame⟩ := dataRead_wrote hd
    exact .quiet hno hout hsends ⟨hsame.sendBuffer, hsame.sendDataSize⟩
  | badLength s2 s3 n hd hfresh hn hs => exact sendReTrasmit_messageWrote hd (Or.inl hs)
  | badCrc s2 s3 n hd hfresh hn hcrc hs => exact sendReTrasmit_messageWrote hd (Or.inr hs)
  | accepted s2 n hd hfresh hi =>
    obtain ⟨hno, hout, hsends, hsame⟩ := dataRead_wrote hd
    obtain ⟨hclient, hsock, -, -, -⟩ := processFrame_done env (traceCrc s2)
    generalize (processFrame env (traceCrc s2)).2 = s3 at hclient hsock
    unfold OnlyReceived at hclient
    refine .quiet hno ?_ ?_ ⟨?_, ?_⟩
    · rw [hsock]
      exact hout
    · rw [hsock]
      exact hsends
    · rw [hclient]
      exact hsame.sendBuffer
    · rw [hclient]
      exact hsame.sendDataSize

/-! ## Calls -/

/-- What a call writes: a notice, or nothing; only queueing touches `sendBuffer`. -/
inductive CallWrote (srv : Server) (env : Env) (s s' : Conn) : Call → Prop
  | queued (l : List Byte) : s' = { s with client := stsvSendData s.client l } → CallWrote srv env s s' (.sendData l)
  | quiet (a : Call) : s'.sock = s.sock → SameResend s s' → CallWrote srv env s s' a
  | notice (a : Call) (type : BitVec 16) (ret : Nat) :
      writeTo srv (dataSizeMsg type stsockidServer env.junk 0) dataSizeLen s.sock = some (ret, s'.sock) →
      SameResend s s' → CallWrote srv env s s' a

theorem sendNotice_wrote {env : Env} {type : BitVec 16} {s s' : Conn} {a : Call} (h : sendNotice srv env type s = some s') :
    CallWrote srv env s s' a := by
  unfold sendNotice at h
  split at h
  · cases h
  · rename_i k sock hw
    cases h
    exact .notice a type k hw ⟨rfl, rfl⟩

theorem stsvSendDBFile_buffer (env : Env) (fs : FS) (c : Client) (name : List Byte) :
    (stsvSendDBFile env fs c name).sendBuffer = c.sendBuffer := by
  unfold stsvSendDBFile
  split
  · rfl
  · have h1 : (sprintfFileSendName c (dbFilePath name)).sendBuffer = c.sendBuffer := rfl
    generalize sprintfFileSendName c (dbFilePath name) = c1 at h1 ⊢
    cases fopenRead env fs (dbFilePath name) with
    | some file => exact h1
    | none => exact h1

theorem doCall_wrote {env : Env} {s s' : Conn} {a : Call} {r : Reply} (h : doCall srv env s a = some (r, s')) :
    CallWrote srv env s s' a := by
  cases a with
  | sendData l =>
    cases h
    exact .queued l rfl
  | sendDBFile name =>
    cases h
    exact .quiet _ rfl ⟨stsvSendDBFile_buffer _ _ _ _, stsvSendDBFile_size _ _ _ _⟩
  | sendDuplicateLogin =>
    obtain ⟨s1, h1, hr⟩ := Option.map_eq_some_iff.mp h
    cases hr
    exact sendNotice_wrote h1
  | sendServerFULL =>
    obtain ⟨s1, h1, hr⟩ := Option.map_eq_some_iff.mp h
    cases hr
    exact sendNotice_wrote h1
  | getBigData =>
    have h' : s' = (stsvGetBigData env s).2 := by
      simp only [doCall, Option.some.injEq] at h
      rw [h]
    rw [h']
    refine .quiet _ ?_ ⟨?_, ?_⟩
    all_goals
      unfold stsvGetBigData
      split
      · rfl
      · split
        · rfl
        · simp only
          split <;> rfl
  | _ =>
    cases h
    exact .quiet _ rfl ⟨rfl, rfl⟩

end StarServer.Socket

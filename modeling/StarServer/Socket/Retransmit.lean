/-
  StarServer.Socket.Retransmit — when a RETRASMIT brings the last answer again.

  There is no copy of the last answer: a RETRASMIT sends `sendBuffer[0, sendDataSize)` as it
  is by then. A CONFIRM never was in `sendBuffer`; a REGISTER reply overwrites its first 12
  bytes and `sendDataSize`; and the slots of the next queue start at offset 2048 of the same
  buffer, inside any longer frame.

  Proved:
    * `retrasmit_resends`: what a RETRASMIT sends;
    * `step_keepsAnswer`: the steps of `AnswerSafe` keep the last answer in the buffer;
    * `retransmits`: along a run of such steps, a RETRASMIT in any state brings the last
      answer, byte for byte, and keeps the connection;
    * `retransmit_fails`: after a CONFIRM a RETRASMIT closes the connection, and after a
      message queued behind a frame of 2124 bytes it brings another frame.
-/

import StarServer.Socket.OutputFraming

namespace StarServer.Socket

open StarServer.Memory

variable (srv : Server)

/-- **A RETRASMIT now**, once the server has answered a frame, brings the last answer again
    and keeps the connection. -/
def Retransmits (s : Slot) : Prop :=
  ∀ ws env ret c, s.phase = .polling → s.conn.client.online = true → s.answers.getLast? = some ws →
    dataSizeLen ≤ s.conn.sock.inp.length → msgType (nextHeader s.conn) = StSockMsg.retrasmit →
    processMessageBuffer srv env s.conn = some (ret, c) →
    wireBytes c.sock.out = wireBytes s.conn.sock.out ++ wireBytes ws ∧ c.client.online = true

/-- The last answer is in `sendBuffer`, whenever the thread reads messages. -/
structure KeepsAnswer (s : Slot) : Prop where
  sends : some 0 ∉ s.conn.sock.sends
  answer : ∀ ws, s.phase = .polling → s.conn.client.online = true → s.answers.getLast? = some ws →
    srv.nProtocol = .tcp ∧ s.conn.client.sendDataSize ≠ 0 ∧
      s.conn.client.sendBuffer.slice 0 s.conn.client.sendDataSize = wireBytes ws

/-- The steps that leave the last answer in the buffer: no `send` gives 0, no REGISTER is
    answered after a frame was, every frame is answered by a data frame, and what is queued
    while the thread waits goes behind the last answer. -/
def AnswerSafe (s : Slot) : Ev → Prop
  | .accept _ _ _ sends => some 0 ∉ sends
  | .message _ => s.answers ≠ [] → ¬ Registers s.conn
  | .endPack _ => s.conn.client.sendCount > 0 ∨ s.conn.client.fileDataSending = true
  | .call _ (.sendData l) => s.phase = .polling → s.answers ≠ [] →
      l = [] ∨ 62 ≤ s.conn.client.sendCount ∨ s.conn.client.sendDataSize ≤ msgSlot s.conn.client.sendCount
  | _ => True

variable {srv}

theorem not_registers_of_type {s : Conn} (h : msgType (nextHeader s) ≠ StSockMsg.register) : ¬ Registers s := by
  rintro ⟨s1, s2, hh, hty, -⟩
  obtain ⟨-, rs, -, rfl⟩ := hh.eq
  exact h hty

/-! ## A RETRASMIT -/

/-- **What a RETRASMIT sends.** -/
theorem retrasmit_resends {env : Env} {s s' : Conn} {ret : Int} (hlen : dataSizeLen ≤ s.sock.inp.length)
    (hty : msgType (nextHeader s) = StSockMsg.retrasmit) (h : processMessageBuffer srv env s = some (ret, s')) :
    ∃ r, WroteTo srv s.client.sendBuffer s.client.sendDataSize s s' r ∧
      s'.client.online = (s.client.online && r != 0) := by
  have hhead {s1 : Conn} (hh : HeaderRead s s1) : msgType s1.client.recvBuffer = StSockMsg.retrasmit := by
    obtain ⟨-, rs, -, rfl⟩ := hh.eq
    exact hty
  have hdata {s2 : Conn} {n : Nat} (hd : DataRead srv s s2 n) : False := hd.eq.2.1.notRetrasmit hty
  cases processMessageBuffer_outcome h with
  | closed s1 h1 =>
    obtain ⟨got, rs, -, hcase, -⟩ := readFrom_blocking h1
    rcases hcase with ⟨h0, -⟩ | ⟨-, hlt, -⟩
    · exact absurd h0 (by decide)
    · exact absurd hlen (Nat.not_le.mpr hlt)
  | registerBad s1 s2 n hh hreg _ _ => exact absurd (hreg.symm.trans (hhead hh)) (by decide)
  | register s1 s2 r sock hh hreg _ _ => exact absurd (hreg.symm.trans (hhead hh)) (by decide)
  | retrasmit s1 r sock hh _ hw =>
    obtain ⟨hout, hsends, hsame⟩ := headerRead_wrote hh
    have hon : s1.client.online = s.client.online := by
      obtain ⟨-, rs, -, rfl⟩ := hh.eq
      rfl
    rw [hsame.sendBuffer, hsame.sendDataSize] at hw
    exact ⟨r, ⟨s1.sock, hout, hsends, hw⟩, by rw [← hon]⟩
  | ping s1 hh hping => exact absurd (hping.symm.trans (hhead hh)) (by decide)
  | hack s1 hh hdef _ => exact absurd (hhead hh) hdef.notRetrasmit
  | unknown s1 hh hk _ => exact absurd (hhead hh) hk.notRetrasmit
  | old s2 n hd _ => exact (hdata hd).elim
  | ahead s2 n hd _ _ => exact (hdata hd).elim
  | badLength s2 s3 n hd _ _ _ => exact (hdata hd).elim
  | badCrc s2 s3 n hd _ _ _ _ => exact (hdata hd).elim
  | accepted s2 n hd _ _ => exact (hdata hd).elim

/-- A TCP write of something, with no `send` giving 0, returns its length. -/
theorem writeTo_ret {msg : Buf} {count ret : Nat} {k k' : Sock} (htcp : srv.nProtocol = .tcp) (hz : some 0 ∉ k.sends)
    (h : writeTo srv msg count k = some (ret, k')) : ret = count := by
  obtain ⟨sent, rs, -, -, hcase⟩ := writeTo_cases h
  rcases hcase with ⟨hret, -⟩ | ⟨-, -, hudp | hm⟩
  · exact hret
  · rw [htcp] at hudp
    cases hudp
  · exact absurd hm hz

/-- Only TCP returns anything else than 0. -/
theorem writeTo_tcp {msg : Buf} {count ret : Nat} {k k' : Sock} (h : writeTo srv msg count k = some (ret, k'))
    (hret : ret ≠ 0) : srv.nProtocol = .tcp := by
  unfold writeTo at h
  split at h
  · cases h
    exact absurd rfl hret
  · assumption

theorem keepsAnswer_retransmits {s : Slot} (h : KeepsAnswer srv s) : Retransmits srv s := by
  intro ws env ret c hph hon hlast hlen hty hm
  obtain ⟨htcp, hne, hslice⟩ := h.answer ws hph hon hlast
  obtain ⟨r, ⟨k, hout, hsends, hw⟩, honline⟩ := retrasmit_resends hlen hty hm
  have hz : some 0 ∉ k.sends := by
    rw [hsends]
    exact h.sends
  have hret := writeTo_ret htcp hz hw
  obtain ⟨-, ⟨-, hbytes⟩ | ⟨hudp, -⟩⟩ := writeTo_wire hz hw
  · rw [hbytes, hout, hslice, honline, hon, hret]
    exact ⟨rfl, by simpa using hne⟩
  · rw [htcp] at hudp
    cases hudp

/-- Where a RETRASMIT brings the bytes `l`, they are in the buffer. -/
theorem retransmits_needs {env : Env} {s c : Conn} {ret : Int} {l : List Byte} (htcp : srv.nProtocol = .tcp)
    (hz : some 0 ∉ s.sock.sends) (hlen : dataSizeLen ≤ s.sock.inp.length)
    (hty : msgType (nextHeader s) = StSockMsg.retrasmit) (hm : processMessageBuffer srv env s = some (ret, c))
    (hl : wireBytes c.sock.out = wireBytes s.sock.out ++ l) :
    s.client.sendBuffer.slice 0 s.client.sendDataSize = l := by
  obtain ⟨r, ⟨k, hout, hsends, hw⟩, -⟩ := retrasmit_resends hlen hty hm
  obtain ⟨-, ⟨-, hbytes⟩ | ⟨hudp, -⟩⟩ := writeTo_wire (by rw [hsends]; exact hz) hw
  · rw [hl, hout] at hbytes
    exact (List.append_cancel_left hbytes).symm
  · rw [htcp] at hudp
    cases hudp

/-! ## Steps that keep the answer -/

theorem keepsAnswer_same {s s' : Slot} (h : KeepsAnswer srv s) (hz : some 0 ∉ s'.conn.sock.sends)
    (hsame : SameResend s.conn s'.conn) (hans : s'.answers = s.answers) (hph : s'.phase = .polling → s.phase = .polling)
    (hon : s'.conn.client.online = true → s.conn.client.online = true) : KeepsAnswer srv s' := by
  refine ⟨hz, fun ws hp ho hlast => ?_⟩
  rw [hsame.sendBuffer, hsame.sendDataSize]
  exact h.answer ws (hph hp) (hon ho) (hans ▸ hlast)

theorem message_keepsAnswer {env : Env} {s : Slot} {c : Conn} {ret : Int} (h : KeepsAnswer srv s)
    (hon : s.conn.client.online = true) (hok : AnswerSafe s (.message env))
    (hm : processMessageBuffer srv env s.conn = some (ret, c)) : KeepsAnswer srv { s with conn := c } := by
  cases outcome_wrote (processMessageBuffer_outcome hm) with
  | quiet _ hout hsends hsame => exact keepsAnswer_same h (by rw [hsends]; exact h.sends) hsame rfl id fun _ => hon
  | asked packNo r _ hw hsame =>
    obtain ⟨k, -, hsends, hw⟩ := hw
    exact keepsAnswer_same h (writeTo_wire (by rw [hsends]; exact h.sends) hw).1 hsame rfl id fun _ => hon
  | resent r _ hw hsame =>
    obtain ⟨k, -, hsends, hw⟩ := hw
    exact keepsAnswer_same h (writeTo_wire (by rw [hsends]; exact h.sends) hw).1 hsame rfl id fun _ => hon
  | registered v r hyes hw _ _ =>
    obtain ⟨k, -, hsends, hw⟩ := hw
    refine ⟨(writeTo_wire (by rw [hsends]; exact h.sends) hw).1, fun ws _ _ hlast => ?_⟩
    have hne : s.answers ≠ [] := by
      intro h0
      rw [show ({ s with conn := c } : Slot).answers = s.answers from rfl, h0] at hlast
      cases hlast
    exact absurd hyes (hok hne)

theorem endPacked_keepsAnswer {env : Env} {s : Slot} {c : Conn} (h : KeepsAnswer srv s)
    (hok : AnswerSafe s (.endPack env)) (hc : EndPacked srv env s.conn c) :
    KeepsAnswer srv { s with
      conn := c, phase := .polling, answers := s.answers ++ [c.sock.out.drop s.conn.sock.out.length] } := by
  cases hc with
  | frame ret sock _ hw =>
    refine ⟨(writeTo_wire h.sends hw).1, fun ws _ hon hlast => ?_⟩
    have hret : ret ≠ 0 := by simpa using (Bool.and_eq_true_iff.mp hon).2
    have htcp := writeTo_tcp hw hret
    obtain ⟨sent, rs, -, rfl, hcase⟩ := writeTo_cases hw
    rw [List.getLast?_concat] at hlast
    obtain rfl := Option.some.inj hlast
    have hdrop : (s.conn.sock.out ++ [(⟨(packFrame env s.conn.fs s.conn.client).sendBuffer,
        (packFrame env s.conn.fs s.conn.client).sendDataSize, sent⟩ : Write)]).drop s.conn.sock.out.length = _ :=
      List.drop_left
    rcases hcase with ⟨hcount, hsent⟩ | ⟨h0, -⟩
    · refine ⟨htcp, hcount ▸ hret, ?_⟩
      rw [hdrop, hsent]
      simp [wireBytes, Write.bytes]
    · exact absurd h0 hret
  | confirm ret sock h0 hf _ =>
    rcases hok with hpos | hs
    · omega
    · rw [hf] at hs
      cases hs

/-- What is queued goes behind the answer, or nowhere. -/
theorem stsvSendData_keeps {c : Client} {l : List Byte}
    (h : l = [] ∨ 62 ≤ c.sendCount ∨ c.sendDataSize ≤ msgSlot c.sendCount) :
    (stsvSendData c l).sendBuffer.slice 0 c.sendDataSize = c.sendBuffer.slice 0 c.sendDataSize := by
  rcases h with rfl | hfull | hbehind
  · unfold stsvSendData
    split <;> rfl
  · unfold stsvSendData
    rw [if_neg (by simp only [clientDefaultMaxBlock]; omega)]
  · exact stsvSendData_below c l hbehind

theorem call_keepsAnswer {env : Env} {s : Slot} {a : Call} {r : Reply} {c : Conn} (h : KeepsAnswer srv s)
    (hok : AnswerSafe s (.call env a)) (hc : doCall srv env s.conn a = some (r, c)) :
    KeepsAnswer srv { s with conn := c, seen := s.seen ++ [r] } := by
  have hon := call_online hc
  cases doCall_wrote hc with
  | queued l he =>
    subst he
    refine ⟨h.sends, fun ws hph ho hlast => ?_⟩
    obtain ⟨htcp, hne, hslice⟩ := h.answer ws hph (hon ho) hlast
    have hans : s.answers ≠ [] := by
      intro h0
      rw [show ({ s with conn := _, seen := _ } : Slot).answers = s.answers from rfl, h0] at hlast
      cases hlast
    have hsize := stsvSendData_size s.conn.client l
    simp only [hsize]
    exact ⟨htcp, hne, (stsvSendData_keeps (hok hph hans)).trans hslice⟩
  | quiet _ hsock hsame => exact keepsAnswer_same h (by rw [hsock]; exact h.sends) hsame rfl id hon
  | notice _ type ret hw hsame => exact keepsAnswer_same h (writeTo_wire h.sends hw).1 hsame rfl id hon

/-- **A safe step keeps the last answer in the buffer.** -/
theorem step_keepsAnswer {s s' : Slot} {e : Ev} (h : KeepsAnswer srv s) (hok : AnswerSafe s e)
    (he : step srv s e = some s') : KeepsAnswer srv s' := by
  cases step_stepped he with
  | accept idx inp recvs sends sent ret rs hph hoff hw =>
    have hsends : some 0 ∉ sends := hok
    refine ⟨(@writeTo_wire srv _ _ _ ⟨inp, recvs, sends, []⟩ _ hsends hw).1, fun ws _ _ hlast => ?_⟩
    cases hlast
  | handled env c hph hon hm =>
    have hkeep := message_keepsAnswer h hon hok hm
    refine ⟨hkeep.sends, fun ws hp => ?_⟩
    cases hp
  | dropped env c ret hph hon hret hm => exact message_keepsAnswer h hon hok hm
  | timeout hph hon =>
    refine ⟨h.sends, fun ws _ hoff => ?_⟩
    cases hoff
  | endPack env c hph hc => exact endPacked_keepsAnswer h hok hc
  | call env a r c hc => exact call_keepsAnswer h hok hc

/-! ## Runs -/

variable (srv)

/-- **Along a run of safe steps, a RETRASMIT in any state brings the last answer again.** -/
theorem retransmits {recvMem sendMem : Nat → Byte} {fs : FS} {pool : List BigDataBlock} {es : List Ev}
    (hok : Runs.RunOk (step srv) AnswerSafe (freshSlot recvMem sendMem fs pool) es) :
    Runs.RunAll (step srv) (Retransmits srv) (freshSlot recvMem sendMem fs pool) es := by
  have hkeep : Runs.RunAll (step srv) (KeepsAnswer srv) (freshSlot recvMem sendMem fs pool) es := by
    refine Runs.runAll_of_inv (step srv) AnswerSafe (fun s e s' hs hse he => step_keepsAnswer hs hse he) ?_ hok
    refine ⟨List.not_mem_nil, fun ws _ _ hlast => ?_⟩
    cases hlast
  exact Runs.RunAll.mono (step srv) (fun s hs => keepsAnswer_retransmits hs) hkeep

/-- A data frame with packNo `n` and nothing in it. -/
def emptyFrame (n : Byte) : List Byte := [1, 0, 0, 0, n, 0, 0, 0, 4, 0, 0, 0, 0, 0, 0, 0]

def retrasmitMsg : List Byte := [0xfa, 0xff, 0, 0, 0, 0, 0, 0, 0, 0, 0, 0]

/-- A frame answered with one byte, and a RETRASMIT. -/
def answeredOnce : List Ev :=
  [.accept 0 (emptyFrame 1 ++ retrasmitMsg) [some 12, some 4, some 12] [some 12, some 99, some 99], .message quietEnv,
    .call quietEnv (.sendData [7]), .endPack quietEnv, .message quietEnv]

theorem retransmits_once :
    (∃ s, Runs.run (step defaultServer) emptySlot answeredOnce = some s ∧ s.conn.sock.out.length = 3) ∧
      Runs.RunAll (step defaultServer) (Retransmits defaultServer) emptySlot answeredOnce := by
  refine ⟨⟨_, rfl, by decide +kernel⟩, retransmits defaultServer ?_⟩
  refine .cons _ (by decide : some 0 ∉ [some 12, some 99, some 99]) rfl (.cons _ (fun h => absurd rfl h) rfl
    (.cons _ (fun h => nomatch h) rfl (.cons _ (Or.inl (by decide +kernel)) rfl (.cons _ (fun _ => ?_) rfl trivial))))
  exact not_registers_of_type (by decide +kernel)

/-- A frame of 2124 bytes, and a byte queued before the RETRASMIT. -/
def overlapped : List Ev :=
  [.accept 0 (emptyFrame 1 ++ retrasmitMsg) [some 12, some 4, some 12] [some 12, some 9999, some 9999],
    .message quietEnv, .call quietEnv (.sendData (List.replicate 2102 0)), .endPack quietEnv,
    .call quietEnv (.sendData [7])]

/-- Where it stands: the answer's byte 2048 was 0 and is 7. -/
def Overlapped (s : Slot) : Prop :=
  s.phase = .polling ∧ s.conn.client.online = true ∧ some 0 ∉ s.conn.sock.sends ∧
    dataSizeLen ≤ s.conn.sock.inp.length ∧ msgType (nextHeader s.conn) = StSockMsg.retrasmit ∧
    (processMessageBuffer defaultServer quietEnv s.conn).isSome = true ∧
    s.answers.map (fun ws => (wireBytes ws)[2048]?) = [some 0] ∧
    (s.conn.client.sendBuffer.slice 0 s.conn.client.sendDataSize)[2048]? = some 7

instance (s : Slot) : Decidable (Overlapped s) := by unfold Overlapped; infer_instance

theorem overlapped_fails {s : Slot} (h : Overlapped s) : ¬ Retransmits defaultServer s := by
  intro hall
  obtain ⟨hph, hon, hz, hlen, hty, hret, hans, hnow⟩ := h
  obtain ⟨⟨ret, c⟩, hm⟩ := Option.isSome_iff_exists.mp hret
  obtain ⟨ws, hws, hbyte⟩ := List.map_eq_singleton_iff.mp hans
  have hlast : s.answers.getLast? = some ws := by rw [hws]; rfl
  obtain ⟨hbytes, -⟩ := hall ws quietEnv ret c hph hon hlast hlen hty hm
  have hsent := retransmits_needs rfl hz hlen hty hm hbytes
  rw [hsent, hbyte] at hnow
  exact absurd hnow (by decide)

/-- **A CONFIRM is not sent again: the RETRASMIT closes the connection.** And what is queued
    behind a long frame changes it before it is sent again. -/
theorem retransmit_fails :
    (∃ s, Runs.run (step defaultServer) emptySlot
      [.accept 0 (emptyFrame 1 ++ retrasmitMsg) [some 12, some 4, some 12] [some 12, some 12, some 99],
        .message quietEnv, .endPack quietEnv] = some s ∧ ¬ Retransmits defaultServer s) ∧
    (∃ s, Runs.run (step defaultServer) emptySlot overlapped = some s ∧ ¬ Retransmits defaultServer s) := by
  refine ⟨⟨_, rfl, fun h => ?_⟩, ?_⟩
  · obtain ⟨-, hon⟩ := h _ quietEnv _ _ rfl (by decide +kernel) rfl (by decide +kernel) (by decide +kernel) rfl
    exact absurd hon (by decide +kernel)
  · have hsome : (Runs.run (step defaultServer) emptySlot overlapped).any (fun s => decide (Overlapped s)) = true := by
      decide +kernel
    obtain ⟨s, hrun, hs⟩ := (Option.any_eq_true _ _).mp hsome
    exact ⟨s, hrun, overlapped_fails (of_decide_eq_true hs)⟩

end StarServer.Socket

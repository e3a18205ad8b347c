/-
  StarServer.Socket.OutputFraming — when the bytes a connection is sent are messages end to
  end: a 12-byte header and as many bytes as its size field says.

  GIVEID, CONFIRM, the RETRASMIT request and the notices are built fresh, with size 0. A
  data frame's size field and the count sent come from the same sum. The REGISTER reply is
  12 bytes of `sendBuffer` with only type and fromID written: its packNo and size are what
  the buffer held, from `malloc`, from a queued message or from the last data frame.

  Proved:
    * `packFrame_framed`, `dataSizeMsg_framed`: data frames and fresh messages are messages;
    * `step_outFramed`: a step keeps the output framed exactly when it makes no REGISTER
      reply over a size other than 0;
    * `output_framed`: so for runs, where no `send` gives 0 and no data frame's size passes
      2^31;
    * `output_unframed`: the first REGISTER reply over a buffer that is not zero.
-/

import StarServer.Framing.Stream
import StarServer.Socket.AtMostOnce
import StarServer.Socket.Writes

namespace StarServer.Socket

open StarServer.Memory StarServer.Framing

/-- The bytes of a connection's writes, end to end. -/
def wireBytes (out : List Write) : List Byte := out.flatMap Write.bytes

/-- The output so far is messages. -/
def OutFramed (s : Slot) : Prop := Framed dataSizeLen wireSize (wireBytes s.conn.sock.out)

/-! ## Single messages -/

theorem dataSizeMsg_framed (type fromID : BitVec 16) (packNo : BitVec 32) :
    Framed dataSizeLen wireSize ((dataSizeMsg type fromID packNo 0).slice 0 dataSizeLen) := by
  refine (slice_isFrame ?_).framed
  rw [(dataSizeMsg_header type fromID packNo 0).size]
  rfl

theorem packFrame_framed {env : Env} {fs : FS} {c : Client} (hq : QueueOk c) (hsmall : FrameSmall env fs c) :
    Framed dataSizeLen wireSize ((packFrame env fs c).sendBuffer.slice 0 (packFrame env fs c).sendDataSize) :=
  (slice_isFrame (packFrame_sendDataSize hq hsmall)).framed

/-- A header is a whole message when its size is 0. -/
theorem header_framed_iff (b : Buf) : Framed dataSizeLen wireSize (b.slice 0 dataSizeLen) ↔ b.u32 8 = 0 := by
  have hsize : wireSize (b.slice 0 dataSizeLen) = (b.u32 8).toNat := by
    rw [← wireSize_slice b (Nat.le_refl _), Buf.slice_take _ _ (Nat.le_refl _)]
  rw [framed_header_iff (by decide) (Buf.length_slice _ _ _), hsize, ← BitVec.toNat_inj]
  rfl

theorem replyOver_u32_8 (b : Buf) (v : BitVec 16) : (replyOver b v).u32 8 = b.u32 8 := by
  unfold replyOver
  rw [Buf.u32_put16_out (by omega), Buf.u32_put16_out (by omega)]

/-! ## One write -/

variable {srv : Server}

/-- Where every `send` takes something, a write over TCP adds its whole message, and over UDP
    nothing. -/
theorem writeTo_wire {msg : Buf} {count ret : Nat} {k k' : Sock} (hz : some 0 ∉ k.sends)
    (h : writeTo srv msg count k = some (ret, k')) : some 0 ∉ k'.sends ∧
    ((srv.nProtocol = .tcp ∧ wireBytes k'.out = wireBytes k.out ++ msg.slice 0 count) ∨
      (srv.nProtocol = .udp ∧ wireBytes k'.out = wireBytes k.out)) := by
  unfold writeTo at h
  split at h
  · rename_i hudp
    cases h
    refine ⟨hz, Or.inr ⟨hudp, ?_⟩⟩
    simp [wireBytes, Write.bytes]
  · rename_i htcp
    split at h
    · cases h
    · rename_i r sent rs hl
      cases h
      obtain ⟨hsuf, hcase⟩ := sendLoop_spec (Nat.zero_le _) hl
      refine ⟨fun hm => hz (hsuf.subset hm), Or.inl ⟨htcp, ?_⟩⟩
      rcases hcase with ⟨-, rfl⟩ | ⟨-, -, hm⟩
      · simp [wireBytes, Write.bytes]
      · exact absurd hm hz

/-- One write keeps the output framed exactly when its message is. -/
theorem writeTo_framed {msg : Buf} {count ret : Nat} {k k' : Sock} (hz : some 0 ∉ k.sends)
    (hk : Framed dataSizeLen wireSize (wireBytes k.out)) (h : writeTo srv msg count k = some (ret, k')) :
    some 0 ∉ k'.sends ∧ (Framed dataSizeLen wireSize (wireBytes k'.out) ↔
      (srv.nProtocol = .tcp → Framed dataSizeLen wireSize (msg.slice 0 count))) := by
  obtain ⟨hz', hcase⟩ := writeTo_wire hz h
  refine ⟨hz', ?_⟩
  rcases hcase with ⟨htcp, hout⟩ | ⟨hudp, hout⟩
  · rw [hout, hk.append_iff (by decide)]
    exact ⟨fun hf _ => hf, fun hf => hf htcp⟩
  · rw [hout]
    refine ⟨fun _ htcp => ?_, fun _ => hk⟩
    rw [hudp] at htcp
    cases htcp

/-! ## One step -/

/-- What a state has whose output has been framed so far. -/
structure Tidy (srv : Server) (s : Conn) : Prop where
  queue : QueueOk s.client
  sends : some 0 ∉ s.sock.sends
  resend : srv.nProtocol = .tcp →
    s.client.sendDataSize = 0 ∨ s.client.sendDataSize = dataSizeLen + (s.client.sendBuffer.u32 8).toNat

/-- What is asked of the socket and the files: every `send` takes something, and a data frame's
    size stays an `int`. -/
def OutputOk (s : Slot) : Ev → Prop
  | .accept _ _ _ sends => some 0 ∉ sends
  | .endPack env => FrameSmall env s.conn.fs s.conn.client
  | _ => True

variable (srv)

/-- A REGISTER is answered over a size of 0. -/
def RegisterClean (s : Slot) : Ev → Prop
  | .message _ => srv.nProtocol = .tcp → Registers s.conn → s.conn.client.sendBuffer.u32 8 = 0
  | _ => True

variable {srv}

theorem resend_framed {s : Conn} (h : Tidy srv s) (htcp : srv.nProtocol = .tcp) :
    Framed dataSizeLen wireSize (s.client.sendBuffer.slice 0 s.client.sendDataSize) := by
  rcases h.resend htcp with h0 | hsize
  · rw [h0]
    exact .nil
  · exact (slice_isFrame hsize).framed

/-- A message. -/
theorem message_outFramed {env : Env} {s s' : Conn} {ret : Int} (hi : Tidy srv s)
    (hp : Framed dataSizeLen wireSize (wireBytes s.sock.out)) (h : processMessageBuffer srv env s = some (ret, s')) :
    (Framed dataSizeLen wireSize (wireBytes s'.sock.out) ↔
      (srv.nProtocol = .tcp → Registers s → s.client.sendBuffer.u32 8 = 0)) ∧
    (Framed dataSizeLen wireSize (wireBytes s'.sock.out) → Tidy srv s') := by
  have ho := processMessageBuffer_outcome h
  have hq := message_queueOk hi.queue (outcome_done ho)
  have hkeep (hsame : SameResend s s') (hz : some 0 ∉ s'.sock.sends) : Tidy srv s' := by
    refine ⟨hq, hz, fun htcp => ?_⟩
    rw [hsame.sendBuffer, hsame.sendDataSize]
    exact hi.resend htcp
  cases outcome_wrote ho with
  | quiet hno hout hsends hsame =>
    rw [hout]
    exact ⟨⟨fun _ _ hr => absurd hr hno, fun _ => hp⟩, fun _ => hkeep hsame (by rw [hsends]; exact hi.sends)⟩
  | asked packNo r hno hw hsame =>
    obtain ⟨k, hout, hsends, hw⟩ := hw
    rw [← hout] at hp
    obtain ⟨hz, hiff⟩ := writeTo_framed (by rw [hsends]; exact hi.sends) hp hw
    exact ⟨⟨fun _ _ hr => absurd hr hno, fun _ => hiff.mpr fun _ => dataSizeMsg_framed _ _ _⟩, fun _ => hkeep hsame hz⟩
  | resent r hno hw hsame =>
    obtain ⟨k, hout, hsends, hw⟩ := hw
    rw [← hout] at hp
    obtain ⟨hz, hiff⟩ := writeTo_framed (by rw [hsends]; exact hi.sends) hp hw
    exact ⟨⟨fun _ _ hr => absurd hr hno, fun _ => hiff.mpr (resend_framed hi)⟩, fun _ => hkeep hsame hz⟩
  | registered v r hyes hw hbuf hsize =>
    obtain ⟨k, hout, hsends, hw⟩ := hw
    rw [← hout] at hp
    obtain ⟨hz, hiff⟩ := writeTo_framed (by rw [hsends]; exact hi.sends) hp hw
    rw [header_framed_iff, replyOver_u32_8] at hiff
    refine ⟨hiff.trans ⟨fun h0 htcp _ => h0 htcp, fun h0 htcp => h0 htcp hyes⟩, fun hf => ⟨hq, hz, fun htcp => ?_⟩⟩
    rw [hbuf, hsize, replyOver_u32_8, hiff.mp hf htcp]
    exact Or.inr rfl

/-- `EndPackSendData`. -/
theorem endPacked_outFramed {env : Env} {s s' : Conn} (hi : Tidy srv s)
    (hp : Framed dataSizeLen wireSize (wireBytes s.sock.out)) (hsmall : FrameSmall env s.fs s.client)
    (h : EndPacked srv env s s') : Framed dataSizeLen wireSize (wireBytes s'.sock.out) ∧ Tidy srv s' := by
  have hq : QueueOk s'.client := queueOk_empty (endPacked_keeps h).sendCount
  cases h with
  | frame ret sock _ hw =>
    obtain ⟨hz, hiff⟩ := writeTo_framed hi.sends hp hw
    exact ⟨hiff.mpr fun _ => packFrame_framed hi.queue hsmall, hq, hz,
      fun _ => Or.inr (packFrame_sendDataSize hi.queue hsmall)⟩
  | confirm ret sock _ _ hw =>
    obtain ⟨hz, hiff⟩ := writeTo_framed hi.sends hp hw
    exact ⟨hiff.mpr fun _ => dataSizeMsg_framed _ _ _, hq, hz, hi.resend⟩

/-- A call. -/
theorem call_outFramed {env : Env} {s s' : Conn} {a : Call} {r : Reply} (hi : Tidy srv s)
    (hp : Framed dataSizeLen wireSize (wireBytes s.sock.out)) (h : doCall srv env s a = some (r, s')) :
    Framed dataSizeLen wireSize (wireBytes s'.sock.out) ∧ Tidy srv s' := by
  have hq := call_queueOk hi.queue h
  cases doCall_wrote h with
  | queued l he =>
    have h32 : (stsvSendData s.client l).sendBuffer.u32 8 = s.client.sendBuffer.u32 8 := by
      refine Buf.u32_congr (Buf.slice_sub (stsvSendData_below s.client l ?_) (Nat.zero_le 8) (by omega : 8 + 4 ≤ 0 + 12))
      rw [msgSlot_eq]
      omega
    subst he
    refine ⟨hp, hq, hi.sends, fun htcp => ?_⟩
    rw [h32, stsvSendData_size]
    exact hi.resend htcp
  | quiet _ hsock hsame =>
    rw [hsock]
    refine ⟨hp, hq, by rw [hsock]; exact hi.sends, fun htcp => ?_⟩
    rw [hsame.sendBuffer, hsame.sendDataSize]
    exact hi.resend htcp
  | notice _ type ret hw hsame =>
    obtain ⟨hz, hiff⟩ := writeTo_framed hi.sends hp hw
    refine ⟨hiff.mpr fun _ => dataSizeMsg_framed _ _ _, hq, hz, fun htcp => ?_⟩
    rw [hsame.sendBuffer, hsame.sendDataSize]
    exact hi.resend htcp

/-- **A step keeps the output framed unless it answers a REGISTER over a size that is not 0.** -/
theorem step_outFramed {s s' : Slot} {e : Ev} (hi : Tidy srv s.conn) (hp : OutFramed s) (ha : OutputOk s e)
    (he : step srv s e = some s') : (OutFramed s' ↔ RegisterClean srv s e) ∧ (OutFramed s' → Tidy srv s'.conn) := by
  cases step_stepped he with
  | accept idx inp recvs sends sent ret rs hph hoff hw =>
    have hsends : some 0 ∉ sends := ha
    obtain ⟨hz, hiff⟩ := @writeTo_framed srv _ _ _ ⟨inp, recvs, sends, []⟩ _ hsends .nil hw
    exact ⟨⟨fun _ => trivial, fun _ => hiff.mpr fun _ => dataSizeMsg_framed _ _ _⟩,
      fun _ => ⟨queueOk_of_eq hi.queue rfl rfl, hz, fun _ => Or.inl rfl⟩⟩
  | handled env c hph hon hm => exact message_outFramed hi hp hm
  | dropped env c ret hph hon hret hm => exact message_outFramed hi hp hm
  | timeout hph hon =>
    exact ⟨⟨fun _ => trivial, fun _ => hp⟩, fun _ => ⟨queueOk_of_eq hi.queue rfl rfl, hi.sends, hi.resend⟩⟩
  | endPack env c hph hc =>
    obtain ⟨hp', hi'⟩ := endPacked_outFramed hi hp ha hc
    exact ⟨⟨fun _ => trivial, fun _ => hp'⟩, fun _ => hi'⟩
  | call env a r c hc =>
    obtain ⟨hp', hi'⟩ := call_outFramed hi hp hc
    exact ⟨⟨fun _ => trivial, fun _ => hp'⟩, fun _ => hi'⟩

/-! ## Runs -/

variable (srv)

/-- **The output is framed, at every state of a run, exactly when every REGISTER is answered
    over a size of 0.** -/
theorem output_framed {recvMem sendMem : Nat → Byte} {fs : FS} {pool : List BigDataBlock} {es : List Ev} {s : Slot}
    (h : Runs.run (step srv) (freshSlot recvMem sendMem fs pool) es = some s)
    (ha : Runs.RunOk (step srv) OutputOk (freshSlot recvMem sendMem fs pool) es) :
    Runs.RunAll (step srv) OutFramed (freshSlot recvMem sendMem fs pool) es ↔
      Runs.RunOk (step srv) (RegisterClean srv) (freshSlot recvMem sendMem fs pool) es := by
  refine @Runs.runAll_iff_runOk_of _ _ (step srv) (fun s => Tidy srv s.conn) _ _ _
    (fun s e s' hi hp ha he => step_outFramed hi hp ha he) _ _ _ ⟨queueOk_empty rfl, ?_, fun _ => Or.inl rfl⟩ .nil ha h
  exact List.not_mem_nil

/-- A REGISTER with its 24 bytes, all versions new enough. -/
def registerMsg : List Byte :=
  [0xfb, 0xff, 0, 0, 0, 0, 0, 0, 24, 0, 0, 0] ++ [2, 0, 0, 0, 86, 0, 0, 0, 0, 0, 0, 0] ++
    [1, 0, 0, 0, 8, 0, 0, 0, 0, 0, 0, 0]

/-- A first connection whose `sendBuffer` is zero, and its REGISTER. -/
theorem output_framed_register :
    let es := [.accept 0 registerMsg [some 12, some 24] [some 12, some 12], .message quietEnv]
    (∃ s, Runs.run (step defaultServer) emptySlot es = some s ∧ s.conn.sock.out.length = 2) ∧
      (Runs.RunAll (step defaultServer) OutFramed emptySlot es ↔
        Runs.RunOk (step defaultServer) (RegisterClean defaultServer) emptySlot es) := by
  intro es
  obtain ⟨s, hrun, hlen⟩ : ∃ s, Runs.run (step defaultServer) emptySlot es = some s ∧ s.conn.sock.out.length = 2 :=
    ⟨_, rfl, by decide +kernel⟩
  have ha : Runs.RunOk (step defaultServer) OutputOk emptySlot es :=
    ⟨(by decide : some 0 ∉ [some 12, some 12]), fun _ _ => ⟨trivial, fun _ _ => trivial⟩⟩
  exact ⟨⟨s, hrun, hlen⟩, output_framed defaultServer hrun ha⟩

/-- **The REGISTER reply over a buffer `malloc` left at 0xcc** announces 0xcccccccc bytes. -/
theorem output_unframed : ∃ s, Runs.run (step defaultServer)
    (freshSlot (fun _ => 0) (fun _ => 0xcc) (fun _ => none) [])
    [.accept 0 registerMsg [some 12, some 24] [some 12, some 12], .message quietEnv] = some s ∧
    s.conn.client.online = true ∧ ¬ OutFramed s := by
  refine ⟨_, rfl, by decide +kernel, fun h => ?_⟩
  exact absurd ((framed_iff_parse (by decide) _).mp h) (by decide +kernel)

end StarServer.Socket

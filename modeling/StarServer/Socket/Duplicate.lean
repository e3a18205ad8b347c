/-
  StarServer.Socket.Duplicate — a frame that comes again right after it was taken.

  A client whose acknowledgement was lost sends its frame again. `processMessageBuffer` has
  a branch for it (`packNo == packRef`, "check only send ack again"), behind a branch for
  `packNo <= packRef` that returns -1. `EndPackSendData`, which sends the acknowledgement,
  runs only after a 0.

  Proved:
    * `copy_read`: the copy's header and payload are read like the frame's;
    * `duplicate_unanswered`: on every connection a frame that was taken changes nothing when
      it comes next again, and is never acknowledged again;
    * `duplicate_silent`: a frame, its CONFIRM, and its copy that gets none.
-/

import StarServer.Socket.Resend

namespace StarServer.Socket

open StarServer.Memory

variable {srv : Server}

/-! ## The property -/

/-- The copy moves no upload, runs no handler, and `packRef` stays. -/
structure Idempotent (s s' : Slot) : Prop where
  packRef : s'.conn.client.packRef = s.conn.client.packRef
  uploads : SameUploads s.conn s'.conn
  handled : s'.handled = s.handled

/-- The message was answered with `packNo`, or the slot is on its way to `EndPackSendData`. -/
def Acknowledges (packNo : BitVec 32) (s s' : Slot) : Prop :=
  s'.phase = .handling ∨ ∃ w ws, s'.conn.sock.out = s.conn.sock.out ++ w :: ws ∧ IsAnswer packNo w

/-! ## Between two messages -/

/-- A call from the handler or another thread, or `EndPackSendData`. -/
inductive Between : Ev → Prop
  | endPack (env : Env) : Between (.endPack env)
  | call (env : Env) (a : Call) : Between (.call env a)

/-- What these leave alone. -/
structure StreamKept (s s' : Slot) : Prop where
  inp : s'.conn.sock.inp = s.conn.sock.inp
  packRef : s'.conn.client.packRef = s.conn.client.packRef

theorem between_kept {s s' : Slot} {e : Ev} (hb : Between e) (he : step srv s e = some s') : StreamKept s s' := by
  cases hb with
  | endPack env =>
    cases step_stepped he with
    | endPack _ c hph hc =>
      cases hc with
      | frame ret sock hq hw =>
        obtain ⟨sent, rs, -, rfl, -⟩ := writeTo_cases hw
        exact ⟨rfl, (packFrame_only env s.conn.fs s.conn.client).packRef⟩
      | confirm ret sock h0 hf hw =>
        obtain ⟨sent, rs, -, rfl, -⟩ := writeTo_cases hw
        exact ⟨rfl, rfl⟩
  | call env a =>
    cases step_stepped he with
    | call _ _ r c hc =>
      have hdone := doCall_done hc
      refine ⟨hdone.inp, ?_⟩
      show c.client.packRef = s.conn.client.packRef
      rw [hdone.client]
      rfl

theorem run_between {s s' : Slot} {es : List Ev} (hb : ∀ e ∈ es, Between e) (hrun : Runs.run (step srv) s es = some s') :
    StreamKept s s' := by
  induction es generalizing s with
  | nil =>
    cases hrun
    exact ⟨rfl, rfl⟩
  | cons e es ih =>
    obtain ⟨m, he, hrest⟩ := (Runs.run_cons _).mp hrun
    have h1 := between_kept (hb e List.mem_cons_self) he
    have h2 := ih (fun e' he' => hb e' (List.mem_cons_of_mem _ he')) hrest
    exact ⟨h2.inp.trans h1.inp, h2.packRef.trans h1.packRef⟩

/-! ## Reading the copy -/

theorem nextHeader_slice {s : Conn} (hlen : dataSizeLen ≤ s.sock.inp.length) :
    (nextHeader s).slice 0 dataSizeLen = s.sock.inp.take dataSizeLen :=
  Buf.slice_store_eq _ (List.length_take_of_le hlen)

/-- The header's fields are those of the next 12 bytes, whatever the buffer held. -/
theorem nextHeader_congr {s t : Conn} (hs : dataSizeLen ≤ s.sock.inp.length) (ht : dataSizeLen ≤ t.sock.inp.length)
    (h : s.sock.inp.take dataSizeLen = t.sock.inp.take dataSizeLen) : msgType (nextHeader s) = msgType (nextHeader t) ∧
      msgFromID (nextHeader s) = msgFromID (nextHeader t) ∧ msgPackNo (nextHeader s) = msgPackNo (nextHeader t) ∧
      msgSize (nextHeader s) = msgSize (nextHeader t) := by
  apply header_congr
  rw [nextHeader_slice hs, nextHeader_slice ht, h]

theorem IsData.congr {b c : Buf} (h : IsData srv b) (htype : msgType c = msgType b) (hid : msgFromID c = msgFromID b)
    (hsize : msgSize c = msgSize b) : IsData srv c :=
  ⟨⟨⟨htype ▸ h.notRegister, htype ▸ h.notRetrasmit, htype ▸ h.notPing⟩, hid ▸ h.fromID, hid ▸ h.fromIDLt⟩, htype ▸ h.type,
    hsize ▸ h.size, hsize ▸ h.sizeLe⟩

/-- A data message that the call has come back from was read. -/
theorem copy_read {env : Env} {s s' : Conn} {ret : Int} (hlen : dataSizeLen ≤ s.sock.inp.length)
    (hdata : IsData srv (nextHeader s)) (h : processMessageBuffer srv env s = some (ret, s')) :
    ∃ u n, DataRead srv s u n ∧ msgPackNo u.client.recvBuffer = msgPackNo (nextHeader s) := by
  unfold processMessageBuffer at h
  cases hh : readFrom 0 dataSizeLen (startMessage s) with
  | none =>
    rw [hh] at h
    cases h
  | some r =>
    obtain ⟨n1, s1⟩ := r
    -- the whole header is there
    obtain rfl : n1 = dataSizeLen := by
      obtain ⟨got, rs, -, hcase, -⟩ := readFrom_blocking hh
      rcases hcase with ⟨h1, -⟩ | ⟨-, hshort, -⟩
      · exact h1
      · have hinp : (startMessage s).sock.inp = s.sock.inp := rfl
        rw [hinp] at hshort
        omega
    have hread : HeaderRead s s1 := hh
    obtain ⟨-, rs, -, hs1⟩ := hread.eq
    have hbuf : s1.client.recvBuffer = nextHeader s := by rw [hs1]
    have hdata1 : IsData srv s1.client.recvBuffer := hbuf ▸ hdata
    rw [hh] at h
    simp only [show dataSizeLen ≠ 0 by decide, if_false, hdata1.processMessage] at h
    obtain ⟨⟨n2, s2⟩, hr, -⟩ := Option.bind_eq_some_iff.mp h
    have hd : DataRead srv s s2 n2 := ⟨s1, hread, hdata1, hr⟩
    refine ⟨s2, n2, hd, ?_⟩
    obtain ⟨-, -, got, rs', -, -, rfl⟩ := hd.eq
    exact (header_store (nextHeader s) got).2.2.1

/-- The bytes that a taken message is. -/
theorem accepted_frame {env : Env} {s s' : Conn} (h : processMessageBuffer srv env s = some (0, s')) :
    dataSizeLen ≤ s.sock.inp.length ∧ IsData srv (nextHeader s) ∧ s'.client.packRef = msgPackNo (nextHeader s) ∧
      s.sock.inp.length = s'.sock.inp.length + (dataSizeLen + (msgSize (nextHeader s)).toNat) := by
  obtain ⟨s2, n, hd, -, hi, hdone⟩ := outcome_zero (processMessageBuffer_outcome h)
  obtain ⟨hlen, hdata, got, rs, -, hpay, rfl⟩ := hd.eq
  obtain ⟨-, -, hpack, hsize⟩ := header_store (nextHeader s) got
  have hsize' : (n : Int) = msgSize (nextHeader s) := hi.size.trans hsize
  refine ⟨hlen, hdata, ?_, ?_⟩
  · rw [hdone.packRef, if_pos rfl]
    exact hpack
  · rw [hdone.sock]
    show s.sock.inp.length = ((s.sock.inp.drop dataSizeLen).drop got.length).length + _
    rw [List.length_drop, List.length_drop]
    rcases hpay with ⟨-, hle, rfl⟩ | ⟨h0, hlt, -⟩
    · rw [List.length_drop] at hle
      rw [List.length_take, List.length_drop]
      omega
    · omega

/-! ## The duplicate -/

/-- **A duplicate changes nothing, and nothing acknowledges it.** The frame at the front of
    the stream is taken; its copy is next, and comes after any calls and the answer. -/
theorem duplicate_unanswered {s0 s1 s s' : Slot} {env0 env : Env} {es : List Ev} {frame rest : List Byte}
    (hinp : s0.conn.sock.inp = frame ++ frame ++ rest)
    (hacc : step srv s0 (.message env0) = some s1) (htaken : s1.phase = .handling) (hframe : s1.conn.sock.inp = frame ++ rest)
    (hbetween : ∀ e ∈ es, Between e) (hrun : Runs.run (step srv) s1 es = some s)
    (he : step srv s (.message env) = some s') :
    Idempotent s s' ∧ ¬Acknowledges (msgPackNo s1.conn.client.recvBuffer) s s' := by
  obtain ⟨ret0, hm0, hph0, -⟩ := message_step hacc
  obtain rfl := hph0.mpr htaken
  obtain ⟨hlen0, hdata0, hpack, hsize⟩ := accepted_frame hm0
  obtain ⟨hinp', hpack'⟩ := run_between hbetween hrun
  have hflen : dataSizeLen ≤ frame.length := by
    rw [hinp, hframe] at hsize
    simp only [List.length_append] at hsize
    omega
  -- the copy has the frame's header
  have hlen : dataSizeLen ≤ s.conn.sock.inp.length := by
    rw [hinp', hframe, List.length_append]
    omega
  have htake : s.conn.sock.inp.take dataSizeLen = s0.conn.sock.inp.take dataSizeLen := by
    rw [hinp', hframe, hinp, List.append_assoc, List.take_append_of_le_length hflen, List.take_append_of_le_length hflen]
  obtain ⟨htype, hid, hno, hmsgsize⟩ := nextHeader_congr hlen hlen0 htake
  obtain ⟨ret, hm, hph, hh⟩ := message_step he
  obtain ⟨u, n, hd, hu⟩ := copy_read hlen (hdata0.congr htype hid hmsgsize) hm
  have hold : msgPackNo u.client.recvBuffer ≤ s.conn.client.packRef := by
    rw [hu, hno, hpack', hpack]
    exact BitVec.le_refl _
  have hign := (message_verdict hm).old u n hd hold
  rw [if_neg hign.ret, List.append_nil] at hh
  refine ⟨⟨hign.packRef, hign.uploads, hh⟩, ?_⟩
  intro hack
  rcases hack with hhandling | ⟨w, ws, hout, -⟩
  · exact hign.ret (hph.mpr hhandling)
  · rw [hign.out] at hout
    have hlength := congrArg List.length hout
    rw [List.length_append, List.length_cons] at hlength
    omega

/-- A message of three bytes, and the first part of a file. -/
def uploadFrame : List Byte :=
  [5, 0, 0, 0, 1, 0, 0, 0, 52, 0, 0, 0, 0xf8, 0x88, 1, 0, 3, 0, 7, 8, 9, 1, 0, 0, 0, 5, 0, 0, 0, 0x61] ++
    List.replicate 31 0 ++ [65, 66, 67]

/-- That frame and its copy. -/
def uploadTwice : Ev :=
  .accept 0 (uploadFrame ++ uploadFrame) [some 12, some 52, some 12, some 30, some 22] [some 12, some 19]

/-- The handler queues an answer, which is sent, and another thread a message before the copy is read. -/
def betweenCopies : List Ev := [.call quietEnv (.sendData [65]), .endPack quietEnv, .call quietEnv (.sendData [66, 67])]

theorem duplicate_unanswered_upload : ∃ s0 s1 s s', Runs.run (step defaultServer) emptySlot [uploadTwice] = some s0 ∧
    step defaultServer s0 (.message quietEnv) = some s1 ∧ Runs.run (step defaultServer) s1 betweenCopies = some s ∧
    step defaultServer s (.message quietEnv) = some s' ∧ s'.conn.sock.inp = [] ∧
    s'.conn.fs (str "FILE/file00000000a") = some [65, 66, 67] ∧
    Idempotent s s' ∧ ¬Acknowledges (msgPackNo s1.conn.client.recvBuffer) s s' := by
  have hall : (Runs.run (step defaultServer) emptySlot [uploadTwice]).any (fun s0 =>
      decide (s0.conn.sock.inp = uploadFrame ++ uploadFrame ++ []) && (step defaultServer s0 (.message quietEnv)).any fun s1 =>
      decide (s1.phase = .handling ∧ s1.conn.sock.inp = uploadFrame ++ []) &&
      (Runs.run (step defaultServer) s1 betweenCopies).any fun s => (step defaultServer s (.message quietEnv)).any fun s' =>
      decide (s'.conn.sock.inp = [] ∧ s'.conn.fs (str "FILE/file00000000a") = some [65, 66, 67])) = true := by decide +kernel
  simp only [Option.any_eq_true, Bool.and_eq_true, decide_eq_true_eq] at hall
  obtain ⟨s0, h0, hinp, s1, h1, ⟨hph, hframe⟩, s, hrun, s', h2, hnone, hfile⟩ := hall
  have hbetween : ∀ e ∈ betweenCopies, Between e := by
    simp only [betweenCopies, List.forall_mem_cons]
    exact ⟨.call _ _, .endPack _, .call _ _, fun e he => by cases he⟩
  exact ⟨s0, s1, s, s', h0, h1, hrun, h2, hnone, hfile, duplicate_unanswered hinp h1 hph hframe hbetween hrun h2⟩

/-- Frame 1 and its copy, and a client that has read nothing of the CONFIRM. -/
def frameTwice : Ev := .accept 0 (emptyFrame 1 ++ emptyFrame 1) [some 12, some 4, some 12, some 4] [some 12, some 12]

/-- **A client left waiting.** Frame 1 is handled and confirmed; its copy is read, and the
    writes are still GIVEID and that CONFIRM. -/
theorem duplicate_silent : ∃ s s', Runs.run (step defaultServer) emptySlot [frameTwice, .message quietEnv, .endPack quietEnv] =
      some s ∧ step defaultServer s (.message quietEnv) = some s' ∧
    s.handled = [1] ∧ s.conn.sock.inp = emptyFrame 1 ∧ s'.conn.sock.inp = [] ∧ s'.conn.client.online = true ∧
    s'.conn.sock.out.map (fun w => (w.msg.u16 0, w.msg.u32 4)) = [(StSockMsg.giveid, 0), (StSockMsg.confirm, 1)] ∧
    ¬Acknowledges 1 s s' := by
  obtain ⟨s, s', hrun, he, hhandled, hinp, hnone, honline, hout, hbefore, hph⟩ : ∃ s s',
      Runs.run (step defaultServer) emptySlot [frameTwice, .message quietEnv, .endPack quietEnv] = some s ∧
      step defaultServer s (.message quietEnv) = some s' ∧
      s.handled = [1] ∧ s.conn.sock.inp = emptyFrame 1 ∧ s'.conn.sock.inp = [] ∧ s'.conn.client.online = true ∧
      s'.conn.sock.out.map (fun w => (w.msg.u16 0, w.msg.u32 4)) = [(StSockMsg.giveid, 0), (StSockMsg.confirm, 1)] ∧
      s.conn.sock.out.length = 2 ∧ s'.phase = .polling := by
    refine ⟨_, _, rfl, rfl, ?_, ?_, ?_, ?_, ?_, ?_, ?_⟩
    all_goals decide +kernel
  refine ⟨s, s', hrun, he, hhandled, hinp, hnone, honline, hout, ?_⟩
  intro hack
  rcases hack with hhandling | ⟨w, ws, hmore, -⟩
  · rw [hph] at hhandling
    cases hhandling
  · have hlength := congrArg List.length hout
    rw [List.length_map, hmore, List.length_append, hbefore] at hlength
    simp at hlength

end StarServer.Socket

/-
  StarServer.Socket.AtMostOnce — the request handler runs for each packNo once, in order,
  and answers it once.

  Proved:
  (1) `message_verdict`: what one data frame meets. A result of 0 is a new, whole frame; it
      writes nothing and `packRef` becomes its packNo. A frame that fails the length or the
      CRC check is answered by one RETRASMIT and leaves `packRef` and the uploads alone. A
      frame with packNo <= `packRef` is dropped without an answer.
  (2) `endPacked_answer`: `EndPackSendData` makes one write, a data frame or a CONFIRM with
      `packRef` as packNo, of as many bytes as its header says.
  (3) `at_most_once`: in every state a slot reaches, the packNos handled increase strictly,
      the last of them is `packRef`, and each is answered by exactly one such write, which
      while the client is online is on the wire whole, one frame.
-/

import Mathlib.Data.List.Forall2
import StarServer.Socket.Calls
import StarServer.Socket.Dispatch
import StarServer.Socket.Headers

namespace StarServer.Socket

open StarServer.Memory StarServer.Framing

/-! ## One write -/

/-- A write answers frame `packNo`. -/
structure IsAnswer (packNo : BitVec 32) (w : Write) : Prop where
  type : IsDataType (w.msg.u16 0) ∨ w.msg.u16 0 = StSockMsg.confirm
  packNo : w.msg.u32 4 = packNo

/-- And it is one frame: its header, 12 bytes, and as many more as that says; behind the
    header of a CONFIRM none. The size is an `int`, and only a file part can take it past that. -/
structure OneFrame (packNo : BitVec 32) (w : Write) : Prop extends IsAnswer packNo w where
  count : w.count = frameCount w.msg
  confirm : w.msg.u16 0 = StSockMsg.confirm → w.msg.u32 8 = 0 ∧ w.count = dataSizeLen
  small : w.msg.u16 0 ≠ StSockMsg.packdatasize ||| StSockMsg.filedata → (w.msg.u32 8).toNat < 2 ^ 31

/-- A write asks for frame `packNo` again: a header of 12 bytes with nothing behind it. -/
structure IsRetrasmit (packNo : BitVec 32) (w : Write) : Prop where
  type : w.msg.u16 0 = StSockMsg.retrasmit
  packNo : w.msg.u32 4 = packNo
  size : w.msg.u32 8 = 0
  count : w.count = dataSizeLen

/-- What is on the wire is one frame, unless a file part has taken its size past an `int`. -/
def FrameOnWire (w : Write) : Prop :=
  (w.msg.u16 0 = StSockMsg.packdatasize ||| StSockMsg.filedata → (w.msg.u32 8).toNat < 2 ^ 31) →
    IsFrame dataSizeLen wireSize w.bytes

theorem OneFrame.onWire {packNo : BitVec 32} {w : Write} (h : OneFrame packNo w) (hsent : w.sent = w.count) : FrameOnWire w := by
  intro hsize
  have hlt : (w.msg.u32 8).toNat < 2 ^ 31 := by
    by_cases htype : w.msg.u16 0 = StSockMsg.packdatasize ||| StSockMsg.filedata
    · exact hsize htype
    · exact h.small htype
  unfold Write.bytes
  rw [hsent]
  exact slice_isFrame (h.count.trans (frameCount_small hlt))

/-- One write more, and a whole one if the client is still online. -/
def WroteOne (P : Write → Prop) (s s' : Conn) : Prop :=
  ∃ w, s'.sock.out = s.sock.out ++ [w] ∧ P w ∧ (s'.client.online = true → w.sent = w.count)

variable {srv : Server}

/-- A client that goes offline when `WriteTo` returns 0 is online after whole writes only. -/
theorem writeTo_whole {msg : Buf} {count ret : Nat} {sock sock' : Sock} (online : Bool)
    (h : writeTo srv msg count sock = some (ret, sock')) :
    ∃ sent, sock'.out = sock.out ++ [⟨msg, count, sent⟩] ∧ ((online && ret != 0) = true → sent = count) := by
  obtain ⟨sent, rs, -, rfl, hcase⟩ := writeTo_cases h
  refine ⟨sent, rfl, fun hon => ?_⟩
  rcases hcase with ⟨-, hs⟩ | ⟨h0, -, -⟩
  · exact hs
  · subst h0
    simp at hon

theorem sendReTrasmit_wrote {s s' : Conn} {packNo : BitVec 32} (h : sendReTrasmit srv s packNo = some s') :
    WroteOne (IsRetrasmit packNo) s s' := by
  obtain ⟨ret, sock, hw, rfl⟩ := sendDataSizeMsg_done h
  obtain ⟨sent, hout, hsent⟩ := writeTo_whole s.client.online hw
  have hhead := dataSizeMsg_header StSockMsg.retrasmit stsockidServer packNo 0
  exact ⟨_, hout, ⟨hhead.type, hhead.packNo, hhead.size, rfl⟩, hsent⟩

theorem packFrame_oneFrame {env : Env} {fs : FS} {c : Client} (hq : QueueOk c) (sent : Nat) :
    OneFrame c.packRef ⟨(packFrame env fs c).sendBuffer, (packFrame env fs c).sendDataSize, sent⟩ := by
  obtain ⟨htype, hno⟩ := @packFrame_header env fs c hq
  refine ⟨⟨Or.inl htype, hno⟩, packFrame_count env fs c, fun hconfirm => ?_, packFrame_plainSize hq⟩
  -- a data frame is no CONFIRM
  rcases htype with htype | htype
  · exact absurd (htype.symm.trans hconfirm) (by decide)
  · exact absurd (htype.symm.trans hconfirm) (by decide)

theorem confirm_oneFrame (packNo : BitVec 32) (sent : Nat) :
    OneFrame packNo ⟨dataSizeMsg StSockMsg.confirm stsockidServer packNo 0, dataSizeLen, sent⟩ := by
  have hhead := dataSizeMsg_header StSockMsg.confirm stsockidServer packNo 0
  have hcount := @frameCount_small (dataSizeMsg StSockMsg.confirm stsockidServer packNo 0)
  rw [hhead.size] at hcount
  refine ⟨⟨Or.inr hhead.type, hhead.packNo⟩, (hcount (by decide)).symm, fun _ => ⟨hhead.size, rfl⟩, fun _ => ?_⟩
  rw [hhead.size]
  decide

/-- **One answer**: a data frame or a CONFIRM, with `packRef`. -/
theorem endPacked_answer {env : Env} {s s' : Conn} (hq : QueueOk s.client) (h : EndPacked srv env s s') :
    WroteOne (OneFrame s.client.packRef) s s' := by
  cases h with
  | frame ret sock _ hw =>
    obtain ⟨sent, hout, hsent⟩ := writeTo_whole s.client.online hw
    exact ⟨_, hout, packFrame_oneFrame hq sent, hsent⟩
  | confirm ret sock _ _ hw =>
    obtain ⟨sent, hout, hsent⟩ := writeTo_whole s.client.online hw
    exact ⟨_, hout, confirm_oneFrame s.client.packRef sent, hsent⟩

/-! ## One message -/

/-- Once a data frame is read, the rest of the call is `processPayload`. -/
theorem processMessageBuffer_dataRead {env : Env} {s s2 : Conn} {n : Nat} (h : DataRead srv s s2 n) :
    processMessageBuffer srv env s = processPayload srv env n s2 := by
  obtain ⟨s1, hh, hd, hr⟩ := h.read
  have h12 : dataSizeLen ≠ 0 := by decide
  unfold HeaderRead at hh
  unfold processMessageBuffer
  rw [hh]
  simp only [h12, if_false, hd.processMessage, hr, Option.bind_some]

/-- The ready flags, sizes and names of uploads, and the files. -/
structure SameUploads (s s' : Conn) : Prop where
  bigDataReady : s'.client.bigDataReady = s.client.bigDataReady
  fileDataReady : s'.client.fileDataReady = s.client.fileDataReady
  bigDataReadSize : s'.client.bigDataReadSize = s.client.bigDataReadSize
  bigDataReadSizeDone : s'.client.bigDataReadSizeDone = s.client.bigDataReadSizeDone
  fileDataName : s'.client.fileDataName = s.client.fileDataName
  fs : s'.fs = s.fs

/-- The handler is not entered, the frame is asked for again, and no more. -/
structure Rejected (packNo : BitVec 32) (s : Conn) (ret : Int) (s' : Conn) : Prop where
  ret : ret ≠ 0
  wrote : WroteOne (IsRetrasmit packNo) s s'
  packRef : s'.client.packRef = s.client.packRef
  uploads : SameUploads s s'

/-- The handler is not entered and nothing is written. -/
structure Ignored (s : Conn) (ret : Int) (s' : Conn) : Prop where
  ret : ret ≠ 0
  out : s'.sock.out = s.sock.out
  packRef : s'.client.packRef = s.client.packRef
  uploads : SameUploads s s'

/-- The handler is entered: for a new and whole frame. -/
structure Accepted (srv : Server) (s s' : Conn) : Prop where
  frame : ∃ s2 n, DataRead srv s s2 n ∧ IsFresh srv s2.client ∧ IsIntact n s2.client.recvBuffer ∧
    s'.client.recvBuffer = s2.client.recvBuffer
  new : s.client.packRef < msgPackNo s'.client.recvBuffer
  packRef : s'.client.packRef = msgPackNo s'.client.recvBuffer
  out : s'.sock.out = s.sock.out
  online : s'.client.online = s.client.online

/-- What one call does with the frame it reads. -/
structure Verdict (srv : Server) (s : Conn) (ret : Int) (s' : Conn) : Prop where
  accepted : ret = 0 → Accepted srv s s'
  rejected : ∀ s2 n, DataRead srv s s2 n → IsFresh srv s2.client → ¬ IsIntact n s2.client.recvBuffer →
    Rejected (msgPackNo s2.client.recvBuffer) s ret s'
  old : ∀ s2 n, DataRead srv s s2 n → msgPackNo s2.client.recvBuffer ≤ s.client.packRef → Ignored s ret s'

theorem dataRead_same {s s2 : Conn} {n : Nat} (h : DataRead srv s s2 n) :
    s2.sock.out = s.sock.out ∧ s2.client.packRef = s.client.packRef ∧ s2.client.online = s.client.online ∧
      SameUploads s s2 := by
  obtain ⟨-, -, got, rs, -, -, rfl⟩ := h.eq
  exact ⟨rfl, rfl, rfl, rfl, rfl, rfl, rfl, rfl, rfl⟩

theorem message_accepted {env : Env} {s s' : Conn} (h : processMessageBuffer srv env s = some (0, s')) :
    Accepted srv s s' := by
  obtain ⟨s2, n, hd, hf, hi, hdone⟩ := outcome_zero (processMessageBuffer_outcome h)
  obtain ⟨hout, hpack, hon, -⟩ := dataRead_same hd
  have hclient := hdone.client
  unfold OnlyReceived at hclient
  have hbuf : s'.client.recvBuffer = s2.client.recvBuffer := by
    rw [hclient]
    rfl
  refine ⟨⟨s2, n, hd, hf, hi, hbuf⟩, ?_, ?_, ?_, ?_⟩
  · rw [hbuf, ← hpack]
    exact hf.packNo
  · rw [hbuf]
    exact hdone.packRef
  · rw [hdone.sock]
    exact hout
  · rw [hclient, ← hon]
    rfl

theorem sendReTrasmit_rejected {s s2 t s' : Conn} {n : Nat} {packNo : BitVec 32} {ret : Int} (hd : DataRead srv s s2 n)
    (ht : t = s2 ∨ t = traceCrc s2)
    (h : (sendReTrasmit srv t packNo).map (fun s => ((-1 : Int), s)) = some (ret, s')) : Rejected packNo s ret s' := by
  obtain ⟨s3, h3, hr⟩ := Option.map_eq_some_iff.mp h
  cases hr
  obtain ⟨hout, hpack, -, hup⟩ := dataRead_same hd
  have hsame : t.sock = s2.sock ∧ t.client = s2.client ∧ t.fs = s2.fs := by
    rcases ht with rfl | rfl
    · exact ⟨rfl, rfl, rfl⟩
    · exact ⟨rfl, rfl, rfl⟩
  obtain ⟨hsock, hclient, hfs⟩ := hsame
  obtain ⟨w, hw, hno, hsent⟩ := sendReTrasmit_wrote h3
  obtain ⟨r, sock, -, rfl⟩ := sendDataSizeMsg_done h3
  refine ⟨by decide, ⟨w, ?_, hno, hsent⟩, ?_, ?_⟩
  · rw [hw, hsock, hout]
  · rw [← hpack, ← hclient]
  · obtain ⟨h1, h2, h3, h4, h5, h6⟩ := hup
    rw [← hclient] at h1 h2 h3 h4 h5
    rw [← hfs] at h6
    exact ⟨h1, h2, h3, h4, h5, h6⟩

/-- **What one message does**, whatever the state before it. -/
theorem message_verdict {env : Env} {s s' : Conn} {ret : Int} (h : processMessageBuffer srv env s = some (ret, s')) :
    Verdict srv s ret s' := by
  refine ⟨fun h0 => message_accepted (h0 ▸ h), fun s2 n hd hf hbad => ?_, fun s2 n hd hle => ?_⟩
  · rw [processMessageBuffer_dataRead hd] at h
    simp only [processPayload] at h
    rw [if_neg (BitVec.not_le.mpr hf.packNo), if_neg hf.session] at h
    by_cases hsize : (n : Int) = msgSize s2.client.recvBuffer
    · rw [if_neg (not_not_intro hsize)] at h
      by_cases hcrc : crcOver s2.client.recvBuffer packDataLen (crcLength s2.client.recvBuffer) = s2.client.recvBuffer.u16 12
      · exact absurd ⟨hsize, hcrc⟩ hbad
      · rw [if_pos hcrc] at h
        exact sendReTrasmit_rejected hd (Or.inr rfl) h
    · rw [if_pos hsize] at h
      exact sendReTrasmit_rejected hd (Or.inl rfl) h
  · obtain ⟨hout, hpack, -, hup⟩ := dataRead_same hd
    rw [processMessageBuffer_dataRead hd] at h
    simp only [processPayload] at h
    rw [if_pos (by rw [hpack]; exact hle)] at h
    cases h
    exact ⟨by decide, hout, hpack, hup⟩

/-! ## The queue -/

theorem queueOk_of_eq {c d : Client} (h : QueueOk c) (hn : d.sendCount = c.sendCount)
    (hs : d.sendBufferMSGSize = c.sendBufferMSGSize) : QueueOk d := by
  refine ⟨hn ▸ h.count, fun i hi => ?_⟩
  rw [hs]
  exact h.sizes i (hn ▸ hi)

theorem queueOk_empty {c : Client} (h : c.sendCount = 0) : QueueOk c := by
  refine ⟨by omega, fun i hi => ?_⟩
  omega

theorem message_queueOk {s s' : Conn} (hq : QueueOk s.client) (h : MessageDone s s') : QueueOk s'.client := by
  rw [h.client]
  exact queueOk_of_eq hq rfl rfl

theorem stsvSendDBFile_queue (env : Env) (fs : FS) (c : Client) (name : List Byte) :
    (stsvSendDBFile env fs c name).sendCount = c.sendCount ∧
      (stsvSendDBFile env fs c name).sendBufferMSGSize = c.sendBufferMSGSize := by
  unfold stsvSendDBFile
  split
  · exact ⟨rfl, rfl⟩
  · have h1 : (sprintfFileSendName c (dbFilePath name)).sendCount = c.sendCount ∧
        (sprintfFileSendName c (dbFilePath name)).sendBufferMSGSize = c.sendBufferMSGSize := ⟨rfl, rfl⟩
    generalize sprintfFileSendName c (dbFilePath name) = c1 at h1 ⊢
    cases fopenRead env fs (dbFilePath name) with
    | some file => exact h1
    | none => exact h1

/-- No call but `STSV_SendData` queues. -/
theorem call_counts {env : Env} {s s' : Conn} {a : Call} {r : Reply} (ha : ¬ ∃ l, a = .sendData l)
    (h : doCall srv env s a = some (r, s')) : s'.client.sendCount = s.client.sendCount ∧
      s'.client.sendBufferMSGSize = s.client.sendBufferMSGSize := by
  cases a with
  | sendData l => exact absurd ⟨l, rfl⟩ ha
  | sendDBFile name =>
    cases h
    exact stsvSendDBFile_queue env s.fs s.client name
  | sendDuplicateLogin =>
    obtain ⟨s1, h1, hr⟩ := Option.map_eq_some_iff.mp h
    cases hr
    rw [(sendNotice_done h1).2]
    exact ⟨rfl, rfl⟩
  | sendServerFULL =>
    obtain ⟨s1, h1, hr⟩ := Option.map_eq_some_iff.mp h
    cases hr
    rw [(sendNotice_done h1).2]
    exact ⟨rfl, rfl⟩
  | getBigData =>
    have h' : s' = (stsvGetBigData env s).2 := by
      simp only [doCall, Option.some.injEq] at h
      rw [h]
    rw [h']
    unfold stsvGetBigData
    split
    · exact ⟨rfl, rfl⟩
    · split
      · exact ⟨rfl, rfl⟩
      · simp only
        split
        · exact ⟨rfl, rfl⟩
        · exact ⟨rfl, rfl⟩
  | _ =>
    cases h
    exact ⟨rfl, rfl⟩

theorem call_queueOk {env : Env} {s s' : Conn} {a : Call} {r : Reply} (hq : QueueOk s.client)
    (h : doCall srv env s a = some (r, s')) : QueueOk s'.client := by
  by_cases ha : ∃ l, a = .sendData l
  · obtain ⟨l, rfl⟩ := ha
    cases h
    exact sendData_ok hq l
  · obtain ⟨hn, hs⟩ := call_counts ha h
    exact queueOk_of_eq hq hn hs

/-! ## Runs -/

/-- Each frame has its one answer. -/
def Answered (packNos : List (BitVec 32)) (answers : List (List Write)) : Prop :=
  List.Forall₂ (fun packNo ws => ∃ w, ws = [w] ∧ OneFrame packNo w) packNos answers

theorem Answered.mem {packNos : List (BitVec 32)} {answers : List (List Write)} (h : Answered packNos answers)
    {ws : List Write} (hws : ws ∈ answers) : ∃ packNo ∈ packNos, ∃ w, ws = [w] ∧ OneFrame packNo w := by
  induction h with
  | nil => cases hws
  | cons hfirst _ ih =>
    rcases List.mem_cons.mp hws with rfl | hws
    · exact ⟨_, List.mem_cons_self, hfirst⟩
    · obtain ⟨packNo, hno, hw⟩ := ih hws
      exact ⟨packNo, List.mem_cons_of_mem _ hno, hw⟩

/-- The frames the thread is done with: all it handled but the one it is handling. -/
def finished (s : Slot) : List (BitVec 32) :=
  match s.phase with
  | .polling => s.handled
  | .handling => s.handled.dropLast

structure InOrder (s : Slot) : Prop where
  queue : QueueOk s.conn.client
  increasing : s.handled.Pairwise (· < ·)
  last : s.conn.client.packRef = s.handled.getLast?.getD 0
  begun : s.phase = .handling → s.handled ≠ []
  answered : Answered (finished s) s.answers
  whole : s.conn.client.online = true → ∀ ws ∈ s.answers, ∀ w ∈ ws, w.sent = w.count

/-- A list that increases up to its last element, below `x`, does so with `x` behind it. -/
theorem pairwise_snoc {l : List (BitVec 32)} {x : BitVec 32} (h : l.Pairwise (· < ·)) (hx : l.getLast?.getD 0 < x) :
    (l ++ [x]).Pairwise (· < ·) := by
  refine List.pairwise_append.mpr ⟨h, List.pairwise_singleton _ _, fun a ha b hb => ?_⟩
  obtain rfl := List.mem_singleton.mp hb
  rcases List.eq_nil_or_concat l with rfl | ⟨r, y, rfl⟩
  · cases ha
  · rw [List.concat_eq_append] at h hx ha
    rw [List.getLast?_concat, Option.getD_some] at hx
    rcases List.mem_append.mp ha with ha | ha
    · have hlt : a < y := (List.pairwise_append.mp h).2.2 a ha y List.mem_cons_self
      exact BitVec.lt_trans hlt hx
    · obtain rfl := List.mem_singleton.mp ha
      exact hx

/-- A step that handles no frame and answers none, of a client online before it. -/
theorem inOrder_conn {s : Slot} {c : Conn} {seen : List Reply} (h : InOrder s) (hq : QueueOk c.client)
    (hp : c.client.packRef = s.conn.client.packRef) (hon : c.client.online = true → s.conn.client.online = true) :
    InOrder { s with conn := c, seen := seen } :=
  ⟨hq, h.increasing, hp.trans h.last, h.begun, h.answered, fun ho => h.whole (hon ho)⟩

theorem outcome_packRef {env : Env} {s s' : Conn} {ret : Int} (h : Outcome srv env s ret s') (hr : ret ≠ 0) :
    s'.client.packRef = s.client.packRef := by
  cases h with
  | closed s1 h1 =>
    obtain ⟨got, rs, -, -, rfl⟩ := readFrom_blocking h1
    rfl
  | registerBad s1 s2 n hh hty hr hn =>
    obtain ⟨-, rs, -, rfl⟩ := hh.eq
    obtain ⟨piece, rs', -, -, rfl⟩ := readFromNonBlocking_cases hr
    rfl
  | register s1 s2 r sock hh hty hr hw =>
    obtain ⟨-, rs, -, rfl⟩ := hh.eq
    obtain ⟨piece, rs', -, -, rfl⟩ := readFromNonBlocking_cases hr
    rfl
  | retrasmit s1 r sock hh hty hw =>
    obtain ⟨-, rs, -, rfl⟩ := hh.eq
    rfl
  | ping s1 hh hty =>
    obtain ⟨-, rs, -, rfl⟩ := hh.eq
    rfl
  | hack s1 hh hdef hbad =>
    obtain ⟨-, rs, -, rfl⟩ := hh.eq
    rfl
  | unknown s1 hh hk hty =>
    obtain ⟨-, rs, -, rfl⟩ := hh.eq
    rfl
  | old s2 n hd hold => exact (dataRead_same hd).2.1
  | ahead s2 n hd hnew hover => exact (dataRead_same hd).2.1
  | badLength s2 s3 n hd hfresh hn hs =>
    obtain ⟨ret, sock, -, rfl⟩ := sendDataSizeMsg_done hs
    exact (dataRead_same hd).2.1
  | badCrc s2 s3 n hd hfresh hn hcrc hs =>
    obtain ⟨ret, sock, -, rfl⟩ := sendDataSizeMsg_done hs
    exact (dataRead_same hd).2.1
  | accepted s2 n hd hfresh hi =>
    have hp := (processFrame_done env (traceCrc s2)).packRef
    rw [if_neg hr] at hp
    exact hp.trans (dataRead_same hd).2.1

/-- **A step keeps the order.** -/
theorem step_inOrder {s s' : Slot} {e : Ev} (h : InOrder s) (he : step srv s e = some s') : InOrder s' := by
  cases step_stepped he with
  | accept idx inp recvs sends sent ret rs hph hoff hw =>
    refine ⟨queueOk_of_eq h.queue rfl rfl, List.Pairwise.nil, rfl, nofun, List.Forall₂.nil, fun _ ws hws => ?_⟩
    cases hws
  | handled env c hph hon hm =>
    obtain ⟨-, hnew, hpack, -, -⟩ := message_accepted hm
    rw [h.last] at hnew
    have hans := h.answered
    simp only [finished, hph] at hans
    refine ⟨message_queueOk h.queue (outcome_done (processMessageBuffer_outcome hm)), pairwise_snoc h.increasing hnew, ?_,
      fun _ => by simp, ?_, fun _ => h.whole hon⟩
    · rw [List.getLast?_concat]
      exact hpack
    · simpa [finished] using hans
  | dropped env c ret hph hon hret hm =>
    have ho := processMessageBuffer_outcome hm
    exact inOrder_conn h (message_queueOk h.queue (outcome_done ho)) (outcome_packRef ho hret) fun _ => hon
  | timeout hph hon =>
    refine inOrder_conn h (queueOk_of_eq h.queue rfl rfl) rfl fun hoff => ?_
    cases hoff
  | endPack env c hph hc =>
    obtain ⟨w, hout, hanswer, hsent⟩ := endPacked_answer h.queue hc
    obtain ⟨h0, hpack, hback, -⟩ := endPacked_keeps hc
    obtain ⟨last, hlast⟩ : ∃ last, s.handled.getLast? = some last :=
      Option.ne_none_iff_exists'.mp fun hn => h.begun hph (List.getLast?_eq_none_iff.mp hn)
    have hdrop : c.sock.out.drop s.conn.sock.out.length = [w] := by rw [hout, List.drop_left]
    have hans := h.answered
    simp only [finished, hph] at hans
    refine ⟨queueOk_empty h0, h.increasing, hpack.trans h.last, nofun, ?_, fun hon ws hws w' hw' => ?_⟩
    · simp only [finished, hdrop]
      have hsplit := List.dropLast_append_getLast? last hlast
      have hlast' : s.conn.client.packRef = last := by rw [h.last, hlast]; rfl
      rw [← hsplit]
      exact List.rel_append hans (.cons ⟨w, rfl, hlast' ▸ hanswer⟩ .nil)
    · rcases List.mem_append.mp hws with hws | hws
      · exact h.whole (hback hon) ws hws w' hw'
      · rw [hdrop, List.mem_singleton] at hws
        subst hws
        obtain rfl := List.mem_singleton.mp hw'
        exact hsent hon
  | call env a r c hc =>
    refine inOrder_conn h (call_queueOk h.queue hc) ?_ (call_online hc)
    rw [(doCall_done hc).client]
    rfl

theorem reachable_inOrder {s : Slot} (h : Reachable srv s) : InOrder s := by
  obtain ⟨recvMem, sendMem, fs, pool, es, hrun⟩ := h
  refine Runs.run_inv (step srv) (fun _ _ _ hs he => step_inOrder hs he) ?_ hrun
  refine ⟨queueOk_empty rfl, List.Pairwise.nil, rfl, nofun, List.Forall₂.nil, fun _ ws hws => ?_⟩
  cases hws

variable (srv)

/-- **In every state a slot reaches**: the frames handled are in order and each is answered
    once, by one frame, and every message it can take next gets its verdict. -/
theorem at_most_once {s : Slot} (h : Reachable srv s) :
    InOrder s ∧
    (s.conn.client.online = true → ∀ ws ∈ s.answers, ∃ w, ws = [w] ∧ FrameOnWire w) ∧
    ∀ env ret c, processMessageBuffer srv env s.conn = some (ret, c) → Verdict srv s.conn ret c := by
  have hord := reachable_inOrder h
  refine ⟨hord, fun hon ws hws => ?_, fun _ _ _ hm => message_verdict hm⟩
  obtain ⟨_, -, w, rfl, hone⟩ := hord.answered.mem hws
  exact ⟨w, rfl, hone.onWire (hord.whole hon _ hws w (List.mem_singleton.mpr rfl))⟩

/-- Two data frames, the first answered by a frame with a message, the second by a CONFIRM. -/
theorem at_most_once_two : ∃ s, s.handled = [1, 2] ∧
    s.answers.map (fun ws => ws.map Write.bytes) =
      [[[1, 0, 0xff, 0xff, 1, 0, 0, 0, 7, 0, 0, 0, 211, 51, 1, 0, 1, 0, 65]], [[0xf6, 0xff, 0xff, 0xff, 2, 0, 0, 0, 0, 0, 0, 0]]] ∧
    InOrder s ∧
    (∀ ws ∈ s.answers, ∃ w, ws = [w] ∧ FrameOnWire w) ∧
    ∀ env ret c, processMessageBuffer defaultServer env s.conn = some (ret, c) → Verdict defaultServer s.conn ret c := by
  obtain ⟨s, hrun, hh, ha, hon⟩ : ∃ s, Runs.run (step defaultServer) emptySlot
      [.accept 0 [1, 0, 0, 0, 1, 0, 0, 0, 4, 0, 0, 0, 0, 0, 0, 0, 1, 0, 0, 0, 2, 0, 0, 0, 4, 0, 0, 0, 0, 0, 0, 0]
        [some 12, some 4, some 12, some 4] [some 12, some 19, some 12], .message quietEnv, .call quietEnv (.sendData [65]),
        .endPack quietEnv, .message quietEnv, .endPack quietEnv] = some s ∧ s.handled = [1, 2] ∧
      s.answers.map (fun ws => ws.map Write.bytes) =
        [[[1, 0, 0xff, 0xff, 1, 0, 0, 0, 7, 0, 0, 0, 211, 51, 1, 0, 1, 0, 65]], [[0xf6, 0xff, 0xff, 0xff, 2, 0, 0, 0, 0, 0, 0, 0]]] ∧
      s.conn.client.online = true :=
    ⟨_, rfl, by decide +kernel, by decide +kernel, by decide +kernel⟩
  obtain ⟨hord, hframes, hverdict⟩ := at_most_once defaultServer ⟨_, _, _, _, _, hrun⟩
  exact ⟨s, hh, ha, hord, hframes hon, hverdict⟩

end StarServer.Socket

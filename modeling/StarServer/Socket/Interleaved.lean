/-
  StarServer.Socket.Interleaved — the send queue while other threads queue into it and the
  client's thread is inside `EndPackSendData`.

  `EndPackSendData` tests `sendCount` and `fileDataSending` without `m_Mutex`; what it does
  then, packing, sending and emptying the queue under the mutex or a CONFIRM, comes later
  (`endPackSendData_halves`: with nothing in between the two are `EndPackSendData`). Every
  call of the library is one step, at any time, from any thread.

  `accepted` are the blocks `STSV_SendData` took, `frames` what the locked half gave to
  `WriteTo`; `frameBlocks` cuts a frame by the size table it carries itself.

  Proved:
    * `packFrame_blocks`: a frame carries the queue it was packed from, with or without a
      file behind it;
    * `step_noneLost`: no step of any thread loses, repeats or reorders a block;
    * `blocks_accounted`: in every run, the blocks of the frames and then those still queued
      are the blocks accepted.
-/

import StarServer.Socket.AtMostOnce
import StarServer.Socket.RoundTrip
import StarServer.Socket.Writes

namespace StarServer.Socket

open StarServer.Memory

/-! ## The two halves of EndPackSendData -/

/-- The test before the mutex. -/
def endPackTest (c : Client) : Bool := c.sendCount > 0 || c.fileDataSending

/-- The locked half: pack, send, empty the queue. -/
def endPackFrame (srv : Server) (env : Env) (s : Conn) : Option Conn :=
  let c := packFrame env s.fs s.client
  match writeTo srv c.sendBuffer c.sendDataSize s.sock with
  | none => none
  | some (ret, sock) =>
    some { s with
      sock := sock
      client := { c with online := c.online && ret != 0, recvCount := 0, sendCount := 0, curPacketNo := 0 } }

/-- The other half, without the mutex. -/
def endPackConfirm (srv : Server) (s : Conn) : Option Conn :=
  match sendConfirmMessage srv s s.client.packRef with
  | none => none
  | some s' =>
    if srv.nServerType = .oneTime then some { s' with client := { s'.client with sendDone := true } } else some s'

theorem endPackSendData_halves (srv : Server) (env : Env) (s : Conn) : endPackSendData srv env s =
    if endPackTest s.client = true then endPackFrame srv env s else endPackConfirm srv s := by
  unfold endPackSendData endPackTest
  by_cases h : s.client.sendCount > 0 ∨ s.client.fileDataSending = true
  · rw [if_pos h, if_pos (by simpa using h)]
    rfl
  · rw [if_neg h, if_neg (by simpa using h)]
    rfl

/-! ## The steps -/

/-- The slot, its thread perhaps between the two halves. -/
structure Sending where
  conn : Conn
  /-- What the test gave, until the other half has run. -/
  tested : Option Bool
  accepted : List (List Byte)
  frames : List Write

inductive SendEv where
  | call (env : Env) (a : Call)
  | message (env : Env)
  | test
  | rest (env : Env)

/-- The blocks a call queues: a message's pieces, as many as there is room for. -/
def acceptedBlocks (c : Client) : Call → List (List Byte)
  | .sendData buffer => (pieces buffer).take (clientDefaultMaxBlock - 2 - c.sendCount)
  | _ => []

variable (srv : Server)

def sendStep (s : Sending) : SendEv → Option Sending
  | .call env a =>
    (doCall srv env s.conn a).map fun (_, c) =>
      { s with conn := c, accepted := s.accepted ++ acceptedBlocks s.conn.client a }
  | .message env =>
    match s.tested with
    | none => (processMessageBuffer srv env s.conn).map fun (_, c) => { s with conn := c }
    | some _ => none
  | .test =>
    match s.tested with
    | none => some { s with tested := some (endPackTest s.conn.client) }
    | some _ => none
  | .rest env =>
    match s.tested with
    | none => none
    | some true =>
      (endPackFrame srv env s.conn).map fun c =>
        { s with
          conn := c, tested := none
          frames := s.frames ++ c.sock.out.drop s.conn.sock.out.length }
    | some false => (endPackConfirm srv s.conn).map fun c => { s with conn := c, tested := none }

/-- A connection before its first send. -/
def startSending (c : Conn) : Sending := ⟨c, none, [], []⟩

/-! ## A frame's blocks -/

/-- The blocks at `start`, their lengths as a size table has them. -/
def cutBlocks (b : Buf) : Nat → List (BitVec 16) → List (List Byte)
  | _, [] => []
  | start, e :: es => b.slice start (entryLen e) :: cutBlocks b (start + entryLen e) es

/-- The blocks a data frame carries. -/
def frameBlocks (b : Buf) : List (List Byte) :=
  cutBlocks b (packDataLen + 2 * (numData b).toNat) (sizeTable b (numData b).toNat)

/-- Where a data frame's blocks end. -/
def blocksEnd (b : Buf) : Nat := packDataLen + 2 * (numData b).toNat + (frameBlocks b).flatten.length

theorem cutBlocks_of_slice {b : Buf} {ls : List (List Byte)} {es : List (BitVec 16)} {start : Nat}
    (hlen : es.map entryLen = ls.map List.length) (hb : b.slice start ls.flatten.length = ls.flatten) :
    cutBlocks b start es = ls := by
  induction ls generalizing es start with
  | nil =>
    obtain rfl := List.map_eq_nil_iff.mp hlen
    rfl
  | cons l ls ih =>
    obtain ⟨e, es', rfl, he, hes⟩ := List.map_eq_cons_iff.mp hlen
    rw [List.flatten_cons, List.length_append, Buf.slice_add] at hb
    obtain ⟨hl, hrest⟩ := List.append_inj hb (by simp)
    simp only [cutBlocks]
    rw [he, hl, ih hes hrest]

/-- A buffer with the queue's table and blocks at 16 and its count at 14. -/
theorem frameBlocks_of_body {c : Client} (h : QueueOk c) {b : Buf} (hnum : b.u16 14 = BitVec.ofNat 16 c.sendCount)
    (hbody : b.slice 16 (packBody c).length = packBody c) :
    frameBlocks b = (queue c).map (·.1) ∧ blocksEnd b = 16 + (packBody c).length := by
  have hn : (numData b).toNat = c.sendCount := by rw [numData_of_count h hnum, Int.toNat_natCast]
  have hsplit : (packBody c).length = 2 * c.sendCount + (payload (queue c)).length := by simp [packBody]
  have hblocks : frameBlocks b = (queue c).map (·.1) := by
    unfold frameBlocks
    rw [hn, sizeTable_of_body hbody]
    have hlens : (entries (0, 0) (queue c)).map entryLen = (queue c).map (·.1.length) :=
      @entries_lengths (queue c) (queue_sizes h) 0 0
    exact cutBlocks_of_slice (hlens.trans (by simp)) (payload_of_body hbody)
  refine ⟨hblocks, ?_⟩
  unfold blocksEnd
  rw [hblocks, hn, hsplit]
  simp only [packDataLen, payload]
  omega

/-- The frame is the packed queue from its count on, up to the end of the blocks. -/
theorem packFrame_slice {env : Env} {fs : FS} {c : Client} (hq : QueueOk c) {a n : Nat} (ha : 14 ≤ a)
    (hn : a + n ≤ 16 + (packBody c).length) :
    (packFrame env fs c).sendBuffer.slice a n = (packDataWithPacket c).sendBuffer.slice a n := by
  by_cases hfile : NoFile env fs c
  · rw [packFrame_noFile hfile, sealFrame_slice ha]
  · obtain ⟨file, hs, hopen⟩ := file_of_not_noFile hfile
    obtain ⟨h, hp, hframe⟩ := packFrame_file hq hs hopen
    have h12 : dataSizeLen = 12 := rfl
    have hsum := sumSize_eq c
    rw [hframe, sealFrame_slice ha, hp.out a n (by omega), typedFrame_slice c (by omega)]

/-- **A frame carries the queue it was packed from**, also in front of a file part. -/
theorem packFrame_blocks {env : Env} {fs : FS} {c : Client} (hq : QueueOk c) :
    frameBlocks (packFrame env fs c).sendBuffer = (queue c).map (·.1) ∧
      blocksEnd (packFrame env fs c).sendBuffer = 16 + (packBody c).length := by
  refine frameBlocks_of_body hq ?_ ?_
  · rw [← (pack_fields hq).numData]
    exact Buf.u16_congr (packFrame_slice hq (Nat.le_refl _) (by omega))
  · rw [packFrame_slice hq (by omega) (by omega), pack_body hq]

/-- As long as its size is an `int`'s, what is sent of a frame reaches past its blocks. -/
theorem packFrame_covers {env : Env} {fs : FS} {c : Client} (hq : QueueOk c) (hsmall : FrameSmall env fs c) :
    blocksEnd (packFrame env fs c).sendBuffer ≤ (packFrame env fs c).sendDataSize := by
  have h12 : dataSizeLen = 12 := rfl
  have hsum := sumSize_eq c
  rw [packFrame_sendDataSize hq hsmall, (packFrame_blocks hq).2]
  by_cases hfile : NoFile env fs c
  · have hle := sumSize_le hq
    rw [packFrame_noFile hfile, sealFrame_u32_8, (pack_fields hq).sizeAll, BitVec.toNat_ofNat]
    omega
  · obtain ⟨file, hs, hopen⟩ := file_of_not_noFile hfile
    obtain ⟨hsize, -⟩ := packFrame_fileSize hq hsmall hs hopen
    omega

/-! ## The queue under the other steps -/

theorem queue_of_eq {c d : Client} (hb : ∀ i < c.sendCount, d.sendBuffer.slice (msgSlot i) (c.sendBufferMSGSize i) =
    c.sendBuffer.slice (msgSlot i) (c.sendBufferMSGSize i)) (hn : d.sendCount = c.sendCount)
    (hs : d.sendBufferMSGSize = c.sendBufferMSGSize) : (queue d).map (·.1) = (queue c).map (·.1) := by
  unfold queue
  rw [hn, List.map_map, List.map_map]
  apply List.map_congr_left
  intro i hi
  simp only [Function.comp_apply, block]
  rw [hs]
  exact hb i (List.mem_range.mp hi)

variable {srv}

/-- A REGISTER reply is written over the header's first bytes, below the blocks. -/
theorem message_queue {env : Env} {s s' : Conn} {ret : Int} (h : processMessageBuffer srv env s = some (ret, s')) :
    (queue s'.client).map (·.1) = (queue s.client).map (·.1) := by
  have ho := processMessageBuffer_outcome h
  have hdone := (outcome_done ho).client
  have hn : s'.client.sendCount = s.client.sendCount := by rw [hdone]; rfl
  have hs : s'.client.sendBufferMSGSize = s.client.sendBufferMSGSize := by rw [hdone]; rfl
  refine queue_of_eq (fun i _ => ?_) hn hs
  cases outcome_wrote ho with
  | quiet _ _ _ hsame => rw [hsame.sendBuffer]
  | asked packNo r _ _ hsame => rw [hsame.sendBuffer]
  | resent r _ _ hsame => rw [hsame.sendBuffer]
  | registered v r _ _ hbuf _ =>
    rw [hbuf]
    unfold replyOver
    rw [Buf.slice_put16_out (by rw [msgSlot_eq]; omega), Buf.slice_put16_out (by rw [msgSlot_eq]; omega)]

theorem call_queue {env : Env} {s s' : Conn} {a : Call} {r : Reply} (hq : QueueOk s.client)
    (h : doCall srv env s a = some (r, s')) :
    (queue s'.client).map (·.1) = (queue s.client).map (·.1) ++ acceptedBlocks s.client a := by
  by_cases ha : ∃ l, a = .sendData l
  · obtain ⟨l, rfl⟩ := ha
    cases h
    show (queue (stsvSendData s.client l)).map (·.1) = _
    rw [queue_sendData hq, List.map_append, List.map_map]
    congr 1
    exact List.map_id' _
  · have hnone : acceptedBlocks s.client a = [] := by
      cases a with
      | sendData l => exact absurd ⟨l, rfl⟩ ha
      | _ => rfl
    obtain ⟨hn, hs⟩ := call_counts ha h
    rw [hnone, List.append_nil]
    refine queue_of_eq (fun i _ => ?_) hn hs
    cases doCall_wrote h with
    | queued l _ => exact absurd ⟨l, rfl⟩ ha
    | quiet _ _ hsame => rw [hsame.sendBuffer]
    | notice _ type ret _ hsame => rw [hsame.sendBuffer]

/-- No message brings a client back online. -/
theorem message_online {env : Env} {s s' : Conn} {ret : Int} (h : processMessageBuffer srv env s = some (ret, s'))
    (hon : s'.client.online = true) : s.client.online = true := by
  cases processMessageBuffer_outcome h with
  | closed s1 h1 =>
    obtain ⟨got, rs, -, -, rfl⟩ := readFrom_blocking h1
    cases hon
  | registerBad s1 s2 n hh hty hr hn => cases hon
  | register s1 s2 r sock hh hty hr hw =>
    obtain ⟨-, rs, -, rfl⟩ := hh.eq
    obtain ⟨piece, rs', -, -, rfl⟩ := readFromNonBlocking_cases hr
    exact (Bool.and_eq_true_iff.mp hon).1
  | retrasmit s1 r sock hh hty hw =>
    obtain ⟨-, rs, -, rfl⟩ := hh.eq
    exact (Bool.and_eq_true_iff.mp hon).1
  | ping s1 hh hty =>
    obtain ⟨-, rs, -, rfl⟩ := hh.eq
    exact hon
  | hack s1 hh hdef hbad => cases hon
  | unknown s1 hh hk hty =>
    obtain ⟨-, rs, -, rfl⟩ := hh.eq
    exact hon
  | old s2 n hd hold =>
    obtain ⟨-, -, got, rs, -, -, rfl⟩ := hd.eq
    exact hon
  | ahead s2 n hd hnew hover => cases hon
  | badLength s2 s3 n hd hfresh hn hs =>
    obtain ⟨ret, sock, -, rfl⟩ := sendDataSizeMsg_done hs
    obtain ⟨-, -, got, rs, -, -, rfl⟩ := hd.eq
    exact (Bool.and_eq_true_iff.mp hon).1
  | badCrc s2 s3 n hd hfresh hn hcrc hs =>
    obtain ⟨ret, sock, -, rfl⟩ := sendDataSizeMsg_done hs
    obtain ⟨-, -, got, rs, -, -, rfl⟩ := hd.eq
    exact (Bool.and_eq_true_iff.mp hon).1
  | accepted s2 n hd hfresh hi =>
    obtain ⟨hclient, -, -, -, -⟩ := processFrame_done env (traceCrc s2)
    generalize (processFrame env (traceCrc s2)).2 = s3 at hclient hon
    obtain ⟨-, -, got, rs, -, -, rfl⟩ := hd.eq
    unfold OnlyReceived at hclient
    rw [hclient] at hon
    exact hon

theorem endPackConfirm_keeps {s s' : Conn} (h : endPackConfirm srv s = some s') :
    s'.client.sendBuffer = s.client.sendBuffer ∧ s'.client.sendCount = s.client.sendCount ∧
      s'.client.sendBufferMSGSize = s.client.sendBufferMSGSize ∧
      (s'.client.online = true → s.client.online = true) := by
  unfold endPackConfirm at h
  split at h
  · cases h
  · rename_i s1 hs
    obtain ⟨ret, sock, -, rfl⟩ := sendDataSizeMsg_done hs
    split at h
    · cases h
      exact ⟨rfl, rfl, rfl, fun hon => (Bool.and_eq_true_iff.mp hon).1⟩
    · cases h
      exact ⟨rfl, rfl, rfl, fun hon => (Bool.and_eq_true_iff.mp hon).1⟩

/-- The locked half hands one frame to `WriteTo` and leaves the queue empty. -/
theorem endPackFrame_wrote {env : Env} {s s' : Conn} (h : endPackFrame srv env s = some s') :
    ∃ sent, s'.sock.out.drop s.sock.out.length =
        [⟨(packFrame env s.fs s.client).sendBuffer, (packFrame env s.fs s.client).sendDataSize, sent⟩] ∧
      s'.client.sendCount = 0 ∧
      (s'.client.online = true → s.client.online = true ∧ sent = (packFrame env s.fs s.client).sendDataSize) := by
  unfold endPackFrame at h
  simp only at h
  split at h
  · cases h
  · rename_i ret sock hw
    cases h
    obtain ⟨sent, hout, hsent⟩ := writeTo_whole (packFrame env s.fs s.client).online hw
    refine ⟨sent, ?_, rfl, fun hon => ⟨?_, hsent hon⟩⟩
    · show sock.out.drop s.sock.out.length = _
      rw [hout, List.drop_left]
    · rw [← packFrame_online env s.fs s.client]
      exact (Bool.and_eq_true_iff.mp hon).1

/-! ## The invariant -/

/-- Every block accepted is in a frame or in the queue, once, in order. -/
structure NoneLost (s : Sending) : Prop where
  queueOk : QueueOk s.conn.client
  blocks : (s.frames.flatMap fun w => frameBlocks w.msg) ++ (queue s.conn.client).map (·.1) = s.accepted

/-- While the client is online, the bytes sent of each frame reach past its blocks. -/
def BlocksSent (s : Sending) : Prop := s.conn.client.online = true → ∀ w ∈ s.frames, blocksEnd w.msg ≤ w.sent

/-- A frame being packed keeps its size an `int`'s. -/
def SmallRest (s : Sending) : SendEv → Prop
  | .rest env => FrameSmall env s.conn.fs s.conn.client
  | _ => True

theorem step_noneLost {s s' : Sending} {e : SendEv} (hi : NoneLost s) (h : sendStep srv s e = some s') :
    NoneLost s' := by
  obtain ⟨hq, hb⟩ := hi
  cases e with
  | call env a =>
    obtain ⟨⟨r, c⟩, hc, rfl⟩ := Option.map_eq_some_iff.mp h
    refine ⟨call_queueOk hq hc, ?_⟩
    rw [call_queue hq hc, ← hb, List.append_assoc]
  | message env =>
    simp only [sendStep] at h
    split at h
    · obtain ⟨⟨r, c⟩, hc, rfl⟩ := Option.map_eq_some_iff.mp h
      refine ⟨message_queueOk hq (outcome_done (processMessageBuffer_outcome hc)), ?_⟩
      rw [message_queue hc]
      exact hb
    · cases h
  | test =>
    simp only [sendStep] at h
    split at h
    · cases h
      exact ⟨hq, hb⟩
    · cases h
  | rest env =>
    simp only [sendStep] at h
    split at h
    · cases h
    · obtain ⟨c, hc, rfl⟩ := Option.map_eq_some_iff.mp h
      obtain ⟨sent, hout, h0, -⟩ := endPackFrame_wrote hc
      have hempty : queue c.client = [] := List.eq_nil_of_length_eq_zero (by rw [length_queue, h0])
      refine ⟨queueOk_empty h0, ?_⟩
      rw [hout, hempty, List.flatMap_append, ← hb]
      simp [(packFrame_blocks hq).1]
    · obtain ⟨c, hc, rfl⟩ := Option.map_eq_some_iff.mp h
      obtain ⟨hbuf, hn, hs, -⟩ := endPackConfirm_keeps hc
      refine ⟨queueOk_of_eq hq hn hs, ?_⟩
      rw [queue_of_eq (fun i _ => by rw [hbuf]) hn hs]
      exact hb

theorem step_blocksSent {s s' : Sending} {e : SendEv} (hi : NoneLost s) (hp : BlocksSent s) (hok : SmallRest s e)
    (h : sendStep srv s e = some s') : BlocksSent s' := by
  cases e with
  | call env a =>
    obtain ⟨⟨r, c⟩, hc, rfl⟩ := Option.map_eq_some_iff.mp h
    exact fun hon => hp (call_online hc hon)
  | message env =>
    simp only [sendStep] at h
    split at h
    · obtain ⟨⟨r, c⟩, hc, rfl⟩ := Option.map_eq_some_iff.mp h
      exact fun hon => hp (message_online hc hon)
    · cases h
  | test =>
    simp only [sendStep] at h
    split at h
    · cases h
      exact hp
    · cases h
  | rest env =>
    simp only [sendStep] at h
    split at h
    · cases h
    · obtain ⟨c, hc, rfl⟩ := Option.map_eq_some_iff.mp h
      obtain ⟨sent, hout, -, hsent⟩ := endPackFrame_wrote hc
      intro hon w hw
      obtain ⟨hon', hall⟩ := hsent hon
      rcases List.mem_append.mp hw with hw | hw
      · exact hp hon' w hw
      · rw [hout, List.mem_singleton] at hw
        subst hw
        rw [hall]
        exact packFrame_covers hi.queueOk hok
    · obtain ⟨c, hc, rfl⟩ := Option.map_eq_some_iff.mp h
      exact fun hon => hp ((endPackConfirm_keeps hc).2.2.2 hon)

theorem startSending_noneLost {c : Conn} (h0 : c.client.sendCount = 0) : NoneLost (startSending c) := by
  have hempty : queue c.client = [] := List.eq_nil_of_length_eq_zero (by rw [length_queue, h0])
  refine ⟨queueOk_empty h0, ?_⟩
  show [] ++ (queue c.client).map (·.1) = []
  rw [hempty]
  rfl

variable (srv)

/-- **No block is lost, repeated or reordered**, whatever other threads queue and whenever:
    the blocks of the frames, then those still queued, are the blocks accepted. As long as
    the client is online, its frames' blocks have been sent whole. -/
theorem blocks_accounted {c : Conn} {es : List SendEv} {s : Sending} (h0 : c.client.sendCount = 0)
    (h : Runs.run (sendStep srv) (startSending c) es = some s) :
    (s.frames.flatMap fun w => frameBlocks w.msg) ++ (queue s.conn.client).map (·.1) = s.accepted ∧
      (Runs.RunOk (sendStep srv) SmallRest (startSending c) es → BlocksSent s) := by
  have hstart := startSending_noneLost h0
  refine ⟨(Runs.run_inv _ (fun _ _ _ hi he => step_noneLost hi he) hstart h).blocks, fun hok => ?_⟩
  refine (@Runs.run_inv_ok _ _ (sendStep srv) (fun s => NoneLost s ∧ BlocksSent s) SmallRest ?_ _ _ es
    ⟨hstart, fun _ w hw => absurd hw List.not_mem_nil⟩ hok h).2
  intro s e s' hi hok he
  exact ⟨step_noneLost hi.1 he, step_blocksSent hi.1 hi.2 hok he⟩

/-- A block queued between the halves goes out with the frame; one queued after a test that
    found nothing waits behind the CONFIRM. -/
theorem blocks_accounted_between :
    let es := [.call quietEnv (.sendData [1, 2, 3]), .test, .call quietEnv (.sendData [4, 5]), .rest quietEnv, .test,
      .call quietEnv (.sendData [6]), .rest quietEnv]
    ∃ s, Runs.run (sendStep defaultServer) (startSending (newConn [] [] [some 100, some 100])) es = some s ∧
      s.accepted = [[1, 2, 3], [4, 5], [6]] ∧ s.frames.length = 1 ∧ (queue s.conn.client).length = 1 ∧
      (s.frames.flatMap fun w => frameBlocks w.msg) ++ (queue s.conn.client).map (·.1) = s.accepted := by
  intro es
  obtain ⟨s, hrun, hs⟩ : ∃ s, Runs.run (sendStep defaultServer) (startSending (newConn [] [] [some 100, some 100])) es =
      some s ∧ (s.accepted = [[1, 2, 3], [4, 5], [6]] ∧ s.frames.length = 1 ∧ (queue s.conn.client).length = 1) :=
    ⟨_, rfl, by decide +kernel⟩
  have h0 : (newConn [] [] [some 100, some 100]).client.sendCount = 0 := rfl
  exact ⟨s, hrun, hs.1, hs.2.1, hs.2.2, (blocks_accounted defaultServer h0 hrun).1⟩

end StarServer.Socket

/-
  StarServer.Socket.SlotReuse — what a new connection can see of the earlier ones on its
  slot.

  `AcceptConnection` and the thread's start reset ten fields and leave the others. What is
  left of the queue, of a received frame and of an upload is seen by the next connection;
  the rest is not, as long as each frame and call stays inside what this connection has
  sent (`SessionOk`).

  Proved:
    * `slot_isolated`: from any two slots with nothing left that shows (`LeftClean`), every
      run of one new connection has the same run in the other slot, with the same bytes to
      the client, the same replies to every call and the same frames handled;
    * `slot_leaks`: a message queued for the connection before, sent to the new client.
-/

import StarServer.Socket.AlikeMessage
import StarServer.Socket.Retransmit

namespace StarServer.Socket

open StarServer.Memory

/-! ## Calls -/

theorem SameMessages.congr {c c' d d' : Client} (h : SameMessages c d) (hc : c'.recvCount = c.recvCount)
    (hd : d'.recvCount = d.recvCount) (hl : ∀ k, stsvGetData c' k = stsvGetData c k)
    (hr : ∀ k, stsvGetData d' k = stsvGetData d k) : SameMessages c' d' := by
  refine ⟨by rw [hc, hd, h.recvCount], fun k h0 hk => ?_⟩
  rw [hl, hr]
  exact h.data k h0 (hc ▸ hk)

/-- A call that writes the sending side only. -/
theorem Alike.sent {u : Uploads} {s t : Conn} {c d : Client} (h : Alike u s t) (hc : OnlySent s.client c)
    (hd : OnlySent t.client d) (hsend : SameSending c d) : Alike u { s with client := c } { t with client := d } := by
  obtain ⟨h1, h2, h3, -, h5, h6, h7, h8⟩ := h
  have hbig : c.bigDataBuffer = d.bigDataBuffer := by
    rw [hc.field (·.bigDataBuffer) fun _ _ => rfl, hd.field (·.bigDataBuffer) fun _ _ => rfl]
    exact h3
  refine ⟨by rw [hc.online, hd.online, h1], by rw [hc.packRef, hd.packRef, h2], hbig, hsend, ?_, ?_, h7, h8⟩
  · refine h5.congr ?_ ?_ (fun k => ?_) fun k => ?_
    · exact hc.field (·.recvCount) fun _ _ => rfl
    · exact hd.field (·.recvCount) fun _ _ => rfl
    · exact hc.field (stsvGetData · k) fun _ _ => rfl
    · exact hd.field (stsvGetData · k) fun _ _ => rfl
  · unfold OnlySent at hc hd
    refine h6.congr ?_ ?_ ?_ ?_
    · rw [hc]
      rfl
    · rw [hd]
      rfl
    · rw [hc]
      rfl
    · rw [hd]
      rfl

/-- The same reply, and the slots still alike. -/
structure ReplyAlike (u : Uploads) (x y : Reply × Conn) : Prop where
  reply : x.1 = y.1
  alike : Alike u x.2 y.2

theorem sendNotice_alike {srv : Server} {env : Env} {u : Uploads} {s t : Conn} (h : Alike u s t) (type : BitVec 16) :
    Option.Rel (Alike u) (sendNotice srv env type s) (sendNotice srv env type t) := by
  have hw := @writeTo_alike srv (dataSizeMsg type stsockidServer env.junk 0) _ dataSizeLen _ _ h.sock rfl
  unfold sendNotice
  generalize writeTo srv (dataSizeMsg type stsockidServer env.junk 0) dataSizeLen s.sock = x at hw ⊢
  generalize writeTo srv (dataSizeMsg type stsockidServer env.junk 0) dataSizeLen t.sock = y at hw ⊢
  cases hw with
  | none => exact .none
  | @some x y hxy =>
    obtain ⟨ret, k⟩ := x
    obtain ⟨ret', k'⟩ := y
    obtain ⟨-, hk⟩ : ret = ret' ∧ SameSock k k' := hxy
    obtain ⟨h1, h2, h3, h4, h5, h6, -, h8⟩ := h
    exact .some ⟨rfl, h2, h3, h4.congr rfl rfl, ⟨h5.recvCount, h5.data⟩, h6.congr rfl rfl rfl rfl, hk, h8⟩

/-! ## The big-data pool -/

theorem getBigDataBufferIdx_use (pool : List BigDataBlock) :
    getBigDataBufferIdx pool = (pool.map (·.use)).findIdx? (!·) := by
  rw [List.findIdx?_map]
  rfl

theorem setUse_use (pool : List BigDataBlock) (i : Nat) (use : Bool) :
    (setUse pool i use).map (·.use) = (pool.map (·.use)).modify i fun _ => use := by
  unfold setUse
  induction pool generalizing i with
  | nil => simp
  | cons p pool ih =>
    cases i with
    | zero => rfl
    | succ i => simpa using ih i

theorem storeBlock_use (pool : List BigDataBlock) (i : Nat) (l : List Byte) :
    (pool.modify i fun p => { p with buffer := p.buffer.store 0 l }).map (·.use) = pool.map (·.use) := by
  induction pool generalizing i with
  | nil => simp
  | cons p pool ih =>
    cases i with
    | zero => rfl
    | succ i => simpa using ih i

/-- A block filled with the whole size gives back what was put into it. -/
theorem storeBlock_slice {pool : List BigDataBlock} {i : Nat} (hi : i < pool.length) (l : List Byte) :
    ((pool.modify i fun p => { p with buffer := p.buffer.store 0 l }).map fun p => p.buffer.slice 0 l.length).getD i [] = l := by
  induction pool generalizing i with
  | nil => exact absurd hi (Nat.not_lt_zero i)
  | cons p pool ih =>
    cases i with
    | zero => exact Buf.slice_store p.buffer 0 l
    | succ i => simpa using ih (Nat.lt_of_succ_lt_succ hi)

/-- The temp file holds what was announced. -/
def BigWhole (env : Env) (s : Conn) : Prop :=
  s.client.bigDataReady = true → ∀ file, fopenRead env s.fs (bigDataPath s.client.idx.toNat) = some file →
    s.client.bigDataReadSize.toNat ≤ file.length

theorem getBigData_alike {env : Env} {u : Uploads} {s t : Conn} (h : Alike u s t) (hw : BigWhole env s) :
    ReplyAlike u (stsvGetBigData env s) (stsvGetBigData env t) := by
  have hidx := h.uploads.idx
  have hready := h.uploads.bigDataReady
  have hslot : getBigDataBufferIdx s.pool = getBigDataBufferIdx t.pool := by
    rw [getBigDataBufferIdx_use, getBigDataBufferIdx_use, h.use]
  unfold stsvGetBigData
  rw [← hready, ← hslot]
  by_cases hr : s.client.bigDataReady = false
  · rw [if_pos hr, if_pos hr]
    exact ⟨rfl, h⟩
  · rw [if_neg hr, if_neg hr]
    have hr : s.client.bigDataReady = true := Bool.not_eq_false _ ▸ hr
    obtain ⟨hsize, hfile⟩ := h.uploads.ready hr
    cases hi : getBigDataBufferIdx s.pool with
    | none => exact ⟨rfl, h⟩
    | some i =>
      have hlen : i < s.pool.length := by
        unfold getBigDataBufferIdx at hi
        exact (List.findIdx?_eq_some_iff_getElem.mp hi).1
      have hlen' : i < t.pool.length := by
        have := congrArg List.length h.use
        rw [List.length_map, List.length_map] at this
        omega
      have hopen : fopenRead env s.fs (bigDataPath s.client.idx.toNat) = fopenRead env t.fs (bigDataPath t.client.idx.toNat) := by
        unfold fopenRead
        rw [← hidx, hfile]
      have hwhole := hw hr
      obtain ⟨h1, h2, -, h4, h5, h6, h7, h8⟩ := h
      have huse : (setUse s.pool i true).map (·.use) = (setUse t.pool i true).map (·.use) := by
        rw [setUse_use, setUse_use, h8]
      simp only [← hopen]
      cases hread : fopenRead env s.fs (bigDataPath s.client.idx.toNat) with
      | none =>
        exact ⟨rfl, h1, h2, rfl, h4.congr rfl rfl, ⟨h5.recvCount, h5.data⟩, h6.congr rfl rfl rfl rfl, h7, huse⟩
      | some file =>
        have hle := hwhole file hread
        have htake (size : BitVec 32) (he : s.client.bigDataReadSize = size) :
            (freadAt file 0 size.toNat).length = size.toNat := by
          unfold freadAt
          rw [List.length_take, List.drop_zero, ← he]
          omega
        have hset (pool : List BigDataBlock) : (setUse pool i true).length = pool.length := by
          unfold setUse
          exact List.length_modify _ _ _
        have hb := @storeBlock_slice (setUse s.pool i true) i (by rw [hset]; exact hlen)
          (freadAt file 0 s.client.bigDataReadSize.toNat)
        have hb' := @storeBlock_slice (setUse t.pool i true) i (by rw [hset]; exact hlen')
          (freadAt file 0 t.client.bigDataReadSize.toNat)
        rw [htake _ rfl] at hb
        rw [htake _ hsize] at hb'
        refine ⟨congrArg Reply.data (hb.trans ((congrArg (fun n => freadAt file 0 n.toNat) hsize).trans hb'.symm)), h1, h2, rfl, h4.congr rfl rfl, ⟨h5.recvCount, h5.data⟩,
          h6.congr rfl rfl rfl rfl, h7, ?_⟩
        exact (storeBlock_use _ _ _).trans (huse.trans (storeBlock_use _ _ _).symm)

theorem freeBigData_alike {u : Uploads} {s t : Conn} (h : Alike u s t) : Alike u (stsvFreeBigData s) (stsvFreeBigData t) := by
  obtain ⟨h1, h2, h3, h4, h5, h6, h7, h8⟩ := h
  obtain ⟨g1, g2, g3, g4, g5, g6, g7, g8⟩ := h6
  unfold stsvFreeBigData
  rw [← h3]
  refine ⟨h1, h2, rfl, h4.congr rfl rfl, ⟨h5.recvCount, h5.data⟩,
    ⟨g1, rfl, g3, fun hr => absurd hr Bool.false_ne_true, g5, g6, g7, g8⟩, h7, ?_⟩
  cases s.client.bigDataBuffer with
  | none => exact h8
  | some i =>
    show (setUse s.pool i false).map (·.use) = (setUse t.pool i false).map (·.use)
    rw [setUse_use, setUse_use, h8]

/-- The calls that look only at what this connection has received, and the names `sprintf`
    keeps within the fields behind `fileSendName`. -/
def CallOk (u : Uploads) (env : Env) (s : Conn) : Call → Prop
  | .sendDBFile fileName => (dbFilePath fileName).length < (sendFields s.client).length
  | .getData dataIdx => 0 ≤ dataIdx ∧ dataIdx < s.client.recvCount
  | .getBigData => BigWhole env s
  | .getFileDataName => u.named = true
  | _ => True

/-- **The same call.** -/
theorem call_alike {srv : Server} {env : Env} {u : Uploads} {s t : Conn} {a : Call} (h : Alike u s t)
    (hok : CallOk u env s a) : Option.Rel (ReplyAlike u) (doCall srv env s a) (doCall srv env t a) := by
  cases a with
  | sendData l =>
    exact .some ⟨rfl, h.sent (stsvSendData_only _ l) (stsvSendData_only _ l) (sendData_alike h.sending l)⟩
  | sendDBFile name =>
    exact .some ⟨rfl, h.sent (stsvSendDBFile_only _ _ _ name) (stsvSendDBFile_only _ _ _ name)
      (sendDBFile_alike h.sending (h.uploads.dbFiles name))⟩
  | sendDuplicateLogin =>
    have hn := @sendNotice_alike srv env u s t h StSockMsg.duplicate
    simp only [doCall, stsvSendDuplicateLogin]
    generalize sendNotice srv env StSockMsg.duplicate s = x at hn ⊢
    generalize sendNotice srv env StSockMsg.duplicate t = y at hn ⊢
    cases hn with
    | none => exact .none
    | some hxy => exact .some ⟨rfl, hxy⟩
  | sendServerFULL =>
    have hn := @sendNotice_alike srv env u s t h StSockMsg.serverFull
    simp only [doCall, stsvSendServerFULL]
    generalize sendNotice srv env StSockMsg.serverFull s = x at hn ⊢
    generalize sendNotice srv env StSockMsg.serverFull t = y at hn ⊢
    cases hn with
    | none => exact .none
    | some hxy => exact .some ⟨rfl, hxy⟩
  | getData k => exact .some ⟨congrArg Reply.data (h.messages.data k hok.1 hok.2), h⟩
  | getDataCount => exact .some ⟨congrArg Reply.count h.messages.recvCount, h⟩
  | haveBigData => exact .some ⟨congrArg Reply.flag h.uploads.bigDataReady, h⟩
  | getBigData => exact .some (getBigData_alike h hok)
  | freeBigData => exact .some ⟨rfl, freeBigData_alike h⟩
  | getFileDataName => exact .some ⟨congrArg (fun n => Reply.data n.bytes) (h.uploads.name hok), h⟩
  | haveFileData => exact .some ⟨congrArg Reply.flag h.uploads.fileDataReady, h⟩
  | freeFileData =>
    obtain ⟨h1, h2, h3, h4, h5, h6, h7, h8⟩ := h
    obtain ⟨g1, g2, -, g4, g5, g6, g7, g8⟩ := h6
    exact .some ⟨rfl, h1, h2, h3, h4.congr rfl rfl, ⟨h5.recvCount, h5.data⟩, ⟨g1, g2, rfl, g4, g5, g6, g7, g8⟩, h7, h8⟩

/-! ## EndPackSendData -/

/-- The file part of the frame fits it, and the file is still as long as when it started. -/
structure EndOk (env : Env) (s : Conn) : Prop where
  fits : FrameFits env s.fs s.client
  holds : FileHolds env s.fs s.client

theorem EndOk.whole {env : Env} {s : Conn} (h : EndOk env s) : FrameWhole env s.fs s.client := by
  refine ⟨fun file hs hopen => ?_, h.holds⟩
  rcases h.fits file hs hopen with hfit | ⟨hfit, -⟩
  · exact Or.inl hfit
  · exact Or.inr (by omega)

/-- What only the sending side's change leaves of an upload. -/
theorem UploadsAlike.sent {u : Uploads} {c c' d d' : Client} {fs gs : FS} (h : UploadsAlike u c d fs gs)
    (hc : OnlySent c c') (hd : OnlySent d d') (on on' : Bool) :
    UploadsAlike u { c' with online := on, recvCount := 0, sendCount := 0, curPacketNo := 0 }
      { d' with online := on', recvCount := 0, sendCount := 0, curPacketNo := 0 } fs gs := by
  unfold OnlySent at hc hd
  refine h.congr ?_ ?_ ?_ ?_
  · rw [hc]
    rfl
  · rw [hd]
    rfl
  · rw [hc]
    rfl
  · rw [hd]
    rfl

theorem sendFrame_alike {srv : Server} {env : Env} {u : Uploads} {s t : Conn} (h : Alike u s t) (hok : EndOk env s)
    (hsend : s.client.sendCount > 0 ∨ s.client.fileDataSending = true) :
    Option.Rel (Alike u) (endPackSendData srv env s) (endPackSendData srv env t) := by
  have hsend' : t.client.sendCount > 0 ∨ t.client.fileDataSending = true := by
    rw [← h.sending.sendCount, ← h.sending.fileDataSending]
    exact hsend
  obtain ⟨hsize, hbytes⟩ := packFrame_agree h.sending h.packRef h.uploads.dbFiles hok.whole
  have halike := sentFrame_alike h.sending h.packRef h.uploads.dbFiles hok.whole
  have honly := packFrame_only env s.fs s.client
  have honly' := packFrame_only env t.fs t.client
  unfold endPackSendData
  rw [if_pos hsend, if_pos hsend']
  simp only
  generalize packFrame env s.fs s.client = f at *
  generalize packFrame env t.fs t.client = g at *
  have hw := @writeTo_alike srv _ _ _ _ _ h.sock hbytes
  have hy : writeTo srv g.sendBuffer f.sendDataSize t.sock = writeTo srv g.sendBuffer g.sendDataSize t.sock := by rw [hsize]
  rw [hy] at hw
  generalize writeTo srv f.sendBuffer f.sendDataSize s.sock = x at hw ⊢
  generalize writeTo srv g.sendBuffer g.sendDataSize t.sock = y at hw ⊢
  cases hw with
  | none => exact .none
  | @some x y hxy =>
    obtain ⟨ret, k⟩ := x
    obtain ⟨ret', k'⟩ := y
    obtain ⟨rfl, hk⟩ : ret = ret' ∧ SameSock k k' := hxy
    obtain ⟨h1, h2, h3, -, -, h6, -, h8⟩ := h
    have hon : f.online = g.online := by rw [honly.online, honly'.online, h1]
    have href : f.packRef = g.packRef := by rw [honly.packRef, honly'.packRef, h2]
    have hblock : f.bigDataBuffer = g.bigDataBuffer := by
      rw [honly.field (·.bigDataBuffer) fun _ _ => rfl, honly'.field (·.bigDataBuffer) fun _ _ => rfl]
      exact h3
    exact .some ⟨congrArg (· && ret != 0) hon, href, hblock, halike.congr rfl rfl, sameMessages_none rfl rfl,
      h6.sent honly honly' _ _, hk, h8⟩

theorem sendConfirm_alike {srv : Server} {env : Env} {u : Uploads} {s t : Conn} (h : Alike u s t)
    (hsend : ¬ (s.client.sendCount > 0 ∨ s.client.fileDataSending = true)) :
    Option.Rel (Alike u) (endPackSendData srv env s) (endPackSendData srv env t) := by
  have hsend' : ¬ (t.client.sendCount > 0 ∨ t.client.fileDataSending = true) := by
    rw [← h.sending.sendCount, ← h.sending.fileDataSending]
    exact hsend
  have hs := @sendDataSizeMsg_alike srv u s t h (dataSizeMsg StSockMsg.confirm stsockidServer s.client.packRef 0)
  unfold endPackSendData sendConfirmMessage
  rw [if_neg hsend, if_neg hsend', ← h.packRef]
  generalize sendDataSizeMsg srv s (dataSizeMsg StSockMsg.confirm stsockidServer s.client.packRef 0) = x at hs ⊢
  generalize sendDataSizeMsg srv t (dataSizeMsg StSockMsg.confirm stsockidServer s.client.packRef 0) = y at hs ⊢
  cases hs with
  | none => exact .none
  | @some x y hxy =>
    by_cases hone : srv.nServerType = .oneTime
    · simp only [if_pos hone]
      obtain ⟨h1, h2, h3, h4, h5, h6, h7, h8⟩ := hxy
      obtain ⟨-, g2, g3, g4, g5, g6, g7, g8, g9, g10, g11⟩ := h4
      refine .some ⟨h1, h2, h3, ⟨rfl, g2, g3, g4, g5, fun hf => ?_, ⟨g7.count, g7.sizes⟩, ⟨g8.count, g8.sizes⟩, g9, g10, g11⟩,
        ⟨h5.recvCount, h5.data⟩, h6.congr rfl rfl rfl rfl, h7, h8⟩
      obtain ⟨e1, e2, e3, e4⟩ := g6 hf
      exact ⟨e1, e2, e3, e4⟩
    · simp only [if_neg hone]
      exact .some hxy

/-! ## The slot -/

/-- Nothing that the next connection could see is left on either slot: no queue, no
    messages, no uploaded file; and what is left shows the same on both. -/
structure LeftClean (s t : Conn) : Prop where
  queue : s.client.sendCount = 0 ∧ t.client.sendCount = 0
  messages : s.client.recvCount = 0 ∧ t.client.recvCount = 0
  fileDataReady : s.client.fileDataReady = false ∧ t.client.fileDataReady = false
  /-- The packNo and size of a REGISTER reply. -/
  stale : s.client.sendBuffer.slice 4 8 = t.client.sendBuffer.slice 4 8
  fileSendName : s.client.fileSendName = t.client.fileSendName
  bigDataBuffer : s.client.bigDataBuffer = t.client.bigDataBuffer
  use : s.pool.map (·.use) = t.pool.map (·.use)
  dbFiles : ∀ name, s.fs (dbFilePath name) = t.fs (dbFilePath name)

/-- What the connection has begun, step by step. -/
def sessionNote (u : Uploads) (e : Ev) (s : Slot) : Uploads :=
  match e with
  | .accept .. => noUploads
  | .message _ => if s.phase = .handling then frameUploads s.conn.client u else u
  | _ => u

/-- A step of one connection that stays inside what it has sent. -/
def SessionOk (srv : Server) (p : Slot × Uploads) : Ev → Prop
  | .accept .. => False
  | .message _ => MessageOk srv p.2 p.1.conn
  | .timeout => True
  | .endPack env => EndOk env p.1.conn
  | .call env a => CallOk p.2 env p.1.conn a

structure SlotAlike (p : Slot × Uploads) (t : Slot) : Prop where
  conn : Alike p.2 p.1.conn t.conn
  phase : p.1.phase = t.phase
  handled : p.1.handled = t.handled
  seen : p.1.seen = t.seen

theorem accept_alike {srv : Server} {s t a b : Slot} {idx : BitVec 16} {inp : List Byte} {recvs sends : List (Option Nat)}
    (hleft : LeftClean s.conn t.conn) (hs : step srv s (.accept idx inp recvs sends) = some a)
    (ht : step srv t (.accept idx inp recvs sends) = some b) : SlotAlike (a, noUploads) b := by
  cases step_stepped hs with
  | accept _ _ _ _ sent ret rs _ _ hw =>
    cases step_stepped ht with
    | accept _ _ _ _ sent' ret' rs' _ _ hw' =>
      have hsame := hw.symm.trans hw'
      simp only [Option.some.injEq, Prod.mk.injEq, Sock.mk.injEq, List.cons.injEq, Write.mk.injEq, and_true, true_and] at hsame
      obtain ⟨-, rfl, rfl⟩ := hsame
      obtain ⟨⟨q1, q2⟩, ⟨m1, m2⟩, ⟨f1, f2⟩, h4, h5, h6, h7, h8⟩ := hleft
      refine ⟨⟨rfl, rfl, h6, ⟨rfl, rfl, rfl, h5, rfl, fun hf => absurd hf Bool.false_ne_true, queueOk_empty q1,
        queueOk_empty q2, ?_, rfl, h4⟩, sameMessages_none m1 m2, ⟨rfl, rfl, f1.trans f2.symm,
        fun hr => absurd hr Bool.false_ne_true, fun hne => absurd rfl hne, fun hn => absurd hn Bool.false_ne_true,
        fun p hp => absurd hp List.not_mem_nil, h8⟩, ⟨rfl, rfl, rfl, rfl⟩, h7⟩, rfl, rfl, rfl⟩
      have hnil (c : Client) (hc : c.sendCount = 0) : queue c = [] := List.eq_nil_of_length_eq_zero (by rw [length_queue, hc])
      exact (hnil _ q1).trans (hnil _ q2).symm

/-- **One step** of the new connection has the same step in the other slot. -/
theorem step_alike {srv : Server} {p q : Slot × Uploads} {t : Slot} {e : Ev} (h : SlotAlike p t) (hok : SessionOk srv p e)
    (hstep : Runs.noted (step srv) sessionNote p e = some q) : ∃ t', step srv t e = some t' ∧ SlotAlike q t' := by
  obtain ⟨s, u⟩ := p
  obtain ⟨hconn, hphase, hhandled, hseen⟩ := h
  obtain ⟨s', hs, rfl⟩ := Option.map_eq_some_iff.mp hstep
  simp only at hconn hphase hhandled hseen hs
  have hon := hconn.online
  cases step_stepped hs with
  | accept => exact absurd hok id
  | handled env c hph hup hm =>
    have hrel := @message_alike srv env u s.conn t.conn hconn hok
    have hacc := message_accepted hm
    rw [hm] at hrel
    obtain ⟨⟨ret, d⟩, ht, hret, halike⟩ := Runs.rel_some hrel
    have hret : 0 = ret := hret
    subst hret
    have hacc' := message_accepted ht
    have hno : msgPackNo c.client.recvBuffer = msgPackNo d.client.recvBuffer := by
      rw [← hacc.packRef, ← hacc'.packRef]
      exact halike.packRef
    refine ⟨{ t with conn := d, phase := .handling, handled := t.handled ++ [msgPackNo d.client.recvBuffer] }, ?_,
      halike, rfl, ?_, hseen⟩
    · simp only [step]
      rw [if_pos ⟨hphase ▸ hph, hon ▸ hup⟩, ht]
      rfl
    · show s.handled ++ _ = t.handled ++ _
      rw [hhandled, hno]
  | dropped env c ret hph hup hne hm =>
    have hrel := @message_alike srv env u s.conn t.conn hconn hok
    rw [hm] at hrel
    obtain ⟨⟨ret', d⟩, ht, hret, halike⟩ := Runs.rel_some hrel
    have hret : ret = ret' := hret
    subst hret
    have hnote : sessionNote u (.message env) { s with conn := c } = u := by
      simp [sessionNote, hph]
    rw [hnote]
    simp only [if_neg hne] at halike
    refine ⟨{ t with conn := d }, ?_, halike, hphase, hhandled, hseen⟩
    simp only [step]
    rw [if_pos ⟨hphase ▸ hph, hon ▸ hup⟩, ht]
    simp only [if_neg hne]
  | timeout hph hup =>
    refine ⟨{ t with conn := offline t.conn }, ?_, offline_alike hconn, hphase, hhandled, hseen⟩
    simp only [step]
    rw [if_pos ⟨hphase ▸ hph, hon ▸ hup⟩]
  | endPack env c hph hend =>
    have hrel : Option.Rel (Alike u) (endPackSendData srv env s.conn) (endPackSendData srv env t.conn) := by
      by_cases hsend : s.conn.client.sendCount > 0 ∨ s.conn.client.fileDataSending = true
      · exact sendFrame_alike hconn hok hsend
      · exact sendConfirm_alike hconn hsend
    simp only [step] at hs
    rw [if_pos hph] at hs
    obtain ⟨c', hc', heq⟩ := Option.map_eq_some_iff.mp hs
    rw [hc'] at hrel
    obtain ⟨d, ht, halike⟩ := Runs.rel_some hrel
    have hcc : c' = c := congrArg Slot.conn heq
    rw [hcc] at halike
    refine ⟨{ t with
      conn := d, phase := .polling
      answers := t.answers ++ [d.sock.out.drop t.conn.sock.out.length] }, ?_, halike, rfl, hhandled, hseen⟩
    simp only [step]
    rw [if_pos (hphase ▸ hph), ht]
    rfl
  | call env a r c hc =>
    have hrel := @call_alike srv env u s.conn t.conn a hconn hok
    rw [hc] at hrel
    obtain ⟨⟨r', d⟩, ht, hr, halike⟩ := Runs.rel_some hrel
    have hr : r = r' := hr
    subst hr
    refine ⟨{ t with conn := d, seen := t.seen ++ [r] }, ?_, halike, hphase, hhandled, ?_⟩
    · simp only [step]
      rw [ht]
      rfl
    · show s.seen ++ _ = t.seen ++ _
      rw [hseen]

/-! ## Sessions that cannot tell -/

/-- The client, the handler and other threads saw the same: bytes on the wire, frames
    handled, what the calls returned, and the files uploaded. -/
structure SameSession (u : Uploads) (s t : Slot) : Prop where
  frames : s.conn.sock.out.map Write.bytes = t.conn.sock.out.map Write.bytes
  handled : s.handled = t.handled
  seen : s.seen = t.seen
  online : s.conn.client.online = t.conn.client.online
  files : ∀ p ∈ u.begun, s.conn.fs p = t.conn.fs p

/-- **A new connection sees nothing of the earlier ones**: whatever they were, on either
    slot, when they left nothing that shows. -/
theorem slot_isolated (srv : Server) {s t a b s' : Slot} {idx : BitVec 16} {inp : List Byte}
    {recvs sends : List (Option Nat)} {u : Uploads} {es : List Ev} (hleft : LeftClean s.conn t.conn)
    (hs : step srv s (.accept idx inp recvs sends) = some a) (ht : step srv t (.accept idx inp recvs sends) = some b)
    (hok : Runs.RunOk (Runs.noted (step srv) sessionNote) (SessionOk srv) (a, noUploads) es)
    (hrun : Runs.run (Runs.noted (step srv) sessionNote) (a, noUploads) es = some (s', u)) :
    ∃ t', Runs.run (step srv) b es = some t' ∧ SameSession u s' t' := by
  obtain ⟨t', hrun', hsame⟩ := Runs.run_sim (Runs.noted (step srv) sessionNote) (SessionOk srv)
    (fun p q e p' hpq hok he => step_alike hpq hok he) (accept_alike hleft hs ht) hok hrun
  exact ⟨t', hrun', hsame.conn.sock.out, hsame.handled, hsame.seen, hsame.conn.online, hsame.conn.uploads.files⟩

/-- A connection that sends one frame, which is answered with what is queued. -/
def nextConnection : List Ev :=
  [.accept 0 (emptyFrame 1) [some 12, some 4] [some 12, some 99], .message quietEnv, .endPack quietEnv]

/-- A slot whose last connection was accepted and timed out. -/
def usedSlot : Slot :=
  (Runs.run (step defaultServer) emptySlot [.accept 7 [] [] [some 12], .timeout]).getD emptySlot

theorem slot_isolated_timeout :
    Runs.run (step defaultServer) emptySlot [.accept 7 [] [] [some 12], .timeout] = some usedSlot ∧
    ∃ s' b t', Runs.run (step defaultServer) emptySlot nextConnection = some s' ∧
      step defaultServer usedSlot (.accept 0 (emptyFrame 1) [some 12, some 4] [some 12, some 99]) = some b ∧
      Runs.run (step defaultServer) b [.message quietEnv, .endPack quietEnv] = some t' ∧ SameSession noUploads s' t' := by
  refine ⟨rfl, ?_⟩
  have hleft : LeftClean emptySlot.conn usedSlot.conn :=
    ⟨⟨rfl, rfl⟩, ⟨rfl, rfl⟩, ⟨rfl, rfl⟩, rfl, rfl, rfl, rfl, fun _ => rfl⟩
  obtain ⟨a, ha⟩ : ∃ a, step defaultServer emptySlot
      (.accept 0 (emptyFrame 1) [some 12, some 4] [some 12, some 99]) = some a := ⟨_, rfl⟩
  obtain ⟨b, hb⟩ : ∃ b, step defaultServer usedSlot
      (.accept 0 (emptyFrame 1) [some 12, some 4] [some 12, some 99]) = some b := ⟨_, rfl⟩
  obtain ⟨s', hs'⟩ : ∃ s', Runs.run (step defaultServer) emptySlot nextConnection = some s' := ⟨_, rfl⟩
  have hok : Runs.RunOk (Runs.noted (step defaultServer) sessionNote) (SessionOk defaultServer) (a, noUploads)
      [.message quietEnv, .endPack quietEnv] := by
    cases ha
    refine .cons _ ⟨⟨fun _ h => ?_, fun _ _ => by decide +kernel, fun _ _ _ => by decide +kernel⟩, fun _ _ _ _ => ?_⟩ rfl
      (.cons _ ⟨fun _ h => ?_, fun _ h => ?_⟩ rfl trivial)
    · exact absurd h (by decide +kernel)
    · exact ⟨fun _ => by decide +kernel, fun h => absurd h (by decide +kernel), fun h => absurd h (by decide +kernel),
        fun h => absurd h (by decide +kernel), fun h => absurd h (by decide +kernel)⟩
    · exact absurd h (by decide +kernel)
    · exact absurd h (by decide +kernel)
  have hrun : Runs.run (Runs.noted (step defaultServer) sessionNote) (a, noUploads) [.message quietEnv, .endPack quietEnv] =
      some (s', noUploads) := by
    cases ha
    cases hs'
    rfl
  obtain ⟨t', ht', hsame⟩ := slot_isolated defaultServer hleft ha hb hok hrun
  exact ⟨s', b, t', hs', hb, ht', hsame⟩

/-- **A message queued for the connection before is sent to the new client**, who in an
    unused slot gets a CONFIRM. -/
theorem slot_leaks : ∃ s t s' t', Runs.run (step defaultServer) emptySlot [] = some s ∧
    Runs.run (step defaultServer) emptySlot [.accept 0 [] [] [some 12], .call quietEnv (.sendData [9]), .timeout] = some t ∧
    Runs.run (step defaultServer) s nextConnection = some s' ∧ Runs.run (step defaultServer) t nextConnection = some t' ∧
    s'.conn.sock.out.map Write.bytes ≠ t'.conn.sock.out.map Write.bytes := by
  refine ⟨_, _, _, _, rfl, rfl, rfl, rfl, ?_⟩
  decide +kernel

end StarServer.Socket

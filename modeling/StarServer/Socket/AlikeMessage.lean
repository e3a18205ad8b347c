/-
  StarServer.Socket.AlikeMessage — the same stream read by two slots.

  `Alike` is all that the new connection can see of a slot. `processMessageBuffer` keeps
  it, and returns the same, whatever the message, so long as the reads it makes stay
  inside `recvBuffer` and an accepted frame lies inside its bytes (`message_alike`).
-/

import StarServer.Socket.AlikeReceive
import StarServer.Socket.ReceiveBounds

namespace StarServer.Socket

open StarServer.Memory

/-! ## Two slots -/

structure SameSock (k k' : Sock) : Prop where
  inp : k.inp = k'.inp
  recvs : k.recvs = k'.recvs
  sends : k.sends = k'.sends
  out : k.out.map Write.bytes = k'.out.map Write.bytes

/-- What the connection can see of the slot is the same. -/
structure Alike (u : Uploads) (s t : Conn) : Prop where
  online : s.client.online = t.client.online
  packRef : s.client.packRef = t.client.packRef
  bigDataBuffer : s.client.bigDataBuffer = t.client.bigDataBuffer
  sending : SameSending s.client t.client
  messages : SameMessages s.client t.client
  uploads : UploadsAlike u s.client t.client s.fs t.fs
  sock : SameSock s.sock t.sock
  use : s.pool.map (·.use) = t.pool.map (·.use)

/-- The sending side of `c` in another slot. -/
def sendSide (r c : Client) : Client := { sendUpdate r c with sendDone := c.sendDone }

theorem SameSending.congr {c c' d d' : Client} (h : SameSending c d) (hc : sendSide c' c = c') (hd : sendSide d' d = d') :
    SameSending c' d' := by
  obtain ⟨h1, h2, h3, h4, h5, h6, h7, h8, h9, h10, h11⟩ := h
  rw [← hc, ← hd]
  refine ⟨h1, h2, h3, h4, h5, fun hs => ?_, ⟨h7.count, h7.sizes⟩, ⟨h8.count, h8.sizes⟩, h9, h10, h11⟩
  obtain ⟨g1, g2, g3, g4⟩ := h6 hs
  exact ⟨g1, g2, g3, g4⟩

theorem UploadsAlike.congr {u : Uploads} {c c' d d' : Client} {fs gs : FS} (h : UploadsAlike u c d fs gs)
    (hc : uploadUpdate c' c = c') (hd : uploadUpdate d' d = d') (hi : c'.idx = c.idx) (hj : d'.idx = d.idx) :
    UploadsAlike u c' d' fs gs := by
  obtain ⟨h1, h2, h3, h4, h5, h6, h7, h8⟩ := h
  rw [← hc, ← hd]
  refine ⟨?_, h2, h3, ?_, h5, h6, h7, h8⟩
  · show c'.idx = d'.idx
    rw [hi, hj, h1]
  · intro hr
    show _ ∧ fs (bigDataPath c'.idx.toNat) = gs (bigDataPath c'.idx.toNat)
    rw [hi]
    exact h4 hr

/-! ## Reading and writing -/

theorem writeTo_alike {srv : Server} {b b' : Buf} {n : Nat} {k k' : Sock} (h : SameSock k k')
    (hb : b.slice 0 n = b'.slice 0 n) :
    Option.Rel (fun x y => x.1 = y.1 ∧ SameSock x.2 y.2) (writeTo srv b n k) (writeTo srv b' n k') := by
  have hbytes (sent : Nat) (hle : sent ≤ n) : (k.out ++ [Write.mk b n sent]).map Write.bytes =
      (k'.out ++ [Write.mk b' n sent]).map Write.bytes := by
    rw [List.map_append, List.map_append, h.out]
    congr 1
    exact congrArg (fun l => [l]) (Buf.slice_sub hb (Nat.le_refl 0) (Nat.add_le_add_left hle 0))
  unfold writeTo
  rw [← h.sends]
  split
  · exact .some ⟨rfl, h.inp, h.recvs, rfl, hbytes 0 (Nat.zero_le n)⟩
  · cases hl : sendLoop n k.sends 0 with
    | none => exact .none
    | some r =>
      obtain ⟨ret, sent, rs⟩ := r
      obtain ⟨-, hsent⟩ := sendLoop_spec (Nat.zero_le n) hl
      exact .some ⟨rfl, h.inp, h.recvs, rfl, hbytes sent (by omega)⟩

/-- The two slots between messages: no message is there to be had. -/
structure Reading (u : Uploads) (s t : Conn) : Prop where
  alike : Alike u s t
  left : s.client.recvCount = 0
  right : t.client.recvCount = 0

/-- The same bytes into both buffers. -/
theorem Reading.store {u : Uploads} {s t : Conn} (h : Reading u s t) {k k' : Sock} (hk : SameSock k k') (off : Nat)
    (l : List Byte) (tr tr' : List Access) :
    Reading u
      { s with client := { s.client with recvBuffer := s.client.recvBuffer.store off l }, sock := k, trace := tr }
      { t with client := { t.client with recvBuffer := t.client.recvBuffer.store off l }, sock := k', trace := tr' } := by
  obtain ⟨⟨h1, h2, h3, h4, h5, h6, h7, h8⟩, hl, hr⟩ := h
  exact ⟨⟨h1, h2, h3, h4.congr rfl rfl, sameMessages_none hl hr, h6.congr rfl rfl rfl rfl, hk, h8⟩, hl, hr⟩

theorem startMessage_reading {u : Uploads} {s t : Conn} (h : Alike u s t) : Reading u (startMessage s) (startMessage t) := by
  obtain ⟨h1, h2, h3, h4, h5, h6, h7, h8⟩ := h
  exact ⟨⟨h1, h2, h3, h4.congr rfl rfl, sameMessages_none rfl rfl, h6.congr rfl rfl rfl rfl, h7, h8⟩, rfl, rfl⟩

/-- What a `ReadFrom` on both sides leaves. -/
structure ReadAlike (u : Uploads) (off count : Nat) (s t : Conn) (x y : Nat × Conn) : Prop where
  ret : x.1 = y.1
  reading : Reading u x.2 y.2
  bytes : ∃ got, x.2.client.recvBuffer = s.client.recvBuffer.store off got ∧
    y.2.client.recvBuffer = t.client.recvBuffer.store off got ∧ (x.1 = count → got.length = count)

theorem readFrom_alike {u : Uploads} {off count : Nat} {s t : Conn} (h : Reading u s t) :
    Option.Rel (ReadAlike u off count s t) (readFrom off count s) (readFrom off count t) := by
  unfold readFrom
  rw [← h.alike.sock.recvs, ← h.alike.sock.inp]
  cases hl : readLoop count s.sock.recvs [] s.sock.inp with
  | none => exact .none
  | some r =>
    obtain ⟨ret, got, inp, rs⟩ := r
    obtain ⟨-, -, hcase⟩ := readLoop_spec (Nat.zero_le count) hl
    have hsock : SameSock { s.sock with inp := inp, recvs := rs } { t.sock with inp := inp, recvs := rs } :=
      ⟨rfl, rfl, h.alike.sock.sends, h.alike.sock.out⟩
    have hstore := h.store hsock off got (s.trace ++ [.recv off count]) (t.trace ++ [.recv off count])
    refine .some ⟨rfl, hstore, got, rfl, rfl, fun hret => ?_⟩
    have hret : ret = count := hret
    omega

/-- What the one `recvfrom` leaves on both sides. -/
structure PieceAlike (u : Uploads) (off : Nat) (s t : Conn) (x y : Int × Conn) : Prop where
  ret : x.1 = y.1
  reading : Reading u x.2 y.2
  bytes : ∃ piece : List Byte, x.2.client.recvBuffer = s.client.recvBuffer.store off piece ∧
    y.2.client.recvBuffer = t.client.recvBuffer.store off piece ∧ (0 ≤ x.1 → x.1 = piece.length)

theorem readFromNonBlocking_alike {u : Uploads} {off : Nat} {count : Int} {s t : Conn} (h : Reading u s t) :
    Option.Rel (PieceAlike u off s t) (readFromNonBlocking off count s) (readFromNonBlocking off count t) := by
  unfold readFromNonBlocking
  rw [← h.alike.sock.recvs, ← h.alike.sock.inp]
  cases s.sock.recvs with
  | nil => exact .none
  | cons r rs =>
    cases r with
    | none =>
      have hsock : SameSock { s.sock with recvs := rs } { t.sock with recvs := rs } :=
        ⟨h.alike.sock.inp, rfl, h.alike.sock.sends, h.alike.sock.out⟩
      have hstore := h.store hsock off [] (s.trace ++ [.recv off count]) (t.trace ++ [.recv off count])
      rw [Buf.store_nil, Buf.store_nil] at hstore
      exact .some ⟨rfl, hstore, [], (Buf.store_nil _ _).symm, (Buf.store_nil _ _).symm,
        fun (h0 : (0 : Int) ≤ -1) => absurd h0 (by decide)⟩
    | some k =>
      simp only
      generalize recvTake k (BitVec.ofInt 64 count).toNat s.sock.inp = piece
      have hsock : SameSock { s.sock with recvs := rs, inp := s.sock.inp.drop piece.length }
          { t.sock with recvs := rs, inp := s.sock.inp.drop piece.length } :=
        ⟨rfl, rfl, h.alike.sock.sends, h.alike.sock.out⟩
      have hstore := h.store hsock off piece (s.trace ++ [.recv off count]) (t.trace ++ [.recv off count])
      exact .some ⟨rfl, hstore, piece, rfl, rfl, fun _ => rfl⟩

/-! ## The ways out -/

/-- Two returns of `processMessageBuffer`; with 0 the frame's uploads count as begun. -/
structure MessageAlike (u : Uploads) (x y : Int × Conn) : Prop where
  ret : x.1 = y.1
  alike : Alike (if x.1 = 0 then frameUploads x.2.client u else u) x.2 y.2

theorem MessageAlike.dropped {u : Uploads} {s t : Conn} (h : Alike u s t) : MessageAlike u (-1, s) (-1, t) := ⟨rfl, h⟩

theorem offline_alike {u : Uploads} {s t : Conn} (h : Alike u s t) : Alike u (offline s) (offline t) := by
  obtain ⟨-, h2, h3, h4, h5, h6, h7, h8⟩ := h
  exact ⟨rfl, h2, h3, h4.congr rfl rfl, ⟨h5.recvCount, h5.data⟩, h6.congr rfl rfl rfl rfl, h7, h8⟩

/-- The slot after a `WriteTo` that returned `ret`. -/
def wrote (s : Conn) (sock : Sock) (ret : Nat) : Conn :=
  { s with sock := sock, client := { s.client with online := s.client.online && ret != 0 } }

theorem wrote_alike {u : Uploads} {s t : Conn} {k k' : Sock} (h : Alike u s t) (hk : SameSock k k') (ret : Nat) :
    Alike u (wrote s k ret) (wrote t k' ret) := by
  obtain ⟨h1, h2, h3, h4, h5, h6, -, h8⟩ := h
  refine ⟨?_, h2, h3, h4.congr rfl rfl, ⟨h5.recvCount, h5.data⟩, h6.congr rfl rfl rfl rfl, hk, h8⟩
  exact congrArg (· && ret != 0) h1

theorem sendDataSizeMsg_alike {srv : Server} {u : Uploads} {s t : Conn} (h : Alike u s t) (msg : Buf) :
    Option.Rel (Alike u) (sendDataSizeMsg srv s msg) (sendDataSizeMsg srv t msg) := by
  have hw := @writeTo_alike srv msg msg dataSizeLen _ _ h.sock rfl
  unfold sendDataSizeMsg
  generalize writeTo srv msg dataSizeLen s.sock = x at hw ⊢
  generalize writeTo srv msg dataSizeLen t.sock = y at hw ⊢
  cases hw with
  | none => exact .none
  | @some x y hxy =>
    obtain ⟨ret, k⟩ := x
    obtain ⟨ret', k'⟩ := y
    obtain ⟨rfl, hk⟩ : ret = ret' ∧ SameSock k k' := hxy
    exact .some (wrote_alike h hk ret)

theorem sendReTrasmit_alike {srv : Server} {u : Uploads} {s t : Conn} (h : Alike u s t) (packetNo : BitVec 32) :
    Option.Rel (MessageAlike u) ((sendReTrasmit srv s packetNo).map fun s => (-1, s))
      ((sendReTrasmit srv t packetNo).map fun s => (-1, s)) := by
  have hs := @sendDataSizeMsg_alike srv u s t h (dataSizeMsg StSockMsg.retrasmit stsockidServer packetNo 0)
  unfold sendReTrasmit
  generalize sendDataSizeMsg srv s (dataSizeMsg StSockMsg.retrasmit stsockidServer packetNo 0) = x at hs ⊢
  generalize sendDataSizeMsg srv t (dataSizeMsg StSockMsg.retrasmit stsockidServer packetNo 0) = y at hs ⊢
  cases hs with
  | none => exact .none
  | some hst => exact .some (.dropped hst)

/-- RETRASMIT sends the same bytes again. -/
theorem processRetrasmit_alike {srv : Server} {u : Uploads} {s t : Conn} (h : Alike u s t) :
    Option.Rel (MessageAlike u) (processRetrasmit srv s) (processRetrasmit srv t) := by
  have hresend := h.sending.resend
  have hw := @writeTo_alike srv s.client.sendBuffer t.client.sendBuffer s.client.sendDataSize _ _ h.sock hresend
  unfold processRetrasmit
  rw [← h.sending.sendDataSize]
  generalize writeTo srv s.client.sendBuffer s.client.sendDataSize s.sock = x at hw ⊢
  generalize writeTo srv t.client.sendBuffer s.client.sendDataSize t.sock = y at hw ⊢
  cases hw with
  | none => exact .none
  | @some x y hxy =>
    obtain ⟨ret, k⟩ := x
    obtain ⟨ret', k'⟩ := y
    obtain ⟨rfl, hk⟩ : ret = ret' ∧ SameSock k k' := hxy
    exact .some (.dropped (wrote_alike h hk ret))

/-- The REGISTER reply is the same twelve bytes, where the versions read are the same. -/
theorem registerReply_alike {srv : Server} {env : Env} {c d : Client} (h : SameSending c d)
    (hv : registerVerdict srv env (readVersion c.recvBuffer 12) (readVersion c.recvBuffer 24) =
      registerVerdict srv env (readVersion d.recvBuffer 12) (readVersion d.recvBuffer 24)) :
    (registerReply srv env c).slice 0 12 = (registerReply srv env d).slice 0 12 := by
  unfold registerReply
  rw [hv]
  have hstale : c.sendBuffer.slice 4 8 = d.sendBuffer.slice 4 8 := h.stale
  refine slice_header ?_ ?_ ?_ ?_
  · rw [Buf.u16_put16, Buf.u16_put16]
  · have htype (b : Buf) (v w : BitVec 16) : ((b.put16 2 v).put16 0 w).u16 2 = v := by
      rw [Buf.u16_put16_out (by omega), Buf.u16_put16]
    rw [htype, htype]
  · rw [Buf.u32_put16_out (by omega), Buf.u32_put16_out (by omega), Buf.u32_put16_out (by omega),
      Buf.u32_put16_out (by omega)]
    exact Buf.u32_congr (Buf.slice_sub hstale (by omega) (by omega))
  · rw [Buf.u32_put16_out (by omega), Buf.u32_put16_out (by omega), Buf.u32_put16_out (by omega),
      Buf.u32_put16_out (by omega)]
    exact Buf.u32_congr (Buf.slice_sub hstale (by omega) (by omega))

theorem registerReply_queue {srv : Server} {env : Env} (c : Client) (n : Nat) (on : Bool) :
    queue { c with sendBuffer := registerReply srv env c, sendDataSize := n, online := on } = queue c := by
  unfold queue
  refine List.map_congr_left fun i _ => ?_
  unfold block registerReply
  simp only
  rw [Buf.slice_put16_out (by rw [msgSlot_eq]; omega), Buf.slice_put16_out (by rw [msgSlot_eq]; omega)]

theorem processRegister_alike {srv : Server} {env : Env} {u : Uploads} {s t : Conn} (h : Reading u s t)
    (hhead : s.client.recvBuffer.slice 0 dataSizeLen = t.client.recvBuffer.slice 0 dataSizeLen) :
    Option.Rel (MessageAlike u) (processRegister srv env s) (processRegister srv env t) := by
  have hsize := (header_congr hhead).2.2.2
  have hread := @readFromNonBlocking_alike u dataSizeLen (msgSize s.client.recvBuffer) s t h
  unfold processRegister
  rw [← hsize]
  generalize readFromNonBlocking dataSizeLen (msgSize s.client.recvBuffer) s = x at hread ⊢
  generalize readFromNonBlocking dataSizeLen (msgSize s.client.recvBuffer) t = y at hread ⊢
  cases hread with
  | none => exact .none
  | @some x y hxy =>
    obtain ⟨n, s2⟩ := x
    obtain ⟨n', t2⟩ := y
    obtain ⟨hn, hreading, piece, hb, hb', hlen⟩ := hxy
    have hn : n = n' := hn
    subst hn
    simp only at hreading hb hb' hlen ⊢
    by_cases h24 : n ≠ 24
    · rw [if_pos h24, if_pos h24]
      exact .some (.dropped (offline_alike hreading.alike))
    · rw [if_neg h24, if_neg h24]
      have h24 : n = 24 := Classical.not_not.mp h24
      have hpiece : piece.length = 24 := by
        have := hlen (by omega)
        omega
      have hver (a : Nat) (h1 : 12 ≤ a) (h2 : a + 4 ≤ 36) : s2.client.recvBuffer.u32 a = t2.client.recvBuffer.u32 a := by
        rw [hb, hb']
        refine Buf.u32_congr ?_
        have h12 : dataSizeLen ≤ a := h1
        have hend : a + 4 ≤ dataSizeLen + piece.length := by rw [hpiece]; exact h2
        rw [Buf.slice_store_in h12 hend, Buf.slice_store_in h12 hend]
      have hv : registerVerdict srv env (readVersion s2.client.recvBuffer 12) (readVersion s2.client.recvBuffer 24) =
          registerVerdict srv env (readVersion t2.client.recvBuffer 12) (readVersion t2.client.recvBuffer 24) := by
        unfold readVersion
        rw [hver 12 (by omega) (by omega), hver (12 + 4) (by omega) (by omega), hver (12 + 8) (by omega) (by omega),
          hver 24 (by omega) (by omega), hver (24 + 4) (by omega) (by omega), hver (24 + 8) (by omega) (by omega)]
      have hreply := @registerReply_alike srv env _ _ hreading.alike.sending hv
      have hw := @writeTo_alike srv _ _ dataSizeLen _ _ hreading.alike.sock hreply
      have hqueue := fun n on => @registerReply_queue srv env s2.client n on
      have hqueue' := fun n on => @registerReply_queue srv env t2.client n on
      generalize registerReply srv env s2.client = b at *
      generalize registerReply srv env t2.client = b' at *
      generalize writeTo srv b dataSizeLen s2.sock = x at hw ⊢
      generalize writeTo srv b' dataSizeLen t2.sock = y at hw ⊢
      cases hw with
      | none => exact .none
      | @some x y hxy =>
        obtain ⟨ret, k⟩ := x
        obtain ⟨ret', k'⟩ := y
        obtain ⟨rfl, hk⟩ : ret = ret' ∧ SameSock k k' := hxy
        obtain ⟨⟨h1, h2, h3, h4, h5, h6, -, h8⟩, -, -⟩ := hreading
        refine .some (.dropped ⟨congrArg (· && ret != 0) h1, h2, h3, ?_, ⟨h5.recvCount, h5.data⟩,
          h6.congr rfl rfl rfl rfl, hk, h8⟩)
        obtain ⟨g1, g2, g3, g4, g5, g6, g7, g8, g9, -, -⟩ := h4
        refine ⟨g1, g2, rfl, g4, g5, fun hs => ?_, ⟨g7.count, g7.sizes⟩, ⟨g8.count, g8.sizes⟩, ?_, hreply, ?_⟩
        · obtain ⟨e1, e2, e3, e4⟩ := g6 hs
          exact ⟨e1, e2, e3, e4⟩
        · exact (hqueue _ _).trans (g9.trans (hqueue' _ _).symm)
        · exact Buf.slice_sub hreply (Nat.zero_le 4) (by omega)

/-! ## Data messages -/

/-- `recvBuffer` with the next header and its payload at the front. -/
def nextFrame (s : Conn) : Buf :=
  s.client.recvBuffer.store 0 (s.sock.inp.take (dataSizeLen + (msgSize (nextHeader s)).toNat))

/-- What is asked of the next message: its reads stay inside `recvBuffer`, and a frame with
    the right CRC lies inside its bytes. -/
structure MessageOk (srv : Server) (u : Uploads) (s : Conn) : Prop where
  reads : ReadsFit srv s
  frame : dataSizeLen ≤ s.sock.inp.length → IsData srv (nextHeader s) → ReachesCrc srv s →
    crcOver (nextFrame s) packDataLen (crcLength (nextFrame s)) = (nextFrame s).u16 12 →
    FrameInside u { s.client with recvBuffer := nextFrame s }

/-- The same once the frame is in the buffer. -/
structure FrameOk (srv : Server) (u : Uploads) (n : Nat) (s : Conn) : Prop where
  size : 0 ≤ msgSize s.client.recvBuffer ∧ msgSize s.client.recvBuffer ≤ stsvMaxBuffer
  min : IsFresh srv s.client → (n : Int) = msgSize s.client.recvBuffer → 4 ≤ msgSize s.client.recvBuffer
  inside : IsFresh srv s.client → (n : Int) = msgSize s.client.recvBuffer →
    crcOver s.client.recvBuffer packDataLen (crcLength s.client.recvBuffer) = s.client.recvBuffer.u16 12 →
    FrameInside u s.client

theorem MessageOk.read {srv : Server} {u : Uploads} {s s2 : Conn} {n : Nat} (h : MessageOk srv u s)
    (hd : DataRead srv s s2 n) : FrameOk srv u n s2 := by
  have hreach := reachesCrc_iff hd
  obtain ⟨hlen, hdata, got, rs, -, hpay, rfl⟩ := hd.eq
  obtain ⟨-, -, -, hsize⟩ := header_store (nextHeader s) got
  refine ⟨by rw [hsize]; exact ⟨hdata.size, hdata.sizeLe⟩, fun hf hn => ?_, fun hf hn hcrc => ?_⟩
  · rw [hsize]
    exact h.reads.crc hlen hdata (hreach.mpr ⟨hf, hn⟩)
  · have hgot : got = (s.sock.inp.drop dataSizeLen).take (msgSize (nextHeader s)).toNat := by
      rcases hpay with ⟨-, -, hg⟩ | ⟨h0, hlt, hg⟩
      · exact hg
      · rw [hsize] at hn
        omega
    have hframe : (nextHeader s).store dataSizeLen got = nextFrame s := by
      have htake : (s.sock.inp.take dataSizeLen).length = dataSizeLen := List.length_take_of_le hlen
      have happ := Buf.store_append s.client.recvBuffer 0 (s.sock.inp.take dataSizeLen) got
      rw [htake, Nat.zero_add] at happ
      unfold nextHeader nextFrame
      rw [happ, hgot, List.take_add]
    simp only [hframe] at hcrc ⊢
    have hin := h.frame hlen hdata (hreach.mpr ⟨hf, hn⟩) hcrc
    exact hin.congr rfl rfl (fileDataPath_congr rfl rfl rfl rfl)

/-- The payload of the same message on both sides. -/
structure PayloadAlike (u : Uploads) (n : Nat) (s t : Conn) : Prop where
  reading : Reading u s t
  header : s.client.recvBuffer.slice 0 dataSizeLen = t.client.recvBuffer.slice 0 dataSizeLen
  bytes : (n : Int) = msgSize s.client.recvBuffer →
    s.client.recvBuffer.slice 0 (dataSizeLen + n) = t.client.recvBuffer.slice 0 (dataSizeLen + n)

theorem frameTaken_message {u : Uploads} {env : Env} {s t : Conn} (h : Reading u s t)
    (hpackNo : msgPackNo s.client.recvBuffer = msgPackNo t.client.recvBuffer)
    (hf : FrameTaken u (processFrame env s) (processFrame env t)) :
    MessageAlike u (processFrame env s) (processFrame env t) := by
  obtain ⟨honly, hsock, hpool, -, href⟩ := processFrame_done env s
  obtain ⟨honly', hsock', hpool', -, href'⟩ := processFrame_done env t
  obtain ⟨hret, hmsg, hup⟩ := hf
  refine ⟨hret, ?_⟩
  generalize processFrame env s = r at *
  generalize processFrame env t = r' at *
  obtain ⟨⟨h1, h2, h3, h4, -, -, h7, h8⟩, -, -⟩ := h
  unfold OnlyReceived at honly honly'
  refine ⟨?_, ?_, ?_, h4.congr ?_ ?_, hmsg, hup, ?_, ?_⟩
  · rw [honly, honly']
    exact h1
  · rw [href, href', ← hret, h2, hpackNo]
  · rw [honly, honly']
    exact h3
  · rw [honly]
    rfl
  · rw [honly']
    rfl
  · rw [hsock, hsock']
    exact h7
  · rw [hpool, hpool']
    exact h8

theorem traceCrc_reading {u : Uploads} {s t : Conn} (h : Reading u s t) : Reading u (traceCrc s) (traceCrc t) := by
  obtain ⟨⟨h1, h2, h3, h4, h5, h6, h7, h8⟩, hl, hr⟩ := h
  exact ⟨⟨h1, h2, h3, h4, h5, h6, h7, h8⟩, hl, hr⟩

theorem processPayload_alike {srv : Server} {env : Env} {u : Uploads} {n : Nat} {s t : Conn} (h : PayloadAlike u n s t)
    (hok : FrameOk srv u n s) : Option.Rel (MessageAlike u) (processPayload srv env n s) (processPayload srv env n t) := by
  obtain ⟨hreading, hhead, hbytes⟩ := h
  obtain ⟨htype, -, hpackNo, hsize⟩ := header_congr hhead
  have halike := hreading.alike
  have hover : sessionOver srv t.client ↔ sessionOver srv s.client := by
    unfold sessionOver
    rw [← htype, ← halike.sending.sendDone]
  unfold processPayload
  simp only [← hpackNo, ← halike.packRef, hover, ← hsize]
  by_cases hold : msgPackNo s.client.recvBuffer ≤ s.client.packRef
  · rw [if_pos hold, if_pos hold]
    exact .some (.dropped halike)
  · rw [if_neg hold, if_neg hold]
    by_cases hend : sessionOver srv s.client
    · rw [if_pos hend, if_pos hend]
      exact .some (.dropped (offline_alike halike))
    · rw [if_neg hend, if_neg hend]
      have hfresh : IsFresh srv s.client := ⟨BitVec.not_le.mp hold, hend⟩
      by_cases hlen : (n : Int) ≠ msgSize s.client.recvBuffer
      · rw [if_pos hlen, if_pos hlen]
        exact sendReTrasmit_alike halike _
      · rw [if_neg hlen, if_neg hlen]
        have hlen := Classical.not_not.mp hlen
        have h4 := hok.min hfresh hlen
        have h12 : dataSizeLen = 12 := rfl
        have h16 : packDataLen = 16 := rfl
        have hframe : SameFrame s.client.recvBuffer t.client.recvBuffer (dataSizeLen + n) :=
          ⟨hbytes hlen, by omega, by omega⟩
        have hcrcLen := crcLength_toNat hok.size.1 hok.size.2
        rw [if_pos h4] at hcrcLen
        have hsame : crcLength s.client.recvBuffer = crcLength t.client.recvBuffer := by
          unfold crcLength
          rw [Buf.u32_congr (Buf.slice_sub hhead (by omega) (by omega))]
        have hcrc : crcOver t.client.recvBuffer packDataLen (crcLength t.client.recvBuffer) =
            crcOver s.client.recvBuffer packDataLen (crcLength s.client.recvBuffer) := by
          unfold crcOver
          rw [← hsame]
          exact congrArg Crc.stosCRC16 (hframe.slice (by omega)).symm
        have hfield : t.client.recvBuffer.u16 12 = s.client.recvBuffer.u16 12 :=
          Buf.u16_congr (hframe.slice (by omega)).symm
        rw [hcrc, hfield]
        have htraced := traceCrc_reading hreading
        by_cases hbad : crcOver s.client.recvBuffer packDataLen (crcLength s.client.recvBuffer) ≠ s.client.recvBuffer.u16 12
        · rw [if_pos hbad, if_pos hbad]
          exact sendReTrasmit_alike htraced.alike _
        · rw [if_neg hbad, if_neg hbad]
          have hinside := hok.inside hfresh hlen (Classical.not_not.mp hbad)
          refine .some (frameTaken_message htraced hpackNo ?_)
          exact processFrame_alike hframe htraced.left htraced.right htraced.alike.uploads
            ⟨halike.sending.fileSendName, halike.sending.fileDataSending⟩ hinside

/-- Header and payload put one behind the other, in two buffers. -/
theorem store_payload_alike {b b' : Buf} (h : b.slice 0 dataSizeLen = b'.slice 0 dataSizeLen) (l : List Byte) :
    (b.store dataSizeLen l).slice 0 dataSizeLen = (b'.store dataSizeLen l).slice 0 dataSizeLen ∧
      (b.store dataSizeLen l).slice 0 (dataSizeLen + l.length) = (b'.store dataSizeLen l).slice 0 (dataSizeLen + l.length) := by
  have hhead := Buf.slice_store_congr h dataSizeLen l
  refine ⟨hhead, ?_⟩
  rw [Buf.slice_add, Buf.slice_add, hhead, Nat.zero_add, Buf.slice_store, Buf.slice_store]

theorem processDefault_alike {srv : Server} {env : Env} {u : Uploads} {s s1 t1 : Conn} (hh : HeaderRead s s1)
    (hdef : IsDefault s1.client.recvBuffer) (h : Reading u s1 t1)
    (hhead : s1.client.recvBuffer.slice 0 dataSizeLen = t1.client.recvBuffer.slice 0 dataSizeLen) (hok : MessageOk srv u s) :
    Option.Rel (MessageAlike u) (processDefault srv env s1) (processDefault srv env t1) := by
  obtain ⟨htype, hid, -, hsize⟩ := header_congr hhead
  unfold processDefault
  simp only [← htype, ← hid, ← hsize]
  by_cases hbad : msgFromID s1.client.recvBuffer < 0 ∨ msgFromID s1.client.recvBuffer ≥ srv.nMaxConnection
  · rw [if_pos hbad, if_pos hbad]
    exact .some (.dropped (offline_alike h.alike))
  · rw [if_neg hbad, if_neg hbad]
    by_cases hty : msgType s1.client.recvBuffer &&& StSockMsg.alldata = 0
    · rw [if_pos hty, if_pos hty]
      exact .some (.dropped h.alike)
    · rw [if_neg hty, if_neg hty]
      by_cases hsz : msgSize s1.client.recvBuffer < 0 ∨ msgSize s1.client.recvBuffer > stsvMaxBuffer
      · rw [if_pos hsz, if_pos hsz]
        exact .some (.dropped (offline_alike h.alike))
      · rw [if_neg hsz, if_neg hsz]
        have hdata : IsData srv s1.client.recvBuffer := ⟨⟨hdef, by omega, by omega⟩, hty, by omega, by omega⟩
        have hread := @readFrom_alike u dataSizeLen (msgSize s1.client.recvBuffer).toNat s1 t1 h
        cases hs : readFrom dataSizeLen (msgSize s1.client.recvBuffer).toNat s1 with
        | none =>
          rw [hs] at hread
          generalize readFrom dataSizeLen (msgSize s1.client.recvBuffer).toNat t1 = y at hread ⊢
          cases hread with
          | none => exact .none
        | some x =>
          obtain ⟨n, s2⟩ := x
          have hd : DataRead srv s s2 n := ⟨s1, hh, hdata, hs⟩
          rw [hs] at hread
          generalize readFrom dataSizeLen (msgSize s1.client.recvBuffer).toNat t1 = y at hread ⊢
          cases hread with
          | @some x y hxy =>
            obtain ⟨n', t2⟩ := y
            obtain ⟨hn, hreading, got, hb, hb', hlen⟩ := hxy
            have hn : n = n' := hn
            subst hn
            simp only at hreading hb hb' hlen ⊢
            obtain ⟨hpre, hall⟩ := store_payload_alike hhead got
            refine processPayload_alike ⟨hreading, ?_, fun he => ?_⟩ (hok.read hd)
            · rw [hb, hb']
              exact hpre
            · rw [hb] at he
              rw [(header_store _ got).2.2.2] at he
              have hn : n = (msgSize s1.client.recvBuffer).toNat := by omega
              rw [hb, hb', hn, ← hlen hn]
              exact hall

/-- **The same message.** -/
theorem message_alike {srv : Server} {env : Env} {u : Uploads} {s t : Conn} (h : Alike u s t) (hok : MessageOk srv u s) :
    Option.Rel (MessageAlike u) (processMessageBuffer srv env s) (processMessageBuffer srv env t) := by
  have hread := @readFrom_alike u 0 dataSizeLen _ _ (startMessage_reading h)
  unfold processMessageBuffer
  cases hs : readFrom 0 dataSizeLen (startMessage s) with
  | none =>
    rw [hs] at hread
    generalize readFrom 0 dataSizeLen (startMessage t) = y at hread ⊢
    cases hread with
    | none => exact .none
  | some x =>
    obtain ⟨n, s1⟩ := x
    have hsplit := readFrom_blocking hs
    rw [hs] at hread
    generalize readFrom 0 dataSizeLen (startMessage t) = y at hread ⊢
    cases hread with
    | @some x y hxy =>
      obtain ⟨n', t1⟩ := y
      obtain ⟨hn, hreading, got, hb, hb', hlen⟩ := hxy
      have hn : n = n' := hn
      subst hn
      simp only at hreading hb hb' hlen ⊢
      by_cases h0 : n = 0
      · rw [if_pos h0, if_pos h0]
        exact .some (.dropped (offline_alike hreading.alike))
      · rw [if_neg h0, if_neg h0]
        have hn : n = dataSizeLen := by
          obtain ⟨got', rs, -, hcase, -⟩ := hsplit
          rcases hcase with ⟨hn, -⟩ | ⟨hn, -⟩
          · exact hn
          · exact absurd hn h0
        have hh : HeaderRead s s1 := by
          unfold HeaderRead
          rw [hs, hn]
        have hhead : s1.client.recvBuffer.slice 0 dataSizeLen = t1.client.recvBuffer.slice 0 dataSizeLen := by
          rw [hb, hb', ← hlen hn, Buf.slice_store, Buf.slice_store]
        have htype := (header_congr hhead).1
        unfold processMessage
        simp only [← htype]
        by_cases hreg : msgType s1.client.recvBuffer = StSockMsg.register
        · rw [if_pos hreg, if_pos hreg]
          exact processRegister_alike hreading hhead
        · rw [if_neg hreg, if_neg hreg]
          by_cases hretr : msgType s1.client.recvBuffer = StSockMsg.retrasmit
          · rw [if_pos hretr, if_pos hretr]
            exact processRetrasmit_alike hreading.alike
          · rw [if_neg hretr, if_neg hretr]
            by_cases hping : msgType s1.client.recvBuffer = StSockMsg.ping
            · rw [if_pos hping, if_pos hping]
              exact .some (.dropped hreading.alike)
            · rw [if_neg hping, if_neg hping]
              exact processDefault_alike hh ⟨hreg, hretr, hping⟩ hreading hhead hok

end StarServer.Socket

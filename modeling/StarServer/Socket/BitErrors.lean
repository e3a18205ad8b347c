/-
  StarServer.Socket.BitErrors — a data frame with one bit turned over on its way.

  The CRC covers the bytes from 16 on, and it is itself in bytes 12 and 13. `numData`
  (bytes 14 and 15) stands between the two: neither side counts it in.

  Proved:
  (1) `dataRead_flip`: the altered frame is read as the frame was, in the same pieces.
  (2) `bit_flip_refused_iff`: of the bits behind the header, exactly those outside `numData`
      get the frame refused and asked for again; with one in `numData` it still passes every
      check.
-/

import StarServer.Socket.ReceiveBounds
import StarServer.Socket.Resend

namespace StarServer.Socket

open StarServer.Memory StarServer.Crc

variable {srv : Server}

/-- Bit `j` of byte `i` of a stream turned over. -/
def flipBit (i j : Nat) (l : List Byte) : List Byte := l.modify i fun b => b ^^^ BitVec.twoPow 8 j

/-- A slot whose peer's bytes arrive so. -/
def flipInput (i j : Nat) (s : Conn) : Conn := { s with sock := { s.sock with inp := flipBit i j s.sock.inp } }

theorem flip_ne (b : Byte) {j : Nat} (hj : j < 8) : b ^^^ BitVec.twoPow 8 j ≠ b := by
  intro h
  have hbit := congrArg (BitVec.getLsbD · j) h
  simp [hj] at hbit

/-! ## Reading streams of one length -/

/-- The blocking loop takes its course from the lengths alone. -/
theorem readLoop_length {count : Nat} {rs : List (Option Nat)} {got inp got' inp' : List Byte}
    (hg : got'.length = got.length) (hi : inp'.length = inp.length) :
    (readLoop count rs got' inp').map (fun r => (r.1, r.2.2.2)) = (readLoop count rs got inp).map fun r => (r.1, r.2.2.2) := by
  induction rs generalizing got inp got' inp' with
  | nil =>
    simp only [readLoop, hg]
    by_cases hlt : got.length < count
    · rw [if_pos hlt, if_pos hlt]
    · rw [if_neg hlt, if_neg hlt]
      rfl
  | cons r rs ih =>
    simp only [readLoop, hg]
    by_cases hlt : got.length < count
    · rw [if_pos hlt, if_pos hlt]
      cases r with
      | none => exact ih hg hi
      | some k =>
        have hpiece : (recvTake k (count - got.length) inp').length = (recvTake k (count - got.length) inp).length := by
          simp only [recvTake, List.length_take, hi]
        have hnil : recvTake k (count - got.length) inp' = [] ↔ recvTake k (count - got.length) inp = [] := by
          rw [← List.length_eq_zero_iff, hpiece, List.length_eq_zero_iff]
        by_cases hend : recvTake k (count - got.length) inp = []
        · simp only [if_pos hend, if_pos (hnil.mpr hend)]
          rfl
        · simp only [if_neg hend, if_neg (fun h => hend (hnil.mp h))]
          refine ih ?_ ?_
          · rw [List.length_append, List.length_append, hg, hpiece]
          · rw [List.length_drop, List.length_drop, hi, hpiece]
    · rw [if_neg hlt, if_neg hlt]
      rfl

theorem readFrom_length {off count n : Nat} {s s' t : Conn} (hr : t.sock.recvs = s.sock.recvs)
    (hi : t.sock.inp.length = s.sock.inp.length) (h : readFrom off count s = some (n, s')) :
    ∃ t', readFrom off count t = some (n, t') ∧ t'.sock.recvs = s'.sock.recvs := by
  have hloop := @readLoop_length count s.sock.recvs [] s.sock.inp [] t.sock.inp rfl hi
  unfold readFrom at h ⊢
  rw [hr]
  cases hs : readLoop count s.sock.recvs [] s.sock.inp with
  | none =>
    rw [hs] at h
    cases h
  | some x =>
    cases ht : readLoop count s.sock.recvs [] t.sock.inp with
    | none =>
      rw [hs, ht] at hloop
      cases hloop
    | some y =>
      rw [hs, ht] at hloop
      rw [hs] at h
      have hxy := Option.some.inj hloop
      obtain ⟨ret, got, inp, rs⟩ := x
      obtain ⟨ret', got', inp', rs'⟩ := y
      have hret : ret' = ret := congrArg Prod.fst hxy
      have hrs : rs' = rs := congrArg Prod.snd hxy
      subst hret hrs
      cases h
      exact ⟨_, rfl, rfl⟩

/-! ## The altered frame in the buffer -/

/-- Two buffers that differ in one bit of byte `i`. -/
structure FlippedAt (i j : Nat) (b b' : Buf) : Prop where
  at_ : b'.mem i = b.mem i ^^^ BitVec.twoPow 8 j
  others : ∀ k, k ≠ i → b'.mem k = b.mem k

theorem FlippedAt.slice {i j a n : Nat} {b b' : Buf} (h : FlippedAt i j b b') (hout : i < a ∨ a + n ≤ i) :
    b'.slice a n = b.slice a n := by
  apply Buf.slice_congr
  intro k h1 h2
  exact h.others k (by omega)

theorem FlippedAt.slice_ne {i j a n : Nat} {b b' : Buf} (h : FlippedAt i j b b') (hj : j < 8) (h1 : a ≤ i)
    (h2 : i < a + n) : b'.slice a n ≠ b.slice a n := by
  intro heq
  have hmem := Buf.mem_of_slice heq h1 h2
  rw [h.at_] at hmem
  exact flip_ne _ hj hmem

/-- A bit the CRC covers. -/
theorem FlippedAt.crc {i j : Nat} {len : BitVec 16} {b b' : Buf} (h : FlippedAt i j b b') (hj : j < 8)
    (h1 : packDataLen ≤ i) (h2 : i < packDataLen + len.toNat) : crcOver b' packDataLen len ≠ crcOver b packDataLen len := by
  have hbefore : b'.slice packDataLen (i - packDataLen) = b.slice packDataLen (i - packDataLen) := h.slice (by omega)
  have hbehind : b'.slice (i + 1) (packDataLen + len.toNat - (i + 1)) = b.slice (i + 1) (packDataLen + len.toNat - (i + 1)) :=
    h.slice (by omega)
  unfold crcOver
  rw [Buf.slice_around b' h1 h2, Buf.slice_around b h1 h2, hbefore, hbehind, h.at_]
  exact stosCRC16_differs _ (flip_ne _ hj) _

theorem FlippedAt.header {i j : Nat} {b b' : Buf} (h : FlippedAt i j b b') (hi : dataSizeLen ≤ i) :
    msgType b' = msgType b ∧ msgFromID b' = msgFromID b ∧ msgPackNo b' = msgPackNo b ∧ msgSize b' = msgSize b :=
  header_congr (h.slice (Or.inr (by omega)))

theorem FlippedAt.crcLength {i j : Nat} {b b' : Buf} (h : FlippedAt i j b b') (hi : dataSizeLen ≤ i) :
    Socket.crcLength b' = Socket.crcLength b := by
  have h12 : dataSizeLen = 12 := rfl
  have h32 : b'.u32 8 = b.u32 8 := Buf.u32_congr (h.slice (Or.inr (by omega)))
  unfold Socket.crcLength
  rw [h32]

theorem flippedAt_store (b : Buf) (a j : Nat) {l : List Byte} {k : Nat} (hk : k < l.length) :
    FlippedAt (a + k) j (b.store a l) (b.store a (l.modify k (· ^^^ BitVec.twoPow 8 j))) := by
  have hlen : (l.modify k (· ^^^ BitVec.twoPow 8 j)).length = l.length := List.length_modify _ _ _
  refine ⟨?_, fun m hm => ?_⟩
  · rw [Buf.mem_store_in hk, Buf.mem_store_in (by omega), List.getElem_modify_eq]
  · by_cases hin : a ≤ m ∧ m < a + l.length
    · obtain ⟨d, rfl⟩ := Nat.exists_eq_add_of_le hin.1
      have hd : d < l.length := by omega
      rw [Buf.mem_store_in hd, Buf.mem_store_in (by omega), List.getElem_modify_ne _ _ (by omega)]
    · rw [Buf.mem_store_out (by omega), Buf.mem_store_out (by omega)]

/-- A payload that `ReadFrom` answered with its size. -/
theorem Payload.whole {s : Conn} {got : List Byte} {n : Nat} (h : Payload s got n)
    (hn : (msgSize (nextHeader s)).toNat = n) :
    n ≤ (s.sock.inp.drop dataSizeLen).length ∧ got = (s.sock.inp.drop dataSizeLen).take n := by
  rcases h with ⟨-, hle, hgot⟩ | ⟨h0, hlt, -⟩
  · rw [hn] at hle hgot
    exact ⟨hle, hgot⟩
  · omega

theorem DataRead.sizes {s u : Conn} {n : Nat} (h : DataRead srv s u n) :
    0 ≤ msgSize u.client.recvBuffer ∧ msgSize u.client.recvBuffer ≤ stsvMaxBuffer := by
  obtain ⟨-, hdata, got, rs, -, -, rfl⟩ := h.eq
  have hsize := (header_store (nextHeader s) got).2.2.2
  exact ⟨hsize ▸ hdata.size, hsize ▸ hdata.sizeLe⟩

/-- **The altered frame is read as the frame was.** -/
theorem dataRead_flip {s u : Conn} {n i j : Nat} (hd : DataRead srv s u n) (hn : (n : Int) = msgSize u.client.recvBuffer)
    (h1 : dataSizeLen ≤ i) (h2 : i < dataSizeLen + n) :
    ∃ t, DataRead srv (flipInput i j s) t n ∧ FlippedAt i j u.client.recvBuffer t.client.recvBuffer ∧
      t.client = { u.client with recvBuffer := t.client.recvBuffer } ∧ t.sock.out = u.sock.out := by
  obtain ⟨s1, hh, hdata, hr⟩ := hd.read
  have hlen : (flipInput i j s).sock.inp.length = s.sock.inp.length := List.length_modify _ _ _
  -- the header is the same, whatever comes behind it
  obtain ⟨t1, hht, hrecvs1⟩ := @readFrom_length 0 dataSizeLen dataSizeLen (startMessage s) s1 (startMessage (flipInput i j s))
    rfl hlen hh
  have htake : (flipBit i j s.sock.inp).take dataSizeLen = s.sock.inp.take dataSizeLen := by
    unfold flipBit
    rw [List.take_modify, List.modify_eq_self]
    rw [List.length_take]
    omega
  have hheader : nextHeader (flipInput i j s) = nextHeader s := congrArg (s.client.recvBuffer.store 0) htake
  obtain ⟨hl12, rs1, -, hs1⟩ := hh.eq
  obtain ⟨-, rs1', -, ht1⟩ := HeaderRead.eq (show HeaderRead (flipInput i j s) t1 from hht)
  have hbuf : t1.client.recvBuffer = s1.client.recvBuffer := by
    rw [hs1, ht1]
    exact hheader
  have hinp : t1.sock.inp.length = s1.sock.inp.length := by
    rw [hs1, ht1]
    simp only [List.length_drop, hlen]
  obtain ⟨t, hrt, -⟩ := readFrom_length hrecvs1 hinp hr
  have hdt : DataRead srv (flipInput i j s) t n := ⟨t1, hht, hbuf ▸ hdata, by rw [hbuf]; exact hrt⟩
  obtain ⟨-, -, got, rs, -, hpay, hu⟩ := hd.eq
  obtain ⟨-, -, got', rs', -, hpay', ht⟩ := hdt.eq
  rw [hheader] at ht
  have hsize : (msgSize (nextHeader s)).toNat = n := by
    have hstore : msgSize u.client.recvBuffer = msgSize (nextHeader s) := by
      rw [hu]
      exact (header_store _ _).2.2.2
    rw [← hstore, ← hn]
    rfl
  obtain ⟨hle, hgot⟩ := hpay.whole hsize
  have hgot' : got' = got.modify (i - dataSizeLen) (· ^^^ BitVec.twoPow 8 j) := by
    obtain ⟨-, hgot'⟩ := hpay'.whole (by rw [hheader]; exact hsize)
    rw [hgot', hgot, ← List.take_modify, ← List.drop_modify_of_ge _ _ _ _ h1]
    rfl
  have hflip : FlippedAt i j ((nextHeader s).store dataSizeLen got) ((nextHeader s).store dataSizeLen got') := by
    have hlt : i - dataSizeLen < got.length := by
      rw [hgot, List.length_take]
      omega
    have hat := flippedAt_store (nextHeader s) dataSizeLen j hlt
    rw [← hgot', show dataSizeLen + (i - dataSizeLen) = i by omega] at hat
    exact hat
  refine ⟨t, hdt, ?_, ?_, ?_⟩
  · rw [hu, ht]
    exact hflip
  · rw [hu, ht]
    rfl
  · rw [hu, ht]
    rfl

/-! ## Its checks -/

/-- Whether the altered frame still passes the CRC check. -/
theorem FlippedAt.intact_iff {i j n : Nat} {b b' : Buf} (h : FlippedAt i j b b') (hj : j < 8) (hi : IsIntact n b)
    (hsize : 0 ≤ msgSize b) (hmax : msgSize b ≤ stsvMaxBuffer) (h1 : dataSizeLen ≤ i) (h2 : i < dataSizeLen + n) :
    IsIntact n b' ↔ i = 14 ∨ i = 15 := by
  have h12 : dataSizeLen = 12 := rfl
  have h16 : packDataLen = 16 := rfl
  have hn := hi.size
  have hlen := crcLength_toNat hsize hmax
  have hsame : crcOver b' packDataLen (Socket.crcLength b') = b'.u16 12 ↔
      crcOver b' packDataLen (Socket.crcLength b) = b'.u16 12 := by rw [h.crcLength h1]
  constructor
  · intro hi'
    have hcrc' := hsame.mp hi'.crc
    by_cases hfield : i < 14
    · -- the CRC field itself
      exfalso
      have hcover : crcOver b' packDataLen (Socket.crcLength b) = crcOver b packDataLen (Socket.crcLength b) :=
        congrArg stosCRC16 (h.slice (by omega))
      have hsame16 : b'.u16 12 = b.u16 12 := by rw [← hcrc', hcover, hi.crc]
      exact h.slice_ne hj (by omega) (by omega) (Buf.slice_of_u16 hsame16)
    · by_cases hcovered : 16 ≤ i
      · exfalso
        rw [if_pos (by omega)] at hlen
        have hfield' : b'.u16 12 = b.u16 12 := Buf.u16_congr (h.slice (by omega))
        have hdiffer : crcOver b' packDataLen (Socket.crcLength b) ≠ crcOver b packDataLen (Socket.crcLength b) :=
          h.crc hj (by omega) (by omega)
        exact hdiffer (by rw [hcrc', hfield', hi.crc])
      · omega
  · intro hnum
    have hcover : crcOver b' packDataLen (Socket.crcLength b) = crcOver b packDataLen (Socket.crcLength b) :=
      congrArg stosCRC16 (h.slice (by omega))
    have hfield' : b'.u16 12 = b.u16 12 := Buf.u16_congr (h.slice (by omega))
    exact ⟨(h.header h1).2.2.2 ▸ hi.size, hsame.mpr (by rw [hcover, hfield', hi.crc])⟩

/-- The frame at the front of the stream is asked for again, and no more. -/
structure Refused (srv : Server) (env : Env) (packNo : BitVec 32) (s : Conn) : Prop where
  asks : ∃ u, processMessageBuffer srv env s = (sendReTrasmit srv u packNo).map fun c => ((-1 : Int), c)
  rejected : ∀ ret c, processMessageBuffer srv env s = some (ret, c) → Rejected packNo s ret c

/-- What the checks make of a new frame. -/
theorem fresh_refused_iff {env : Env} {s u : Conn} {n : Nat} (hd : DataRead srv s u n) (hf : IsFresh srv u.client)
    (hn : (n : Int) = msgSize u.client.recvBuffer) :
    Refused srv env (msgPackNo u.client.recvBuffer) s ↔ ¬ IsIntact n u.client.recvBuffer := by
  have hcall : processMessageBuffer srv env s = processPayload srv env n u := processMessageBuffer_dataRead hd
  simp only [processPayload] at hcall
  rw [if_neg (BitVec.not_le.mpr hf.packNo), if_neg hf.session, if_neg (not_not_intro hn)] at hcall
  by_cases hcrc : crcOver u.client.recvBuffer packDataLen (crcLength u.client.recvBuffer) = u.client.recvBuffer.u16 12
  · rw [if_neg (not_not_intro hcrc)] at hcall
    refine ⟨fun h => ?_, fun h => absurd ⟨hn, hcrc⟩ h⟩
    -- a frame handed on writes nothing
    obtain ⟨w, hw, -⟩ := (h.rejected _ _ hcall).wrote
    have hout := congrArg Sock.out (processFrame_done env (traceCrc u)).sock
    rw [show (traceCrc u).sock.out = s.sock.out from (dataRead_same hd).1] at hout
    exact absurd (congrArg List.length (hout.symm.trans hw)) (by simp)
  · rw [if_pos hcrc] at hcall
    refine ⟨fun _ h => hcrc h.crc, fun _ => ⟨⟨_, hcall⟩, fun ret c h => ?_⟩⟩
    rw [hcall] at h
    exact sendReTrasmit_rejected hd (Or.inr rfl) h

/-- **One bit of a valid frame turned over**, at byte `i` behind the header: the frame is
    refused unless the bit is one of `numData`'s, and then it goes to its handlers. -/
theorem bit_flip_refused_iff {env : Env} {s u : Conn} {n i j : Nat} (hd : DataRead srv s u n) (hf : IsFresh srv u.client)
    (hi : IsIntact n u.client.recvBuffer) (h1 : dataSizeLen ≤ i) (h2 : i < dataSizeLen + n) (hj : j < 8) :
    (Refused srv env (msgPackNo u.client.recvBuffer) (flipInput i j s) ↔ i ≠ 14 ∧ i ≠ 15) ∧
      (i = 14 ∨ i = 15 → ∃ t, DataRead srv (flipInput i j s) t n ∧ IsIntact n t.client.recvBuffer ∧
        processMessageBuffer srv env (flipInput i j s) = some (processFrame env (traceCrc t))) := by
  obtain ⟨t, hdt, hflip, hclient, -⟩ := @dataRead_flip srv s u n i j hd hi.size h1 h2
  obtain ⟨htype, -, hno, hsize⟩ := hflip.header h1
  have hft : IsFresh srv t.client := by
    refine ⟨?_, fun hover => hf.session ?_⟩
    · rw [hno, hclient]
      exact hf.packNo
    · obtain ⟨hone, hdone, hbig, hfile⟩ := hover
      rw [htype] at hbig hfile
      rw [hclient] at hdone
      exact ⟨hone, hdone, hbig, hfile⟩
  have hnt : (n : Int) = msgSize t.client.recvBuffer := by rw [hsize, hi.size]
  obtain ⟨h0, hmax⟩ := hd.sizes
  have hintact := hflip.intact_iff hj hi h0 hmax h1 h2
  refine ⟨?_, fun hnum => ⟨t, hdt, hintact.mpr hnum, ?_⟩⟩
  · rw [← hno, fresh_refused_iff hdt hft hnt, hintact, not_or]
  · obtain ⟨hn, hcrc⟩ := hintact.mpr hnum
    rw [processMessageBuffer_dataRead hdt]
    simp only [processPayload]
    rw [if_neg (BitVec.not_le.mpr hft.packNo), if_neg hft.session, if_neg (not_not_intro hn), if_neg (not_not_intro hcrc)]

/-- The empty frame 1 with the lowest bit of its CRC turned over. -/
theorem bit_flip_refused_crc :
    Refused defaultServer quietEnv 1 (flipInput 12 0 (newConn (emptyFrame 1) [some 12, some 4] [])) := by
  obtain ⟨u, hd, hf, hi, hno⟩ : ∃ u, DataRead defaultServer (newConn (emptyFrame 1) [some 12, some 4] []) u 4 ∧
      IsFresh defaultServer u.client ∧ IsIntact 4 u.client.recvBuffer ∧ msgPackNo u.client.recvBuffer = 1 := by
    refine ⟨_, ⟨_, rfl, ⟨⟨⟨?_, ?_, ?_⟩, ?_, ?_⟩, ?_, ?_, ?_⟩, rfl⟩, ⟨?_, ?_⟩, ⟨?_, ?_⟩, ?_⟩
    all_goals decide +kernel
  have hall := @bit_flip_refused_iff defaultServer quietEnv _ u 4 12 0 hd hf hi (by decide) (by decide) (by decide)
  rw [← hno]
  exact hall.1.mpr ⟨by decide, by decide⟩

/-- **A bit of `numData`.** The handler runs for the empty frame 1, and as well when the
    frame arrives with its `numData` changed from 0 to 1. -/
theorem bit_flip_taken :
    ((processMessageBuffer defaultServer quietEnv (newConn (emptyFrame 1) [some 12, some 4] [])).map fun r =>
      (r.1, numData r.2.client.recvBuffer)) = some (0, 0) ∧
    ((processMessageBuffer defaultServer quietEnv (flipInput 14 0 (newConn (emptyFrame 1) [some 12, some 4] []))).map fun r =>
      (r.1, numData r.2.client.recvBuffer)) = some (0, 1) := by
  decide +kernel

end StarServer.Socket

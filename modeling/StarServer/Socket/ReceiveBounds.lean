/-
  StarServer.Socket.ReceiveBounds — which headers make the server read past
  `recvBuffer`, or take the CRC of bytes the frame does not have.

  The size check (`// Hack System`) compares the payload with the whole buffer and
  forgets that it goes in at offset 12; the REGISTER payload is checked after the read
  only; the CRC's length is `size - 4` as a `u16`, about 65532 for sizes under 4.

  Proved:
    * `access_inBounds_iff`: a call's accesses are in bounds exactly when the header at
      the front of the stream is one of `ReadsFit`;
    * `receive_bounds`: so for runs, over every history of the slot;
    * `receive_bounds_fail`: size 65536 and size 0, both accepted.
-/

import StarServer.Socket.Calls
import StarServer.Socket.Dispatch

namespace StarServer.Socket

open StarServer.Memory

/-- A read of a non-negative count that ends inside `recvBuffer`; a CRC over exactly the
    bytes after the 16 of the header, up to the frame's end. -/
def Access.InBounds : Access → Prop
  | .recv off count => 0 ≤ count ∧ off + count ≤ stsvMaxBuffer
  | .crc off len size => off = packDataLen ∧ off + len = dataSizeLen + size ∧ off + len ≤ stsvMaxBuffer

instance (a : Access) : Decidable a.InBounds := by
  cases a <;> (unfold Access.InBounds; infer_instance)

variable (srv : Server)

/-- The message at the front of the stream gets as far as its CRC. -/
def ReachesCrc (s : Conn) : Prop :=
  IsFresh srv { s.client with recvBuffer := nextHeader s } ∧ dataSizeLen + msgSize (nextHeader s) ≤ s.sock.inp.length

/-- The sizes the accesses are right for. -/
structure ReadsFit (s : Conn) : Prop where
  register : dataSizeLen ≤ s.sock.inp.length → msgType (nextHeader s) = StSockMsg.register →
    0 ≤ msgSize (nextHeader s) ∧ dataSizeLen + msgSize (nextHeader s) ≤ stsvMaxBuffer
  data : dataSizeLen ≤ s.sock.inp.length → IsData srv (nextHeader s) →
    dataSizeLen + msgSize (nextHeader s) ≤ stsvMaxBuffer
  crc : dataSizeLen ≤ s.sock.inp.length → IsData srv (nextHeader s) → ReachesCrc srv s → 4 ≤ msgSize (nextHeader s)

/-! ## One call -/

theorem recv_header_inBounds : (Access.recv 0 dataSizeLen).InBounds := by decide

theorem recv_payload_inBounds {size : Int} (h : 0 ≤ size) :
    (Access.recv dataSizeLen size.toNat).InBounds ↔ dataSizeLen + size ≤ stsvMaxBuffer := by
  unfold Access.InBounds
  omega

theorem crcLength_toNat {b : Buf} (h0 : 0 ≤ msgSize b) (h1 : msgSize b ≤ stsvMaxBuffer) :
    ((crcLength b).toNat : Int) = if 4 ≤ msgSize b then msgSize b - 4 else 65532 + msgSize b := by
  unfold msgSize stsvMaxBuffer at *
  have hlt := (b.u32 8).isLt
  have hnat : (b.u32 8).toInt = (b.u32 8).toNat := by
    rw [BitVec.toInt_eq_toNat_cond] at h0 ⊢
    by_cases hsign : 2 * (b.u32 8).toNat < 2 ^ 32
    · rw [if_pos hsign]
    · rw [if_neg hsign] at h0
      omega
  rw [hnat] at h0 h1 ⊢
  have hlen : (crcLength b).toNat = (2 ^ 32 - 4 + (b.u32 8).toNat) % 2 ^ 32 % 2 ^ 16 := by
    rw [crcLength, BitVec.toNat_setWidth, BitVec.toNat_sub]
    rfl
  rw [hlen]
  split <;> omega

theorem crc_inBounds {b : Buf} (h0 : 0 ≤ msgSize b) (h1 : msgSize b ≤ stsvMaxBuffer) :
    (Access.crc packDataLen (crcLength b).toNat (msgSize b)).InBounds ↔
      4 ≤ msgSize b ∧ dataSizeLen + msgSize b ≤ stsvMaxBuffer := by
  have hlen := crcLength_toNat h0 h1
  have h16 : packDataLen = 16 := rfl
  have h12 : dataSizeLen = 12 := rfl
  unfold Access.InBounds
  by_cases h4 : 4 ≤ msgSize b
  · rw [if_pos h4] at hlen
    omega
  · rw [if_neg h4] at hlen
    omega

/-- A call's accesses are exactly the ones in `extra`, and they are in bounds exactly
    when the header allows it. -/
structure Accesses (s s' : Conn) (extra : List Access) : Prop where
  trace : s'.trace = s.trace ++ extra
  inBounds : (∀ a ∈ extra, a.InBounds) ↔ ReadsFit srv s

variable {srv}

/-- No payload is read for this header. -/
theorem readsFit_of_header {s : Conn} (hreg : msgType (nextHeader s) ≠ StSockMsg.register)
    (hdata : ¬ IsData srv (nextHeader s)) : ReadsFit srv s :=
  ⟨fun _ h => absurd h hreg, fun _ h => absurd h hdata, fun _ h => absurd h hdata⟩

theorem header_accesses {s s' : Conn} (ht : s'.trace = s.trace ++ [.recv 0 dataSizeLen]) (h : ReadsFit srv s) :
    Accesses srv s s' [.recv 0 dataSizeLen] := by
  refine ⟨ht, fun _ => h, fun _ a ha => ?_⟩
  rw [List.mem_singleton.mp ha]
  exact recv_header_inBounds

theorem register_accesses {s s' : Conn} (hlen : dataSizeLen ≤ s.sock.inp.length)
    (hreg : msgType (nextHeader s) = StSockMsg.register)
    (ht : s'.trace = s.trace ++ [.recv 0 dataSizeLen, .recv dataSizeLen (msgSize (nextHeader s))]) :
    Accesses srv s s' [.recv 0 dataSizeLen, .recv dataSizeLen (msgSize (nextHeader s))] := by
  refine ⟨ht, fun h => ?_, fun h a ha => ?_⟩
  · have hno : ¬ IsData srv (nextHeader s) := fun hd => hd.notRegister hreg
    have hrecv := h (.recv dataSizeLen (msgSize (nextHeader s))) (by simp)
    exact ⟨fun _ _ => hrecv, fun _ hd => absurd hd hno, fun _ hd => absurd hd hno⟩
  · rcases List.mem_cons.mp ha with rfl | ha
    · exact recv_header_inBounds
    · rw [List.mem_singleton.mp ha]
      exact h.register hlen hreg

/-- A data message whose payload was read and then dropped before its CRC. -/
theorem dropped_accesses {s s' : Conn} (hlen : dataSizeLen ≤ s.sock.inp.length) (hd : IsData srv (nextHeader s))
    (hno : ¬ ReachesCrc srv s)
    (ht : s'.trace = s.trace ++ [.recv 0 dataSizeLen, .recv dataSizeLen (msgSize (nextHeader s)).toNat]) :
    Accesses srv s s' [.recv 0 dataSizeLen, .recv dataSizeLen (msgSize (nextHeader s)).toNat] := by
  have hiff := recv_payload_inBounds hd.size
  refine ⟨ht, fun h => ?_, fun h a ha => ?_⟩
  · have hrecv := hiff.mp (h (.recv dataSizeLen (msgSize (nextHeader s)).toNat) (by simp))
    exact ⟨fun _ hr => absurd hr hd.notRegister, fun _ _ => hrecv, fun _ _ hc => absurd hc hno⟩
  · rcases List.mem_cons.mp ha with rfl | ha
    · exact recv_header_inBounds
    · rw [List.mem_singleton.mp ha]
      exact hiff.mpr (h.data hlen hd)

/-- A data message whose CRC is computed. -/
theorem checked_accesses {s s' : Conn} {b : Buf} (hlen : dataSizeLen ≤ s.sock.inp.length)
    (hd : IsData srv (nextHeader s)) (hc : ReachesCrc srv s) (hb : msgSize b = msgSize (nextHeader s))
    (ht : s'.trace = s.trace ++ [.recv 0 dataSizeLen, .recv dataSizeLen (msgSize (nextHeader s)).toNat,
      .crc packDataLen (crcLength b).toNat (msgSize b)]) :
    Accesses srv s s' [.recv 0 dataSizeLen, .recv dataSizeLen (msgSize (nextHeader s)).toNat,
      .crc packDataLen (crcLength b).toNat (msgSize b)] := by
  have hiff := recv_payload_inBounds hd.size
  have hcrc := crc_inBounds (b := b) (by rw [hb]; exact hd.size) (by rw [hb]; exact hd.sizeLe)
  rw [hb] at hcrc ht ⊢
  refine ⟨ht, fun h => ?_, fun h a ha => ?_⟩
  · have hrecv := hiff.mp (h (.recv dataSizeLen (msgSize (nextHeader s)).toNat) (by simp))
    have hall := hcrc.mp (h (.crc packDataLen (crcLength b).toNat (msgSize (nextHeader s))) (by simp))
    exact ⟨fun _ hr => absurd hr hd.notRegister, fun _ _ => hrecv, fun _ _ _ => hall.1⟩
  · rcases List.mem_cons.mp ha with rfl | ha
    · exact recv_header_inBounds
    · rcases List.mem_cons.mp ha with rfl | ha
      · exact hiff.mpr (h.data hlen hd)
      · rw [List.mem_singleton.mp ha]
        exact hcrc.mpr ⟨h.crc hlen hd hc, h.data hlen hd⟩

theorem sendDataSizeMsg_trace {s s' : Conn} {msg : Buf} (h : sendDataSizeMsg srv s msg = some s') : s'.trace = s.trace := by
  unfold sendDataSizeMsg at h
  split at h
  · cases h
  · cases h
    rfl

/-- Whether a data message reaches its CRC, from the slot as it is after the read. -/
theorem reachesCrc_iff {s s2 : Conn} {n : Nat} (h : DataRead srv s s2 n) :
    ReachesCrc srv s ↔ IsFresh srv s2.client ∧ (n : Int) = msgSize s2.client.recvBuffer := by
  obtain ⟨hlen, hd, got, rs, -, hpay, rfl⟩ := h.eq
  obtain ⟨htype, -, hno, hsize⟩ := header_store (nextHeader s) got
  have h0 := hd.size
  have hdrop : (s.sock.inp.drop dataSizeLen).length = s.sock.inp.length - dataSizeLen := List.length_drop
  have hfresh : IsFresh srv { s.client with recvBuffer := nextHeader s } ↔
      IsFresh srv { s.client with recvCount := 0, recvBuffer := (nextHeader s).store dataSizeLen got } := by
    constructor
    · rintro ⟨h1, h2⟩
      refine ⟨?_, fun h3 => h2 ?_⟩
      · simpa only [hno] using h1
      · unfold sessionOver at h3 ⊢
        simpa only [htype] using h3
    · rintro ⟨h1, h2⟩
      refine ⟨?_, fun h3 => h2 ?_⟩
      · simpa only [hno] using h1
      · unfold sessionOver at h3 ⊢
        simpa only [htype] using h3
  have hwhole : dataSizeLen + msgSize (nextHeader s) ≤ s.sock.inp.length ↔ (n : Int) = msgSize (nextHeader s) := by
    rcases hpay with ⟨hn, hle, -⟩ | ⟨hn, hlt, -⟩
    · omega
    · omega
  unfold ReachesCrc
  simp only [hsize]
  rw [hfresh, hwhole]

/-- **One call.** -/
theorem access_inBounds_iff {env : Env} {s s' : Conn} {ret : Int} (h : processMessageBuffer srv env s = some (ret, s')) :
    ∃ extra, Accesses srv s s' extra := by
  cases processMessageBuffer_outcome h with
  | closed s1 h1 =>
    obtain ⟨got, rs, -, hcase, rfl⟩ := readFrom_blocking h1
    have hshort : s.sock.inp.length < dataSizeLen := by
      rcases hcase with ⟨h0, -⟩ | ⟨-, hlt, -⟩
      · exact absurd h0 (by decide)
      · exact hlt
    exact ⟨_, header_accesses rfl ⟨fun h => by omega, fun h => by omega, fun h => by omega⟩⟩
  | registerBad s1 s2 n hh hty hr hn =>
    obtain ⟨hlen, rs, -, rfl⟩ := hh.eq
    refine ⟨_, register_accesses hlen hty ?_⟩
    rw [show (offline s2).trace = s2.trace from rfl, readFromNonBlocking_trace hr]
    simp
  | register s1 s2 r sock hh hty hr hw =>
    obtain ⟨hlen, rs, -, rfl⟩ := hh.eq
    refine ⟨_, register_accesses hlen hty ?_⟩
    show s2.trace = _
    rw [readFromNonBlocking_trace hr]
    simp
  | retrasmit s1 r sock hh hty hw =>
    obtain ⟨-, rs, -, rfl⟩ := hh.eq
    refine ⟨_, header_accesses rfl (readsFit_of_header (fun hreg => ?_) fun hd => hd.notRetrasmit hty)⟩
    exact absurd (hreg.symm.trans hty) (by decide)
  | ping s1 hh hty =>
    obtain ⟨-, rs, -, rfl⟩ := hh.eq
    refine ⟨_, header_accesses rfl (readsFit_of_header (fun hreg => ?_) fun hd => hd.notPing hty)⟩
    exact absurd (hreg.symm.trans hty) (by decide)
  | hack s1 hh hdef hbad =>
    obtain ⟨-, rs, -, rfl⟩ := hh.eq
    refine ⟨_, header_accesses rfl (readsFit_of_header hdef.notRegister fun hd => ?_)⟩
    rcases hbad with hk | ⟨-, hnd⟩
    · exact hk hd.toIsKnown
    · exact hnd hd
  | unknown s1 hh hk hty =>
    obtain ⟨-, rs, -, rfl⟩ := hh.eq
    exact ⟨_, header_accesses rfl (readsFit_of_header hk.notRegister fun hd => hd.type hty)⟩
  | old s2 n hd hold =>
    have hno := mt (reachesCrc_iff hd).mp fun hf => absurd hold (BitVec.not_le.mpr hf.1.packNo)
    obtain ⟨hlen, hdata, got, rs, -, -, rfl⟩ := hd.eq
    exact ⟨_, dropped_accesses hlen hdata hno rfl⟩
  | ahead s2 n hd hnew hover =>
    have hno := mt (reachesCrc_iff hd).mp fun hf => hf.1.session hover
    obtain ⟨hlen, hdata, got, rs, -, -, rfl⟩ := hd.eq
    exact ⟨_, dropped_accesses hlen hdata hno rfl⟩
  | badLength s2 s3 n hd hfresh hn hs =>
    have hno := mt (reachesCrc_iff hd).mp fun hf => hn hf.2
    have ht := sendDataSizeMsg_trace hs
    obtain ⟨hlen, hdata, got, rs, -, -, rfl⟩ := hd.eq
    exact ⟨_, dropped_accesses hlen hdata hno ht⟩
  | badCrc s2 s3 n hd hfresh hn hcrc hs =>
    have hyes := (reachesCrc_iff hd).mpr ⟨hfresh, hn⟩
    have ht := sendDataSizeMsg_trace hs
    obtain ⟨hlen, hdata, got, rs, -, -, rfl⟩ := hd.eq
    refine ⟨_, checked_accesses hlen hdata hyes (header_store (nextHeader s) got).2.2.2 ?_⟩
    rw [ht]
    simp [traceCrc]
  | accepted s2 n hd hfresh hi =>
    have hyes := (reachesCrc_iff hd).mpr ⟨hfresh, hi.size⟩
    have ht := (processFrame_done env (traceCrc s2)).trace
    obtain ⟨hlen, hdata, got, rs, -, -, rfl⟩ := hd.eq
    refine ⟨_, checked_accesses hlen hdata hyes (header_store (nextHeader s) got).2.2.2 ?_⟩
    rw [ht]
    simp [traceCrc]

/-! ## Runs -/

/-- Every access of the connection so far is in bounds. -/
def AccessesOk (s : Slot) : Prop := ∀ a ∈ s.conn.trace, a.InBounds

/-- A step whose message, if it is one, has a size the accesses are right for. -/
def StepFits (srv : Server) (s : Slot) : Ev → Prop
  | .message _ => ReadsFit srv s.conn
  | _ => True

theorem message_accessesOk {env : Env} {s : Slot} {c : Conn} {ret : Int} (hs : AccessesOk s)
    (h : processMessageBuffer srv env s.conn = some (ret, c)) : (∀ a ∈ c.trace, a.InBounds) ↔ ReadsFit srv s.conn := by
  obtain ⟨extra, ht, hin⟩ := access_inBounds_iff h
  rw [ht, ← hin]
  constructor
  · intro hall a ha
    exact hall a (List.mem_append_right _ ha)
  · intro hall a ha
    rcases List.mem_append.mp ha with ha | ha
    · exact hs a ha
    · exact hall a ha

theorem endPacked_trace {env : Env} {s s' : Conn} (h : EndPacked srv env s s') : s'.trace = s.trace := by
  cases h with
  | frame => rfl
  | confirm => rfl

/-- Only a message step can leave bounds, and only when its header does not fit. -/
theorem step_accessesOk {s s' : Slot} {e : Ev} (hs : AccessesOk s) (h : step srv s e = some s') :
    AccessesOk s' ↔ StepFits srv s e := by
  cases step_stepped h with
  | accept =>
    refine ⟨fun _ => trivial, fun _ a ha => ?_⟩
    cases ha
  | handled env c _ _ hm => exact message_accessesOk hs hm
  | dropped env c ret _ _ _ hm => exact message_accessesOk hs hm
  | timeout => exact ⟨fun _ => trivial, fun _ => hs⟩
  | endPack env c _ hc =>
    refine ⟨fun _ => trivial, fun _ a ha => hs a ?_⟩
    rw [← endPacked_trace hc]
    exact ha
  | call env a r c hc =>
    refine ⟨fun _ => trivial, fun _ a ha => hs a ?_⟩
    rw [← (doCall_done hc).trace]
    exact ha

variable (srv)

/-- **The accesses of a run are in bounds, at every state of it, exactly when every
    message it takes fits.** -/
theorem receive_bounds {recvMem sendMem : Nat → Byte} {fs : FS} {pool : List BigDataBlock} {es : List Ev} {s : Slot}
    (h : Runs.run (step srv) (freshSlot recvMem sendMem fs pool) es = some s) :
    Runs.RunAll (step srv) AccessesOk (freshSlot recvMem sendMem fs pool) es ↔
      Runs.RunOk (step srv) (StepFits srv) (freshSlot recvMem sendMem fs pool) es := by
  refine Runs.runAll_iff_runOk (step srv) (fun s e s' hs he => step_accessesOk hs he) (fun a ha => ?_) h
  cases ha

/-- A slot's first connection, whose one message is a data frame with a one-entry table. -/
theorem receive_bounds_one : ∃ s, Runs.run (step defaultServer) emptySlot
    [.accept 0 [1, 0, 0, 0, 1, 0, 0, 0, 6, 0, 0, 0, 0, 0, 1, 0, 0, 0] [some 12, some 6] [some 12], .message quietEnv] =
      some s ∧
    (Runs.RunAll (step defaultServer) AccessesOk emptySlot
        [.accept 0 [1, 0, 0, 0, 1, 0, 0, 0, 6, 0, 0, 0, 0, 0, 1, 0, 0, 0] [some 12, some 6] [some 12],
          .message quietEnv] ↔
      Runs.RunOk (step defaultServer) (StepFits defaultServer) emptySlot
        [.accept 0 [1, 0, 0, 0, 1, 0, 0, 0, 6, 0, 0, 0, 0, 0, 1, 0, 0, 0] [some 12, some 6] [some 12],
          .message quietEnv]) := by
  obtain ⟨s, h⟩ : ∃ s, Runs.run (step defaultServer) emptySlot
      [.accept 0 [1, 0, 0, 0, 1, 0, 0, 0, 6, 0, 0, 0, 0, 0, 1, 0, 0, 0] [some 12, some 6] [some 12],
        .message quietEnv] = some s := ⟨_, rfl⟩
  exact ⟨s, h, receive_bounds defaultServer h⟩

/-- **A data header of size 65536, and a REGISTER of size -1.** The first asks for bytes
    up to 65548 of `recvBuffer`; the second asks for 2^64 - 1 bytes, gets the 24 of the
    register message, and is answered. -/
theorem receive_bounds_fail :
    (∃ s, Runs.run (step defaultServer) emptySlot
      [.accept 0 [1, 0, 0, 0, 1, 0, 0, 0, 0, 0, 1, 0] [some 12, some 1] [some 12, some 12], .message quietEnv] = some s ∧
      ¬ AccessesOk s) ∧
    (∃ s, Runs.run (step defaultServer) emptySlot
      [.accept 0 ([0xfb, 0xff, 0, 0, 0, 0, 0, 0, 0xff, 0xff, 0xff, 0xff] ++ List.replicate 24 0) [some 12, some 24]
        [some 12, some 12], .message quietEnv] = some s ∧
      s.conn.client.online = true ∧ ¬ AccessesOk s) := by
  refine ⟨⟨_, rfl, fun h => ?_⟩, ⟨_, rfl, by decide +kernel, fun h => ?_⟩⟩
  · exact absurd (h (.recv 12 65536) (by decide +kernel)) (by decide)
  · exact absurd (h (.recv 12 (-1)) (by decide +kernel)) (by decide)

end StarServer.Socket

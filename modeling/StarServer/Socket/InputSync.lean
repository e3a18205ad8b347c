/-
  StarServer.Socket.InputSync — when a call of `processMessageBuffer` takes exactly the
  message at the front of the stream.

  A data message's payload is read; a REGISTER's is read in one piece and must be 24 bytes,
  whatever its size field says; RETRASMIT, PING and unknown types have no payload read at
  all ("it should destroy data by recieve all data in socket"), so what they carry is taken
  for the next header.

  Proved:
    * `consumed_iff_drained`: a call that leaves the client online has taken its message
      exactly when the header is one of `Drained`;
    * `input_in_sync`: so for runs, over every history of the slot;
    * `stream_framed`: over such a run the bytes taken are messages end to end;
    * `input_out_of_sync`: a PING with a payload, whose payload is then handled as a frame.
-/

import StarServer.Framing.Stream
import StarServer.Socket.Calls
import StarServer.Socket.Dispatch

namespace StarServer.Socket

open StarServer.Memory StarServer.Framing

/-- The call took one message off the stream: a header, and as many bytes as it says. -/
def Consumed (s s' : Conn) : Prop := ∃ frame, IsFrame dataSizeLen wireSize frame ∧ s.sock.inp = frame ++ s'.sock.inp

variable (srv : Server)

/-- The headers whose payload is read as far as it goes. -/
structure Drained (s : Conn) : Prop where
  register : msgType (nextHeader s) = StSockMsg.register → msgSize (nextHeader s) = 24
  retrasmit : msgType (nextHeader s) = StSockMsg.retrasmit → msgSize (nextHeader s) = 0
  ping : msgType (nextHeader s) = StSockMsg.ping → msgSize (nextHeader s) = 0
  unknown : IsKnown srv (nextHeader s) → msgType (nextHeader s) &&& StSockMsg.alldata = 0 → msgSize (nextHeader s) = 0
  data : IsData srv (nextHeader s) → dataSizeLen + msgSize (nextHeader s) ≤ s.sock.inp.length

variable {srv}

/-! ## One call -/

theorem wireSize_header {s : Conn} (hlen : dataSizeLen ≤ s.sock.inp.length) :
    wireSize (s.sock.inp.take dataSizeLen) = ((nextHeader s).u32 8).toNat := by
  have htake : (s.sock.inp.take dataSizeLen).length = dataSizeLen := List.length_take_of_le hlen
  have hslice : (nextHeader s).slice 0 dataSizeLen = s.sock.inp.take dataSizeLen := Buf.slice_store_eq _ htake
  rw [← wireSize_slice _ (Nat.le_refl _), hslice, List.take_take, Nat.min_self]

/-- A size in range, signed and unsigned. -/
theorem msgSize_eq_iff {b : Buf} {k : Nat} (hk : k < 2 ^ 31) : msgSize b = k ↔ (b.u32 8).toNat = k := by
  have hlt := (b.u32 8).isLt
  unfold msgSize
  rw [BitVec.toInt_eq_toNat_cond]
  split
  · omega
  · omega

/-- A call that has taken `k` bytes, the header among them. -/
theorem consumed_drop {s s' : Conn} {k : Nat} (hk : k ≤ s.sock.inp.length) (h12 : dataSizeLen ≤ k) (hlt : k < 2 ^ 31)
    (h : s'.sock.inp = s.sock.inp.drop k) : Consumed s s' ↔ dataSizeLen + msgSize (nextHeader s) = k := by
  have hsize := @msgSize_eq_iff (nextHeader s) (k - dataSizeLen) (by omega)
  have hwire := wireSize_header (s := s) (by omega)
  have hframe (l : List Byte) (hl : s.sock.inp = l ++ s'.sock.inp) (hh : dataSizeLen ≤ l.length) :
      l.take dataSizeLen = s.sock.inp.take dataSizeLen := by
    rw [hl, List.take_append_of_le_length hh]
  constructor
  · rintro ⟨frame, hf, happ⟩
    have hlength := congrArg List.length happ
    rw [h, List.length_append, List.length_drop] at hlength
    have hflen := hf.length
    rw [hframe frame happ hf.header, hwire] at hflen
    omega
  · intro heq
    have htake : (s.sock.inp.take k).length = k := List.length_take_of_le hk
    have happ : s.sock.inp = s.sock.inp.take k ++ s'.sock.inp := by rw [h, List.take_append_drop]
    refine ⟨s.sock.inp.take k, ⟨by omega, ?_⟩, happ⟩
    rw [hframe _ happ (by omega), hwire, htake]
    omega

/-- Where only the header has been read, nothing may follow it. -/
theorem consumed_header {s s' : Conn} (hlen : dataSizeLen ≤ s.sock.inp.length)
    (h : s'.sock.inp = s.sock.inp.drop dataSizeLen) : Consumed s s' ↔ msgSize (nextHeader s) = 0 := by
  rw [consumed_drop hlen (Nat.le_refl _) (by decide) h]
  omega

theorem dataRead_consumed {s s2 s' : Conn} {n : Nat} (hd : DataRead srv s s2 n) (hinp : s'.sock.inp = s2.sock.inp) :
    Consumed s s' ↔ Drained srv s := by
  obtain ⟨hlen, hdata, got, rs, -, hpay, rfl⟩ := hd.eq
  have h0 := hdata.size
  have h1 := hdata.sizeLe
  have h64 : stsvMaxBuffer = 65536 := rfl
  have h12 : dataSizeLen = 12 := rfl
  have hdrained : Drained srv s ↔ dataSizeLen + msgSize (nextHeader s) ≤ s.sock.inp.length :=
    ⟨fun h => h.data hdata, fun h => ⟨fun ht => absurd ht hdata.notRegister, fun ht => absurd ht hdata.notRetrasmit,
      fun ht => absurd ht hdata.notPing, fun _ ht => absurd ht hdata.type, fun _ => h⟩⟩
  have hdrop : (s.sock.inp.drop dataSizeLen).length = s.sock.inp.length - dataSizeLen := List.length_drop
  have hinp' : s'.sock.inp = s.sock.inp.drop (dataSizeLen + got.length) := by
    rw [hinp, ← List.drop_drop]
  rw [hdrained]
  rcases hpay with ⟨-, hle, rfl⟩ | ⟨-, hlt, rfl⟩
  · rw [List.length_take_of_le hle] at hinp'
    rw [consumed_drop (by omega) (by omega) (by omega) hinp']
    omega
  · rw [hdrop] at hinp'
    rw [consumed_drop (by omega) (by omega) (by omega) hinp']
    omega

/-- **One call that leaves the client online.** -/
theorem consumed_iff_drained {env : Env} {s s' : Conn} {ret : Int} (h : processMessageBuffer srv env s = some (ret, s'))
    (hon : s'.client.online = true) : Consumed s s' ↔ Drained srv s := by
  cases processMessageBuffer_outcome h with
  | closed s1 _ => cases hon
  | registerBad s1 s2 n _ _ _ _ => cases hon
  | hack s1 _ _ _ => cases hon
  | ahead s2 n _ _ _ => cases hon
  | register s1 s2 r sock hh hty hr hw =>
    obtain ⟨hlen, rs, -, rfl⟩ := hh.eq
    obtain ⟨piece, rs', hret, happ, rfl⟩ := readFromNonBlocking_cases hr
    have hpiece : piece.length = 24 := by
      rcases hret with ⟨h1, -⟩ | h1
      · omega
      · omega
    obtain ⟨sent, rs'', -, rfl, -⟩ := writeTo_cases hw
    have hlen' : dataSizeLen + 24 ≤ s.sock.inp.length := by
      have := congrArg List.length happ
      simp only [List.length_append, List.length_drop] at this
      omega
    have hty : msgType (nextHeader s) = StSockMsg.register := hty
    rw [consumed_drop hlen' (by decide) (by decide) (by rw [← List.drop_drop, ← hpiece])]
    constructor
    · intro hsize
      exact ⟨fun _ => by omega, fun ht => absurd (hty.symm.trans ht) (by decide),
        fun ht => absurd (hty.symm.trans ht) (by decide), fun hk => absurd hty hk.notRegister,
        fun hd => absurd hty hd.notRegister⟩
    · intro hdr
      have := hdr.register hty
      omega
  | retrasmit s1 r sock hh hty hw =>
    obtain ⟨hlen, rs, -, rfl⟩ := hh.eq
    obtain ⟨sent, rs', -, rfl, -⟩ := writeTo_cases hw
    have hty : msgType (nextHeader s) = StSockMsg.retrasmit := hty
    rw [consumed_header hlen rfl]
    refine ⟨fun hsize => ⟨fun ht => absurd (hty.symm.trans ht) (by decide), fun _ => hsize, fun _ => hsize,
      fun _ _ => hsize, fun hd => absurd hty hd.notRetrasmit⟩, fun hdr => hdr.retrasmit hty⟩
  | ping s1 hh hty =>
    obtain ⟨hlen, rs, -, rfl⟩ := hh.eq
    have hty : msgType (nextHeader s) = StSockMsg.ping := hty
    rw [consumed_header hlen rfl]
    refine ⟨fun hsize => ⟨fun ht => absurd (hty.symm.trans ht) (by decide), fun _ => hsize, fun _ => hsize,
      fun _ _ => hsize, fun hd => absurd hty hd.notPing⟩, fun hdr => hdr.ping hty⟩
  | unknown s1 hh hk hty =>
    obtain ⟨hlen, rs, -, rfl⟩ := hh.eq
    have hk : IsKnown srv (nextHeader s) := hk
    rw [consumed_header hlen rfl]
    refine ⟨fun hsize => ⟨fun ht => absurd ht hk.notRegister, fun _ => hsize, fun _ => hsize, fun _ _ => hsize,
      fun hd => absurd hty hd.type⟩, fun hdr => hdr.unknown hk hty⟩
  | old s2 n hd _ => exact dataRead_consumed hd rfl
  | badLength s2 s3 n hd _ _ hs =>
    obtain ⟨r, sock, hw, rfl⟩ := sendDataSizeMsg_done hs
    obtain ⟨sent, rs, -, rfl, -⟩ := writeTo_cases hw
    exact dataRead_consumed hd rfl
  | badCrc s2 s3 n hd _ _ _ hs =>
    obtain ⟨r, sock, hw, rfl⟩ := sendDataSizeMsg_done hs
    obtain ⟨sent, rs, -, rfl, -⟩ := writeTo_cases hw
    exact dataRead_consumed hd rfl
  | accepted s2 n hd _ _ =>
    refine dataRead_consumed hd ?_
    rw [(processFrame_done env (traceCrc s2)).sock]
    rfl

/-! ## Runs -/

variable (srv)

/-- `P` holds of every message call that leaves the client online, with the slot before
    and after it. -/
def OnCalls (P : Conn → Conn → Prop) (s : Slot) : Ev → Prop
  | .message env => ∀ ret c, processMessageBuffer srv env s.conn = some (ret, c) → c.client.online = true → P s.conn c
  | _ => True

/-- The call takes exactly its message. -/
def CallInSync : Slot → Ev → Prop := OnCalls srv Consumed

/-- The call's header is one of `Drained`. -/
def CallDrained : Slot → Ev → Prop := OnCalls srv fun s _ => Drained srv s

variable {srv}

theorem callInSync_iff (s : Slot) (e : Ev) : CallInSync srv s e ↔ CallDrained srv s e := by
  cases e with
  | message env =>
    constructor
    · intro h ret c hm hon
      exact (consumed_iff_drained hm hon).mp (h ret c hm hon)
    · intro h ret c hm hon
      exact (consumed_iff_drained hm hon).mpr (h ret c hm hon)
  | _ => exact Iff.rfl

/-! ## What a connection takes off its stream -/

/-- The bytes taken off the stream `inp`, while the client is online, are messages end to end. -/
def TakenFramed (inp : List Byte) (s : Slot) : Prop :=
  s.conn.client.online = true → ∃ taken, Framed dataSizeLen wireSize taken ∧ inp = taken ++ s.conn.sock.inp

theorem call_takenFramed {env : Env} {inp : List Byte} {s : Slot} {c : Conn} {ret : Int} (h : TakenFramed inp s)
    (hon : s.conn.client.online = true) (hm : processMessageBuffer srv env s.conn = some (ret, c))
    (hok : CallInSync srv s (.message env)) :
    c.client.online = true → ∃ taken, Framed dataSizeLen wireSize taken ∧ inp = taken ++ c.sock.inp := by
  intro hc
  obtain ⟨taken, hframed, rfl⟩ := h hon
  obtain ⟨frame, hframe, happ⟩ := hok ret c hm hc
  exact ⟨taken ++ frame, hframed.append hframe.framed, by rw [happ, List.append_assoc]⟩

/-- No step but the next accept brings a client back online, and only messages take bytes. -/
theorem step_takenFramed {inp : List Byte} {s s' : Slot} {e : Ev} (h : TakenFramed inp s) (he : step srv s e = some s')
    (hok : CallInSync srv s e) (hno : ∀ idx inp recvs sends, e ≠ .accept idx inp recvs sends) : TakenFramed inp s' := by
  cases step_stepped he with
  | accept idx inp' recvs sends => exact absurd rfl (hno idx inp' recvs sends)
  | handled env c hph hon hm => exact call_takenFramed h hon hm hok
  | dropped env c ret hph hon hret hm => exact call_takenFramed h hon hm hok
  | timeout hph hon =>
    intro hoff
    cases hoff
  | endPack env c hph hc =>
    intro hon
    obtain ⟨-, -, hback, hinp⟩ := endPacked_keeps hc
    rw [hinp]
    exact h (hback hon)
  | call env a r c hc =>
    intro hon
    rw [(doCall_done hc).inp]
    exact h (call_online hc hon)

/-- **Over a run of one connection whose calls are all drained, the server has taken whole
    messages off the stream, and no payload byte for a header.** -/
theorem stream_framed {s t : Slot} {es : List Ev} (h : Runs.run (step srv) s es = some t)
    (hok : Runs.RunOk (step srv) (fun s e => CallDrained srv s e ∧ ∀ idx inp recvs sends, e ≠ .accept idx inp recvs sends)
      s es) (hon : t.conn.client.online = true) :
    ∃ taken, Framed dataSizeLen wireSize taken ∧ s.conn.sock.inp = taken ++ t.conn.sock.inp := by
  have htaken : TakenFramed s.conn.sock.inp t := by
    refine Runs.run_inv_ok (step srv) _ (fun u e u' hu hue he => ?_) (fun _ => ⟨[], .nil, rfl⟩) hok h
    exact step_takenFramed hu he ((callInSync_iff u e).mpr hue.1) hue.2
  exact htaken hon

/-! ## Every run -/

variable (srv)

/-- **Along every run, the calls that leave the client online take exactly their messages
    when, and only when, the headers of these messages are drained.** -/
theorem input_in_sync (recvMem sendMem : Nat → Byte) (fs : FS) (pool : List BigDataBlock) (es : List Ev) :
    Runs.RunOk (step srv) (CallInSync srv) (freshSlot recvMem sendMem fs pool) es ↔
      Runs.RunOk (step srv) (CallDrained srv) (freshSlot recvMem sendMem fs pool) es :=
  Runs.runOk_congr (step srv) (fun s e => callInSync_iff s e) _ es

/-- A PING that announces 16 bytes, and a data frame as those bytes. -/
def smuggled : List Byte :=
  [0xf7, 0xff, 0, 0, 0, 0, 0, 0, 16, 0, 0, 0] ++ [1, 0, 0, 0, 1, 0, 0, 0, 4, 0, 0, 0, 0, 0, 0, 0]

/-- **The payload of a PING is taken for a data frame, and handled.** -/
theorem input_out_of_sync :
    let es := [.accept 0 smuggled [some 12, some 12, some 4] [some 12], .message quietEnv, .message quietEnv]
    (∃ s, Runs.run (step defaultServer) emptySlot es = some s ∧ s.conn.client.online = true ∧ s.handled = [1]) ∧
      ¬ Runs.RunOk (step defaultServer) (CallInSync defaultServer) emptySlot es := by
  intro es
  refine ⟨⟨_, rfl, by decide +kernel, by decide +kernel⟩, fun hok => ?_⟩
  obtain ⟨frame, hframe, happ⟩ := (hok.2 _ rfl).1 _ _ rfl (by decide +kernel)
  have hlen := congrArg List.length happ
  have hhead : frame.take dataSizeLen = smuggled.take dataSizeLen := by
    have htake := congrArg (List.take dataSizeLen) happ
    rw [List.take_append_of_le_length hframe.header] at htake
    exact htake.symm
  have hflen := hframe.length
  rw [hhead, show wireSize (smuggled.take dataSizeLen) = 16 by decide] at hflen
  rw [List.length_append, hflen] at hlen
  exact absurd hlen (by decide +kernel)

end StarServer.Socket

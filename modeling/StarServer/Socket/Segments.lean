/-
  StarServer.Socket.Segments — one byte stream in two segmentations.

  A slot's `recvs` are the results its `recv` calls get: the pieces the stream arrives in.
  Every read of `processMessageBuffer` but one goes on until it has what it asked for or the
  stream ends. The payload of a REGISTER is what a single `recvfrom` gives.

  Proved:
  (1) nothing but the two readers looks at the stream (`processPayload_input`,
      `endPackSendData_input`, `doCall_input`).
  (2) `message_segments`: one message in two segmentations, from the same state.
  (3) `segments_alike`: where each REGISTER's one `recvfrom` gives 24 bytes exactly when the
      message has them, two runs on the same stream handle the same messages, write the same
      bytes and end with the same online flag, as far as the stream has arrived.
  (4) `segments_differ`: a REGISTER in one piece and in two.
-/

import StarServer.Socket.AlikeReceive
import StarServer.Socket.OutputFraming
import StarServer.Socket.Retransmit
import StarServer.Socket.Taken

namespace StarServer.Socket

open StarServer.Memory

variable {srv : Server}

/-! ## What does not look at the stream -/

/-- A slot with another stream before it. -/
def withInput (inp : List Byte) (recvs : List (Option Nat)) (s : Conn) : Conn :=
  { s with sock := { s.sock with inp := inp, recvs := recvs } }

theorem writeTo_input (msg : Buf) (count : Nat) (k : Sock) (inp : List Byte) (recvs : List (Option Nat)) :
    writeTo srv msg count { k with inp := inp, recvs := recvs } =
      (writeTo srv msg count k).map fun r => (r.1, { r.2 with inp := inp, recvs := recvs }) := by
  unfold writeTo
  cases srv.nProtocol with
  | udp => rfl
  | tcp =>
    simp only
    cases sendLoop count k.sends 0 with
    | none => rfl
    | some r => rfl

theorem sendDataSizeMsg_input (s : Conn) (msg : Buf) (inp : List Byte) (recvs : List (Option Nat)) :
    sendDataSizeMsg srv (withInput inp recvs s) msg = (sendDataSizeMsg srv s msg).map (withInput inp recvs) := by
  unfold sendDataSizeMsg
  rw [show writeTo srv msg dataSizeLen (withInput inp recvs s).sock = _ from writeTo_input msg dataSizeLen s.sock inp recvs]
  cases writeTo srv msg dataSizeLen s.sock with
  | none => rfl
  | some r => rfl

theorem processRetrasmit_input (s : Conn) (inp : List Byte) (recvs : List (Option Nat)) :
    processRetrasmit srv (withInput inp recvs s) = (processRetrasmit srv s).map fun r => (r.1, withInput inp recvs r.2) := by
  unfold processRetrasmit
  rw [show writeTo srv (withInput inp recvs s).client.sendBuffer (withInput inp recvs s).client.sendDataSize
    (withInput inp recvs s).sock = _ from writeTo_input s.client.sendBuffer s.client.sendDataSize s.sock inp recvs]
  cases writeTo srv s.client.sendBuffer s.client.sendDataSize s.sock with
  | none => rfl
  | some r => rfl

theorem processFrame_input (env : Env) (s : Conn) (inp : List Byte) (recvs : List (Option Nat)) :
    processFrame env (withInput inp recvs s) = ((processFrame env s).1, withInput inp recvs (processFrame env s).2) := by
  rw [processFrame_parts, processFrame_parts]
  simp only [show (withInput inp recvs s).client = s.client from rfl, show (withInput inp recvs s).fs = s.fs from rfl]
  split
  · rfl
  · split
    · rfl
    · rfl

theorem processPayload_input (env : Env) (n : Nat) (s : Conn) (inp : List Byte) (recvs : List (Option Nat)) :
    processPayload srv env n (withInput inp recvs s) =
      (processPayload srv env n s).map fun r => (r.1, withInput inp recvs r.2) := by
  have hsend (t : Conn) (no : BitVec 32) : sendReTrasmit srv (withInput inp recvs t) no =
      (sendReTrasmit srv t no).map (withInput inp recvs) := sendDataSizeMsg_input t _ inp recvs
  have hcrc : traceCrc (withInput inp recvs s) = withInput inp recvs (traceCrc s) := rfl
  simp only [processPayload, show (withInput inp recvs s).client = s.client from rfl, hsend, hcrc, Option.map_map]
  split
  · rfl
  · split
    · rfl
    · split
      · rw [Option.map_map]
        rfl
      · split
        · rw [Option.map_map]
          rfl
        · rw [processFrame_input]
          rfl

theorem endPackSendData_input (env : Env) (s : Conn) (inp : List Byte) (recvs : List (Option Nat)) :
    endPackSendData srv env (withInput inp recvs s) = (endPackSendData srv env s).map (withInput inp recvs) := by
  unfold endPackSendData
  simp only [show (withInput inp recvs s).client = s.client from rfl, show (withInput inp recvs s).fs = s.fs from rfl]
  split
  · rw [show writeTo srv _ _ (withInput inp recvs s).sock = _ from writeTo_input _ _ s.sock inp recvs]
    cases writeTo srv (packFrame env s.fs s.client).sendBuffer (packFrame env s.fs s.client).sendDataSize s.sock with
    | none => rfl
    | some r => rfl
  · unfold sendConfirmMessage
    rw [sendDataSizeMsg_input]
    cases sendDataSizeMsg srv s (dataSizeMsg StSockMsg.confirm stsockidServer s.client.packRef 0) with
    | none => rfl
    | some s' =>
      simp only [Option.map_some]
      split
      · rfl
      · rfl

theorem sendNotice_input (env : Env) (type : BitVec 16) (s : Conn) (inp : List Byte) (recvs : List (Option Nat)) :
    sendNotice srv env type (withInput inp recvs s) = (sendNotice srv env type s).map (withInput inp recvs) := by
  unfold sendNotice
  rw [show writeTo srv _ dataSizeLen (withInput inp recvs s).sock = _ from writeTo_input _ dataSizeLen s.sock inp recvs]
  cases writeTo srv (dataSizeMsg type stsockidServer env.junk 0) dataSizeLen s.sock with
  | none => rfl
  | some r => rfl

theorem stsvGetBigData_input (env : Env) (s : Conn) (inp : List Byte) (recvs : List (Option Nat)) :
    stsvGetBigData env (withInput inp recvs s) =
      ((stsvGetBigData env s).1, withInput inp recvs (stsvGetBigData env s).2) := by
  unfold stsvGetBigData
  simp only [show (withInput inp recvs s).client = s.client from rfl, show (withInput inp recvs s).fs = s.fs from rfl,
    show (withInput inp recvs s).pool = s.pool from rfl]
  split
  · rfl
  · cases getBigDataBufferIdx s.pool with
    | none => rfl
    | some i =>
      simp only
      cases fopenRead env s.fs (bigDataPath s.client.idx.toNat) with
      | none => rfl
      | some file => rfl

theorem doCall_input (env : Env) (s : Conn) (a : Call) (inp : List Byte) (recvs : List (Option Nat)) :
    doCall srv env (withInput inp recvs s) a = (doCall srv env s a).map fun r => (r.1, withInput inp recvs r.2) := by
  have hnotice (type : BitVec 16) : ((sendNotice srv env type (withInput inp recvs s)).map fun s => (Reply.unit, s)) =
      ((sendNotice srv env type s).map fun s => (Reply.unit, s)).map fun r => (r.1, withInput inp recvs r.2) := by
    rw [sendNotice_input]
    cases sendNotice srv env type s with
    | none => rfl
    | some s' => rfl
  cases a with
  | sendDuplicateLogin => exact hnotice _
  | sendServerFULL => exact hnotice _
  | getBigData => exact congrArg some (stsvGetBigData_input env s inp recvs)
  | _ => rfl

/-! ## What does -/

/-- A blocking read of the same stream in other pieces ends the same, or has not ended yet. -/
theorem readFrom_segments {off count n : Nat} {s s' : Conn} (recvs : List (Option Nat))
    (h : readFrom off count s = some (n, s')) :
    readFrom off count (withInput s.sock.inp recvs s) = none ∨
      ∃ rs, readFrom off count (withInput s.sock.inp recvs s) = some (n, withInput s'.sock.inp rs s') := by
  cases ht : readFrom off count (withInput s.sock.inp recvs s) with
  | none => exact Or.inl rfl
  | some r =>
    obtain ⟨n', t'⟩ := r
    obtain ⟨got, rs, -, hcase, rfl⟩ := readFrom_blocking h
    obtain ⟨got', rs', -, hcase', rfl⟩ := readFrom_blocking ht
    have hsame : n' = n ∧ got' = got := by
      have hinp : (withInput s.sock.inp recvs s).sock.inp = s.sock.inp := rfl
      rw [hinp] at hcase'
      rcases hcase with ⟨h1, h2, h3⟩ | ⟨h1, h2, h3⟩
      · rcases hcase' with ⟨g1, -, g3⟩ | ⟨-, g2, -⟩
        · exact ⟨g1.trans h1.symm, g3.trans h3.symm⟩
        · omega
      · rcases hcase' with ⟨-, g2, -⟩ | ⟨g1, -, g3⟩
        · omega
        · exact ⟨g1.trans h1.symm, g3.trans h3.symm⟩
    obtain ⟨rfl, rfl⟩ := hsame
    exact Or.inr ⟨rs', rfl⟩

/-- The bytes that a REGISTER's `recvfrom` asks for. -/
def registerAsked (b : Buf) : Nat := (BitVec.ofInt 64 (msgSize b)).toNat

/-- Its result `r` gives the 24 bytes that a REGISTER is answered for. -/
def Gives24 (r : Option Nat) (s1 : Conn) : Prop :=
  ∃ k, r = some k ∧ (recvTake k (registerAsked s1.client.recvBuffer) s1.sock.inp).length = 24

/-- The one `recvfrom` of a REGISTER gives 24 bytes exactly when the message has them: when
    as many are asked for and still in the stream. -/
def RegisterWhole (s : Conn) : Prop :=
  ∀ s1, HeaderRead s s1 → msgType s1.client.recvBuffer = StSockMsg.register → ∀ r rs, s1.sock.recvs = r :: rs →
    (Gives24 r s1 ↔ min (registerAsked s1.client.recvBuffer) s1.sock.inp.length = 24)

/-- Two slots whose thread is leaving its loop, alike in what the client sees. -/
structure OfflineAlike (s t : Conn) : Prop where
  left : s.client.online = false
  right : t.client.online = false
  sends : t.sock.sends = s.sock.sends
  out : t.sock.out = s.sock.out

/-- After the same message: all the same but the results still to come, or both offline. -/
def AfterSegments (c c' : Conn) : Prop := (∃ rs, c' = withInput c.sock.inp rs c) ∨ OfflineAlike c c'

/-- The thread is in a `recv` that has not returned. -/
def WaitsForInput (srv : Server) (s : Conn) : Prop :=
  readFrom 0 dataSizeLen (startMessage s) = none ∨ ∃ s1, HeaderRead s s1 ∧
    ((msgType s1.client.recvBuffer = StSockMsg.register ∧ s1.sock.recvs = []) ∨
      (IsData srv s1.client.recvBuffer ∧ readFrom dataSizeLen (msgSize s1.client.recvBuffer).toNat s1 = none))

/-- What the one `recvfrom` answers, and with 24 bytes what it leaves. -/
theorem readFromNonBlocking_24 {s s2 : Conn} {n : Int} (h : readFromNonBlocking dataSizeLen (msgSize s.client.recvBuffer) s = some (n, s2)) :
    ∃ r rs, s.sock.recvs = r :: rs ∧ (n = 24 ↔ Gives24 r s) ∧ s2.client.online = s.client.online ∧
      s2.sock.sends = s.sock.sends ∧ s2.sock.out = s.sock.out ∧
      (n = 24 → s2 = { s with
        client := { s.client with recvBuffer := s.client.recvBuffer.store dataSizeLen (s.sock.inp.take 24) }
        sock := { s.sock with inp := s.sock.inp.drop 24, recvs := rs }
        trace := s.trace ++ [.recv dataSizeLen (msgSize s.client.recvBuffer)] }) := by
  unfold readFromNonBlocking at h
  cases hr : s.sock.recvs with
  | nil =>
    rw [hr] at h
    cases h
  | cons r rs =>
    rw [hr] at h
    refine ⟨r, rs, rfl, ?_⟩
    cases r with
    | none =>
      cases h
      refine ⟨⟨(fun h => nomatch h), fun ⟨k, hk, _⟩ => nomatch hk⟩, rfl, rfl, rfl, fun h => nomatch h⟩
    | some k =>
      cases h
      have hlen : (recvTake k (registerAsked s.client.recvBuffer) s.sock.inp).length = 24 →
          recvTake k (registerAsked s.client.recvBuffer) s.sock.inp = s.sock.inp.take 24 := by
        intro h24
        unfold recvTake at h24 ⊢
        rw [List.length_take] at h24
        by_cases hle : min (max k 1) (registerAsked s.client.recvBuffer) ≤ s.sock.inp.length
        · rw [Nat.min_eq_left hle] at h24
          rw [h24]
        · rw [List.take_of_length_le (by omega), List.take_of_length_le (by omega)]
      refine ⟨⟨fun h24 => ⟨k, rfl, Int.ofNat.inj h24⟩, ?_⟩, rfl, rfl, rfl, fun h24 => ?_⟩
      · intro ⟨k', hk', h24⟩
        cases hk'
        exact congrArg Int.ofNat h24
      · have h24 := Int.ofNat.inj h24
        have htake := hlen h24
        unfold registerAsked at htake
        have h24' : (s.sock.inp.take 24).length = 24 := by rw [← htake, h24]
        simp only [htake, h24']

theorem sendDataSizeMsg_inp {s s' : Conn} {msg : Buf} (h : sendDataSizeMsg srv s msg = some s') : s'.sock.inp = s.sock.inp := by
  obtain ⟨ret, sock, hw, rfl⟩ := sendDataSizeMsg_done h
  obtain ⟨sent, rs, -, rfl, -⟩ := writeTo_cases hw
  rfl

theorem processRetrasmit_inp {s s' : Conn} {ret : Int} (h : processRetrasmit srv s = some (ret, s')) :
    s'.sock.inp = s.sock.inp := by
  unfold processRetrasmit at h
  split at h
  · cases h
  · rename_i r sock hw
    obtain ⟨sent, rs, -, rfl, -⟩ := writeTo_cases hw
    cases h
    rfl

theorem processPayload_inp {env : Env} {n : Nat} {s s' : Conn} {ret : Int} (h : processPayload srv env n s = some (ret, s')) :
    s'.sock.inp = s.sock.inp := by
  simp only [processPayload] at h
  split at h
  · cases h
    rfl
  · split at h
    · cases h
      rfl
    · split at h
      · obtain ⟨s3, h3, hr⟩ := Option.map_eq_some_iff.mp h
        cases hr
        exact sendDataSizeMsg_inp h3
      · split at h
        · obtain ⟨s3, h3, hr⟩ := Option.map_eq_some_iff.mp h
          cases hr
          exact (sendDataSizeMsg_inp h3).trans rfl
        · have hs : s' = (processFrame env (traceCrc s)).2 := by rw [Option.some.inj h]
          rw [hs, (processFrame_done env (traceCrc s)).sock]
          rfl

theorem processRegister_segments {env : Env} {s1 c : Conn} {ret : Int} {rs : List (Option Nat)}
    (hok : ∀ r rs', s1.sock.recvs = r :: rs' →
      (Gives24 r s1 ↔ min (registerAsked s1.client.recvBuffer) s1.sock.inp.length = 24))
    (hok' : ∀ r rs', rs = r :: rs' →
      (Gives24 r s1 ↔ min (registerAsked s1.client.recvBuffer) s1.sock.inp.length = 24))
    (h : processRegister srv env s1 = some (ret, c)) :
    rs = [] ∨ ∃ c', processRegister srv env (withInput s1.sock.inp rs s1) = some (ret, c') ∧ AfterSegments c c' := by
  unfold processRegister at h
  cases hr : readFromNonBlocking dataSizeLen (msgSize s1.client.recvBuffer) s1 with
  | none =>
    rw [hr] at h
    cases h
  | some x =>
    obtain ⟨n, s2⟩ := x
    rw [hr] at h
    simp only at h
    cases ht : readFromNonBlocking dataSizeLen (msgSize s1.client.recvBuffer) (withInput s1.sock.inp rs s1) with
    | none =>
      -- only an empty list of results makes it wait
      left
      unfold readFromNonBlocking at ht
      cases rs with
      | nil => rfl
      | cons r rs =>
        cases r with
        | none => cases ht
        | some k => cases ht
    | some y =>
      obtain ⟨m, t2⟩ := y
      obtain ⟨r, rs1, hrs, h24, hon, hsends, hout, hs2⟩ := readFromNonBlocking_24 hr
      obtain ⟨r', rs1', hrs', h24', hon', hsends', hout', ht2⟩ := readFromNonBlocking_24 ht
      have hsame : m = 24 ↔ n = 24 := by
        rw [h24, h24', hok r rs1 hrs]
        exact hok' r' rs1' hrs'
      right
      unfold processRegister
      rw [show readFromNonBlocking dataSizeLen (msgSize (withInput s1.sock.inp rs s1).client.recvBuffer) _ = _ from ht]
      simp only
      by_cases hn : n = 24
      · have hm := hsame.mpr hn
        rw [if_neg (not_not_intro hn)] at h
        rw [if_neg (not_not_intro hm)]
        have heq : t2 = withInput s2.sock.inp rs1' s2 := by
          rw [ht2 hm, hs2 hn]
          rfl
        rw [heq, show writeTo srv _ dataSizeLen (withInput s2.sock.inp rs1' s2).sock = _ from
          writeTo_input _ dataSizeLen s2.sock s2.sock.inp rs1']
        simp only [show (withInput s2.sock.inp rs1' s2).client = s2.client from rfl]
        cases hw : writeTo srv (registerReply srv env s2.client) dataSizeLen s2.sock with
        | none =>
          rw [hw] at h
          cases h
        | some z =>
          rw [hw] at h
          obtain ⟨sent, ws, -, hsock, -⟩ := writeTo_cases hw
          cases h
          refine ⟨_, rfl, Or.inl ⟨rs1', ?_⟩⟩
          simp only [hsock]
          rfl
      · have hm : m ≠ 24 := fun hm => hn (hsame.mp hm)
        rw [if_pos hn] at h
        rw [if_pos hm]
        cases h
        refine ⟨_, rfl, Or.inr ⟨rfl, rfl, ?_, ?_⟩⟩
        · exact hsends'.trans hsends.symm
        · exact hout'.trans hout.symm

theorem processDefault_segments {env : Env} {s1 c : Conn} {ret : Int} (rs : List (Option Nat))
    (hdef : IsDefault s1.client.recvBuffer) (h : processDefault srv env s1 = some (ret, c)) :
    (IsData srv s1.client.recvBuffer ∧
      readFrom dataSizeLen (msgSize s1.client.recvBuffer).toNat (withInput s1.sock.inp rs s1) = none) ∨
      ∃ rs', processDefault srv env (withInput s1.sock.inp rs s1) = some (ret, withInput c.sock.inp rs' c) := by
  simp only [processDefault, show (withInput s1.sock.inp rs s1).client = s1.client from rfl] at h ⊢
  by_cases hid : msgFromID s1.client.recvBuffer < 0 ∨ msgFromID s1.client.recvBuffer ≥ srv.nMaxConnection
  · rw [if_pos hid] at h ⊢
    cases h
    exact Or.inr ⟨rs, rfl⟩
  · rw [if_neg hid] at h ⊢
    by_cases hty : msgType s1.client.recvBuffer &&& StSockMsg.alldata = 0
    · rw [if_pos hty] at h ⊢
      cases h
      exact Or.inr ⟨rs, rfl⟩
    · rw [if_neg hty] at h ⊢
      by_cases hsz : msgSize s1.client.recvBuffer < 0 ∨ msgSize s1.client.recvBuffer > stsvMaxBuffer
      · rw [if_pos hsz] at h ⊢
        cases h
        exact Or.inr ⟨rs, rfl⟩
      · rw [if_neg hsz] at h ⊢
        cases hr : readFrom dataSizeLen (msgSize s1.client.recvBuffer).toNat s1 with
        | none =>
          rw [hr] at h
          cases h
        | some x =>
          obtain ⟨n, s2⟩ := x
          rw [hr] at h
          simp only at h
          rcases readFrom_segments rs hr with hnone | ⟨rs', hsome⟩
          · exact Or.inl ⟨⟨⟨hdef, by omega, by omega⟩, hty, by omega, by omega⟩, hnone⟩
          · right
            rw [hsome]
            simp only
            rw [processPayload_input, h]
            exact ⟨rs', by rw [processPayload_inp h]; rfl⟩

/-- **One message in two segmentations.** -/
theorem message_segments {env : Env} {s c : Conn} {ret : Int} {rs : List (Option Nat)} (hok : RegisterWhole s)
    (hok' : RegisterWhole (withInput s.sock.inp rs s)) (h : processMessageBuffer srv env s = some (ret, c)) :
    WaitsForInput srv (withInput s.sock.inp rs s) ∨
      ∃ c', processMessageBuffer srv env (withInput s.sock.inp rs s) = some (ret, c') ∧ AfterSegments c c' := by
  unfold processMessageBuffer at h
  cases hr : readFrom 0 dataSizeLen (startMessage s) with
  | none =>
    rw [hr] at h
    cases h
  | some x =>
    obtain ⟨n, s1⟩ := x
    rw [hr] at h
    simp only at h
    rcases readFrom_segments rs hr with hnone | ⟨rs1, hsome⟩
    · exact Or.inl (Or.inl hnone)
    · have hcall : processMessageBuffer srv env (withInput s.sock.inp rs s) =
          if n = 0 then some (-1, offline (withInput s1.sock.inp rs1 s1))
          else processMessage srv env (withInput s1.sock.inp rs1 s1) := by
        unfold processMessageBuffer
        rw [show readFrom 0 dataSizeLen (startMessage (withInput s.sock.inp rs s)) = _ from hsome]
      rw [hcall]
      by_cases hn : n = 0
      · rw [if_pos hn] at h ⊢
        cases h
        exact Or.inr ⟨_, rfl, Or.inl ⟨rs1, rfl⟩⟩
      · rw [if_neg hn] at h ⊢
        obtain ⟨got, rs0, -, hcase, -⟩ := readFrom_blocking hr
        have hn : n = dataSizeLen := by
          rcases hcase with ⟨h1, -⟩ | ⟨h1, -⟩
          · exact h1
          · exact absurd h1 hn
        subst hn
        have hh : HeaderRead s s1 := hr
        have hh' : HeaderRead (withInput s.sock.inp rs s) (withInput s1.sock.inp rs1 s1) := hsome
        simp only [processMessage, show (withInput s1.sock.inp rs1 s1).client = s1.client from rfl] at h ⊢
        by_cases hreg : msgType s1.client.recvBuffer = StSockMsg.register
        · rw [if_pos hreg] at h ⊢
          rcases @processRegister_segments srv env s1 c ret rs1 (hok s1 hh hreg) (hok' _ hh' hreg) h with hwait | hdone
          · exact Or.inl (Or.inr ⟨_, hh', Or.inl ⟨hreg, hwait⟩⟩)
          · exact Or.inr hdone
        · rw [if_neg hreg] at h ⊢
          by_cases hret : msgType s1.client.recvBuffer = StSockMsg.retrasmit
          · rw [if_pos hret] at h ⊢
            rw [processRetrasmit_input, h]
            exact Or.inr ⟨_, rfl, Or.inl ⟨rs1, by rw [processRetrasmit_inp h]⟩⟩
          · rw [if_neg hret] at h ⊢
            by_cases hping : msgType s1.client.recvBuffer = StSockMsg.ping
            · rw [if_pos hping] at h ⊢
              cases h
              exact Or.inr ⟨_, rfl, Or.inl ⟨rs1, rfl⟩⟩
            · rw [if_neg hping] at h ⊢
              rcases processDefault_segments rs1 ⟨hreg, hret, hping⟩ h with hwait | ⟨rs', hdone⟩
              · exact Or.inl (Or.inr ⟨_, hh', Or.inr hwait⟩)
              · exact Or.inr ⟨_, hdone, Or.inl ⟨rs', rfl⟩⟩

/-! ## The slot -/

/-- The condition on a step: whole REGISTERs, and no other connection. -/
def SegmentOk (s : Slot) : Ev → Prop
  | .message _ => RegisterWhole s.conn
  | .accept .. => False
  | _ => True

/-- Two slots on one stream: all the same but the results of `recv` still to come; or both
    threads leaving, with the same frames handled and the same bytes written. -/
inductive SegmentsAlike (s t : Slot) : Prop
  | same (rs : List (Option Nat)) : t = { s with conn := withInput s.conn.sock.inp rs s.conn } → SegmentsAlike s t
  | gone : s.phase = .polling → t.phase = .polling → OfflineAlike s.conn t.conn → t.handled = s.handled →
      t.answers = s.answers → SegmentsAlike s t

/-- The thread of a slot is where only more of the stream takes it on. -/
def SlotWaits (srv : Server) (s : Slot) : Ev → Prop
  | .message _ => s.phase = .polling ∧ s.conn.client.online = true ∧ WaitsForInput srv s.conn
  | _ => False

theorem sock_of_alike {s t : Conn} (h : OfflineAlike s t) :
    t.sock = { s.sock with inp := t.sock.inp, recvs := t.sock.recvs } := by
  show t.sock = ⟨t.sock.inp, t.sock.recvs, s.sock.sends, s.sock.out⟩
  rw [← h.sends, ← h.out]

theorem notice_offline {env : Env} {type : BitVec 16} {s t s' : Conn} (h : OfflineAlike s t)
    (hs : sendNotice srv env type s = some s') : ∃ t', sendNotice srv env type t = some t' ∧ OfflineAlike s' t' := by
  unfold sendNotice at hs ⊢
  rw [sock_of_alike h, writeTo_input]
  cases hw : writeTo srv (dataSizeMsg type stsockidServer env.junk 0) dataSizeLen s.sock with
  | none =>
    rw [hw] at hs
    cases hs
  | some r =>
    rw [hw] at hs
    cases hs
    exact ⟨_, rfl, rfl, rfl, rfl, rfl⟩

/-- Calls on two such slots write the same notices. -/
theorem call_offline {env : Env} {s t s' : Conn} {a : Call} {r : Reply} (h : OfflineAlike s t)
    (hs : doCall srv env s a = some (r, s')) : ∃ r' t', doCall srv env t a = some (r', t') ∧ OfflineAlike s' t' := by
  have hoff (u : Conn) (hu : u.client.online = false) (r : Reply) (u' : Conn) (hc : doCall srv env u a = some (r, u')) :
      u'.client.online = false := by
    cases hon : u'.client.online with
    | false => rfl
    | true =>
      have := call_online hc hon
      rw [hu] at this
      cases this
  cases a with
  | sendDuplicateLogin =>
    obtain ⟨s1, h1, hr⟩ := Option.map_eq_some_iff.mp hs
    cases hr
    obtain ⟨t', ht', halike⟩ := notice_offline h h1
    refine ⟨.unit, t', ?_, halike⟩
    show (sendNotice srv env StSockMsg.duplicate t).map _ = _
    rw [ht']
    rfl
  | sendServerFULL =>
    obtain ⟨s1, h1, hr⟩ := Option.map_eq_some_iff.mp hs
    cases hr
    obtain ⟨t', ht', halike⟩ := notice_offline h h1
    refine ⟨.unit, t', ?_, halike⟩
    show (sendNotice srv env StSockMsg.serverFull t).map _ = _
    rw [ht']
    rfl
  | getBigData =>
    have hsock (u : Conn) : (stsvGetBigData env u).2.sock = u.sock := by
      unfold stsvGetBigData
      split
      · rfl
      · split
        · rfl
        · simp only
          split
          · rfl
          · rfl
    have hs' : s' = (stsvGetBigData env s).2 := by
      simp only [doCall, Option.some.injEq] at hs
      rw [hs]
    refine ⟨(stsvGetBigData env t).1, (stsvGetBigData env t).2, rfl, hoff s h.left _ _ hs, hoff t h.right _ _ rfl, ?_, ?_⟩
    · rw [hs', hsock, hsock]
      exact h.sends
    · rw [hs', hsock, hsock]
      exact h.out
  | _ =>
    cases hs
    exact ⟨_, _, rfl, hoff s h.left _ _ rfl, hoff t h.right _ _ rfl, h.sends, h.out⟩

/-- A message, the input of which has come in other pieces. -/
theorem step_message_segments {s s' : Slot} {env : Env} {rs : List (Option Nat)} (hok : SegmentOk s (.message env))
    (hok' : SegmentOk { s with conn := withInput s.conn.sock.inp rs s.conn } (.message env))
    (he : step srv s (.message env) = some s') :
    SlotWaits srv { s with conn := withInput s.conn.sock.inp rs s.conn } (.message env) ∨
      ∃ t', step srv { s with conn := withInput s.conn.sock.inp rs s.conn } (.message env) = some t' ∧ SegmentsAlike s' t' := by
  simp only [step] at he ⊢
  by_cases hg : s.phase = .polling ∧ s.conn.client.online = true
  · rw [if_pos hg] at he
    rw [if_pos (show s.phase = .polling ∧ (withInput s.conn.sock.inp rs s.conn).client.online = true from hg)]
    cases hm : processMessageBuffer srv env s.conn with
    | none =>
      rw [hm] at he
      cases he
    | some x =>
      obtain ⟨ret, c⟩ := x
      rw [hm] at he
      simp only at he
      rcases message_segments hok hok' hm with hwait | ⟨c', hm', hafter⟩
      · exact Or.inl ⟨hg.1, hg.2, hwait⟩
      · right
        simp only [hm']
        by_cases h0 : ret = 0
        · rw [if_pos h0] at he ⊢
          cases he
          subst h0
          rcases hafter with ⟨rs', rfl⟩ | hover
          · exact ⟨_, rfl, .same rs' rfl⟩
          · -- an accepted frame leaves the client online
            have hon := (message_accepted hm).online
            rw [hover.left, hg.2] at hon
            cases hon
        · rw [if_neg h0] at he ⊢
          cases he
          rcases hafter with ⟨rs', rfl⟩ | hover
          · exact ⟨_, rfl, .same rs' rfl⟩
          · exact ⟨_, rfl, .gone hg.1 hg.1 hover rfl rfl⟩
  · rw [if_neg hg] at he
    cases he

/-- **One step in two segmentations.** -/
theorem step_segments {s t s' : Slot} {e : Ev} (h : SegmentsAlike s t) (hok : SegmentOk s e) (hok' : SegmentOk t e)
    (he : step srv s e = some s') : SlotWaits srv t e ∨ ∃ t', step srv t e = some t' ∧ SegmentsAlike s' t' := by
  cases h with
  | same rs ht =>
    subst ht
    cases e with
    | accept => exact absurd hok id
    | message env => exact step_message_segments hok hok' he
    | timeout =>
      simp only [step] at he ⊢
      by_cases hg : s.phase = .polling ∧ s.conn.client.online = true
      · rw [if_pos hg] at he
        cases he
        exact Or.inr ⟨_, if_pos hg, .same rs rfl⟩
      · rw [if_neg hg] at he
        cases he
    | endPack env =>
      simp only [step] at he ⊢
      by_cases hg : s.phase = .handling
      · rw [if_pos hg] at he
        obtain ⟨c, hc, rfl⟩ := Option.map_eq_some_iff.mp he
        refine Or.inr ⟨_, ?_, .same rs rfl⟩
        rw [if_pos hg, endPackSendData_input, hc]
        have hinp := (endPacked_keeps (endPackSendData_packed hc)).inp
        simp only [Option.map_some]
        rw [show (withInput s.conn.sock.inp rs c) = withInput c.sock.inp rs c by rw [hinp]]
        rfl
      · rw [if_neg hg] at he
        cases he
    | call env a =>
      simp only [step] at he ⊢
      obtain ⟨⟨r, c⟩, hc, rfl⟩ := Option.map_eq_some_iff.mp he
      refine Or.inr ⟨_, ?_, .same rs rfl⟩
      rw [doCall_input, hc]
      simp only [Option.map_some]
      rw [show (withInput s.conn.sock.inp rs c) = withInput c.sock.inp rs c by rw [(doCall_done hc).inp]]
  | gone hp hp' hoff hh ha =>
    cases step_stepped he with
    | accept => exact absurd hok id
    | handled env c hph hon hm =>
      rw [hoff.left] at hon
      cases hon
    | dropped env c ret hph hon hret hm =>
      rw [hoff.left] at hon
      cases hon
    | timeout hph hon =>
      rw [hoff.left] at hon
      cases hon
    | endPack env c hph hc =>
      rw [hp] at hph
      cases hph
    | call env a r c hc =>
      obtain ⟨r', c', hc', halike⟩ := call_offline hoff hc
      refine Or.inr ⟨{ t with conn := c', seen := t.seen ++ [r'] }, ?_, .gone hp hp' halike hh ha⟩
      simp only [step, hc']
      rfl

/-! ## Runs -/

/-- What a client sees of its connection, and what its handler is given. -/
structure SameService (s t : Slot) : Prop where
  phase : t.phase = s.phase
  online : t.conn.client.online = s.conn.client.online
  handled : t.handled = s.handled
  answers : t.answers = s.answers
  out : t.conn.sock.out = s.conn.sock.out
  given : s.phase = .handling → t.conn.client = s.conn.client ∧ t.conn.fs = s.conn.fs ∧ t.conn.pool = s.conn.pool ∧
    t.seen = s.seen

theorem SegmentsAlike.service {s t : Slot} (h : SegmentsAlike s t) : SameService s t := by
  cases h with
  | same rs ht =>
    subst ht
    exact ⟨rfl, rfl, rfl, rfl, rfl, fun _ => ⟨rfl, rfl, rfl, rfl⟩⟩
  | gone hp hp' hoff hh ha =>
    refine ⟨hp'.trans hp.symm, hoff.right.trans hoff.left.symm, hh, ha, hoff.out, fun hph => ?_⟩
    rw [hp] at hph
    cases hph

/-- A thread that waits has not taken the step. -/
theorem slotWaits_step {s : Slot} {e : Ev} (h : SlotWaits srv s e) : (step srv s e).isNone = true := by
  cases e with
  | message env =>
    obtain ⟨hph, hon, hwait⟩ := h
    have hcall : processMessageBuffer srv env s.conn = none := by
      unfold processMessageBuffer
      rcases hwait with hnone | ⟨s1, hh, hwait⟩
      · rw [hnone]
      · have h12 : dataSizeLen ≠ 0 := by decide
        unfold HeaderRead at hh
        rw [hh]
        simp only [h12, if_false]
        rcases hwait with ⟨hreg, hnil⟩ | ⟨hd, hnone⟩
        · simp only [processMessage]
          rw [if_pos hreg]
          unfold processRegister readFromNonBlocking
          rw [hnil]
        · simp only [hd.processMessage, hnone, Option.bind_none]
    simp only [step]
    rw [if_pos ⟨hph, hon⟩, hcall]
    rfl
  | _ => exact absurd h id

/-- **Two runs on one stream.** From one state, with the stream to come in other pieces, the
    second run gives the same service, or it waits for pieces that have not come. -/
theorem segments_alike {s s' : Slot} {rs : List (Option Nat)} {es : List Ev}
    (hok : Runs.RunOk (step srv) SegmentOk s es)
    (hok' : Runs.RunOk (step srv) SegmentOk { s with conn := withInput s.conn.sock.inp rs s.conn } es)
    (hrun : Runs.run (step srv) s es = some s') :
    (∃ t', Runs.run (step srv) { s with conn := withInput s.conn.sock.inp rs s.conn } es = some t' ∧ SameService s' t') ∨
      ∃ fs e gs t, es = fs ++ e :: gs ∧
        Runs.run (step srv) { s with conn := withInput s.conn.sock.inp rs s.conn } fs = some t ∧ SlotWaits srv t e := by
  have hsim := Runs.run_sim_or (step srv) SegmentOk SegmentOk (fun s t e s' hst hs ht he => step_segments hst hs ht he)
    (SegmentsAlike.same rs rfl) hok hok' hrun
  exact hsim.imp_left fun ⟨t', ht', halike⟩ => ⟨t', ht', halike.service⟩

/-- A slot just accepted, with a stream and its pieces. -/
def acceptedSlot (inp : List Byte) (recvs : List (Option Nat)) : Slot := ⟨newConn inp recvs [some 12], .polling, [], [], []⟩

theorem registerWhole_of_type {s s1 : Conn} (hh : HeaderRead s s1) (hty : msgType s1.client.recvBuffer ≠ StSockMsg.register) :
    RegisterWhole s := by
  intro s1' hh' hty'
  unfold HeaderRead at hh hh'
  rw [hh] at hh'
  obtain rfl : s1 = s1' := congrArg Prod.snd (Option.some.inj hh')
  exact absurd hty' hty

/-- An empty frame in two pieces, and in five with a `recv` that finds nothing. -/
theorem segments_alike_frame : ∃ s' t', step defaultServer (acceptedSlot (emptyFrame 1) [some 12, some 4]) (.message quietEnv) = some s' ∧
    Runs.run (step defaultServer) (acceptedSlot (emptyFrame 1) [some 3, none, some 9, some 1, some 3]) [.message quietEnv] = some t' ∧
    SameService s' t' ∧ s'.phase = .handling := by
  obtain ⟨s', hs', hph⟩ : ∃ s', step defaultServer (acceptedSlot (emptyFrame 1) [some 12, some 4]) (.message quietEnv) = some s' ∧
      s'.phase = .handling := ⟨_, rfl, by decide +kernel⟩
  have hok : Runs.RunOk (step defaultServer) SegmentOk (acceptedSlot (emptyFrame 1) [some 12, some 4]) [.message quietEnv] :=
    .cons _ (registerWhole_of_type rfl (by decide +kernel)) hs' trivial
  have hok' : Runs.RunOk (step defaultServer) SegmentOk
      (acceptedSlot (emptyFrame 1) [some 3, none, some 9, some 1, some 3]) [.message quietEnv] :=
    ⟨registerWhole_of_type rfl (by decide +kernel), fun _ _ => trivial⟩
  have hrun : Runs.run (step defaultServer) (acceptedSlot (emptyFrame 1) [some 12, some 4]) [.message quietEnv] = some s' :=
    (Runs.run_cons _).mpr ⟨s', hs', rfl⟩
  rcases @segments_alike defaultServer _ s' [some 3, none, some 9, some 1, some 3] _ hok hok' hrun with ⟨t', ht', hsame⟩ | hwait
  · exact ⟨s', t', hs', ht', hsame, hph⟩
  · -- the pieces do come
    exfalso
    obtain ⟨fs, e, gs, t, hes, hfs, hwait⟩ := hwait
    obtain ⟨rfl, rfl, rfl⟩ : fs = [] ∧ e = .message quietEnv ∧ gs = [] := by
      cases fs with
      | nil =>
        cases hes
        exact ⟨rfl, rfl, rfl⟩
      | cons e' fs => exact absurd (congrArg List.length hes) (by simp)
    cases hfs
    exact absurd (slotWaits_step hwait) (by decide +kernel)

/-- **A REGISTER in two pieces.** In one piece it is answered; when its 24 bytes come as 10
    and 14 the client goes offline without an answer. -/
theorem segments_differ : ∃ s' t',
    step defaultServer (acceptedSlot registerMsg [some 12, some 24]) (.message quietEnv) = some s' ∧
    step defaultServer (acceptedSlot registerMsg [some 12, some 10, some 14]) (.message quietEnv) = some t' ∧
    s'.conn.client.online = true ∧ s'.conn.sock.out.length = 2 ∧
    t'.conn.client.online = false ∧ t'.conn.sock.out.length = 1 ∧ ¬ SameService s' t' := by
  obtain ⟨s', t', hs, ht, hon, hout, hoff, hout'⟩ : ∃ s' t',
      step defaultServer (acceptedSlot registerMsg [some 12, some 24]) (.message quietEnv) = some s' ∧
      step defaultServer (acceptedSlot registerMsg [some 12, some 10, some 14]) (.message quietEnv) = some t' ∧
      s'.conn.client.online = true ∧ s'.conn.sock.out.length = 2 ∧
      t'.conn.client.online = false ∧ t'.conn.sock.out.length = 1 :=
    ⟨_, _, rfl, rfl, by decide +kernel, by decide +kernel, by decide +kernel, by decide +kernel⟩
  refine ⟨s', t', hs, ht, hon, hout, hoff, hout', fun h => ?_⟩
  have honline := h.online
  rw [hon, hoff] at honline
  cases honline

end StarServer.Socket

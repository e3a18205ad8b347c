/-
  StarServer.Socket.Registration — the code a REGISTER is answered with.

  The code compares versions component by component: a version is too old when any component
  is below the supported one, whatever the components before it. And it compares the login
  count, a `u32`, with `s_nMaxConnection - 10`, an `int` that is negative for fewer than 10
  connections and then counts as a huge limit.

  Proved:
    * `versionWrong_iff`: refused are the older versions, and the newer ones that have a smaller
      minor or revision (`AheadWithLess`);
    * `serverFull_iff`: when the capacity test is the one over the integers;
    * `registration_verdict_iff`: the reply has the code of the two version orders and the
      integer capacity exactly when `VerdictRight` holds of the inputs;
    * `newer_client_refused`: 2.0.0 where 1.8.0 is taken, and five connections that are never full.
-/

import StarServer.Socket.Writes

namespace StarServer.Socket

open StarServer.Memory

/-! ## Versions -/

/-- Below by major, then by minor, then by revision. -/
def StarVersion.Below (v support : StarVersion) : Prop :=
  v.major < support.major ∨ v.major = support.major ∧
    (v.minor < support.minor ∨ v.minor = support.minor ∧ v.revision < support.revision)

/-- A newer version with a smaller component behind the one that makes it newer. -/
def StarVersion.AheadWithLess (v support : StarVersion) : Prop :=
  (support.major < v.major ∧ (v.minor < support.minor ∨ v.revision < support.revision)) ∨
    (v.major = support.major ∧ support.minor < v.minor ∧ v.revision < support.revision)

instance (v support : StarVersion) : Decidable (v.Below support) := by unfold StarVersion.Below; infer_instance

instance (v support : StarVersion) : Decidable (v.AheadWithLess support) := by
  unfold StarVersion.AheadWithLess; infer_instance

theorem versionWrong_iff (v support : StarVersion) :
    versionWrong v support = true ↔ v.Below support ∨ v.AheadWithLess support := by
  have hany : versionWrong v support = true ↔
      v.major < support.major ∨ v.minor < support.minor ∨ v.revision < support.revision := by
    unfold versionWrong
    by_cases h1 : v.major < support.major
    · simp [h1]
    · by_cases h2 : v.minor < support.minor
      · simp [h1, h2]
      · simp [h1, h2]
  rw [hany]
  unfold StarVersion.Below StarVersion.AheadWithLess
  omega

theorem StarVersion.Below.not_ahead {v support : StarVersion} (h : v.Below support) : ¬v.AheadWithLess support := by
  unfold StarVersion.Below at h
  unfold StarVersion.AheadWithLess
  omega

/-- The check is right for every version but those. -/
theorem versionWrong_right {v support : StarVersion} :
    (versionWrong v support = true ↔ v.Below support) ↔ ¬v.AheadWithLess support := by
  rw [versionWrong_iff]
  constructor
  · intro h hahead
    exact (h.mp (Or.inr hahead)).not_ahead hahead
  · intro h
    exact ⟨fun hw => hw.resolve_right h, Or.inl⟩

/-! ## The verdict -/

variable {srv : Server} {env : Env} {engineVersion clientVersion : StarVersion}

/-- The verdict by the integers and the two orders. -/
def verdictByOrder (srv : Server) (env : Env) (engineVersion clientVersion : StarVersion) : BitVec 16 :=
  if srv.nMaxConnection - 10 ≤ env.nCurLoginCount.toNat then StSockMsg.serverFull
  else if clientVersion.Below srv.clientSupport then StSockMsg.clientWrong
  else if engineVersion.Below srv.engineSupport then StSockMsg.oldVersion
  else if srv.nServerType = .oneTime then StSockMsg.regisOkSection
  else StSockMsg.regisOkAlway

/-- At least ten connections, or a count that passes the limit as a `u32`. -/
def CapacityRight (srv : Server) (env : Env) : Prop :=
  10 ≤ srv.nMaxConnection ∨ 2 ^ 32 + srv.nMaxConnection - 10 ≤ env.nCurLoginCount.toNat

/-- Where the server is not full, no newer version that counts has a smaller component. -/
structure VerdictRight (srv : Server) (env : Env) (engineVersion clientVersion : StarVersion) : Prop where
  capacity : CapacityRight srv env
  client : env.nCurLoginCount.toNat < srv.nMaxConnection - 10 → ¬clientVersion.AheadWithLess srv.clientSupport
  engine : env.nCurLoginCount.toNat < srv.nMaxConnection - 10 → ¬clientVersion.Below srv.clientSupport →
    ¬engineVersion.AheadWithLess srv.engineSupport

theorem serverFull_iff (h1 : 1 ≤ srv.nMaxConnection) (h31 : srv.nMaxConnection < 2 ^ 31) :
    (BitVec.ofInt 32 (srv.nMaxConnection - 10) ≤ env.nCurLoginCount ↔
      srv.nMaxConnection - 10 ≤ env.nCurLoginCount.toNat) ↔ CapacityRight srv env := by
  have hlt := env.nCurLoginCount.isLt
  unfold CapacityRight
  rw [BitVec.le_def, BitVec.toNat_ofInt]
  omega

/-- The verdict while the server is not full. -/
theorem versionVerdict_iff {ok : BitVec 16} (hok : ok = StSockMsg.regisOkSection ∨ ok = StSockMsg.regisOkAlway) :
    ((if versionWrong clientVersion srv.clientSupport then StSockMsg.clientWrong
        else if versionWrong engineVersion srv.engineSupport then StSockMsg.oldVersion else ok) =
      if clientVersion.Below srv.clientSupport then StSockMsg.clientWrong
        else if engineVersion.Below srv.engineSupport then StSockMsg.oldVersion else ok) ↔
      ¬clientVersion.AheadWithLess srv.clientSupport ∧
        (¬clientVersion.Below srv.clientSupport → ¬engineVersion.AheadWithLess srv.engineSupport) := by
  have hdiffer : StSockMsg.clientWrong ≠ StSockMsg.oldVersion ∧ StSockMsg.clientWrong ≠ ok ∧ StSockMsg.oldVersion ≠ ok := by
    rcases hok with rfl | rfl <;> decide
  obtain ⟨h1, h2, h3⟩ := hdiffer
  by_cases hclient : clientVersion.Below srv.clientSupport
  · have hwrong := (versionWrong_iff _ _).mpr (Or.inl hclient)
    simp [hclient, hwrong, hclient.not_ahead]
  · by_cases hahead : clientVersion.AheadWithLess srv.clientSupport
    · have hwrong := (versionWrong_iff _ _).mpr (Or.inr hahead)
      by_cases hengine : engineVersion.Below srv.engineSupport
      · simp [hclient, hwrong, hahead, hengine, h1]
      · simp [hclient, hwrong, hahead, hengine, h2]
    · have hright : ¬versionWrong clientVersion srv.clientSupport = true := by
        rw [versionWrong_iff]
        exact fun h => h.elim hclient hahead
      by_cases hengine : engineVersion.Below srv.engineSupport
      · have hwrong := (versionWrong_iff _ _).mpr (Or.inl hengine)
        simp [hclient, hright, hahead, hengine, hwrong, hengine.not_ahead]
      · by_cases hless : engineVersion.AheadWithLess srv.engineSupport
        · have hwrong := (versionWrong_iff _ _).mpr (Or.inr hless)
          simp [hclient, hright, hahead, hengine, hwrong, hless, h3]
        · have hold : ¬versionWrong engineVersion srv.engineSupport = true := by
            rw [versionWrong_iff]
            exact fun h => h.elim hengine hless
          simp [hclient, hright, hahead, hengine, hold, hless]

theorem registerVerdict_iff (h1 : 1 ≤ srv.nMaxConnection) (h31 : srv.nMaxConnection < 2 ^ 31) :
    registerVerdict srv env engineVersion clientVersion = verdictByOrder srv env engineVersion clientVersion ↔
      VerdictRight srv env engineVersion clientVersion := by
  obtain ⟨ok, hok, hdef⟩ : ∃ ok, (ok = StSockMsg.regisOkSection ∨ ok = StSockMsg.regisOkAlway) ∧
      ok = if srv.nServerType = .oneTime then StSockMsg.regisOkSection else StSockMsg.regisOkAlway := by
    refine ⟨_, ?_, rfl⟩
    split <;> simp
  have hcapacity := @serverFull_iff srv env h1 h31
  have hiff := @versionVerdict_iff srv engineVersion clientVersion ok hok
  unfold registerVerdict verdictByOrder
  rw [← hdef]
  by_cases hfull : srv.nMaxConnection - 10 ≤ env.nCurLoginCount.toNat
  · rw [if_pos hfull]
    simp only [hfull, iff_true] at hcapacity
    constructor
    · intro h
      refine ⟨hcapacity.mp ?_, fun hlt => by omega, fun hlt => by omega⟩
      by_contra hnot
      rw [if_neg hnot] at h
      have hother : ∀ v, v = ok ∨ v = StSockMsg.oldVersion ∨ v = StSockMsg.clientWrong → v ≠ StSockMsg.serverFull := by
        rintro v (rfl | rfl | rfl)
        · rcases hok with rfl | rfl <;> decide
        · decide
        · decide
      refine hother _ ?_ h
      split
      · simp
      · split <;> simp
    · intro h
      rw [if_pos (hcapacity.mpr h.capacity)]
  · have hright : CapacityRight srv env := by
      have := env.nCurLoginCount.isLt
      unfold CapacityRight
      omega
    have hnot : ¬BitVec.ofInt 32 (srv.nMaxConnection - 10) ≤ env.nCurLoginCount := fun h => hfull ((hcapacity.mpr hright).mp h)
    have hlt : env.nCurLoginCount.toNat < srv.nMaxConnection - 10 := by omega
    rw [if_neg hfull, if_neg hnot, hiff]
    exact ⟨fun ⟨hc, he⟩ => ⟨hright, fun _ => hc, fun _ => he⟩, fun h => ⟨h.client hlt, h.engine hlt⟩⟩

/-! ## The reply -/

/-- The write a REGISTER is answered with. -/
theorem register_reply {s s1 s2 s' : Conn} {ret : Int} (hh : HeaderRead s s1)
    (hty : msgType s1.client.recvBuffer = StSockMsg.register)
    (hread : readFromNonBlocking dataSizeLen (msgSize s1.client.recvBuffer) s1 = some (24, s2))
    (h : processMessageBuffer srv env s = some (ret, s')) :
    ∃ w, s'.sock.out = s.sock.out ++ [w] ∧ w.msg.u16 0 = StSockMsg.register ∧ w.msg.u16 2 =
      registerVerdict srv env (readVersion s2.client.recvBuffer 12) (readVersion s2.client.recvBuffer 24) := by
  unfold HeaderRead at hh
  unfold processMessageBuffer at h
  rw [hh] at h
  simp only [show dataSizeLen ≠ 0 by decide, if_false, processMessage, hty, if_true, processRegister, hread, ne_eq,
    not_true_eq_false] at h
  split at h
  · cases h
  · rename_i r k hw
    cases h
    obtain ⟨sent, rs, -, rfl, -⟩ := writeTo_cases hw
    have hout : s2.sock.out = s.sock.out := by
      obtain ⟨piece, rs2, -, -, rfl⟩ := readFromNonBlocking_cases hread
      obtain ⟨-, rs1, -, rfl⟩ := HeaderRead.eq hh
      rfl
    refine ⟨⟨registerReply srv env s2.client, dataSizeLen, sent⟩, by simp only [hout], ?_, ?_⟩
    · rw [registerReply, Buf.u16_put16]
    · rw [registerReply, Buf.u16_put16_out (by decide), Buf.u16_put16]

/-- **The verdict of a REGISTER is the one by order exactly for these inputs.** -/
theorem registration_verdict_iff {s s1 s2 s' : Conn} {ret : Int} (h1 : 1 ≤ srv.nMaxConnection)
    (h31 : srv.nMaxConnection < 2 ^ 31) (hh : HeaderRead s s1)
    (hty : msgType s1.client.recvBuffer = StSockMsg.register)
    (hread : readFromNonBlocking dataSizeLen (msgSize s1.client.recvBuffer) s1 = some (24, s2))
    (h : processMessageBuffer srv env s = some (ret, s')) :
    ∃ w, s'.sock.out = s.sock.out ++ [w] ∧ w.msg.u16 0 = StSockMsg.register ∧
      (w.msg.u16 2 = verdictByOrder srv env (readVersion s2.client.recvBuffer 12) (readVersion s2.client.recvBuffer 24) ↔
        VerdictRight srv env (readVersion s2.client.recvBuffer 12) (readVersion s2.client.recvBuffer 24)) := by
  obtain ⟨w, hout, hreg, hcode⟩ := register_reply hh hty hread h
  refine ⟨w, hout, hreg, ?_⟩
  rw [hcode]
  exact registerVerdict_iff h1 h31

/-- A REGISTER of versions whose components are bytes. -/
def versionsMsg (engine client : Byte × Byte × Byte) : List Byte :=
  [0xfb, 0xff, 0, 0, 0, 0, 0, 0, 24, 0, 0, 0, engine.1, 0, 0, 0, engine.2.1, 0, 0, 0, engine.2.2, 0, 0, 0,
    client.1, 0, 0, 0, client.2.1, 0, 0, 0, client.2.2, 0, 0, 0]

/-- The code a connection just accepted gets for it. -/
def registerAnswer (srv : Server) (env : Env) (msg : List Byte) : Option (BitVec 16) := do
  let (_, s) ← processMessageBuffer srv env (newConn msg [some 12, some 24] [some 12])
  let w ← s.sock.out.getLast?
  return w.msg.u16 2

theorem registration_verdict_iff_current : ∃ (s1 s2 s' : Conn) (w : Write),
    HeaderRead (newConn (versionsMsg (2, 86, 0) (1, 8, 0)) [some 12, some 24] [some 12]) s1 ∧
    readFromNonBlocking dataSizeLen (msgSize s1.client.recvBuffer) s1 = some (24, s2) ∧
    s'.sock.out = (newConn [] [] []).sock.out ++ [w] ∧ w.msg.u16 0 = StSockMsg.register ∧
    (w.msg.u16 2 = verdictByOrder defaultServer quietEnv (readVersion s2.client.recvBuffer 12)
        (readVersion s2.client.recvBuffer 24) ↔
      VerdictRight defaultServer quietEnv (readVersion s2.client.recvBuffer 12) (readVersion s2.client.recvBuffer 24)) := by
  obtain ⟨s1, s2, s', hh, hty, hread, hrun⟩ : ∃ s1 s2 s' : Conn,
      HeaderRead (newConn (versionsMsg (2, 86, 0) (1, 8, 0)) [some 12, some 24] [some 12]) s1 ∧
      msgType s1.client.recvBuffer = StSockMsg.register ∧
      readFromNonBlocking dataSizeLen (msgSize s1.client.recvBuffer) s1 = some (24, s2) ∧
      processMessageBuffer defaultServer quietEnv (newConn (versionsMsg (2, 86, 0) (1, 8, 0)) [some 12, some 24] [some 12]) =
        some (-1, s') :=
    ⟨_, _, _, rfl, by decide +kernel, rfl, rfl⟩
  obtain ⟨w, hw⟩ := registration_verdict_iff (by decide) (by decide) hh hty hread hrun
  exact ⟨s1, s2, s', w, hh, hread, hw⟩

/-- **A newer client is refused, and a small server is never full.** Supported is 1.8.0:
    1.8.0 is taken and 2.0.0 is not. With 5 connections the limit is -5. -/
theorem newer_client_refused :
    registerAnswer defaultServer quietEnv (versionsMsg (2, 86, 0) (1, 8, 0)) = some StSockMsg.regisOkAlway ∧
    registerAnswer defaultServer quietEnv (versionsMsg (2, 86, 0) (2, 0, 0)) = some StSockMsg.clientWrong ∧
    StarVersion.Below ⟨1, 8, 0⟩ ⟨2, 0, 0⟩ ∧
    verdictByOrder defaultServer quietEnv ⟨2, 86, 0⟩ ⟨2, 0, 0⟩ = StSockMsg.regisOkAlway ∧
    registerAnswer { defaultServer with nMaxConnection := 5 } quietEnv (versionsMsg (2, 86, 0) (1, 8, 0)) =
      some StSockMsg.regisOkAlway ∧
    verdictByOrder { defaultServer with nMaxConnection := 5 } quietEnv ⟨2, 86, 0⟩ ⟨1, 8, 0⟩ = StSockMsg.serverFull := by
  refine ⟨?_, ?_, ?_, ?_, ?_, ?_⟩
  all_goals decide +kernel

end StarServer.Socket

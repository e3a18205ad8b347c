/-
  StarServer.Socket.Resend — what becomes of a frame the server asked for again.

  A frame is taken when its packNo is above `packRef`, not when it is the next one: the
  protocol is stop-and-wait, and `packNo <= packRef` is an old packet. So a copy of frame n
  that comes after the RETRASMIT request for n meets whatever the frames in between have
  made of `packRef`.

  Proved:
  (1) `intact_taken_iff`: a whole frame enters the request handler exactly when it is new,
      its one-time session is not over and the upload it begins can open its file.
  (2) `resent_delivered_iff`: along every run of the connection, the copy enters the handler
      exactly when no frame with packNo >= n was handled in between (and the session and the
      file allow it); when one was, the copy is dropped as an old packet.
  (3) `resent_lost`: three frames in flight, the first of them damaged.
-/

import StarServer.Socket.AlikeReceive
import StarServer.Socket.Retransmit

namespace StarServer.Socket

open StarServer.Memory

variable {srv : Server}

/-! ## One whole frame -/

/-- The files that the frame begins can be opened. -/
structure UploadOpens (env : Env) (c : Client) : Prop where
  big : msgType c.recvBuffer &&& StSockMsg.bigdata ≠ 0 → FirstPart c.recvBuffer →
    env.canOpen (bigDataPath c.idx.toNat) = true
  file : msgType c.recvBuffer &&& StSockMsg.filedata ≠ 0 → FirstPart c.recvBuffer →
    env.canOpen (fileDataPath (beginFileData c (packetDataSize c.recvBuffer).toNat)) = true

theorem bigPart_zero_iff (env : Env) (fs : FS) (c : Client) : (bigPart env fs c.recvBuffer c).1 = 0 ↔
    (msgType c.recvBuffer &&& StSockMsg.bigdata ≠ 0 → FirstPart c.recvBuffer →
      env.canOpen (bigDataPath c.idx.toNat) = true) := by
  have hcan := fopenWrite_isSome env fs (bigDataPath c.idx.toNat)
  unfold bigPart
  by_cases hty : msgType c.recvBuffer &&& StSockMsg.bigdata ≠ 0
  · rw [if_pos hty]
    have h := bigData_handled env fs c
    generalize proessMessageBigData env fs c = r at h ⊢
    cases h with
    | unopened hfirst hopen =>
      rw [hopen] at hcan
      exact iff_of_false (by decide : (-1 : Int) ≠ 0) fun h => Bool.false_ne_true (hcan.mpr (h hty hfirst))
    | first f hfirst hopen =>
      rw [hopen] at hcan
      exact iff_of_true (finishBigData_done _ _ _ _).ret fun _ _ => hcan.mp rfl
    | next hnext => exact iff_of_true (finishBigData_done _ _ _ _).ret fun _ hf => absurd hf hnext.1
    | neither hfirst => exact iff_of_true (finishBigData_done _ _ _ _).ret fun _ hf => absurd hf hfirst
  · rw [if_neg hty]
    exact iff_of_true rfl fun h => absurd h hty

theorem filePart_zero_iff (env : Env) (fs : FS) (c : Client) : (filePart env fs c.recvBuffer c).1 = 0 ↔
    (msgType c.recvBuffer &&& StSockMsg.filedata ≠ 0 → FirstPart c.recvBuffer →
      env.canOpen (fileDataPath (beginFileData c (packetDataSize c.recvBuffer).toNat)) = true) := by
  have hcan := fopenWrite_isSome env fs (fileDataPath (beginFileData c (packetDataSize c.recvBuffer).toNat))
  unfold filePart
  by_cases hty : msgType c.recvBuffer &&& StSockMsg.filedata ≠ 0
  · rw [if_pos hty]
    have h := fileData_handled env fs c
    generalize proessMessageFileData env fs c = r at h ⊢
    cases h with
    | unopened hfirst hopen =>
      rw [hopen] at hcan
      exact iff_of_false (by decide : (-1 : Int) ≠ 0) fun h => Bool.false_ne_true (hcan.mpr (h hty hfirst))
    | first f hfirst hopen =>
      rw [hopen] at hcan
      exact iff_of_true (finishFileData_done _ _ _ _ _).ret fun _ _ => hcan.mp rfl
    | next hnext => exact iff_of_true (finishFileData_done _ _ _ _ _).ret fun _ hf => absurd hf hnext.1
    | neither hfirst => exact iff_of_true (finishFileData_done _ _ _ _ _).ret fun _ hf => absurd hf hfirst
  · rw [if_neg hty]
    exact iff_of_true rfl fun h => absurd h hty

/-- The name of a new upload file does not depend on the parts before it. -/
theorem beginFileData_path {c c' : Client} (h : SamePlace c c') (start : Nat) :
    fileDataPath (beginFileData c' start) = fileDataPath (beginFileData c start) := by
  unfold fileDataPath fileDataNameStr beginFileData
  simp only [h.recvBuffer, h.idx, h.send.1, h.send.2]

theorem SamePlace.trans {a b c : Client} (h1 : SamePlace a b) (h2 : SamePlace b c) : SamePlace a c :=
  ⟨h2.recvBuffer.trans h1.recvBuffer, h2.idx.trans h1.idx, h2.path.trans h1.path, h2.send.1.trans h1.send.1,
    h2.send.2.trans h1.send.2⟩

/-- A frame's parts all go through exactly when its files open. -/
theorem processFrame_zero_iff (env : Env) (s : Conn) : (processFrame env s).1 = 0 ↔ UploadOpens env s.client := by
  have hm := messagePart_place s.client
  have hbig := bigPart_zero_iff env s.fs (messagePart s.client)
  have hplace := hm.trans (bigPart_place env s.fs s.client.recvBuffer (messagePart s.client))
  rw [hm.recvBuffer, hm.idx] at hbig
  rw [processFrame_parts]
  simp only
  generalize bigPart env s.fs s.client.recvBuffer (messagePart s.client) = r at hbig hplace ⊢
  have hfile := filePart_zero_iff env r.2.2 r.2.1
  rw [hplace.recvBuffer, beginFileData_path hplace] at hfile
  generalize filePart env r.2.2 s.client.recvBuffer r.2.1 = r' at hfile ⊢
  by_cases hr : r.1 = 0
  · rw [if_neg (not_not_intro hr)]
    by_cases hr' : r'.1 = 0
    · rw [if_neg (not_not_intro hr')]
      exact ⟨fun _ => ⟨hbig.mp hr, hfile.mp hr'⟩, fun _ => rfl⟩
    · rw [if_pos hr']
      exact ⟨fun h => absurd h hr', fun h => absurd (hfile.mpr h.file) hr'⟩
  · rw [if_pos hr]
    exact ⟨fun h => absurd h hr, fun h => absurd (hbig.mpr h.big) hr⟩

/-- The stream holds one next frame. -/
theorem DataRead.unique {s u u' : Conn} {n n' : Nat} (h : DataRead srv s u n) (h' : DataRead srv s u' n') :
    u = u' ∧ n = n' := by
  obtain ⟨s1, hh, -, hr⟩ := h.read
  obtain ⟨s1', hh', -, hr'⟩ := h'.read
  unfold HeaderRead at hh hh'
  rw [hh] at hh'
  obtain rfl : s1 = s1' := congrArg Prod.snd (Option.some.inj hh')
  rw [hr] at hr'
  cases Option.some.inj hr'
  exact ⟨rfl, rfl⟩

/-- **What a whole frame needs to enter the handler.** -/
theorem intact_taken_iff {env : Env} {s u c : Conn} {n : Nat} {ret : Int} (hd : DataRead srv s u n)
    (hi : IsIntact n u.client.recvBuffer) (h : processMessageBuffer srv env s = some (ret, c)) :
    ret = 0 ↔ s.client.packRef < msgPackNo u.client.recvBuffer ∧ ¬ sessionOver srv u.client ∧ UploadOpens env u.client := by
  have hpack := (dataRead_same hd).2.1
  have hopen := processFrame_zero_iff env (traceCrc u)
  have hneg : ¬ (-1 : Int) = 0 := by decide
  rw [processMessageBuffer_dataRead hd] at h
  simp only [processPayload] at h
  rw [← hpack]
  by_cases hnew : msgPackNo u.client.recvBuffer ≤ u.client.packRef
  · rw [if_pos hnew] at h
    cases h
    exact ⟨fun h0 => absurd h0 hneg, fun ho => absurd ho.1 (BitVec.not_lt.mpr hnew)⟩
  · rw [if_neg hnew] at h
    by_cases hover : sessionOver srv u.client
    · rw [if_pos hover] at h
      cases h
      exact ⟨fun h0 => absurd h0 hneg, fun ho => absurd hover ho.2.1⟩
    · rw [if_neg hover, if_neg (not_not_intro hi.size), if_neg (not_not_intro hi.crc)] at h
      have hret : ret = (processFrame env (traceCrc u)).1 := by rw [Option.some.inj h]
      rw [hret, hopen]
      exact ⟨fun ho => ⟨BitVec.not_le.mp hnew, hover, ho⟩, fun ho => ho.2.2⟩

/-! ## Along a connection -/

/-- The step begins no other connection. -/
def SameConnection (e : Ev) : Prop := ∀ idx inp recvs sends, e ≠ .accept idx inp recvs sends

theorem step_handled {s s' : Slot} {e : Ev} (hsame : SameConnection e) (he : step srv s e = some s') :
    ∃ ms, s'.handled = s.handled ++ ms := by
  cases step_stepped he with
  | accept idx inp recvs sends => exact absurd rfl (hsame idx inp recvs sends)
  | handled env c => exact ⟨_, rfl⟩
  | dropped => exact ⟨[], (List.append_nil _).symm⟩
  | timeout => exact ⟨[], (List.append_nil _).symm⟩
  | endPack => exact ⟨[], (List.append_nil _).symm⟩
  | call => exact ⟨[], (List.append_nil _).symm⟩

/-- Frames are handled behind those handled before. -/
theorem run_handled {es : List Ev} {s s' : Slot} (hsame : ∀ e ∈ es, SameConnection e)
    (hrun : Runs.run (step srv) s es = some s') : ∃ ms, s'.handled = s.handled ++ ms := by
  induction es generalizing s with
  | nil =>
    cases hrun
    exact ⟨[], (List.append_nil _).symm⟩
  | cons e es ih =>
    obtain ⟨m, he, hrest⟩ := (Runs.run_cons _).mp hrun
    obtain ⟨ms, hms⟩ := step_handled (hsame e List.mem_cons_self) he
    obtain ⟨ns, hns⟩ := ih (fun e' he' => hsame e' (List.mem_cons_of_mem _ he')) hrest
    exact ⟨ms ++ ns, by rw [hns, hms, List.append_assoc]⟩

theorem Reachable.run {s s' : Slot} {es : List Ev} (h : Reachable srv s) (hrun : Runs.run (step srv) s es = some s') :
    Reachable srv s' := by
  obtain ⟨recvMem, sendMem, fs, pool, fs', h0⟩ := h
  exact ⟨recvMem, sendMem, fs, pool, fs' ++ es, (Runs.run_append _).mpr ⟨s, h0, hrun⟩⟩

/-- `packRef` is below a number exactly when everything handled is. -/
theorem InOrder.packRef_lt {s : Slot} (h : InOrder s) (n : BitVec 32) :
    s.conn.client.packRef < n ↔ 0 < n ∧ ∀ m ∈ s.handled, m < n := by
  rw [h.last]
  have hinc := h.increasing
  rcases List.eq_nil_or_concat s.handled with hnil | ⟨l, x, hl⟩
  · rw [hnil]
    exact ⟨fun hlt => ⟨hlt, fun m hm => nomatch hm⟩, fun hlt => hlt.1⟩
  · rw [hl, List.concat_eq_append] at hinc ⊢
    rw [List.getLast?_concat, Option.getD_some]
    constructor
    · intro hlt
      refine ⟨?_, fun m hm => ?_⟩
      · exact Nat.lt_of_le_of_lt (Nat.zero_le _) hlt
      · rcases List.mem_append.mp hm with hm | hm
        · have hmx : m < x := (List.pairwise_append.mp hinc).2.2 m hm x List.mem_cons_self
          exact BitVec.lt_trans hmx hlt
        · obtain rfl := List.mem_singleton.mp hm
          exact hlt
    · intro hall
      exact hall.2 x (List.mem_append_right _ List.mem_cons_self)

theorem message_step {s s' : Slot} {env : Env} (he : step srv s (.message env) = some s') :
    ∃ ret, processMessageBuffer srv env s.conn = some (ret, s'.conn) ∧
      (ret = 0 ↔ s'.phase = .handling) ∧
      s'.handled = s.handled ++ if ret = 0 then [msgPackNo s'.conn.client.recvBuffer] else [] := by
  cases step_stepped he with
  | handled _ c hph hon hm => exact ⟨0, hm, ⟨fun _ => rfl, fun _ => rfl⟩, rfl⟩
  | dropped _ c ret hph hon hret hm =>
    refine ⟨ret, hm, ⟨fun h0 => absurd h0 hret, fun hp => ?_⟩, ?_⟩
    · have hp : s.phase = .handling := hp
      rw [hph] at hp
      cases hp
    · rw [if_neg hret, List.append_nil]

/-- **The fate of a frame asked for again.** The server finds frame n damaged and asks for
    it; the connection goes on in any way; then comes a whole frame n. -/
theorem resent_delivered_iff {s0 s1 s s' : Slot} {env0 env : Env} {es : List Ev} {t u : Conn} {k n : Nat}
    (hreach : Reachable srv s0) (hbad : DataRead srv s0.conn t k) (hfresh : IsFresh srv t.client)
    (hdamaged : ¬ IsIntact k t.client.recvBuffer) (hasked : step srv s0 (.message env0) = some s1)
    (hsame : ∀ e ∈ es, SameConnection e) (hrun : Runs.run (step srv) s1 es = some s) (hcopy : DataRead srv s.conn u n)
    (hintact : IsIntact n u.client.recvBuffer) (hno : msgPackNo u.client.recvBuffer = msgPackNo t.client.recvBuffer)
    (he : step srv s (.message env) = some s') :
    (∃ ret, Rejected (msgPackNo t.client.recvBuffer) s0.conn ret s1.conn) ∧
    ∃ ms, s.handled = s0.handled ++ ms ∧
      (s'.phase = .handling ∧ s'.handled = s.handled ++ [msgPackNo t.client.recvBuffer] ↔
        (∀ m ∈ ms, m < msgPackNo t.client.recvBuffer) ∧ ¬ sessionOver srv u.client ∧ UploadOpens env u.client) ∧
      ((∃ m ∈ ms, msgPackNo t.client.recvBuffer ≤ m) →
        (∃ ret, Ignored s.conn ret s'.conn) ∧ s'.handled = s.handled) := by
  obtain ⟨ret0, hm0, -, hh0⟩ := message_step hasked
  have hrej := (message_verdict hm0).rejected t k hbad hfresh hdamaged
  rw [if_neg hrej.ret, List.append_nil] at hh0
  obtain ⟨ms, hms⟩ := run_handled hsame hrun
  rw [hh0] at hms
  have hreach1 : Reachable srv s1 := @Reachable.run _ s0 s1 [.message env0] hreach ((Runs.run_cons _).mpr ⟨s1, hasked, rfl⟩)
  have hord := reachable_inOrder (hreach1.run hrun)
  -- what was handled before the request is below n already
  have hbefore := ((reachable_inOrder hreach).packRef_lt (msgPackNo t.client.recvBuffer)).mp (by
    rw [← (dataRead_same hbad).2.1]
    exact hfresh.packNo)
  have hnew : s.conn.client.packRef < msgPackNo t.client.recvBuffer ↔ ∀ m ∈ ms, m < msgPackNo t.client.recvBuffer := by
    rw [hord.packRef_lt, hms]
    constructor
    · intro h m hm
      exact h.2 m (List.mem_append_right _ hm)
    · intro h
      refine ⟨hbefore.1, fun m hm => ?_⟩
      rcases List.mem_append.mp hm with hm | hm
      · exact hbefore.2 m hm
      · exact h m hm
  obtain ⟨ret, hm, hph, hh⟩ := message_step he
  have htaken := intact_taken_iff hcopy hintact hm
  rw [hno, hnew] at htaken
  refine ⟨⟨ret0, hrej⟩, ms, hms, ?_, ?_⟩
  · rw [← htaken]
    constructor
    · intro h
      exact hph.mpr h.1
    · intro h0
      have hacc := message_accepted (h0 ▸ hm)
      obtain ⟨s2, n2, hd2, -, -, hbuf⟩ := hacc.frame
      refine ⟨hph.mp h0, ?_⟩
      rw [hh, if_pos h0, ← hno]
      obtain ⟨rfl, rfl⟩ := DataRead.unique hcopy hd2
      rw [hbuf]
  · intro ⟨m, hmem, hle⟩
    have hold : msgPackNo u.client.recvBuffer ≤ s.conn.client.packRef := by
      rw [hno]
      refine BitVec.not_lt.mp fun hlt => ?_
      exact absurd (hnew.mp hlt m hmem) (BitVec.not_lt.mpr hle)
    have hign := (message_verdict hm).old u n hcopy hold
    refine ⟨⟨ret, hign⟩, ?_⟩
    rw [hh, if_neg hign.ret, List.append_nil]

/-- A data frame with packNo `n` and nothing in it, its CRC wrong. -/
def damagedFrame (n : Byte) : List Byte := [1, 0, 0, 0, n, 0, 0, 0, 4, 0, 0, 0, 1, 0, 0, 0]

/-- Frame 1 damaged, and its copy next: what the server asked for is handled. -/
theorem resent_delivered : ∃ s', Runs.run (step defaultServer) emptySlot
    [.accept 0 (damagedFrame 1 ++ emptyFrame 1) [some 12, some 4, some 12, some 4] [some 12, some 12],
      .message quietEnv, .message quietEnv] = some s' ∧ s'.phase = .handling ∧ s'.handled = [1] := by
  obtain ⟨s0, h0, t, s1, s', u, hbad, hfresh, hdamaged, hno, hasked, hnone, hcopy, hintact, hsame, he, hover, hopen⟩ :
      ∃ s0, Runs.run (step defaultServer) emptySlot
        [.accept 0 (damagedFrame 1 ++ emptyFrame 1) [some 12, some 4, some 12, some 4] [some 12, some 12]] = some s0 ∧
      ∃ t s1 s' u, DataRead defaultServer s0.conn t 4 ∧ IsFresh defaultServer t.client ∧
      ¬ IsIntact 4 t.client.recvBuffer ∧ msgPackNo t.client.recvBuffer = 1 ∧
      step defaultServer s0 (.message quietEnv) = some s1 ∧ s1.handled = [] ∧
      DataRead defaultServer s1.conn u 4 ∧ IsIntact 4 u.client.recvBuffer ∧
      msgPackNo u.client.recvBuffer = msgPackNo t.client.recvBuffer ∧
      step defaultServer s1 (.message quietEnv) = some s' ∧ ¬ sessionOver defaultServer u.client ∧
      UploadOpens quietEnv u.client := by
    refine ⟨_, rfl, _, _, _, _, ⟨_, rfl, ⟨⟨⟨?_, ?_, ?_⟩, ?_, ?_⟩, ?_, ?_, ?_⟩, rfl⟩, ⟨?_, ?_⟩, fun h => ?_, ?_, rfl, rfl,
      ⟨_, rfl, ⟨⟨⟨?_, ?_, ?_⟩, ?_, ?_⟩, ?_, ?_, ?_⟩, rfl⟩, ⟨?_, ?_⟩, ?_, rfl, ?_, ⟨fun _ _ => rfl, fun _ _ => rfl⟩⟩
    case refine_11 => exact absurd h.crc (by decide +kernel)
    all_goals decide +kernel
  obtain ⟨-, ms, hms, htaken, -⟩ := @resent_delivered_iff defaultServer s0 s1 s1 s' quietEnv quietEnv [] t u 4 4
    ⟨_, _, _, _, _, h0⟩ hbad hfresh hdamaged hasked (fun e he => nomatch he) rfl hcopy hintact hsame he
  rw [hnone] at hms
  obtain rfl := (List.append_eq_nil_iff.mp hms.symm).2
  obtain ⟨hph, hh⟩ := htaken.mpr ⟨(fun m hm => nomatch hm), hover, hopen⟩
  rw [hno, hnone] at hh
  have hrest : Runs.run (step defaultServer) s0 [.message quietEnv, .message quietEnv] = some s' :=
    (Runs.run_cons _).mpr ⟨s1, hasked, (Runs.run_cons _).mpr ⟨s', he, rfl⟩⟩
  have hall := (Runs.run_append (step defaultServer)).mpr ⟨s0, h0, hrest⟩
  exact ⟨s', hall, hph, hh⟩

/-- Frame 1 damaged, frame 2 whole, and the copy of frame 1 that was asked for. -/
def inFlight : List Ev :=
  [.accept 0 (damagedFrame 1 ++ emptyFrame 2 ++ emptyFrame 1) [some 12, some 4, some 12, some 4, some 12, some 4]
    [some 12, some 12, some 12], .message quietEnv, .message quietEnv, .endPack quietEnv, .message quietEnv]

/-- The writes: GIVEID, RETRASMIT for 1, CONFIRM of 2. -/
def LostOne (s : Slot) : Prop :=
  s.handled = [2] ∧ s.phase = .polling ∧ s.conn.client.online = true ∧ s.conn.sock.inp = [] ∧
    s.conn.sock.out.map (fun w => (w.msg.u16 0, w.msg.u32 4)) =
      [(StSockMsg.giveid, 0), (StSockMsg.retrasmit, 1), (StSockMsg.confirm, 2)]

instance (s : Slot) : Decidable (LostOne s) := by unfold LostOne; infer_instance

/-- **A resent frame is lost.** The server asked for frame 1 and drops the whole copy of it. -/
theorem resent_lost : ∃ s, Runs.run (step defaultServer) emptySlot inFlight = some s ∧ LostOne s := by
  have hsome : (Runs.run (step defaultServer) emptySlot inFlight).any (fun s => decide (LostOne s)) = true := by
    decide +kernel
  obtain ⟨s, hrun, hs⟩ := (Option.any_eq_true _ _).mp hsome
  exact ⟨s, hrun, of_decide_eq_true hs⟩

end StarServer.Socket

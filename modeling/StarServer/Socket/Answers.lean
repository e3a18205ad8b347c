/-
  StarServer.Socket.Answers — what goes back for each request.

  While the request handler runs, and from any other thread at any time, messages are queued
  for the client; `EndPackSendData` sends them and empties the queue. The result is about
  messages that are not empty and find room in the queue, and no file on its way.

  `Batches` notes the messages queued since the last answer, and for each answer its request and
  the messages it was to carry.

  Proved:
    * `sendData_whole`: a message that finds room is queued whole;
    * `endPack_answers`: one answer, byte for byte;
    * `step_answering`: every step keeps the account;
    * `answers_exact`: each request handled has one answer, in order, which is the data frame of
      the messages queued since the last one, under the request's packNo, or a CONFIRM where
      there are none; on the wire is a front of it, and all of it while the client is online;
    * `answer_received`: what a client that decodes as the server does finds in an answer.
-/

import StarServer.Socket.DataFrame
import StarServer.Socket.Line
import StarServer.Socket.OutputFraming
import StarServer.Socket.WholeMessages

namespace StarServer.Socket

open StarServer.Memory StarServer.Runs

variable {srv : Server}

/-! ## Answers -/

/-- The answer to frame `packNo` with these messages queued. -/
def answerBytes (packNo : BitVec 32) (ms : List (List Byte)) : List Byte :=
  if ms = [] then headerBytes StSockMsg.confirm stsockidServer packNo 0 else dataFrame stsockidServer packNo ms

/-- The messages queued since the last answer, and those of each answer with the packNo it is
    for. -/
structure Batches where
  answered : List (BitVec 32 × List (List Byte))
  queued : List (List Byte)

def batches (n : Batches) (e : Ev) (s : Slot) : Batches :=
  match e with
  | .call _ (.sendData m) => { n with queued := n.queued ++ [m] }
  | .endPack _ => ⟨n.answered ++ [(s.conn.client.packRef, n.queued)], []⟩
  | _ => n

/-- Messages find room in the queue, no file is sent, and the connection goes on. -/
def Roomy (s : Slot) : Ev → Prop
  | .call _ (.sendData m) => m ≠ [] ∧ s.conn.client.sendCount + blocksOf m.length ≤ 62
  | .call _ (.sendDBFile _) => False
  | .accept _ _ _ _ => False
  | _ => True

instance decidableRoomy (s : Slot) : (e : Ev) → Decidable (Roomy s e)
  | .call _ (.sendData m) => inferInstanceAs (Decidable (m ≠ [] ∧ s.conn.client.sendCount + blocksOf m.length ≤ 62))
  | .call _ (.sendDBFile _) | .accept _ _ _ _ => inferInstanceAs (Decidable False)
  | .message _ | .timeout | .endPack _ | .call _ .sendDuplicateLogin | .call _ .sendServerFULL | .call _ (.getData _)
  | .call _ .getDataCount | .call _ .haveBigData | .call _ .getBigData | .call _ .freeBigData | .call _ .getFileDataName
  | .call _ .haveFileData | .call _ .freeFileData => inferInstanceAs (Decidable True)

/-! ## The queue -/

/-- The send side with these messages in its queue. -/
structure Holding (c : Client) (ms : List (List Byte)) : Prop extends QueuedWhole c ms where
  curPacketNo : c.curPacketNo = BitVec.ofNat 16 ms.length
  noFile : c.fileDataSending = false

theorem length_numbered (n : Nat) (ms : List (List Byte)) :
    (numbered n ms).length = (ms.map fun m => (pieces m).length).sum := by
  induction ms generalizing n with
  | nil => rfl
  | cons m ms ih => simp only [numbered, List.length_append, List.length_map, List.map_cons, List.sum_cons, ih]

theorem numbered_concat (n : Nat) (ms : List (List Byte)) (m : List Byte) :
    numbered n (ms ++ [m]) = numbered n ms ++ (pieces m).map fun p => (p, BitVec.ofNat 8 (n + ms.length)) := by
  induction ms generalizing n with
  | nil => simp [numbered]
  | cons x ms ih =>
    simp only [List.cons_append, numbered, List.length_cons]
    rw [ih, List.append_assoc, show n + 1 + ms.length = n + (ms.length + 1) by omega]

theorem Holding.count {c : Client} {ms : List (List Byte)} (h : Holding c ms) :
    c.sendCount = (ms.map fun m => (pieces m).length).sum := by
  rw [← length_queue, h.queue, length_numbered]

/-- Each message takes a block at least. -/
theorem Holding.length_le {c : Client} {ms : List (List Byte)} (h : Holding c ms) : ms.length ≤ c.sendCount := by
  rw [h.count]
  exact length_le_pieces h.nonempty

theorem Holding.sendCount_pos {c : Client} {ms : List (List Byte)} (h : Holding c ms) : 0 < c.sendCount ↔ ms ≠ [] := by
  constructor
  · intro hpos hnil
    have hcount := h.count
    rw [hnil] at hcount
    exact absurd hcount (Nat.ne_of_gt hpos)
  · intro hne
    exact Nat.lt_of_lt_of_le (List.length_pos_iff.mpr hne) h.length_le

theorem Holding.of_same {c d : Client} {ms : List (List Byte)} (h : Holding c ms) (hs : SameQueue c d)
    (hfile : d.fileDataSending = c.fileDataSending) : Holding d ms := by
  refine ⟨⟨⟨?_, ?_⟩, hs.queue.trans h.queue, h.messages, h.nonempty⟩, hs.curPacketNo.trans h.curPacketNo, hfile.trans h.noFile⟩
  · rw [hs.sendCount]
    exact h.ok.count
  · rw [hs.sendCount, hs.sizes]
    exact h.ok.sizes

/-- An empty queue. -/
theorem holding_nil {c : Client} (h0 : c.sendCount = 0) (hno : c.curPacketNo = 0) (hfile : c.fileDataSending = false) :
    Holding c [] := by
  refine ⟨⟨empty_queueOk h0, ?_, Nat.zero_le _, fun m hm => by cases hm⟩, hno, hfile⟩
  unfold queue
  rw [h0]
  rfl

/-- **A message that finds room** is queued whole. -/
theorem sendData_whole {c : Client} {ms : List (List Byte)} {m : List Byte} (h : Holding c ms) (hm : m ≠ [])
    (hroom : c.sendCount + blocksOf m.length ≤ 62) : Holding (stsvSendData c m) (ms ++ [m]) := by
  have hlen := length_pieces m
  have hpos : 0 < (pieces m).length := List.length_pos_iff.mpr (Memory.chunks_ne_nil (by decide) hm)
  have hcount := h.length_le
  have hqueue := queue_sendData h.ok m
  rw [List.take_of_length_le (by omega), h.queue, h.curPacketNo] at hqueue
  have hno := sendData_curPacketNo h.ok m
  rw [if_pos (by omega), h.curPacketNo] at hno
  have hwidth : (BitVec.ofNat 16 ms.length).setWidth 8 = BitVec.ofNat 8 (0 + ms.length) := by
    apply BitVec.eq_of_toNat_eq
    simp only [BitVec.toNat_setWidth, BitVec.toNat_ofNat]
    omega
  refine ⟨⟨sendData_ok h.ok m, ?_, ?_, ?_⟩, ?_, ?_⟩
  · rw [hqueue, hwidth, numbered_concat]
  · rw [List.length_append, List.length_singleton]
    omega
  · intro x hx
    rcases List.mem_append.mp hx with hx | hx
    · exact h.nonempty x hx
    · exact List.mem_singleton.mp hx ▸ hm
  · rw [hno, List.length_append, List.length_singleton, BitVec.ofNat_add]
    rfl
  · exact (stsvSendData_same c m).sending.trans h.noFile

/-! ## The other steps -/

/-- A message from the client leaves the queue as it was. -/
theorem message_holding {env : Env} {s s' : Conn} {ret : Int} {ms : List (List Byte)} (hh : Holding s.client ms)
    (h : processMessageBuffer srv env s = some (ret, s')) : Holding s'.client ms := by
  have hdone := (outcome_done (processMessageBuffer_outcome h)).client
  have hblocks := message_queue h
  have hsame : SameQueue s.client s'.client := by
    have hn : s'.client.sendCount = s.client.sendCount := by
      rw [hdone]
      rfl
    have hno : s'.client.sendPacketNo = s.client.sendPacketNo := by
      rw [hdone]
      rfl
    refine ⟨hn, by rw [hdone]; rfl, ?_, by rw [hdone]; rfl⟩
    unfold queue at hblocks ⊢
    rw [hn] at hblocks ⊢
    rw [hno]
    rw [List.map_map, List.map_map] at hblocks
    refine List.map_congr_left fun i hi => ?_
    have hblock := List.map_inj_left.mp hblocks i hi
    exact Prod.ext hblock rfl
  refine hh.of_same hsame ?_
  rw [hdone]
  rfl

/-- So does a call that queues nothing. -/
theorem call_holding {env : Env} {s s' : Conn} {a : Call} {r : Reply} {ms : List (List Byte)} (hh : Holding s.client ms)
    (hsend : ∀ m, a ≠ .sendData m) (hfile : ∀ name, a ≠ .sendDBFile name) (h : doCall srv env s a = some (r, s')) :
    Holding s'.client ms := by
  have hquiet : ∃ buf big file on, s'.client =
      { s.client with bigDataBuffer := buf, bigDataReady := big, fileDataReady := file, online := on } := by
    cases a with
    | sendData m => exact absurd rfl (hsend m)
    | sendDBFile name => exact absurd rfl (hfile name)
    | sendDuplicateLogin =>
      obtain ⟨s1, h1, hr⟩ := Option.map_eq_some_iff.mp h
      cases hr
      rw [(sendNotice_done h1).2]
      exact ⟨_, _, _, _, rfl⟩
    | sendServerFULL =>
      obtain ⟨s1, h1, hr⟩ := Option.map_eq_some_iff.mp h
      cases hr
      rw [(sendNotice_done h1).2]
      exact ⟨_, _, _, _, rfl⟩
    | getBigData =>
      have h' : s' = (stsvGetBigData env s).2 := by
        simp only [doCall, Option.some.injEq] at h
        rw [h]
      rw [h']
      unfold stsvGetBigData
      split
      · exact ⟨_, _, _, _, rfl⟩
      · split
        · exact ⟨_, _, _, _, rfl⟩
        · simp only
          split
          · exact ⟨_, _, _, _, rfl⟩
          · exact ⟨_, _, _, _, rfl⟩
    | _ =>
      cases h
      exact ⟨_, _, _, _, rfl⟩
  obtain ⟨buf, big, file, on, hclient⟩ := hquiet
  refine hh.of_same ⟨?_, ?_, ?_, ?_⟩ ?_
  · rw [hclient]
  · rw [hclient]
  · rw [hclient]
    rfl
  · rw [hclient]
  · rw [hclient]

/-- The one write of an answer: the front of its bytes, and all of them unless the client is
    offline after it. -/
structure OneAnswer (packNo : BitVec 32) (ms : List (List Byte)) (s s' : Conn) : Prop where
  front : wireBytes (s'.sock.out.drop s.sock.out.length) <+: answerBytes packNo ms
  whole : s'.client.online = true → wireBytes (s'.sock.out.drop s.sock.out.length) = answerBytes packNo ms

/-- What `WriteTo` is given and what it sends of it. -/
theorem written_front {msg : Buf} {count ret : Nat} {k k' : Sock} {l : List Byte} {on : Bool}
    (hl : msg.slice 0 count = l) (hw : writeTo srv msg count k = some (ret, k')) :
    wireBytes (k'.out.drop k.out.length) <+: l ∧
      ((on && ret != 0) = true → wireBytes (k'.out.drop k.out.length) = l) := by
  obtain ⟨sent, rs, -, rfl, hcase⟩ := writeTo_cases hw
  have hwire : wireBytes (List.drop k.out.length (k.out ++ [⟨msg, count, sent⟩])) = msg.slice 0 sent := by
    rw [List.drop_left]
    exact List.append_nil _
  have hsent : sent ≤ count := by
    rcases hcase with ⟨-, h⟩ | ⟨-, h, -⟩
    · exact Nat.le_of_eq h
    · exact h
  simp only [hwire]
  refine ⟨?_, fun hret => ?_⟩
  · rw [← hl, ← Buf.slice_take msg 0 hsent]
    exact List.take_prefix _ _
  · rcases hcase with ⟨-, rfl⟩ | ⟨h0, -⟩
    · exact hl
    · rw [h0] at hret
      simp at hret

/-- **One answer.** -/
theorem endPack_answers {env : Env} {s s' : Conn} {ms : List (List Byte)} (hh : Holding s.client ms)
    (h : EndPacked srv env s s') : OneAnswer s.client.packRef ms s s' ∧ Holding s'.client [] := by
  cases h with
  | frame ret sock hsend hw =>
    have hne : ms ≠ [] := hh.sendCount_pos.mp (hsend.resolve_right (by rw [hh.noFile]; decide))
    have hbytes : (packFrame env s.fs s.client).sendBuffer.slice 0 (packFrame env s.fs s.client).sendDataSize =
        answerBytes s.client.packRef ms := by
      unfold answerBytes
      rw [if_neg hne]
      exact packFrame_bytes hh.toQueuedWhole hh.noFile
    obtain ⟨hfront, hwhole⟩ := @written_front srv _ _ _ _ _ _ s.client.online hbytes hw
    refine ⟨⟨hfront, hwhole⟩, holding_nil rfl rfl ?_⟩
    exact (packFrame_idle hh.noFile).sending.trans hh.noFile
  | confirm ret sock h0 hfile hw =>
    have hnil : ms = [] := by
      by_contra hne
      have hpos := hh.sendCount_pos.mpr hne
      omega
    subst hnil
    have hbytes : (dataSizeMsg StSockMsg.confirm stsockidServer s.client.packRef 0).slice 0 dataSizeLen =
        answerBytes s.client.packRef [] := by
      unfold answerBytes
      rw [if_pos rfl, slice_headerBytes]
      obtain ⟨h1, h2, h3, h4⟩ := dataSizeMsg_header StSockMsg.confirm stsockidServer s.client.packRef 0
      rw [h1, h2, h3, h4]
    obtain ⟨hfront, hwhole⟩ := @written_front srv _ _ _ _ _ _ s.client.online hbytes hw
    exact ⟨⟨hfront, hwhole⟩, hh.of_same ⟨rfl, rfl, rfl, rfl⟩ rfl⟩

/-! ## The client -/

/-- Messages that have been in the queue together. -/
structure Queueable (ms : List (List Byte)) : Prop where
  room : (ms.map fun m => blocksOf m.length).sum ≤ 62
  nonempty : ∀ m ∈ ms, m ≠ []

theorem Holding.queueable {c : Client} {ms : List (List Byte)} (h : Holding c ms) : Queueable ms := by
  refine ⟨?_, h.nonempty⟩
  have hcount := h.count
  have hle := h.ok.count
  simp only [length_pieces] at hcount
  omega

theorem Queueable.fits {ms : List (List Byte)} (h : Queueable ms) : packDataLen + (messageBody ms).length ≤ stsvMaxBuffer := by
  have htable : ∀ n, (messageTable n ms).length = (ms.map fun m => blocksOf m.length).sum := by
    intro n
    induction ms generalizing n with
    | nil => rfl
    | cons m ms ih =>
      have hrest := ih ⟨by have := h.room; simp only [List.map_cons, List.sum_cons] at this; omega,
        fun x hx => h.nonempty x (List.mem_cons_of_mem _ hx)⟩ (n + 1)
      simp only [messageTable, List.length_append, List.length_map, length_pieces, List.map_cons, List.sum_cons, hrest]
  have hflat : ms.flatten.length ≤ 1024 * (ms.map fun m => blocksOf m.length).sum := by
    have hgen : ∀ ms : List (List Byte), ms.flatten.length ≤ 1024 * (ms.map fun m => blocksOf m.length).sum := by
      intro ms
      induction ms with
      | nil => exact Nat.le_refl _
      | cons m ms ih =>
        simp only [List.flatten_cons, List.length_append, List.map_cons, List.sum_cons, blocksOf] at ih ⊢
        omega
    exact hgen ms
  have hroom := h.room
  have h16 : packDataLen = 16 := rfl
  have h64 : stsvMaxBuffer = 65536 := rfl
  unfold messageBody
  rw [List.length_append, length_words, htable]
  omega

/-- **What is in an answer**: a client that decodes it as the server decodes finds the messages. -/
theorem answer_received {packNo : BitVec 32} {ms : List (List Byte)} {r : Client} (h : Queueable ms) (hne : ms ≠ [])
    (hr : r.recvCount = 0) (hbuf : r.recvBuffer.slice 0 (answerBytes packNo ms).length = answerBytes packNo ms) :
    received (processMessagePacket r) = ms ∧
      crcOver r.recvBuffer packDataLen (crcLength r.recvBuffer) = r.recvBuffer.u16 12 := by
  have hfits := h.fits
  unfold answerBytes at hbuf
  rw [if_neg hne, dataFrame, length_bodyFrame] at hbuf
  have hholds := (holdsFrame_iff _ _ _ _ _ _).mpr hbuf
  refine ⟨?_, crc_of_body hholds hfits⟩
  have hrest : messageBody ms ++ [] = messageBody ms := List.append_nil _
  rw [← hrest] at hholds hfits
  exact received_of_body hholds hfits h.nonempty hr

/-! ## Steps -/

/-- Where a connection is with its answers. -/
structure Answering (p : Slot × Batches) : Prop where
  queued : Holding p.1.conn.client p.2.queued
  handled : p.1.handled = p.2.answered.map Prod.fst ++ (if p.1.phase = .handling then [p.1.conn.client.packRef] else [])
  fronts : List.Forall₂ (fun a ws => wireBytes ws <+: answerBytes a.1 a.2) p.2.answered p.1.answers
  whole : p.1.conn.client.online = true → p.1.answers.map wireBytes = p.2.answered.map fun a => answerBytes a.1 a.2
  queueable : ∀ a ∈ p.2.answered, Queueable a.2

theorem Roomy.call {s : Slot} {env : Env} {a : Call} (h : Roomy s (.call env a)) :
    (∃ m, a = .sendData m ∧ m ≠ [] ∧ s.conn.client.sendCount + blocksOf m.length ≤ 62) ∨
      ((∀ m, a ≠ .sendData m) ∧ ∀ name, a ≠ .sendDBFile name) := by
  cases a with
  | sendData m => exact Or.inl ⟨m, rfl, h.1, h.2⟩
  | sendDBFile name => cases h
  | _ => exact Or.inr ⟨fun m hm => (by cases hm), fun name hname => (by cases hname)⟩

/-- A call that queues nothing is no event of the account. -/
theorem batches_quiet {n : Batches} {env : Env} {a : Call} {s : Slot} (hsend : ∀ m, a ≠ .sendData m) :
    batches n (.call env a) s = n := by
  cases a with
  | sendData m => exact absurd rfl (hsend m)
  | _ => rfl

/-- **Every step** keeps the account. -/
theorem step_answering {p q : Slot × Batches} {e : Ev} (h : Answering p) (hok : Roomy p.1 e)
    (he : noted (step srv) batches p e = some q) : Answering q := by
  obtain ⟨s', hs, rfl⟩ := Option.map_eq_some_iff.mp he
  obtain ⟨hqueued, hhandled, hfronts, hwhole, hfits⟩ := h
  cases step_stepped hs with
  | accept idx inp recvs sends sent ret rs _ _ _ => cases hok
  | handled env c hph hon hm =>
    have hacc := message_accepted hm
    rw [if_neg (by rw [hph]; decide), List.append_nil] at hhandled
    refine ⟨message_holding hqueued hm, ?_, hfronts, fun _ => hwhole hon, hfits⟩
    show p.1.handled ++ [msgPackNo c.client.recvBuffer] = p.2.answered.map Prod.fst ++ _
    rw [if_pos rfl, hhandled]
    exact congrArg (fun no => p.2.answered.map Prod.fst ++ [no]) hacc.packRef.symm
  | dropped env c ret hph hon hret hm =>
    rw [if_neg (by rw [hph]; decide)] at hhandled
    refine ⟨message_holding hqueued hm, ?_, hfronts, fun _ => hwhole hon, hfits⟩
    show p.1.handled = p.2.answered.map Prod.fst ++ _
    rw [if_neg (by rw [hph]; decide)]
    exact hhandled
  | timeout hph hon =>
    rw [if_neg (by rw [hph]; decide)] at hhandled
    refine ⟨hqueued.of_same ⟨rfl, rfl, rfl, rfl⟩ rfl, ?_, hfronts, fun hoff => (by cases hoff), hfits⟩
    show p.1.handled = p.2.answered.map Prod.fst ++ _
    rw [if_neg (by rw [hph]; decide)]
    exact hhandled
  | endPack env c hph hc =>
    obtain ⟨⟨hfront, hall⟩, hempty⟩ := endPack_answers hqueued hc
    obtain ⟨-, hpack, hback, -⟩ := endPacked_keeps hc
    rw [if_pos hph] at hhandled
    refine ⟨hempty, ?_, ?_, fun hon => ?_, fun a ha => ?_⟩
    · show p.1.handled = (p.2.answered ++ [(c.client.packRef, p.2.queued)]).map Prod.fst ++ _
      rw [if_neg (show ¬Phase.polling = Phase.handling by decide), List.append_nil, List.map_append, hhandled, hpack]
      rfl
    · show List.Forall₂ _ (p.2.answered ++ [(c.client.packRef, p.2.queued)]) (p.1.answers ++ [_])
      rw [hpack]
      exact List.rel_append hfronts (.cons hfront .nil)
    · show (p.1.answers ++ [_]).map wireBytes = (p.2.answered ++ [(c.client.packRef, p.2.queued)]).map _
      rw [List.map_append, List.map_append, hwhole (hback hon), List.map_singleton, List.map_singleton, hall hon, hpack]
    · rcases List.mem_append.mp ha with ha | ha
      · exact hfits a ha
      · rw [List.mem_singleton.mp ha]
        exact hqueued.queueable
  | call env a r c hc =>
    have hdone := doCall_done hc
    have hpack : c.client.packRef = p.1.conn.client.packRef := by
      rw [hdone.client]
      rfl
    have hhandled' : p.1.handled = p.2.answered.map Prod.fst ++ (if p.1.phase = .handling then [c.client.packRef] else []) := by
      rw [hpack]
      exact hhandled
    rcases hok.call with ⟨m, rfl, hm, hroom⟩ | ⟨hsend, hfile⟩
    · refine ⟨?_, hhandled', hfronts, fun hon => hwhole (call_online hc hon), hfits⟩
      cases hc
      exact sendData_whole hqueued hm hroom
    · rw [batches_quiet hsend]
      exact ⟨call_holding hqueued hsend hfile hc, hhandled', hfronts, fun hon => hwhole (call_online hc hon), hfits⟩

/-! ## Runs -/

/-- A connection that has handled nothing, with an empty queue and no file on its way. -/
structure Unanswered (s : Slot) : Prop where
  phase : s.phase = .polling
  handled : s.handled = []
  answers : s.answers = []
  sendCount : s.conn.client.sendCount = 0
  curPacketNo : s.conn.client.curPacketNo = 0
  noFile : s.conn.client.fileDataSending = false

theorem Unanswered.answering {s : Slot} (h : Unanswered s) : Answering (s, ⟨[], []⟩) := by
  refine ⟨holding_nil h.sendCount h.curPacketNo h.noFile, ?_, ?_, fun _ => ?_, fun a ha => by cases ha⟩
  · show s.handled = _
    rw [h.handled, if_neg (by rw [h.phase]; decide)]
    rfl
  · show List.Forall₂ _ [] s.answers
    rw [h.answers]
    exact .nil
  · show s.answers.map _ = _
    rw [h.answers]
    rfl

/-- **One answer for each request**, in order. -/
theorem answers_exact {s0 s : Slot} {n : Batches} {es : List Ev} (h0 : Unanswered s0)
    (hok : RunOk (noted (step srv) batches) (fun p e => Roomy p.1 e) (s0, ⟨[], []⟩) es)
    (h : run (noted (step srv) batches) (s0, ⟨[], []⟩) es = some (s, n)) :
    s.handled = n.answered.map Prod.fst ++ (if s.phase = .handling then [s.conn.client.packRef] else []) ∧
      List.Forall₂ (fun a ws => wireBytes ws <+: answerBytes a.1 a.2) n.answered s.answers ∧
      (s.conn.client.online = true → s.answers.map wireBytes = n.answered.map fun a => answerBytes a.1 a.2) ∧
      ∀ a ∈ n.answered, a.2 ≠ [] → ∀ r : Client, r.recvCount = 0 →
        r.recvBuffer.slice 0 (answerBytes a.1 a.2).length = answerBytes a.1 a.2 → received (processMessagePacket r) = a.2 := by
  obtain ⟨-, hhandled, hfronts, hwhole, hfits⟩ := run_inv_ok (noted (step srv) batches) (fun p e => Roomy p.1 e)
    (fun _ _ _ hi ho he => step_answering hi ho he) h0.answering hok h
  refine ⟨hhandled, hfronts, hwhole, fun a ha hne r hr hbuf => ?_⟩
  exact (answer_received (hfits a ha) hne hr hbuf).1

/-- Two frames; for the first two messages are queued, for the second none. -/
def twoAnswers : List Ev :=
  [.message quietEnv, .call quietEnv (.sendData [7]), .call quietEnv (.sendData [8, 9]), .endPack quietEnv,
    .message quietEnv, .endPack quietEnv]

theorem answers_exact_two :
    let s0 : Slot := ⟨newConn (dataFrame 0 1 [[1]] ++ dataFrame 0 5 [[2]]) [some 12, some 100, some 12, some 100]
      [some 100, some 100], .polling, [], [], []⟩
    ∃ s n, run (noted (step defaultServer) batches) (s0, ⟨[], []⟩) twoAnswers = some (s, n) ∧ s.handled = [1, 5] ∧
      s.answers.map wireBytes = [dataFrame stsockidServer 1 [[7], [8, 9]], headerBytes StSockMsg.confirm stsockidServer 5 0] := by
  intro s0
  have hrun : (run (noted (step defaultServer) batches) (s0, ⟨[], []⟩) twoAnswers).map
      (fun p => (p.2.answered, p.1.phase, p.1.conn.client.online)) = some ([(1, [[7], [8, 9]]), (5, [])], .polling, true) := by
    decide +kernel
  obtain ⟨⟨s, n⟩, hrun, hend⟩ := Option.map_eq_some_iff.mp hrun
  obtain ⟨hbatches, hend⟩ := Prod.mk.inj hend
  obtain ⟨hph, hon⟩ := Prod.mk.inj hend
  have hbatches : n.answered = [(1, [[7], [8, 9]]), (5, [])] := hbatches
  have hph : s.phase = .polling := hph
  have h0 : Unanswered s0 := ⟨rfl, rfl, rfl, rfl, rfl, rfl⟩
  obtain ⟨hhandled, -, hwhole, -⟩ := answers_exact h0 (by decide +kernel) hrun
  refine ⟨s, n, hrun, ?_, ?_⟩
  · rw [hhandled, hbatches, hph]
    rfl
  · rw [hwhole hon, hbatches]
    rfl

end StarServer.Socket

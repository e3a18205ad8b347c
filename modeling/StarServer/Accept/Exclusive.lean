/-
  StarServer.Accept.Exclusive — when a slot has one client thread at a time.

  Over TCP the accept thread waits for the slot's last thread if it sees its `thread` flag.
  A thread that has not run its first line has not set it: when a notice takes the client
  offline in between, the next connection gets the slot beside it. Over UDP nobody is waited
  for, and a full table gives slot -1. `AcceptClear` leaves out these accepts and nothing
  else.

  Proved:
    * `step_hostInv`: what every statement of every thread preserves when accepts are clear;
    * `slots_exclusive`: then, at every state, a slot has at most one live thread, a thread's
      slot is in range and every connection is either in the hands of the accept thread or
      one client thread, or has been closed, once; and every accept takes a slot without a
      live thread or leaves the table as it is;
    * `slots_shared`: two threads in one slot, past a notice before the first line of the
      first.
-/

import StarServer.Accept.Table

namespace StarServer.Accept

open StarServer.Socket (Server Protocol defaultServer)

variable (srv : Server)

/-- The accept thread has found a slot none of whose threads is still before its first line;
    over UDP, where nothing is checked, a slot of the table with no thread at all. -/
def AcceptClear (s : Host) : HostEv → Prop
  | .accept _ =>
    match s.accept with
    | .found _ i =>
      match srv.nProtocol with
      | .tcp => ∀ th ∈ s.threads, th.slot = i → th.pc ≠ .created
      | .udp => 0 ≤ i ∧ ∀ th ∈ s.threads, th.slot = i → th.pc.unfinished = false
    | _ => True
  | _ => True

instance (s : Host) (e : HostEv) : Decidable (AcceptClear srv s e) := by
  unfold AcceptClear
  split
  · split
    · split <;> infer_instance
    · infer_instance
  · infer_instance

/-- The connection `k` is in the accept thread's hands. -/
def inHand (a : AcceptPc) (k : Nat) : Nat := if a.sock = some k then 1 else 0

structure Exclusive (s : Host) : Prop where
  one : ∀ i, liveThreads s i ≤ 1
  inRange : ∀ (t : Nat) (th : ClientThread), s.threads[t]? = some th → InRange srv th.slot
  closedOnce : ∀ k < s.sockets, inHand s.accept k + socketUsers s k + s.closed.count k = 1

/-- What an accept makes of the slot it found. -/
def TakesOrLeaves (s : Host) (e : HostEv) : Prop :=
  ∀ createOk sock i s', e = .accept createOk → s.accept = .found sock i → hostStep srv s e = some s' →
    (InRange srv i ∧ SlotFree s' i ∧ s'.accept = .taking sock i) ∨ (s'.accept = .idle ∧ s'.table = s.table)

/-! ## The invariant -/

/-- What the accept thread knows where it is. -/
def AcceptInv (s : Host) : Prop :=
  match s.accept with
  | .idle | .counting | .scanning _ _ => True
  | .found _ i => i = -1 ∨ InRange srv i
  | .taking _ i => InRange srv i ∧ SlotFree s i
  | .taken sock i => InRange srv i ∧ SlotFree s i ∧ (srv.nProtocol = .tcp → s.table.socket i = sock)
  | .creating sock i => InRange srv i ∧ SlotFree s i ∧ s.table.socket i = sock

structure HostInv (s : Host) : Prop where
  threadID : ∀ (t : Nat) (th : ClientThread), s.threads[t]? = some th → th.pc.unfinished = true →
    s.table.threadID th.slot = some t
  thread : ∀ (t : Nat) (th : ClientThread), s.threads[t]? = some th → th.pc.unfinished = true → th.pc ≠ .created →
    s.table.thread th.slot = true
  inRange : ∀ (t : Nat) (th : ClientThread), s.threads[t]? = some th → InRange srv th.slot
  socket : ∀ (t : Nat) (th : ClientThread), s.threads[t]? = some th → th.pc.hasSocket = true →
    s.table.socket th.slot = th.sock
  accept : AcceptInv srv s
  sockets : ∀ k, inHand s.accept k + socketUsers s k + s.closed.count k = if k < s.sockets then 1 else 0

variable {srv}

theorem newHost_inv : HostInv srv newHost := by
  have hnone {t : Nat} {th : ClientThread} : newHost.threads[t]? ≠ some th := fun h => nomatch h
  refine ⟨fun t th h => absurd h hnone, fun t th h => absurd h hnone, fun t th h => absurd h hnone,
    fun t th h => absurd h hnone, trivial, fun k => ?_⟩
  show 0 + 0 + 0 = if k < 0 then 1 else 0
  rw [if_neg (Nat.not_lt_zero k)]

/-- Two live threads of a slot are one: both are its `thread_ID`. -/
theorem HostInv.unique {s : Host} (hi : HostInv srv s) {t t' : Nat} {th th' : ClientThread}
    (h : s.threads[t]? = some th) (h' : s.threads[t']? = some th') (hslot : th.slot = th'.slot)
    (hu : th.pc.unfinished = true) (hu' : th'.pc.unfinished = true) : t = t' := by
  have h1 := hi.threadID t th h hu
  have h2 := hi.threadID t' th' h' hu'
  rw [hslot, h2] at h1
  exact (Option.some.inj h1).symm

theorem hasSocket_unfinished {pc : ThreadPc} (h : pc.hasSocket = true) : pc.unfinished = true := by
  cases pc <;> first | rfl | cases h

/-! ## A thread moves on -/

/-- Where the accept thread is, it stays right when threads only move on and the sockets stay. -/
theorem AcceptInv.mono {s s' : Host} (h : AcceptInv srv s) (ha : s'.accept = s.accept)
    (hsock : s'.table.socket = s.table.socket) (hfree : ∀ i, SlotFree s i → SlotFree s' i) : AcceptInv srv s' := by
  unfold AcceptInv at h ⊢
  rw [ha, hsock]
  cases hacc : s.accept with
  | idle => trivial
  | counting => trivial
  | scanning sock i => trivial
  | found sock i =>
    rw [hacc] at h
    exact h
  | taking sock i =>
    rw [hacc] at h
    exact ⟨h.1, hfree i h.2⟩
  | taken sock i =>
    rw [hacc] at h
    exact ⟨h.1, hfree i h.2.1, h.2.2⟩
  | creating sock i =>
    rw [hacc] at h
    exact ⟨h.1, hfree i h.2.1, h.2.2⟩

/-- A thread's way through its last lines never goes back. -/
structure MovesOn (pc pc' : ThreadPc) : Prop where
  unfinished : pc'.unfinished = true → pc.unfinished = true
  hasSocket : pc'.hasSocket = true → pc.hasSocket = true

/-- The list of threads after thread `t` has moved on. -/
theorem setThread_inv {s : Host} (hi : HostInv srv s) {t : Nat} {th : ClientThread} {pc : ThreadPc}
    (h : s.threads[t]? = some th) (hm : MovesOn th.pc pc) {thread : Int → Bool} {closed : List Nat} {n : BitVec 32}
    (hthread : ∀ (t' : Nat) (x : ClientThread), (setThread s t th pc)[t']? = some x → x.pc.unfinished = true →
      x.pc ≠ .created → thread x.slot = true)
    (hclosed : ∀ k, (setThread s t th pc).countP (fun x => x.sock == k && x.pc.hasSocket) + closed.count k =
      socketUsers s k + s.closed.count k) :
    HostInv srv { s with
      threads := setThread s t th pc
      table := { s.table with thread := thread }
      closed := closed
      nCurLoginCount := n } := by
  have hslot {t' : Nat} {x : ClientThread} (hx : (setThread s t th pc)[t']? = some x) :
      ∃ y, s.threads[t']? = some y ∧ y.slot = x.slot ∧ y.sock = x.sock ∧ MovesOn y.pc x.pc := by
    rcases setThread_get h hx with ⟨rfl, rfl⟩ | ⟨-, hx⟩
    · exact ⟨th, h, rfl, rfl, hm⟩
    · exact ⟨x, hx, rfl, rfl, ⟨id, id⟩⟩
  refine ⟨fun t' x hx hu => ?_, hthread, fun t' x hx => ?_, fun t' x hx hs => ?_, ?_, fun k => ?_⟩
  · obtain ⟨y, hy, hys, -, hym⟩ := hslot hx
    rw [← hys]
    exact hi.threadID t' y hy (hym.unfinished hu)
  · obtain ⟨y, hy, hys, -, -⟩ := hslot hx
    rw [← hys]
    exact hi.inRange t' y hy
  · obtain ⟨y, hy, hys, hyk, hym⟩ := hslot hx
    rw [← hys, ← hyk]
    exact hi.socket t' y hy (hym.hasSocket hs)
  · refine hi.accept.mono rfl rfl fun i hfree t' x hx hxi => ?_
    obtain ⟨y, hy, hys, -, hym⟩ := hslot hx
    by_cases hu : x.pc.unfinished = true
    · rw [← hfree t' y hy (hys.trans hxi)]
      exact hu.trans (hym.unfinished hu).symm
    · exact Bool.eq_false_iff.mpr hu
  · have := hi.sockets k
    have := hclosed k
    show inHand s.accept k + (setThread s t th pc).countP (fun x => x.sock == k && x.pc.hasSocket) + closed.count k =
      if k < s.sockets then 1 else 0
    omega

/-- Where no socket is closed. -/
theorem setThread_users {s : Host} {t : Nat} {th : ClientThread} {pc : ThreadPc} (h : s.threads[t]? = some th)
    (hs : pc.hasSocket = th.pc.hasSocket) (k : Nat) :
    (setThread s t th pc).countP (fun x => x.sock == k && x.pc.hasSocket) = socketUsers s k := by
  have := setThread_countP h pc fun x => x.sock == k && x.pc.hasSocket
  simp only [hs] at this
  unfold socketUsers
  omega

/-- A thread that moves on inside the loop or past it keeps its slot's flag. -/
theorem setThread_thread {s : Host} (hi : HostInv srv s) {t : Nat} {th : ClientThread} {pc : ThreadPc}
    (h : s.threads[t]? = some th) (hm : MovesOn th.pc pc) (hc : th.pc ≠ .created) (t' : Nat) (x : ClientThread)
    (hx : (setThread s t th pc)[t']? = some x) (hu : x.pc.unfinished = true) (hxc : x.pc ≠ .created) :
    s.table.thread x.slot = true := by
  rcases setThread_get h hx with ⟨rfl, rfl⟩ | ⟨-, hx⟩
  · exact hi.thread t' th h (hm.unfinished hu) hc
  · exact hi.thread t' x hx hu hxc

/-- A line that touches neither the flag nor the socket. -/
theorem movedOn_inv {s : Host} (hi : HostInv srv s) {t : Nat} {th : ClientThread} {pc : ThreadPc}
    (h : s.threads[t]? = some th) (hm : MovesOn th.pc pc) (hc : th.pc ≠ .created) (hs : pc.hasSocket = th.pc.hasSocket)
    (n : BitVec 32) : HostInv srv { s with threads := setThread s t th pc, nCurLoginCount := n } :=
  setThread_inv hi h hm (setThread_thread hi h hm hc) fun k => by rw [setThread_users h hs]

theorem threadStep_inv {s s' : Host} {t : Nat} (hi : HostInv srv s) (h : threadStep s t = some s') : HostInv srv s' := by
  obtain ⟨th, hth, hmoves⟩ := threadStep_cases h
  cases hmoves with
  | start hpc =>
    have hm : MovesOn th.pc .running := by
      rw [hpc]
      exact ⟨id, id⟩
    refine setThread_inv hi hth hm (fun t' x hx hu hxc => ?_) fun k => ?_
    · by_cases hslot : x.slot = th.slot
      · rw [hslot, Function.update_self]
      · rw [Function.update_of_ne hslot]
        rcases setThread_get hth hx with ⟨rfl, rfl⟩ | ⟨-, hx⟩
        · exact absurd rfl hslot
        · exact hi.thread t' x hx hu hxc
    · rw [setThread_users hth (by rw [hpc]; rfl)]
  | leave hpc =>
    have hm : MovesOn th.pc .leaving := by
      rw [hpc]
      exact ⟨id, id⟩
    exact movedOn_inv hi hth hm (by rw [hpc]; decide) (by rw [hpc]; rfl) _
  | close hpc =>
    have hm : MovesOn th.pc .closed := by
      rw [hpc]
      exact ⟨id, fun h => nomatch h⟩
    refine setThread_inv hi hth hm (setThread_thread hi hth hm (by rw [hpc]; decide)) fun k => ?_
    -- the socket it closes is its own
    have hsock := hi.socket t th hth (by rw [hpc]; rfl)
    have hcount := setThread_countP hth .closed fun x => x.sock == k && x.pc.hasSocket
    have hgone : (ThreadPc.closed).hasSocket = false := rfl
    have hhad : th.pc.hasSocket = true := by rw [hpc]; rfl
    simp only [hgone, hhad, Bool.and_false, Bool.and_true] at hcount
    rw [hsock, List.count_append, List.count_singleton]
    unfold socketUsers
    simp only [Bool.false_eq_true, if_false] at hcount
    omega
  | count hpc =>
    have hm : MovesOn th.pc .counted := by
      rw [hpc]
      exact ⟨id, id⟩
    exact movedOn_inv hi hth hm (by rw [hpc]; decide) (by rw [hpc]; rfl) _
  | finish hpc =>
    have hm : MovesOn th.pc .ended := by
      rw [hpc]
      exact ⟨(fun h => nomatch h), id⟩
    exact movedOn_inv hi hth hm (by rw [hpc]; decide) (by rw [hpc]; rfl) _

/-! ## The accept thread moves on -/

/-- A statement of the accept thread that leaves the threads and the sockets' owners alone. -/
theorem HostInv.moved {s : Host} (hi : HostInv srv s) {a : AcceptPc} (hsock : a.sock = s.accept.sock)
    {online : Int → Bool} {n : BitVec 32}
    (ha : AcceptInv srv { s with accept := a, table := { s.table with online := online }, nCurLoginCount := n }) :
    HostInv srv { s with accept := a, table := { s.table with online := online }, nCurLoginCount := n } := by
  refine ⟨hi.threadID, hi.thread, hi.inRange, hi.socket, ha, fun k => ?_⟩
  have := hi.sockets k
  unfold inHand at this ⊢
  rw [← hsock] at this
  exact this

theorem offline_inv {s : Host} (hi : HostInv srv s) (i : Int) :
    HostInv srv { s with table := storeOnline s.table i false } :=
  hi.moved rfl (hi.accept.mono rfl rfl fun _ hfree => hfree)

/-- A new connection. -/
theorem accepted_inv {s : Host} (hi : HostInv srv s) (ha : s.accept = .idle) :
    HostInv srv { s with accept := .scanning s.sockets 0, sockets := s.sockets + 1 } := by
  refine ⟨hi.threadID, hi.thread, hi.inRange, hi.socket, trivial, fun k => ?_⟩
  have hk := hi.sockets k
  have h0 : inHand s.accept k = 0 := by
    rw [ha]
    rfl
  show inHand (.scanning s.sockets 0) k + socketUsers s k + s.closed.count k = if k < s.sockets + 1 then 1 else 0
  by_cases he : s.sockets = k
  · have h1 : inHand (.scanning s.sockets 0) k = 1 := if_pos (congrArg some he)
    rw [if_neg (by omega)] at hk
    rw [h1, if_pos (by omega)]
    omega
  · have h1 : inHand (.scanning s.sockets 0) k = 0 := if_neg (fun h => he (Option.some.inj h))
    by_cases hlt : k < s.sockets
    · rw [if_pos hlt] at hk
      rw [h1, if_pos (by omega)]
      omega
    · rw [if_neg hlt] at hk
      rw [h1, if_neg (by omega)]
      omega

theorem inHand_of_sock {a : AcceptPc} {sock : Nat} (h : a.sock = some sock) (k : Nat) :
    inHand a k = if sock = k then 1 else 0 := by
  unfold inHand
  rw [h]
  exact if_congr Option.some_inj rfl rfl

/-- The connection in hand is closed. -/
theorem closed_inv {s : Host} (hi : HostInv srv s) {sock : Nat} (ha : s.accept.sock = some sock) {online : Int → Bool} :
    HostInv srv { s with
      table := { s.table with online := online }, closed := s.closed ++ [sock], accept := .idle } := by
  refine ⟨hi.threadID, hi.thread, hi.inRange, hi.socket, trivial, fun k => ?_⟩
  have hk := hi.sockets k
  show inHand .idle k + socketUsers s k + (s.closed ++ [sock]).count k = if k < s.sockets then 1 else 0
  have h0 : inHand .idle k = 0 := rfl
  rw [h0, List.count_append, List.count_singleton]
  simp only [beq_iff_eq]
  rw [inHand_of_sock ha] at hk
  omega

/-- The socket of a slot nobody works on. -/
theorem stored_inv {s : Host} (hi : HostInv srv s) {i : Int} (hfree : SlotFree s i) {sock : Nat} {a : AcceptPc}
    (hsock : a.sock = s.accept.sock) (ha : AcceptInv srv { s with table := storeSocket s.table i sock, accept := a }) :
    HostInv srv { s with table := storeSocket s.table i sock, accept := a } := by
  refine ⟨hi.threadID, hi.thread, hi.inRange, fun t th h hs => ?_, ha, fun k => ?_⟩
  · have hne : th.slot ≠ i := by
      intro he
      have hdone := hfree t th h he
      rw [hasSocket_unfinished hs] at hdone
      cases hdone
    show Function.update s.table.socket i sock th.slot = th.sock
    rw [Function.update_of_ne hne]
    exact hi.socket t th h hs
  · have := hi.sockets k
    unfold inHand at this ⊢
    rw [← hsock] at this
    exact this

/-- `pthread_create`. -/
theorem created_inv {s : Host} (hi : HostInv srv s) {sock : Nat} {i : Int} (ha : s.accept = .creating sock i) :
    HostInv srv { s with
      threads := s.threads ++ [⟨i, sock, .created⟩]
      table := { s.table with threadID := Function.update s.table.threadID i (some s.threads.length) }
      accept := .counting } := by
  have hacc := hi.accept
  unfold AcceptInv at hacc
  rw [ha] at hacc
  obtain ⟨hrange, hfree, hsock⟩ := hacc
  refine ⟨fun t x hx hu => ?_, fun t x hx hu hc => ?_, fun t x hx => ?_, fun t x hx hs => ?_, trivial, fun k => ?_⟩
  · rcases append_get hx with hx | ⟨rfl, rfl⟩
    · have hne : x.slot ≠ i := by
        intro he
        rw [hfree t x hx he] at hu
        cases hu
      show Function.update s.table.threadID i (some s.threads.length) x.slot = some t
      rw [Function.update_of_ne hne]
      exact hi.threadID t x hx hu
    · exact Function.update_self _ _ _
  · rcases append_get hx with hx | ⟨rfl, rfl⟩
    · exact hi.thread t x hx hu hc
    · exact absurd rfl hc
  · rcases append_get hx with hx | ⟨rfl, rfl⟩
    · exact hi.inRange t x hx
    · exact hrange
  · rcases append_get hx with hx | ⟨rfl, rfl⟩
    · exact hi.socket t x hx hs
    · exact hsock
  · have hk := hi.sockets k
    have hhand : inHand s.accept k = if sock = k then 1 else 0 := inHand_of_sock (by rw [ha]; rfl) k
    show inHand .counting k + List.countP (fun x : ClientThread => x.sock == k && x.pc.hasSocket)
      (s.threads ++ [⟨i, sock, .created⟩]) + s.closed.count k = if k < s.sockets then 1 else 0
    have h0 : inHand .counting k = 0 := rfl
    have hnew : (sock == k && (ThreadPc.created).hasSocket) = (sock == k) := Bool.and_true _
    rw [h0, List.countP_append, List.countP_singleton]
    simp only [hnew, beq_iff_eq]
    rw [hhand] at hk
    unfold socketUsers at hk
    omega

/-- `pthread_join` of a thread that has returned. -/
theorem joined_inv {s : Host} (hi : HostInv srv s) {sock : Nat} {i : Int} {t : Nat} {th : ClientThread}
    (ha : s.accept = .found sock i) (hrange : InRange srv i) (hth : s.threads[t]? = some th) (hpc : th.pc = .ended)
    (hfree : SlotFree s i) :
    HostInv srv { s with
      threads := setThread s t th .joined
      table := { s.table with thread := Function.update s.table.thread i false }
      accept := .taking sock i } := by
  have hm : MovesOn th.pc .joined := ⟨(fun h => nomatch h), (fun h => nomatch h)⟩
  have hset := @setThread_inv srv s hi t th .joined hth hm (Function.update s.table.thread i false) s.closed
    s.nCurLoginCount (fun t' x hx hu hxc => ?_) (fun k => by rw [setThread_users hth (by rw [hpc]; rfl)])
  · refine ⟨hset.threadID, hset.thread, hset.inRange, hset.socket, ⟨hrange, fun t' x hx hxi => ?_⟩, fun k => ?_⟩
    · rcases setThread_get hth hx with ⟨rfl, rfl⟩ | ⟨-, hx⟩
      · rfl
      · exact hfree t' x hx hxi
    · have hk := hset.sockets k
      have hhand : inHand s.accept k = inHand (.taking sock i) k := by
        rw [ha]
        rfl
      rw [← hhand]
      exact hk
  · rcases setThread_get hth hx with ⟨rfl, rfl⟩ | ⟨-, hx⟩
    · cases hu
    · have hne : x.slot ≠ i := by
        intro he
        rw [hfree t' x hx he] at hu
        cases hu
      rw [Function.update_of_ne hne]
      exact hi.thread t' x hx hu hxc

/-- A slot whose `thread_ID` is no thread that is still to finish has none. -/
theorem slotFree_of_threadID {s : Host} (hi : HostInv srv s) {i : Int}
    (h : ∀ t th, s.table.threadID i = some t → s.threads[t]? = some th → th.pc.unfinished = false) : SlotFree s i := by
  intro t th hth hslot
  by_cases hu : th.pc.unfinished = true
  · have hid := hi.threadID t th hth hu
    rw [hslot] at hid
    exact h t th hid hth
  · exact Bool.eq_false_iff.mpr hu

/-- The join: it waits for the slot's last thread, and where it fails there is none. -/
theorem joinThread_inv {s s' : Host} (hi : HostInv srv s) {sock : Nat} {i : Int} (ha : s.accept = .found sock i)
    (hrange : InRange srv i) (h : joinThread s sock i = some s') :
    HostInv srv s' ∧ SlotFree s' i ∧ s'.accept = .taking sock i := by
  have hkeep (hfree : SlotFree s i) : HostInv srv { s with accept := .taking sock i } := by
    refine hi.moved ?_ ⟨hrange, hfree⟩
    rw [ha]
    rfl
  unfold joinThread at h
  simp only at h
  split at h
  · rename_i hid
    cases h
    have hfree : SlotFree s i := slotFree_of_threadID hi fun t th ht => absurd ht (by rw [hid]; exact fun h => nomatch h)
    exact ⟨hkeep hfree, hfree, rfl⟩
  · rename_i t hid
    split at h
    · rename_i hnone
      cases h
      have hfree : SlotFree s i := by
        refine slotFree_of_threadID hi fun t' th ht hth => ?_
        rw [hid, Option.some_inj] at ht
        rw [← ht, hnone] at hth
        cases hth
      exact ⟨hkeep hfree, hfree, rfl⟩
    · rename_i th hth
      have hfree (hdone : th.pc.unfinished = false) : SlotFree s i := by
        refine slotFree_of_threadID hi fun t' th' ht hth' => ?_
        rw [hid, Option.some_inj] at ht
        rw [← ht, hth, Option.some_inj] at hth'
        rw [← hth']
        exact hdone
      split at h
      · rename_i hpc
        cases h
        have hfree := hfree (by rw [hpc]; rfl)
        have hjoined := joined_inv hi ha hrange hth hpc hfree
        exact ⟨hjoined, hjoined.accept.2, rfl⟩
      · rename_i hpc
        cases h
        have hfree := hfree (by rw [hpc]; rfl)
        exact ⟨hkeep hfree, hfree, rfl⟩
      · cases h

/-- The slot the scan found, if accepts are clear. -/
theorem found_inv {s s' : Host} (hi : HostInv srv s) {sock : Nat} {i : Int} {createOk : Bool}
    (ha : s.accept = .found sock i) (hok : AcceptClear srv s (.accept createOk))
    (h : acceptStep srv s createOk = some s') :
    HostInv srv s' ∧ ((InRange srv i ∧ SlotFree s' i ∧ s'.accept = .taking sock i) ∨
      (s'.accept = .idle ∧ s'.table = s.table)) := by
  have hacc := hi.accept
  unfold AcceptInv at hacc
  rw [ha] at hacc
  have hclear := hok
  unfold AcceptClear at hclear
  rw [ha] at hclear
  have hmove (hrange : InRange srv i) (hfree : SlotFree s i) : HostInv srv { s with accept := .taking sock i } := by
    refine hi.moved ?_ ⟨hrange, hfree⟩
    rw [ha]
    rfl
  unfold acceptStep at h
  rw [ha] at h
  cases hp : srv.nProtocol with
  | tcp =>
    simp only [hp] at h hclear
    by_cases hneg : i < 0
    · rw [if_pos hneg] at h
      cases h
      exact ⟨@closed_inv srv s hi sock (by rw [ha]; rfl) s.table.online, Or.inr ⟨rfl, rfl⟩⟩
    · have hrange : InRange srv i := by
        rcases hacc with rfl | hrange
        · exact absurd (by decide) hneg
        · exact hrange
      rw [if_neg hneg] at h
      by_cases hflag : s.table.thread i = true
      · rw [if_pos hflag] at h
        obtain ⟨hinv, hfree, hnext⟩ := joinThread_inv hi ha hrange h
        exact ⟨hinv, Or.inl ⟨hrange, hfree, hnext⟩⟩
      · rw [if_neg hflag] at h
        cases h
        -- a thread past its first line would have set the flag
        have hfree : SlotFree s i := by
          intro t th hth hslot
          by_cases hu : th.pc.unfinished = true
          · have hset := hi.thread t th hth hu (hclear th (List.mem_of_getElem? hth) hslot)
            rw [hslot] at hset
            exact absurd hset hflag
          · exact Bool.eq_false_iff.mpr hu
        exact ⟨hmove hrange hfree, Or.inl ⟨hrange, hfree, rfl⟩⟩
  | udp =>
    simp only [hp] at h hclear
    cases h
    obtain ⟨hnonneg, hclear⟩ := hclear
    have hfree : SlotFree s i := fun t th hth hslot => hclear th (List.mem_of_getElem? hth) hslot
    have hrange : InRange srv i := by
      rcases hacc with rfl | hrange
      · exact absurd hnonneg (by decide)
      · exact hrange
    exact ⟨hmove hrange hfree, Or.inl ⟨hrange, hfree, rfl⟩⟩

theorem acceptStep_inv {s s' : Host} {createOk : Bool} (hi : HostInv srv s) (hok : AcceptClear srv s (.accept createOk))
    (h : acceptStep srv s createOk = some s') : HostInv srv s' := by
  cases ha : s.accept with
  | found sock i => exact (found_inv hi ha hok h).1
  | idle =>
    simp only [acceptStep, ha, Option.some.injEq] at h
    subst h
    exact accepted_inv hi ha
  | scanning sock i =>
    simp only [acceptStep, ha] at h
    by_cases hlt : (i : Int) < srv.nMaxConnection
    · rw [if_pos hlt] at h
      split at h
      · cases h
        exact hi.moved (by rw [ha]; rfl) trivial
      · cases h
        exact hi.moved (by rw [ha]; rfl) (Or.inr ⟨Int.natCast_nonneg i, hlt⟩)
    · rw [if_neg hlt] at h
      cases h
      exact hi.moved (by rw [ha]; rfl) (Or.inl rfl)
  | taking sock i =>
    have hacc := hi.accept
    unfold AcceptInv at hacc
    rw [ha] at hacc
    obtain ⟨hrange, hfree⟩ := hacc
    simp only [acceptStep, ha] at h
    cases hp : srv.nProtocol with
    | tcp =>
      simp only [hp] at h
      cases h
      exact stored_inv hi hfree (by rw [ha]; rfl) ⟨hrange, hfree, fun _ => Function.update_self _ _ _⟩
    | udp =>
      simp only [hp] at h
      cases h
      refine hi.moved (by rw [ha]; rfl) ⟨hrange, hfree, fun htcp => ?_⟩
      rw [hp] at htcp
      cases htcp
  | taken sock i =>
    have hacc := hi.accept
    unfold AcceptInv at hacc
    rw [ha] at hacc
    obtain ⟨hrange, hfree, hsock⟩ := hacc
    simp only [acceptStep, ha] at h
    cases hp : srv.nProtocol with
    | tcp =>
      simp only [hp] at h
      cases h
      exact hi.moved (by rw [ha]; rfl) ⟨hrange, hfree, hsock hp⟩
    | udp =>
      simp only [hp] at h
      cases h
      exact stored_inv hi hfree (by rw [ha]; rfl) ⟨hrange, hfree, Function.update_self _ _ _⟩
  | creating sock i =>
    have hacc := hi.accept
    unfold AcceptInv at hacc
    rw [ha] at hacc
    obtain ⟨-, -, hsock⟩ := hacc
    simp only [acceptStep, ha] at h
    split at h
    · cases h
      exact created_inv hi ha
    · cases h
      rw [hsock]
      exact closed_inv hi (by rw [ha]; rfl)
  | counting =>
    simp only [acceptStep, ha] at h
    cases h
    exact hi.moved (by rw [ha]; rfl) trivial

/-- **One statement of any thread.** -/
theorem step_hostInv {s s' : Host} {e : HostEv} (hi : HostInv srv s) (hok : AcceptClear srv s e)
    (h : hostStep srv s e = some s') : HostInv srv s' := by
  cases e with
  | accept createOk => exact acceptStep_inv hi hok h
  | thread t => exact threadStep_inv hi h
  | offline i =>
    cases h
    exact offline_inv hi i

/-! ## Runs -/

/-- Live threads of one slot are one thread. -/
theorem HostInv.live_le {s : Host} (hi : HostInv srv s) (i : Int) : liveThreads s i ≤ 1 := by
  refine countP_le_one fun t t' x x' hx hx' hp hp' => ?_
  rw [Bool.and_eq_true, beq_iff_eq] at hp hp'
  exact hi.unique hx hx' (hp.1.trans hp'.1.symm) hp.2 hp'.2

theorem HostInv.exclusive {s : Host} (hi : HostInv srv s) : Exclusive srv s := by
  refine ⟨hi.live_le, hi.inRange, fun k hk => ?_⟩
  have := hi.sockets k
  rwa [if_pos hk] at this

theorem takesOrLeaves {s : Host} {e : HostEv} (hi : HostInv srv s) (hok : AcceptClear srv s e) : TakesOrLeaves srv s e := by
  rintro createOk sock i s' rfl ha h
  exact (found_inv hi ha hok h).2

variable (srv)

/-- **One live thread a slot, one close a connection**, in every run whose accepts are clear. -/
theorem slots_exclusive {es : List HostEv} (hok : Runs.RunOk (hostStep srv) (AcceptClear srv) newHost es) :
    Runs.RunAll (hostStep srv) (Exclusive srv) newHost es ∧ Runs.RunOk (hostStep srv) (TakesOrLeaves srv) newHost es := by
  have hall := Runs.runAll_of_inv (hostStep srv) (AcceptClear srv) (fun _ _ _ hi ho he => step_hostInv hi ho he)
    newHost_inv hok
  exact ⟨hall.mono _ fun _ hi => hi.exclusive,
    @Runs.RunAll.runOk _ _ (hostStep srv) (HostInv srv) (AcceptClear srv) (TakesOrLeaves srv)
      (fun _ _ hi ho => takesOrLeaves hi ho) newHost es hall hok⟩

/-- An accept into a free slot 0, from the connection to the count. -/
def acceptSteps : List HostEv := List.replicate 7 (.accept true)

/-- A client's life, and the next one's accept, which joins its thread. -/
theorem slots_exclusive_reuse :
    let es := acceptSteps ++ [.thread 0, .offline 0, .thread 0, .thread 0, .thread 0, .thread 0] ++ acceptSteps
    (∃ s, Runs.run (hostStep defaultServer) newHost es = some s ∧ s.threads.map ClientThread.pc = [.joined, .created] ∧
        s.closed = [0]) ∧
      Runs.RunAll (hostStep defaultServer) (Exclusive defaultServer) newHost es ∧
        Runs.RunOk (hostStep defaultServer) (TakesOrLeaves defaultServer) newHost es := by
  intro es
  have hok : Runs.RunOk (hostStep defaultServer) (AcceptClear defaultServer) newHost es := by decide +kernel
  exact ⟨⟨_, rfl, by decide +kernel⟩, slots_exclusive defaultServer hok⟩

/-- **A notice before the first line of a client's thread**: the next connection gets its slot
    beside it, both threads serve and close the second connection and nobody closes the
    first. **A full table over UDP** gives slot -1. -/
theorem slots_shared :
    (∃ s, Runs.run (hostStep defaultServer) newHost (acceptSteps ++ [.offline 0] ++ acceptSteps) = some s ∧
      liveThreads s 0 = 2) ∧
    (∃ s, Runs.run (hostStep defaultServer) newHost (acceptSteps ++ [.offline 0] ++ acceptSteps ++
      [.thread 0, .thread 1, .offline 0, .thread 0, .thread 1, .thread 0, .thread 1]) = some s ∧ s.closed = [1, 1]) ∧
    (∃ s, Runs.run (hostStep { defaultServer with nMaxConnection := 1, nProtocol := .udp }) newHost
      (acceptSteps ++ acceptSteps ++ [.accept true]) = some s ∧ s.threads.map ClientThread.slot = [0, -1]) :=
  ⟨⟨_, rfl, by decide +kernel⟩, ⟨_, rfl, by decide +kernel⟩, ⟨_, rfl, by decide +kernel⟩⟩

end StarServer.Accept

/-
  StarServer.Accept.Table — the accept thread, the client threads and the slots they share,
  statement by statement.

  A slot says who has it in two flags: `online`, which the accept thread sets and anyone
  clears, and `thread`, which a client thread sets in its first line and the accept thread
  clears when it has joined it. `FindFreeIdxHost` looks at `online` only. `AcceptConnection`
  then joins the slot's last thread if `thread` is set; `AcceptConnectionUDP` joins nobody,
  and does not ask whether a slot was found. With none free the index is -1.

  A connection's socket has a number of its own, in the order they are accepted; `closed`
  are the sockets `DestroySocket` was called for.
-/

import Mathlib.Logic.Function.Basic
import StarServer.Runs.Steps
import StarServer.Socket.State

namespace StarServer.Accept

open StarServer.Socket (Server Protocol)

/-- How far a client thread is: before its first line, in its loop, out of it, past
    `DestroySocket`, past the decrement, returned, and joined. -/
inductive ThreadPc where
  | created
  | running
  | leaving
  | closed
  | counted
  | ended
  | joined
  deriving DecidableEq, Repr

/-- A client thread; `sock` is the connection it was created for. -/
structure ClientThread where
  slot : Int
  sock : Nat
  pc : ThreadPc

/-- The fields of `s_Client_t` that accepting reads and writes. -/
structure Table where
  online : Int → Bool
  thread : Int → Bool
  threadID : Int → Option Nat
  socket : Int → Nat

/-- Where the accept thread is: waiting, at index `i` of the scan, with the scan's result,
    before the first and the second of the stores that take the slot, before
    `pthread_create`, and before the increment. -/
inductive AcceptPc where
  | idle
  | scanning (connectSock : Nat) (i : Nat)
  | found (connectSock : Nat) (freeHostIdx : Int)
  | taking (connectSock : Nat) (freeHostIdx : Int)
  | taken (connectSock : Nat) (freeHostIdx : Int)
  | creating (connectSock : Nat) (freeHostIdx : Int)
  | counting
  deriving DecidableEq, Repr

structure Host where
  table : Table
  /-- Every client thread ever created; its index is its `thread_ID`. -/
  threads : List ClientThread
  accept : AcceptPc
  /-- How many connections there have been. -/
  sockets : Nat
  closed : List Nat
  nCurLoginCount : BitVec 32

inductive HostEv where
  | accept (createOk : Bool)
  | thread (t : Nat)
  | offline (i : Int)

def setThread (s : Host) (t : Nat) (th : ClientThread) (pc : ThreadPc) : List ClientThread :=
  s.threads.set t { th with pc := pc }

/-- `pthread_join` of the slot's `thread_ID`: it waits for a thread that has not returned, and
    fails where there is none left to join. -/
def joinThread (s : Host) (connectSock : Nat) (i : Int) : Option Host :=
  let failed := { s with accept := .taking connectSock i }
  match s.table.threadID i with
  | none => some failed
  | some t =>
    match s.threads[t]? with
    | none => some failed
    | some th =>
      match th.pc with
      | .ended =>
        some { s with
          threads := setThread s t th .joined
          table := { s.table with thread := Function.update s.table.thread i false }
          accept := .taking connectSock i }
      | .joined => some failed
      | _ => none

def storeSocket (tb : Table) (i : Int) (connectSock : Nat) : Table :=
  { tb with socket := Function.update tb.socket i connectSock }

def storeOnline (tb : Table) (i : Int) (online : Bool) : Table :=
  { tb with online := Function.update tb.online i online }

variable (srv : Server)

/-- The accept thread's next statement; `createOk` is what `pthread_create` answers. -/
def acceptStep (s : Host) (createOk : Bool) : Option Host :=
  match s.accept with
  | .idle => some { s with accept := .scanning s.sockets 0, sockets := s.sockets + 1 }
  | .scanning sock i =>
    if (i : Int) < srv.nMaxConnection then
      if s.table.online i then some { s with accept := .scanning sock (i + 1) } else some { s with accept := .found sock i }
    else some { s with accept := .found sock (-1) }
  | .found sock i =>
    match srv.nProtocol with
    | .tcp =>
      if i < 0 then some { s with closed := s.closed ++ [sock], accept := .idle }
      else if s.table.thread i then joinThread s sock i
      else some { s with accept := .taking sock i }
    | .udp => some { s with accept := .taking sock i }
  | .taking sock i =>
    match srv.nProtocol with
    | .tcp => some { s with table := storeSocket s.table i sock, accept := .taken sock i }
    | .udp => some { s with table := storeOnline s.table i true, accept := .taken sock i }
  | .taken sock i =>
    match srv.nProtocol with
    | .tcp => some { s with table := storeOnline s.table i true, accept := .creating sock i }
    | .udp => some { s with table := storeSocket s.table i sock, accept := .creating sock i }
  | .creating sock i =>
    if createOk then
      some { s with
        threads := s.threads ++ [⟨i, sock, .created⟩]
        table := { s.table with threadID := Function.update s.table.threadID i (some s.threads.length) }
        accept := .counting }
    else
      some { s with
        table := storeOnline s.table i false
        closed := s.closed ++ [s.table.socket i]
        accept := .idle }
  | .counting => some { s with nCurLoginCount := s.nCurLoginCount + 1, accept := .idle }

/-- Thread `t`'s next statement. -/
def threadStep (s : Host) (t : Nat) : Option Host :=
  match s.threads[t]? with
  | none => none
  | some th =>
    match th.pc with
    | .created =>
      some { s with
        threads := setThread s t th .running
        table := { s.table with thread := Function.update s.table.thread th.slot true } }
    | .running => if s.table.online th.slot then none else some { s with threads := setThread s t th .leaving }
    | .leaving =>
      some { s with threads := setThread s t th .closed, closed := s.closed ++ [s.table.socket th.slot] }
    | .closed =>
      some { s with threads := setThread s t th .counted, nCurLoginCount := s.nCurLoginCount - 1 }
    | .counted => some { s with threads := setThread s t th .ended }
    | .ended | .joined => none

/-- `offline` is a notice to the slot, by any thread, or its own thread giving up. -/
def hostStep (s : Host) : HostEv → Option Host
  | .accept createOk => acceptStep srv s createOk
  | .thread t => threadStep s t
  | .offline i => some { s with table := storeOnline s.table i false }

/-- The server as it starts. -/
def newHost : Host where
  table := ⟨fun _ => false, fun _ => false, fun _ => none, fun _ => 0⟩
  threads := []
  accept := .idle
  sockets := 0
  closed := []
  nCurLoginCount := 0

/-! ## What threads and sockets are in use -/

/-- The thread has not returned. -/
def ThreadPc.unfinished : ThreadPc → Bool
  | .ended | .joined => false
  | _ => true

/-- The thread has yet to close its socket. -/
def ThreadPc.hasSocket : ThreadPc → Bool
  | .created | .running | .leaving => true
  | _ => false

/-- The thread has yet to do its decrement. -/
def ThreadPc.isCounted : ThreadPc → Bool
  | .created | .running | .leaving | .closed => true
  | _ => false

/-- The connection the accept thread has in hand. -/
def AcceptPc.sock : AcceptPc → Option Nat
  | .idle | .counting => none
  | .scanning sock _ | .found sock _ | .taking sock _ | .taken sock _ | .creating sock _ => some sock

/-- How many threads work on slot `i`. -/
def liveThreads (s : Host) (i : Int) : Nat := s.threads.countP fun th => th.slot == i && th.pc.unfinished

/-- How many threads have yet to close connection `k`. -/
def socketUsers (s : Host) (k : Nat) : Nat := s.threads.countP fun th => th.sock == k && th.pc.hasSocket

/-- How many threads have not done their decrement. -/
def undecremented (s : Host) : Nat := s.threads.countP fun th => th.pc.isCounted

def InRange (i : Int) : Prop := 0 ≤ i ∧ i < srv.nMaxConnection

/-- No thread works on slot `i`. -/
def SlotFree (s : Host) (i : Int) : Prop :=
  ∀ (t : Nat) (th : ClientThread), s.threads[t]? = some th → th.slot = i → th.pc.unfinished = false

/-! ## What a thread's statement does -/

/-- The statements of thread `t`, which is `th`, and the state after each. -/
inductive ThreadMoves (s : Host) (t : Nat) (th : ClientThread) : Host → Prop
  | start : th.pc = .created → ThreadMoves s t th { s with
      threads := setThread s t th .running
      table := { s.table with thread := Function.update s.table.thread th.slot true } }
  | leave : th.pc = .running → ThreadMoves s t th { s with threads := setThread s t th .leaving }
  | close : th.pc = .leaving → ThreadMoves s t th { s with
      threads := setThread s t th .closed
      closed := s.closed ++ [s.table.socket th.slot] }
  | count : th.pc = .closed → ThreadMoves s t th { s with
      threads := setThread s t th .counted
      nCurLoginCount := s.nCurLoginCount - 1 }
  | finish : th.pc = .counted → ThreadMoves s t th { s with threads := setThread s t th .ended }

theorem threadStep_cases {s s' : Host} {t : Nat} (h : threadStep s t = some s') :
    ∃ th, s.threads[t]? = some th ∧ ThreadMoves s t th s' := by
  unfold threadStep at h
  split at h
  · cases h
  · rename_i th hth
    refine ⟨th, hth, ?_⟩
    split at h
    · rename_i hpc
      cases h
      exact .start hpc
    · rename_i hpc
      split at h
      · cases h
      · cases h
        exact .leave hpc
    · rename_i hpc
      cases h
      exact .close hpc
    · rename_i hpc
      cases h
      exact .count hpc
    · rename_i hpc
      cases h
      exact .finish hpc
    · cases h
    · cases h

/-! ## The list of threads -/

theorem setThread_get {s : Host} {t t' : Nat} {th x : ClientThread} {pc : ThreadPc} (h : s.threads[t]? = some th)
    (h' : (setThread s t th pc)[t']? = some x) :
    (t' = t ∧ x = { th with pc := pc }) ∨ (t' ≠ t ∧ s.threads[t']? = some x) := by
  obtain ⟨hlt, -⟩ := List.getElem?_eq_some_iff.mp h
  unfold setThread at h'
  by_cases hne : t' = t
  · subst hne
    rw [List.getElem?_set_self hlt] at h'
    exact Or.inl ⟨rfl, (Option.some.inj h').symm⟩
  · rw [List.getElem?_set_ne (Ne.symm hne)] at h'
    exact Or.inr ⟨hne, h'⟩

theorem append_get {s : Host} {new x : ClientThread} {t : Nat} (h : (s.threads ++ [new])[t]? = some x) :
    s.threads[t]? = some x ∨ (t = s.threads.length ∧ x = new) := by
  by_cases hlt : t < s.threads.length
  · rw [List.getElem?_append_left hlt] at h
    exact Or.inl h
  · rw [List.getElem?_append_right (by omega)] at h
    obtain ⟨h0, -⟩ := List.getElem?_eq_some_iff.mp h
    have ht : t = s.threads.length := by
      simp only [List.length_singleton] at h0
      omega
    rw [ht, Nat.sub_self] at h
    exact Or.inr ⟨ht, (Option.some.inj h).symm⟩

/-- A count after one thread has moved. -/
theorem setThread_countP {s : Host} {t : Nat} {th : ClientThread} (h : s.threads[t]? = some th) (pc : ThreadPc)
    (p : ClientThread → Bool) : (setThread s t th pc).countP p + (if p th then 1 else 0) =
      s.threads.countP p + if p { th with pc := pc } then 1 else 0 := by
  obtain ⟨hlt, hth⟩ := List.getElem?_eq_some_iff.mp h
  have hpos : p th = true → 0 < s.threads.countP p := fun hp =>
    List.countP_pos_iff.mpr ⟨th, List.mem_of_getElem? h, hp⟩
  unfold setThread
  rw [List.countP_set hlt, hth]
  by_cases hp : p th = true
  · have := hpos hp
    rw [if_pos hp]
    omega
  · rw [if_neg hp]
    omega

/-- Where what counts is at one index at most, it counts to one at most. -/
theorem countP_le_one {l : List ClientThread} {p : ClientThread → Bool}
    (h : ∀ (t t' : Nat) (x x' : ClientThread), l[t]? = some x → l[t']? = some x' → p x = true → p x' = true → t = t') :
    l.countP p ≤ 1 := by
  induction l with
  | nil => exact Nat.zero_le 1
  | cons a l ih =>
    by_cases ha : p a = true
    · have hrest : l.countP p = 0 := by
        rw [List.countP_eq_zero]
        intro x hx hpx
        obtain ⟨t, ht⟩ := List.getElem?_of_mem hx
        exact absurd (h 0 (t + 1) a x rfl ht ha hpx) (Nat.succ_ne_zero t).symm
      refine Nat.le_of_eq ?_
      rw [List.countP_cons, hrest, if_pos ha]
    · rw [List.countP_cons, if_neg ha]
      refine ih fun t t' x x' hx hx' hp hp' => ?_
      exact Nat.succ_inj.mp (h (t + 1) (t' + 1) x x' hx hx' hp hp')

end StarServer.Accept

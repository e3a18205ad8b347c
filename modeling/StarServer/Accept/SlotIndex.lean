/-
  StarServer.Accept.SlotIndex — a client's `idx` and the slot it names.

  Accepting stores the slot's index, an int, in `idx`, a `u16`, before it creates the client's
  thread; the thread, and the program's callbacks with it, know the slot by `idx` from then on:
  `STSV_GetData`, `STSV_GetDataCount`, `SendReTrasmit`, `SendConfirmMessage` and the names of
  the temp files. Nothing bounds the table by 65536. Over UDP a full table gives slot -1, which
  is stored as 65535. A room's index is stored in `roomIdx`, an `s16`.

  Proved:
    * `acceptStep_moves`: what one statement of the accept thread does to the slot in hand;
    * `idxRight_step`: a store of `idx` keeps every assigned slot's exactly if the slot fits;
    * `slot_reached`: every slot of a table can be assigned, and over UDP slot -1;
    * `slot_index_iff`: every assigned slot is named by its `idx`, in every run, exactly over
      TCP with a table of 65536 slots at most; and in one run exactly if every slot that is
      assigned in it is one of 0 to 65535. A room is named by its client's `roomIdx` exactly if
      it is one of -32768 to 32767;
    * `slot_index_wraps`: 18 gigabytes are enough for a table that is larger.
-/

import StarServer.Accept.Table
import StarServer.Config.Memory
import StarServer.Lobby.JoinRoom

namespace StarServer.Accept

open StarServer.Socket (Server Protocol defaultServer)
open StarServer.Config (stsvInit sizes64 unlimit_roomy)
open StarServer.Memory (roomy)
open StarServer.Lobby Runs

/-! ## The stored index -/

structure Indexed where
  host : Host
  idx : Int → BitVec 16

variable (srv : Server)

/-- The statements that store `idx` are those after the store of the flag or the socket. -/
def indexedStep (s : Indexed) (e : HostEv) : Option Indexed :=
  (hostStep srv s.host e).map fun host =>
    { host := host
      idx :=
        match e, s.host.accept with
        | .accept _, .taken _ i => Function.update s.idx i (BitVec.ofInt 16 i)
        | _, _ => s.idx }

/-- The table as `memset` leaves it. -/
def newIndexed : Indexed := ⟨newHost, fun _ => 0⟩

/-- The slot that `s_Client_t[s_Client_t[i].idx]` is. -/
def slotOf (s : Indexed) (i : Int) : Int := (s.idx i).toNat

/-- The slots of all threads, and the one that a thread is about to be created for. -/
structure IdxRight (s : Indexed) : Prop where
  threads : ∀ th ∈ s.host.threads, slotOf s th.slot = th.slot
  creating : ∀ sock i, s.host.accept = .creating sock i → slotOf s i = i

/-- A slot whose index is stored is a `u16`'s. -/
def SlotFits (s : Indexed) : HostEv → Prop
  | .accept _ => ∀ sock i, s.host.accept = .taken sock i → 0 ≤ i ∧ i < 2 ^ 16
  | _ => True

/-- The room that a create returns, or a join enters, is the one in the client's `roomIdx`. -/
def RoomRight {κ : Type} [DecidableEq κ] (nMaxRoom : Nat) (s : Rooms κ) : LobbyEv κ → Prop
  | .create client => 0 ≤ (stsvCreateRoom nMaxRoom s client).2 →
      (stsvCreateRoom nMaxRoom s client).1.roomIdx client = (stsvCreateRoom nMaxRoom s client).2
  | .joinRoom client roomID => ∀ s' answer, stsvJoinRoom nMaxRoom s client roomID = some (s', answer) →
      answer ≠ some false → s'.roomIdx client = roomID
  | _ => True

/-- The first free room, where a create looks for one, is an `s16`'s, and so is the room of a
    join that has a place. -/
def RoomFits {κ : Type} (nMaxRoom : Nat) (s : Rooms κ) : LobbyEv κ → Prop
  | .create client => s.roomIdx client < 0 → ∀ i, findFreeIdxRoom nMaxRoom s = some i → i < 2 ^ 15
  | .joinRoom _ roomID => (s.room roomID).numClient ≠ 0 → (s.room roomID).numClient < maxPlayerPerRoom →
      (s.room roomID).mutexRoom = false → -2 ^ 15 ≤ roomID ∧ roomID < 2 ^ 15
  | _ => True

variable {srv} {s s' : Indexed} {h h' : Host}

theorem ofInt_back (i : Int) : ((BitVec.ofInt 16 i).toNat : Int) = i ↔ 0 ≤ i ∧ i < 2 ^ 16 := by
  rw [BitVec.toNat_ofInt]
  omega

theorem slotOf_stored {i : Int} (hidx : s'.idx = Function.update s.idx i (BitVec.ofInt 16 i)) (j : Int) :
    slotOf s' j = if j = i then ((BitVec.ofInt 16 i).toNat : Int) else slotOf s j := by
  unfold slotOf
  rw [hidx]
  by_cases hj : j = i
  · rw [if_pos hj, hj, Function.update_self]
  · rw [if_neg hj, Function.update_of_ne hj]

theorem indexedStep_cases {e : HostEv} (he : indexedStep srv s e = some s') :
    hostStep srv s.host e = some s'.host ∧
      ((∃ createOk sock i, e = .accept createOk ∧ s.host.accept = .taken sock i ∧
          s'.idx = Function.update s.idx i (BitVec.ofInt 16 i)) ∨
        ((∀ createOk sock i, e = .accept createOk → s.host.accept ≠ .taken sock i) ∧ s'.idx = s.idx)) := by
  obtain ⟨host, hhost, rfl⟩ := Option.map_eq_some_iff.mp he
  refine ⟨hhost, ?_⟩
  cases e with
  | thread t => exact Or.inr ⟨(fun _ _ _ he => by cases he), rfl⟩
  | offline i => exact Or.inr ⟨(fun _ _ _ he => by cases he), rfl⟩
  | accept createOk =>
    cases hacc : s.host.accept with
    | taken sock i => exact Or.inl ⟨createOk, sock, i, rfl, rfl, rfl⟩
    | _ => exact Or.inr ⟨(fun _ _ _ _ h => by cases h), rfl⟩

/-! ## The slot in hand -/

/-- Every thread has a slot that a thread had. -/
def SameSlots (h h' : Host) : Prop := ∀ x ∈ h'.threads, ∃ y ∈ h.threads, y.slot = x.slot

theorem SameSlots.refl (h : Host) {a : AcceptPc} : SameSlots h { h with accept := a } := fun x hx => ⟨x, hx, rfl⟩

theorem setThread_slots {t : Nat} {th : ClientThread} {pc : ThreadPc} (hth : h.threads[t]? = some th)
    (hset : h'.threads = setThread h t th pc) : SameSlots h h' := by
  intro x hx
  rw [hset] at hx
  unfold setThread at hx
  rcases List.mem_or_eq_of_mem_set hx with hx | hx
  · exact ⟨x, hx, rfl⟩
  · exact ⟨th, List.mem_of_getElem? hth, by rw [hx]⟩

theorem threadStep_moves {t : Nat} (he : threadStep h t = some h') : h'.accept = h.accept ∧ SameSlots h h' := by
  obtain ⟨th, hth, hmoves⟩ := threadStep_cases he
  cases hmoves <;> exact ⟨rfl, setThread_slots hth rfl⟩

theorem joinThread_moves {sock : Nat} {i : Int} (he : joinThread h sock i = some h') :
    h'.accept = .taking sock i ∧ SameSlots h h' := by
  unfold joinThread at he
  simp only at he
  split at he
  · cases he
    exact ⟨rfl, .refl h⟩
  · split at he
    · cases he
      exact ⟨rfl, .refl h⟩
    · rename_i th hth
      split at he
      · cases he
        exact ⟨rfl, setThread_slots hth rfl⟩
      · cases he
        exact ⟨rfl, .refl h⟩
      · cases he

/-- Where the accept thread was one statement before, and what that says of the slot in hand. -/
def CameFrom (srv : Server) (h : Host) : AcceptPc → Prop
  | .found _ i => i = -1 ∨ InRange srv i
  | .taking sock i => h.accept = .found sock i ∧ (srv.nProtocol = .tcp → 0 ≤ i)
  | .taken sock i => h.accept = .taking sock i
  | .creating sock i => h.accept = .taken sock i
  | .idle | .scanning _ _ | .counting => True

/-- A statement of the accept thread gives a thread at most the slot in hand. -/
structure AcceptMoves (srv : Server) (h h' : Host) : Prop where
  slots : SameSlots h h' ∨ ∃ sock i, h.accept = .creating sock i ∧
    ∀ x ∈ h'.threads, (∃ y ∈ h.threads, y.slot = x.slot) ∨ x.slot = i
  hand : CameFrom srv h h'.accept

theorem acceptStep_moves {createOk : Bool} (he : acceptStep srv h createOk = some h') : AcceptMoves srv h h' := by
  unfold acceptStep at he
  split at he
  · cases he
    exact ⟨Or.inl fun x hx => ⟨x, hx, rfl⟩, trivial⟩
  · rename_i sock i hacc
    split at he
    · rename_i hi
      split at he
      · cases he
        exact ⟨Or.inl (.refl h), trivial⟩
      · cases he
        exact ⟨Or.inl (.refl h), Or.inr ⟨Int.natCast_nonneg i, hi⟩⟩
    · cases he
      exact ⟨Or.inl (.refl h), Or.inl rfl⟩
  · rename_i sock i hacc
    split at he
    · split at he
      · cases he
        exact ⟨Or.inl fun x hx => ⟨x, hx, rfl⟩, trivial⟩
      · rename_i hi
        have htaking : h'.accept = .taking sock i ∧ SameSlots h h' := by
          split at he
          · exact joinThread_moves he
          · cases he
            exact ⟨rfl, .refl h⟩
        refine ⟨Or.inl htaking.2, ?_⟩
        rw [htaking.1]
        exact ⟨hacc, fun _ => by omega⟩
    · rename_i hudp
      cases he
      refine ⟨Or.inl (.refl h), hacc, fun htcp => ?_⟩
      rw [hudp] at htcp
      cases htcp
  · rename_i sock i hacc
    split at he <;> cases he <;> exact ⟨Or.inl fun x hx => ⟨x, hx, rfl⟩, hacc⟩
  · rename_i sock i hacc
    split at he <;> cases he <;> exact ⟨Or.inl fun x hx => ⟨x, hx, rfl⟩, hacc⟩
  · rename_i sock i hacc
    split at he
    · cases he
      refine ⟨Or.inr ⟨sock, i, hacc, fun x hx => ?_⟩, trivial⟩
      rcases List.mem_append.mp hx with hx | hx
      · exact Or.inl ⟨x, hx, rfl⟩
      · exact Or.inr (by rw [List.mem_singleton.mp hx])
    · cases he
      exact ⟨Or.inl fun x hx => ⟨x, hx, rfl⟩, trivial⟩
  · cases he
    exact ⟨Or.inl fun x hx => ⟨x, hx, rfl⟩, trivial⟩

theorem hostStep_slots {e : HostEv} (he : hostStep srv h e = some h') {x : ClientThread} (hx : x ∈ h'.threads) :
    (∃ y ∈ h.threads, y.slot = x.slot) ∨ ∃ sock, h.accept = .creating sock x.slot := by
  cases e with
  | accept createOk =>
    rcases (acceptStep_moves he).slots with hslots | ⟨sock, i, hacc, hslots⟩
    · exact Or.inl (hslots x hx)
    · rcases hslots x hx with hold | rfl
      · exact Or.inl hold
      · exact Or.inr ⟨sock, hacc⟩
  | thread t => exact Or.inl ((threadStep_moves he).2 x hx)
  | offline i =>
    cases he
    exact Or.inl ⟨x, hx, rfl⟩

theorem hostStep_creating {e : HostEv} {sock : Nat} {i : Int} (he : hostStep srv h e = some h')
    (hacc : h'.accept = .creating sock i) :
    (∃ createOk, e = .accept createOk ∧ h.accept = .taken sock i) ∨ h.accept = .creating sock i := by
  cases e with
  | accept createOk =>
    have hand := (acceptStep_moves he).hand
    rw [hacc] at hand
    exact Or.inl ⟨createOk, rfl, hand⟩
  | thread t => exact Or.inr ((threadStep_moves he).1 ▸ hacc)
  | offline i =>
    cases he
    exact Or.inr hacc

theorem creating_of_taken {createOk : Bool} {sock : Nat} {i : Int} (hacc : h.accept = .taken sock i)
    (he : hostStep srv h (.accept createOk) = some h') : h'.accept = .creating sock i ∧ h'.threads = h.threads := by
  simp only [hostStep, acceptStep, hacc] at he
  split at he <;> cases he <;> exact ⟨rfl, rfl⟩

/-- **One step**: the slot that is stored has to be a `u16`'s. -/
theorem idxRight_step {e : HostEv} (hs : IdxRight s) (he : indexedStep srv s e = some s') :
    IdxRight s' ↔ SlotFits s e := by
  obtain ⟨hhost, ⟨createOk, sock, i, rfl, hacc, hidx⟩ | ⟨hother, hidx⟩⟩ := indexedStep_cases he
  · obtain ⟨hcreating, hthreads⟩ := creating_of_taken hacc hhost
    have hfits : SlotFits s (.accept createOk) ↔ 0 ≤ i ∧ i < 2 ^ 16 := by
      constructor
      · intro hfits
        exact hfits sock i hacc
      · intro hfits sock' i' hacc'
        rw [hacc] at hacc'
        cases hacc'
        exact hfits
    rw [hfits, ← ofInt_back]
    constructor
    · intro hright
      have hi := hright.creating sock i hcreating
      rwa [slotOf_stored hidx, if_pos rfl] at hi
    · intro hback
      refine ⟨fun th hth => ?_, fun sock' i' hacc' => ?_⟩
      · rw [hthreads] at hth
        rw [slotOf_stored hidx]
        split
        · rename_i heq
          rw [heq]
          exact hback
        · exact hs.threads th hth
      · rw [hcreating] at hacc'
        cases hacc'
        rw [slotOf_stored hidx, if_pos rfl]
        exact hback
  · have hslot : ∀ j, slotOf s' j = slotOf s j := fun j => by rw [slotOf, hidx, slotOf]
    refine iff_of_true ⟨fun th hth => ?_, fun sock i hacc => ?_⟩ ?_
    · rw [hslot]
      rcases hostStep_slots hhost hth with ⟨y, hy, hyslot⟩ | ⟨sock, hacc⟩
      · rw [← hyslot]
        exact hs.threads y hy
      · exact hs.creating sock th.slot hacc
    · rw [hslot]
      rcases hostStep_creating hhost hacc with ⟨createOk, he', htaken⟩ | hacc
      · exact absurd htaken (hother createOk sock i he')
      · exact hs.creating sock i hacc
    · cases e with
      | accept createOk => exact fun sock i hacc => absurd hacc (hother createOk sock i rfl)
      | thread t => trivial
      | offline i => trivial

theorem newIndexed_right : IdxRight newIndexed :=
  ⟨fun _ hth => absurd hth List.not_mem_nil, fun _ _ hacc => by cases hacc⟩

/-! ## Over TCP a slot in hand is one of the table -/

def HandOk (srv : Server) : AcceptPc → Prop
  | .found _ i => i = -1 ∨ InRange srv i
  | .taking _ i | .taken _ i => InRange srv i
  | _ => True

theorem handOk_step {e : HostEv} (htcp : srv.nProtocol = .tcp) (hs : HandOk srv h.accept)
    (he : hostStep srv h e = some h') : HandOk srv h'.accept := by
  cases e with
  | thread t => exact (threadStep_moves he).1 ▸ hs
  | offline i =>
    cases he
    exact hs
  | accept createOk =>
    have hand := (acceptStep_moves he).hand
    cases hacc : h'.accept with
    | found sock i =>
      rw [hacc] at hand
      exact hand
    | taking sock i =>
      rw [hacc] at hand
      obtain ⟨hfound, hi⟩ := hand
      rw [hfound] at hs
      exact hs.resolve_left fun hminus => by
        have := hi htcp
        omega
    | taken sock i =>
      rw [hacc] at hand
      rwa [show h.accept = .taking sock i from hand] at hs
    | _ => trivial

theorem fits_of_handOk {e : HostEv} (hn : srv.nMaxConnection ≤ 2 ^ 16) (hs : HandOk srv s.host.accept) : SlotFits s e := by
  cases e with
  | accept createOk =>
    intro sock i hacc
    rw [hacc] at hs
    obtain ⟨h0, hlt⟩ := hs
    exact ⟨h0, Int.lt_of_lt_of_le hlt hn⟩
  | thread t => trivial
  | offline i => trivial

theorem right_of_small (htcp : srv.nProtocol = .tcp) (hn : srv.nMaxConnection ≤ 2 ^ 16) (es : List HostEv) :
    RunAll (indexedStep srv) IdxRight newIndexed es := by
  refine (runAll_of_inv (indexedStep srv) (I := fun s => HandOk srv s.host.accept ∧ IdxRight s) (fun _ _ => True) ?_
    (s := newIndexed) ⟨trivial, newIndexed_right⟩ (runOk_trivial _ _ _)).mono _ fun s hs => hs.2
  rintro s e s' ⟨hhand, hright⟩ - he
  exact ⟨handOk_step htcp hhand (indexedStep_cases he).1, (idxRight_step hright he).mpr (fits_of_handOk hn hhand)⟩

/-! ## Every slot can be assigned -/

/-- The first `k` slots are in use, and no client's thread has had its first line. -/
structure Filled (k : Nat) (h : Host) : Prop where
  accept : h.accept = .idle
  online : ∀ i, h.table.online i = true ↔ 0 ≤ i ∧ i < k
  thread : ∀ i, h.table.thread i = false

theorem newHost_filled : Filled 0 newHost := by
  refine ⟨rfl, fun i => ?_, fun i => rfl⟩
  refine iff_of_false Bool.false_ne_true ?_
  rintro ⟨h0, hlt⟩
  omega

def accepts (n : Nat) : List HostEv := List.replicate n (.accept true)

theorem run_accept {n : Nat} (he : acceptStep srv h true = some h') :
    run (hostStep srv) h (accepts (n + 1)) = run (hostStep srv) h' (accepts n) := by
  have hstep : hostStep srv h (.accept true) = some h' := he
  unfold accepts
  rw [List.replicate_succ, run, hstep]

/-- The scan goes over the slots in use. -/
theorem scan_filled (sock : Nat) {k d j : Nat} (hs : ∀ i, h.table.online i = true ↔ 0 ≤ i ∧ i < k)
    (hk : k ≤ srv.nMaxConnection.toNat) (hj : j + d = k) (n : Nat) :
    run (hostStep srv) { h with accept := .scanning sock j } (accepts (d + n)) =
      run (hostStep srv) { h with accept := .scanning sock k } (accepts n) := by
  induction d generalizing j with
  | zero => rw [Nat.zero_add, ← hj, Nat.add_zero]
  | succ d ih =>
    have hon : h.table.online j = true := (hs j).mpr ⟨by omega, by omega⟩
    have hstep : acceptStep srv { h with accept := .scanning sock j } true =
        some { h with accept := .scanning sock (j + 1) } := by
      simp only [acceptStep]
      rw [if_pos (by omega), if_pos hon]
    rw [show d + 1 + n = d + n + 1 by omega, run_accept hstep]
    exact ih (by omega)

/-- What accepting finds: the slot after those in use, or none. -/
def found (srv : Server) (k : Nat) : Int := if (k : Int) < srv.nMaxConnection then k else -1

/-- A connection is about to get the slot that was found. -/
theorem take_filled {k : Nat} (hs : Filled k h) (hk : k ≤ srv.nMaxConnection.toNat)
    (htcp : srv.nProtocol = .tcp → (k : Int) < srv.nMaxConnection) (n : Nat) :
    ∃ h', h'.table = h.table ∧ h'.accept = .taking h.sockets (found srv k) ∧
      run (hostStep srv) h (accepts (k + 3 + n)) = run (hostStep srv) h' (accepts n) := by
  let h0 : Host := { h with sockets := h.sockets + 1 }
  have hidle : acceptStep srv h true = some { h0 with accept := .scanning h.sockets 0 } := by
    unfold acceptStep
    rw [hs.accept]
  have hscan := scan_filled h.sockets (h := h0) (j := 0) (d := k) hs.online hk (Nat.zero_add k)
  have hfound : acceptStep srv { h0 with accept := .scanning h.sockets k } true =
      some { h0 with accept := .found h.sockets (found srv k) } := by
    have hoff : h.table.online k = false := by
      rw [Bool.eq_false_iff]
      intro hon
      have := ((hs.online k).mp hon).2
      omega
    unfold found
    simp only [acceptStep]
    split
    · rw [if_neg (by rw [hoff]; exact Bool.false_ne_true)]
    · rfl
  have htaking : acceptStep srv { h0 with accept := .found h.sockets (found srv k) } true =
      some { h0 with accept := .taking h.sockets (found srv k) } := by
    simp only [acceptStep]
    split
    · rename_i hp
      have hfk : found srv k = k := if_pos (htcp hp)
      rw [if_neg (by omega), if_neg (by rw [hs.thread]; exact Bool.false_ne_true)]
    · rfl
  refine ⟨{ h0 with accept := .taking h.sockets (found srv k) }, rfl, rfl, ?_⟩
  rw [show k + 3 + n = k + (n + 1 + 1) + 1 by omega, run_accept hidle, hscan, run_accept hfound, run_accept htaking]

/-- One more connection. -/
theorem fill_one {k : Nat} (hs : Filled k h) (hk : (k : Int) < srv.nMaxConnection) :
    ∃ h', run (hostStep srv) h (accepts (k + 3 + 4)) = some h' ∧ Filled (k + 1) h' := by
  obtain ⟨h1, htable, hacc, hrun⟩ := take_filled hs (by omega) (fun _ => hk) 4
  rw [found, if_pos hk] at hacc
  have hfilled : ∀ h4 : Host, h4.accept = .idle → h4.table.online = Function.update h1.table.online k true →
      h4.table.thread = h1.table.thread → Filled (k + 1) h4 := by
    intro h4 hidle hon hth
    refine ⟨hidle, fun i => ?_, fun i => ?_⟩
    · rw [hon, htable]
      by_cases hi : i = k
      · rw [hi, Function.update_self]
        exact iff_of_true rfl ⟨by omega, by omega⟩
      · rw [Function.update_of_ne hi, hs.online]
        omega
    · rw [hth, htable]
      exact hs.thread i
  rw [hrun]
  simp only [accepts, List.replicate, run, hostStep, acceptStep, hacc]
  cases srv.nProtocol with
  | tcp => exact ⟨_, rfl, hfilled _ rfl rfl rfl⟩
  | udp => exact ⟨_, rfl, hfilled _ rfl rfl rfl⟩

/-- As many connections as there are slots. -/
theorem fill_table {k : Nat} (hk : k ≤ srv.nMaxConnection.toNat) :
    ∃ es h, run (hostStep srv) newHost es = some h ∧ Filled k h := by
  induction k with
  | zero => exact ⟨[], newHost, rfl, newHost_filled⟩
  | succ k ih =>
    obtain ⟨es, h, hrun, hfilled⟩ := ih (by omega)
    have hlt : (k : Int) < srv.nMaxConnection := by omega
    obtain ⟨h', hrun', hfilled'⟩ := fill_one hfilled hlt
    exact ⟨es ++ accepts (k + 3 + 4), h', (run_append _).mpr ⟨h, hrun, hrun'⟩, hfilled'⟩

/-- **Every slot of the table**, and over UDP slot -1 when the table is full, gets its index
    stored in some run. -/
theorem slot_reached {i : Int} (hi : InRange srv i ∨ srv.nProtocol = .udp ∧ i = -1) :
    ∃ es h sock, run (hostStep srv) newHost es = some h ∧ h.accept = .taken sock i := by
  obtain ⟨k, hk, hfound, htcp⟩ : ∃ k, k ≤ srv.nMaxConnection.toNat ∧ found srv k = i ∧
      (srv.nProtocol = .tcp → (k : Int) < srv.nMaxConnection) := by
    rcases hi with ⟨h0, hlt⟩ | ⟨hudp, rfl⟩
    · refine ⟨i.toNat, by omega, ?_, fun _ => by omega⟩
      rw [found, if_pos (by omega)]
      omega
    · refine ⟨srv.nMaxConnection.toNat, le_rfl, if_neg (by omega), fun htcp => ?_⟩
      rw [hudp] at htcp
      cases htcp
  obtain ⟨es, h, hrun, hfilled⟩ := fill_table hk
  obtain ⟨h', -, hacc, htake⟩ := take_filled hfilled hk htcp 1
  rw [hfound] at hacc
  obtain ⟨h'', hstep, hacc'⟩ : ∃ h'', acceptStep srv h' true = some h'' ∧ h''.accept = .taken h.sockets i := by
    unfold acceptStep
    rw [hacc]
    cases srv.nProtocol <;> exact ⟨_, rfl, rfl⟩
  refine ⟨es ++ accepts (k + 3 + 1), h'', h.sockets, (run_append _).mpr ⟨h, hrun, ?_⟩, hacc'⟩
  rw [htake, run_accept hstep]
  rfl

theorem indexed_of_host {e : HostEv} (he : hostStep srv h e = some h') (idx : Int → BitVec 16) :
    ∃ idx', indexedStep srv ⟨h, idx⟩ e = some ⟨h', idx'⟩ := by
  unfold indexedStep
  rw [he]
  exact ⟨_, rfl⟩

theorem run_indexed {es : List HostEv} (hrun : run (hostStep srv) h es = some h') (idx : Int → BitVec 16) :
    ∃ idx', run (indexedStep srv) ⟨h, idx⟩ es = some ⟨h', idx'⟩ := by
  induction es generalizing h idx with
  | nil =>
    cases hrun
    exact ⟨idx, rfl⟩
  | cons e es ih =>
    obtain ⟨h1, he, hrest⟩ := (run_cons _).mp hrun
    obtain ⟨idx1, hstep⟩ := indexed_of_host he idx
    obtain ⟨idx', hidx'⟩ := ih hrest idx1
    exact ⟨idx', (run_cons _).mpr ⟨_, hstep, hidx'⟩⟩

/-- A slot that no `u16` names is assigned in some run. -/
theorem wrong_of_slot {i : Int} (hi : InRange srv i ∨ srv.nProtocol = .udp ∧ i = -1) (hbig : ¬(0 ≤ i ∧ i < 2 ^ 16)) :
    ∃ es, ¬RunAll (indexedStep srv) IdxRight newIndexed es := by
  obtain ⟨es, h, sock, hrun, hacc⟩ := slot_reached hi
  obtain ⟨idx, hrun⟩ := run_indexed hrun fun _ => 0
  obtain ⟨h', hstep⟩ : ∃ h', hostStep srv h (.accept true) = some h' := by
    simp only [hostStep, acceptStep, hacc]
    cases srv.nProtocol <;> exact ⟨_, rfl⟩
  obtain ⟨idx', hstep⟩ := indexed_of_host hstep idx
  refine ⟨es ++ [.accept true], fun hall => hbig ?_⟩
  have hlast := hall.append _ hrun
  exact (idxRight_step hlast.1 hstep).mp (hlast.2 _ hstep) sock i hacc

/-! ## Rooms -/

theorem toS16_back (v : Int) : toS16 v = v ↔ -2 ^ 15 ≤ v ∧ v < 2 ^ 15 := by
  unfold toS16
  rw [BitVec.toInt_ofInt, Int.bmod_def]
  split <;> omega

theorem roomRight_iff {κ : Type} [DecidableEq κ] (nMaxRoom : Nat) (r : Rooms κ) (e : LobbyEv κ) :
    RoomRight nMaxRoom r e ↔ RoomFits nMaxRoom r e := by
  cases e with
  | create client =>
    simp only [RoomRight, RoomFits, stsvCreateRoom]
    by_cases hin : r.roomIdx client ≥ 0
    · rw [if_pos hin]
      exact iff_of_true (fun h => absurd h (Int.negSucc_not_nonneg 1).mp) fun h => by omega
    · rw [if_neg hin]
      cases hfree : findFreeIdxRoom nMaxRoom r with
      | none => exact iff_of_true (fun h => absurd h (Int.negSucc_not_nonneg 0).mp) fun _ _ h => by cases h
      | some i =>
        have hset : (claimRoom r client i).roomIdx client = toS16 i := by simp [claimRoom]
        constructor
        · rintro h - _ ⟨⟩
          have hi := h (Int.natCast_nonneg i)
          rw [hset, toS16_back] at hi
          omega
        · intro h _
          have hi := h (by omega) i rfl
          show (claimRoom r client i).roomIdx client = i
          rw [hset, toS16_back]
          omega
  | joinRoom client roomID =>
    simp only [RoomRight, RoomFits]
    have hset : (enterRoom r client roomID).roomIdx client = toS16 roomID := by simp [enterRoom]
    rw [← toS16_back, ← hset]
    constructor
    · intro h hsome hroom hlock
      exact h _ none (by rw [joinRoom_open hsome hroom, hlock, if_neg Bool.false_ne_true]) fun hans => by cases hans
    · intro h s' answer hjoin hans
      rcases joinRoom_cases hjoin with ⟨-, hfalse, -⟩ | ⟨rfl, -, hsome, hroom, hlock⟩
      · exact absurd hfalse hans
      · exact h hsome hroom hlock
  | joinFreeRoom client => exact Iff.rfl
  | exitRoom client => exact Iff.rfl
  | disconnect client => exact Iff.rfl

/-! ## Every configuration -/

/-- **A client's `idx` names its slot**: in every run of a server exactly over TCP with at most
    65536 slots, and in one run exactly if the slots it assigns are `u16`s. **A client's
    `roomIdx` names its room** exactly if the rooms that are created and joined are `s16`s. -/
theorem slot_index_iff (srv : Server) :
    ((∀ es, RunAll (indexedStep srv) IdxRight newIndexed es) ↔ srv.nProtocol = .tcp ∧ srv.nMaxConnection ≤ 2 ^ 16) ∧
      (∀ es s, run (indexedStep srv) newIndexed es = some s →
        (RunAll (indexedStep srv) IdxRight newIndexed es ↔ RunOk (indexedStep srv) SlotFits newIndexed es)) ∧
      ∀ (κ : Type) [DecidableEq κ] (nMaxRoom : Nat) (rooms : Rooms κ) (es : List (LobbyEv κ)),
        RunOk (lobbyStep nMaxRoom) (RoomRight nMaxRoom) rooms es ↔ RunOk (lobbyStep nMaxRoom) (RoomFits nMaxRoom) rooms es := by
  refine ⟨⟨fun hall => ?_, fun h => right_of_small h.1 h.2⟩, fun es s hrun => ?_, ?_⟩
  · by_contra hbad
    obtain ⟨i, hi, hbig⟩ : ∃ i, (InRange srv i ∨ srv.nProtocol = .udp ∧ i = -1) ∧ ¬(0 ≤ i ∧ i < 2 ^ 16) := by
      cases hp : srv.nProtocol with
      | udp => exact ⟨-1, Or.inr ⟨rfl, rfl⟩, by omega⟩
      | tcp =>
        have hn : ¬srv.nMaxConnection ≤ 2 ^ 16 := fun hn => hbad ⟨hp, hn⟩
        exact ⟨2 ^ 16, Or.inl ⟨by omega, by omega⟩, by omega⟩
    obtain ⟨es, hwrong⟩ := wrong_of_slot hi hbig
    exact hwrong (hall es)
  · exact runAll_iff_runOk (indexedStep srv) (fun _ _ _ hs he => idxRight_step hs he) newIndexed_right hrun
  · intro κ _ nMaxRoom rooms es
    exact runOk_congr (lobbyStep nMaxRoom) (roomRight_iff nMaxRoom) rooms es

/-- **18 gigabytes**, with stacks of 256 kilobytes and buffers of 4096 bytes, are 70962 slots: in
    some run a client is given a slot that its `idx` does not name. -/
theorem slot_index_wraps : ∃ s, stsvInit sizes64 roomy ⟨50, 4096, 65536, 10, 18⟩ ⟨256 * 1024, 1048576⟩ true true = some s ∧
    s.nMaxConnection = 70962 ∧
      ∃ es, ¬RunAll (indexedStep { defaultServer with nMaxConnection := s.nMaxConnection }) IdxRight newIndexed es := by
  obtain ⟨s, hs, hn⟩ := unlimit_roomy sizes64 ⟨50, 4096, 65536, 10, 18⟩ ⟨256 * 1024, 1048576⟩
    (by decide) (by decide) (by decide) (by decide) (by decide)
  have hcount : s.nMaxConnection = 70962 := hn.trans (by decide)
  refine ⟨s, hs, hcount, wrong_of_slot (i := 2 ^ 16) (Or.inl ⟨by omega, ?_⟩) (by omega)⟩
  show (2 : Int) ^ 16 < s.nMaxConnection
  omega

end StarServer.Accept

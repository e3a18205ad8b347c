/-
  StarServer.Lobby.Rooms — the rooms of the lobby and who is in them.

  A room keeps its members in `joinRoom[0 .. numClient-1]`, and each client the room it is in,
  in `roomIdx` (-1 for none). Clients create a room, join one by its id or any that is open,
  exit, and disconnect. A call that has to wait for a room's mutex before it writes anything is
  no step; `STSV_JoinRoom` locks the mutex again where it should unlock it, so it has joined
  when it waits, for ever, and the mutex stays locked.

  Proved:
    * `create_keeps`, `joinFree_breaks`, `joinRoom_keeps`, `destroy_breaks`: when each
      operation keeps the two records in agreement (`Membership`);
    * `membership_iff`: they agree all along a run exactly if the table starts empty, no client
      is joined by `STSV_JoinFreeRoom` or while it is in a room, and no member leaves;
    * `third_join_overwrites`: join, join, the first leaves, the third joins.
-/

import Mathlib.Logic.Function.Basic
import StarServer.Memory.Bytes
import StarServer.Runs.Steps

namespace StarServer.Lobby

open Runs

/-! ## The lobby -/

def maxPlayerPerRoom : Int := 20

structure Room (κ : Type) where
  numClient : Int
  mutexRoom : Bool
  /-- `joinRoom[i]`, and at other indices what memory holds there. -/
  joinRoom : Int → Option κ

structure Rooms (κ : Type) where
  room : Int → Room κ
  roomIdx : κ → Int
  nRoomCount : BitVec 32

/-- What a store to an `s16` keeps. -/
def toS16 (v : Int) : Int := (BitVec.ofInt 16 v).toInt

/-- The table as `malloc` returned it, with its mutexes initialised; every client is accepted. -/
def newRooms {κ : Type} (rooms : Int → Room κ) : Rooms κ where
  room := fun r => { rooms r with mutexRoom := false }
  roomIdx := fun _ => -1
  nRoomCount := 0

variable {κ : Type} [DecidableEq κ] (nMaxRoom : Nat)

/-- `memset` over a room: its mutex is as good as new. -/
def clearRoom (room : Room κ) : Room κ where
  numClient := 0
  mutexRoom := false
  joinRoom := fun i => if 0 ≤ i ∧ i < maxPlayerPerRoom then none else room.joinRoom i

def setRoom (s : Rooms κ) (r : Int) (room : Room κ) : Rooms κ := { s with room := Function.update s.room r room }

/-- The client comes after the last member. -/
def addClient (room : Room κ) (client : κ) : Room κ :=
  { room with
    joinRoom := Function.update room.joinRoom room.numClient (some client)
    numClient := room.numClient + 1 }

/-- `none` is -1. -/
def findFreeIdxRoom (s : Rooms κ) : Option Nat := (List.range nMaxRoom).find? fun i => (s.room i).numClient = 0

/-- What `STSV_CreateRoom` does to the room it has found. -/
def claimRoom (s : Rooms κ) (client : κ) (roomFound : Nat) : Rooms κ :=
  let room := clearRoom (s.room roomFound)
  { setRoom s roomFound { room with joinRoom := Function.update room.joinRoom 0 (some client), numClient := 1 } with
    roomIdx := Function.update s.roomIdx client (toS16 roomFound)
    nRoomCount := s.nRoomCount + 1 }

def stsvCreateRoom (s : Rooms κ) (client : κ) : Rooms κ × Int :=
  if s.roomIdx client ≥ 0 then (s, -2)
  else
    match findFreeIdxRoom nMaxRoom s with
    | none => (s, -1)
    | some roomFound => (claimRoom s client roomFound, roomFound)

/-- The room `STSV_JoinFreeRoom` picks. -/
def findOpenRoom (s : Rooms κ) : Option Nat :=
  (List.range nMaxRoom).find? fun i => (s.room i).numClient > 0 ∧ (s.room i).numClient < maxPlayerPerRoom

def stsvJoinFreeRoom (s : Rooms κ) (client : κ) : Rooms κ × Int :=
  match findOpenRoom nMaxRoom s with
  | some i => (setRoom s i (addClient (s.room i) client), i)
  | none => (s, -1)

/-- What `STSV_JoinRoom` does to a room that is open, up to its second lock. -/
def enterRoom (s : Rooms κ) (client : κ) (roomID : Int) : Rooms κ :=
  { setRoom s roomID { addClient (s.room roomID) client with mutexRoom := true } with
    roomIdx := Function.update s.roomIdx client (toS16 roomID) }

/-- The whole is `none` while the call waits for the mutex, the result is if it never returns. -/
def stsvJoinRoom (s : Rooms κ) (client : κ) (roomID : Int) : Option (Rooms κ × Option Bool) :=
  let room := s.room roomID
  if roomID < 0 ∧ roomID ≥ nMaxRoom then some (s, some false)
  else if room.numClient = 0 then some (s, some false)
  else if room.numClient < maxPlayerPerRoom then
    if room.mutexRoom then none else some (enterRoom s client roomID, none)
  else some (s, some false)

/-- Where `DestroyClientRoom` finds the client in its room. -/
def findClient (room : Room κ) (client : κ) : Option Nat :=
  (List.range room.numClient.toNat).find? fun i => room.joinRoom i = some client

/-- `none` while the call waits for the mutex. -/
def destroyClientRoom (s : Rooms κ) (client : κ) : Option (Rooms κ × Int) :=
  let roomIdx := s.roomIdx client
  let room := s.room roomIdx
  if roomIdx ≥ 0 then
    match findClient room client with
    | some i =>
      if room.mutexRoom then none
      else
        some (setRoom s roomIdx { room with
          joinRoom := Function.update room.joinRoom i none, numClient := room.numClient - 1 }, 0)
    | none => some (s, -1)
  else some (s, -1)

/-- How many are left in the room. -/
def stsvExitRoom (s : Rooms κ) (client : κ) : Option (Rooms κ × Int) :=
  let room := s.roomIdx client
  if room ≥ 0 then (destroyClientRoom s client).map fun p => (p.1, (p.1.room room).numClient)
  else some (s, 0)

def stsvRoomOwner (s : Rooms κ) (client : κ) : Bool :=
  if s.roomIdx client < 0 then false else decide ((s.room (s.roomIdx client)).joinRoom 0 = some client)

/-! ## Runs -/

inductive LobbyEv (κ : Type) where
  | create (client : κ)
  | joinRoom (client : κ) (roomID : Int)
  | joinFreeRoom (client : κ)
  | exitRoom (client : κ)
  | disconnect (client : κ)
  deriving Repr

def lobbyStep (s : Rooms κ) : LobbyEv κ → Option (Rooms κ)
  | .create client => some (stsvCreateRoom nMaxRoom s client).1
  | .joinRoom client roomID =>
    if 0 ≤ roomID ∧ roomID < nMaxRoom then (stsvJoinRoom nMaxRoom s client roomID).map Prod.fst else none
  | .joinFreeRoom client => some (stsvJoinFreeRoom nMaxRoom s client).1
  | .exitRoom client => (stsvExitRoom s client).map Prod.fst
  | .disconnect client => (destroyClientRoom s client).map Prod.fst

/-! ## Membership -/

variable {nMaxRoom} {s s' : Rooms κ} {client c d : κ} {r q : Int}

omit [DecidableEq κ] in
/-- The client is among the members a room lists. -/
def Listed (room : Room κ) (client : κ) : Prop := ∃ i, 0 ≤ i ∧ i < room.numClient ∧ room.joinRoom i = some client

/-- A room lists clients, each once, and they are the clients whose `roomIdx` it is. -/
structure RoomOk (s : Rooms κ) (r : Int) : Prop where
  count : 0 ≤ (s.room r).numClient ∧ (s.room r).numClient ≤ maxPlayerPerRoom
  present : ∀ i, 0 ≤ i → i < (s.room r).numClient → (s.room r).joinRoom i ≠ none
  distinct : ∀ i j c, 0 ≤ i → i < (s.room r).numClient → 0 ≤ j → j < (s.room r).numClient →
    (s.room r).joinRoom i = some c → (s.room r).joinRoom j = some c → i = j
  members : ∀ c, s.roomIdx c = r ↔ Listed (s.room r) c

def Membership (nMaxRoom : Nat) (s : Rooms κ) : Prop := ∀ r : Int, 0 ≤ r → r < nMaxRoom → RoomOk s r

theorem toS16_of_small {v : Int} (h0 : 0 ≤ v) (h : v < 2 ^ 15) : toS16 v = v := by
  unfold toS16
  rw [BitVec.toInt_ofInt, Int.bmod_def]
  omega

theorem toS16_lt (v : Int) : toS16 v < 2 ^ 15 := by
  unfold toS16
  have := BitVec.toInt_lt (x := BitVec.ofInt 16 v)
  omega

/-- What is stored is no more than what was to be. -/
theorem toS16_le {v : Int} (h0 : 0 ≤ v) : toS16 v ≤ v := by
  unfold toS16
  rw [BitVec.toInt_ofInt, Int.bmod_def]
  omega

omit [DecidableEq κ] in
/-- A room that is as it was, with the same clients' `roomIdx` at it. -/
theorem RoomOk.frame (h : RoomOk s r) (hroom : s'.room r = s.room r) (hidx : ∀ c, s'.roomIdx c = r ↔ s.roomIdx c = r) :
    RoomOk s' r := by
  refine ⟨?_, ?_, ?_, ?_⟩
  · rw [hroom]
    exact h.count
  · rw [hroom]
    exact h.present
  · rw [hroom]
    exact h.distinct
  · intro c
    rw [hidx, hroom]
    exact h.members c

/-- A client whose room has changed to `r`, from none, leaves the other rooms as they were. -/
theorem RoomOk.frame_joined (h : RoomOk s q) (hroom : s'.room q = s.room q) (hq : 0 ≤ q) (hne : q ≠ r)
    (hfree : s.roomIdx client < 0) (hidx : s'.roomIdx = Function.update s.roomIdx client r) : RoomOk s' q := by
  refine h.frame hroom fun c => ?_
  rw [hidx]
  by_cases hc : c = client
  · subst hc
    rw [Function.update_self]
    exact ⟨fun h => absurd h.symm hne, fun h => by omega⟩
  · rw [Function.update_of_ne hc]

omit [DecidableEq κ] in
/-- A room that lists nobody. -/
theorem not_listed (h : (s.room r).numClient = 0) (c : κ) : ¬Listed (s.room r) c := by
  rintro ⟨i, h0, hi, -⟩
  omega

/-! ## Searches -/

omit [DecidableEq κ] in
theorem findFree_some {i : Nat} (h : findFreeIdxRoom nMaxRoom s = some i) : i < nMaxRoom ∧ (s.room i).numClient = 0 := by
  refine ⟨List.mem_range.mp (List.mem_of_find?_eq_some h), ?_⟩
  have := List.find?_some h
  simpa using this

omit [DecidableEq κ] in
theorem findOpen_some {i : Nat} (h : findOpenRoom nMaxRoom s = some i) :
    i < nMaxRoom ∧ 0 < (s.room i).numClient ∧ (s.room i).numClient < maxPlayerPerRoom := by
  refine ⟨List.mem_range.mp (List.mem_of_find?_eq_some h), ?_⟩
  have := List.find?_some h
  simpa using this

theorem findClient_some {room : Room κ} {i : Nat} (h : findClient room c = some i) :
    (i : Int) < room.numClient ∧ room.joinRoom i = some c := by
  have hi := List.mem_range.mp (List.mem_of_find?_eq_some h)
  have := List.find?_some h
  exact ⟨by omega, by simpa using this⟩

theorem findClient_none {room : Room κ} (h : findClient room c = none) : ¬Listed room c := by
  rintro ⟨i, h0, hi, hic⟩
  have := List.find?_eq_none.mp h i.toNat (List.mem_range.mpr (by omega))
  rw [show ((i.toNat : Nat) : Int) = i by omega] at this
  simp [hic] at this

/-! ## Joining -/

/-- What a join makes of the room, with its member after the others. -/
theorem RoomOk.joined (h : RoomOk s r) (hr : 0 ≤ r) (hfull : (s.room r).numClient < maxPlayerPerRoom)
    (hfree : s.roomIdx client < 0) (hnum : (s'.room r).numClient = (s.room r).numClient + 1)
    (hjoin : ∀ i, 0 ≤ i → i ≤ (s.room r).numClient →
      (s'.room r).joinRoom i = if i = (s.room r).numClient then some client else (s.room r).joinRoom i)
    (hidx : s'.roomIdx = Function.update s.roomIdx client r) : RoomOk s' r := by
  have hnot : ¬Listed (s.room r) client := by
    intro hl
    have := (h.members client).mpr hl
    omega
  refine ⟨⟨?_, ?_⟩, ?_, ?_, ?_⟩
  · have := h.count.1
    omega
  · omega
  · intro i h0 hi
    rw [hjoin i h0 (by omega)]
    split
    · simp
    · exact h.present i h0 (by omega)
  · intro i j c hi0 hi hj0 hj hic hjc
    rw [hjoin i hi0 (by omega)] at hic
    rw [hjoin j hj0 (by omega)] at hjc
    by_cases hin : i = (s.room r).numClient
    · by_cases hjn : j = (s.room r).numClient
      · omega
      · rw [if_pos hin] at hic
        rw [if_neg hjn, ← hic] at hjc
        exact absurd ⟨j, hj0, by omega, hjc⟩ hnot
    · by_cases hjn : j = (s.room r).numClient
      · rw [if_pos hjn] at hjc
        rw [if_neg hin, ← hjc] at hic
        exact absurd ⟨i, hi0, by omega, hic⟩ hnot
      · rw [if_neg hin] at hic
        rw [if_neg hjn] at hjc
        exact h.distinct i j c hi0 (by omega) hj0 (by omega) hic hjc
  · intro c
    rw [hidx]
    have hcount := h.count.1
    by_cases hc : c = client
    · subst hc
      rw [Function.update_self]
      refine iff_of_true rfl ⟨(s.room r).numClient, hcount, by omega, ?_⟩
      rw [hjoin _ hcount (Int.le_refl _), if_pos rfl]
    · rw [Function.update_of_ne hc, h.members c]
      constructor
      · rintro ⟨i, h0, hi, hic⟩
        refine ⟨i, h0, by omega, ?_⟩
        rw [hjoin i h0 (by omega), if_neg (by omega), hic]
      · rintro ⟨i, h0, hi, hic⟩
        rw [hjoin i h0 (by omega)] at hic
        split at hic
        · exact absurd (Option.some.inj hic).symm hc
        · exact ⟨i, h0, by omega, hic⟩

omit [DecidableEq κ] in
theorem setRoom_other (s : Rooms κ) (room : Room κ) (h : q ≠ r) : (setRoom s r room).room q = s.room q := by
  simp [setRoom, h]

omit [DecidableEq κ] in
@[simp] theorem setRoom_same (s : Rooms κ) (room : Room κ) : (setRoom s r room).room r = room := by
  simp [setRoom]

omit [DecidableEq κ] in
/-- A client that is put into a second room, or twice into one, is listed where it is not. -/
theorem twice_listed (h : Membership nMaxRoom s) (hr : 0 ≤ r) (hrn : r < nMaxRoom)
    (hroom : s'.room r = addClient (s.room r) client ∨
      s'.room r = { addClient (s.room r) client with mutexRoom := true })
    (hother : ∀ q, q ≠ r → s'.room q = s.room q) (hin : 0 ≤ s.roomIdx client) (hinn : s.roomIdx client < nMaxRoom) : ¬Membership nMaxRoom s' := by
  intro h'
  have hcount := (h r hr hrn).count.1
  have hnum : (s'.room r).numClient = (s.room r).numClient + 1 := by
    rcases hroom with hroom | hroom <;> rw [hroom] <;> rfl
  have hjoin : ∀ i, (s'.room r).joinRoom i = Function.update (s.room r).joinRoom (s.room r).numClient (some client) i := by
    intro i
    rcases hroom with hroom | hroom <;> rw [hroom] <;> rfl
  have hlast : Listed (s'.room r) client :=
    ⟨(s.room r).numClient, hcount, by omega, by rw [hjoin, Function.update_self]⟩
  have hidx' := ((h' r hr hrn).members client).mpr hlast
  obtain ⟨i, h0, hi, hic⟩ := ((h _ hin hinn).members client).mp rfl
  by_cases hsame : s.roomIdx client = r
  · -- listed at `i` and after the others
    rw [hsame] at hi hic
    have hat : (s'.room r).joinRoom i = some client := by
      rw [hjoin, Function.update_of_ne (by omega), hic]
    have hat' : (s'.room r).joinRoom (s.room r).numClient = some client := by rw [hjoin, Function.update_self]
    have := (h' r hr hrn).distinct i (s.room r).numClient client h0 (by omega) hcount (by omega) hat hat'
    omega
  · have hold : Listed (s'.room (s.roomIdx client)) client := by
      rw [hother _ hsame]
      exact ⟨i, h0, hi, hic⟩
    have := ((h' _ hin hinn).members client).mpr hold
    exact hsame (this.symm.trans hidx')

theorem create_keeps (h : Membership nMaxRoom s) :
    Membership nMaxRoom (stsvCreateRoom nMaxRoom s client).1 ↔
      0 ≤ s.roomIdx client ∨ (findFreeIdxRoom nMaxRoom s).all (· < 2 ^ 15) = true := by
  unfold stsvCreateRoom
  by_cases hin : s.roomIdx client ≥ 0
  · rw [if_pos hin]
    exact iff_of_true h (Or.inl hin)
  · rw [if_neg hin]
    rcases hfind : findFreeIdxRoom nMaxRoom s with _ | i
    · exact iff_of_true h (Or.inr rfl)
    · obtain ⟨hi, hzero⟩ := findFree_some hfind
      have hok := h i (by omega) (by omega)
      simp only [Option.all_some, decide_eq_true_eq]
      constructor
      · intro h'
        right
        have hlist : Listed ((claimRoom s client i).room i) client := by
          refine ⟨0, Int.le_refl _, ?_, ?_⟩ <;> simp [claimRoom, setRoom]
        have hidx := ((h' i (by omega) (by omega)).members client).mpr hlist
        have hs16 : (claimRoom s client i).roomIdx client = toS16 i := by simp [claimRoom]
        have := toS16_lt i
        omega
      · rintro (hbad | hsmall) q hq hqn
        · omega
        · have hidx : (claimRoom s client i).roomIdx = Function.update s.roomIdx client (i : Int) := by
            show Function.update s.roomIdx client (toS16 i) = _
            rw [toS16_of_small (by omega) (by omega)]
          by_cases hqi : q = i
          · subst hqi
            refine hok.joined hq (by rw [hzero]; decide) (by omega) ?_ ?_ hidx
            · simp [claimRoom, setRoom, hzero]
            · intro j h0 hj
              rw [hzero] at hj ⊢
              obtain rfl : j = 0 := by omega
              simp [claimRoom, setRoom]
          · exact (h q hq hqn).frame_joined (setRoom_other s _ hqi) hq hqi (by omega) hidx

omit [DecidableEq κ] in
/-- `STSV_JoinFreeRoom` lists a client without its knowing. -/
theorem joinFree_breaks (h : Membership nMaxRoom s) (hrange : ∀ c, s.roomIdx c < nMaxRoom) :
    Membership nMaxRoom (stsvJoinFreeRoom nMaxRoom s client).1 ↔ findOpenRoom nMaxRoom s = none := by
  unfold stsvJoinFreeRoom
  rcases hfind : findOpenRoom nMaxRoom s with _ | i
  · exact iff_of_true h rfl
  · obtain ⟨hi, hpos, hfull⟩ := findOpen_some hfind
    refine iff_of_false ?_ (by simp)
    intro h'
    by_cases hin : 0 ≤ s.roomIdx client
    · have htwice : ¬Membership nMaxRoom (setRoom s i (addClient (s.room i) client)) :=
        twice_listed h (by omega) (by omega) (Or.inl (setRoom_same s _)) (fun q hq => setRoom_other s _ hq) hin (hrange client)
      exact htwice h'
    · have hlist : Listed ((setRoom s i (addClient (s.room i) client)).room i) client := by
        rw [setRoom_same]
        exact ⟨(s.room i).numClient, by omega, Int.lt_succ _, by simp [addClient]⟩
      have := ((h' i (by omega) (by omega)).members client).mpr hlist
      have hidx : s.roomIdx client = (i : Int) := this
      omega

/-- What the call has done where it does not wait for the mutex: nothing, or it has entered. -/
theorem joinRoom_cases {result : Option Bool} (hjoin : stsvJoinRoom nMaxRoom s client r = some (s', result)) :
    (s' = s ∧ result = some false ∧ ((s.room r).numClient = 0 ∨ maxPlayerPerRoom ≤ (s.room r).numClient)) ∨
      (s' = enterRoom s client r ∧ result = none ∧ (s.room r).numClient ≠ 0 ∧
        (s.room r).numClient < maxPlayerPerRoom ∧ (s.room r).mutexRoom = false) := by
  unfold stsvJoinRoom at hjoin
  dsimp only at hjoin
  rw [if_neg (by omega)] at hjoin
  split at hjoin
  · rename_i hzero
    cases hjoin
    exact Or.inl ⟨rfl, rfl, Or.inl hzero⟩
  · rename_i hzero
    split at hjoin
    · rename_i hopen
      split at hjoin
      · cases hjoin
      · rename_i hlock
        cases hjoin
        exact Or.inr ⟨rfl, rfl, hzero, hopen, Bool.eq_false_iff.mpr hlock⟩
    · cases hjoin
      exact Or.inl ⟨rfl, rfl, Or.inr (by omega)⟩

theorem joinRoom_keeps (h : Membership nMaxRoom s) (hrange : ∀ c, s.roomIdx c < nMaxRoom) (hr : 0 ≤ r) (hrn : r < nMaxRoom)
    {result : Option Bool} (hjoin : stsvJoinRoom nMaxRoom s client r = some (s', result)) :
    Membership nMaxRoom s' ↔
      (s.room r).numClient = 0 ∨ maxPlayerPerRoom ≤ (s.room r).numClient ∨ (s.roomIdx client < 0 ∧ r < 2 ^ 15) := by
  rcases joinRoom_cases hjoin with ⟨rfl, -, hclosed⟩ | ⟨rfl, -, hzero, hfull, -⟩
  · exact iff_of_true h (hclosed.imp_right Or.inl)
  · have hroom : (enterRoom s client r).room r = { addClient (s.room r) client with mutexRoom := true } :=
      setRoom_same s _
    have hcount := (h r hr hrn).count.1
    constructor
    · intro h'
      right
      right
      have hlist : Listed ((enterRoom s client r).room r) client := by
        rw [hroom]
        exact ⟨(s.room r).numClient, hcount, Int.lt_succ _, by simp [addClient]⟩
      have hidx := ((h' r hr hrn).members client).mpr hlist
      have hs16 : (enterRoom s client r).roomIdx client = toS16 r := by simp [enterRoom]
      have := toS16_lt r
      refine ⟨?_, by omega⟩
      by_cases hin : 0 ≤ s.roomIdx client
      · exact absurd h' (twice_listed h hr hrn (Or.inr hroom) (fun q hq => setRoom_other s _ hq) hin (hrange client))
      · omega
    · rintro (hbad | hbad | ⟨hfree, hsmall⟩) q hq hqn
      · exact absurd hbad hzero
      · omega
      · have hidx : (enterRoom s client r).roomIdx = Function.update s.roomIdx client r := by
          show Function.update s.roomIdx client (toS16 r) = _
          rw [toS16_of_small hr hsmall]
        by_cases hqr : q = r
        · subst hqr
          refine (h q hq hqn).joined hq hfull hfree (by rw [hroom]; rfl) ?_ hidx
          intro i _ _
          rw [hroom]
          simp only [addClient, Function.update_apply]
        · exact (h q hq hqn).frame_joined (setRoom_other s _ hqr) hq hqr hfree hidx

/-! ## Leaving -/

/-- A member that leaves keeps its `roomIdx`. -/
theorem destroy_breaks (h : Membership nMaxRoom s) (hrange : ∀ c, s.roomIdx c < nMaxRoom) {result : Int}
    (hdestroy : destroyClientRoom s client = some (s', result)) :
    (Membership nMaxRoom s' ↔ s.roomIdx client < 0) ∧ s'.roomIdx = s.roomIdx := by
  unfold destroyClientRoom at hdestroy
  dsimp only at hdestroy
  by_cases hin : s.roomIdx client ≥ 0
  · rw [if_pos hin] at hdestroy
    have hok := h _ hin (hrange client)
    split at hdestroy
    · rename_i i hfind
      split at hdestroy
      · cases hdestroy
      · cases hdestroy
        refine ⟨iff_of_false ?_ (by omega), rfl⟩
        intro h'
        obtain ⟨hi, hic⟩ := findClient_some hfind
        have hlist := ((h' _ hin (hrange client)).members client).mp rfl
        rw [setRoom_same] at hlist
        obtain ⟨j, h0, hj, hjc⟩ := hlist
        dsimp only at hj hjc
        by_cases hji : j = i
        · rw [hji, Function.update_self] at hjc
          cases hjc
        · rw [Function.update_of_ne hji] at hjc
          exact hji (hok.distinct j i client h0 (by omega) (by omega) hi hjc hic)
    · rename_i hfind
      exact absurd ((hok.members client).mp rfl) (findClient_none hfind)
  · rw [if_neg hin] at hdestroy
    cases hdestroy
    exact ⟨iff_of_true h (by omega), rfl⟩

/-! ## Runs of the lobby -/

/-- The steps that keep the records in agreement: nobody is joined by `STSV_JoinFreeRoom`, nobody
    who is in a room joins one, nobody who is in a room leaves; and a room's id fits an `s16`. -/
def Keeps (nMaxRoom : Nat) (s : Rooms κ) : LobbyEv κ → Prop
  | .create client => 0 ≤ s.roomIdx client ∨ (findFreeIdxRoom nMaxRoom s).all (· < 2 ^ 15) = true
  | .joinRoom client roomID =>
    (s.room roomID).numClient = 0 ∨ maxPlayerPerRoom ≤ (s.room roomID).numClient ∨
      (s.roomIdx client < 0 ∧ roomID < 2 ^ 15)
  | .joinFreeRoom _ => findOpenRoom nMaxRoom s = none
  | .exitRoom client | .disconnect client => s.roomIdx client < 0

instance decidableKeeps (nMaxRoom : Nat) (s : Rooms κ) (e : LobbyEv κ) : Decidable (Keeps nMaxRoom s e) :=
  match e with
  | .create _ => inferInstanceAs (Decidable (_ ∨ _))
  | .joinRoom _ _ => inferInstanceAs (Decidable (_ ∨ _ ∨ _ ∧ _))
  | .joinFreeRoom _ => inferInstanceAs (Decidable (_ = none))
  | .exitRoom client | .disconnect client => inferInstanceAs (Decidable (s.roomIdx client < 0))

theorem exitRoom_state (hexit : (stsvExitRoom s client).map Prod.fst = some s') :
    ∃ result, destroyClientRoom s client = some (s', result) := by
  unfold stsvExitRoom at hexit
  dsimp only at hexit
  split at hexit
  · simp only [Option.map_map, Option.map_eq_some_iff] at hexit
    obtain ⟨⟨t, result⟩, hdestroy, rfl⟩ := hexit
    exact ⟨result, hdestroy⟩
  · rename_i hin
    cases hexit
    exact ⟨-1, by simp [destroyClientRoom, hin]⟩

theorem update_range (hrange : ∀ c, s.roomIdx c < nMaxRoom) (hr : 0 ≤ r) (hrn : r < nMaxRoom) (c : κ) :
    Function.update s.roomIdx client (toS16 r) c < nMaxRoom := by
  by_cases hc : c = client
  · subst hc
    rw [Function.update_self]
    have := toS16_le hr
    omega
  · rw [Function.update_of_ne hc]
    exact hrange c

theorem membership_step {e : LobbyEv κ} (hrange : ∀ c, s.roomIdx c < nMaxRoom) (h : Membership nMaxRoom s)
    (he : lobbyStep nMaxRoom s e = some s') :
    (Membership nMaxRoom s' ↔ Keeps nMaxRoom s e) ∧ ∀ c, s'.roomIdx c < nMaxRoom := by
  cases e with
  | create client =>
    obtain rfl := Option.some.inj he
    refine ⟨create_keeps h, ?_⟩
    unfold stsvCreateRoom
    split
    · exact hrange
    · split
      · exact hrange
      · rename_i i hfind
        have := (findFree_some hfind).1
        exact fun c => update_range hrange (by omega) (by omega) c
  | joinRoom client roomID =>
    simp only [lobbyStep] at he
    split at he
    · rename_i hin
      obtain ⟨⟨t, result⟩, hjoin, rfl⟩ := Option.map_eq_some_iff.mp he
      refine ⟨joinRoom_keeps h hrange hin.1 hin.2 hjoin, ?_⟩
      rcases joinRoom_cases hjoin with ⟨rfl, -⟩ | ⟨rfl, -⟩
      · exact hrange
      · exact fun c => update_range hrange hin.1 hin.2 c
    · cases he
  | joinFreeRoom client =>
    obtain rfl := Option.some.inj he
    refine ⟨joinFree_breaks h hrange, ?_⟩
    unfold stsvJoinFreeRoom
    split <;> exact hrange
  | exitRoom client =>
    obtain ⟨result, hdestroy⟩ := exitRoom_state he
    obtain ⟨hiff, hidx⟩ := destroy_breaks h hrange hdestroy
    exact ⟨hiff, fun c => hidx ▸ hrange c⟩
  | disconnect client =>
    obtain ⟨⟨t, result⟩, hdestroy, rfl⟩ := Option.map_eq_some_iff.mp he
    obtain ⟨hiff, hidx⟩ := destroy_breaks h hrange hdestroy
    exact ⟨hiff, fun c => hidx ▸ hrange c⟩

omit [DecidableEq κ] in
/-- The new table agrees with the clients, who are in no room, exactly if its rooms are empty. -/
theorem newRooms_membership (rooms : Int → Room κ) :
    Membership nMaxRoom (newRooms rooms) ↔ ∀ r : Int, 0 ≤ r → r < nMaxRoom → (rooms r).numClient = 0 := by
  constructor
  · intro h r hr hrn
    have hok := h r hr hrn
    have hcount : 0 ≤ (rooms r).numClient := hok.count.1
    by_cases hpos : 0 < (rooms r).numClient
    · obtain ⟨c, hc⟩ := Option.ne_none_iff_exists'.mp (hok.present 0 (Int.le_refl _) hpos)
      have hidx : (-1 : Int) = r := (hok.members c).mpr ⟨0, Int.le_refl _, hpos, hc⟩
      omega
    · omega
  · intro h r hr hrn
    have hzero : ((newRooms rooms).room r).numClient = 0 := h r hr hrn
    refine ⟨by rw [hzero]; decide, fun i _ hi => by omega, fun i _ _ _ hi => by omega, fun c => ?_⟩
    refine iff_of_false ?_ (not_listed hzero c)
    show ¬(-1 : Int) = r
    omega

theorem membership_iff (rooms : Int → Room κ) {es : List (LobbyEv κ)}
    (h : run (lobbyStep nMaxRoom) (newRooms rooms) es = some s) :
    RunAll (lobbyStep nMaxRoom) (Membership nMaxRoom) (newRooms rooms) es ↔
      (∀ r : Int, 0 ≤ r → r < nMaxRoom → (rooms r).numClient = 0) ∧
        RunOk (lobbyStep nMaxRoom) (Keeps nMaxRoom) (newRooms rooms) es := by
  have hrange : ∀ c, (newRooms rooms).roomIdx c < (nMaxRoom : Int) := by
    intro c
    show (-1 : Int) < nMaxRoom
    omega
  have hrun : Membership nMaxRoom (newRooms rooms) → (RunAll (lobbyStep nMaxRoom) (Membership nMaxRoom) (newRooms rooms) es ↔
      RunOk (lobbyStep nMaxRoom) (Keeps nMaxRoom) (newRooms rooms) es) := by
    intro hstart
    refine runAll_iff_runOk_of (lobbyStep nMaxRoom) (I := fun s => ∀ c, s.roomIdx c < (nMaxRoom : Int))
      (A := fun _ _ => True) ?_ hrange hstart (runOk_trivial _ _ _) h
    intro s e s' hi hp _ he
    obtain ⟨hiff, hrange'⟩ := membership_step hi hp he
    exact ⟨hiff, fun _ => hrange'⟩
  rw [← newRooms_membership]
  constructor
  · intro hall
    have hstart := hall.head
    exact ⟨hstart, (hrun hstart).mp hall⟩
  · rintro ⟨hstart, hok⟩
    exact (hrun hstart).mpr hok

/-- A table of zeroes. -/
def zeroRooms : Int → Room Nat := fun _ => ⟨0, false, fun _ => none⟩

/-- Two rooms are created, and one is joined. -/
theorem membership_of_joins : ∃ s, run (lobbyStep 2) (newRooms zeroRooms) [.create 0, .create 1, .joinRoom 2 1] = some s ∧
    RunAll (lobbyStep 2) (Membership 2) (newRooms zeroRooms) [.create 0, .create 1, .joinRoom 2 1] :=
  ⟨_, rfl, (membership_iff zeroRooms rfl).mpr ⟨fun _ _ _ => rfl, by decide +kernel⟩⟩

/-- Client 0 creates room 0, client 1 joins, client 0 exits, client 2 joins: client 1 is in the
    room no more, and client 0 cannot create another. -/
theorem third_join_overwrites : ∃ s,
    run (lobbyStep 1) (newRooms zeroRooms) [.create 0, .joinFreeRoom 1, .exitRoom 0, .joinFreeRoom 2] = some s ∧
      (s.room 0).numClient = 2 ∧ (s.room 0).joinRoom 0 = none ∧ (s.room 0).joinRoom 1 = some 2 ∧
      (stsvCreateRoom 1 s 0).2 = -2 ∧ ¬Membership 1 s := by
  refine ⟨_, rfl, by decide +kernel, by decide +kernel, by decide +kernel, by decide +kernel, ?_⟩
  intro h
  exact (h 0 (by decide) (by decide)).present 0 (by decide) (by decide +kernel) (by decide +kernel)

end StarServer.Lobby

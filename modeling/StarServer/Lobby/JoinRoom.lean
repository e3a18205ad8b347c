/-
  StarServer.Lobby.JoinRoom — `STSV_JoinRoom` for every table, client and room id.

  The range guard is `roomID < 0 && roomID >= s_nMaxRoom`, which no int passes, so every id reads
  a room. A room that is open is joined under its mutex, which is then locked a second time
  instead of unlocked: the call does not return, and the mutex stays locked.

  Proved:
    * `guard_open`: the guard stops nothing;
    * `locked_waits`: while a room's mutex is locked, who would join the room waits, and so does
      each of its members that would exit or disconnects;
    * `join_room_iff`: the call is right exactly for a room of the table that is empty or full;
    * `join_stays_locked`: a room that is joined, and an id outside the table.
-/

import StarServer.Lobby.Rooms

namespace StarServer.Lobby

open Runs

variable {κ : Type} [DecidableEq κ] (nMaxRoom : Nat)

/-- A room of the table, with a member and with a place for another. -/
structure Joinable (s : Rooms κ) (roomID : Int) : Prop where
  inTable : 0 ≤ roomID ∧ roomID < nMaxRoom
  created : 1 ≤ (s.room roomID).numClient
  notFull : (s.room roomID).numClient < maxPlayerPerRoom

/-- The client is appended and has its `roomIdx`; the mutex is as it was. -/
def joined (s : Rooms κ) (client : κ) (roomID : Int) : Rooms κ :=
  { setRoom s roomID (addClient (s.room roomID) client) with roomIdx := Function.update s.roomIdx client roomID }

/-- The call returns `b`, leaving `s'`. -/
structure JoinReturns (s : Rooms κ) (client : κ) (roomID : Int) (s' : Rooms κ) (b : Bool) : Prop where
  call : stsvJoinRoom nMaxRoom s client roomID = some (s', some b)
  result : b = true ↔ Joinable nMaxRoom s roomID
  joined : b = true → s' = joined s client roomID
  refused : b = false → s' = s

/-- Two tables with the same rooms; what is in memory around them may differ. -/
def SameTable (s t : Rooms κ) : Prop :=
  (∀ r : Int, 0 ≤ r → r < nMaxRoom → t.room r = s.room r) ∧ t.roomIdx = s.roomIdx

/-- The call returns what it should, and its outcome depends on no room outside the table. -/
structure JoinRight (s : Rooms κ) (client : κ) (roomID : Int) : Prop where
  returns : ∃ s' b, JoinReturns nMaxRoom s client roomID s' b
  inside : ∀ t, SameTable nMaxRoom s t →
    (stsvJoinRoom nMaxRoom t client roomID).map Prod.snd = (stsvJoinRoom nMaxRoom s client roomID).map Prod.snd

variable {nMaxRoom} {s : Rooms κ} {client d : κ} {r : Int}

theorem guard_open (roomID : Int) : ¬(roomID < 0 ∧ roomID ≥ nMaxRoom) := by
  rintro ⟨hneg, hge⟩
  omega

/-! ## The three ways through the call -/

theorem joinRoom_empty (h : (s.room r).numClient = 0) : stsvJoinRoom nMaxRoom s client r = some (s, some false) := by
  unfold stsvJoinRoom
  dsimp only
  rw [if_neg (guard_open r), if_pos h]

theorem joinRoom_full (h : maxPlayerPerRoom ≤ (s.room r).numClient) :
    stsvJoinRoom nMaxRoom s client r = some (s, some false) := by
  have hmax : maxPlayerPerRoom = 20 := rfl
  unfold stsvJoinRoom
  dsimp only
  rw [if_neg (guard_open r), if_neg (by omega), if_neg (by omega)]

/-- An open room is never returned from: the call waits for the mutex before it joins or after. -/
theorem joinRoom_open (hne : (s.room r).numClient ≠ 0) (hlt : (s.room r).numClient < maxPlayerPerRoom) :
    stsvJoinRoom nMaxRoom s client r = if (s.room r).mutexRoom then none else some (enterRoom s client r, none) := by
  unfold stsvJoinRoom
  dsimp only
  rw [if_neg (guard_open r), if_neg hne, if_pos hlt]

/-! ## A locked mutex -/

theorem entered_locked (s : Rooms κ) (client : κ) (r : Int) : ((enterRoom s client r).room r).mutexRoom = true := by
  show ((setRoom s r { addClient (s.room r) client with mutexRoom := true }).room r).mutexRoom = true
  rw [setRoom_same]

/-- Whoever joins an open room after that, or leaves it, waits. -/
theorem locked_waits (hlock : (s.room r).mutexRoom = true) :
    ((s.room r).numClient ≠ 0 → (s.room r).numClient < maxPlayerPerRoom → stsvJoinRoom nMaxRoom s d r = none) ∧
      (0 ≤ r → s.roomIdx d = r → Listed (s.room r) d → destroyClientRoom s d = none ∧ stsvExitRoom s d = none) := by
  constructor
  · intro hne hlt
    rw [joinRoom_open hne hlt, if_pos hlock]
  · intro hr hidx hlisted
    have hdestroy : destroyClientRoom s d = none := by
      unfold destroyClientRoom
      dsimp only
      rw [hidx, if_pos hr]
      rcases hfind : findClient (s.room r) d with _ | i
      · exact absurd hlisted (findClient_none hfind)
      · simp [hlock]
    refine ⟨hdestroy, ?_⟩
    unfold stsvExitRoom
    dsimp only
    rw [hidx, if_pos hr, hdestroy]
    rfl

/-! ## Every id -/

/-- Outside the table the outcome is whatever is there. -/
theorem outside_read (hout : ¬(0 ≤ r ∧ r < (nMaxRoom : Int))) : ∃ t u, SameTable nMaxRoom s t ∧ SameTable nMaxRoom s u ∧
    (stsvJoinRoom nMaxRoom t client r).map Prod.snd ≠ (stsvJoinRoom nMaxRoom u client r).map Prod.snd := by
  have hsame : ∀ room, SameTable nMaxRoom s (setRoom s r room) := by
    intro room
    refine ⟨fun q h0 hq => setRoom_other s room ?_, rfl⟩
    rintro rfl
    exact hout ⟨h0, hq⟩
  let memory := fun n => (⟨n, false, fun _ => none⟩ : Room κ)
  refine ⟨setRoom s r (memory 0), setRoom s r (memory 1), hsame _, hsame _, ?_⟩
  have hempty : ((setRoom s r (memory 0)).room r).numClient = 0 := by rw [setRoom_same]
  have hone : ((setRoom s r (memory 1)).room r).numClient = 1 := by rw [setRoom_same]
  have hmutex : ((setRoom s r (memory 1)).room r).mutexRoom = false := by rw [setRoom_same]
  rw [joinRoom_empty hempty, joinRoom_open (by omega) (by rw [hone]; decide), hmutex]
  simp

/-- **Joining a room** goes as it should exactly if the room is one of the table's and cannot be
    joined. -/
theorem join_room_iff (nMaxRoom : Nat) (s : Rooms κ) (client : κ) (roomID : Int) :
    JoinRight nMaxRoom s client roomID ↔
      (0 ≤ roomID ∧ roomID < nMaxRoom) ∧ ((s.room roomID).numClient = 0 ∨ maxPlayerPerRoom ≤ (s.room roomID).numClient) := by
  constructor
  · rintro ⟨⟨s', b, hreturns⟩, hinside⟩
    refine ⟨?_, ?_⟩
    · by_contra hout
      obtain ⟨t, u, ht, hu, hne⟩ := @outside_read κ _ nMaxRoom s client roomID hout
      exact hne ((hinside t ht).trans (hinside u hu).symm)
    · by_contra hopen
      obtain ⟨hne, hlt⟩ := not_or.mp hopen
      have hcall := hreturns.call
      rw [joinRoom_open hne (by omega)] at hcall
      split at hcall
      · cases hcall
      · cases hcall
  · rintro ⟨⟨h0, hlt⟩, hclosed⟩
    have hcall : ∀ t : Rooms κ, t.room roomID = s.room roomID →
        stsvJoinRoom nMaxRoom t client roomID = some (t, some false) := by
      intro t ht
      rcases hclosed with hempty | hfull
      · exact joinRoom_empty (by rw [ht, hempty])
      · exact joinRoom_full (by rw [ht]; exact hfull)
    have hmax : maxPlayerPerRoom = 20 := rfl
    refine ⟨⟨s, false, hcall s rfl, iff_of_false Bool.false_ne_true ?_, fun h => absurd h Bool.false_ne_true, fun _ => rfl⟩, ?_⟩
    · intro h
      have := h.created
      have := h.notFull
      omega
    · intro t ht
      rw [hcall t (ht.1 roomID h0 hlt), hcall s rfl]
      rfl

/-- Rooms of a table of two, and three clients in the memory behind them. -/
def threeBehind : Int → Room Nat := fun r => if r = 5 then ⟨3, false, fun _ => none⟩ else zeroRooms r

/-- **Joined for ever.** Client 1 joins the room that client 0 has created: the call does not
    return, client 2 cannot join, client 0 cannot exit and client 1 cannot disconnect. And id 5,
    of no room, is joined too. -/
theorem join_stays_locked :
    (∃ s t, run (lobbyStep 2) (newRooms threeBehind) [.create 0] = some s ∧ Joinable 2 s 0 ∧
      stsvJoinRoom 2 s 1 0 = some (t, none) ∧ stsvJoinRoom 2 t 2 0 = none ∧ stsvExitRoom t 0 = none ∧
      destroyClientRoom t 1 = none ∧ ¬JoinRight 2 s 1 0) ∧
    ∃ t, stsvJoinRoom 2 (newRooms threeBehind) 1 5 = some (t, none) ∧ ¬JoinRight 2 (newRooms threeBehind) 1 5 := by
  refine ⟨⟨_, _, rfl, ⟨by decide, by decide +kernel, by decide +kernel⟩, rfl, rfl, rfl, rfl, ?_⟩, _, rfl, ?_⟩
  · rintro ⟨⟨s', b, hreturns⟩, -⟩
    cases hreturns.call
  · rintro ⟨⟨s', b, hreturns⟩, -⟩
    cases hreturns.call

end StarServer.Lobby

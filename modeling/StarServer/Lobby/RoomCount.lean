/-
  StarServer.Lobby.RoomCount — what `STSV_GetRoomCount` counts.

  `s_nRoomCount` goes up in `STSV_CreateRoom` and down nowhere. A room becomes empty when its
  last member exits or disconnects, and in `STSV_ClearRoom`.

  Proved:
    * `RoomMoves.countRight`: the count stays right exactly if it moves with the room;
    * `lobby_moves`, `destroy_moves`: what each operation does to the number of players of one
      room, and to the count;
    * `room_count_iff`: the count is the number of rooms with players all along a run exactly if
      no room is emptied;
    * `room_count_stays`: a room that is left, and one that is cleared.
-/

import StarServer.Lobby.Rooms
import StarServer.Runs.Counts

namespace StarServer.Lobby

open Runs

/-! ## Counting rooms -/

def stsvGetNumPlayer {κ : Type} (s : Rooms κ) (roomID : Int) : Int := (s.room roomID).numClient

def stsvGetRoomCount {κ : Type} (s : Rooms κ) : Int := s.nRoomCount.toInt

variable {κ : Type} [DecidableEq κ] (nMaxRoom : Nat)

def stsvClearRoom (s : Rooms κ) (roomID : Int) : Rooms κ := setRoom s roomID (clearRoom (s.room roomID))

inductive CountEv (κ : Type) where
  | lobby (e : LobbyEv κ)
  | clear (roomID : Int)
  deriving Repr

def countStep (s : Rooms κ) : CountEv κ → Option (Rooms κ)
  | .lobby e => lobbyStep nMaxRoom s e
  | .clear roomID => if 0 ≤ roomID ∧ roomID < nMaxRoom then some (stsvClearRoom s roomID) else none

/-- The rooms of the table that have players. -/
def openRooms (s : Rooms κ) : Nat := (List.range nMaxRoom).countP fun r : Nat => decide (0 < stsvGetNumPlayer s r)

structure CountRight (s : Rooms κ) : Prop where
  count : stsvGetRoomCount s = openRooms nMaxRoom s
  le : stsvGetRoomCount s ≤ nMaxRoom

/-- The client is the only member of its room. -/
def LastMember (s : Rooms κ) (client : κ) : Prop :=
  0 ≤ s.roomIdx client ∧ (s.room (s.roomIdx client)).numClient = 1 ∧ (s.room (s.roomIdx client)).joinRoom 0 = some client

/-- The steps that empty no room. -/
def EmptiesNone (s : Rooms κ) : CountEv κ → Prop
  | .lobby (.exitRoom client) | .lobby (.disconnect client) => ¬LastMember s client
  | .lobby _ => True
  | .clear roomID => (s.room roomID).numClient = 0

instance decidableEmptiesNone (s : Rooms κ) (e : CountEv κ) : Decidable (EmptiesNone s e) :=
  match e with
  | .lobby (.exitRoom _) | .lobby (.disconnect _) => inferInstanceAs (Decidable ¬(_ ∧ _ ∧ _))
  | .lobby (.create _) | .lobby (.joinRoom _ _) | .lobby (.joinFreeRoom _) => inferInstanceAs (Decidable True)
  | .clear _ => inferInstanceAs (Decidable (_ = _))

variable {nMaxRoom} {s s' : Rooms κ} {client : κ}

omit [DecidableEq κ] in
theorem openRooms_le (s : Rooms κ) : openRooms nMaxRoom s ≤ nMaxRoom := by
  unfold openRooms
  simpa using List.countP_le_length (l := List.range nMaxRoom) (p := fun r : Nat => decide (0 < stsvGetNumPlayer s r))

omit [DecidableEq κ] in
theorem countRight_iff (hn : nMaxRoom < 2 ^ 31) (s : Rooms κ) :
    CountRight nMaxRoom s ↔ s.nRoomCount = BitVec.ofNat 32 (openRooms nMaxRoom s) := by
  have hle := @openRooms_le κ nMaxRoom s
  have hint : (BitVec.ofNat 32 (openRooms nMaxRoom s)).toInt = openRooms nMaxRoom s := by
    rw [BitVec.toInt_eq_toNat_of_lt (by rw [BitVec.toNat_ofNat]; omega), BitVec.toNat_ofNat]
    omega
  constructor
  · intro h
    apply BitVec.eq_of_toInt_eq
    exact h.count.trans hint.symm
  · intro h
    have hcount : stsvGetRoomCount s = openRooms nMaxRoom s := by
      unfold stsvGetRoomCount
      rw [h, hint]
    exact ⟨hcount, by omega⟩

/-! ## One room moves -/

/-- Room `q` has `n` players now, and the count has gone up by `d`. -/
structure RoomMoves (nMaxRoom : Nat) (s s' : Rooms κ) (q : Nat) (n : Int) (d : Nat) : Prop where
  inTable : q < nMaxRoom
  players : stsvGetNumPlayer s' q = n
  others : ∀ r : Int, r ≠ q → stsvGetNumPlayer s' r = stsvGetNumPlayer s r
  count : s'.nRoomCount = s.nRoomCount + BitVec.ofNat 32 d

omit [DecidableEq κ] in
theorem RoomMoves.countRight {q d : Nat} {n : Int} (hn : nMaxRoom < 2 ^ 31) (h : RoomMoves nMaxRoom s s' q n d) (hd : d ≤ 1)
    (hs : CountRight nMaxRoom s) :
    CountRight nMaxRoom s' ↔ d + (if 0 < stsvGetNumPlayer s q then 1 else 0) = if 0 < n then 1 else 0 := by
  have hopen : (fun r : Nat => decide (0 < stsvGetNumPlayer s' r)) =
      Function.update (fun r : Nat => decide (0 < stsvGetNumPlayer s r)) q (decide (0 < n)) := by
    funext r
    rw [Function.update_apply]
    by_cases hr : r = q
    · rw [if_pos hr, hr, h.players]
    · rw [if_neg hr, h.others r (by omega)]
  have hcount := countP_update List.nodup_range (List.mem_range.mpr h.inTable)
    (fun r : Nat => decide (0 < stsvGetNumPlayer s r)) (decide (0 < n))
  rw [← hopen] at hcount
  have hcount : openRooms nMaxRoom s' + (if 0 < stsvGetNumPlayer s q then 1 else 0) =
      openRooms nMaxRoom s + if 0 < n then 1 else 0 := by
    simpa [openRooms] using hcount
  have hle := @openRooms_le κ nMaxRoom s
  have hle' := @openRooms_le κ nMaxRoom s'
  rw [countRight_iff hn, h.count, (countRight_iff hn s).mp hs, ← BitVec.ofNat_add, ← BitVec.toNat_inj, BitVec.toNat_ofNat,
    BitVec.toNat_ofNat]
  omega

omit [DecidableEq κ] in
theorem setRoom_moves {q : Nat} (room : Room κ) (hq : q < nMaxRoom) (hroom : s'.room = (setRoom s q room).room)
    (hcount : s'.nRoomCount = s.nRoomCount) : RoomMoves nMaxRoom s s' q room.numClient 0 := by
  refine ⟨hq, ?_, ?_, by rw [hcount]; simp⟩
  · unfold stsvGetNumPlayer
    rw [hroom, setRoom_same]
  · intro r hr
    unfold stsvGetNumPlayer
    rw [hroom, setRoom_other s room hr]

/-- What may be used of a state of a run: no room has fewer players than none, and no client a
    room outside the table. -/
structure CountInv (nMaxRoom : Nat) (s : Rooms κ) : Prop where
  players : ∀ r : Int, 0 ≤ r → r < nMaxRoom → 0 ≤ stsvGetNumPlayer s r
  range : ∀ c, s.roomIdx c < nMaxRoom

omit [DecidableEq κ] in
theorem RoomMoves.inv {q d : Nat} {n : Int} (h : RoomMoves nMaxRoom s s' q n d) (hi : CountInv nMaxRoom s) (hn : 0 ≤ n)
    (hrange : ∀ c, s'.roomIdx c < nMaxRoom) : CountInv nMaxRoom s' := by
  refine ⟨fun r h0 hr => ?_, hrange⟩
  by_cases hrq : r = q
  · rw [hrq, h.players]
    exact hn
  · rw [h.others r hrq]
    exact hi.players r h0 hr

/-! ## The operations -/

/-- A room with one player more, or a new room. -/
theorem lobby_moves {e : LobbyEv κ} (hi : CountInv nMaxRoom s) (h : lobbyStep nMaxRoom s e = some s')
    (hstay : ∀ c, e ≠ .exitRoom c ∧ e ≠ .disconnect c) : s' = s ∨ ((∀ c, s'.roomIdx c < nMaxRoom) ∧
      ∃ q d, RoomMoves nMaxRoom s s' q (stsvGetNumPlayer s q + 1) d ∧ d + (if 0 < stsvGetNumPlayer s q then 1 else 0) = 1) := by
  cases e with
  | create client =>
    obtain rfl := Option.some.inj h
    unfold stsvCreateRoom
    split
    · exact Or.inl rfl
    · split
      · exact Or.inl rfl
      · rename_i q hfind
        obtain ⟨hq, hzero⟩ := findFree_some hfind
        have hzero : stsvGetNumPlayer s q = 0 := hzero
        refine Or.inr ⟨fun c => update_range hi.range (by omega) (by omega) c, q, 1, ⟨hq, ?_, ?_, rfl⟩, by simp [hzero]⟩
        · rw [hzero]
          simp [stsvGetNumPlayer, claimRoom, setRoom]
        · intro r hr
          exact congrArg Room.numClient (setRoom_other s _ hr)
  | joinRoom client roomID =>
    simp only [lobbyStep] at h
    split at h
    · rename_i hin
      obtain ⟨⟨t, result⟩, hjoin, rfl⟩ := Option.map_eq_some_iff.mp h
      obtain ⟨q, rfl⟩ := Int.eq_ofNat_of_zero_le hin.1
      have hplayers : 0 ≤ (s.room q).numClient := hi.players q hin.1 hin.2
      rcases joinRoom_cases hjoin with ⟨rfl, -⟩ | ⟨rfl, -, hne, -⟩
      · exact Or.inl rfl
      · have hpos : 0 < stsvGetNumPlayer s q := by
          unfold stsvGetNumPlayer
          omega
        refine Or.inr ⟨fun c => update_range hi.range hin.1 hin.2 c, q, 0, ?_, by simp [hpos]⟩
        exact setRoom_moves { addClient (s.room q) client with mutexRoom := true } (by omega) rfl rfl
    · cases h
  | joinFreeRoom client =>
    obtain rfl := Option.some.inj h
    unfold stsvJoinFreeRoom
    split
    · rename_i q hfind
      obtain ⟨hq, hpos, -⟩ := findOpen_some hfind
      have hpos : 0 < stsvGetNumPlayer s q := hpos
      exact Or.inr ⟨hi.range, q, 0, setRoom_moves (addClient (s.room q) client) hq rfl rfl, by simp [hpos]⟩
    · exact Or.inl rfl
  | exitRoom client => exact absurd rfl (hstay client).1
  | disconnect client => exact absurd rfl (hstay client).2

/-- A client that is found leaves its room, and keeps its `roomIdx`. -/
theorem destroy_moves (hi : CountInv nMaxRoom s) {result : Int} (h : destroyClientRoom s client = some (s', result)) :
    (s' = s ∧ ¬LastMember s client) ∨ (s'.roomIdx = s.roomIdx ∧ ∃ q : Nat, 0 < stsvGetNumPlayer s q ∧
      RoomMoves nMaxRoom s s' q (stsvGetNumPlayer s q - 1) 0 ∧ (LastMember s client ↔ stsvGetNumPlayer s q = 1)) := by
  unfold destroyClientRoom at h
  dsimp only at h
  by_cases hin : s.roomIdx client ≥ 0
  · rw [if_pos hin] at h
    obtain ⟨q, hq⟩ := Int.eq_ofNat_of_zero_le hin
    have hrange := hi.range client
    rcases hfind : findClient (s.room (s.roomIdx client)) client with _ | i
    · simp only [hfind] at h
      cases h
      refine Or.inl ⟨rfl, ?_⟩
      rintro ⟨-, hone, hjoin⟩
      exact findClient_none hfind ⟨0, Int.le_refl _, by omega, hjoin⟩
    · simp only [hfind] at h
      split at h
      · cases h
      · cases h
        obtain ⟨hlt, hic⟩ := findClient_some hfind
        rw [hq] at hlt hic
        refine Or.inr ⟨rfl, q, ?_, ?_, ?_⟩
        · unfold stsvGetNumPlayer
          omega
        · rw [hq]
          exact setRoom_moves _ (by omega) rfl rfl
        · unfold LastMember stsvGetNumPlayer
          rw [hq]
          constructor
          · rintro ⟨-, hone, -⟩
            exact hone
          · intro hone
            obtain rfl : i = 0 := by omega
            exact ⟨by omega, hone, hic⟩
  · rw [if_neg hin] at h
    cases h
    refine Or.inl ⟨rfl, ?_⟩
    rintro ⟨h0, -⟩
    exact hin h0

/-! ## Runs -/

theorem leave_count (hn : nMaxRoom < 2 ^ 31) (hi : CountInv nMaxRoom s) (hs : CountRight nMaxRoom s) {result : Int}
    (h : destroyClientRoom s client = some (s', result)) :
    (CountRight nMaxRoom s' ↔ ¬LastMember s client) ∧ CountInv nMaxRoom s' := by
  rcases destroy_moves hi h with ⟨rfl, hnot⟩ | ⟨hidx, q, hpos, hmoves, hlast⟩
  · exact ⟨iff_of_true hs hnot, hi⟩
  · refine ⟨?_, hmoves.inv hi (by omega) (by rw [hidx]; exact hi.range)⟩
    rw [hmoves.countRight hn (by omega) hs, hlast, if_pos hpos]
    split <;> omega

theorem count_step {e : CountEv κ} (hn : nMaxRoom < 2 ^ 31) (hi : CountInv nMaxRoom s) (hs : CountRight nMaxRoom s)
    (h : countStep nMaxRoom s e = some s') : (CountRight nMaxRoom s' ↔ EmptiesNone s e) ∧ CountInv nMaxRoom s' := by
  -- the operations that put a client into a room
  have hjoins : ∀ e : LobbyEv κ, (∀ c, e ≠ .exitRoom c ∧ e ≠ .disconnect c) → lobbyStep nMaxRoom s e = some s' →
      CountRight nMaxRoom s' ∧ CountInv nMaxRoom s' := by
    intro e hstay he
    rcases lobby_moves hi he hstay with rfl | ⟨hrange, q, d, hmoves, hone⟩
    · exact ⟨hs, hi⟩
    · have hplayers := hi.players q (by omega) (by have := hmoves.inTable; omega)
      refine ⟨(hmoves.countRight hn (by omega) hs).mpr ?_, hmoves.inv hi (by omega) hrange⟩
      rw [if_pos (show 0 < stsvGetNumPlayer s q + 1 by omega)]
      exact hone
  cases e with
  | lobby e =>
    cases e with
    | create client =>
      obtain ⟨hright, hinv⟩ := hjoins (.create client) (fun c => ⟨nofun, nofun⟩) h
      exact ⟨iff_of_true hright trivial, hinv⟩
    | joinRoom client roomID =>
      obtain ⟨hright, hinv⟩ := hjoins (.joinRoom client roomID) (fun c => ⟨nofun, nofun⟩) h
      exact ⟨iff_of_true hright trivial, hinv⟩
    | joinFreeRoom client =>
      obtain ⟨hright, hinv⟩ := hjoins (.joinFreeRoom client) (fun c => ⟨nofun, nofun⟩) h
      exact ⟨iff_of_true hright trivial, hinv⟩
    | exitRoom client =>
      obtain ⟨result, hdestroy⟩ := exitRoom_state h
      exact leave_count hn hi hs hdestroy
    | disconnect client =>
      obtain ⟨⟨t, result⟩, hdestroy, rfl⟩ := Option.map_eq_some_iff.mp h
      exact leave_count hn hi hs hdestroy
  | clear roomID =>
    simp only [countStep] at h
    split at h
    · rename_i hin
      cases h
      obtain ⟨q, rfl⟩ := Int.eq_ofNat_of_zero_le hin.1
      have hplayers := hi.players q hin.1 hin.2
      have hmoves : RoomMoves nMaxRoom s (stsvClearRoom s q) q 0 0 :=
        setRoom_moves (clearRoom (s.room q)) (by omega) rfl rfl
      refine ⟨?_, hmoves.inv hi (Int.le_refl 0) hi.range⟩
      rw [hmoves.countRight hn (by omega) hs]
      show _ ↔ stsvGetNumPlayer s q = 0
      rw [if_neg (Int.lt_irrefl 0)]
      split <;> omega
    · cases h

/-- **The room count** is right all along a run exactly if no step of it empties a room. -/
theorem room_count_iff (hn : nMaxRoom < 2 ^ 31) {rooms : Int → Room κ}
    (hempty : ∀ r : Int, 0 ≤ r → r < nMaxRoom → (rooms r).numClient = 0) {es : List (CountEv κ)}
    (h : run (countStep nMaxRoom) (newRooms rooms) es = some s) :
    RunAll (countStep nMaxRoom) (CountRight nMaxRoom) (newRooms rooms) es ↔
      RunOk (countStep nMaxRoom) EmptiesNone (newRooms rooms) es := by
  have hi : CountInv nMaxRoom (newRooms rooms) := by
    refine ⟨fun r h0 hr => ?_, fun c => ?_⟩
    · show 0 ≤ (rooms r).numClient
      exact Int.le_of_eq (hempty r h0 hr).symm
    · show (-1 : Int) < nMaxRoom
      omega
  have hs : CountRight nMaxRoom (newRooms rooms) := by
    rw [countRight_iff hn]
    have hnone : openRooms nMaxRoom (newRooms rooms) = 0 := by
      unfold openRooms
      rw [List.countP_eq_zero]
      intro r hr
      have hzero : stsvGetNumPlayer (newRooms rooms) r = 0 := hempty r (by omega) (by have := List.mem_range.mp hr; omega)
      simp [hzero]
    rw [hnone]
    rfl
  refine runAll_iff_runOk_of (countStep nMaxRoom) (I := CountInv nMaxRoom) (A := fun _ _ => True) ?_ hi hs
    (runOk_trivial _ _ _) h
  intro s e s' hi hs _ he
  obtain ⟨hiff, hinv⟩ := count_step hn hi hs he
  exact ⟨hiff, fun _ => hinv⟩

/-- Two rooms; one gets a second member, and loses the first. -/
theorem room_count_two : ∃ s, run (countStep 3) (newRooms zeroRooms)
      [.lobby (.create 0), .lobby (.create 1), .lobby (.joinFreeRoom 2), .lobby (.exitRoom 0), .clear 2] = some s ∧
    stsvGetRoomCount s = 2 ∧ RunAll (countStep 3) (CountRight 3) (newRooms zeroRooms)
      [.lobby (.create 0), .lobby (.create 1), .lobby (.joinFreeRoom 2), .lobby (.exitRoom 0), .clear 2] :=
  ⟨_, rfl, by decide +kernel, (room_count_iff (by decide) (fun _ _ _ => rfl) rfl).mpr (by decide +kernel)⟩

/-- **Counted for ever.** One client creates a room and exits, another's is cleared: two rooms are
    counted in a table of one, and none has players. -/
theorem room_count_stays : ∃ s, run (countStep 1) (newRooms zeroRooms)
      [.lobby (.create 0), .lobby (.exitRoom 0), .lobby (.create 1), .clear 0] = some s ∧
    stsvGetRoomCount s = 2 ∧ stsvGetNumPlayer s 0 = 0 ∧ ¬CountRight 1 s := by
  refine ⟨_, rfl, by decide +kernel, by decide +kernel, ?_⟩
  intro h
  have hle := h.le
  revert hle
  decide +kernel

end StarServer.Lobby

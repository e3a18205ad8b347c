/-
  StarServer.Lobby.Create — several clients creating rooms at the same time.

  `STSV_CreateRoom` searches a free room under `s_MutexFreeRoomIdx` and claims it after the
  unlock: the search and the claim are two steps, and those of other callers fall between them.
  A client that has its room may leave it again.

  Proved:
    * `search_claim`: one caller's two steps in a row are the call;
    * `search_inv`, `claim_inv`, `leave_inv`: what each step keeps of `CreationInv`;
    * `creation_exclusive`: each room has one creator, who owns it, all along a run exactly if
      every claim finds its room still free (and the id fits an `s16`);
    * `two_searches_first`: two callers that search before either claims.
-/

import StarServer.Lobby.Rooms

namespace StarServer.Lobby

open Runs

/-- `found` is what a call in progress has found and not claimed, `got` the room a client's
    call returned to it, until it leaves. -/
structure Creation (κ : Type) where
  rooms : Rooms κ
  found : κ → Option Nat
  got : κ → Option Nat

inductive CreationEv (κ : Type) where
  | search (client : κ)
  | claim (client : κ)
  | leave (client : κ)
  deriving Repr

variable {κ : Type} [DecidableEq κ] (nMaxRoom : Nat)

/-- A call that finds no room, or whose client has one, returns without a claim. -/
def creationStep (s : Creation κ) : CreationEv κ → Option (Creation κ)
  | .search client =>
    if s.found client = none then
      if s.rooms.roomIdx client ≥ 0 then some s
      else some { s with found := Function.update s.found client (findFreeIdxRoom nMaxRoom s.rooms) }
    else none
  | .claim client =>
    match s.found client with
    | none => none
    | some roomFound =>
      some {
        rooms := claimRoom s.rooms client roomFound
        found := Function.update s.found client none
        got := Function.update s.got client (some roomFound) }
  | .leave client =>
    if s.found client = none then
      (stsvExitRoom s.rooms client).map fun p => { s with rooms := p.1, got := Function.update s.got client none }
    else none

def newCreation (rooms : Int → Room κ) : Creation κ where
  rooms := newRooms rooms
  found := fun _ => none
  got := fun _ => none

/-- No two clients have got one room, and each owns the room it got. -/
structure Exclusive (s : Creation κ) : Prop where
  distinct : ∀ c d r, s.got c = some r → s.got d = some r → c = d
  owner : ∀ c (r : Nat), s.got c = some r → s.rooms.roomIdx c = r ∧ stsvRoomOwner s.rooms c = true

/-- A claim finds its room still free. -/
def ClaimsFree (s : Creation κ) : CreationEv κ → Prop
  | .claim client => (s.found client).all (fun r : Nat => decide ((s.rooms.room r).numClient = 0 ∧ r < 2 ^ 15)) = true
  | _ => True

instance decidableClaimsFree (s : Creation κ) (e : CreationEv κ) : Decidable (ClaimsFree s e) :=
  match e with
  | .claim _ => inferInstanceAs (Decidable (_ = true))
  | .search _ | .leave _ => inferInstanceAs (Decidable True)

variable {nMaxRoom} {s s' : Creation κ} {client : κ}

theorem search_claim (hidle : s.found client = none) (hfree : s.rooms.roomIdx client < 0) {r : Nat}
    (hfind : findFreeIdxRoom nMaxRoom s.rooms = some r) :
    ∃ t, run (creationStep nMaxRoom) s [.search client, .claim client] = some t ∧
      t.rooms = (stsvCreateRoom nMaxRoom s.rooms client).1 ∧ t.found = s.found ∧ t.got client = some r := by
  have hin : ¬s.rooms.roomIdx client ≥ 0 := by omega
  have hcreate : (stsvCreateRoom nMaxRoom s.rooms client).1 = claimRoom s.rooms client r := by
    simp [stsvCreateRoom, hin, hfind]
  refine ⟨⟨claimRoom s.rooms client r, s.found, Function.update s.got client (some r)⟩, ?_, hcreate.symm, rfl, by simp⟩
  have hback : Function.update s.found client none = s.found := by
    rw [← hidle, Function.update_eq_self]
  simp [run, creationStep, hidle, hin, hfind, hback]

/-! ## What holds while rooms are exclusive -/

structure CreationInv (nMaxRoom : Nat) (s : Creation κ) : Prop where
  got : ∀ c r, s.got c = some r → r < nMaxRoom ∧ s.rooms.roomIdx c = r ∧ (s.rooms.room r).numClient = 1 ∧
    (s.rooms.room r).joinRoom 0 = some c ∧ (s.rooms.room r).mutexRoom = false
  free : ∀ r < nMaxRoom, (s.rooms.room r).numClient = 0 ∨ ∃ c, s.got c = some r
  found : ∀ c r, s.found c = some r → r < nMaxRoom ∧ s.rooms.roomIdx c < 0
  range : ∀ c, s.rooms.roomIdx c < nMaxRoom

theorem CreationInv.exclusive (hi : CreationInv nMaxRoom s) : Exclusive s := by
  refine ⟨?_, ?_⟩
  · intro c d r hc hd
    have hjc := (hi.got c r hc).2.2.2.1
    have hjd := (hi.got d r hd).2.2.2.1
    exact Option.some.inj (hjc.symm.trans hjd)
  · intro c r hc
    obtain ⟨-, hidx, -, hjoin, -⟩ := hi.got c r hc
    refine ⟨hidx, ?_⟩
    unfold stsvRoomOwner
    rw [hidx, if_neg (by omega), hjoin]
    simp

omit [DecidableEq κ] in
/-- Nobody who is in a call has a room. -/
theorem CreationInv.idle (hi : CreationInv nMaxRoom s) {r : Nat} (hfound : s.found client = some r) :
    s.got client = none := by
  rcases hgot : s.got client with _ | q
  · rfl
  · have := (hi.got client q hgot).2.1
    have := (hi.found client r hfound).2
    omega

theorem search_inv (hi : CreationInv nMaxRoom s) (h : creationStep nMaxRoom s (.search client) = some s') :
    CreationInv nMaxRoom s' := by
  simp only [creationStep] at h
  split at h
  · split at h
    · cases h
      exact hi
    · cases h
      refine ⟨hi.got, hi.free, ?_, hi.range⟩
      intro c r hc
      dsimp only at hc ⊢
      by_cases hcc : c = client
      · subst hcc
        rw [Function.update_self] at hc
        exact ⟨(findFree_some hc).1, by omega⟩
      · rw [Function.update_of_ne hcc] at hc
        exact hi.found c r hc
  · cases h

/-- The claim of a room that is free. -/
theorem claim_inv (hi : CreationInv nMaxRoom s) {r : Nat} (hfound : s.found client = some r)
    (hzero : (s.rooms.room r).numClient = 0) (hsmall : r < 2 ^ 15) :
    CreationInv nMaxRoom
      ⟨claimRoom s.rooms client r, Function.update s.found client none, Function.update s.got client (some r)⟩ := by
  obtain ⟨hr, hfree⟩ := hi.found client r hfound
  have hs16 : toS16 (r : Int) = r := toS16_of_small (by omega) (by omega)
  have hidx : (claimRoom s.rooms client r).roomIdx = Function.update s.rooms.roomIdx client (r : Int) := by
    show Function.update s.rooms.roomIdx client (toS16 r) = _
    rw [hs16]
  have hother : ∀ q : Nat, q ≠ r → (claimRoom s.rooms client r).room q = s.rooms.room q := by
    intro q hq
    exact setRoom_other s.rooms _ (by omega)
  refine ⟨?_, ?_, ?_, ?_⟩
  · intro c q hc
    dsimp only at hc ⊢
    rw [hidx]
    by_cases hcc : c = client
    · subst hcc
      rw [Function.update_self] at hc ⊢
      obtain rfl := Option.some.inj hc
      exact ⟨hr, rfl, by simp [claimRoom, setRoom], by simp [claimRoom, setRoom], by simp [claimRoom, setRoom, clearRoom]⟩
    · rw [Function.update_of_ne hcc] at hc ⊢
      have hgot := hi.got c q hc
      have hqr : q ≠ r := by
        rintro rfl
        have := hgot.2.2.1
        omega
      rw [hother q hqr]
      exact hgot
  · intro q hq
    dsimp only
    by_cases hqr : q = r
    · exact Or.inr ⟨client, by rw [Function.update_self, hqr]⟩
    · rw [hother q hqr]
      rcases hi.free q hq with hz | ⟨c, hc⟩
      · exact Or.inl hz
      · refine Or.inr ⟨c, ?_⟩
        have hcc : c ≠ client := by
          rintro rfl
          rw [hi.idle hfound] at hc
          cases hc
        rw [Function.update_of_ne hcc, hc]
  · intro c q hc
    dsimp only at hc ⊢
    have hcc : c ≠ client := by
      rintro rfl
      simp at hc
    rw [Function.update_of_ne hcc] at hc
    rw [hidx, Function.update_of_ne hcc]
    exact hi.found c q hc
  · intro c
    dsimp only
    rw [hidx]
    by_cases hcc : c = client
    · subst hcc
      rw [Function.update_self]
      omega
    · rw [Function.update_of_ne hcc]
      exact hi.range c

/-- A claim takes the room from whoever got it meanwhile, and from its own client if the id does
    not fit. -/
theorem claim_exclusive (hi : CreationInv nMaxRoom s) (h : creationStep nMaxRoom s (.claim client) = some s') :
    (Exclusive s' ↔ ClaimsFree s (.claim client)) ∧ (ClaimsFree s (.claim client) → CreationInv nMaxRoom s') := by
  simp only [creationStep] at h
  split at h
  · cases h
  · rename_i r hfound
    cases h
    have hclaims : ClaimsFree s (.claim client) ↔ (s.rooms.room r).numClient = 0 ∧ r < 2 ^ 15 := by
      simp [ClaimsFree, hfound]
    have hkeep : ClaimsFree s (.claim client) → CreationInv nMaxRoom
        ⟨claimRoom s.rooms client r, Function.update s.found client none, Function.update s.got client (some r)⟩ := by
      intro hfree
      obtain ⟨hzero, hsmall⟩ := hclaims.mp hfree
      exact claim_inv hi hfound hzero hsmall
    refine ⟨⟨fun hex => hclaims.mpr ⟨?_, ?_⟩, fun hfree => (hkeep hfree).exclusive⟩, hkeep⟩
    · rcases hi.free r (hi.found client r hfound).1 with hz | ⟨d, hd⟩
      · exact hz
      · have hne : d ≠ client := by
          rintro rfl
          rw [hi.idle hfound] at hd
          cases hd
        refine absurd (hex.distinct d client r ?_ (Function.update_self ..)) hne
        exact (Function.update_of_ne hne ..).trans hd
    · have hidx : (claimRoom s.rooms client r).roomIdx client = (r : Int) :=
        (hex.owner client r (Function.update_self ..)).1
      have hs16 : (claimRoom s.rooms client r).roomIdx client = toS16 r := by simp [claimRoom]
      have := toS16_lt r
      omega

/-- What `DestroyClientRoom` does to a client that has its room, and to any other. -/
theorem destroy_creation (hi : CreationInv nMaxRoom s) {t : Rooms κ} {result : Int}
    (h : destroyClientRoom s.rooms client = some (t, result)) :
    (s.got client = none ∧ t = s.rooms) ∨ ∃ r : Nat, s.got client = some r ∧ (t.room r).numClient = 0 ∧
      (∀ q : Nat, q ≠ r → t.room q = s.rooms.room q) ∧ t.roomIdx = s.rooms.roomIdx := by
  unfold destroyClientRoom at h
  dsimp only at h
  rcases hgot : s.got client with _ | r
  · refine Or.inl ⟨rfl, ?_⟩
    split at h
    · rename_i hin
      -- the room its stale `roomIdx` names lists somebody else or nobody
      obtain ⟨q, hq⟩ := Int.eq_ofNat_of_zero_le hin
      rw [hq] at h
      have hqn : q < nMaxRoom := by
        have := hi.range client
        omega
      split at h
      · rename_i i hfind
        obtain ⟨hlt, hic⟩ := findClient_some hfind
        rcases hi.free q hqn with hz | ⟨d, hd⟩
        · omega
        · obtain ⟨-, -, hone, hjoin, -⟩ := hi.got d q hd
          obtain rfl : i = 0 := by omega
          have hdc : d = client := Option.some.inj (hjoin.symm.trans hic)
          rw [hdc, hgot] at hd
          cases hd
      · cases h
        rfl
    · cases h
      rfl
  · obtain ⟨hr, hidx, hone, hjoin, hmutex⟩ := hi.got client r hgot
    refine Or.inr ⟨r, rfl, ?_⟩
    rw [hidx, if_pos (by omega)] at h
    have hfind : findClient (s.rooms.room r) client = some 0 := by
      simp [findClient, hone, hjoin]
    simp only [hfind, hmutex] at h
    cases h
    refine ⟨?_, fun q hq => setRoom_other s.rooms _ (by omega), rfl⟩
    rw [setRoom_same]
    show (s.rooms.room r).numClient - 1 = 0
    omega

/-- A client that leaves frees the room it got, and no other. -/
theorem leave_inv (hi : CreationInv nMaxRoom s) (h : creationStep nMaxRoom s (.leave client) = some s') :
    CreationInv nMaxRoom s' := by
  simp only [creationStep] at h
  split at h
  · obtain ⟨⟨t, left⟩, hexit, rfl⟩ := Option.map_eq_some_iff.mp h
    obtain ⟨result, hdestroy⟩ := exitRoom_state (Option.map_eq_some_iff.mpr ⟨_, hexit, rfl⟩)
    rcases destroy_creation hi hdestroy with ⟨hgot, rfl⟩ | ⟨r, hgot, hzero, hother, hidx⟩
    · rw [← hgot, Function.update_eq_self]
      exact hi
    · refine ⟨?_, ?_, ?_, ?_⟩
      · intro c q hc
        dsimp only at hc ⊢
        have hcc : c ≠ client := by
          rintro rfl
          simp at hc
        rw [Function.update_of_ne hcc] at hc
        have hqr : q ≠ r := by
          rintro rfl
          exact hcc (hi.exclusive.distinct c client q hc hgot)
        rw [hother q hqr, hidx]
        exact hi.got c q hc
      · intro q hq
        dsimp only
        by_cases hqr : q = r
        · rw [hqr]
          exact Or.inl hzero
        · rw [hother q hqr]
          rcases hi.free q hq with hz | ⟨c, hc⟩
          · exact Or.inl hz
          · refine Or.inr ⟨c, ?_⟩
            have hcc : c ≠ client := by
              rintro rfl
              rw [hgot] at hc
              exact hqr (Option.some.inj hc).symm
            rw [Function.update_of_ne hcc, hc]
      · intro c q hc
        dsimp only
        rw [hidx]
        exact hi.found c q hc
      · intro c
        dsimp only
        rw [hidx]
        exact hi.range c
  · cases h

/-! ## Runs of creations -/

theorem creation_step {e : CreationEv κ} (hi : CreationInv nMaxRoom s) (h : creationStep nMaxRoom s e = some s') :
    (Exclusive s' ↔ ClaimsFree s e) ∧ (ClaimsFree s e → CreationInv nMaxRoom s') := by
  cases e with
  | search client =>
    have hi' := search_inv hi h
    exact ⟨iff_of_true hi'.exclusive trivial, fun _ => hi'⟩
  | claim client => exact claim_exclusive hi h
  | leave client =>
    have hi' := leave_inv hi h
    exact ⟨iff_of_true hi'.exclusive trivial, fun _ => hi'⟩

omit [DecidableEq κ] in
theorem newCreation_inv {rooms : Int → Room κ} (hempty : ∀ r < nMaxRoom, (rooms r).numClient = 0) :
    CreationInv nMaxRoom (newCreation rooms) := by
  refine ⟨?_, fun r hr => Or.inl (hempty r hr), ?_, ?_⟩
  · intro c r hc
    cases hc
  · intro c r hc
    cases hc
  · intro c
    show (-1 : Int) < nMaxRoom
    omega

theorem creation_exclusive {rooms : Int → Room κ} (hempty : ∀ r < nMaxRoom, (rooms r).numClient = 0)
    {es : List (CreationEv κ)} (h : run (creationStep nMaxRoom) (newCreation rooms) es = some s) :
    RunAll (creationStep nMaxRoom) Exclusive (newCreation rooms) es ↔
      RunOk (creationStep nMaxRoom) ClaimsFree (newCreation rooms) es := by
  have hstart := newCreation_inv hempty
  refine runAll_iff_runOk_of (creationStep nMaxRoom) (I := CreationInv nMaxRoom) (A := fun _ _ => True) ?_ hstart
    hstart.exclusive (runOk_trivial _ _ _) h
  intro s e s' hi _ _ he
  obtain ⟨hiff, hkeep⟩ := creation_step hi he
  exact ⟨hiff, fun hp => hkeep (hiff.mp hp)⟩

/-- One after the other, and the room of one that has left is found again. -/
theorem creation_in_turn : ∃ s,
    run (creationStep 2) (newCreation zeroRooms) [.search 0, .claim 0, .search 1, .claim 1, .leave 0, .search 2, .claim 2] =
        some s ∧
      RunAll (creationStep 2) Exclusive (newCreation zeroRooms)
        [.search 0, .claim 0, .search 1, .claim 1, .leave 0, .search 2, .claim 2] :=
  ⟨_, rfl, (creation_exclusive (fun _ _ => rfl) rfl).mpr (by decide +kernel)⟩

/-- Both find room 0; the second claim takes it from the first caller. -/
theorem two_searches_first : ∃ s,
    run (creationStep 2) (newCreation zeroRooms) [.search 0, .search 1, .claim 0, .claim 1] = some s ∧
      s.got 0 = some 0 ∧ s.got 1 = some 0 ∧ stsvRoomOwner s.rooms 0 = false ∧ stsvRoomOwner s.rooms 1 = true :=
  ⟨_, rfl, by decide +kernel, by decide +kernel, by decide +kernel, by decide +kernel⟩

end StarServer.Lobby

/-
  StarServer.Socket.BigPool — the big-data blocks that all the slots share.

  `STSV_GetBigData` marks a block used, points the slot's `bigDataBuffer` at it, and only then
  opens the temp file; `STSV_FreeBigData` gives back the block that `bigDataBuffer` points at.
  Nothing else gives one back: not a get that fails, nor a second get, nor the end of a
  connection, and the next one in the slot starts with what the pointer was.

  `held` is the pointer a connection has: what its last get returned, until it frees it.

  Proved:
    * `get_cases`: what a get does to the pool;
    * `get_owned`, `free_owned`, `disconnect_owned`: when each step keeps `Owned`, that a block
      is in use exactly while one live connection has its pointer;
    * `get_null_keeps_pool`, `disconnect_gives_back`: what `Owned` says of a get that returns
      NULL and of a disconnect;
    * `pool_owned`: it holds all along a run exactly if no get fails to open the file or comes
      on top of another or on a dead slot, and no connection ends with a block;
    * `lost_block`: the one block as shipped, lost with the connection that had it.
-/

import Mathlib.Logic.Function.Basic
import StarServer.Socket.Session

namespace StarServer.Socket

open StarServer.Memory StarServer.Runs

/-! ## The slots and their pool -/

structure Slots where
  client : Nat → Client
  /-- The connection's thread has not ended. -/
  live : Nat → Bool
  held : Nat → Option Nat
  fs : FS
  pool : List BigDataBlock

/-- Slot `idx` with what the slots share. -/
def Slots.conn (s : Slots) (idx : Nat) : Conn := ⟨s.client idx, ⟨[], [], [], []⟩, s.fs, s.pool, []⟩

/-- `STSV_GetBigData (idx)`. -/
def getBig (env : Env) (s : Slots) (idx : Nat) : Reply × Slots :=
  let r := stsvGetBigData env (s.conn idx)
  (r.1, { s with
    client := Function.update s.client idx r.2.client
    pool := r.2.pool
    held := if r.1 = .null then s.held else Function.update s.held idx r.2.client.bigDataBuffer })

/-- `STSV_FreeBigData (idx)`. -/
def freeBig (s : Slots) (idx : Nat) : Slots :=
  let r := stsvFreeBigData (s.conn idx)
  { s with
    client := Function.update s.client idx r.client
    pool := r.pool
    held := Function.update s.held idx none }

/-- The slot is given to a connection; a call on any slot; an upload to a connection starts, or
    is complete (`bigDataReady`); the connection's thread ends. -/
inductive SlotsEv where
  | accept (idx : Nat)
  | get (env : Env) (idx : Nat)
  | free (idx : Nat)
  | upload (idx : Nat) (bigDataReady : Bool) (bigDataReadSize : BitVec 32) (fs : FS)
  | disconnect (idx : Nat)

def slotsStep (s : Slots) : SlotsEv → Option Slots
  | .accept idx =>
    if s.live idx then none
    else
      some { s with
        client := Function.update s.client idx (startThread (acceptClient (BitVec.ofNat 16 idx) (s.client idx)))
        live := Function.update s.live idx true }
  | .get env idx => some (getBig env s idx).2
  | .free idx => some (freeBig s idx)
  | .upload idx bigDataReady bigDataReadSize fs =>
    if s.live idx then
      some { s with
        client := Function.update s.client idx
          { s.client idx with bigDataReady := bigDataReady, bigDataReadSize := bigDataReadSize }
        fs := fs }
    else none
  | .disconnect idx =>
    if s.live idx then
      some { s with
        client := Function.update s.client idx { s.client idx with online := false }
        live := Function.update s.live idx false
        held := Function.update s.held idx none }
    else none

/-- The slots before any connection, and a pool with a block for each buffer. -/
def newSlots (recvMem sendMem : Nat → Nat → Byte) (fs : FS) (buffers : List Buf) : Slots where
  client := fun idx => Client.zero (recvMem idx) (sendMem idx)
  live := fun _ => false
  held := fun _ => none
  fs := fs
  pool := buffers.map fun b => ⟨false, b⟩

/-- `s_BigDataUse[i]`. -/
def inUse (pool : List BigDataBlock) (i : Nat) : Bool := (pool[i]?).any (·.use)

/-- A block is in use exactly while one live connection has its pointer. -/
structure Owned (s : Slots) : Prop where
  used : ∀ i < s.pool.length, inUse s.pool i = true ↔ ∃ idx, s.live idx = true ∧ s.held idx = some i
  one : ∀ idx idx' i, s.live idx = true → s.held idx = some i → s.live idx' = true → s.held idx' = some i → idx = idx'

/-- The slot's pointer is the connection's, and only a live connection has one. -/
structure HeldInv (s : Slots) : Prop where
  pointer : ∀ idx, (s.client idx).bigDataBuffer = s.held idx
  live : ∀ idx i, s.held idx = some i → s.live idx = true ∧ i < s.pool.length

/-- A get that finds a block opens its file, for a live connection without a block; and no
    connection ends with one. -/
def GivesBack (s : Slots) : SlotsEv → Prop
  | .get env idx =>
    (s.client idx).bigDataReady = false ∨ getBigDataBufferIdx s.pool = none ∨
      ((fopenRead env s.fs (bigDataPath (s.client idx).idx.toNat)).isSome = true ∧ s.live idx = true ∧
        (s.client idx).bigDataBuffer = none)
  | .disconnect idx => (s.client idx).bigDataBuffer = none
  | _ => True

instance decidableGivesBack (s : Slots) (e : SlotsEv) : Decidable (GivesBack s e) :=
  match e with
  | .get _ _ => inferInstanceAs (Decidable (_ ∨ _ ∨ _ ∧ _ ∧ _))
  | .disconnect _ => inferInstanceAs (Decidable (_ = none))
  | .accept _ | .free _ | .upload _ _ _ _ => inferInstanceAs (Decidable True)

/-! ## The pool -/

theorem inUse_setUse (pool : List BigDataBlock) (i j : Nat) (b : Bool) (h : i < pool.length) :
    inUse (setUse pool i b) j = if j = i then b else inUse pool j := by
  unfold inUse setUse
  rw [List.getElem?_modify]
  by_cases hij : j = i
  · subst hij
    rw [List.getElem?_eq_getElem h]
    simp
  · simp [hij, Ne.symm hij]

theorem inUse_modify (pool : List BigDataBlock) (i j : Nat) (f : BigDataBlock → BigDataBlock) (hf : ∀ b, (f b).use = b.use) :
    inUse (pool.modify i f) j = inUse pool j := by
  unfold inUse
  rw [List.getElem?_modify]
  rcases pool[j]? with _ | b
  · rfl
  · by_cases hij : i = j <;> simp [hij, hf]

theorem bufferIdx_some {pool : List BigDataBlock} {i : Nat} (h : getBigDataBufferIdx pool = some i) :
    i < pool.length ∧ inUse pool i = false := by
  unfold getBigDataBufferIdx at h
  obtain ⟨hi, hfree, -⟩ := List.findIdx?_eq_some_iff_getElem.mp h
  refine ⟨hi, ?_⟩
  unfold inUse
  rw [List.getElem?_eq_getElem hi]
  simpa using hfree

variable {s s' : Slots} {idx : Nat} {env : Env}

/-- A get does nothing, or takes block `i` for the slot, whatever it returns. -/
theorem get_cases (env : Env) (s : Slots) (idx : Nat) :
    ((getBig env s idx).1 = .null ∧ (getBig env s idx).2 = s ∧
        ((s.client idx).bigDataReady = false ∨ getBigDataBufferIdx s.pool = none)) ∨
      ∃ i, (s.client idx).bigDataReady = true ∧ getBigDataBufferIdx s.pool = some i ∧
        (∀ j, inUse (getBig env s idx).2.pool j = if j = i then true else inUse s.pool j) ∧
        (getBig env s idx).2.pool.length = s.pool.length ∧ (getBig env s idx).2.live = s.live ∧
        (getBig env s idx).2.client = Function.update s.client idx { s.client idx with bigDataBuffer := some i } ∧
        (getBig env s idx).2.held =
          if (fopenRead env s.fs (bigDataPath (s.client idx).idx.toNat)).isSome then
            Function.update s.held idx (some i)
          else s.held := by
  have hconn : (s.conn idx).client = s.client idx ∧ (s.conn idx).pool = s.pool ∧ (s.conn idx).fs = s.fs := ⟨rfl, rfl, rfl⟩
  by_cases hready : (s.client idx).bigDataReady = false
  · left
    have hget : stsvGetBigData env (s.conn idx) = (.null, s.conn idx) := by
      simp [stsvGetBigData, hconn, hready]
    simp [getBig, hget, hconn, hready]
  · rcases hfind : getBigDataBufferIdx s.pool with _ | i
    · left
      have hget : stsvGetBigData env (s.conn idx) = (.null, s.conn idx) := by
        simp [stsvGetBigData, hconn, hready, hfind]
      simp [getBig, hget, hconn]
    · right
      obtain ⟨hi, -⟩ := bufferIdx_some hfind
      refine ⟨i, by simpa using hready, rfl, ?_⟩
      rcases hopen : fopenRead env s.fs (bigDataPath (s.client idx).idx.toNat) with _ | file
      · have hget : stsvGetBigData env (s.conn idx) =
            (.null, { s.conn idx with
              client := { s.client idx with bigDataBuffer := some i }, pool := setUse s.pool i true }) := by
          simp [stsvGetBigData, hconn, hready, hfind, hopen]
        simp only [getBig, hget]
        exact ⟨fun j => inUse_setUse s.pool i j true hi, by simp [setUse], trivial, trivial, rfl⟩
      · have hget : ∃ l, stsvGetBigData env (s.conn idx) =
            (.data l, { s.conn idx with
              client := { s.client idx with bigDataBuffer := some i }
              pool := (setUse s.pool i true).modify i fun p =>
                { p with buffer := p.buffer.store 0 (freadAt file 0 (s.client idx).bigDataReadSize.toNat) } }) := by
          simp only [stsvGetBigData, hconn, hready, hfind, hopen]
          exact ⟨_, rfl⟩
        obtain ⟨l, hget⟩ := hget
        simp only [getBig, hget]
        refine ⟨fun j => ?_, ?_, trivial, trivial, by simp⟩
        · rw [inUse_modify]
          · exact inUse_setUse s.pool i j true hi
          · intro b
            rfl
        · simp [setUse]

/-! ## Who has which block -/

/-- Where nobody is given a block or loses one, the same blocks are in use. -/
theorem Owned.same (h : Owned s) (hpool : s'.pool = s.pool)
    (hheld : ∀ idx i, s'.live idx = true ∧ s'.held idx = some i ↔ s.live idx = true ∧ s.held idx = some i) : Owned s' := by
  refine ⟨?_, ?_⟩
  · intro i hi
    rw [hpool] at hi ⊢
    rw [h.used i hi]
    exact exists_congr fun idx => (hheld idx i).symm
  · intro idx idx' i hl hh hl' hh'
    obtain ⟨hl, hh⟩ := (hheld idx i).mp ⟨hl, hh⟩
    obtain ⟨hl', hh'⟩ := (hheld idx' i).mp ⟨hl', hh'⟩
    exact h.one idx idx' i hl hh hl' hh'

/-- Who has a block after one slot's pointer has changed. -/
theorem update_held {held : Nat → Option Nat} {v : Option Nat} {k i : Nat} :
    Function.update held idx v k = some i ↔ (k = idx ∧ v = some i) ∨ (k ≠ idx ∧ held k = some i) := by
  by_cases hk : k = idx
  · subst hk
    rw [Function.update_self]
    simp
  · rw [Function.update_of_ne hk]
    simp [hk]

/-- A free block goes to a live connection that has none. -/
theorem Owned.taken (h : Owned s) {i : Nat} (hnobody : ¬∃ idx, s.live idx = true ∧ s.held idx = some i) (hl : s.live idx = true)
    (hnone : s.held idx = none) (hlen : s'.pool.length = s.pool.length)
    (huse : ∀ j, inUse s'.pool j = if j = i then true else inUse s.pool j) (hlive : s'.live = s.live)
    (hheld : s'.held = Function.update s.held idx (some i)) : Owned s' := by
  refine ⟨?_, ?_⟩
  · intro j hj
    rw [huse, hlive, hheld]
    by_cases hji : j = i
    · rw [if_pos hji]
      exact iff_of_true rfl ⟨idx, hl, by rw [Function.update_self, hji]⟩
    · rw [if_neg hji, h.used j (by omega)]
      refine exists_congr fun k => and_congr_right fun _ => ?_
      rw [update_held]
      constructor
      · intro hk
        refine Or.inr ⟨?_, hk⟩
        rintro rfl
        rw [hnone] at hk
        cases hk
      · rintro (⟨-, hj⟩ | ⟨-, hk⟩)
        · exact absurd (Option.some.inj hj).symm hji
        · exact hk
  · intro k k' j hlk hhk hlk' hhk'
    rw [hlive] at hlk hlk'
    rw [hheld, update_held] at hhk hhk'
    rcases hhk with ⟨hk, hj⟩ | ⟨-, hhk⟩
    · rcases hhk' with ⟨hk', -⟩ | ⟨-, hhk'⟩
      · rw [hk, hk']
      · rw [← hj] at hhk'
        exact absurd ⟨k', hlk', hhk'⟩ hnobody
    · rcases hhk' with ⟨-, hj⟩ | ⟨-, hhk'⟩
      · rw [← hj] at hhk
        exact absurd ⟨k, hlk, hhk⟩ hnobody
      · exact h.one k k' j hlk hhk hlk' hhk'

/-- A live connection loses its block, which is free again. -/
theorem Owned.returned (h : Owned s) {i : Nat} (hl : s.live idx = true) (hhad : s.held idx = some i)
    (hlen : s'.pool.length = s.pool.length) (huse : ∀ j, inUse s'.pool j = if j = i then false else inUse s.pool j)
    (hlive : s'.live = s.live) (hheld : s'.held = Function.update s.held idx none) : Owned s' := by
  refine ⟨?_, ?_⟩
  · intro j hj
    rw [huse, hlive, hheld]
    by_cases hji : j = i
    · rw [if_pos hji]
      refine iff_of_false (by simp) ?_
      rintro ⟨k, hlk, hhk⟩
      rcases update_held.mp hhk with ⟨-, hbad⟩ | ⟨hk, hhk⟩
      · cases hbad
      · rw [hji] at hhk
        exact hk (h.one k idx i hlk hhk hl hhad)
    · rw [if_neg hji, h.used j (by omega)]
      refine exists_congr fun k => and_congr_right fun _ => ?_
      rw [update_held]
      constructor
      · intro hk
        refine Or.inr ⟨?_, hk⟩
        rintro rfl
        rw [hhad] at hk
        exact hji (Option.some.inj hk).symm
      · rintro (⟨-, hbad⟩ | ⟨-, hk⟩)
        · cases hbad
        · exact hk
  · intro k k' j hlk hhk hlk' hhk'
    rw [hlive] at hlk hlk'
    rw [hheld, update_held] at hhk hhk'
    rcases hhk with ⟨-, hbad⟩ | ⟨-, hhk⟩
    · cases hbad
    · rcases hhk' with ⟨-, hbad⟩ | ⟨-, hhk'⟩
      · cases hbad
      · exact h.one k k' j hlk hhk hlk' hhk'

/-- A change to one slot, and with its pointer to what its connection has. -/
theorem HeldInv.moved (hi : HeldInv s) {c : Client} {v : Option Nat} (hbuffer : c.bigDataBuffer = v)
    (hclient : s'.client = Function.update s.client idx c) (hheld : s'.held = Function.update s.held idx v)
    (hlive : ∀ k i, s'.held k = some i → s'.live k = true ∧ i < s'.pool.length) : HeldInv s' := by
  refine ⟨?_, hlive⟩
  intro k
  rw [hclient, hheld]
  by_cases hk : k = idx
  · rw [hk, Function.update_self, Function.update_self, hbuffer]
  · rw [Function.update_of_ne hk, Function.update_of_ne hk]
    exact hi.pointer k

/-- A change to one slot that leaves its pointer, and the blocks everybody has. -/
theorem HeldInv.same (hi : HeldInv s) {c : Client} (hbuffer : c.bigDataBuffer = (s.client idx).bigDataBuffer)
    (hclient : s'.client = Function.update s.client idx c) (hheld : s'.held = s.held)
    (hlive : ∀ k i, s.held k = some i → s'.live k = true) (hpool : s'.pool = s.pool) : HeldInv s' := by
  refine hi.moved (v := s.held idx) (hbuffer.trans (hi.pointer idx)) hclient (by rw [hheld, Function.update_eq_self]) ?_
  intro k i hh
  rw [hheld] at hh
  rw [hpool]
  exact ⟨hlive k i hh, (hi.live k i hh).2⟩

/-! ## Gets and frees -/

/-- After a get that took block `i` and left every block with its holder, the file was open, and
    the slot's connection live and without a block. -/
theorem taken_needs (hi : HeldInv s) (h : Owned s) {i : Nat} (hilt : i < s.pool.length)
    (hnobody : ¬∃ idx, s.live idx = true ∧ s.held idx = some i) (hlen : s'.pool.length = s.pool.length)
    (huse : ∀ j, inUse s'.pool j = if j = i then true else inUse s.pool j) (hlive : s'.live = s.live) {opened : Bool}
    (hheld : s'.held = if opened = true then Function.update s.held idx (some i) else s.held) (h' : Owned s') :
    opened = true ∧ s.live idx = true ∧ s.held idx = none := by
  -- the block in use has somebody, who can only be this slot
  obtain ⟨idx', hl', hh'⟩ := (h'.used i (by omega)).mp (by simp [huse])
  rw [hlive] at hl'
  cases opened with
  | false =>
    rw [hheld] at hh'
    exact absurd ⟨idx', hl', hh'⟩ hnobody
  | true =>
    rw [hheld, if_pos rfl, update_held] at hh'
    rcases hh' with ⟨hidx, -⟩ | ⟨-, hh'⟩
    · refine ⟨rfl, hidx ▸ hl', ?_⟩
      rcases hhad : s.held idx with _ | j
      · rfl
      · -- the block it had before is in use and has nobody
        obtain ⟨hlj, hjlt⟩ := hi.live idx j hhad
        have hji : j ≠ i := by
          rintro rfl
          exact hnobody ⟨idx, hlj, hhad⟩
        have hused : inUse s'.pool j = true := by
          rw [huse, if_neg hji]
          exact (h.used j hjlt).mpr ⟨idx, hlj, hhad⟩
        obtain ⟨k, hlk, hhk⟩ := (h'.used j (by omega)).mp hused
        rw [hlive] at hlk
        rw [hheld, if_pos rfl, update_held] at hhk
        rcases hhk with ⟨-, hbad⟩ | ⟨hk, hhk⟩
        · exact absurd (Option.some.inj hbad).symm hji
        · exact absurd (h.one k idx j hlk hhk hlj hhad) hk
    · exact absurd ⟨idx', hl', hh'⟩ hnobody

/-- A free block is taken for the live connection that has none. -/
theorem get_owned (hi : HeldInv s) (h : Owned s) :
    (Owned (getBig env s idx).2 ↔ GivesBack s (.get env idx)) ∧
      (GivesBack s (.get env idx) → HeldInv (getBig env s idx).2) := by
  rcases get_cases env s idx with ⟨-, hsame, hnone⟩ | ⟨i, hready, hfind, huse, hlen, hlive, hclient, hheld⟩
  · rw [hsame]
    have hok : GivesBack s (.get env idx) := by
      rcases hnone with hnone | hnone
      · exact Or.inl hnone
      · exact Or.inr (Or.inl hnone)
    exact ⟨iff_of_true h hok, fun _ => hi⟩
  · obtain ⟨hilt, hfree⟩ := bufferIdx_some hfind
    have hnobody : ¬∃ idx, s.live idx = true ∧ s.held idx = some i := by
      rw [← h.used i hilt, hfree]
      simp
    have hok : GivesBack s (.get env idx) ↔
        (fopenRead env s.fs (bigDataPath (s.client idx).idx.toNat)).isSome = true ∧ s.live idx = true ∧ s.held idx = none := by
      simp [GivesBack, hready, hfind, hi.pointer]
    rw [hok]
    refine ⟨⟨taken_needs hi h hilt hnobody hlen huse hlive hheld, ?_⟩, ?_⟩
    · rintro ⟨hopen, hl, hnone⟩
      rw [if_pos hopen] at hheld
      exact h.taken hnobody hl hnone hlen huse hlive hheld
    · rintro ⟨hopen, hl, -⟩
      rw [if_pos hopen] at hheld
      refine hi.moved rfl hclient hheld fun k j hh => ?_
      rw [hlive, hlen]
      rw [hheld, update_held] at hh
      rcases hh with ⟨rfl, hij⟩ | ⟨-, hh⟩
      · exact ⟨hl, Option.some.inj hij ▸ hilt⟩
      · exact hi.live k j hh

/-- A free gives back the block of the connection's pointer. -/
theorem free_owned (hi : HeldInv s) (h : Owned s) : Owned (freeBig s idx) ∧ HeldInv (freeBig s idx) := by
  have hlen : (freeBig s idx).pool.length = s.pool.length := by
    show (stsvFreeBigData (s.conn idx)).pool.length = _
    unfold stsvFreeBigData
    dsimp only
    split <;> simp [setUse, Slots.conn]
  have hbuffer : (stsvFreeBigData (s.conn idx)).client.bigDataBuffer = none := by simp [stsvFreeBigData]
  refine ⟨?_, ?_⟩
  · have hpointer : ((s.conn idx).client).bigDataBuffer = s.held idx := hi.pointer idx
    rcases hhad : s.held idx with _ | i
    · have hpool : (freeBig s idx).pool = s.pool := by
        show (stsvFreeBigData (s.conn idx)).pool = _
        simp only [stsvFreeBigData, hpointer, hhad]
        rfl
      have hsame : (freeBig s idx).held = s.held := by
        show Function.update s.held idx none = _
        rw [← hhad, Function.update_eq_self]
      exact h.same hpool fun k j => by rw [hsame]; rfl
    · obtain ⟨hl, hilt⟩ := hi.live idx i hhad
      have hpool : (freeBig s idx).pool = setUse s.pool i false := by
        show (stsvFreeBigData (s.conn idx)).pool = _
        simp only [stsvFreeBigData, hpointer, hhad]
        rfl
      refine h.returned hl hhad hlen (fun j => ?_) rfl rfl
      rw [hpool]
      exact inUse_setUse s.pool i j false hilt
  · refine hi.moved hbuffer rfl rfl fun k j hh => ?_
    rw [hlen]
    rcases update_held.mp hh with ⟨-, hbad⟩ | ⟨-, hh⟩
    · cases hbad
    · exact hi.live k j hh

/-- A connection that ends has given back what it had. -/
theorem disconnect_owned (hi : HeldInv s) (h : Owned s) (hs : slotsStep s (.disconnect idx) = some s') :
    (Owned s' ↔ GivesBack s (.disconnect idx)) ∧ (GivesBack s (.disconnect idx) → HeldInv s') := by
  simp only [slotsStep] at hs
  split at hs
  · rename_i hl
    cases hs
    have hok : GivesBack s (.disconnect idx) ↔ s.held idx = none := by
      simp [GivesBack, hi.pointer]
    rw [hok]
    refine ⟨⟨?_, ?_⟩, ?_⟩
    · intro h'
      rcases hheld : s.held idx with _ | i
      · rfl
      · obtain ⟨-, hilt⟩ := hi.live idx i hheld
        obtain ⟨k, hlk, hhk⟩ := (h'.used i hilt).mp ((h.used i hilt).mpr ⟨idx, hl, hheld⟩)
        dsimp only at hlk hhk
        rcases update_held.mp hhk with ⟨-, hbad⟩ | ⟨hk, hhk⟩
        · cases hbad
        · rw [Function.update_of_ne hk] at hlk
          exact absurd (h.one k idx i hlk hhk hl hheld) hk
    · intro hnone
      refine h.same rfl fun k i => ?_
      dsimp only
      by_cases hk : k = idx
      · rw [hk, Function.update_self, Function.update_self, hnone]
        simp
      · rw [Function.update_of_ne hk, Function.update_of_ne hk]
    · intro hnone
      refine hi.moved (c := { s.client idx with online := false }) ((hi.pointer idx).trans hnone) rfl rfl fun k i hh => ?_
      rcases update_held.mp hh with ⟨-, hbad⟩ | ⟨hk, hh⟩
      · cases hbad
      · dsimp only
        rw [Function.update_of_ne hk]
        exact hi.live k i hh
  · cases hs

theorem accept_owned (hi : HeldInv s) (h : Owned s) (hs : slotsStep s (.accept idx) = some s') : Owned s' ∧ HeldInv s' := by
  simp only [slotsStep] at hs
  split at hs
  · cases hs
  · rename_i hdead
    cases hs
    have hnone : s.held idx = none := by
      rcases hheld : s.held idx with _ | i
      · rfl
      · exact absurd (hi.live idx i hheld).1 hdead
    refine ⟨h.same rfl fun k i => ?_, ?_⟩
    · dsimp only
      by_cases hk : k = idx
      · rw [hk, hnone]
        simp
      · rw [Function.update_of_ne hk]
    · refine hi.same (c := startThread (acceptClient (BitVec.ofNat 16 idx) (s.client idx))) rfl rfl rfl ?_ rfl
      intro k i hh
      dsimp only
      by_cases hk : k = idx
      · rw [hk, Function.update_self]
      · rw [Function.update_of_ne hk]
        exact (hi.live k i hh).1

theorem upload_owned (hi : HeldInv s) (h : Owned s) {ready : Bool} {size : BitVec 32} {fs : FS}
    (hs : slotsStep s (.upload idx ready size fs) = some s') : Owned s' ∧ HeldInv s' := by
  simp only [slotsStep] at hs
  split at hs
  · cases hs
    refine ⟨h.same rfl fun k i => Iff.rfl, ?_⟩
    exact hi.same (c := { s.client idx with bigDataReady := ready, bigDataReadSize := size }) rfl rfl rfl
      (fun k i hh => (hi.live k i hh).1) rfl
  · cases hs

/-! ## What it is to be owned -/

/-- A get that returns NULL gives nobody a block. -/
theorem get_null_keeps_pool (h : Owned s) (h' : Owned (getBig env s idx).2) (hnull : (getBig env s idx).1 = .null) {i : Nat}
    (hi : i < s.pool.length) : inUse (getBig env s idx).2.pool i = inUse s.pool i := by
  have hheld : (getBig env s idx).2.held = s.held := by
    have hr : (stsvGetBigData env (s.conn idx)).1 = .null := hnull
    simp [getBig, hr]
  rcases get_cases env s idx with ⟨-, hsame, -⟩ | ⟨j, -, -, -, hlen, hlive, -, -⟩
  · rw [hsame]
  · have hused := h'.used i (by omega)
    rw [hlive, hheld, ← h.used i hi] at hused
    exact Bool.eq_iff_iff.mpr hused

/-- A disconnect gives the connection's block back. -/
theorem disconnect_gives_back (h : Owned s) (h' : Owned s') (hs : slotsStep s (.disconnect idx) = some s') {i : Nat}
    (hheld : s.held idx = some i) (hi : i < s.pool.length) : inUse s'.pool i = false := by
  simp only [slotsStep] at hs
  split at hs
  · rename_i hl
    cases hs
    refine Bool.eq_false_iff.mpr fun huse => ?_
    obtain ⟨k, hlk, hhk⟩ := (h'.used i hi).mp huse
    dsimp only at hlk hhk
    rcases update_held.mp hhk with ⟨-, hbad⟩ | ⟨hk, hhk⟩
    · cases hbad
    · rw [Function.update_of_ne hk] at hlk
      exact hk (h.one k idx i hlk hhk hl hheld)
  · cases hs

/-! ## Runs of the slots -/

theorem owned_step {e : SlotsEv} (hi : HeldInv s) (h : Owned s) (hs : slotsStep s e = some s') :
    (Owned s' ↔ GivesBack s e) ∧ (GivesBack s e → HeldInv s') := by
  cases e with
  | accept idx =>
    obtain ⟨h', hi'⟩ := accept_owned hi h hs
    exact ⟨iff_of_true h' trivial, fun _ => hi'⟩
  | get env idx =>
    obtain rfl := Option.some.inj hs
    exact get_owned hi h
  | free idx =>
    obtain rfl := Option.some.inj hs
    obtain ⟨h', hi'⟩ := @free_owned s idx hi h
    exact ⟨iff_of_true h' trivial, fun _ => hi'⟩
  | upload idx ready size fs =>
    obtain ⟨h', hi'⟩ := upload_owned hi h hs
    exact ⟨iff_of_true h' trivial, fun _ => hi'⟩
  | disconnect idx => exact disconnect_owned hi h hs

theorem newSlots_owned (recvMem sendMem : Nat → Nat → Byte) (fs : FS) (buffers : List Buf) :
    Owned (newSlots recvMem sendMem fs buffers) ∧ HeldInv (newSlots recvMem sendMem fs buffers) := by
  refine ⟨⟨?_, ?_⟩, ⟨fun _ => rfl, ?_⟩⟩
  · intro i _
    refine iff_of_false ?_ ?_
    · unfold newSlots inUse
      rw [List.getElem?_map]
      rcases buffers[i]? <;> simp
    · rintro ⟨k, hl, -⟩
      cases hl
  · intro k k' i hl
    cases hl
  · intro k i hh
    cases hh

theorem pool_owned (recvMem sendMem : Nat → Nat → Byte) (fs : FS) (buffers : List Buf) {es : List SlotsEv}
    (h : run slotsStep (newSlots recvMem sendMem fs buffers) es = some s) :
    RunAll slotsStep Owned (newSlots recvMem sendMem fs buffers) es ↔
      RunOk slotsStep GivesBack (newSlots recvMem sendMem fs buffers) es := by
  obtain ⟨hown, hheld⟩ := newSlots_owned recvMem sendMem fs buffers
  refine runAll_iff_runOk_of slotsStep (I := HeldInv) (A := fun _ _ => True) ?_ hheld hown (runOk_trivial _ _ _) h
  intro s e s' hi hp _ he
  obtain ⟨hiff, hkeep⟩ := owned_step hi hp he
  exact ⟨hiff, fun hp' => hkeep (hiff.mp hp')⟩

/-! ## The pool as shipped -/

/-- Every temp file holds one byte. -/
def oneByteFiles : FS := fun _ => some [7]

/-- A pool of one block and its slots. -/
def shippedSlots : Slots := newSlots (fun _ _ => 0) (fun _ _ => 0) oneByteFiles [⟨fun _ => 0, 0⟩]

/-- Two connections that get the block one after the other. -/
def getInTurn : List SlotsEv :=
  [.accept 0, .accept 1, .upload 0 true 1 oneByteFiles, .upload 1 true 1 oneByteFiles, .get quietEnv 0, .free 0,
    .disconnect 0, .get quietEnv 1, .free 1, .accept 0]

theorem getInTurn_owned : ∃ s, run slotsStep shippedSlots getInTurn = some s ∧ RunAll slotsStep Owned shippedSlots getInTurn :=
  ⟨_, rfl, (pool_owned _ _ _ _ rfl).mpr (by decide +kernel)⟩

/-- A connection ends with the block; the block stays in use, and the next get of another
    returns NULL. -/
theorem lost_block : ∃ s, run slotsStep shippedSlots
    [.accept 0, .accept 1, .upload 0 true 1 oneByteFiles, .upload 1 true 1 oneByteFiles, .get quietEnv 0, .disconnect 0] =
      some s ∧
    inUse s.pool 0 = true ∧ s.held 0 = none ∧ s.held 1 = none ∧ (getBig quietEnv s 1).1 = .null ∧ ¬Owned s := by
  refine ⟨_, rfl, by decide +kernel, by decide +kernel, by decide +kernel, by decide +kernel, ?_⟩
  intro h
  obtain ⟨k, -, hh⟩ := (h.used 0 (by decide +kernel)).mp (by decide +kernel)
  cases k with
  | zero => cases hh
  | succ k => cases hh

end StarServer.Socket

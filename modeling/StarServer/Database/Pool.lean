/-
  StarServer.Database.Pool — the database connections the threads share, statement by
  statement.

  `STSV_DBFindAndLockResource` scans under `s_MutexFreeDBIdx` and spins while nothing is free;
  `STSV_DBUnlockResource` takes no mutex, so its statements fall anywhere between those of a
  scan. Every statement is a step, and so is each operand of the scan's `&&`. The connections
  themselves come and go at any time (`STDB_ReConnect`).

  Each connection has one owner at most, from the store of true into its `sqlLock` to the store
  of false: the invariant `PoolInv` holds that map against the flags, the threads and the count.

  Proved:
    * `step_poolInv`: every statement of every thread keeps the invariant;
    * `pool_refines`: a run of the pool is a run of the owner map `ownersStep`, where a thread
      acquires a connection that nobody owns and only its owner releases it;
    * `pool_exclusive`: at every state, what was returned is in range and was tested connected,
      nothing is held twice, and with no call in progress the count is the number of locks.
-/

import Mathlib.Algebra.Ring.Nat
import Mathlib.Data.List.Range
import Mathlib.Logic.Function.Basic
import StarServer.Runs.Counts
import StarServer.Runs.Steps

namespace StarServer.Database

/-! ## The pool and its calls -/

/-- Where a thread is: in no call, before the mutex, before each test of the scan, before the
    three statements that end it; and before each statement of the unlock. -/
inductive CallPc where
  | idle
  | locking
  | testLock (i : Nat)
  | testMySql (i : Nat)
  | counting (foundIdx : Nat)
  | marking (foundIdx : Nat)
  | leaving (foundIdx : Nat)
  | unlocking (idx : Nat)
  | uncounting (idx : Nat)
  | checking (idx : Nat)
  | resetting (idx : Nat)
  | clearing (idx : Nat)
  deriving DecidableEq, Repr

/-- An index a call returned, and the last test of `pMySql` its scan made: at which index, and
    whether the pointer was not NULL. -/
structure Return where
  foundIdx : Nat
  tested : Option (Nat × Bool)
  deriving DecidableEq, Repr

/-- `pMySql i` is whether the pointer is not NULL. -/
structure Pool (τ : Type) where
  sqlLock : Nat → Bool
  pMySql : Nat → Bool
  nCurDBConnect : BitVec 32
  mutexFreeDBIdx : Option τ
  pc : τ → CallPc
  /-- What a thread obtained and has not begun to unlock. -/
  held : τ → List Nat
  lastTest : τ → Option (Nat × Bool)
  returned : List Return

/-- A thread calls one of the two or runs its next statement; a connection comes or goes. -/
inductive PoolEv (τ : Type) where
  | find (t : τ)
  | unlock (t : τ) (idx : Nat)
  | next (t : τ)
  | connect (i : Nat) (connected : Bool)

variable {τ : Type} [DecidableEq τ] (nDBMaxConnect : Nat)

def setPc (s : Pool τ) (t : τ) (pc : CallPc) : τ → CallPc := Function.update s.pc t pc

/-- The index the scan looks at next. -/
def nextIdx (i : Nat) : Nat := if i + 1 ≥ nDBMaxConnect then 0 else i + 1

def nextStatement (s : Pool τ) (t : τ) : Option (Pool τ) :=
  match s.pc t with
  | .idle => none
  | .locking =>
    match s.mutexFreeDBIdx with
    | none => some { s with mutexFreeDBIdx := some t, pc := setPc s t (.testLock 0) }
    | some _ => none
  | .testLock i =>
    if s.sqlLock i then some { s with pc := setPc s t (.testLock (nextIdx nDBMaxConnect i)) }
    else some { s with pc := setPc s t (.testMySql i) }
  | .testMySql i =>
    some { s with
      lastTest := Function.update s.lastTest t (some (i, s.pMySql i))
      pc := setPc s t (if s.pMySql i then .counting i else .testLock (nextIdx nDBMaxConnect i)) }
  | .counting i => some { s with nCurDBConnect := s.nCurDBConnect + 1, pc := setPc s t (.marking i) }
  | .marking i => some { s with sqlLock := Function.update s.sqlLock i true, pc := setPc s t (.leaving i) }
  | .leaving i =>
    some { s with
      mutexFreeDBIdx := none
      held := Function.update s.held t (i :: s.held t)
      returned := s.returned ++ [⟨i, s.lastTest t⟩]
      pc := setPc s t .idle }
  | .unlocking i => some { s with pc := setPc s t (if s.sqlLock i then .uncounting i else .idle) }
  | .uncounting i => some { s with nCurDBConnect := s.nCurDBConnect - 1, pc := setPc s t (.checking i) }
  | .checking i => some { s with pc := setPc s t (if s.nCurDBConnect.slt 0 then .resetting i else .clearing i) }
  | .resetting i => some { s with nCurDBConnect := 0, pc := setPc s t (.clearing i) }
  | .clearing i => some { s with sqlLock := Function.update s.sqlLock i false, pc := setPc s t .idle }

/-- A thread unlocks what it obtained, each once. -/
def poolStep (s : Pool τ) : PoolEv τ → Option (Pool τ)
  | .find t =>
    if s.pc t = .idle then
      some { s with lastTest := Function.update s.lastTest t none, pc := setPc s t .locking }
    else none
  | .unlock t idx =>
    if s.pc t = .idle ∧ idx ∈ s.held t then
      some { s with
        held := Function.update s.held t ((s.held t).erase idx)
        pc := setPc s t (.unlocking idx) }
    else none
  | .next t => nextStatement nDBMaxConnect s t
  | .connect i connected => some { s with pMySql := Function.update s.pMySql i connected }

/-- The pool as it starts, with what `STDB_Connect` made of it. -/
def newPool (pMySql : Nat → Bool) : Pool τ where
  sqlLock := fun _ => false
  pMySql := pMySql
  nCurDBConnect := 0
  mutexFreeDBIdx := none
  pc := fun _ => .idle
  held := fun _ => []
  lastTest := fun _ => none
  returned := []

/-! ## What is held -/

/-- What a call in progress has: found and locked, or still to unlock. -/
def CallPc.owned : CallPc → List Nat
  | .leaving i | .unlocking i | .uncounting i | .checking i | .resetting i | .clearing i => [i]
  | _ => []

/-- Everything thread `t` has obtained, up to the statement that unlocks it. -/
def holds (s : Pool τ) (t : τ) : List Nat := (s.pc t).owned ++ s.held t

structure PoolOk (s : Pool τ) : Prop where
  returned : ∀ r ∈ s.returned, r.foundIdx < nDBMaxConnect ∧ r.tested = some (r.foundIdx, true)
  once : ∀ t, (holds s t).Nodup
  exclusive : ∀ t t' i, i ∈ holds s t → i ∈ holds s t' → t = t'
  counter : (∀ t, s.pc t = .idle) → s.nCurDBConnect.toInt = (List.range nDBMaxConnect).countP s.sqlLock

/-! ## Owners -/

inductive OwnersEv (τ : Type) where
  | acquire (i : Nat) (t : τ)
  | release (i : Nat) (t : τ)

/-- What the pool is for: a connection goes to one thread at a time, and comes back from it. -/
def ownersStep (owner : Nat → Option τ) : OwnersEv τ → Option (Nat → Option τ)
  | .acquire i t => if owner i = none then some (Function.update owner i (some t)) else none
  | .release i t => if owner i = some t then some (Function.update owner i none) else none

/-! ## The invariant -/

/-- The connection a call is between the count and the flag of. -/
def CallPc.moving : CallPc → Option Nat
  | .marking i | .checking i | .resetting i | .clearing i => some i
  | _ => none

/-- What a thread knows where it is. -/
def CallInv (owner : Nat → Option τ) (counted : Nat → Bool) (s : Pool τ) (t : τ) : Prop :=
  match s.pc t with
  | .idle | .locking => True
  | .testLock i => s.mutexFreeDBIdx = some t ∧ i < nDBMaxConnect
  | .testMySql i => s.mutexFreeDBIdx = some t ∧ i < nDBMaxConnect ∧ owner i = none
  | .counting i =>
    s.mutexFreeDBIdx = some t ∧ i < nDBMaxConnect ∧ owner i = none ∧ s.lastTest t = some (i, true)
  | .marking i =>
    s.mutexFreeDBIdx = some t ∧ i < nDBMaxConnect ∧ owner i = none ∧ s.lastTest t = some (i, true) ∧ counted i = true
  | .leaving i => s.mutexFreeDBIdx = some t ∧ owner i = some t ∧ s.lastTest t = some (i, true)
  | .unlocking i | .uncounting i => owner i = some t
  | .checking i | .clearing i => owner i = some t ∧ counted i = false
  | .resetting _ => False

/-- `owner` is who has locked a connection, `counted` whether `nCurDBConnect` has it in. -/
structure PoolInv (owner : Nat → Option τ) (counted : Nat → Bool) (s : Pool τ) : Prop where
  sqlLock : ∀ i, s.sqlLock i = (owner i).isSome
  inRange : ∀ i t, owner i = some t → i < nDBMaxConnect
  holds : ∀ t i, (holds s t).count i = if owner i = some t then 1 else 0
  call : ∀ t, CallInv nDBMaxConnect owner counted s t
  settled : ∀ i, (∀ t, (s.pc t).moving ≠ some i) → counted i = (owner i).isSome
  counter : s.nCurDBConnect = BitVec.ofNat 32 ((List.range nDBMaxConnect).countP counted)
  returned : ∀ r ∈ s.returned, r.foundIdx < nDBMaxConnect ∧ r.tested = some (r.foundIdx, true)

/-- What a statement of thread `t` leaves of the other threads. -/
structure LeavesOthers (t : τ) (s s' : Pool τ) : Prop where
  pc : ∀ t', t' ≠ t → s'.pc t' = s.pc t'
  held : ∀ t', t' ≠ t → s'.held t' = s.held t'
  lastTest : ∀ t', t' ≠ t → s'.lastTest t' = s.lastTest t'
  mutex : ∀ t', t' ≠ t → s.mutexFreeDBIdx = some t' → s'.mutexFreeDBIdx = some t'

variable {nDBMaxConnect} {owner owner' : Nat → Option τ} {counted counted' : Nat → Bool} {s s' : Pool τ} {t : τ}

theorem newPool_inv (pMySql : Nat → Bool) :
    @PoolInv τ _ nDBMaxConnect (fun _ => none) (fun _ => false) (newPool pMySql) := by
  refine ⟨fun _ => rfl, (fun _ _ h => nomatch h), fun _ _ => rfl, fun _ => trivial, fun _ _ => rfl, ?_,
    (fun _ hr => nomatch hr)⟩
  show (0 : BitVec 32) = _
  rw [List.countP_false]
  rfl

/-! ### The other threads -/

omit [DecidableEq τ] in
/-- Where a scan finds its connection still free, and an owner its own still counted as it was,
    nothing has changed for the thread. -/
theorem CallInv.frame (h : CallInv nDBMaxConnect owner counted s t) (hpc : s'.pc t = s.pc t)
    (hlast : s'.lastTest t = s.lastTest t) (hm : s.mutexFreeDBIdx = some t → s'.mutexFreeDBIdx = some t)
    (hfree : s.mutexFreeDBIdx = some t → ∀ i, owner i = none → owner' i = none ∧ counted' i = counted i)
    (hown : ∀ i, owner i = some t → owner' i = some t ∧ counted' i = counted i) :
    CallInv nDBMaxConnect owner' counted' s' t := by
  unfold CallInv at h ⊢
  rw [hpc]
  cases hcase : s.pc t with
  | idle => trivial
  | locking => trivial
  | resetting i =>
    rw [hcase] at h
    exact h
  | testLock i =>
    rw [hcase] at h
    exact ⟨hm h.1, h.2⟩
  | testMySql i =>
    rw [hcase] at h
    obtain ⟨h1, h2, h3⟩ := h
    exact ⟨hm h1, h2, (hfree h1 i h3).1⟩
  | counting i =>
    rw [hcase] at h
    obtain ⟨h1, h2, h3, h4⟩ := h
    exact ⟨hm h1, h2, (hfree h1 i h3).1, hlast.trans h4⟩
  | marking i =>
    rw [hcase] at h
    obtain ⟨h1, h2, h3, h4, h5⟩ := h
    exact ⟨hm h1, h2, (hfree h1 i h3).1, hlast.trans h4, (hfree h1 i h3).2.trans h5⟩
  | leaving i =>
    rw [hcase] at h
    obtain ⟨h1, h2, h3⟩ := h
    exact ⟨hm h1, (hown i h2).1, hlast.trans h3⟩
  | unlocking i =>
    rw [hcase] at h
    exact (hown i h).1
  | uncounting i =>
    rw [hcase] at h
    exact (hown i h).1
  | checking i =>
    rw [hcase] at h
    exact ⟨(hown i h.1).1, (hown i h.1).2.trans h.2⟩
  | clearing i =>
    rw [hcase] at h
    exact ⟨(hown i h.1).1, (hown i h.1).2.trans h.2⟩

omit [DecidableEq τ] in
theorem LeavesOthers.holds (h : LeavesOthers t s s') {t' : τ} (hne : t' ≠ t) : holds s' t' = holds s t' := by
  unfold Database.holds
  rw [h.pc t' hne, h.held t' hne]

/-- A statement that neither locks nor counts. -/
theorem PoolInv.moved (hi : PoolInv nDBMaxConnect owner counted s) (ho : LeavesOthers t s s')
    (hlock : s'.sqlLock = s.sqlLock) (hcount : s'.nCurDBConnect = s.nCurDBConnect)
    (hret : ∀ r ∈ s'.returned, r.foundIdx < nDBMaxConnect ∧ r.tested = some (r.foundIdx, true))
    (hholds : ∀ i, (Database.holds s' t).count i = (Database.holds s t).count i)
    (hmoving : (s'.pc t).moving = (s.pc t).moving) (hcall : CallInv nDBMaxConnect owner counted s' t) :
    PoolInv nDBMaxConnect owner counted s' where
  sqlLock i := by rw [hlock, hi.sqlLock]
  inRange := hi.inRange
  holds t' i := by
    by_cases hne : t' = t
    · rw [hne, hholds, hi.holds]
    · rw [ho.holds hne, hi.holds]
  call t' := by
    by_cases hne : t' = t
    · rw [hne]
      exact hcall
    · exact (hi.call t').frame (ho.pc t' hne) (ho.lastTest t' hne) (ho.mutex t' hne) (fun _ _ h => ⟨h, rfl⟩)
        (fun _ h => ⟨h, rfl⟩)
  settled i hset := by
    refine hi.settled i fun t' => ?_
    have h := hset t'
    by_cases hne : t' = t
    · rw [hne, hmoving] at h
      rw [hne]
      exact h
    · rw [ho.pc t' hne] at h
      exact h
  counter := hcount.trans hi.counter
  returned := hret

/-- A statement that only moves on. -/
theorem PoolInv.moveOn {pc pc' : CallPc} (hi : PoolInv nDBMaxConnect owner counted s) (ho : LeavesOthers t s s')
    (hpc : s.pc t = pc) (hpc' : s'.pc t = pc') (hlock : s'.sqlLock = s.sqlLock)
    (hcount : s'.nCurDBConnect = s.nCurDBConnect) (hret : s'.returned = s.returned) (hheld : s'.held t = s.held t)
    (howned : pc'.owned = pc.owned) (hmoving : pc'.moving = pc.moving)
    (hcall : CallInv nDBMaxConnect owner counted s' t) : PoolInv nDBMaxConnect owner counted s' := by
  refine hi.moved ho hlock hcount (fun r hr => hi.returned r (hret ▸ hr)) (fun i => ?_) ?_ hcall
  · unfold Database.holds
    rw [hpc, hpc', howned, hheld]
  · rw [hpc, hpc', hmoving]

/-! ### The count -/

/-- A statement that counts connection `i`, or takes it out, on the way to or from its flag. -/
theorem PoolInv.count {i : Nat} {b : Bool} (hi : PoolInv nDBMaxConnect owner counted s) (ho : LeavesOthers t s s')
    (hlock : s'.sqlLock = s.sqlLock) (hret : s'.returned = s.returned)
    (hcount : s'.nCurDBConnect = BitVec.ofNat 32 ((List.range nDBMaxConnect).countP (Function.update counted i b)))
    (hholds : Database.holds s' t = Database.holds s t) (hstill : (s.pc t).moving = none)
    (hmoving : (s'.pc t).moving = some i) (hown : ∀ t', owner i = some t' → t' = t)
    (hfree : ∀ t', owner i = none → s.mutexFreeDBIdx = some t' → t' = t)
    (hcall : CallInv nDBMaxConnect owner (Function.update counted i b) s' t) :
    PoolInv nDBMaxConnect owner (Function.update counted i b) s' where
  sqlLock j := by rw [hlock, hi.sqlLock]
  inRange := hi.inRange
  holds t' j := by
    by_cases hne : t' = t
    · rw [hne, hholds, hi.holds]
    · rw [ho.holds hne, hi.holds]
  call t' := by
    by_cases hne : t' = t
    · rw [hne]
      exact hcall
    · refine (hi.call t').frame (ho.pc t' hne) (ho.lastTest t' hne) (ho.mutex t' hne) (fun hm j hj => ⟨hj, ?_⟩)
        (fun j hj => ⟨hj, ?_⟩)
      · refine Function.update_of_ne ?_ _ _
        rintro rfl
        exact hne (hfree t' hj hm)
      · refine Function.update_of_ne ?_ _ _
        rintro rfl
        exact hne (hown t' hj)
  settled j hset := by
    have hji : j ≠ i := by
      rintro rfl
      exact hset t hmoving
    rw [Function.update_of_ne hji]
    refine hi.settled j fun t' => ?_
    by_cases hne : t' = t
    · rw [hne, hstill]
      exact fun h => nomatch h
    · have h := hset t'
      rw [ho.pc t' hne] at h
      exact h
  counter := hcount
  returned r hr := hi.returned r (hret ▸ hr)

/-! ### The owners -/

/-- A statement that stores to the `sqlLock` of connection `i`, counted already. -/
theorem PoolInv.store {i : Nat} {o : Option τ} (hi : PoolInv nDBMaxConnect owner counted s)
    (ho : LeavesOthers t s s') (hin : i < nDBMaxConnect) (hlock : s'.sqlLock = Function.update s.sqlLock i o.isSome)
    (hret : s'.returned = s.returned) (hcount : s'.nCurDBConnect = s.nCurDBConnect)
    (hheld : s'.held t = s.held t)
    (howned : ∀ j, (s'.pc t).owned.count j + (if j = i ∧ owner i = some t then 1 else 0) =
      (s.pc t).owned.count j + if j = i ∧ o = some t then 1 else 0)
    (hmoving : (s'.pc t).moving = none) (hmoved : (s.pc t).moving = some i) (hdone : counted i = o.isSome)
    (hown : ∀ t', owner i = some t' → t' = t) (ho' : ∀ t', o = some t' → t' = t)
    (hfree : ∀ t', owner i = none → s.mutexFreeDBIdx = some t' → t' = t)
    (hcall : CallInv nDBMaxConnect (Function.update owner i o) counted s' t) :
    PoolInv nDBMaxConnect (Function.update owner i o) counted s' where
  sqlLock j := by
    rw [hlock]
    by_cases hji : j = i
    · rw [hji, Function.update_self, Function.update_self]
    · rw [Function.update_of_ne hji, Function.update_of_ne hji, hi.sqlLock]
  inRange j t' hj := by
    by_cases hji : j = i
    · exact hji ▸ hin
    · rw [Function.update_of_ne hji] at hj
      exact hi.inRange j t' hj
  holds t' j := by
    have hcnt := hi.holds t' j
    by_cases hji : j = i
    · subst hji
      rw [Function.update_self]
      by_cases hne : t' = t
      · subst hne
        have := howned j
        unfold Database.holds at hcnt ⊢
        simp only [true_and] at this
        rw [List.count_append] at hcnt ⊢
        rw [hheld]
        omega
      · rw [ho.holds hne, hcnt, if_neg fun h => hne (hown t' h), if_neg fun h => hne (ho' t' h)]
    · rw [Function.update_of_ne hji, ← hcnt]
      by_cases hne : t' = t
      · subst hne
        have := howned j
        unfold Database.holds
        simp only [hji, false_and, if_false, Nat.add_zero] at this
        rw [List.count_append, List.count_append, hheld, this]
      · rw [ho.holds hne]
  call t' := by
    by_cases hne : t' = t
    · rw [hne]
      exact hcall
    · refine (hi.call t').frame (ho.pc t' hne) (ho.lastTest t' hne) (ho.mutex t' hne) (fun hm j hj => ⟨?_, rfl⟩)
        (fun j hj => ⟨?_, rfl⟩)
      · refine (Function.update_of_ne ?_ _ _).trans hj
        rintro rfl
        exact hne (hfree t' hj hm)
      · refine (Function.update_of_ne ?_ _ _).trans hj
        rintro rfl
        exact hne (hown t' hj)
  settled j hset := by
    by_cases hji : j = i
    · rw [hji, Function.update_self, hdone]
    · rw [Function.update_of_ne hji]
      refine hi.settled j fun t' => ?_
      by_cases hne : t' = t
      · rw [hne, hmoved]
        exact fun h => hji (Option.some.inj h).symm
      · have h := hset t'
        rw [ho.pc t' hne] at h
        exact h
  counter := hcount.trans hi.counter
  returned r hr := hi.returned r (hret ▸ hr)

/-! ## One statement -/

theorem setPc_others (t : τ) (pc : CallPc) (t' : τ) (hne : t' ≠ t) : setPc s t pc t' = s.pc t' :=
  Function.update_of_ne hne _ _

theorem nextIdx_lt (i : Nat) (hn : 1 ≤ nDBMaxConnect) : nextIdx nDBMaxConnect i < nDBMaxConnect := by
  unfold nextIdx
  split
  · omega
  · omega

/-- Where thread `t` is, after its own step. -/
theorem pc_self {pc : CallPc} : setPc s t pc t = pc := Function.update_self _ _ _

theorem LeavesOthers.of_pc {pc : CallPc} (hpc : s'.pc = setPc s t pc) (hheld : s'.held = s.held)
    (hlast : s'.lastTest = s.lastTest) (hm : s'.mutexFreeDBIdx = s.mutexFreeDBIdx) : LeavesOthers t s s' where
  pc t' hne := by rw [hpc, setPc_others t pc t' hne]
  held t' _ := by rw [hheld]
  lastTest t' _ := by rw [hlast]
  mutex t' _ h := by rw [hm, h]

omit [DecidableEq τ] in
/-- Between the count and the flag: a scan on the way in, or an unlock on the way out. -/
theorem CallInv.of_moving (h : CallInv nDBMaxConnect owner counted s t) {i : Nat} (hmove : (s.pc t).moving = some i) :
    (s.mutexFreeDBIdx = some t ∧ owner i = none) ∨ owner i = some t := by
  unfold CallInv at h
  cases hpc : s.pc t with
  | marking j =>
    simp only [hpc, CallPc.moving] at h hmove
    obtain rfl := Option.some.inj hmove
    exact Or.inl ⟨h.1, h.2.2.1⟩
  | checking j =>
    simp only [hpc, CallPc.moving] at h hmove
    obtain rfl := Option.some.inj hmove
    exact Or.inr h.1
  | clearing j =>
    simp only [hpc, CallPc.moving] at h hmove
    obtain rfl := Option.some.inj hmove
    exact Or.inr h.1
  | resetting j =>
    rw [hpc] at h
    exact h.elim
  | _ =>
    rw [hpc] at hmove
    cases hmove

/-- A connection that a scan has found free is not counted yet. -/
theorem PoolInv.counted_free (hi : PoolInv nDBMaxConnect owner counted s) {i : Nat} (hfree : owner i = none)
    (hm : s.mutexFreeDBIdx = some t) (ht : (s.pc t).moving = none) : counted i = false := by
  rw [hi.settled i, hfree]
  · rfl
  · intro t' hmove
    rcases (hi.call t').of_moving hmove with ⟨hm', -⟩ | hown
    · obtain rfl := Option.some.inj (hm.symm.trans hm')
      rw [hmove] at ht
      cases ht
    · rw [hfree] at hown
      cases hown

/-- What a thread owns is counted until it takes it out itself. -/
theorem PoolInv.counted_owned (hi : PoolInv nDBMaxConnect owner counted s) {i : Nat} (hown : owner i = some t)
    (ht : (s.pc t).moving = none) : counted i = true := by
  rw [hi.settled i, hown]
  · rfl
  · intro t' hmove
    rcases (hi.call t').of_moving hmove with ⟨-, hfree⟩ | hown'
    · rw [hown] at hfree
      cases hfree
    · obtain rfl := Option.some.inj (hown.symm.trans hown')
      rw [hmove] at ht
      cases ht

theorem PoolInv.counter_toInt (hi : PoolInv nDBMaxConnect owner counted s) (hint : nDBMaxConnect < 2 ^ 31) :
    s.nCurDBConnect.toInt = (List.range nDBMaxConnect).countP counted := by
  have hle : (List.range nDBMaxConnect).countP counted ≤ nDBMaxConnect := by
    simpa using List.countP_le_length (p := counted) (l := List.range nDBMaxConnect)
  rw [hi.counter, BitVec.toInt_eq_toNat_of_lt]
  · rw [BitVec.toNat_ofNat, Nat.mod_eq_of_lt (by omega)]
  · rw [BitVec.toNat_ofNat, Nat.mod_eq_of_lt (by omega)]
    omega

theorem acquire_run {i : Nat} (h : owner i = none) :
    Runs.run ownersStep owner [.acquire i t] = some (Function.update owner i (some t)) := by
  simp only [Runs.run, ownersStep, if_pos h]

theorem release_run {i : Nat} (h : owner i = some t) :
    Runs.run ownersStep owner [.release i t] = some (Function.update owner i none) := by
  simp only [Runs.run, ownersStep, if_pos h]

theorem locking_poolInv (hn : 1 ≤ nDBMaxConnect) (hi : PoolInv nDBMaxConnect owner counted s) (hpc : s.pc t = .locking)
    (hfree : s.mutexFreeDBIdx = none) : PoolInv nDBMaxConnect owner counted
      { s with mutexFreeDBIdx := some t, pc := setPc s t (.testLock 0) } := by
  refine hi.moveOn ⟨setPc_others t _, fun _ _ => rfl, fun _ _ => rfl, fun t' _ hm => ?_⟩ hpc pc_self rfl rfl rfl rfl rfl rfl ?_
  · rw [hfree] at hm
    cases hm
  · simp only [CallInv, pc_self]
    exact ⟨trivial, hn⟩

/-- The scan moves on from a resource that is locked, and looks closer at one that is free. -/
theorem testLock_poolInv {i : Nat} (hn : 1 ≤ nDBMaxConnect) (hi : PoolInv nDBMaxConnect owner counted s)
    (hpc : s.pc t = .testLock i) (h : nextStatement nDBMaxConnect s t = some s') :
    PoolInv nDBMaxConnect owner counted s' := by
  have hcall := hi.call t
  simp only [CallInv, hpc] at hcall
  simp only [nextStatement, hpc] at h
  split at h
  · cases h
    refine hi.moveOn (.of_pc rfl rfl rfl rfl) hpc pc_self rfl rfl rfl rfl rfl rfl ?_
    simp only [CallInv, pc_self]
    exact ⟨hcall.1, nextIdx_lt i hn⟩
  · rename_i hlock
    have hfree : owner i = none := by
      rw [hi.sqlLock i] at hlock
      exact Option.not_isSome_iff_eq_none.mp hlock
    cases h
    refine hi.moveOn (.of_pc rfl rfl rfl rfl) hpc pc_self rfl rfl rfl rfl rfl rfl ?_
    simp only [CallInv, pc_self]
    exact ⟨hcall.1, hcall.2, hfree⟩

theorem testMySql_poolInv {i : Nat} (hn : 1 ≤ nDBMaxConnect) (hi : PoolInv nDBMaxConnect owner counted s)
    (hpc : s.pc t = .testMySql i) (h : nextStatement nDBMaxConnect s t = some s') :
    PoolInv nDBMaxConnect owner counted s' := by
  have hcall := hi.call t
  simp only [CallInv, hpc] at hcall
  obtain ⟨hm, hin, hfree⟩ := hcall
  simp only [nextStatement, hpc] at h
  cases h
  refine hi.moveOn ⟨setPc_others t _, fun _ _ => rfl, fun t' hne => Function.update_of_ne hne _ _, fun _ _ h => h⟩ hpc
    pc_self rfl rfl rfl rfl ?_ ?_ ?_
  · split <;> rfl
  · split <;> rfl
  · by_cases hsql : s.pMySql i = true
    · simp only [CallInv, pc_self, if_pos hsql]
      exact ⟨hm, hin, hfree, by rw [Function.update_self, hsql]⟩
    · simp only [CallInv, pc_self, if_neg hsql]
      exact ⟨hm, nextIdx_lt i hn⟩

theorem counting_poolInv {i : Nat} (hi : PoolInv nDBMaxConnect owner counted s) (hpc : s.pc t = .counting i) :
    PoolInv nDBMaxConnect owner (Function.update counted i true)
      { s with nCurDBConnect := s.nCurDBConnect + 1, pc := setPc s t (.marking i) } := by
  have hcall := hi.call t
  simp only [CallInv, hpc] at hcall
  obtain ⟨hm, hin, hfree, htest⟩ := hcall
  have hstill : (s.pc t).moving = none := by rw [hpc]; rfl
  refine hi.count (.of_pc rfl rfl rfl rfl) rfl rfl ?_ ?_ hstill ?_ (fun t' hown => ?_) (fun t' _ hm' => ?_) ?_
  · have hcount := Runs.countP_update List.nodup_range (List.mem_range.mpr hin) counted true
    simp only [hi.counted_free hfree hm hstill, Bool.false_eq_true, if_false, Nat.add_zero, if_true] at hcount
    show s.nCurDBConnect + 1 = _
    rw [hcount, hi.counter, BitVec.ofNat_add]
    rfl
  · simp only [Database.holds, pc_self, hpc, CallPc.owned]
  · simp only [pc_self, CallPc.moving]
  · rw [hfree] at hown
    cases hown
  · exact Option.some.inj (hm'.symm.trans hm)
  · simp only [CallInv, pc_self]
    exact ⟨hm, hin, hfree, htest, Function.update_self _ _ _⟩

theorem marking_poolInv {i : Nat} (hi : PoolInv nDBMaxConnect owner counted s) (hpc : s.pc t = .marking i) :
    owner i = none ∧ PoolInv nDBMaxConnect (Function.update owner i (some t)) counted
      { s with sqlLock := Function.update s.sqlLock i true, pc := setPc s t (.leaving i) } := by
  have hcall := hi.call t
  simp only [CallInv, hpc] at hcall
  obtain ⟨hm, hin, hfree, htest, hcounted⟩ := hcall
  refine ⟨hfree, hi.store (.of_pc rfl rfl rfl rfl) hin rfl rfl rfl rfl (fun j => ?_) ?_ ?_ hcounted (fun t' hown => ?_)
    (fun t' he => (Option.some.inj he).symm) (fun t' _ hm' => ?_) ?_⟩
  · simp only [pc_self, hpc, hfree]
    by_cases hji : j = i
    · subst hji
      simp [CallPc.owned]
    · simp [CallPc.owned, hji, Ne.symm hji]
  · simp only [pc_self, CallPc.moving]
  · simp only [hpc, CallPc.moving]
  · rw [hfree] at hown
    cases hown
  · exact Option.some.inj (hm'.symm.trans hm)
  · simp only [CallInv, pc_self]
    exact ⟨hm, Function.update_self _ _ _, htest⟩

theorem leaving_poolInv {i : Nat} (hi : PoolInv nDBMaxConnect owner counted s) (hpc : s.pc t = .leaving i) :
    PoolInv nDBMaxConnect owner counted { s with
      mutexFreeDBIdx := none
      held := Function.update s.held t (i :: s.held t)
      returned := s.returned ++ [⟨i, s.lastTest t⟩]
      pc := setPc s t .idle } := by
  have hcall := hi.call t
  simp only [CallInv, hpc] at hcall
  obtain ⟨hm, hown, htest⟩ := hcall
  have ho : LeavesOthers t s { s with
      mutexFreeDBIdx := none
      held := Function.update s.held t (i :: s.held t)
      returned := s.returned ++ [⟨i, s.lastTest t⟩]
      pc := setPc s t .idle } :=
    ⟨setPc_others t _, fun t' hne => Function.update_of_ne hne _ _, fun _ _ => rfl,
      fun t' hne hm' => absurd (Option.some.inj (hm'.symm.trans hm)) hne⟩
  refine hi.moved ho rfl rfl (fun r hr => ?_) (fun j => ?_) ?_ ?_
  · rcases List.mem_append.mp hr with hr | hr
    · exact hi.returned r hr
    · obtain rfl := List.mem_singleton.mp hr
      exact ⟨hi.inRange i t hown, htest⟩
  · simp [Database.holds, pc_self, hpc, CallPc.owned]
  · simp only [pc_self, hpc, CallPc.moving]
  · simp only [CallInv, pc_self]

theorem uncounting_poolInv {i : Nat} (hi : PoolInv nDBMaxConnect owner counted s) (hpc : s.pc t = .uncounting i) :
    PoolInv nDBMaxConnect owner (Function.update counted i false)
      { s with nCurDBConnect := s.nCurDBConnect - 1, pc := setPc s t (.checking i) } := by
  have hown := hi.call t
  simp only [CallInv, hpc] at hown
  have hstill : (s.pc t).moving = none := by rw [hpc]; rfl
  refine hi.count (.of_pc rfl rfl rfl rfl) rfl rfl ?_ ?_ hstill ?_ (fun t' hown' => ?_) (fun t' hfree _ => ?_) ?_
  · have hcount := Runs.countP_update List.nodup_range (List.mem_range.mpr (hi.inRange i t hown)) counted false
    simp only [hi.counted_owned hown hstill, Bool.false_eq_true, if_false, Nat.add_zero, if_true] at hcount
    show s.nCurDBConnect - 1 = _
    rw [hi.counter, ← hcount, BitVec.ofNat_add]
    exact BitVec.add_sub_cancel _ _
  · simp only [Database.holds, pc_self, hpc, CallPc.owned]
  · simp only [pc_self, CallPc.moving]
  · exact Option.some.inj (hown'.symm.trans hown)
  · rw [hown] at hfree
    cases hfree
  · simp only [CallInv, pc_self]
    exact ⟨hown, Function.update_self _ _ _⟩

theorem clearing_poolInv {i : Nat} (hi : PoolInv nDBMaxConnect owner counted s) (hpc : s.pc t = .clearing i) :
    owner i = some t ∧ PoolInv nDBMaxConnect (Function.update owner i none) counted
      { s with sqlLock := Function.update s.sqlLock i false, pc := setPc s t .idle } := by
  have hcall := hi.call t
  simp only [CallInv, hpc] at hcall
  obtain ⟨hown, hcounted⟩ := hcall
  refine ⟨hown, hi.store (.of_pc rfl rfl rfl rfl) (hi.inRange i t hown) rfl rfl rfl rfl (fun j => ?_) ?_ ?_ hcounted
    (fun t' h' => ?_) (fun t' he => by cases he) (fun t' hfree _ => ?_) ?_⟩
  · simp only [pc_self, hpc, hown]
    by_cases hji : j = i
    · subst hji
      simp [CallPc.owned]
    · simp [CallPc.owned, hji, Ne.symm hji]
  · simp only [pc_self, CallPc.moving]
  · simp only [hpc, CallPc.moving]
  · exact Option.some.inj (h'.symm.trans hown)
  · rw [hown] at hfree
    cases hfree
  · simp only [CallInv, pc_self]

/-- A statement of a call keeps the invariant; its owners move by one acquire, one release or
    none. -/
theorem next_poolInv (hn : 1 ≤ nDBMaxConnect) (hint : nDBMaxConnect < 2 ^ 31)
    (hi : PoolInv nDBMaxConnect owner counted s) (h : nextStatement nDBMaxConnect s t = some s') :
    ∃ evs owner' counted', Runs.run ownersStep owner evs = some owner' ∧ PoolInv nDBMaxConnect owner' counted' s' := by
  have hcall := hi.call t
  cases hpc : s.pc t with
  | idle =>
    simp only [nextStatement, hpc] at h
    cases h
  | locking =>
    simp only [nextStatement, hpc] at h
    split at h
    · rename_i hfree
      cases h
      exact ⟨[], owner, counted, rfl, locking_poolInv hn hi hpc hfree⟩
    · cases h
  | testLock i => exact ⟨[], owner, counted, rfl, testLock_poolInv hn hi hpc h⟩
  | testMySql i => exact ⟨[], owner, counted, rfl, testMySql_poolInv hn hi hpc h⟩
  | counting i =>
    simp only [nextStatement, hpc] at h
    cases h
    exact ⟨[], _, _, rfl, counting_poolInv hi hpc⟩
  | marking i =>
    simp only [nextStatement, hpc] at h
    cases h
    obtain ⟨hfree, hi'⟩ := marking_poolInv hi hpc
    exact ⟨[.acquire i t], _, _, acquire_run hfree, hi'⟩
  | leaving i =>
    simp only [nextStatement, hpc] at h
    cases h
    exact ⟨[], _, _, rfl, leaving_poolInv hi hpc⟩
  | unlocking i =>
    simp only [CallInv, hpc] at hcall
    have hlock : s.sqlLock i = true := by
      rw [hi.sqlLock, hcall]
      rfl
    simp only [nextStatement, hpc, hlock, if_true] at h
    cases h
    refine ⟨[], owner, counted, rfl, hi.moveOn (.of_pc rfl rfl rfl rfl) hpc pc_self rfl rfl rfl rfl rfl rfl ?_⟩
    simp only [CallInv, pc_self]
    exact hcall
  | uncounting i =>
    simp only [nextStatement, hpc] at h
    cases h
    exact ⟨[], _, _, rfl, uncounting_poolInv hi hpc⟩
  | checking i =>
    simp only [CallInv, hpc] at hcall
    -- No count of connections is negative: the reset is dead.
    have hpos : s.nCurDBConnect.slt 0 = false := by
      rw [BitVec.slt, hi.counter_toInt hint, decide_eq_false_iff_not]
      exact Int.not_lt.mpr (Int.natCast_nonneg _)
    simp only [nextStatement, hpc, hpos, Bool.false_eq_true, if_false] at h
    cases h
    refine ⟨[], owner, counted, rfl, hi.moveOn (.of_pc rfl rfl rfl rfl) hpc pc_self rfl rfl rfl rfl rfl rfl ?_⟩
    simp only [CallInv, pc_self]
    exact hcall
  | resetting i =>
    simp only [CallInv, hpc] at hcall
  | clearing i =>
    simp only [nextStatement, hpc] at h
    cases h
    obtain ⟨hown, hi'⟩ := clearing_poolInv hi hpc
    exact ⟨[.release i t], _, _, release_run hown, hi'⟩

theorem find_poolInv (hi : PoolInv nDBMaxConnect owner counted s) (hidle : s.pc t = .idle) :
    PoolInv nDBMaxConnect owner counted
      { s with lastTest := Function.update s.lastTest t none, pc := setPc s t .locking } := by
  refine hi.moveOn (t := t) ⟨setPc_others t _, fun _ _ => rfl, fun t' hne => Function.update_of_ne hne _ _,
    fun _ _ h => h⟩ hidle pc_self rfl rfl rfl rfl rfl rfl ?_
  simp only [CallInv, pc_self]

theorem PoolInv.mem_holds (hi : PoolInv nDBMaxConnect owner counted s) {i : Nat} (hmem : i ∈ Database.holds s t) :
    owner i = some t := by
  by_contra hne
  have hcount := hi.holds t i
  rw [if_neg hne, List.count_eq_zero] at hcount
  exact hcount hmem

/-- The connection a thread begins to unlock is still its own. -/
theorem unlock_poolInv {idx : Nat} (hi : PoolInv nDBMaxConnect owner counted s) (hidle : s.pc t = .idle)
    (hheld : idx ∈ s.held t) : PoolInv nDBMaxConnect owner counted
      { s with held := Function.update s.held t ((s.held t).erase idx), pc := setPc s t (.unlocking idx) } := by
  have hown : owner idx = some t := hi.mem_holds (List.mem_append_right _ hheld)
  refine hi.moved (t := t) ⟨setPc_others t _, fun t' hne => Function.update_of_ne hne _ _, fun _ _ => rfl,
    fun _ _ h => h⟩ rfl rfl hi.returned (fun i => ?_) ?_ ?_
  · simp only [Database.holds, pc_self, hidle, CallPc.owned, Function.update_self]
    exact ((List.perm_cons_erase hheld).count_eq i).symm
  · simp only [pc_self, hidle, CallPc.moving]
  · simp only [CallInv, pc_self]
    exact hown

theorem step_poolInv (hn : 1 ≤ nDBMaxConnect) (hint : nDBMaxConnect < 2 ^ 31)
    (hi : PoolInv nDBMaxConnect owner counted s) {e : PoolEv τ} (h : poolStep nDBMaxConnect s e = some s') :
    ∃ evs owner' counted', Runs.run ownersStep owner evs = some owner' ∧ PoolInv nDBMaxConnect owner' counted' s' := by
  cases e with
  | next t => exact next_poolInv hn hint hi h
  | connect i connected =>
    cases h
    exact ⟨[], owner, counted, rfl, hi.sqlLock, hi.inRange, hi.holds, hi.call, hi.settled, hi.counter, hi.returned⟩
  | find t =>
    simp only [poolStep] at h
    split at h
    · rename_i hidle
      cases h
      exact ⟨[], owner, counted, rfl, find_poolInv hi hidle⟩
    · cases h
  | unlock t idx =>
    simp only [poolStep] at h
    split at h
    · rename_i hcan
      cases h
      exact ⟨[], owner, counted, rfl, unlock_poolInv hi hcan.1 hcan.2⟩
    · cases h

/-! ## Runs -/

/-- **The pool is an owner map**: the flags of the state, and what its threads hold, are those
    of a run of acquires and releases. -/
theorem pool_refines (hn : 1 ≤ nDBMaxConnect) (hint : nDBMaxConnect < 2 ^ 31) (pMySql : Nat → Bool)
    {es : List (PoolEv τ)} (h : Runs.run (poolStep nDBMaxConnect) (newPool pMySql) es = some s) :
    ∃ evs owner counted, Runs.run ownersStep (fun _ => none) evs = some owner ∧
      PoolInv nDBMaxConnect owner counted s := by
  refine Runs.run_inv (poolStep nDBMaxConnect) (I := fun s => ∃ evs owner counted,
    Runs.run ownersStep (fun _ => none) evs = some owner ∧ PoolInv nDBMaxConnect owner counted s) ?_ ?_ h
  · rintro s e s' ⟨evs, owner, counted, hrun, hi⟩ he
    obtain ⟨evs', owner', counted', hrun', hi'⟩ := step_poolInv hn hint hi he
    exact ⟨evs ++ evs', owner', counted', (Runs.run_append ownersStep).mpr ⟨owner, hrun, hrun'⟩, hi'⟩
  · exact ⟨[], fun _ => none, fun _ => false, rfl, newPool_inv pMySql⟩

theorem PoolInv.ok (hint : nDBMaxConnect < 2 ^ 31) (hi : PoolInv nDBMaxConnect owner counted s) :
    PoolOk nDBMaxConnect s where
  returned := hi.returned
  once t := by
    refine List.nodup_iff_count.mpr fun i => ?_
    rw [hi.holds]
    split
    · exact Nat.le_refl 1
    · exact Nat.zero_le 1
  exclusive t t' i ht ht' := Option.some.inj ((hi.mem_holds ht).symm.trans (hi.mem_holds ht'))
  counter hidle := by
    have hsettled : counted = s.sqlLock := by
      funext i
      rw [hi.sqlLock]
      refine hi.settled i fun t => ?_
      rw [hidle]
      exact fun h => nomatch h
    rw [hi.counter_toInt hint, hsettled]

/-- **Pool exclusivity**: whatever the interleaving, for any pool and any number of threads. -/
theorem pool_exclusive (hn : 1 ≤ nDBMaxConnect) (hint : nDBMaxConnect < 2 ^ 31) (pMySql : Nat → Bool)
    {es : List (PoolEv τ)} (h : Runs.run (poolStep nDBMaxConnect) (newPool pMySql) es = some s) :
    PoolOk nDBMaxConnect s := by
  obtain ⟨-, owner, counted, -, hi⟩ := pool_refines hn hint pMySql h
  exact hi.ok hint

/-- Thread 1 scans while thread 0 unlocks the only connection; it sees the flag go down and
    gets the connection. -/
theorem pool_exclusive_overlap :
    let es := [.find 0, .next 0, .next 0, .next 0, .next 0, .next 0, .next 0, .find 1, .next 1, .next 1, .unlock 0 0,
      .next 0, .next 1, .next 0, .next 0, .next 1, .next 0, .next 1, .next 1, .next 1, .next 1, .next 1]
    ∃ s : Pool Nat, Runs.run (poolStep 1) (newPool fun _ => true) es = some s ∧ s.held 1 = [0] ∧
      s.nCurDBConnect = 1 ∧ PoolOk 1 s := by
  intro es
  obtain ⟨s, hrun, hheld, hcount⟩ : ∃ s : Pool Nat, Runs.run (poolStep 1) (newPool fun _ => true) es = some s ∧
    s.held 1 = [0] ∧ s.nCurDBConnect = 1 := ⟨_, rfl, by decide +kernel, by decide +kernel⟩
  exact ⟨s, hrun, hheld, hcount, pool_exclusive (by decide) (by decide) _ hrun⟩

end StarServer.Database

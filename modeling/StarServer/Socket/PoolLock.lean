/-
  StarServer.Socket.PoolLock — `GetBigDataBufferIdx` and `FreeBigDataBuffer`, statement by
  statement, by any number of threads.

  `s_bBigDataLock` is a plain flag, tested and set in two statements. A thread past it scans
  `s_BigDataUse` for a block that is not in use, marks it and clears the flag. Freeing a block
  takes no lock.

  Proved:
    * `takeStep_spins`: seen through the flag, the pool is a section behind a plain flag;
    * `takeStep_inv`: a statement that is no race keeps every block with one owner at most;
    * `blocks_apart`: in a run without a race no block is held twice, and the blocks in use are
      those held;
    * `block_taken_twice`: where two threads may call at once and a block is free, a race gives
      it to both.
-/

import Mathlib.Data.Fintype.Basic
import StarServer.Runs.SpinFlag

namespace StarServer.Socket

open StarServer.Runs

/-! ## The calls -/

/-- Where a thread is: in no call, before the test of the flag, before the store, before
    block `i` is looked at, before it is marked, and before the flag is cleared to return; and
    before the test and the store of a block that is freed. -/
inductive TakePc where
  | idle
  | waiting
  | passed
  | scanning (i : Nat)
  | marking (i : Nat)
  | leaving (buffIdx : Option Nat)
  | testing (i : Nat)
  | clearing (i : Nat)
  deriving DecidableEq, Repr

structure LockedPool (τ : Type) where
  bigDataUse : Nat → Bool
  bBigDataLock : Bool
  pc : τ → TakePc
  /-- What a thread was given and has not begun to free. -/
  held : τ → List Nat

/-- A thread calls one of the two or runs its next statement. -/
inductive TakeEv (τ : Type) where
  | take (t : τ)
  | free (t : τ) (i : Nat)
  | next (t : τ)

variable {τ : Type} [DecidableEq τ] (bigDataPoolBlock : Nat)

def LockedPool.goTo (s : LockedPool τ) (t : τ) (pc : TakePc) : LockedPool τ := { s with pc := Function.update s.pc t pc }

def takeNext (s : LockedPool τ) (t : τ) : Option (LockedPool τ) :=
  match s.pc t with
  | .idle => none
  | .waiting => if s.bBigDataLock then some s else some (s.goTo t .passed)
  | .passed => some { s.goTo t (.scanning 0) with bBigDataLock := true }
  | .scanning i =>
    if i < bigDataPoolBlock then
      if s.bigDataUse i then some (s.goTo t (.scanning (i + 1))) else some (s.goTo t (.marking i))
    else some (s.goTo t (.leaving none))
  | .marking i => some { s.goTo t (.leaving (some i)) with bigDataUse := Function.update s.bigDataUse i true }
  | .leaving r =>
    some { s.goTo t .idle with
      bBigDataLock := false
      held := Function.update s.held t (r.toList ++ s.held t) }
  | .testing i => if s.bigDataUse i then some (s.goTo t (.clearing i)) else some (s.goTo t .idle)
  | .clearing i => some { s.goTo t .idle with bigDataUse := Function.update s.bigDataUse i false }

/-- A thread frees what it was given, each once. -/
def takeStep (s : LockedPool τ) : TakeEv τ → Option (LockedPool τ)
  | .take t => if s.pc t = .idle then some (s.goTo t .waiting) else none
  | .free t i =>
    if s.pc t = .idle ∧ i ∈ s.held t then
      some { s.goTo t (.testing i) with held := Function.update s.held t ((s.held t).erase i) }
    else none
  | .next t => takeNext bigDataPoolBlock s t

/-- The pool as `initBigDataMemory` leaves it. -/
def newLockedPool : LockedPool τ := ⟨fun _ => false, false, fun _ => .idle, fun _ => []⟩

/-! ## Through the flag -/

def TakePc.spin : TakePc → SpinPc
  | .idle | .waiting | .testing _ | .clearing _ => .outside
  | .passed => .passed
  | .scanning _ | .marking _ | .leaving _ => .inside

def LockedPool.spin (s : LockedPool τ) : Spin τ := ⟨s.bBigDataLock, fun t => (s.pc t).spin⟩

/-- What a statement is to the flag. -/
def spinEv (s : LockedPool τ) : TakeEv τ → Option (SpinEv τ)
  | .next t =>
    match s.pc t with
    | .waiting => some (.test t)
    | .passed => some (.store t)
    | .leaving _ => some (.clear t)
    | _ => none
  | _ => none

variable {bigDataPoolBlock} {s s' : LockedPool τ} {t : τ}

theorem goTo_self (pc : TakePc) : (s.goTo t pc).pc t = pc := Function.update_self _ _ _

theorem goTo_other {t' : τ} (h : t' ≠ t) (pc : TakePc) : (s.goTo t pc).pc t' = s.pc t' := Function.update_of_ne h _ _

theorem goTo_spin (pc : TakePc) (flag : Bool) :
    (⟨flag, fun t' => ((s.goTo t pc).pc t').spin⟩ : Spin τ) = s.spin.moved t pc.spin flag := by
  unfold Spin.moved
  congr 1
  funext t'
  by_cases h : t' = t
  · rw [h, goTo_self, Function.update_self]
  · rw [goTo_other h, Function.update_of_ne h]
    rfl

/-- A statement on the same side of the flag. -/
theorem goTo_spin_same (pc : TakePc) {pc' : TakePc} (hpc : s.pc t = pc') (h : pc.spin = pc'.spin) :
    (⟨s.bBigDataLock, fun t' => ((s.goTo t pc).pc t').spin⟩ : Spin τ) = s.spin := by
  rw [goTo_spin]
  unfold Spin.moved
  rw [h, ← hpc, show (s.pc t).spin = s.spin.pc t from rfl, Function.update_eq_self]
  rfl

/-- **Through the flag** every statement is one of the plain flag's, or none. -/
theorem takeStep_spins {e : TakeEv τ} (h : takeStep bigDataPoolBlock s e = some s') :
    (spinEv s e = none ∧ s'.spin = s.spin) ∨ ∃ x, spinEv s e = some x ∧ spinStep s.spin x = some s'.spin := by
  cases e with
  | take t =>
    simp only [takeStep] at h
    split at h
    · rename_i hpc
      cases h
      exact Or.inl ⟨rfl, goTo_spin_same .waiting hpc rfl⟩
    · cases h
  | free t i =>
    simp only [takeStep] at h
    split at h
    · rename_i hpc
      cases h
      exact Or.inl ⟨rfl, goTo_spin_same (.testing i) hpc.1 rfl⟩
    · cases h
  | next t =>
    simp only [takeStep] at h
    unfold takeNext at h
    unfold spinEv
    cases hpc : s.pc t with
    | idle =>
      rw [hpc] at h
      cases h
    | waiting =>
      simp only [hpc] at h ⊢
      have hout : s.spin.pc t = .outside := congrArg TakePc.spin hpc
      refine Or.inr ⟨_, rfl, ?_⟩
      simp only [spinStep, if_pos hout]
      split at h
      · rename_i hup
        cases h
        exact if_pos hup
      · rename_i hdown
        cases h
        refine (if_neg hdown).trans (congrArg some ?_)
        exact (goTo_spin (s := s) (t := t) .passed s.bBigDataLock).symm
    | passed =>
      simp only [hpc, Option.some.injEq] at h ⊢
      have hin : s.spin.pc t = .passed := congrArg TakePc.spin hpc
      refine Or.inr ⟨_, rfl, ?_⟩
      simp only [spinStep, if_pos hin]
      rw [← h]
      exact congrArg some (goTo_spin (s := s) (t := t) (.scanning 0) true).symm
    | leaving r =>
      simp only [hpc, Option.some.injEq] at h ⊢
      have hin : s.spin.pc t = .inside := congrArg TakePc.spin hpc
      refine Or.inr ⟨_, rfl, ?_⟩
      simp only [spinStep, if_pos hin]
      rw [← h]
      exact congrArg some (goTo_spin (s := s) (t := t) .idle false).symm
    | scanning i =>
      simp only [hpc] at h ⊢
      refine Or.inl ⟨trivial, ?_⟩
      split at h
      · split at h
        · cases h
          exact goTo_spin_same (.scanning (i + 1)) hpc rfl
        · cases h
          exact goTo_spin_same (.marking i) hpc rfl
      · cases h
        exact goTo_spin_same (.leaving none) hpc rfl
    | marking i =>
      simp only [hpc, Option.some.injEq] at h ⊢
      refine Or.inl ⟨trivial, ?_⟩
      rw [← h]
      exact goTo_spin_same (.leaving (some i)) hpc rfl
    | testing i =>
      simp only [hpc] at h ⊢
      refine Or.inl ⟨trivial, ?_⟩
      split at h
      · cases h
        exact goTo_spin_same (.clearing i) hpc rfl
      · cases h
        exact goTo_spin_same .idle hpc rfl
    | clearing i =>
      simp only [hpc, Option.some.injEq] at h ⊢
      refine Or.inl ⟨trivial, ?_⟩
      rw [← h]
      exact goTo_spin_same .idle hpc rfl

/-! ## Owners -/

/-- What a call in progress has: marked and not returned yet, or still to free. -/
def TakePc.owned : TakePc → List Nat
  | .leaving r => r.toList
  | .testing i | .clearing i => [i]
  | _ => []

/-- All the blocks a thread has. -/
def inHand (s : LockedPool τ) (t : τ) : List Nat := (s.pc t).owned ++ s.held t

variable (bigDataPoolBlock) in
/-- `owner` is who has marked a block and not cleared it again. -/
structure TakeInv (owner : Nat → Option τ) (s : LockedPool τ) : Prop where
  use : ∀ i, s.bigDataUse i = (owner i).isSome
  inRange : ∀ i t, owner i = some t → i < bigDataPoolBlock
  inHand : ∀ t i, (inHand s t).count i = if owner i = some t then 1 else 0
  marking : ∀ t i, s.pc t = .marking i → i < bigDataPoolBlock ∧ owner i = none
  alone : Alone s.spin
  flag : FlagRight s.spin

theorem newLockedPool_inv : TakeInv bigDataPoolBlock (fun _ => none) (newLockedPool : LockedPool τ) := by
  refine ⟨fun _ => rfl, fun _ _ h => (by cases h), fun _ _ => rfl, fun _ _ h => (by cases h), ?_, ?_⟩
  · intro t t' h
    exact absurd rfl h
  · exact ⟨fun h => (by cases h), fun ⟨t, ht⟩ => (by cases ht)⟩

/-- No test is passed while another thread is between its test and its store. -/
def TakesApart (s : LockedPool τ) (e : TakeEv τ) : Prop := ∀ x, spinEv s e = some x → NoRace s.spin x

variable {owner : Nat → Option τ}

theorem TakeInv.spin {e : TakeEv τ} (hi : TakeInv bigDataPoolBlock owner s) (hrace : TakesApart s e)
    (h : takeStep bigDataPoolBlock s e = some s') : Alone s'.spin ∧ FlagRight s'.spin := by
  rcases takeStep_spins h with ⟨-, hsame⟩ | ⟨x, hx, hstep⟩
  · rw [hsame]
    exact ⟨hi.alone, hi.flag⟩
  · exact spin_keeps hi.flag hi.alone (hrace x hx) hstep

/-- A statement that neither marks nor clears a block. -/
theorem TakeInv.moved (hi : TakeInv bigDataPoolBlock owner s) (hspin : Alone s'.spin ∧ FlagRight s'.spin)
    (huse : s'.bigDataUse = s.bigDataUse) (hpc : ∀ t', t' ≠ t → s'.pc t' = s.pc t')
    (hheld : ∀ t', t' ≠ t → s'.held t' = s.held t')
    (hhand : ∀ i, (Socket.inHand s' t).count i = (Socket.inHand s t).count i)
    (hmark : ∀ i, s'.pc t = .marking i → i < bigDataPoolBlock ∧ s.bigDataUse i = false) :
    TakeInv bigDataPoolBlock owner s' where
  use i := by rw [huse, hi.use]
  inRange := hi.inRange
  inHand t' i := by
    by_cases hne : t' = t
    · rw [hne, hhand, hi.inHand]
    · rw [← hi.inHand]
      unfold Socket.inHand
      rw [hpc t' hne, hheld t' hne]
  marking t' i hm := by
    by_cases hne : t' = t
    · rw [hne] at hm
      obtain ⟨hlt, hfree⟩ := hmark i hm
      rw [hi.use i] at hfree
      exact ⟨hlt, Option.not_isSome_iff_eq_none.mp (by rw [hfree]; decide)⟩
    · rw [hpc t' hne] at hm
      exact hi.marking t' i hm
  alone := hspin.1
  flag := hspin.2

/-- What a thread has marked it has alone. -/
theorem marking_inv {i : Nat} (hi : TakeInv bigDataPoolBlock owner s) (hpc : s.pc t = .marking i)
    (hs : s' = { s.goTo t (.leaving (some i)) with bigDataUse := Function.update s.bigDataUse i true })
    (hspin : Alone s'.spin ∧ FlagRight s'.spin) : TakeInv bigDataPoolBlock (Function.update owner i (some t)) s' := by
  subst hs
  obtain ⟨hlt, hfree⟩ := hi.marking t i hpc
  have hhand := hi.inHand t
  simp only [Socket.inHand, hpc, TakePc.owned, List.nil_append] at hhand
  refine ⟨fun j => ?_, fun j t' hj => ?_, fun t' j => ?_, fun t' j hm => ?_, hspin.1, hspin.2⟩
  · show Function.update s.bigDataUse i true j = _
    by_cases hji : j = i
    · rw [hji, Function.update_self, Function.update_self]
      rfl
    · rw [Function.update_of_ne hji, Function.update_of_ne hji, hi.use]
  · by_cases hji : j = i
    · rw [hji]
      exact hlt
    · rw [Function.update_of_ne hji] at hj
      exact hi.inRange j t' hj
  · by_cases hne : t' = t
    · subst hne
      show (((s.goTo t' (.leaving (some i))).pc t').owned ++ s.held t').count j = _
      rw [goTo_self, List.count_append, hhand j]
      by_cases hji : j = i
      · rw [hji, Function.update_self, if_pos rfl, hfree, if_neg (by simp)]
        simp [TakePc.owned]
      · rw [Function.update_of_ne hji]
        simp [TakePc.owned, Ne.symm hji]
    · show (((s.goTo t (.leaving (some i))).pc t').owned ++ s.held t').count j = _
      rw [goTo_other hne]
      refine (hi.inHand t' j).trans ?_
      by_cases hji : j = i
      · rw [hji, Function.update_self, hfree, if_neg (by simp), if_neg (by simpa using Ne.symm hne)]
      · rw [Function.update_of_ne hji]
  · by_cases hne : t' = t
    · rw [hne] at hm
      have hself : (s.goTo t (.leaving (some i))).pc t = .marking j := hm
      rw [goTo_self] at hself
      cases hself
    · have hm : (s.goTo t (.leaving (some i))).pc t' = .marking j := hm
      rw [goTo_other hne] at hm
      have hin' : (s.pc t').spin = .inside := by rw [hm]; rfl
      have hin : (s.pc t).spin = .inside := by rw [hpc]; rfl
      exact absurd (hi.alone t' t (fun hout => by cases hin'.symm.trans hout) fun hout => by cases hin.symm.trans hout) hne

/-- What a thread frees was its own. -/
theorem clearing_inv {i : Nat} (hi : TakeInv bigDataPoolBlock owner s) (hpc : s.pc t = .clearing i)
    (hs : s' = { s.goTo t .idle with bigDataUse := Function.update s.bigDataUse i false })
    (hspin : Alone s'.spin ∧ FlagRight s'.spin) : TakeInv bigDataPoolBlock (Function.update owner i none) s' := by
  subst hs
  have hhand := hi.inHand t
  simp only [Socket.inHand, hpc, TakePc.owned, List.singleton_append] at hhand
  have hown : owner i = some t := by
    have hone := hhand i
    by_contra hnot
    rw [if_neg hnot, List.count_cons_self] at hone
    cases hone
  refine ⟨fun j => ?_, fun j t' hj => ?_, fun t' j => ?_, fun t' j hm => ?_, hspin.1, hspin.2⟩
  · show Function.update s.bigDataUse i false j = _
    by_cases hji : j = i
    · rw [hji, Function.update_self, Function.update_self]
      rfl
    · rw [Function.update_of_ne hji, Function.update_of_ne hji, hi.use]
  · by_cases hji : j = i
    · rw [hji, Function.update_self] at hj
      cases hj
    · rw [Function.update_of_ne hji] at hj
      exact hi.inRange j t' hj
  · by_cases hne : t' = t
    · subst hne
      show (((s.goTo t' .idle).pc t').owned ++ s.held t').count j = _
      rw [goTo_self]
      have hone := hhand j
      by_cases hji : j = i
      · rw [hji, hown, if_pos rfl, List.count_cons_self] at hone
        rw [hji, Function.update_self, if_neg (by simp)]
        simpa [TakePc.owned] using hone
      · rw [Function.update_of_ne hji, ← hone, List.count_cons_of_ne (Ne.symm hji)]
        rfl
    · show (((s.goTo t .idle).pc t').owned ++ s.held t').count j = _
      rw [goTo_other hne]
      refine (hi.inHand t' j).trans ?_
      by_cases hji : j = i
      · rw [hji, Function.update_self, hown, if_neg (by simpa using Ne.symm hne), if_neg (by simp)]
      · rw [Function.update_of_ne hji]
  · by_cases hne : t' = t
    · rw [hne] at hm
      have hself : (s.goTo t .idle).pc t = .marking j := hm
      rw [goTo_self] at hself
      cases hself
    · have hm : (s.goTo t .idle).pc t' = .marking j := hm
      rw [goTo_other hne] at hm
      obtain ⟨hlt, hfree⟩ := hi.marking t' j hm
      have hji : j ≠ i := by
        rintro rfl
        rw [hown] at hfree
        cases hfree
      exact ⟨hlt, by rw [Function.update_of_ne hji]; exact hfree⟩

/-- **One statement** that is no race. -/
theorem takeStep_inv {e : TakeEv τ} (hi : TakeInv bigDataPoolBlock owner s) (hrace : TakesApart s e)
    (h : takeStep bigDataPoolBlock s e = some s') : ∃ owner', TakeInv bigDataPoolBlock owner' s' := by
  have hspin := hi.spin hrace h
  cases e with
  | take t =>
    simp only [takeStep] at h
    split at h
    · rename_i hpc
      cases h
      refine ⟨owner, hi.moved (t := t) hspin rfl (fun t' hne => goTo_other hne _) (fun _ _ => rfl) (fun i => ?_) fun i hm => ?_⟩
      · simp only [inHand, goTo_self, hpc]
        rfl
      · rw [goTo_self] at hm
        cases hm
    · cases h
  | free t i =>
    simp only [takeStep] at h
    split at h
    · rename_i hpc
      cases h
      refine ⟨owner, hi.moved (t := t) hspin rfl (fun t' hne => goTo_other hne _) (fun t' hne => Function.update_of_ne hne _ _)
        (fun j => ?_) fun j hm => ?_⟩
      · have hpos : 0 < (s.held t).count i := List.count_pos_iff.mpr hpc.2
        show (((s.goTo t (.testing i)).pc t).owned ++ Function.update s.held t ((s.held t).erase i) t).count j = _
        rw [goTo_self, Function.update_self]
        simp only [inHand, hpc.1, TakePc.owned, List.nil_append, List.singleton_append]
        by_cases hji : j = i
        · subst hji
          rw [List.count_cons_self, List.count_erase_self]
          omega
        · rw [List.count_cons_of_ne (Ne.symm hji), List.count_erase_of_ne hji]
      · have hm : (s.goTo t (.testing i)).pc t = .marking j := hm
        rw [goTo_self] at hm
        cases hm
    · cases h
  | next t =>
    simp only [takeStep] at h
    unfold takeNext at h
    cases hpc : s.pc t with
    | idle =>
      rw [hpc] at h
      cases h
    | waiting =>
      simp only [hpc] at h
      split at h
      · cases h
        exact ⟨owner, hi⟩
      · cases h
        refine ⟨owner, hi.moved (t := t) hspin rfl (fun t' hne => goTo_other hne _) (fun _ _ => rfl) (fun i => ?_) fun i hm => ?_⟩
        · simp only [inHand, goTo_self, hpc]
          rfl
        · rw [goTo_self] at hm
          cases hm
    | passed =>
      simp only [hpc, Option.some.injEq] at h
      subst h
      refine ⟨owner, hi.moved (t := t) hspin rfl (fun t' hne => goTo_other hne _) (fun _ _ => rfl) (fun i => ?_) fun i hm => ?_⟩
      · show (((s.goTo t (.scanning 0)).pc t).owned ++ s.held t).count i = _
        rw [goTo_self]
        simp only [inHand, hpc]
        rfl
      · have hm : (s.goTo t (.scanning 0)).pc t = .marking i := hm
        rw [goTo_self] at hm
        cases hm
    | scanning i =>
      simp only [hpc] at h
      have hquiet : ∀ pc : TakePc, pc.owned = [] → s' = s.goTo t pc →
          (∀ j, pc = .marking j → j < bigDataPoolBlock ∧ s.bigDataUse j = false) → TakeInv bigDataPoolBlock owner s' := by
        rintro pc howned rfl hmark
        refine hi.moved (t := t) hspin rfl (fun t' hne => goTo_other hne _) (fun _ _ => rfl) (fun j => ?_) fun j hm => ?_
        · simp only [inHand, goTo_self, hpc, howned]
          rfl
        · rw [goTo_self] at hm
          exact hmark j hm
      split at h
      · rename_i hlt
        split at h
        · cases h
          exact ⟨owner, hquiet (.scanning (i + 1)) rfl rfl fun j hj => by cases hj⟩
        · rename_i hfree
          cases h
          refine ⟨owner, hquiet (.marking i) rfl rfl fun j hj => ?_⟩
          cases hj
          exact ⟨hlt, by simpa using hfree⟩
      · cases h
        exact ⟨owner, hquiet (.leaving none) rfl rfl fun j hj => by cases hj⟩
    | marking i =>
      simp only [hpc, Option.some.injEq] at h
      exact ⟨_, marking_inv hi hpc h.symm hspin⟩
    | leaving r =>
      simp only [hpc, Option.some.injEq] at h
      subst h
      refine ⟨owner, hi.moved (t := t) hspin rfl (fun t' hne => goTo_other hne _) (fun t' hne => Function.update_of_ne hne _ _)
        (fun i => ?_) fun i hm => ?_⟩
      · show (((s.goTo t .idle).pc t).owned ++ Function.update s.held t (r.toList ++ s.held t) t).count i = _
        rw [goTo_self, Function.update_self]
        simp only [inHand, hpc]
        rfl
      · have hm : (s.goTo t .idle).pc t = .marking i := hm
        rw [goTo_self] at hm
        cases hm
    | testing i =>
      have hown : s.bigDataUse i = true := by
        have hhand := hi.inHand t i
        simp only [inHand, hpc, TakePc.owned, List.singleton_append, List.count_cons_self] at hhand
        rw [hi.use]
        by_contra hnone
        rw [if_neg (fun he => hnone (by rw [he]; rfl))] at hhand
        cases hhand
      simp only [hpc, hown, if_true, Option.some.injEq] at h
      subst h
      refine ⟨owner, hi.moved (t := t) hspin rfl (fun t' hne => goTo_other hne _) (fun _ _ => rfl) (fun j => ?_) fun j hm => ?_⟩
      · simp only [inHand, goTo_self, hpc]
        rfl
      · rw [goTo_self] at hm
        cases hm
    | clearing i =>
      simp only [hpc, Option.some.injEq] at h
      exact ⟨_, clearing_inv hi hpc h.symm hspin⟩

/-- **Where no test is passed between another's test and store**, no block is held twice, and
    the blocks in use are the ones held. -/
theorem blocks_apart {es : List (TakeEv τ)} (hok : RunOk (takeStep bigDataPoolBlock) TakesApart newLockedPool es)
    (h : run (takeStep bigDataPoolBlock) newLockedPool es = some s) :
    (∀ t t' i, i ∈ inHand s t → i ∈ inHand s t' → t = t') ∧ (∀ t, (inHand s t).Nodup) ∧
      ∀ i, s.bigDataUse i = true ↔ i < bigDataPoolBlock ∧ ∃ t, i ∈ inHand s t := by
  obtain ⟨owner, hi⟩ := run_inv_ok (takeStep bigDataPoolBlock) TakesApart
    (I := fun s => ∃ owner, TakeInv bigDataPoolBlock owner s) (fun _ _ _ ⟨_, hi⟩ ho he => takeStep_inv hi ho he)
    ⟨_, newLockedPool_inv⟩ hok h
  have hmem : ∀ t i, i ∈ inHand s t ↔ owner i = some t := by
    intro t i
    rw [← List.count_pos_iff, hi.inHand]
    split
    · rename_i hown
      exact ⟨fun _ => hown, fun _ => Nat.one_pos⟩
    · rename_i hnot
      exact ⟨fun h0 => absurd h0 (Nat.lt_irrefl 0), fun hown => absurd hown hnot⟩
  refine ⟨fun t t' i ht ht' => ?_, fun t => ?_, fun i => ?_⟩
  · exact Option.some.inj (((hmem t i).mp ht).symm.trans ((hmem t' i).mp ht'))
  · rw [List.nodup_iff_count]
    intro i
    rw [hi.inHand]
    split
    · exact Nat.le_refl 1
    · exact Nat.zero_le 1
  · rw [hi.use, Option.isSome_iff_exists]
    constructor
    · rintro ⟨t, ht⟩
      exact ⟨hi.inRange i t ht, t, (hmem t i).mpr ht⟩
    · rintro ⟨-, t, ht⟩
      exact ⟨t, (hmem t i).mp ht⟩

instance [Fintype τ] (s : Spin τ) (e : SpinEv τ) : Decidable (NoRace s e) := by
  cases e <;> (unfold NoRace; infer_instance)

instance [Fintype τ] (s : LockedPool τ) (e : TakeEv τ) : Decidable (TakesApart s e) :=
  decidable_of_iff (∀ x ∈ spinEv s e, NoRace s.spin x) Iff.rfl

/-- Two threads of which one waits for the other; there is one block. -/
def oneAfterAnother : List (TakeEv Bool) :=
  [.take false, .next false, .take true, .next false, .next true, .next false, .next true, .next false, .next false,
    .next true, .next true, .next true, .next true]

theorem blocks_apart_two : ∃ s, run (takeStep 1) newLockedPool oneAfterAnother = some s ∧ 0 ∈ inHand s false ∧ 0 ∉ inHand s true := by
  have hrun : (run (takeStep 1) newLockedPool oneAfterAnother).map (fun s => inHand s false) = some [0] := by decide +kernel
  obtain ⟨s, hrun, hhand⟩ := Option.map_eq_some_iff.mp hrun
  obtain ⟨hone, -, -⟩ := blocks_apart (by decide +kernel) hrun
  have hmem : 0 ∈ inHand s false := by
    rw [hhand]
    decide
  refine ⟨s, hrun, hmem, fun htrue => ?_⟩
  exact absurd (hone false true 0 hmem htrue) (by decide)

/-! ## The race -/

variable (bigDataPoolBlock) in
/-- Some statements lead from `s` to such a state. -/
def Reaches (s : LockedPool τ) (P : LockedPool τ → Prop) : Prop :=
  ∃ es s', run (takeStep bigDataPoolBlock) s es = some s' ∧ P s'

theorem Reaches.step {e : TakeEv τ} {P : LockedPool τ → Prop} (h : takeStep bigDataPoolBlock s e = some s') (hp : P s') :
    Reaches bigDataPoolBlock s P := ⟨[e], s', (run_cons _).mpr ⟨s', h, rfl⟩, hp⟩

theorem Reaches.trans {P Q : LockedPool τ → Prop} (h : Reaches bigDataPoolBlock s P)
    (hpq : ∀ m, P m → Reaches bigDataPoolBlock m Q) : Reaches bigDataPoolBlock s Q := by
  obtain ⟨es, m, hm, hp⟩ := h
  obtain ⟨fs, s', hs', hq⟩ := hpq m hp
  exact ⟨es ++ fs, s', (run_append _).mpr ⟨m, hm, hs'⟩, hq⟩

/-- Where two threads are, the flag, and what is in use. -/
structure Pair (t t' : τ) (a b : TakePc) (lock : Bool) (use : Nat → Bool) (s : LockedPool τ) : Prop where
  left : s.pc t = a
  right : s.pc t' = b
  lock : s.bBigDataLock = lock
  use : s.bigDataUse = use

variable {t' : τ} {a b a' : TakePc} {lock : Bool} {use : Nat → Bool}

omit [DecidableEq τ] in
theorem Pair.swap (h : Pair t t' a b lock use s) : Pair t' t b a lock use s := ⟨h.right, h.left, h.lock, h.use⟩

theorem Pair.goTo (hne : t ≠ t') (h : Pair t t' a b lock use s) (pc : TakePc) : Pair t t' pc b lock use (s.goTo t pc) :=
  ⟨goTo_self pc, (goTo_other hne.symm pc).trans h.right, h.lock, h.use⟩

/-- A thread calls, and one that sees the flag down passes it. -/
theorem Pair.enter (hne : t ≠ t') (h : Pair t t' .idle b false use s) :
    Reaches bigDataPoolBlock s (Pair t t' .passed b false use) := by
  refine (Reaches.step (e := .take t) (if_pos h.left) (h.goTo hne .waiting)).trans fun m hm => ?_
  refine Reaches.step (e := .next t) ?_ (hm.goTo hne .passed)
  simp only [takeStep, takeNext, hm.left, hm.lock, Bool.false_eq_true, if_false]

/-- Past the test it stores, whatever the flag is by now. -/
theorem Pair.store (hne : t ≠ t') (h : Pair t t' .passed b lock use s) :
    Reaches bigDataPoolBlock s (Pair t t' (.scanning 0) b true use) := by
  have hgo := h.goTo hne (.scanning 0)
  have hstep : takeStep bigDataPoolBlock s (.next t) = some { s.goTo t (.scanning 0) with bBigDataLock := true } := by
    simp only [takeStep, takeNext, h.left]
  exact Reaches.step hstep ⟨hgo.left, hgo.right, rfl, hgo.use⟩

/-- The scan finds the first free block. -/
theorem Pair.scan (hne : t ≠ t') {i j : Nat} (h : Pair t t' (.scanning j) b lock use s) (hji : j ≤ i)
    (hlt : i < bigDataPoolBlock) (hused : ∀ k < i, use k = true) (hfree : use i = false) :
    Reaches bigDataPoolBlock s (Pair t t' (.marking i) b lock use) := by
  obtain ⟨n, rfl⟩ := Nat.exists_eq_add_of_le hji
  induction n generalizing j s with
  | zero =>
    refine Reaches.step (e := .next t) ?_ (h.goTo hne (.marking j))
    have hfree : s.bigDataUse j = false := by rw [h.use]; exact hfree
    have hlt : j < bigDataPoolBlock := hlt
    simp only [takeStep, takeNext, h.left, if_pos hlt, hfree, Bool.false_eq_true, if_false]
  | succ n ih =>
    have hj : s.bigDataUse j = true := by
      rw [h.use]
      exact hused j (by omega)
    have hin : j < bigDataPoolBlock := by omega
    refine (Reaches.step (e := .next t) ?_ (h.goTo hne (.scanning (j + 1)))).trans fun m hm => ?_
    · simp only [takeStep, takeNext, h.left, if_pos hin, hj, if_true]
    · rw [show j + (n + 1) = j + 1 + n by omega] at hlt hused hfree ⊢
      exact ih hm (by omega) hlt hused hfree

/-- A thread marks the block it has found, marked or not by now. -/
theorem Pair.mark (hne : t ≠ t') {i : Nat} (h : Pair t t' (.marking i) b lock use s) :
    Reaches bigDataPoolBlock s (Pair t t' (.leaving (some i)) b lock (Function.update use i true)) := by
  have hgo := h.goTo hne (.leaving (some i))
  have hstep : takeStep bigDataPoolBlock s (.next t) =
      some { s.goTo t (.leaving (some i)) with bigDataUse := Function.update s.bigDataUse i true } := by
    simp only [takeStep, takeNext, h.left]
  exact Reaches.step hstep ⟨hgo.left, hgo.right, hgo.lock, by rw [h.use]⟩

/-- **The race**: wherever the flag is down, two threads are in no call and a block is free, the
    two can come to have marked the same block, both about to return it. -/
theorem block_taken_twice {i : Nat} (hne : t ≠ t') (hleft : s.pc t = .idle) (hright : s.pc t' = .idle)
    (hdown : s.bBigDataLock = false) (hlt : i < bigDataPoolBlock) (hused : ∀ k < i, s.bigDataUse k = true)
    (hfree : s.bigDataUse i = false) :
    ∃ es s', run (takeStep bigDataPoolBlock) s es = some s' ∧ i ∈ inHand s' t ∧ i ∈ inHand s' t' := by
  have hstart : Pair t t' .idle .idle false s.bigDataUse s := ⟨hleft, hright, hdown, rfl⟩
  have hpassed : Reaches bigDataPoolBlock s (Pair t' t .passed .passed false s.bigDataUse) :=
    (hstart.enter hne).trans fun m hm => hm.swap.enter hne.symm
  have hstored : Reaches bigDataPoolBlock s (Pair t t' (.scanning 0) (.scanning 0) true s.bigDataUse) :=
    hpassed.trans fun m hm => (hm.store hne.symm).trans fun m hm => hm.swap.store hne
  have hfound : Reaches bigDataPoolBlock s (Pair t' t (.marking i) (.marking i) true s.bigDataUse) :=
    hstored.trans fun m hm => (hm.scan hne (Nat.zero_le i) hlt hused hfree).trans fun m hm =>
      hm.swap.scan hne.symm (Nat.zero_le i) hlt hused hfree
  obtain ⟨es, s', hrun, hend⟩ := hfound.trans fun m hm => (hm.mark hne.symm).trans fun m hm => hm.swap.mark hne
  refine ⟨es, s', hrun, ?_, ?_⟩
  · simp [inHand, hend.left, TakePc.owned]
  · simp [inHand, hend.right, TakePc.owned]

theorem block_taken_twice_new : ∃ es s', run (takeStep 1) (newLockedPool : LockedPool Bool) es = some s' ∧
    0 ∈ inHand s' false ∧ 0 ∈ inHand s' true :=
  block_taken_twice (by decide) rfl rfl rfl (by decide) (fun k hk => absurd hk (Nat.not_lt_zero k)) rfl

end StarServer.Socket

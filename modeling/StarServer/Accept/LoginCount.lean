/-
  StarServer.Accept.LoginCount — `s_nCurLoginCount` against the client threads.

  The accept thread increments after `pthread_create`, the client thread decrements in its
  last line; the one can come before the other. Modulo 2^32 the count is right whenever no
  accept is between the two (`step_counted`). In between it is one short, and for the only
  client of a server, gone before its accept has counted it, one short of 0.

  Proved:
    * `countRight_iff`: with one thread a slot, the count is wrong exactly between
      `pthread_create` and the increment with no thread left to count;
    * `login_count_right`: so it is right, at every state of a run with clear accepts, exactly
      when no thread decrements from 0;
    * `acceptClear_of_own`: over TCP accepts are clear when slots go offline by their own
      threads only;
    * `login_count_wraps`: a client gone before it was counted, and the next one's REGISTER.
-/

import Mathlib.Data.List.Perm.Subperm
import StarServer.Accept.Exclusive
import StarServer.Socket.Receive

namespace StarServer.Accept

open StarServer.Socket (Server Protocol defaultServer)

variable (srv : Server)

/-- No more than there are slots; and all the threads, while no accept is in progress. -/
structure CountRight (s : Host) : Prop where
  le : s.nCurLoginCount.toNat ≤ srv.nMaxConnection.toNat
  idle : s.accept = .idle → s.nCurLoginCount.toNat = undecremented s

/-- A thread finds something to take one from. -/
def CountPositive (s : Host) : HostEv → Prop
  | .thread t => ∀ th ∈ s.threads[t]?, th.pc = .closed → s.nCurLoginCount ≠ 0
  | _ => True

instance (s : Host) (e : HostEv) : Decidable (CountPositive s e) := by
  unfold CountPositive
  split <;> infer_instance

/-- The increment the accept thread still has to make. -/
def pendingCount (s : Host) : Nat := if s.accept = .counting then 1 else 0

/-- Modulo 2^32, the count and that increment are the threads. -/
def Counted (s : Host) : Prop := s.nCurLoginCount + BitVec.ofNat 32 (pendingCount s) = BitVec.ofNat 32 (undecremented s)

variable {srv}

/-! ## The threads -/

/-- Where each slot has one at most, there are no more than slots. -/
theorem countP_le_slots {l : List ClientThread} {p : ClientThread → Bool} {n : Nat}
    (hrange : ∀ x ∈ l, 0 ≤ x.slot ∧ x.slot < n)
    (hone : ∀ i : Nat, (l.countP fun x => x.slot == (i : Int) && p x) ≤ 1) : l.countP p ≤ n := by
  have hnodup : ((l.filter p).map fun x => x.slot.toNat).Nodup := by
    refine List.nodup_iff_count.mpr fun i => ?_
    rw [List.count_eq_countP, List.countP_map, List.countP_filter]
    refine Nat.le_trans (Nat.le_of_eq (List.countP_congr fun x hx => ?_)) (hone i)
    have hslot := (hrange x hx).1
    simp only [Function.comp_apply, Bool.and_eq_true, beq_iff_eq]
    exact and_congr_left fun _ => by omega
  have hsub : ((l.filter p).map fun x => x.slot.toNat) ⊆ List.range n := by
    intro i hi
    obtain ⟨x, hx, rfl⟩ := List.mem_map.mp hi
    have hslot := hrange x (List.mem_filter.mp hx).1
    exact List.mem_range.mpr (by omega)
  calc l.countP p = ((l.filter p).map fun x => x.slot.toNat).length := by
        rw [List.length_map, List.countP_eq_length_filter]
    _ ≤ (List.range n).length := (List.subperm_of_subset hnodup hsub).length_le
    _ = n := List.length_range

theorem isCounted_unfinished {pc : ThreadPc} (h : pc.isCounted = true) : pc.unfinished = true := by
  cases pc <;> first | rfl | cases h

/-- One thread a slot: no more threads than slots. -/
theorem HostInv.undecremented_le {s : Host} (hi : HostInv srv s) : undecremented s ≤ srv.nMaxConnection.toNat := by
  have hrange : ∀ x ∈ s.threads, 0 ≤ x.slot ∧ x.slot < (srv.nMaxConnection.toNat : Int) := by
    intro x hx
    obtain ⟨t, ht⟩ := List.getElem?_of_mem hx
    obtain ⟨h0, hn⟩ := hi.inRange t x ht
    exact ⟨h0, by omega⟩
  have hone (i : Nat) : (s.threads.countP fun x => x.slot == (i : Int) && x.pc.isCounted) ≤ 1 := by
    refine Nat.le_trans (List.countP_mono_left fun x _ hx => ?_) (hi.live_le i)
    rw [Bool.and_eq_true] at hx ⊢
    exact ⟨hx.1, isCounted_unfinished hx.2⟩
  exact countP_le_slots hrange hone

/-! ## The count -/

theorem counted_of_eq {s s' : Host} (h : Counted s) (hn : s'.nCurLoginCount = s.nCurLoginCount)
    (hp : pendingCount s' = pendingCount s) (hu : undecremented s' = undecremented s) : Counted s' := by
  unfold Counted at h ⊢
  rw [hn, hp, hu]
  exact h

/-- A thread that has its decrement before it, or behind it, still has. -/
theorem setThread_counted {s : Host} {t : Nat} {th : ClientThread} {pc : ThreadPc} (h : s.threads[t]? = some th)
    (hc : pc.isCounted = th.pc.isCounted) : (setThread s t th pc).countP (fun x => x.pc.isCounted) = undecremented s := by
  have := setThread_countP h pc fun x => x.pc.isCounted
  simp only [hc] at this
  unfold undecremented
  omega

/-- What thread `t`'s next statement does to the count. -/
theorem threadStep_counts {s s' : Host} {t : Nat} (h : threadStep s t = some s') :
    ∃ th, s.threads[t]? = some th ∧ s'.accept = s.accept ∧
      ((th.pc ≠ .closed ∧ s'.nCurLoginCount = s.nCurLoginCount ∧ undecremented s' = undecremented s) ∨
        (th.pc = .closed ∧ s'.nCurLoginCount = s.nCurLoginCount - 1 ∧ undecremented s' + 1 = undecremented s)) := by
  obtain ⟨th, hth, hmoves⟩ := threadStep_cases h
  refine ⟨th, hth, ?_⟩
  cases hmoves with
  | count hpc =>
    refine ⟨rfl, Or.inr ⟨hpc, rfl, ?_⟩⟩
    have hcount := setThread_countP hth .counted fun x => x.pc.isCounted
    have hdone : (ThreadPc.counted).isCounted = false := rfl
    have hdue : th.pc.isCounted = true := by rw [hpc]; rfl
    simp only [hdone, hdue, if_true, Bool.false_eq_true, if_false, Nat.add_zero] at hcount
    exact hcount
  | start hpc => exact ⟨rfl, Or.inl ⟨by rw [hpc]; decide, rfl, setThread_counted hth (by rw [hpc]; rfl)⟩⟩
  | leave hpc => exact ⟨rfl, Or.inl ⟨by rw [hpc]; decide, rfl, setThread_counted hth (by rw [hpc]; rfl)⟩⟩
  | close hpc => exact ⟨rfl, Or.inl ⟨by rw [hpc]; decide, rfl, setThread_counted hth (by rw [hpc]; rfl)⟩⟩
  | finish hpc => exact ⟨rfl, Or.inl ⟨by rw [hpc]; decide, rfl, setThread_counted hth (by rw [hpc]; rfl)⟩⟩

/-- What the accept thread's next statement does to it. -/
inductive AcceptCounts (s s' : Host) : Prop
  | same : s'.nCurLoginCount = s.nCurLoginCount → undecremented s' = undecremented s → s.accept ≠ .counting →
      s'.accept ≠ .counting → AcceptCounts s s'
  | created : s'.nCurLoginCount = s.nCurLoginCount → undecremented s' = undecremented s + 1 → s.accept ≠ .counting →
      s'.accept = .counting → AcceptCounts s s'
  | counted : s'.nCurLoginCount = s.nCurLoginCount + 1 → undecremented s' = undecremented s → s.accept = .counting →
      s'.accept = .idle → AcceptCounts s s'

theorem joinThread_counts {s s' : Host} {sock : Nat} {i : Int} (ha : s.accept = .found sock i)
    (h : joinThread s sock i = some s') : AcceptCounts s s' := by
  have hne : s.accept ≠ .counting := by rw [ha]; intro h; cases h
  unfold joinThread at h
  simp only at h
  split at h
  · cases h
    exact .same rfl rfl hne (by intro h; cases h)
  · split at h
    · cases h
      exact .same rfl rfl hne (by intro h; cases h)
    · rename_i th hth
      split at h
      · rename_i hpc
        cases h
        exact .same rfl (setThread_counted hth (by rw [hpc]; rfl)) hne (by intro h; cases h)
      · cases h
        exact .same rfl rfl hne (by intro h; cases h)
      · cases h

theorem acceptStep_counts {s s' : Host} {createOk : Bool} (h : acceptStep srv s createOk = some s') : AcceptCounts s s' := by
  cases ha : s.accept with
  | counting =>
    simp only [acceptStep, ha] at h
    cases h
    exact .counted rfl rfl ha rfl
  | creating sock i =>
    have hne : s.accept ≠ .counting := by rw [ha]; intro h; cases h
    simp only [acceptStep, ha] at h
    split at h
    · cases h
      refine .created rfl ?_ hne rfl
      unfold undecremented
      rw [List.countP_append]
      rfl
    · cases h
      exact .same rfl rfl hne (by intro h; cases h)
  | found sock i =>
    have hne : s.accept ≠ .counting := by rw [ha]; intro h; cases h
    simp only [acceptStep, ha] at h
    split at h
    · split at h
      · cases h
        exact .same rfl rfl hne (by intro h; cases h)
      · split at h
        · exact joinThread_counts ha h
        · cases h
          exact .same rfl rfl hne (by intro h; cases h)
    · cases h
      exact .same rfl rfl hne (by intro h; cases h)
  | _ =>
    have hne : s.accept ≠ .counting := by rw [ha]; intro h; cases h
    simp only [acceptStep, ha] at h
    repeat' split at h
    all_goals
      cases h
      exact .same rfl rfl hne (by intro h; cases h)

theorem step_counted {s s' : Host} {e : HostEv} (hc : Counted s) (h : hostStep srv s e = some s') : Counted s' := by
  cases e with
  | offline i =>
    cases h
    exact hc
  | thread t =>
    obtain ⟨th, -, ha, hcase⟩ := threadStep_counts h
    have hp : pendingCount s' = pendingCount s := by
      unfold pendingCount
      rw [ha]
    rcases hcase with ⟨-, hn, hu⟩ | ⟨-, hn, hu⟩
    · exact counted_of_eq hc hn hp hu
    · unfold Counted at hc ⊢
      rw [← hu] at hc
      rw [hn, hp, BitVec.ofNat_add] at *
      have hmove : s.nCurLoginCount - 1 + BitVec.ofNat 32 (pendingCount s) =
          s.nCurLoginCount + BitVec.ofNat 32 (pendingCount s) - 1 := by
        rw [BitVec.sub_eq_add_neg, BitVec.sub_eq_add_neg]
        ac_rfl
      rw [hmove, hc]
      exact BitVec.add_sub_cancel _ _
  | accept createOk =>
    cases acceptStep_counts h with
    | same hn hu h0 h1 =>
      refine counted_of_eq hc hn ?_ hu
      unfold pendingCount
      rw [if_neg h0, if_neg h1]
    | created hn hu h0 h1 =>
      unfold Counted pendingCount at hc ⊢
      rw [if_neg h0] at hc
      rw [hn, hu, if_pos h1, BitVec.ofNat_add, ← hc]
      exact congrArg (· + _) (BitVec.add_zero _).symm
    | counted hn hu h0 h1 =>
      unfold Counted pendingCount at hc ⊢
      have hne : s'.accept ≠ .counting := by rw [h1]; intro h; cases h
      rw [if_pos h0] at hc
      rw [hn, hu, if_neg hne, ← hc]
      exact BitVec.add_zero _

/-- The count is a number of threads, or one short of it while an accept is at its increment. -/
theorem Counted.toNat {s : Host} (hc : Counted s) (hu : undecremented s < 2 ^ 31) :
    (s.accept ≠ .counting → s.nCurLoginCount.toNat = undecremented s) ∧
      (s.accept = .counting → 0 < undecremented s → s.nCurLoginCount.toNat + 1 = undecremented s) ∧
      (s.accept = .counting → undecremented s = 0 → s.nCurLoginCount.toNat = 2 ^ 32 - 1) := by
  have hlt := s.nCurLoginCount.isLt
  have heq := congrArg BitVec.toNat hc
  rw [BitVec.toNat_add, BitVec.toNat_ofNat, BitVec.toNat_ofNat] at heq
  unfold pendingCount at heq
  refine ⟨fun ha => ?_, fun ha hpos => ?_, fun ha h0 => ?_⟩
  · rw [if_neg ha] at heq
    omega
  · rw [if_pos ha] at heq
    omega
  · rw [if_pos ha, h0] at heq
    omega

variable (hint : srv.nMaxConnection < 2 ^ 31)
include hint

/-- **Where the count is wrong**: at the increment, with no thread left to count. -/
theorem countRight_iff {s : Host} (hi : HostInv srv s) (hc : Counted s) :
    CountRight srv s ↔ (s.accept = .counting → 0 < undecremented s) := by
  have hle := hi.undecremented_le
  obtain ⟨h1, h2, h3⟩ := hc.toNat (by omega)
  constructor
  · intro hr ha
    by_contra h0
    have := h3 ha (by omega)
    have := hr.le
    omega
  · intro hpos
    by_cases ha : s.accept = .counting
    · have := h2 ha (hpos ha)
      refine ⟨by omega, fun hidle => ?_⟩
      rw [ha] at hidle
      cases hidle
    · have := h1 ha
      exact ⟨by omega, fun _ => this⟩

/-- A statement keeps the count right exactly when it is no decrement from 0. -/
theorem step_countRight {s s' : Host} {e : HostEv} (hi : HostInv srv s) (hc : Counted s) (hr : CountRight srv s)
    (ha : AcceptClear srv s e) (h : hostStep srv s e = some s') : CountRight srv s' ↔ CountPositive s e := by
  have hle := hi.undecremented_le
  have hr := (countRight_iff hint hi hc).mp hr
  rw [countRight_iff hint (step_hostInv hi ha h) (step_counted hc h)]
  cases e with
  | offline i =>
    cases h
    exact ⟨fun _ => trivial, fun _ => hr⟩
  | accept createOk =>
    refine ⟨fun _ => trivial, fun _ h1 => ?_⟩
    cases acceptStep_counts h with
    | same hn hu h0 h1' => exact absurd h1 h1'
    | created hn hu h0 h1' => omega
    | counted hn hu h0 h1' =>
      rw [h1] at h1'
      cases h1'
  | thread t =>
    obtain ⟨th, hth, hacc, hcase⟩ := threadStep_counts h
    have hpos : CountPositive s (.thread t) ↔ (th.pc = .closed → s.nCurLoginCount ≠ 0) := by
      show (∀ x ∈ s.threads[t]?, x.pc = .closed → s.nCurLoginCount ≠ 0) ↔ _
      rw [hth]
      exact ⟨fun hall => hall th rfl, fun hp x hx => by cases hx; exact hp⟩
    rw [hpos, hacc]
    rcases hcase with ⟨hpc, -, hu⟩ | ⟨hpc, -, hu⟩
    · rw [hu]
      exact ⟨fun _ h' => absurd h' hpc, fun _ => hr⟩
    · obtain ⟨h1, h2, -⟩ := hc.toNat (by omega)
      have h0 : s.nCurLoginCount ≠ 0 ↔ s.nCurLoginCount.toNat ≠ 0 := by
        rw [not_iff_not, ← BitVec.toNat_inj]
        rfl
      by_cases hcount : s.accept = .counting
      · have := h2 hcount (hr hcount)
        refine ⟨fun h' _ => h0.mpr ?_, fun h' _ => ?_⟩
        · have := h' hcount
          omega
        · have := h0.mp (h' hpc)
          omega
      · have := h1 hcount
        exact ⟨fun _ _ => h0.mpr (by omega), fun _ h' => absurd h' hcount⟩

/-- **The login count**: in a run with clear accepts it is right at every state exactly when no
    client thread decrements it from 0. -/
theorem login_count_right {es : List HostEv} {s : Host}
    (hclear : Runs.RunOk (hostStep srv) (AcceptClear srv) newHost es) (h : Runs.run (hostStep srv) newHost es = some s) :
    Runs.RunAll (hostStep srv) (CountRight srv) newHost es ↔ Runs.RunOk (hostStep srv) CountPositive newHost es := by
  have hstart : CountRight srv newHost := ⟨Nat.zero_le _, fun _ => rfl⟩
  refine @Runs.runAll_iff_runOk_of _ _ (hostStep srv) (fun s => HostInv srv s ∧ Counted s) (CountRight srv)
    (AcceptClear srv) CountPositive ?_ _ _ es ⟨newHost_inv, rfl⟩ hstart hclear h
  intro s e s' hi hr ha he
  exact ⟨step_countRight hint hi.1 hi.2 hr ha he, fun _ => ⟨step_hostInv hi.1 ha he, step_counted hi.2 he⟩⟩

omit hint

/-! ## Slots that go offline by their own threads -/

/-- Only a thread in its loop takes its slot offline. -/
def OwnOffline (s : Host) : HostEv → Prop
  | .offline i => ∃ th ∈ s.threads, th.slot = i ∧ th.pc = .running
  | _ => True

/-- A thread before its first line, and the accept thread before it creates one, are online. -/
structure OnlineInv (s : Host) : Prop where
  created : ∀ (t : Nat) (th : ClientThread), s.threads[t]? = some th → th.pc = .created → s.table.online th.slot = true
  found : ∀ sock i, s.accept = .found sock i → 0 ≤ i → s.table.online i = false
  creating : ∀ sock i, s.accept = .creating sock i → s.table.online i = true

/-- The accept thread has a slot whose flag it knows. -/
def AcceptPc.atSlot : AcceptPc → Bool
  | .found _ _ | .creating _ _ => true
  | _ => false

theorem OnlineInv.clear {s : Host} {e : HostEv} (htcp : srv.nProtocol = .tcp) (hi : HostInv srv s) (ho : OnlineInv s) :
    AcceptClear srv s e := by
  unfold AcceptClear
  split
  · split
    · rename_i sock i ha
      rw [htcp]
      intro th hth hslot hpc
      obtain ⟨t, ht⟩ := List.getElem?_of_mem hth
      have hon := ho.created t th ht hpc
      have hoff := ho.found sock i ha (hslot ▸ (hi.inRange t th ht).1)
      rw [hslot, hoff] at hon
      cases hon
    · trivial
  · trivial

/-- A thread has moved: what is created now was before. -/
theorem OnlineInv.moved {s s' : Host} (ho : OnlineInv s) (ha : s'.accept = s.accept)
    (hon : s'.table.online = s.table.online)
    (hth : ∀ (t : Nat) (x : ClientThread), s'.threads[t]? = some x → x.pc = .created →
      ∃ y, s.threads[t]? = some y ∧ y.slot = x.slot ∧ y.pc = .created) : OnlineInv s' := by
  refine ⟨fun t x hx hpc => ?_, fun sock i hacc => ?_, fun sock i hacc => ?_⟩
  · obtain ⟨y, hy, hslot, hyc⟩ := hth t x hx hpc
    rw [hon, ← hslot]
    exact ho.created t y hy hyc
  · rw [hon]
    exact ho.found sock i (ha ▸ hacc)
  · rw [hon]
    exact ho.creating sock i (ha ▸ hacc)

theorem threadStep_online {s s' : Host} {t : Nat} (ho : OnlineInv s) (h : threadStep s t = some s') : OnlineInv s' := by
  have hkeep {th : ClientThread} {pc : ThreadPc} (hth : s.threads[t]? = some th) (hpc : pc ≠ .created) (t' : Nat)
      (x : ClientThread) (hx : (setThread s t th pc)[t']? = some x) (hxc : x.pc = .created) :
      ∃ y, s.threads[t']? = some y ∧ y.slot = x.slot ∧ y.pc = .created := by
    rcases setThread_get hth hx with ⟨rfl, rfl⟩ | ⟨-, hx⟩
    · exact absurd hxc hpc
    · exact ⟨x, hx, rfl, hxc⟩
  obtain ⟨th, hth, hmoves⟩ := threadStep_cases h
  cases hmoves <;> exact ho.moved rfl rfl (hkeep hth (by decide))

theorem offline_online {s : Host} (hi : HostInv srv s) (ho : OnlineInv s) {i : Int} (hown : OwnOffline s (.offline i)) :
    OnlineInv { s with table := storeOnline s.table i false } := by
  obtain ⟨th0, hth0, rfl, hrun⟩ := hown
  obtain ⟨t0, ht0⟩ := List.getElem?_of_mem hth0
  have hlive : th0.pc.unfinished = true := by rw [hrun]; rfl
  refine ⟨fun t th hth hpc => ?_, fun sock j hacc hj => ?_, fun sock j hacc => ?_⟩
  · have hne : th.slot ≠ th0.slot := by
      intro he
      have hlive' : th.pc.unfinished = true := by rw [hpc]; rfl
      obtain rfl := hi.unique hth ht0 he hlive' hlive
      obtain rfl := Option.some.inj (hth.symm.trans ht0)
      rw [hpc] at hrun
      cases hrun
    exact (Function.update_of_ne hne _ _).trans (ho.created t th hth hpc)
  · by_cases hji : j = th0.slot
    · rw [hji]
      exact Function.update_self _ _ _
    · exact (Function.update_of_ne hji _ _).trans (ho.found sock j hacc hj)
  · have hinv := hi.accept
    unfold AcceptInv at hinv
    have hacc' : s.accept = .creating sock j := hacc
    rw [hacc'] at hinv
    have hne : j ≠ th0.slot := by
      rintro rfl
      rw [hinv.2.1 t0 th0 ht0 rfl] at hlive
      cases hlive
    exact (Function.update_of_ne hne _ _).trans (ho.creating sock j hacc)

/-- A statement that leaves the flags and the created threads as they are, and the accept
    thread at neither place. -/
theorem OnlineInv.elsewhere {s s' : Host} (ho : OnlineInv s) (hon : s'.table.online = s.table.online)
    (hth : ∀ (t : Nat) (x : ClientThread), s'.threads[t]? = some x → x.pc = .created → s.threads[t]? = some x)
    (hat : s'.accept.atSlot = false) : OnlineInv s' := by
  refine ⟨fun t x hx hpc => ?_, fun sock i hacc => ?_, fun sock i hacc => ?_⟩
  · rw [hon]
    exact ho.created t x (hth t x hx hpc) hpc
  · rw [hacc] at hat
    cases hat
  · rw [hacc] at hat
    cases hat

theorem joinThread_online {s s' : Host} {sock : Nat} {i : Int} (ho : OnlineInv s) (h : joinThread s sock i = some s') :
    OnlineInv s' := by
  have hfailed : OnlineInv { s with accept := .taking sock i } :=
    ho.elsewhere rfl (fun _ _ hx _ => hx) rfl
  unfold joinThread at h
  simp only at h
  split at h
  · cases h
    exact hfailed
  · split at h
    · cases h
      exact hfailed
    · rename_i t hid th hth
      split at h
      · cases h
        refine ho.elsewhere rfl (fun t' x hx hpc => ?_) rfl
        rcases setThread_get hth hx with ⟨rfl, rfl⟩ | ⟨-, hx⟩
        · cases hpc
        · exact hx
      · cases h
        exact hfailed
      · cases h

theorem acceptStep_online {s s' : Host} {createOk : Bool} (htcp : srv.nProtocol = .tcp) (hi : HostInv srv s)
    (ho : OnlineInv s) (h : acceptStep srv s createOk = some s') : OnlineInv s' := by
  have hinv := hi.accept
  unfold AcceptInv at hinv
  cases ha : s.accept with
  | idle =>
    simp only [acceptStep, ha] at h
    cases h
    exact ho.elsewhere rfl (fun _ _ hx _ => hx) rfl
  | scanning sock i =>
    simp only [acceptStep, ha] at h
    by_cases hlt : (i : Int) < srv.nMaxConnection
    · rw [if_pos hlt] at h
      by_cases hon : s.table.online i = true
      · rw [if_pos hon] at h
        cases h
        exact ho.elsewhere rfl (fun _ _ hx _ => hx) rfl
      · rw [if_neg hon] at h
        cases h
        refine ⟨ho.created, fun sock' j hacc _ => ?_, (fun _ _ hacc => by cases hacc)⟩
        cases hacc
        exact Bool.eq_false_iff.mpr hon
    · rw [if_neg hlt] at h
      cases h
      refine ⟨ho.created, fun sock' j hacc hj => ?_, (fun _ _ hacc => by cases hacc)⟩
      cases hacc
      exact absurd hj (by decide)
  | found sock i =>
    simp only [acceptStep, ha, htcp] at h
    split at h
    · cases h
      exact ho.elsewhere rfl (fun _ _ hx _ => hx) rfl
    · split at h
      · exact joinThread_online ho h
      · cases h
        exact ho.elsewhere rfl (fun _ _ hx _ => hx) rfl
  | taking sock i =>
    simp only [acceptStep, ha, htcp] at h
    cases h
    exact ho.elsewhere rfl (fun _ _ hx _ => hx) rfl
  | taken sock i =>
    simp only [acceptStep, ha, htcp] at h
    cases h
    refine ⟨fun t x hx hpc => ?_, (fun _ _ hacc => by cases hacc), fun sock' j hacc => ?_⟩
    · by_cases hslot : x.slot = i
      · rw [hslot]
        exact Function.update_self _ _ _
      · exact (Function.update_of_ne hslot _ _).trans (ho.created t x hx hpc)
    · cases hacc
      exact Function.update_self _ _ _
  | creating sock i =>
    rw [ha] at hinv
    simp only [acceptStep, ha] at h
    split at h
    · cases h
      refine ⟨fun t x hx hpc => ?_, (fun _ _ hacc => by cases hacc), (fun _ _ hacc => by cases hacc)⟩
      rcases append_get hx with hx | ⟨-, rfl⟩
      · exact ho.created t x hx hpc
      · exact ho.creating sock i ha
    · cases h
      refine ⟨fun t x hx hpc => ?_, (fun _ _ hacc => by cases hacc), (fun _ _ hacc => by cases hacc)⟩
      have hne : x.slot ≠ i := by
        intro he
        have hdone := hinv.2.1 t x hx he
        rw [hpc] at hdone
        cases hdone
      exact (Function.update_of_ne hne _ _).trans (ho.created t x hx hpc)
  | counting =>
    simp only [acceptStep, ha] at h
    cases h
    exact ho.elsewhere rfl (fun _ _ hx _ => hx) rfl

/-- **Over TCP, accepts are clear** when slots go offline by their own threads only. -/
theorem acceptClear_of_own (htcp : srv.nProtocol = .tcp) {es : List HostEv}
    (hown : Runs.RunOk (hostStep srv) OwnOffline newHost es) :
    Runs.RunOk (hostStep srv) (AcceptClear srv) newHost es := by
  have hstart : OnlineInv newHost :=
    ⟨(fun t th h => nomatch h), (fun _ _ h => nomatch h), (fun _ _ h => nomatch h)⟩
  have hall := Runs.runAll_of_inv (hostStep srv) (I := fun s => HostInv srv s ∧ OnlineInv s) OwnOffline ?_
    ⟨newHost_inv, hstart⟩ hown
  · exact @Runs.RunAll.runOk _ _ (hostStep srv) (fun s => HostInv srv s ∧ OnlineInv s) OwnOffline (AcceptClear srv)
      (fun _ _ hi _ => hi.2.clear htcp hi.1) newHost es hall hown
  · intro s e s' hi hown he
    refine ⟨step_hostInv hi.1 (hi.2.clear htcp hi.1) he, ?_⟩
    cases e with
    | accept createOk => exact acceptStep_online htcp hi.1 hi.2 he
    | thread t => exact threadStep_online hi.2 he
    | offline i =>
      cases he
      exact offline_online hi.1 hi.2 hown

/-! ## Runs -/

/-- A client's life, counted before it ends, and the next one's. -/
theorem login_count_right_two :
    let es := acceptSteps ++ [.accept true] ++ acceptSteps ++ [.thread 0, .offline 0, .thread 0, .thread 0, .thread 0]
    (∃ s, Runs.run (hostStep defaultServer) newHost es = some s ∧ s.nCurLoginCount = 1) ∧
      Runs.RunAll (hostStep defaultServer) (CountRight defaultServer) newHost es := by
  intro es
  obtain ⟨s, hrun, hn⟩ : ∃ s, Runs.run (hostStep defaultServer) newHost es = some s ∧ s.nCurLoginCount = 1 :=
    ⟨_, rfl, by decide +kernel⟩
  have hclear : Runs.RunOk (hostStep defaultServer) (AcceptClear defaultServer) newHost es := by decide +kernel
  have hpos : Runs.RunOk (hostStep defaultServer) CountPositive newHost es := by decide +kernel
  exact ⟨⟨s, hrun, hn⟩, (login_count_right (by decide) hclear hrun).mpr hpos⟩

/-- **A client gone before its accept has counted it**: 2^32 - 1 players, and a REGISTER with
    versions new enough is answered that the server is full. -/
theorem login_count_wraps : ∃ s, Runs.run (hostStep defaultServer) newHost
    (List.replicate 6 (.accept true) ++ [.thread 0, .offline 0, .thread 0, .thread 0, .thread 0]) = some s ∧
    s.nCurLoginCount.toNat = 4294967295 ∧ ¬ CountRight defaultServer s ∧
    Socket.registerVerdict defaultServer ⟨s.nCurLoginCount, fun _ => true, 0⟩ ⟨2, 86, 0⟩ ⟨1, 8, 0⟩ =
      Socket.StSockMsg.serverFull := by
  refine ⟨_, rfl, by decide +kernel, fun h => absurd h.le (by decide +kernel), by decide +kernel⟩

end StarServer.Accept

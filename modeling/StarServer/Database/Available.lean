/-
  StarServer.Database.Available — whether a resource can still be had.

  A failed reconnect leaves NULL in `pMySql`. The scan skips it, so nobody locks that resource
  again, and only a query on a locked resource reconnects: the pool gets smaller with each
  outage, and with its last connection gone `STSV_DBFindAndLockResource` spins with
  `s_MutexFreeDBIdx` held while `STSV_DBHaveConnect` still says true.

  Proved:
    * `connected_step`: a call takes the last connection exactly if it is the query of `losesLast`;
    * `pool_available`: a resource can be had all along a run exactly if no query of it is one;
    * `outage_empties_pool`: one lost connection to the server, for a pool of one.
-/

import StarServer.Database.Queries

namespace StarServer.Database

open Runs

variable (nDBMaxConnect : Nat)

/-- With nothing held the scan returns; and what `STSV_DBHaveConnect` says is so. -/
structure Available (s : Db) : Prop where
  found : (∀ i < nDBMaxConnect, (s.resource i).sqlLock = false) → ∃ fuel foundIdx, scan nDBMaxConnect s fuel 0 = some foundIdx
  connected : stsvDBHaveConnect s = true → ∃ i < nDBMaxConnect, (s.resource i).pMySql = true

/-- The call is a query whose reconnect fails on the last resource that has a connection. -/
def losesLast (s : Db) (e : DbCall) : Bool :=
  match reconnects s e with
  | some (idx, false) => (List.range nDBMaxConnect).all fun i => i == idx || !(s.resource i).pMySql
  | _ => false

variable {nDBMaxConnect} {s s' : Db} {e : DbCall}

theorem available_iff (hhave : s.haveConnectDB = true) :
    Available nDBMaxConnect s ↔ ∃ i < nDBMaxConnect, (s.resource i).pMySql = true := by
  constructor
  · intro h
    exact h.connected hhave
  · rintro ⟨i, hi, hsql⟩
    refine ⟨fun hfree => ⟨i + 1, scan_complete (Nat.zero_le i) hi ⟨hfree i hi, hsql⟩ (by omega)⟩, fun _ => ⟨i, hi, hsql⟩⟩

theorem reconnects_inRange (h : dbStep nDBMaxConnect s e = some s') {idx : Nat} {connected : Bool}
    (hre : reconnects s e = some (idx, connected)) : idx < nDBMaxConnect := by
  cases e with
  | query i a =>
    simp only [reconnects] at hre
    split at hre
    · cases hre
      exact (onResource_some h).1
    · cases hre
  | realQuery i a =>
    simp only [reconnects] at hre
    split at hre
    · cases hre
      exact (onResource_some h).1
    · cases hre
  | _ => cases hre

theorem connected_step (h : dbStep nDBMaxConnect s e = some s') (hs : ∃ i < nDBMaxConnect, (s.resource i).pMySql = true) :
    (∃ i < nDBMaxConnect, (s'.resource i).pMySql = true) ↔ losesLast nDBMaxConnect s e = false := by
  simp only [pMySql_step h]
  unfold losesLast reconnected
  rcases hre : reconnects s e with _ | ⟨idx, connected⟩
  · simpa using hs
  · have hidx := reconnects_inRange h hre
    cases connected with
    | true =>
      simp only [iff_true]
      exact ⟨idx, hidx, by simp⟩
    | false =>
      simp only [List.all_eq_false, List.mem_range, Bool.or_eq_true, beq_iff_eq, Bool.not_eq_true', not_or,
        Bool.not_eq_false]
      refine exists_congr fun i => and_congr_right fun _ => ?_
      by_cases hi : i = idx <;> simp [hi]

theorem pool_available {connected : Nat → Bool} (hconn : ∃ i < nDBMaxConnect, connected i = true) {calls : List DbCall}
    {t : Db} (h : run (dbStep nDBMaxConnect) (connectedDb nDBMaxConnect connected) calls = some t) :
    RunAll (dbStep nDBMaxConnect) (Available nDBMaxConnect) (connectedDb nDBMaxConnect connected) calls ↔
      RunOk (dbStep nDBMaxConnect) (fun s e => losesLast nDBMaxConnect s e = false)
        (connectedDb nDBMaxConnect connected) calls := by
  obtain ⟨hres, hhave, -⟩ := connectAll connected nDBMaxConnect
  have hstart : (connectedDb nDBMaxConnect connected).haveConnectDB = true := hhave.mpr hconn
  refine runAll_iff_runOk_of (dbStep nDBMaxConnect) (I := fun s => s.haveConnectDB = true)
    (A := fun _ _ => True) (fun s e s' hi hp _ he => ?_) hstart ?_ (runOk_trivial _ _ _) h
  · have hi' : s'.haveConnectDB = true := (haveConnectDB_step he).trans hi
    refine ⟨?_, fun _ => hi'⟩
    rw [available_iff hi', connected_step he ((available_iff hi).mp hp)]
  · rw [available_iff hstart]
    obtain ⟨i, hi, hc⟩ := hconn
    exact ⟨i, hi, by simp [hres, hi, hc]⟩

/-- A pool of two, where the reconnect of one resource fails. -/
theorem pool_available_after_failure : ∃ t,
    run (dbStep 2) (connectedDb 2 fun _ => true) [.findAndLock, .realQuery 0 ⟨1, 2013, false, 0, none⟩, .unlock 0] = some t ∧
      RunAll (dbStep 2) (Available 2) (connectedDb 2 fun _ => true)
        [.findAndLock, .realQuery 0 ⟨1, 2013, false, 0, none⟩, .unlock 0] :=
  ⟨_, rfl, (pool_available ⟨0, by decide, rfl⟩ rfl).mpr (by decide +kernel)⟩

/-- The server goes away during a query (2013) and does not answer the reconnect; the resource
    is unlocked, and nothing is held. -/
def outage : List DbCall := [.findAndLock, .query 0 ⟨1, 2013, false, 0, none⟩, .unlock 0]

/-- Nothing is held, the scan does not end, and `STSV_DBHaveConnect` says there is a connection. -/
theorem outage_empties_pool : ∃ t, run (dbStep 1) (connectedDb 1 fun _ => true) outage = some t ∧
    (∀ i < 1, (t.resource i).sqlLock = false) ∧ (∀ fuel, scan 1 t fuel 0 = none) ∧ stsvDBHaveConnect t = true ∧
      ∀ i < 1, (t.resource i).pMySql = false := by
  have hrun : (run (dbStep 1) (connectedDb 1 fun _ => true) outage).any
      (fun t => !(t.resource 0).sqlLock && stsvDBHaveConnect t && !(t.resource 0).pMySql) = true := by decide +kernel
  obtain ⟨t, ht, hend⟩ := (Option.any_eq_true _ _).mp hrun
  simp only [Bool.and_eq_true, Bool.not_eq_true'] at hend
  obtain ⟨⟨hlock, hhave⟩, hsql⟩ := hend
  have hnone : ∀ i < 1, (t.resource i).pMySql = false := by
    intro i hi
    obtain rfl : i = 0 := by omega
    exact hsql
  refine ⟨t, ht, ?_, ?_, hhave, hnone⟩
  · intro i hi
    obtain rfl : i = 0 := by omega
    exact hlock
  · intro fuel
    rcases hscan : scan 1 t fuel 0 with _ | j
    · rfl
    · obtain ⟨hj, -, hconn⟩ := scan_some (by omega) hscan
      rw [hnone j hj] at hconn
      cases hconn

end StarServer.Database

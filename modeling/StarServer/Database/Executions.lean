/-
  StarServer.Database.Executions — `STSV_DBQuery` and `STSV_RealQuery`, one call of the
  library at a time.

  Each connection keeps what its executions returned, and which of them has a result that is
  still to be stored: an execution that fails has none, and `mysql_init` drops the one there is.
  What `mysql_store_result` then gives is the environment's; the log says which execution it is
  the result of, if any.

  Proved:
    * `dbQuery_refines`, `realQuery_refines`: without the log they are `stsvDBQuery` and
      `stsvRealQuery`;
    * `dbQuery_end`, `realQuery_end`: the six ways a query ends;
    * `query_truthful_iff`: true means that the last execution succeeded and that the stored set
      is its result, exactly where a retry after CR_SERVER_GONE_ERROR succeeds;
    * `gone_retry_untrue`: that retry fails, and the query returns true.
-/

import StarServer.Database.Queries

namespace StarServer.Database

/-! ## The log -/

/-- A connection as the library has it: what was executed on it, the latest last, and the
    execution whose result is still to be stored. -/
structure MySql where
  executed : List Int
  waiting : Option Nat
  deriving DecidableEq, Repr

/-- `mysql_query` and `mysql_real_query`: 0 is success. -/
def mysqlQuery (m : MySql) (ret : Int) : MySql where
  executed := m.executed ++ [ret]
  waiting := if ret = 0 then some m.executed.length else none

/-- The table, its connections, and the execution that the set in `mMySqlRes` is from. -/
structure Logged where
  db : Db
  mMySql : Nat → MySql
  resultOf : Nat → Option Nat

def logRelease (t : Logged) (idx : Nat) : Logged :=
  { t with db := releaseLeft t.db idx, resultOf := Function.update t.resultOf idx none }

def logQuery (t : Logged) (idx : Nat) (ret : Int) : Logged :=
  { t with mMySql := Function.update t.mMySql idx (mysqlQuery (t.mMySql idx) ret) }

/-- `STDB_ReConnect`: `mysql_init` on the connection, whatever comes of it. -/
def logReConnect (t : Logged) (idx : Nat) (connected : Bool) : Logged :=
  { t with
    db := stdbReConnect t.db idx connected
    mMySql := Function.update t.mMySql idx { t.mMySql idx with waiting := none } }

/-- `mysql_store_result` takes the result that waits. -/
def logStore (t : Logged) (idx : Nat) (result : Option ResultSet) : Logged where
  db := storeResult t.db idx result
  mMySql := Function.update t.mMySql idx { t.mMySql idx with waiting := none }
  resultOf := Function.update t.resultOf idx (t.mMySql idx).waiting

/-! ## The queries -/

def loggedDBQuery (t : Logged) (idx : Nat) (a : Answers) : Logged × Bool :=
  let t := logRelease t idx
  if (t.db.resource idx).sqlLock = false then (t, false)
  else
    let t := logQuery t idx a.ret
    if a.ret ≠ 0 then
      if a.ret = crServerGoneError then
        -- a retry that is 0 is printed, and no other is looked at
        (logStore (logQuery (logReConnect t idx a.connected) idx a.retry) idx a.result, true)
      else if a.ret = crOutOfMemory then (t, false)
      else if a.errorNo = 1146 ∨ a.errorNo = 1064 ∨ a.errorNo = 1062 then (t, false)
      else
        let t := logReConnect t idx a.connected
        if a.connected then
          let t := logQuery t idx a.retry
          if a.retry ≠ 0 then (t, false) else (logStore t idx a.result, true)
        else (t, false)
    else (logStore t idx a.result, true)

def loggedRealQuery (t : Logged) (idx : Nat) (a : Answers) : Logged × Bool :=
  let t := logRelease t idx
  if (t.db.resource idx).sqlLock = false then (t, false)
  else
    let t := logQuery t idx a.ret
    if a.ret ≠ 0 then
      if a.ret = crServerGoneError then
        (logStore (logQuery (logReConnect t idx a.connected) idx a.retry) idx a.result, true)
      else
        let t := logReConnect t idx a.connected
        if a.connected then
          let t := logQuery t idx a.retry
          if a.retry ≠ 0 then (t, false) else (logStore t idx a.result, true)
        else (t, false)
    else (logStore t idx a.result, true)

/-- True is returned exactly after a success, and the set that is stored then is its result. -/
structure Truthful (idx : Nat) (r : Logged × Bool) : Prop where
  verdict : r.2 = true ↔ (r.1.mMySql idx).executed.getLast? = some 0
  result : r.2 = true → ∀ set, (r.1.db.resource idx).mMySqlRes = some set →
    ∃ k, r.1.resultOf idx = some k ∧ (r.1.mMySql idx).executed.length = k + 1

/-- A retry after CR_SERVER_GONE_ERROR succeeds. -/
def GoneRetryOk (a : Answers) : Prop := a.ret = crServerGoneError → a.retry = 0

instance (a : Answers) : Decidable (GoneRetryOk a) := inferInstanceAs (Decidable (_ → _))

/-- How a query on a locked resource ends: with the first try's result, after a reconnect with
    the second's, or with false. -/
inductive QueryEnd (t : Logged) (idx : Nat) (a : Answers) : Logged × Bool → Prop
  | done : a.ret = 0 → QueryEnd t idx a (logStore (logQuery t idx a.ret) idx a.result, true)
  | gone : a.ret = crServerGoneError →
      QueryEnd t idx a (logStore (logQuery (logReConnect (logQuery t idx a.ret) idx a.connected) idx a.retry) idx a.result, true)
  | refused : a.ret ≠ 0 → a.ret ≠ crServerGoneError → QueryEnd t idx a (logQuery t idx a.ret, false)
  | unconnected : a.ret ≠ 0 → a.ret ≠ crServerGoneError →
      QueryEnd t idx a (logReConnect (logQuery t idx a.ret) idx a.connected, false)
  | failedAgain : a.ret ≠ crServerGoneError → a.retry ≠ 0 →
      QueryEnd t idx a (logQuery (logReConnect (logQuery t idx a.ret) idx a.connected) idx a.retry, false)
  | retried : a.ret ≠ crServerGoneError → a.retry = 0 →
      QueryEnd t idx a (logStore (logQuery (logReConnect (logQuery t idx a.ret) idx a.connected) idx a.retry) idx a.result, true)

variable {t : Logged} {idx : Nat} {a : Answers}

theorem dbQuery_refines (t : Logged) (idx : Nat) (a : Answers) :
    ((loggedDBQuery t idx a).1.db, (loggedDBQuery t idx a).2) = stsvDBQuery t.db idx a := by
  unfold loggedDBQuery stsvDBQuery
  dsimp only [logRelease, logQuery]
  split
  · rfl
  · split
    · split
      · rfl
      · split
        · rfl
        · split
          · rfl
          · split
            · split
              · rfl
              · rfl
            · rfl
    · rfl

theorem realQuery_refines (t : Logged) (idx : Nat) (a : Answers) :
    ((loggedRealQuery t idx a).1.db, (loggedRealQuery t idx a).2) = stsvRealQuery t.db idx a := by
  unfold loggedRealQuery stsvRealQuery
  dsimp only [logRelease, logQuery]
  split
  · rfl
  · split
    · split
      · rfl
      · split
        · split
          · rfl
          · rfl
        · rfl
    · rfl

theorem release_locked (hlock : (t.db.resource idx).sqlLock = true) : ((logRelease t idx).db.resource idx).sqlLock = true := by
  simp only [logRelease, releaseLeft_eq, releaseResult_sqlLock]
  exact hlock

theorem dbQuery_end (hlock : (t.db.resource idx).sqlLock = true) :
    QueryEnd (logRelease t idx) idx a (loggedDBQuery t idx a) := by
  unfold loggedDBQuery
  simp only [release_locked hlock, Bool.true_eq_false, if_false]
  split
  · rename_i hne
    split
    · rename_i hgone
      exact .gone hgone
    · rename_i hgone
      split
      · exact .refused hne hgone
      · split
        · exact .refused hne hgone
        · split
          · split
            · rename_i hretry
              exact .failedAgain hgone hretry
            · rename_i hretry
              exact .retried hgone (not_not.mp hretry)
          · exact .unconnected hne hgone
  · rename_i h0
    exact .done (not_not.mp h0)

theorem realQuery_end (hlock : (t.db.resource idx).sqlLock = true) :
    QueryEnd (logRelease t idx) idx a (loggedRealQuery t idx a) := by
  unfold loggedRealQuery
  simp only [release_locked hlock, Bool.true_eq_false, if_false]
  split
  · rename_i hne
    split
    · rename_i hgone
      exact .gone hgone
    · rename_i hgone
      split
      · split
        · rename_i hretry
          exact .failedAgain hgone hretry
        · rename_i hretry
          exact .retried hgone (not_not.mp hretry)
      · exact .unconnected hne hgone
  · rename_i h0
    exact .done (not_not.mp h0)

/-! ## What the connection has seen -/

theorem logQuery_executed (t : Logged) (idx : Nat) (ret : Int) :
    ((logQuery t idx ret).mMySql idx).executed = (t.mMySql idx).executed ++ [ret] := by
  simp [logQuery, mysqlQuery]

theorem logReConnect_executed (t : Logged) (idx : Nat) (connected : Bool) :
    ((logReConnect t idx connected).mMySql idx).executed = (t.mMySql idx).executed := by
  simp [logReConnect]

theorem logStore_executed (t : Logged) (idx : Nat) (result : Option ResultSet) :
    ((logStore t idx result).mMySql idx).executed = (t.mMySql idx).executed := by
  simp [logStore]

/-- A store right behind an execution is truthful exactly when the execution succeeded. -/
theorem store_truthful (t : Logged) (idx : Nat) (ret : Int) (result : Option ResultSet) :
    Truthful idx (logStore (logQuery t idx ret) idx result, true) ↔ ret = 0 := by
  constructor
  · intro h
    have hlast := h.verdict.mp rfl
    rw [logStore_executed, logQuery_executed, List.getLast?_concat] at hlast
    exact Option.some.inj hlast
  · intro h0
    refine ⟨?_, fun _ set _ => ⟨(t.mMySql idx).executed.length, ?_, ?_⟩⟩
    · rw [logStore_executed, logQuery_executed, List.getLast?_concat, h0]
      exact iff_of_true rfl rfl
    · simp [logStore, logQuery, mysqlQuery, h0]
    · rw [logStore_executed, logQuery_executed, List.length_append, List.length_singleton]

/-- False is truthful exactly when the last execution failed. -/
theorem false_truthful {r : Logged} {l : List Int} {ret : Int} (h : (r.mMySql idx).executed = l ++ [ret]) :
    Truthful idx (r, false) ↔ ret ≠ 0 := by
  constructor
  · intro ht h0
    have hlast := ht.verdict.mpr (by rw [h, List.getLast?_concat, h0])
    cases hlast
  · intro hne
    refine ⟨?_, fun hf => absurd hf Bool.false_ne_true⟩
    rw [h, List.getLast?_concat]
    exact iff_of_false Bool.false_ne_true fun h0 => hne (Option.some.inj h0)

theorem QueryEnd.truthful_iff {r : Logged × Bool} (h : QueryEnd t idx a r) : Truthful idx r ↔ GoneRetryOk a := by
  unfold GoneRetryOk
  cases h with
  | done h0 =>
    rw [store_truthful]
    refine iff_of_true h0 fun hgone => ?_
    rw [h0] at hgone
    exact absurd hgone (by decide)
  | gone hgone =>
    rw [store_truthful]
    exact ⟨fun h _ => h, fun h => h hgone⟩
  | refused hne hgone =>
    rw [false_truthful (logQuery_executed t idx a.ret)]
    exact iff_of_true hne fun h => absurd h hgone
  | unconnected hne hgone =>
    rw [false_truthful ((logReConnect_executed _ idx a.connected).trans (logQuery_executed t idx a.ret))]
    exact iff_of_true hne fun h => absurd h hgone
  | failedAgain hgone hretry =>
    rw [false_truthful (logQuery_executed _ idx a.retry)]
    exact iff_of_true hretry fun h => absurd h hgone
  | retried hgone hretry =>
    rw [store_truthful]
    exact iff_of_true hretry fun h => absurd h hgone

/-- The executions of a query: the first try, and a retry or none. -/
theorem QueryEnd.executed {r : Logged × Bool} (h : QueryEnd t idx a r) :
    ∃ rest, (r.1.mMySql idx).executed = (t.mMySql idx).executed ++ a.ret :: rest ∧ (rest = [] ∨ rest = [a.retry]) := by
  cases h with
  | done =>
    refine ⟨[], ?_, Or.inl rfl⟩
    rw [logStore_executed, logQuery_executed]
  | gone =>
    refine ⟨[a.retry], ?_, Or.inr rfl⟩
    simp only [logStore_executed, logQuery_executed, logReConnect_executed, List.append_assoc, List.singleton_append]
  | refused => exact ⟨[], logQuery_executed t idx a.ret, Or.inl rfl⟩
  | unconnected =>
    refine ⟨[], ?_, Or.inl rfl⟩
    rw [logReConnect_executed, logQuery_executed]
  | failedAgain =>
    refine ⟨[a.retry], ?_, Or.inr rfl⟩
    simp only [logQuery_executed, logReConnect_executed, List.append_assoc, List.singleton_append]
  | retried =>
    refine ⟨[a.retry], ?_, Or.inr rfl⟩
    simp only [logStore_executed, logQuery_executed, logReConnect_executed, List.append_assoc, List.singleton_append]

/-- What a query on a locked resource executes, and whether it tells the truth about it. -/
structure QueryOk (t : Logged) (idx : Nat) (a : Answers) (r : Logged × Bool) : Prop where
  executed : ∃ rest, (r.1.mMySql idx).executed = (t.mMySql idx).executed ++ a.ret :: rest ∧ (rest = [] ∨ rest = [a.retry])
  truthful : Truthful idx r ↔ GoneRetryOk a

/-- **A query tells the truth exactly where the retry after a lost server succeeds.** -/
theorem query_truthful_iff (t : Logged) (idx : Nat) (a : Answers) (hlock : (t.db.resource idx).sqlLock = true) :
    QueryOk t idx a (loggedDBQuery t idx a) ∧ QueryOk t idx a (loggedRealQuery t idx a) := by
  refine ⟨?_, ?_⟩
  · have hend : QueryEnd (logRelease t idx) idx a (loggedDBQuery t idx a) := dbQuery_end hlock
    exact ⟨hend.executed, hend.truthful_iff⟩
  · have hend : QueryEnd (logRelease t idx) idx a (loggedRealQuery t idx a) := realQuery_end hlock
    exact ⟨hend.executed, hend.truthful_iff⟩

/-- Resource 0 locked, nothing executed yet. -/
def lockedLog : Logged where
  db := setResource newDb 0 { newResource with sqlLock := true, pMySql := true }
  mMySql := fun _ => ⟨[], none⟩
  resultOf := fun _ => none

/-- An INSERT that the server, back again, takes on the second try. -/
theorem query_truthful_iff_retried :
    Truthful 0 (loggedDBQuery lockedLog 0 ⟨crServerGoneError, 2006, true, 0, none⟩) ∧
      Truthful 0 (loggedRealQuery lockedLog 0 ⟨crServerGoneError, 2006, true, 0, none⟩) := by
  have h := query_truthful_iff lockedLog 0 ⟨crServerGoneError, 2006, true, 0, none⟩ rfl
  exact ⟨h.1.truthful.mpr (by decide), h.2.truthful.mpr (by decide)⟩

/-- **The server stays away**: the reconnect fails, the second try fails, and both queries
    return true. -/
theorem gone_retry_untrue :
    (loggedDBQuery lockedLog 0 ⟨crServerGoneError, 2006, false, crServerGoneError, none⟩).2 = true ∧
    ((loggedDBQuery lockedLog 0 ⟨crServerGoneError, 2006, false, crServerGoneError, none⟩).1.mMySql 0).executed =
      [crServerGoneError, crServerGoneError] ∧
    (loggedRealQuery lockedLog 0 ⟨crServerGoneError, 2006, false, crServerGoneError, none⟩).2 = true ∧
    ¬Truthful 0 (loggedDBQuery lockedLog 0 ⟨crServerGoneError, 2006, false, crServerGoneError, none⟩) ∧
    ¬Truthful 0 (loggedRealQuery lockedLog 0 ⟨crServerGoneError, 2006, false, crServerGoneError, none⟩) := by
  have hlock : (lockedLog.db.resource 0).sqlLock = true := rfl
  have hbad : ¬GoneRetryOk ⟨crServerGoneError, 2006, false, crServerGoneError, none⟩ := by decide
  refine ⟨rfl, rfl, rfl, fun h => hbad ?_, fun h => hbad ?_⟩
  · exact (dbQuery_end hlock).truthful_iff.mp h
  · exact (realQuery_end hlock).truthful_iff.mp h

end StarServer.Database

/-
  StarServer.Database.Queries — the MySQL calls on a resource: connects, queries, result
  sets and rows, one whole call a step.

  Actors. Threads lock a resource, query on it, read what a query stored, release and unlock,
  in any order. What the MySQL library answers (`Answers`) is the environment's: any error on
  any query, any outcome of a reconnect, any result set or none.

  Each result set that `mysql_store_result` returns has a serial of its own, so that `freed`,
  the calls of `mysql_free_result`, says which sets were freed and how often.

  Proved:
    * `scan_some` / `scan_complete`: the scan returns a free connected resource, and does so
      within one turn of the table if there is one;
    * `connectAll`: what `STDB_Connect` leaves;
    * `pMySql_step`: the calls touch a connection only where a query reconnects.
-/

import Mathlib.Logic.Function.Basic
import StarServer.Database.Pool
import StarServer.Memory.Bytes

namespace StarServer.Database

open Memory

/-! ## Resources -/

/-- What a column of a row points at: NULL or a string. -/
abbrev Cell := Option (List Byte)

abbrev Row := List Cell

structure ResultSet where
  numRows : BitVec 64
  numFields : BitVec 32
  /-- The rows that are still to be fetched. -/
  rows : List Row
  deriving DecidableEq, Repr

structure MySqlRes extends ResultSet where
  serial : Nat
  deriving DecidableEq, Repr

/-- `pMySql` is whether the pointer is not NULL. `mMySqlRow` is the row pointed at and the serial
    of the set it is in, `none` for a pointer that is no row (NULL, or what `malloc` left). -/
structure Resource where
  sqlLock : Bool
  pMySql : Bool
  mMySqlRes : Option MySqlRes
  mMySqlRow : Option (Nat × Row)
  mMySqlNumRow : Int
  mMySqlNumFields : Int
  deriving DecidableEq, Repr

structure Db where
  resource : Nat → Resource
  haveConnectDB : Bool
  nCurDBConnect : BitVec 32
  /-- How many result sets the library has returned: their serials are the numbers below. -/
  stored : Nat
  /-- The result sets passed to `mysql_free_result`, the latest first. -/
  freed : List Nat

/-- What the library answers during one call, as far as the call asks. -/
structure Answers where
  ret : Int
  errorNo : Nat
  connected : Bool
  retry : Int
  result : Option ResultSet
  deriving DecidableEq, Repr

/-- A resource as `InitServerUnlimit` leaves it. -/
def newResource : Resource where
  sqlLock := false
  pMySql := false
  mMySqlRes := none
  mMySqlRow := none
  mMySqlNumRow := -1
  mMySqlNumFields := -1

def newDb : Db where
  resource := fun _ => newResource
  haveConnectDB := false
  nCurDBConnect := 0
  stored := 0
  freed := []

def setResource (s : Db) (idx : Nat) (r : Resource) : Db := { s with resource := Function.update s.resource idx r }

@[simp] theorem setResource_same (s : Db) (idx : Nat) (r : Resource) : (setResource s idx r).resource idx = r := by
  simp [setResource]

theorem setResource_other (s : Db) {idx i : Nat} (r : Resource) (h : i ≠ idx) :
    (setResource s idx r).resource i = s.resource i := by
  simp [setResource, h]

/-! ## Connections -/

variable (nDBMaxConnect : Nat)

/-- One turn of the loop of `STDB_Connect`: the state and `cCount`. -/
def connectOne (connected : Nat → Bool) (p : Db × Nat) (i : Nat) : Db × Nat :=
  let r := p.1.resource i
  if connected i then
    ({ setResource p.1 i { r with pMySql := true, sqlLock := false } with haveConnectDB := true }, p.2 + 1)
  else (setResource p.1 i { r with pMySql := false }, p.2)

def stdbConnect (s : Db) (connected : Nat → Bool) : Db × Nat :=
  (List.range nDBMaxConnect).foldl (connectOne connected) (s, 0)

def stsvDBReleaseResult (s : Db) (idx : Nat) : Db :=
  let r := s.resource idx
  match r.mMySqlRes with
  | some res =>
    { setResource s idx { r with mMySqlRes := none, mMySqlNumFields := -1, mMySqlNumRow := -1 } with
      freed := res.serial :: s.freed }
  | none => s

/-- What every call that drops a result set does first. -/
def releaseLeft (s : Db) (idx : Nat) : Db :=
  if (s.resource idx).mMySqlRes.isSome then stsvDBReleaseResult s idx else s

/-- The loop's turn closes the connection too; `pMySql` keeps its pointer. -/
def stdbDisConnect (s : Db) : Db := (List.range nDBMaxConnect).foldl releaseLeft s

def stdbReConnect (s : Db) (idx : Nat) (connected : Bool) : Db :=
  setResource s idx { s.resource idx with pMySql := connected }

def stsvDBHaveConnect (s : Db) : Bool := s.haveConnectDB

def stsvDBUnlockResource (s : Db) (idx : Nat) : Db :=
  let r := s.resource idx
  if r.sqlLock then
    let nCurDBConnect := s.nCurDBConnect - 1
    { setResource s idx { r with sqlLock := false } with
      nCurDBConnect := if nCurDBConnect.slt 0 then 0 else nCurDBConnect }
  else s

/-- The scan of `STSV_DBFindAndLockResource` from `i` on, for so many tests. -/
def scan (s : Db) : Nat → Nat → Option Nat
  | 0, _ => none
  | fuel + 1, i =>
    if (s.resource i).sqlLock = false ∧ (s.resource i).pMySql then some i
    else scan s fuel (nextIdx nDBMaxConnect i)

/-- A scan that has found nothing in one turn of the table never does, and the call does not
    return (`none`). -/
def stsvDBFindAndLockResource (s : Db) : Option (Db × Nat) :=
  (scan nDBMaxConnect s nDBMaxConnect 0).map fun foundIdx =>
    ({ setResource s foundIdx { s.resource foundIdx with sqlLock := true } with
        nCurDBConnect := s.nCurDBConnect + 1 }, foundIdx)

/-! ## Queries -/

def crServerGoneError : Int := 2006

def crOutOfMemory : Int := 2008

/-- `mysql_store_result` and what is read off its set. -/
def storeResult (s : Db) (idx : Nat) (result : Option ResultSet) : Db :=
  let r := s.resource idx
  match result with
  | some set =>
    { setResource s idx { r with
        mMySqlRes := some { set with serial := s.stored }
        mMySqlNumRow := (set.numRows.setWidth 32).toInt
        mMySqlNumFields := set.numFields.toInt } with
      stored := s.stored + 1 }
  | none => setResource s idx { r with mMySqlRes := none }

def stsvDBLastInsert (s : Db) (idx : Nat) (insertId : BitVec 64) : Db × BitVec 32 :=
  let s := releaseLeft s idx
  if (s.resource idx).sqlLock = false then (s, 0) else (s, insertId.setWidth 32)

def stsvDBQuery (s : Db) (idx : Nat) (a : Answers) : Db × Bool :=
  let s := releaseLeft s idx
  if (s.resource idx).sqlLock = false then (s, false)
  else if a.ret ≠ 0 then
    -- the second try's error is not looked at here
    if a.ret = crServerGoneError then (storeResult (stdbReConnect s idx a.connected) idx a.result, true)
    else if a.ret = crOutOfMemory then (s, false)
    else if a.errorNo = 1146 ∨ a.errorNo = 1064 ∨ a.errorNo = 1062 then (s, false)
    else if a.connected then
      if a.retry ≠ 0 then (stdbReConnect s idx a.connected, false)
      else (storeResult (stdbReConnect s idx a.connected) idx a.result, true)
    else (stdbReConnect s idx a.connected, false)
  else (storeResult s idx a.result, true)

def stsvRealQuery (s : Db) (idx : Nat) (a : Answers) : Db × Bool :=
  let s := releaseLeft s idx
  if (s.resource idx).sqlLock = false then (s, false)
  else if a.ret ≠ 0 then
    if a.ret = crServerGoneError then (storeResult (stdbReConnect s idx a.connected) idx a.result, true)
    else if a.connected then
      if a.retry ≠ 0 then (stdbReConnect s idx a.connected, false)
      else (storeResult (stdbReConnect s idx a.connected) idx a.result, true)
    else (stdbReConnect s idx a.connected, false)
  else (storeResult s idx a.result, true)

/-! ## Rows -/

/-- What a call of an accessor gives its caller. A read through a pointer that is no row of a
    live set, or past the row's columns, is `undefined`, whatever is there. -/
inductive Seen where
  | bool (b : Bool)
  | int (v : Int)
  | string (v : Cell)
  | undefined
  deriving DecidableEq, Repr

def isSpace (b : Byte) : Bool := b == 32 || (9 ≤ b && b ≤ 13)

def isDigit (b : Byte) : Bool := 48 ≤ b && b ≤ 57

def digits (l : List Byte) : Int := (l.takeWhile isDigit).foldl (fun v b => 10 * v + (b.toNat - 48)) 0

/-- The digits after the blanks and the sign, as a `long` that saturates, cut to an `int`. -/
def atoi (value : List Byte) : Int :=
  let v := match value.dropWhile isSpace with
    | 45 :: l => -digits l
    | 43 :: l => digits l
    | l => digits l
  (BitVec.ofInt 32 (max (-2 ^ 63) (min v (2 ^ 63 - 1)))).toInt

def charZero : List Byte := [48]

def stsvDBNumRow (r : Resource) : Seen := if r.sqlLock = false then .int 0 else .int r.mMySqlNumRow

def stsvDBNumColum (r : Resource) : Seen := if r.sqlLock = false then .int 0 else .int r.mMySqlNumFields

def stsvDBFetchRow (r : Resource) : Resource × Seen :=
  if r.sqlLock = false then (r, .bool false)
  else
    match r.mMySqlRes with
    | none => (r, .bool false)
    | some res =>
      match res.rows with
      | [] => ({ r with mMySqlRow := none }, .bool false)
      | row :: rows =>
        ({ r with mMySqlRes := some { res with rows := rows }, mMySqlRow := some (res.serial, row) }, .bool true)

/-- The row that `mMySqlRow` points at, while its set is live. -/
def currentRow (r : Resource) : Row :=
  match r.mMySqlRow, r.mMySqlRes with
  | some (serial, row), some res => if serial = res.serial then row else []
  | _, _ => []

/-- `mMySqlRow[idx][rowIdx]`. -/
def readCell (r : Resource) (rowIdx : Int) : Option Cell :=
  if rowIdx < 0 then none else (currentRow r)[rowIdx.toNat]?

/-- `atoi` of a column's value; it does not take NULL. -/
def seenInt : Option Cell → Seen
  | some (some value) => .int (atoi value)
  | _ => .undefined

def seenString : Option Cell → Seen
  | some (some value) => .string (some value)
  | some none => .string (some charZero)
  | none => .undefined

def stsvDBGetRowIntValue (r : Resource) (rowIdx : Int) : Seen :=
  if r.sqlLock = false then .int (-1)
  else if rowIdx > r.mMySqlNumFields then .int (-1)
  else seenInt (readCell r rowIdx)

def stsvDBGetRowStringValue (r : Resource) (rowIdx : Int) : Seen :=
  if r.sqlLock = false then .string none
  else if rowIdx > r.mMySqlNumFields then .string none
  else seenString (readCell r rowIdx)

/-! ## Runs -/

inductive DbCall where
  | findAndLock
  | unlock (idx : Nat)
  | lastInsert (idx : Nat) (insertId : BitVec 64)
  | query (idx : Nat) (a : Answers)
  | realQuery (idx : Nat) (a : Answers)
  | fetchRow (idx : Nat)
  | releaseResult (idx : Nat)
  | disConnect
  deriving DecidableEq, Repr

/-- The state after a call on resource `idx`, which is one of the table's. -/
def onResource (idx : Nat) (s : Db) : Option Db := if idx < nDBMaxConnect then some s else none

def dbStep (s : Db) : DbCall → Option Db
  | .findAndLock => (stsvDBFindAndLockResource nDBMaxConnect s).map Prod.fst
  | .unlock idx => onResource nDBMaxConnect idx (stsvDBUnlockResource s idx)
  | .lastInsert idx insertId => onResource nDBMaxConnect idx (stsvDBLastInsert s idx insertId).1
  | .query idx a => onResource nDBMaxConnect idx (stsvDBQuery s idx a).1
  | .realQuery idx a => onResource nDBMaxConnect idx (stsvRealQuery s idx a).1
  | .fetchRow idx => onResource nDBMaxConnect idx (setResource s idx (stsvDBFetchRow (s.resource idx)).1)
  | .releaseResult idx => onResource nDBMaxConnect idx (stsvDBReleaseResult s idx)
  | .disConnect => some (stdbDisConnect nDBMaxConnect s)

/-- The state after `STDB_Connect`, with the connections that succeeded. -/
def connectedDb (connected : Nat → Bool) : Db := (stdbConnect nDBMaxConnect newDb connected).1

variable {nDBMaxConnect}

/-! ## The scan -/

theorem scan_some {s : Db} {fuel k j : Nat} (hk : k < nDBMaxConnect) (h : scan nDBMaxConnect s fuel k = some j) :
    j < nDBMaxConnect ∧ (s.resource j).sqlLock = false ∧ (s.resource j).pMySql = true := by
  induction fuel generalizing k with
  | zero => cases h
  | succ fuel ih =>
    simp only [scan] at h
    split at h
    · rename_i hfree
      obtain rfl := Option.some.inj h
      exact ⟨hk, hfree⟩
    · refine ih ?_ h
      unfold nextIdx
      split <;> omega

/-- The scan does not run past a free resource. -/
theorem scan_complete {s : Db} {fuel k i : Nat} (hki : k ≤ i) (hi : i < nDBMaxConnect)
    (hfree : (s.resource i).sqlLock = false ∧ (s.resource i).pMySql = true) (hfuel : i - k < fuel) :
    ∃ j, scan nDBMaxConnect s fuel k = some j := by
  induction fuel generalizing k with
  | zero => omega
  | succ fuel ih =>
    simp only [scan]
    split
    · exact ⟨k, rfl⟩
    · rename_i hused
      have hne : k ≠ i := by
        rintro rfl
        exact hused hfree
      have hnext : nextIdx nDBMaxConnect k = k + 1 := by
        unfold nextIdx
        rw [if_neg (by omega)]
      rw [hnext]
      exact ih (by omega) (by omega)

/-! ## What the pieces leave alone -/

/-- A field that an update of one resource keeps is kept. -/
theorem setResource_field {β : Type} (f : Resource → β) (s : Db) (idx i : Nat) {r : Resource}
    (h : f r = f (s.resource idx)) : f ((setResource s idx r).resource i) = f (s.resource i) := by
  by_cases hi : i = idx
  · subst hi
    rw [setResource_same, h]
  · rw [setResource_other s r hi]

theorem releaseLeft_eq (s : Db) (idx : Nat) : releaseLeft s idx = stsvDBReleaseResult s idx := by
  unfold releaseLeft stsvDBReleaseResult
  cases h : (s.resource idx).mMySqlRes <;> simp [h]

/-- A release keeps every field but the set and its counts. -/
theorem releaseResult_field {β : Type} (f : Resource → β) (s : Db) (idx i : Nat)
    (h : ∀ r : Resource, f { r with mMySqlRes := none, mMySqlNumFields := -1, mMySqlNumRow := -1 } = f r) :
    f ((stsvDBReleaseResult s idx).resource i) = f (s.resource i) := by
  unfold stsvDBReleaseResult
  dsimp only
  split
  · exact setResource_field f s idx i (h _)
  · rfl

@[simp] theorem releaseResult_pMySql (s : Db) (idx i : Nat) :
    ((stsvDBReleaseResult s idx).resource i).pMySql = (s.resource i).pMySql :=
  releaseResult_field (·.pMySql) s idx i fun _ => rfl

@[simp] theorem releaseResult_sqlLock (s : Db) (idx i : Nat) :
    ((stsvDBReleaseResult s idx).resource i).sqlLock = (s.resource i).sqlLock :=
  releaseResult_field (·.sqlLock) s idx i fun _ => rfl

@[simp] theorem releaseResult_haveConnectDB (s : Db) (idx : Nat) :
    (stsvDBReleaseResult s idx).haveConnectDB = s.haveConnectDB := by
  unfold stsvDBReleaseResult
  dsimp only
  split <;> rfl

@[simp] theorem storeResult_pMySql (s : Db) (idx i : Nat) (result : Option ResultSet) :
    ((storeResult s idx result).resource i).pMySql = (s.resource i).pMySql := by
  unfold storeResult
  dsimp only
  split
  · exact setResource_field (·.pMySql) s idx i rfl
  · exact setResource_field (·.pMySql) s idx i rfl

@[simp] theorem storeResult_haveConnectDB (s : Db) (idx : Nat) (result : Option ResultSet) :
    (storeResult s idx result).haveConnectDB = s.haveConnectDB := by
  unfold storeResult
  dsimp only
  split <;> rfl

@[simp] theorem reConnect_pMySql (s : Db) (idx i : Nat) (connected : Bool) :
    ((stdbReConnect s idx connected).resource i).pMySql = if i = idx then connected else (s.resource i).pMySql := by
  unfold stdbReConnect
  by_cases hi : i = idx
  · subst hi
    rw [setResource_same, if_pos rfl]
  · rw [setResource_other s _ hi, if_neg hi]

/-- A query drops the set it finds, reconnects or not, and then stores a set or stops. -/
theorem query_keeps {P Q : Db → Prop} {s : Db} {idx : Nat} (a : Answers) (hrelease : P (stsvDBReleaseResult s idx))
    (hre : ∀ s connected, P s → P (stdbReConnect s idx connected))
    (hstore : ∀ s, P s → Q (storeResult s idx a.result)) (hstop : ∀ s, P s → Q s) :
    Q (stsvDBQuery s idx a).1 := by
  unfold stsvDBQuery
  rw [releaseLeft_eq]
  generalize stsvDBReleaseResult s idx = m at hrelease
  dsimp only
  split
  · exact hstop m hrelease
  · split
    · split
      · exact hstore _ (hre m _ hrelease)
      · split
        · exact hstop m hrelease
        · split
          · exact hstop m hrelease
          · split
            · split
              · exact hstop _ (hre m _ hrelease)
              · exact hstore _ (hre m _ hrelease)
            · exact hstop _ (hre m _ hrelease)
    · exact hstore m hrelease

theorem realQuery_keeps {P Q : Db → Prop} {s : Db} {idx : Nat} (a : Answers) (hrelease : P (stsvDBReleaseResult s idx))
    (hre : ∀ s connected, P s → P (stdbReConnect s idx connected))
    (hstore : ∀ s, P s → Q (storeResult s idx a.result)) (hstop : ∀ s, P s → Q s) :
    Q (stsvRealQuery s idx a).1 := by
  unfold stsvRealQuery
  rw [releaseLeft_eq]
  generalize stsvDBReleaseResult s idx = m at hrelease
  dsimp only
  split
  · exact hstop m hrelease
  · split
    · split
      · exact hstore _ (hre m _ hrelease)
      · split
        · split
          · exact hstop _ (hre m _ hrelease)
          · exact hstore _ (hre m _ hrelease)
        · exact hstop _ (hre m _ hrelease)
    · exact hstore m hrelease

theorem disConnect_keeps {P : Db → Prop} (hrelease : ∀ s, ∀ idx < nDBMaxConnect, P s → P (stsvDBReleaseResult s idx))
    {s : Db} (hs : P s) : P (stdbDisConnect nDBMaxConnect s) := by
  unfold stdbDisConnect
  have hrange : ∀ idx ∈ List.range nDBMaxConnect, idx < nDBMaxConnect := fun idx h => List.mem_range.mp h
  generalize List.range nDBMaxConnect = l at hrange
  induction l generalizing s with
  | nil => exact hs
  | cons idx l ih =>
    rw [List.foldl_cons, releaseLeft_eq]
    exact ih (hrelease s idx (hrange idx (by simp)) hs) fun i hi => hrange i (by simp [hi])

/-! ## What a call does to a connection -/

/-- The resource a call reconnects, and whether it succeeds: a query that fails, with an error
    that is not the statement's own. -/
def reconnects (s : Db) : DbCall → Option (Nat × Bool)
  | .query idx a =>
    if (s.resource idx).sqlLock = true ∧ a.ret ≠ 0 ∧ (a.ret = crServerGoneError ∨
        (a.ret ≠ crOutOfMemory ∧ ¬(a.errorNo = 1146 ∨ a.errorNo = 1064 ∨ a.errorNo = 1062))) then
      some (idx, a.connected)
    else none
  | .realQuery idx a => if (s.resource idx).sqlLock = true ∧ a.ret ≠ 0 then some (idx, a.connected) else none
  | _ => none

/-- The connections after a call. -/
def reconnected (s : Db) (e : DbCall) (i : Nat) : Bool :=
  match reconnects s e with
  | some (idx, connected) => if i = idx then connected else (s.resource i).pMySql
  | none => (s.resource i).pMySql

theorem pMySql_query (s : Db) (idx i : Nat) (a : Answers) :
    ((stsvDBQuery s idx a).1.resource i).pMySql = reconnected s (.query idx a) i := by
  unfold stsvDBQuery reconnected reconnects
  simp only [releaseLeft_eq, releaseResult_sqlLock]
  by_cases hlock : (s.resource idx).sqlLock = true
  · by_cases hret : a.ret = 0
    · simp [hlock, hret]
    · by_cases hgone : a.ret = crServerGoneError
      · simp [hlock, hgone, crServerGoneError]
      · by_cases hmem : a.ret = crOutOfMemory
        · simp [hlock, hmem, crServerGoneError, crOutOfMemory]
        · by_cases herr : a.errorNo = 1146 ∨ a.errorNo = 1064 ∨ a.errorNo = 1062
          · simp [hlock, hret, hgone, hmem, herr]
          · simp only [hlock, hret, hgone, hmem, herr, Bool.true_eq_false, ne_eq, not_false_iff, if_true, if_false,
              false_or, true_and]
            by_cases hconn : a.connected = true
            · by_cases hretry : a.retry = 0 <;> simp [hconn, hretry]
            · simp [hconn]
  · simp [hlock]

theorem pMySql_realQuery (s : Db) (idx i : Nat) (a : Answers) :
    ((stsvRealQuery s idx a).1.resource i).pMySql = reconnected s (.realQuery idx a) i := by
  unfold stsvRealQuery reconnected reconnects
  simp only [releaseLeft_eq, releaseResult_sqlLock]
  by_cases hlock : (s.resource idx).sqlLock = true
  · by_cases hret : a.ret = 0
    · simp [hlock, hret]
    · by_cases hgone : a.ret = crServerGoneError
      · simp [hlock, hgone, crServerGoneError]
      · by_cases hconn : a.connected = true
        · by_cases hretry : a.retry = 0 <;> simp [hlock, hret, hgone, hconn, hretry]
        · simp [hlock, hret, hgone, hconn]
  · simp [hlock]

theorem onResource_some {idx : Nat} {s s' : Db} (h : onResource nDBMaxConnect idx s = some s') :
    idx < nDBMaxConnect ∧ s' = s := by
  unfold onResource at h
  split at h
  · rename_i hidx
    exact ⟨hidx, (Option.some.inj h).symm⟩
  · cases h

theorem findAndLock_some {s t : Db} {foundIdx : Nat}
    (h : stsvDBFindAndLockResource nDBMaxConnect s = some (t, foundIdx)) :
    foundIdx < nDBMaxConnect ∧ (s.resource foundIdx).sqlLock = false ∧ (s.resource foundIdx).pMySql = true ∧
      t = { setResource s foundIdx { s.resource foundIdx with sqlLock := true } with
            nCurDBConnect := s.nCurDBConnect + 1 } := by
  unfold stsvDBFindAndLockResource at h
  obtain ⟨i, hi, hpair⟩ := Option.map_eq_some_iff.mp h
  obtain ⟨ht, rfl⟩ := Prod.mk.inj hpair
  have hn : 0 < nDBMaxConnect := by
    by_cases hn : nDBMaxConnect = 0
    · subst hn
      cases hi
    · omega
  obtain ⟨hlt, hlock, hsql⟩ := scan_some hn hi
  exact ⟨hlt, hlock, hsql, ht.symm⟩

/-- Only a query that reconnects changes whether a resource has a connection. -/
theorem pMySql_step {s s' : Db} {e : DbCall} (h : dbStep nDBMaxConnect s e = some s') (i : Nat) :
    (s'.resource i).pMySql = reconnected s e i := by
  cases e with
  | findAndLock =>
    obtain ⟨⟨t, foundIdx⟩, hlock, rfl⟩ := Option.map_eq_some_iff.mp h
    obtain ⟨-, -, -, rfl⟩ := findAndLock_some hlock
    exact setResource_field (·.pMySql) s foundIdx i rfl
  | unlock idx =>
    obtain ⟨-, rfl⟩ := onResource_some h
    show _ = (s.resource i).pMySql
    unfold stsvDBUnlockResource
    dsimp only
    split
    · exact setResource_field (·.pMySql) s idx i rfl
    · rfl
  | lastInsert idx insertId =>
    obtain ⟨-, rfl⟩ := onResource_some h
    show _ = (s.resource i).pMySql
    unfold stsvDBLastInsert
    rw [releaseLeft_eq]
    dsimp only
    split <;> exact releaseResult_pMySql s idx i
  | query idx a =>
    obtain ⟨-, rfl⟩ := onResource_some h
    exact pMySql_query s idx i a
  | realQuery idx a =>
    obtain ⟨-, rfl⟩ := onResource_some h
    exact pMySql_realQuery s idx i a
  | fetchRow idx =>
    obtain ⟨-, rfl⟩ := onResource_some h
    refine setResource_field (·.pMySql) s idx i ?_
    unfold stsvDBFetchRow
    split
    · rfl
    · split
      · rfl
      · split <;> rfl
  | releaseResult idx =>
    obtain ⟨-, rfl⟩ := onResource_some h
    exact releaseResult_pMySql s idx i
  | disConnect =>
    obtain rfl := Option.some.inj h
    exact disConnect_keeps (fun m idx _ hm => (releaseResult_pMySql m idx i).trans hm) rfl

theorem haveConnectDB_step {s s' : Db} {e : DbCall} (h : dbStep nDBMaxConnect s e = some s') :
    s'.haveConnectDB = s.haveConnectDB := by
  have hre : ∀ (idx : Nat) (m : Db) (connected : Bool), m.haveConnectDB = s.haveConnectDB →
      (stdbReConnect m idx connected).haveConnectDB = s.haveConnectDB := fun _ _ _ hm => hm
  have hstore : ∀ (idx : Nat) (m : Db) (result : Option ResultSet), m.haveConnectDB = s.haveConnectDB →
      (storeResult m idx result).haveConnectDB = s.haveConnectDB :=
    fun idx m result hm => (storeResult_haveConnectDB m idx result).trans hm
  cases e with
  | findAndLock =>
    obtain ⟨⟨t, foundIdx⟩, hlock, rfl⟩ := Option.map_eq_some_iff.mp h
    obtain ⟨-, -, -, rfl⟩ := findAndLock_some hlock
    rfl
  | unlock idx =>
    obtain ⟨-, rfl⟩ := onResource_some h
    unfold stsvDBUnlockResource
    dsimp only
    split <;> rfl
  | lastInsert idx insertId =>
    obtain ⟨-, rfl⟩ := onResource_some h
    unfold stsvDBLastInsert
    rw [releaseLeft_eq]
    dsimp only
    split <;> exact releaseResult_haveConnectDB s idx
  | query idx a =>
    obtain ⟨-, rfl⟩ := onResource_some h
    exact query_keeps a (releaseResult_haveConnectDB s idx) (hre idx) (fun m hm => hstore idx m a.result hm) fun _ hm => hm
  | realQuery idx a =>
    obtain ⟨-, rfl⟩ := onResource_some h
    exact realQuery_keeps a (releaseResult_haveConnectDB s idx) (hre idx) (fun m hm => hstore idx m a.result hm) fun _ hm => hm
  | fetchRow idx =>
    obtain ⟨-, rfl⟩ := onResource_some h
    rfl
  | releaseResult idx =>
    obtain ⟨-, rfl⟩ := onResource_some h
    exact releaseResult_haveConnectDB s idx
  | disConnect =>
    obtain rfl := Option.some.inj h
    exact disConnect_keeps (fun m idx _ hm => (releaseResult_haveConnectDB m idx).trans hm) rfl

/-! ## The start -/

/-- What `STDB_Connect` has done after the first `n` resources. -/
theorem connectAll (connected : Nat → Bool) (n : Nat) :
    (∀ i, (connectedDb n connected).resource i = { newResource with pMySql := decide (i < n) && connected i }) ∧
      ((connectedDb n connected).haveConnectDB = true ↔ ∃ i < n, connected i = true) ∧
      (connectedDb n connected).stored = 0 ∧ (connectedDb n connected).freed = [] := by
  unfold connectedDb stdbConnect
  induction n with
  | zero => exact ⟨fun _ => rfl, by simp [newDb], rfl, rfl⟩
  | succ n ih =>
    rw [List.range_succ, List.foldl_append]
    generalize (List.range n).foldl (connectOne connected) (newDb, 0) = p at ih ⊢
    obtain ⟨hres, hhave, hstored, hfreed⟩ := ih
    show (∀ i, (connectOne connected p n).1.resource i = _) ∧ ((connectOne connected p n).1.haveConnectDB = true ↔ _) ∧ _
    by_cases hc : connected n = true
    · refine ⟨fun i => ?_, ?_, ?_, ?_⟩
      · simp only [connectOne, hc, if_true]
        by_cases hi : i = n
        · subst hi
          rw [setResource_same, hres]
          simp [hc, newResource]
        · rw [setResource_other _ _ hi, hres]
          have : (i < n + 1) ↔ i < n := by omega
          simp [this]
      · simp only [connectOne, hc, if_true, true_iff]
        exact ⟨n, by omega, hc⟩
      · simp [connectOne, hc, setResource, hstored]
      · simp [connectOne, hc, setResource, hfreed]
    · refine ⟨fun i => ?_, ?_, ?_, ?_⟩
      · simp only [connectOne, hc]
        by_cases hi : i = n
        · subst hi
          rw [if_neg (by simp), setResource_same, hres]
          simp [hc]
        · rw [if_neg (by simp), setResource_other _ _ hi, hres]
          have : (i < n + 1) ↔ i < n := by omega
          simp [this]
      · simp only [connectOne, hc]
        show p.1.haveConnectDB = true ↔ _
        rw [hhave]
        constructor
        · rintro ⟨i, hi, h⟩
          exact ⟨i, by omega, h⟩
        · rintro ⟨i, hi, h⟩
          refine ⟨i, ?_, h⟩
          have : i ≠ n := by
            rintro rfl
            exact hc h
          omega
      · simp [connectOne, hc, setResource, hstored]
      · simp [connectOne, hc, setResource, hfreed]

end StarServer.Database

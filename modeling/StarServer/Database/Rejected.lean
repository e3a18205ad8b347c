/-
  StarServer.Database.Rejected — the calls on a resource that is not locked.

  Each call asks for the lock, logs a line with the resource's index where it is not there, and
  returns its failure value; `STSV_DBUnlockResource` returns nothing and has the line only.
  `STSV_DBLastInsert`, `STSV_DBQuery` and `STSV_RealQuery` ask after they have released the
  result set they find, the other six before anything else.

  Proved:
    * `rejected_reported`: every call logs its line and returns its failure value;
    * `rejected_state`: it leaves the state as it was, or released;
    * `release_eq_self`: a release changes a state exactly if there is a set;
    * `rejected_iff`: a rejected call changes nothing exactly if the resource has no result set
      or the call asks first.
-/

import StarServer.Database.Holders

namespace StarServer.Database

/-! ## The nine calls -/

/-- A call on one resource, with what the library answers. -/
inductive ResourceCall where
  | lastInsert (insertId : BitVec 64)
  | query (a : Answers)
  | realQuery (a : Answers)
  | access (a : Access)
  | unlock
  deriving DecidableEq, Repr

/-- The state after the call and what it returns, if it returns anything. -/
def call (s : Db) (idx : Nat) : ResourceCall → Db × Option Seen
  | .lastInsert insertId =>
    let (s', ret) := stsvDBLastInsert s idx insertId
    (s', some (.int ret.toNat))
  | .query a =>
    let (s', ret) := stsvDBQuery s idx a
    (s', some (.bool ret))
  | .realQuery a =>
    let (s', ret) := stsvRealQuery s idx a
    (s', some (.bool ret))
  | .access a =>
    let (r, seen) := access (s.resource idx) a
    (setResource s idx r, some seen)
  | .unlock => (stsvDBUnlockResource s idx, none)

def notLock (name : String) (idx : Nat) : String := name ++ " ERROR: resource " ++ toString idx ++ " not lock"

/-- The line of a call's lock check. -/
def lockError (idx : Nat) : ResourceCall → String
  | .lastInsert _ => notLock "STSV_LastInsert" idx
  | .query _ => notLock "STSV_Query" idx
  | .realQuery _ => notLock "STSV_RealQuery" idx
  | .access .numRow => notLock "STSV_DBNumRow" idx
  | .access .numColum => notLock "STSV_DBNumColum" idx
  | .access .fetchRow => notLock "STSV_DBFetchRow" idx
  | .access (.rowIntValue _) => notLock "STSV_DBGetRowIntValue" idx
  | .access (.rowStringValue _) => notLock "STSV_DBGetRowStringValue" idx
  | .unlock => "ERROR CODE STSV_UnlockResourec " ++ toString idx ++ " Already Unlock"

/-- What the lock check logs. A release before it keeps the lock. -/
def lockLog (s : Db) (idx : Nat) (c : ResourceCall) : List String :=
  if (s.resource idx).sqlLock = false then [lockError idx c] else []

/-- What a call returns for a resource that is not locked. -/
def failure : ResourceCall → Option Seen
  | .lastInsert _ => some (.int 0)
  | .query _ | .realQuery _ => some (.bool false)
  | .access .numRow | .access .numColum => some (.int 0)
  | .access .fetchRow => some (.bool false)
  | .access (.rowIntValue _) => some (.int (-1))
  | .access (.rowStringValue _) => some (.string none)
  | .unlock => none

/-- The calls that release the result set first. -/
def ResourceCall.releases : ResourceCall → Prop
  | .lastInsert _ | .query _ | .realQuery _ => True
  | .access _ | .unlock => False

/-- The call failed and said so, and the state is the one before it. -/
structure Rejected (s : Db) (idx : Nat) (c : ResourceCall) : Prop where
  logged : lockLog s idx c = [lockError idx c]
  value : (call s idx c).2 = failure c
  state : (call s idx c).1 = s

variable {s : Db} {idx : Nat}

/-! ## What a rejected call does -/

theorem access_rejected (hlock : (s.resource idx).sqlLock = false) (a : Access) :
    access (s.resource idx) a = (s.resource idx, (failure (.access a)).getD .undefined) := by
  cases a with
  | numRow => simp [access, stsvDBNumRow, hlock, failure]
  | numColum => simp [access, stsvDBNumColum, hlock, failure]
  | fetchRow => simp [access, stsvDBFetchRow, hlock, failure]
  | rowIntValue rowIdx => simp [access, stsvDBGetRowIntValue, hlock, failure]
  | rowStringValue rowIdx => simp [access, stsvDBGetRowStringValue, hlock, failure]

theorem setResource_self (s : Db) (idx : Nat) : setResource s idx (s.resource idx) = s := by
  unfold setResource
  rw [Function.update_eq_self]

theorem rejected_reported (hlock : (s.resource idx).sqlLock = false) (c : ResourceCall) :
    lockLog s idx c = [lockError idx c] ∧ (call s idx c).2 = failure c := by
  refine ⟨if_pos hlock, ?_⟩
  cases c with
  | lastInsert insertId => simp [call, stsvDBLastInsert, releaseLeft_eq, hlock, failure]
  | query a => simp [call, stsvDBQuery, releaseLeft_eq, hlock, failure]
  | realQuery a => simp [call, stsvRealQuery, releaseLeft_eq, hlock, failure]
  | access a =>
    simp only [call, access_rejected hlock]
    cases a <;> rfl
  | unlock => rfl

theorem rejected_state (hlock : (s.resource idx).sqlLock = false) (c : ResourceCall) :
    (c.releases → (call s idx c).1 = stsvDBReleaseResult s idx) ∧ (¬c.releases → (call s idx c).1 = s) := by
  cases c with
  | lastInsert insertId =>
    refine ⟨fun _ => ?_, fun h => absurd trivial h⟩
    simp [call, stsvDBLastInsert, releaseLeft_eq, hlock]
  | query a =>
    refine ⟨fun _ => ?_, fun h => absurd trivial h⟩
    simp [call, stsvDBQuery, releaseLeft_eq, hlock]
  | realQuery a =>
    refine ⟨fun _ => ?_, fun h => absurd trivial h⟩
    simp [call, stsvRealQuery, releaseLeft_eq, hlock]
  | access a =>
    refine ⟨fun h => h.elim, fun _ => ?_⟩
    simp only [call, access_rejected hlock]
    exact setResource_self s idx
  | unlock =>
    refine ⟨fun h => h.elim, fun _ => ?_⟩
    simp [call, stsvDBUnlockResource, hlock]

theorem release_eq_self : stsvDBReleaseResult s idx = s ↔ (s.resource idx).mMySqlRes = none := by
  constructor
  · intro h
    rcases hres : (s.resource idx).mMySqlRes with _ | res
    · rfl
    · -- the serial of the set that was there is freed once more
      have hfreed := congrArg (fun m => m.freed.length) h
      simp [stsvDBReleaseResult, hres] at hfreed
  · intro h
    simp [stsvDBReleaseResult, h]

/-- **A rejected call changes nothing** exactly if there is no result set, or the call asks for the
    lock before it releases one. -/
theorem rejected_iff {s : Db} {idx : Nat} (hlock : (s.resource idx).sqlLock = false) (c : ResourceCall) :
    Rejected s idx c ↔ (s.resource idx).mMySqlRes = none ∨ ¬c.releases := by
  obtain ⟨hlogged, hvalue⟩ := rejected_reported hlock c
  obtain ⟨hreleased, hsame⟩ := rejected_state hlock c
  constructor
  · intro h
    by_cases hc : c.releases
    · exact Or.inl (release_eq_self.mp ((hreleased hc).symm.trans h.state))
    · exact Or.inr hc
  · intro h
    refine ⟨hlogged, hvalue, ?_⟩
    by_cases hc : c.releases
    · exact (hreleased hc).trans (release_eq_self.mpr (h.resolve_right fun hn => hn hc))
    · exact hsame hc

/-- A resource with a set of three rows that nobody has locked. -/
def leftThree : Db :=
  { newDb with
    resource := fun _ => { newResource with mMySqlRes := some ⟨⟨3, 1, []⟩, 0⟩, mMySqlNumRow := 3, mMySqlNumFields := 1 }
    stored := 1 }

theorem rejected_fetch : Rejected leftThree 0 (.access .fetchRow) ∧ ¬Rejected leftThree 0 (.query ⟨0, 0, true, 0, none⟩) := by
  have hlock : (leftThree.resource 0).sqlLock = false := rfl
  refine ⟨(rejected_iff hlock _).mpr (Or.inr id), fun h => ?_⟩
  have hres : ¬(leftThree.resource 0).mMySqlRes = none := by decide
  exact ((rejected_iff hlock _).mp h).elim hres fun hn => hn trivial

/-- **A rejected query drops a result**: it returns false, and the set is freed and its counts
    are -1. -/
theorem rejected_query_releases :
    (leftThree.resource 0).sqlLock = false ∧
      (call leftThree 0 (.query ⟨0, 0, true, 0, none⟩)).2 = some (.bool false) ∧
      (call leftThree 0 (.query ⟨0, 0, true, 0, none⟩)).1.freed = [0] ∧
      ((call leftThree 0 (.query ⟨0, 0, true, 0, none⟩)).1.resource 0).mMySqlRes = none ∧
      ((call leftThree 0 (.query ⟨0, 0, true, 0, none⟩)).1.resource 0).mMySqlNumRow = -1 ∧
      ¬Rejected leftThree 0 (.query ⟨0, 0, true, 0, none⟩) := by
  refine ⟨rfl, by decide, by decide, by decide, by decide, fun h => ?_⟩
  have hstate := congrArg Db.freed h.state
  revert hstate
  decide

end StarServer.Database

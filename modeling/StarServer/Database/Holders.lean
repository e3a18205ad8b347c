/-
  StarServer.Database.Holders — what the next holder of a resource sees of the earlier ones.

  Neither `STSV_DBUnlockResource` nor `STSV_DBFindAndLockResource` touches the result set, the
  row and the counts of a resource, and the accessors ask for the lock only: what a holder left
  is there for the next one until it queries itself. `Leftover` is the part of it that can be
  read: the counts, and of the current row and the rows to fetch the columns up to
  `mMySqlNumFields`.

  Proved:
    * `access_congr`: an accessor sees the leftover and nothing else, and leaves equal
      leftovers equal; `observe_congr` is the same for a sequence of accesses;
    * `leftover_of_observe`: all of it can be seen;
    * `holders_isolated`: two histories look the same to the next holder exactly if their
      leftovers are equal, as they are where both left no result set;
    * `leftover_set_seen`: a set that was not released.
-/

import StarServer.Database.Results

namespace StarServer.Database

open Runs

/-! ## Accesses -/

inductive Access where
  | numRow
  | numColum
  | fetchRow
  | rowIntValue (rowIdx : Int)
  | rowStringValue (rowIdx : Int)
  deriving DecidableEq, Repr

def access (r : Resource) : Access → Resource × Seen
  | .numRow => (r, stsvDBNumRow r)
  | .numColum => (r, stsvDBNumColum r)
  | .fetchRow => stsvDBFetchRow r
  | .rowIntValue rowIdx => (r, stsvDBGetRowIntValue r rowIdx)
  | .rowStringValue rowIdx => (r, stsvDBGetRowStringValue r rowIdx)

/-- What a holder sees that makes these accesses in turn. -/
def observe : Resource → List Access → List Seen
  | _, [] => []
  | r, a :: as => (access r a).2 :: observe (access r a).1 as

/-- The columns of a row that the accessors let through. -/
def readable (numFields : Int) (row : Row) : Row := row.take (numFields + 1).toNat

/-- The rows still to fetch. -/
def toFetch (r : Resource) : List Row :=
  match r.mMySqlRes with
  | none => []
  | some res => res.rows

structure Leftover where
  numRow : Int
  numFields : Int
  current : Row
  rows : List Row
  deriving DecidableEq, Repr

def leftover (r : Resource) : Leftover where
  numRow := r.mMySqlNumRow
  numFields := r.mMySqlNumFields
  current := readable r.mMySqlNumFields (currentRow r)
  rows := (toFetch r).map (readable r.mMySqlNumFields)

variable {r r' : Resource}

/-! ## A fetch -/

/-- Without a set no row can be read. -/
theorem currentRow_released (h : r.mMySqlRes = none) : currentRow r = [] := by
  unfold currentRow
  rw [h]
  cases r.mMySqlRow <;> rfl

/-- The first row to fetch becomes the current one, and the caller learns whether there was one. -/
structure Fetched (r r' : Resource) (seen : Seen) : Prop where
  sqlLock : r'.sqlLock = true
  seen : seen = .bool !(toFetch r).isEmpty
  numRow : r'.mMySqlNumRow = r.mMySqlNumRow
  numFields : r'.mMySqlNumFields = r.mMySqlNumFields
  toFetch : toFetch r' = (toFetch r).tail
  current : currentRow r' = (Database.toFetch r).headD []

theorem fetchRow_locked (hlock : r.sqlLock = true) : Fetched r (stsvDBFetchRow r).1 (stsvDBFetchRow r).2 := by
  unfold stsvDBFetchRow
  rw [if_neg (by simp [hlock])]
  rcases hres : r.mMySqlRes with _ | res
  · exact ⟨hlock, by simp [toFetch, hres], rfl, rfl, by simp [toFetch, hres],
      by simp [currentRow_released hres, toFetch, hres]⟩
  · dsimp only
    rcases hrows : res.rows with _ | ⟨row, rows⟩
    · exact ⟨hlock, by simp [toFetch, hres, hrows], rfl, rfl, by simp [toFetch, hres, hrows],
        by simp [currentRow, toFetch, hres, hrows]⟩
    · exact ⟨hlock, by simp [toFetch, hres, hrows], rfl, rfl, by simp [toFetch, hres, hrows],
        by simp [currentRow, toFetch, hres, hrows]⟩

/-! ## What is left is all that is seen -/

theorem readCell_readable {rowIdx : Int} (h : ¬rowIdx > r.mMySqlNumFields) :
    readCell r rowIdx = if rowIdx < 0 then none else (readable r.mMySqlNumFields (currentRow r))[rowIdx.toNat]? := by
  unfold readCell readable
  split
  · rfl
  · rw [List.getElem?_take, if_pos (by omega)]

theorem readCell_congr (h : leftover r = leftover r') {rowIdx : Int} (hidx : ¬rowIdx > r.mMySqlNumFields) :
    readCell r rowIdx = readCell r' rowIdx := by
  have hfields : r.mMySqlNumFields = r'.mMySqlNumFields := congrArg Leftover.numFields h
  have hcurrent : readable r.mMySqlNumFields (currentRow r) = readable r'.mMySqlNumFields (currentRow r') :=
    congrArg Leftover.current h
  rw [readCell_readable hidx, readCell_readable (hfields ▸ hidx), hcurrent]

/-- What a fetch leaves is decided by what was left before it. -/
theorem Fetched.leftover {r₁ : Resource} {seen : Seen} (h : Fetched r r₁ seen) :
    leftover r₁ = { leftover r with current := (leftover r).rows.headD [], rows := (leftover r).rows.tail } := by
  unfold Database.leftover
  rw [h.numRow, h.numFields, h.toFetch, h.current, List.map_tail]
  rcases Database.toFetch r with _ | ⟨row, rows⟩
  · simp [readable]
  · rfl

theorem access_congr (hlock : r.sqlLock = true) (hlock' : r'.sqlLock = true) (h : leftover r = leftover r') (a : Access) :
    (access r a).2 = (access r' a).2 ∧ (access r a).1.sqlLock = true ∧ (access r' a).1.sqlLock = true ∧
      leftover (access r a).1 = leftover (access r' a).1 := by
  have hrow : r.mMySqlNumRow = r'.mMySqlNumRow := congrArg Leftover.numRow h
  have hfields : r.mMySqlNumFields = r'.mMySqlNumFields := congrArg Leftover.numFields h
  cases a with
  | numRow => exact ⟨by simp [access, stsvDBNumRow, hlock, hlock', hrow], hlock, hlock', h⟩
  | numColum => exact ⟨by simp [access, stsvDBNumColum, hlock, hlock', hfields], hlock, hlock', h⟩
  | rowIntValue rowIdx =>
    refine ⟨?_, hlock, hlock', h⟩
    simp only [access, stsvDBGetRowIntValue, hlock, hlock', ← hfields]
    by_cases hidx : rowIdx > r.mMySqlNumFields
    · simp [hidx]
    · simp [hidx, readCell_congr h hidx]
  | rowStringValue rowIdx =>
    refine ⟨?_, hlock, hlock', h⟩
    simp only [access, stsvDBGetRowStringValue, hlock, hlock', ← hfields]
    by_cases hidx : rowIdx > r.mMySqlNumFields
    · simp [hidx]
    · simp [hidx, readCell_congr h hidx]
  | fetchRow =>
    have hf := fetchRow_locked hlock
    have hf' := fetchRow_locked hlock'
    have hrows : (toFetch r).map (readable r.mMySqlNumFields) = (toFetch r').map (readable r'.mMySqlNumFields) :=
      congrArg Leftover.rows h
    have hempty : (toFetch r).isEmpty = (toFetch r').isEmpty := by
      have := congrArg List.isEmpty hrows
      simpa using this
    refine ⟨?_, hf.sqlLock, hf'.sqlLock, ?_⟩
    · show (stsvDBFetchRow r).2 = (stsvDBFetchRow r').2
      rw [hf.seen, hf'.seen, hempty]
    · show leftover (stsvDBFetchRow r).1 = leftover (stsvDBFetchRow r').1
      rw [hf.leftover, hf'.leftover, h]

theorem observe_congr (hlock : r.sqlLock = true) (hlock' : r'.sqlLock = true) (h : leftover r = leftover r')
    (accesses : List Access) : observe r accesses = observe r' accesses := by
  induction accesses generalizing r r' with
  | nil => rfl
  | cons a as ih =>
    obtain ⟨hseen, hl, hl', hleft⟩ := access_congr hlock hlock' h a
    simp only [observe]
    rw [hseen, ih hl hl' hleft]

/-! ## All that is left can be seen -/

/-- The two accessors together tell NULL from the string that stands for it. -/
theorem cell_of_seen {c c' : Option Cell} (hstring : seenString c = seenString c') (hint : seenInt c = seenInt c') :
    c = c' := by
  rcases c with _ | _ | value <;> rcases c' with _ | _ | value' <;> simp_all [seenString, seenInt]

theorem current_of_observe (hlock : r.sqlLock = true) (hlock' : r'.sqlLock = true)
    (hfields : r.mMySqlNumFields = r'.mMySqlNumFields) (h : ∀ accesses, observe r accesses = observe r' accesses) :
    readable r.mMySqlNumFields (currentRow r) = readable r'.mMySqlNumFields (currentRow r') := by
  refine List.ext_getElem? fun k => ?_
  by_cases hk : (k : Int) > r.mMySqlNumFields
  · unfold readable
    rw [List.getElem?_take, if_neg (by omega), List.getElem?_take, if_neg (by omega)]
  · have hstring := h [.rowStringValue k]
    have hint := h [.rowIntValue k]
    simp only [observe, access, stsvDBGetRowStringValue, stsvDBGetRowIntValue, hlock, hlock', ← hfields, hk, if_false,
      Bool.true_eq_false, List.cons.injEq, and_true] at hstring hint
    have hcell := cell_of_seen hstring hint
    rw [readCell_readable hk, readCell_readable (hfields ▸ hk), if_neg (by omega), if_neg (by omega)] at hcell
    simpa only [Int.toNat_natCast] using hcell

theorem rows_of_observe (hlock : r.sqlLock = true) (hlock' : r'.sqlLock = true)
    (hfields : r.mMySqlNumFields = r'.mMySqlNumFields) (h : ∀ accesses, observe r accesses = observe r' accesses) :
    (toFetch r).map (readable r.mMySqlNumFields) = (toFetch r').map (readable r'.mMySqlNumFields) := by
  -- on the rows, a fetch for each
  generalize hrs : toFetch r = rs
  induction rs generalizing r r' with
  | nil =>
    have hfetch := h [.fetchRow]
    simp only [observe, access, (fetchRow_locked hlock).seen, (fetchRow_locked hlock').seen, hrs] at hfetch
    rcases hrs' : toFetch r' with _ | ⟨row', rows'⟩
    · rfl
    · simp [hrs'] at hfetch
  | cons row rows ih =>
    have hf := fetchRow_locked hlock
    have hf' := fetchRow_locked hlock'
    have hfetch := h [.fetchRow]
    simp only [observe, access, hf.seen, hf'.seen, hrs] at hfetch
    rcases hrs' : toFetch r' with _ | ⟨row', rows'⟩
    · simp [hrs'] at hfetch
    · have hrest : ∀ accesses, observe (stsvDBFetchRow r).1 accesses = observe (stsvDBFetchRow r').1 accesses := by
        intro accesses
        have := h (.fetchRow :: accesses)
        simp only [observe, access] at this
        exact (List.cons.inj this).2
      have hfields₁ : (stsvDBFetchRow r).1.mMySqlNumFields = (stsvDBFetchRow r').1.mMySqlNumFields := by
        rw [hf.numFields, hf'.numFields, hfields]
      have hrow := current_of_observe hf.sqlLock hf'.sqlLock hfields₁ hrest
      have hrows := ih hf.sqlLock hf'.sqlLock hfields₁ hrest (by rw [hf.toFetch, hrs]; rfl)
      rw [hf.numFields, hf'.numFields, hf.current, hf'.current, hrs, hrs'] at hrow
      rw [hf.numFields, hf'.numFields, hf'.toFetch, hrs'] at hrows
      rw [List.map_cons, List.map_cons]
      exact List.cons_eq_cons.mpr ⟨hrow, hrows⟩

theorem leftover_of_observe (hlock : r.sqlLock = true) (hlock' : r'.sqlLock = true)
    (h : ∀ accesses, observe r accesses = observe r' accesses) : leftover r = leftover r' := by
  have hrow : r.mMySqlNumRow = r'.mMySqlNumRow := by
    simpa [observe, access, stsvDBNumRow, hlock, hlock'] using h [.numRow]
  have hfields : r.mMySqlNumFields = r'.mMySqlNumFields := by
    simpa [observe, access, stsvDBNumColum, hlock, hlock'] using h [.numColum]
  unfold leftover
  rw [hrow, current_of_observe hlock hlock' hfields h, rows_of_observe hlock hlock' hfields h, hfields]

/-! ## Holders -/

/-- Taking the resource leaves all of it but the lock as it was. -/
theorem leftover_lock {n idx : Nat} {s t : Db} (h : stsvDBFindAndLockResource n s = some (t, idx)) :
    leftover (t.resource idx) = leftover (s.resource idx) ∧ (t.resource idx).sqlLock = true := by
  obtain ⟨-, -, -, rfl⟩ := findAndLock_some h
  show leftover ((setResource s idx _).resource idx) = _ ∧ ((setResource s idx _).resource idx).sqlLock = true
  rw [setResource_same]
  exact ⟨rfl, rfl⟩

/-- So does giving it back. -/
theorem leftover_unlock (s : Db) (idx : Nat) :
    leftover ((stsvDBUnlockResource s idx).resource idx) = leftover (s.resource idx) := by
  unfold stsvDBUnlockResource
  dsimp only
  split
  · show leftover ((setResource s idx _).resource idx) = _
    rw [setResource_same]
    rfl
  · rfl

theorem leftover_released (hcounts : CountsOk r) (h : r.mMySqlRes = none) : leftover r = ⟨-1, -1, [], []⟩ := by
  obtain ⟨hrow, hfields⟩ := hcounts.released h
  simp [leftover, hrow, hfields, currentRow_released h, toFetch, h, readable]

theorem holders_isolated {n idx : Nat} {connected connected' : Nat → Bool} {history history' : List DbCall} {s s' t t' : Db}
    (hs : run (dbStep n) (connectedDb n connected) history = some s)
    (hs' : run (dbStep n) (connectedDb n connected') history' = some s')
    (hlock : stsvDBFindAndLockResource n s = some (t, idx)) (hlock' : stsvDBFindAndLockResource n s' = some (t', idx)) :
    ((∀ accesses, observe (t.resource idx) accesses = observe (t'.resource idx) accesses) ↔
        leftover (s.resource idx) = leftover (s'.resource idx)) ∧
      ((s.resource idx).mMySqlRes = none → (s'.resource idx).mMySqlRes = none →
        leftover (s.resource idx) = leftover (s'.resource idx)) := by
  obtain ⟨hleft, hl⟩ := leftover_lock hlock
  obtain ⟨hleft', hl'⟩ := leftover_lock hlock'
  have hidx : idx < n := (findAndLock_some hlock).1
  have hinv : ResultsInv n s := run_inv _ (fun _ _ _ hi he => results_step hi he) (connected_inv connected) hs
  have hinv' : ResultsInv n s' := run_inv _ (fun _ _ _ hi he => results_step hi he) (connected_inv connected') hs'
  refine ⟨?_, ?_⟩
  · rw [← hleft, ← hleft']
    exact ⟨leftover_of_observe hl hl', observe_congr hl hl'⟩
  · intro hnone hnone'
    rw [leftover_released (hinv.counts idx hidx) hnone, leftover_released (hinv'.counts idx hidx) hnone']

/-- A holder that fetches a row, releases and unlocks. -/
def releasing : List DbCall :=
  [.findAndLock, .query 0 ⟨0, 0, true, 0, some ⟨1, 1, [[some [65]]]⟩⟩, .fetchRow 0, .releaseResult 0, .unlock 0]

theorem releasing_isolated : ∃ s t t',
    run (dbStep 1) (connectedDb 1 fun _ => true) releasing = some s ∧ stsvDBFindAndLockResource 1 s = some (t, 0) ∧
      stsvDBFindAndLockResource 1 (connectedDb 1 fun _ => true) = some (t', 0) ∧
        ∀ accesses, observe (t.resource 0) accesses = observe (t'.resource 0) accesses :=
  ⟨_, _, _, rfl, rfl, rfl,
    (@holders_isolated 1 0 (fun _ => true) (fun _ => true) releasing [] _ _ _ _ rfl rfl rfl rfl).1.mpr (by decide +kernel)⟩

/-- A holder unlocks with a set of one row, and the next one fetches it. -/
theorem leftover_set_seen : ∃ s t t',
    run (dbStep 1) (connectedDb 1 fun _ => true)
        [.findAndLock, .query 0 ⟨0, 0, true, 0, some ⟨1, 1, [[some [65]]]⟩⟩, .unlock 0] = some s ∧
      stsvDBFindAndLockResource 1 s = some (t, 0) ∧
      stsvDBFindAndLockResource 1 (connectedDb 1 fun _ => true) = some (t', 0) ∧
      observe (t.resource 0) [.numRow, .fetchRow, .rowStringValue 0] = [.int 1, .bool true, .string (some [65])] ∧
      observe (t'.resource 0) [.numRow, .fetchRow, .rowStringValue 0] = [.int (-1), .bool false, .string none] :=
  ⟨_, _, _, rfl, rfl, rfl, by decide +kernel, by decide +kernel⟩

end StarServer.Database

/-
  StarServer.Database.RowAccess — what `STSV_DBGetRowIntValue` and
  `STSV_DBGetRowStringValue` read.

  The row pointer is good from a `STSV_DBFetchRow` that found a row to the next call that
  fetches past the end or drops the result set; nothing resets it then. The accessors ask for
  the lock and compare `rowIdx` with the field count: a `rowIdx` equal to it or below 0 passes,
  and so does any where the row has gone but not its set. `atoi` gets a NULL column as it is.

  Proved:
    * `fetch_rowOk`, `release_rowOk`, `store_rowOk`: where the pointer is, after the pieces of
      the calls;
    * `rows_step`: every call keeps it so;
    * `row_access_iff`: in every reachable state both accessors are right for a column index
      exactly if it is past the field count, or is a column, not NULL, of the current row;
    * `row_access_undefined`: the four ways out of the row.
-/

import StarServer.Database.Holders

namespace StarServer.Database

open Runs

/-! ## The current row -/

/-- A set as the library makes it: each row has a column for each field. -/
structure ResultSet.WellFormed (set : ResultSet) : Prop where
  fields : set.numFields.toNat < 2 ^ 31
  width : ∀ row ∈ set.rows, row.length = set.numFields.toNat

/-- The row that the last fetch on the current set returned, if it returned true. A fetch that
    the lock check rejects is none on the set. -/
def trackRow (nDBMaxConnect : Nat) (s : Db) (current : Nat → Option Row) : DbCall → Nat → Option Row
  | .query idx _ | .realQuery idx _ | .lastInsert idx _ | .releaseResult idx => Function.update current idx none
  | .fetchRow idx =>
    if (s.resource idx).sqlLock then Function.update current idx (toFetch (s.resource idx)).head? else current
  | .disConnect => fun i => if i < nDBMaxConnect then none else current i
  | .findAndLock | .unlock _ => current

def rowsStep (nDBMaxConnect : Nat) (p : Db × (Nat → Option Row)) (e : DbCall) : Option (Db × (Nat → Option Row)) :=
  (dbStep nDBMaxConnect p.1 e).map fun s => (s, trackRow nDBMaxConnect p.1 p.2 e)

/-- The sets a call may get are well formed. -/
def SetsOk : DbCall → Prop
  | .query _ a | .realQuery _ a => ∀ set, a.result = some set → set.WellFormed
  | _ => True

/-- The column `rowIdx` of the current row. -/
def cellAt (current : Option Row) (rowIdx : Int) : Option Cell :=
  if rowIdx < 0 then none else (current.getD [])[rowIdx.toNat]?

/-- Both accessors give the column, "0" for NULL, or their error value where there is none. -/
structure AccessRight (r : Resource) (current : Option Row) (rowIdx : Int) : Prop where
  int : stsvDBGetRowIntValue r rowIdx =
    (cellAt current rowIdx).elim (.int (-1)) fun cell => .int (atoi (cell.getD charZero))
  string : stsvDBGetRowStringValue r rowIdx =
    (cellAt current rowIdx).elim (.string none) fun cell => .string (some (cell.getD charZero))

/-- The index is past the field count, or a column of the current row that is not NULL. -/
def AccessDefined (r : Resource) (current : Option Row) (rowIdx : Int) : Prop :=
  rowIdx > r.mMySqlNumFields ∨ ∃ value, cellAt current rowIdx = some (some value)

/-! ## Where the pointer is -/

/-- The row pointer of a resource gives the current row or nothing, and the field count is the
    row's; `stored` are the serials in use. -/
structure RowOk (r : Resource) (current : Option Row) (stored : Nat) : Prop where
  row : currentRow r = current.getD []
  width : ∀ row, current = some row → (row.length : Int) = r.mMySqlNumFields
  sets : ∀ res, r.mMySqlRes = some res → res.toResultSet.WellFormed ∧ r.mMySqlNumFields = res.numFields.toInt
  serial : ∀ serial row, r.mMySqlRow = some (serial, row) → serial < stored

def RowInv (s : Db) (current : Nat → Option Row) : Prop := ∀ i, RowOk (s.resource i) (current i) s.stored

variable {nDBMaxConnect : Nat} {s s' : Db} {current : Nat → Option Row} {e : DbCall} {idx : Nat}

/-- A resource with another lock or connection. -/
theorem RowOk.congr {r r' : Resource} {row : Option Row} {stored : Nat} (h : RowOk r row stored)
    (hres : r'.mMySqlRes = r.mMySqlRes) (hrow : r'.mMySqlRow = r.mMySqlRow)
    (hfields : r'.mMySqlNumFields = r.mMySqlNumFields) : RowOk r' row stored := by
  have hcurrent : currentRow r' = currentRow r := by
    unfold currentRow
    rw [hres, hrow]
  refine ⟨hcurrent.trans h.row, ?_, ?_, ?_⟩
  · rw [hfields]
    exact h.width
  · rw [hres, hfields]
    exact h.sets
  · rw [hrow]
    exact h.serial

theorem RowOk.mono {r : Resource} {row : Option Row} {stored : Nat} (h : RowOk r row stored) : RowOk r row (stored + 1) :=
  ⟨h.row, h.width, h.sets, fun serial row hrow => Nat.lt_succ_of_lt (h.serial serial row hrow)⟩

/-- One resource and its current row change. -/
theorem RowInv.set (hi : RowInv s current) {r : Resource} {row : Option Row} (hr : RowOk r row s.stored)
    (hres : s'.resource = (setResource s idx r).resource) (hstored : s'.stored = s.stored) :
    RowInv s' (Function.update current idx row) := by
  intro i
  rw [hres, hstored]
  by_cases h : i = idx
  · subst h
    rw [setResource_same, Function.update_self]
    exact hr
  · rw [setResource_other s r h, Function.update_of_ne h]
    exact hi i

/-- One resource changes in its lock or connection. -/
theorem RowInv.keep (hi : RowInv s current) {r : Resource} (hset : r.mMySqlRes = (s.resource idx).mMySqlRes)
    (hrow : r.mMySqlRow = (s.resource idx).mMySqlRow) (hfields : r.mMySqlNumFields = (s.resource idx).mMySqlNumFields)
    (hres : s'.resource = (setResource s idx r).resource) (hstored : s'.stored = s.stored) : RowInv s' current := by
  have h := hi.set ((hi idx).congr hset hrow hfields) hres hstored
  rwa [Function.update_eq_self] at h

/-- Without a set there is no row. -/
theorem released_rowOk {r r' : Resource} {row : Option Row} {stored : Nat} (h : RowOk r row stored)
    (hres : r'.mMySqlRes = none) (hrow : r'.mMySqlRow = r.mMySqlRow) : RowOk r' none stored := by
  refine ⟨currentRow_released hres, ?_, ?_, ?_⟩
  · intro row h'
    cases h'
  · intro res h'
    rw [hres] at h'
    cases h'
  · rw [hrow]
    exact h.serial

theorem release_rowOk (hi : RowInv s current) (idx : Nat) :
    RowInv (stsvDBReleaseResult s idx) (Function.update current idx none) := by
  unfold stsvDBReleaseResult
  dsimp only
  split
  · exact hi.set (r := { s.resource idx with mMySqlRes := none, mMySqlNumFields := -1, mMySqlNumRow := -1 })
      (released_rowOk (hi idx) rfl rfl) rfl rfl
  · rename_i hres
    exact hi.set (r := s.resource idx) (released_rowOk (hi idx) hres rfl) (by simp [setResource]) rfl

theorem disConnect_rowOk (hi : RowInv s current) (n : Nat) :
    RowInv (stdbDisConnect n s) fun i => if i < n then none else current i := by
  unfold stdbDisConnect
  induction n with
  | zero => simpa using hi
  | succ n ih =>
    rw [List.range_succ, List.foldl_append, List.foldl_cons, List.foldl_nil, releaseLeft_eq]
    have hnext := release_rowOk ih n
    have hrow : (fun i => if i < n + 1 then none else current i) =
        Function.update (fun i => if i < n then none else current i) n none := by
      funext i
      rw [Function.update_apply]
      by_cases h : i = n
      · rw [if_pos h, if_pos (by omega)]
      · rw [if_neg h]
        by_cases hlt : i < n
        · rw [if_pos hlt, if_pos (by omega)]
        · rw [if_neg hlt, if_neg (by omega)]
    rw [hrow]
    exact hnext

theorem reConnect_rowOk (hi : RowInv s current) (idx : Nat) (connected : Bool) :
    RowInv (stdbReConnect s idx connected) current :=
  hi.keep (r := { s.resource idx with pMySql := connected }) rfl rfl rfl rfl rfl

/-- A new set's serial is none that the row pointer can have. -/
theorem store_rowOk (hi : RowInv s current) (hnone : current idx = none) {result : Option ResultSet}
    (hset : ∀ set, result = some set → set.WellFormed) : RowInv (storeResult s idx result) current := by
  cases result with
  | none =>
    have h : RowInv (storeResult s idx none) (Function.update current idx none) :=
      hi.set (r := { s.resource idx with mMySqlRes := none }) (released_rowOk (hi idx) rfl rfl) rfl rfl
    rwa [← hnone, Function.update_eq_self] at h
  | some set =>
    have hok : RowOk ((storeResult s idx (some set)).resource idx) none (s.stored + 1) := by
      simp only [storeResult, setResource_same]
      refine ⟨?_, ?_, ?_, ?_⟩
      · unfold currentRow
        rcases hrow : (s.resource idx).mMySqlRow with _ | ⟨serial, row⟩
        · simp
        · have hlt := (hi idx).serial serial row hrow
          simp [Nat.ne_of_lt hlt]
      · intro row h
        cases h
      · intro res h
        cases h
        exact ⟨hset set rfl, rfl⟩
      · intro serial row hrow
        exact Nat.lt_succ_of_lt ((hi idx).serial serial row hrow)
    intro i
    show RowOk ((storeResult s idx (some set)).resource i) (current i) (s.stored + 1)
    by_cases h : i = idx
    · subst h
      rw [hnone]
      exact hok
    · have hother : (storeResult s idx (some set)).resource i = s.resource i := setResource_other s _ h
      rw [hother]
      exact (hi i).mono

theorem fetch_rowOk (hi : RowInv s current) (hlive : ∀ i serial, serialAt s i = some serial → serial < s.stored)
    (hlock : (s.resource idx).sqlLock = true) :
    RowInv (setResource s idx (stsvDBFetchRow (s.resource idx)).1)
      (Function.update current idx (toFetch (s.resource idx)).head?) := by
  refine hi.set ?_ rfl rfl
  unfold stsvDBFetchRow
  rw [if_neg (by simp [hlock])]
  rcases hres : (s.resource idx).mMySqlRes with _ | res
  · have h := released_rowOk (hi idx) hres rfl
    simpa [toFetch, hres] using h
  · obtain ⟨hwf, hfields⟩ := (hi idx).sets res hres
    dsimp only
    rcases hrows : res.rows with _ | ⟨row, rows⟩
    · -- past the last row the pointer is NULL
      refine ⟨by simp [currentRow, toFetch, hres, hrows], ?_, ?_, ?_⟩
      · intro row h
        simp [toFetch, hres, hrows] at h
      · intro res' h
        exact (hi idx).sets res' (hres.trans h)
      · intro serial row h
        cases h
    · refine ⟨by simp [currentRow, toFetch, hres, hrows], ?_, ?_, ?_⟩
      · intro row' h
        simp only [toFetch, hres, hrows, List.head?_cons, Option.some.injEq] at h
        subst h
        have hlen := hwf.width row (by rw [hrows]; exact List.mem_cons_self)
        have hlt := hwf.fields
        rw [hfields, hlen, BitVec.toInt_eq_toNat_of_lt (by omega)]
      · intro res' h
        cases h
        exact ⟨⟨hwf.fields, fun row' hmem => hwf.width row' (by rw [hrows]; exact List.mem_cons_of_mem _ hmem)⟩, hfields⟩
      · intro serial row' h
        cases h
        exact hlive idx res.serial (by simp [serialAt, hres])

/-! ## The calls -/

theorem rows_step (hr : ResultsInv nDBMaxConnect s) (hi : RowInv s current) (hsets : SetsOk e)
    (h : dbStep nDBMaxConnect s e = some s') : RowInv s' (trackRow nDBMaxConnect s current e) := by
  cases e with
  | findAndLock =>
    obtain ⟨⟨t, foundIdx⟩, hlock, rfl⟩ := Option.map_eq_some_iff.mp h
    obtain ⟨-, -, -, rfl⟩ := findAndLock_some hlock
    exact hi.keep (r := { s.resource foundIdx with sqlLock := true }) rfl rfl rfl rfl rfl
  | unlock idx =>
    obtain ⟨-, rfl⟩ := onResource_some h
    unfold stsvDBUnlockResource
    dsimp only
    split
    · exact hi.keep (r := { s.resource idx with sqlLock := false }) rfl rfl rfl rfl rfl
    · exact hi
  | lastInsert idx insertId =>
    obtain ⟨-, rfl⟩ := onResource_some h
    unfold stsvDBLastInsert
    rw [releaseLeft_eq]
    dsimp only
    split
    · exact release_rowOk hi idx
    · exact release_rowOk hi idx
  | query idx a =>
    obtain ⟨-, rfl⟩ := onResource_some h
    exact query_keeps (P := fun m => RowInv m (Function.update current idx none)) a (release_rowOk hi idx)
      (fun m connected hm => reConnect_rowOk hm idx connected)
      (fun m hm => store_rowOk hm (Function.update_self ..) hsets) fun m hm => hm
  | realQuery idx a =>
    obtain ⟨-, rfl⟩ := onResource_some h
    exact realQuery_keeps (P := fun m => RowInv m (Function.update current idx none)) a (release_rowOk hi idx)
      (fun m connected hm => reConnect_rowOk hm idx connected)
      (fun m hm => store_rowOk hm (Function.update_self ..) hsets) fun m hm => hm
  | fetchRow idx =>
    obtain ⟨-, rfl⟩ := onResource_some h
    by_cases hlock : (s.resource idx).sqlLock = true
    · have hfetch := fetch_rowOk hi (fun i serial hh => (hr.live i serial hh).2.1) hlock
      simpa [trackRow, hlock] using hfetch
    · have hsame : (stsvDBFetchRow (s.resource idx)).1 = s.resource idx := by simp [stsvDBFetchRow, hlock]
      rw [hsame]
      have hkeep : RowInv (setResource s idx (s.resource idx)) current := hi.keep rfl rfl rfl rfl rfl
      simpa [trackRow, hlock] using hkeep
  | releaseResult idx =>
    obtain ⟨-, rfl⟩ := onResource_some h
    exact release_rowOk hi idx
  | disConnect =>
    obtain rfl := Option.some.inj h
    exact disConnect_rowOk hi nDBMaxConnect

/-! ## Access -/

theorem readCell_rowOk {r : Resource} {row : Option Row} {stored : Nat} (h : RowOk r row stored) (rowIdx : Int) :
    readCell r rowIdx = cellAt row rowIdx := by
  unfold readCell cellAt
  rw [h.row]

/-- There is no column past the field count. -/
theorem cellAt_past {r : Resource} {row : Option Row} {stored : Nat} (h : RowOk r row stored) {rowIdx : Int}
    (hpast : rowIdx > r.mMySqlNumFields) : cellAt row rowIdx = none := by
  unfold cellAt
  by_cases hneg : rowIdx < 0
  · rw [if_pos hneg]
  · rw [if_neg hneg]
    cases row with
    | none => rfl
    | some row =>
      have hwidth := h.width row rfl
      rw [Option.getD_some, List.getElem?_eq_none]
      omega

theorem access_iff {r : Resource} {row : Option Row} {stored : Nat} (h : RowOk r row stored) (hlock : r.sqlLock = true)
    (rowIdx : Int) : AccessRight r row rowIdx ↔ AccessDefined r row rowIdx := by
  by_cases hpast : rowIdx > r.mMySqlNumFields
  · refine iff_of_true ⟨?_, ?_⟩ (Or.inl hpast)
    · rw [cellAt_past h hpast]
      simp [stsvDBGetRowIntValue, hlock, hpast]
    · rw [cellAt_past h hpast]
      simp [stsvDBGetRowStringValue, hlock, hpast]
  · have hint : stsvDBGetRowIntValue r rowIdx = seenInt (cellAt row rowIdx) := by
      simp [stsvDBGetRowIntValue, hlock, hpast, readCell_rowOk h]
    have hstring : stsvDBGetRowStringValue r rowIdx = seenString (cellAt row rowIdx) := by
      simp [stsvDBGetRowStringValue, hlock, hpast, readCell_rowOk h]
    rcases hcell : cellAt row rowIdx with _ | _ | value
    · -- no such column: both read outside the row
      refine iff_of_false ?_ ?_
      · intro hright
        have := hright.int
        rw [hint, hcell] at this
        cases this
      · rintro (hbad | ⟨value, hvalue⟩)
        · exact hpast hbad
        · rw [hcell] at hvalue
          cases hvalue
    · -- NULL: `atoi` reads through it
      refine iff_of_false ?_ ?_
      · intro hright
        have := hright.int
        rw [hint, hcell] at this
        cases this
      · rintro (hbad | ⟨value, hvalue⟩)
        · exact hpast hbad
        · rw [hcell] at hvalue
          cases hvalue
    · refine iff_of_true ⟨?_, ?_⟩ (Or.inr ⟨value, hcell⟩)
      · rw [hint, hcell]
        rfl
      · rw [hstring, hcell]
        rfl

theorem connected_rowInv (connected : Nat → Bool) : RowInv (connectedDb nDBMaxConnect connected) fun _ => none := by
  intro i
  obtain ⟨hres, -, -, -⟩ := connectAll connected nDBMaxConnect
  rw [hres]
  refine ⟨rfl, ?_, ?_, ?_⟩
  · intro row h
    cases h
  · intro res h
    cases h
  · intro serial row h
    cases h

theorem rows_run {p q : Db × (Nat → Option Row)} {calls : List DbCall} (hsets : ∀ e ∈ calls, SetsOk e)
    (hr : ResultsInv nDBMaxConnect p.1) (hi : RowInv p.1 p.2) (hrun : run (rowsStep nDBMaxConnect) p calls = some q) :
    RowInv q.1 q.2 := by
  induction calls generalizing p with
  | nil =>
    cases hrun
    exact hi
  | cons e calls ih =>
    obtain ⟨m, he, hrest⟩ := (run_cons _).mp hrun
    obtain ⟨s', hstep, rfl⟩ := Option.map_eq_some_iff.mp he
    exact ih (fun e' h => hsets e' (List.mem_cons_of_mem _ h)) (results_step hr hstep)
      (rows_step hr hi (hsets e List.mem_cons_self) hstep) hrest

/-- **What the accessors give**, in every state that the calls reach. -/
theorem row_access_iff (connected : Nat → Bool) {calls : List DbCall} (hsets : ∀ e ∈ calls, SetsOk e)
    {p : Db × (Nat → Option Row)}
    (hrun : run (rowsStep nDBMaxConnect) (connectedDb nDBMaxConnect connected, fun _ => none) calls = some p) {idx : Nat}
    (hlock : (p.1.resource idx).sqlLock = true) (rowIdx : Int) :
    AccessRight (p.1.resource idx) (p.2 idx) rowIdx ↔ AccessDefined (p.1.resource idx) (p.2 idx) rowIdx :=
  access_iff (rows_run hsets (connected_inv connected) (connected_rowInv connected) hrun idx) hlock rowIdx

/-- One row of two columns, a 7 and NULL. -/
def sevenAndNull : List DbCall := [.findAndLock, .query 0 ⟨0, 0, true, 0, some ⟨1, 2, [[some [55], none]]⟩⟩, .fetchRow 0]

theorem sevenAndNull_sets : ∀ e ∈ sevenAndNull, SetsOk e := by
  simp only [sevenAndNull, List.forall_mem_cons, SetsOk]
  refine ⟨trivial, ?_, trivial, by simp⟩
  intro set h
  cases h
  exact ⟨by decide, by decide⟩

theorem row_access_seven : ∃ p, run (rowsStep 1) (connectedDb 1 (fun _ => true), fun _ => none) sevenAndNull = some p ∧
    (p.1.resource 0).sqlLock = true ∧ AccessRight (p.1.resource 0) (p.2 0) 0 ∧ ¬AccessRight (p.1.resource 0) (p.2 0) 1 := by
  obtain ⟨p, hrun⟩ : ∃ p, run (rowsStep 1) (connectedDb 1 (fun _ => true), fun _ => none) sevenAndNull = some p := ⟨_, rfl⟩
  have hlock : (p.1.resource 0).sqlLock = true := by
    cases hrun
    decide +kernel
  refine ⟨p, hrun, hlock, ?_, ?_⟩
  · refine (row_access_iff (fun _ => true) sevenAndNull_sets hrun hlock 0).mpr (Or.inr ⟨[55], ?_⟩)
    cases hrun
    decide +kernel
  · intro h
    have hint := h.int
    cases hrun
    revert hint
    decide +kernel

/-- **Out of the row**: the column of the field count, a NULL column as an int, any column when the
    last fetch was past the end, and column -1 where nothing was fetched at all. -/
theorem row_access_undefined :
    (∃ p, run (rowsStep 1) (connectedDb 1 (fun _ => true), fun _ => none) sevenAndNull = some p ∧
      (p.1.resource 0).sqlLock = true ∧ stsvDBGetRowStringValue (p.1.resource 0) 2 = .undefined ∧
      stsvDBGetRowIntValue (p.1.resource 0) 1 = .undefined ∧
      stsvDBGetRowStringValue (p.1.resource 0) 1 = .string (some charZero) ∧
      ¬AccessRight (p.1.resource 0) (p.2 0) 2) ∧
    (∃ p, run (rowsStep 1) (connectedDb 1 (fun _ => true), fun _ => none) (sevenAndNull ++ [.fetchRow 0]) = some p ∧
      (p.1.resource 0).sqlLock = true ∧ p.2 0 = none ∧ stsvDBGetRowStringValue (p.1.resource 0) 0 = .undefined) ∧
    ∃ p, run (rowsStep 1) (connectedDb 1 (fun _ => true), fun _ => none) [.findAndLock] = some p ∧
      (p.1.resource 0).sqlLock = true ∧ p.2 0 = none ∧ stsvDBGetRowStringValue (p.1.resource 0) (-1) = .undefined := by
  refine ⟨⟨_, rfl, by decide +kernel, by decide +kernel, by decide +kernel, by decide +kernel, ?_⟩,
    ⟨_, rfl, by decide +kernel, by decide +kernel, by decide +kernel⟩,
    ⟨_, rfl, by decide +kernel, by decide +kernel, by decide +kernel⟩⟩
  intro h
  have hstring := h.string
  revert hstring
  decide +kernel

end StarServer.Database

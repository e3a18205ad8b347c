/-
  StarServer.Database.Results — who frees a result set, and the counts beside it.

  A set that `mysql_store_result` returned is in `mMySqlRes` of one resource until
  `mysql_free_result` has it. Every call that stores a set, or may, first releases the one it
  finds; a released resource has both counts at -1, and a query without a set leaves them there.

  Proved:
    * `release_inv`, `store_inv`, `ResultsInv.keep`: the pieces the calls are made of;
    * `results_step`: every call keeps the invariant `ResultsInv`;
    * `result_sets_linear`: on every run each set is freed at most once, none is dropped, and
      the counts are those of the set, as ints;
    * `count_of_many_rows`: a count from 2^31 on is not the int it is stored in.
-/

import StarServer.Database.Available

namespace StarServer.Database

open Runs

variable (nDBMaxConnect : Nat)

/-- The set that resource `i` has. -/
def serialAt (s : Db) (i : Nat) : Option Nat := (s.resource i).mMySqlRes.map (·.serial)

/-- The counts are -1 without a set, and else the set's, as the ints they are stored in. -/
structure CountsOk (r : Resource) : Prop where
  released : r.mMySqlRes = none → r.mMySqlNumRow = -1 ∧ r.mMySqlNumFields = -1
  stored : ∀ res, r.mMySqlRes = some res →
    r.mMySqlNumRow = (res.numRows.setWidth 32).toInt ∧ r.mMySqlNumFields = res.numFields.toInt

structure ResultsOk (s : Db) : Prop where
  freedOnce : s.freed.Nodup
  kept : ∀ h < s.stored, h ∈ s.freed ∨ ∃ i < nDBMaxConnect, serialAt s i = some h
  counts : ∀ i < nDBMaxConnect, CountsOk (s.resource i)

structure ResultsInv (s : Db) : Prop extends ResultsOk nDBMaxConnect s where
  live : ∀ i h, serialAt s i = some h → i < nDBMaxConnect ∧ h < s.stored ∧ h ∉ s.freed
  apart : ∀ i j h, serialAt s i = some h → serialAt s j = some h → i = j
  known : ∀ h ∈ s.freed, h < s.stored

variable {nDBMaxConnect} {s s' : Db} {e : DbCall} {idx : Nat}

theorem serialAt_set (s : Db) (idx i : Nat) (r : Resource) :
    serialAt (setResource s idx r) i = if i = idx then r.mMySqlRes.map (·.serial) else serialAt s i := by
  unfold serialAt
  by_cases hi : i = idx
  · subst hi
    rw [setResource_same, if_pos rfl]
  · rw [setResource_other s r hi, if_neg hi]

/-! ## The pieces -/

/-- An update that keeps the set a resource has. -/
theorem ResultsInv.keep (hi : ResultsInv nDBMaxConnect s) {r : Resource} (hserial : r.mMySqlRes.map (·.serial) = serialAt s idx)
    (hcounts : idx < nDBMaxConnect → CountsOk r) (hres : s'.resource = (setResource s idx r).resource)
    (hstored : s'.stored = s.stored) (hfreed : s'.freed = s.freed) : ResultsInv nDBMaxConnect s' := by
  have hat : ∀ i, serialAt s' i = serialAt s i := by
    intro i
    have : serialAt s' i = serialAt (setResource s idx r) i := by
      unfold serialAt
      rw [hres]
    rw [this, serialAt_set]
    split
    · rename_i hidx
      rw [hidx, hserial]
    · rfl
  refine ⟨⟨?_, ?_, ?_⟩, ?_, ?_, ?_⟩
  · rw [hfreed]
    exact hi.freedOnce
  · intro h hh
    rw [hstored] at hh
    simp only [hat, hfreed]
    exact hi.kept h hh
  · intro i hin
    rw [hres]
    by_cases hidx : i = idx
    · subst hidx
      rw [setResource_same]
      exact hcounts hin
    · rw [setResource_other s r hidx]
      exact hi.counts i hin
  · intro i h hh
    rw [hat] at hh
    rw [hstored, hfreed]
    exact hi.live i h hh
  · intro i j h hih hjh
    rw [hat] at hih hjh
    exact hi.apart i j h hih hjh
  · intro h hh
    rw [hfreed] at hh
    rw [hstored]
    exact hi.known h hh

theorem release_inv (hi : ResultsInv nDBMaxConnect s) (idx : Nat) :
    ResultsInv nDBMaxConnect (stsvDBReleaseResult s idx) ∧ serialAt (stsvDBReleaseResult s idx) idx = none := by
  unfold stsvDBReleaseResult
  dsimp only
  split
  · rename_i res hres
    have hhad : serialAt s idx = some res.serial := by simp [serialAt, hres]
    obtain ⟨hidx, hlt, hnew⟩ := hi.live idx _ hhad
    have hat : ∀ (r : Resource) (freed : List Nat) (i : Nat), r.mMySqlRes = none →
        serialAt { setResource s idx r with freed := freed } i = if i = idx then none else serialAt s i := by
      intro r freed i hr
      have := serialAt_set s idx i r
      rw [hr] at this
      exact this
    refine ⟨⟨⟨?_, ?_, ?_⟩, ?_, ?_, ?_⟩, by rw [hat _ _ _ rfl, if_pos rfl]⟩
    · exact List.nodup_cons.mpr ⟨hnew, hi.freedOnce⟩
    · intro h hh
      rcases hi.kept h hh with hfreed | ⟨i, hin, hih⟩
      · exact Or.inl (List.mem_cons_of_mem _ hfreed)
      · by_cases hidx : i = idx
        · rw [hidx, hhad] at hih
          exact Or.inl (by simp [Option.some.inj hih])
        · exact Or.inr ⟨i, hin, by rw [hat _ _ _ rfl, if_neg hidx, hih]⟩
    · intro i hin
      show CountsOk ((setResource s idx _).resource i)
      by_cases hidx : i = idx
      · subst hidx
        rw [setResource_same]
        exact ⟨fun _ => ⟨rfl, rfl⟩, by intro res h; cases h⟩
      · rw [setResource_other s _ hidx]
        exact hi.counts i hin
    · intro i h hh
      rw [hat _ _ _ rfl] at hh
      split at hh
      · cases hh
      · rename_i hidx
        obtain ⟨hin, hlt', hfree⟩ := hi.live i h hh
        refine ⟨hin, hlt', ?_⟩
        rintro (_ | ⟨_, hmem⟩)
        · exact hidx (hi.apart i idx res.serial hh hhad)
        · exact hfree hmem
    · intro i j h hih hjh
      rw [hat _ _ _ rfl] at hih hjh
      split at hih
      · cases hih
      · split at hjh
        · cases hjh
        · exact hi.apart i j h hih hjh
    · rintro h (_ | ⟨_, hmem⟩)
      · exact hlt
      · exact hi.known h hmem
  · rename_i hres
    exact ⟨hi, by simp [serialAt, hres]⟩

/-- A set stored where there was none. -/
theorem store_inv (hi : ResultsInv nDBMaxConnect s) (hidx : idx < nDBMaxConnect) (hnone : serialAt s idx = none)
    (result : Option ResultSet) : ResultsInv nDBMaxConnect (storeResult s idx result) := by
  have hres : (s.resource idx).mMySqlRes = none := by simpa [serialAt] using hnone
  cases result with
  | none =>
    refine hi.keep (r := { s.resource idx with mMySqlRes := none }) hnone.symm (fun h => ⟨fun _ => ?_, ?_⟩) rfl rfl rfl
    · exact (hi.counts idx h).released hres
    · intro res h
      cases h
  | some set =>
    have hat : ∀ i, serialAt (storeResult s idx (some set)) i = if i = idx then some s.stored else serialAt s i :=
      fun i => serialAt_set s idx i _
    refine ⟨⟨hi.freedOnce, ?_, ?_⟩, ?_, ?_, ?_⟩
    · intro h hh
      have hh : h < s.stored + 1 := hh
      by_cases hnew : h = s.stored
      · exact Or.inr ⟨idx, hidx, by rw [hat, if_pos rfl, hnew]⟩
      · rcases hi.kept h (by omega) with hfreed | ⟨i, hin, hih⟩
        · exact Or.inl hfreed
        · refine Or.inr ⟨i, hin, ?_⟩
          have hne : i ≠ idx := by
            rintro rfl
            rw [hnone] at hih
            cases hih
          rw [hat, if_neg hne, hih]
    · intro i hin
      show CountsOk ((setResource s idx _).resource i)
      by_cases hi' : i = idx
      · subst hi'
        rw [setResource_same]
        refine ⟨?_, ?_⟩
        · intro h
          cases h
        · intro res h
          cases h
          exact ⟨rfl, rfl⟩
      · rw [setResource_other s _ hi']
        exact hi.counts i hin
    · intro i h hh
      show i < nDBMaxConnect ∧ h < s.stored + 1 ∧ h ∉ s.freed
      rw [hat] at hh
      split at hh
      · rename_i hi'
        cases hh
        exact ⟨hi' ▸ hidx, by omega, fun hmem => Nat.lt_irrefl _ (hi.known _ hmem)⟩
      · obtain ⟨hin, hlt, hfree⟩ := hi.live i h hh
        exact ⟨hin, by omega, hfree⟩
    · intro i j h hih hjh
      rw [hat] at hih hjh
      split at hih
      · split at hjh
        · omega
        · cases hih
          exact absurd (hi.live j _ hjh).2.1 (Nat.lt_irrefl _)
      · split at hjh
        · cases hjh
          exact absurd (hi.live i _ hih).2.1 (Nat.lt_irrefl _)
        · exact hi.apart i j h hih hjh
    · intro h hmem
      show h < s.stored + 1
      have := hi.known h hmem
      omega

/-! ## The calls -/

theorem CountsOk.congr {r r' : Resource} (h : CountsOk r) (hres : r'.mMySqlRes = r.mMySqlRes)
    (hrow : r'.mMySqlNumRow = r.mMySqlNumRow) (hfields : r'.mMySqlNumFields = r.mMySqlNumFields) : CountsOk r' := by
  refine ⟨?_, ?_⟩
  · rw [hres, hrow, hfields]
    exact h.released
  · rw [hres, hrow, hfields]
    exact h.stored

/-- A resource with the same set and counts, in a state that has stored and freed no more. -/
theorem ResultsInv.update (hi : ResultsInv nDBMaxConnect s) {r : Resource} (hset : r.mMySqlRes = (s.resource idx).mMySqlRes)
    (hrow : r.mMySqlNumRow = (s.resource idx).mMySqlNumRow) (hfields : r.mMySqlNumFields = (s.resource idx).mMySqlNumFields)
    (hres : s'.resource = (setResource s idx r).resource) (hstored : s'.stored = s.stored) (hfreed : s'.freed = s.freed) :
    ResultsInv nDBMaxConnect s' := by
  refine hi.keep (r := r) ?_ (fun h => (hi.counts idx h).congr hset hrow hfields) hres hstored hfreed
  rw [hset]
  rfl

theorem reConnect_inv (hi : ResultsInv nDBMaxConnect s) (idx : Nat) (connected : Bool) :
    ResultsInv nDBMaxConnect (stdbReConnect s idx connected) :=
  hi.update (r := { s.resource idx with pMySql := connected }) rfl rfl rfl rfl rfl rfl

theorem fetchRow_inv (hi : ResultsInv nDBMaxConnect s) (idx : Nat) :
    ResultsInv nDBMaxConnect (setResource s idx (stsvDBFetchRow (s.resource idx)).1) := by
  unfold stsvDBFetchRow
  split
  · exact hi.update rfl rfl rfl rfl rfl rfl
  · split
    · exact hi.update rfl rfl rfl rfl rfl rfl
    · rename_i res hres
      split
      · exact hi.update (r := { s.resource idx with mMySqlRow := none }) rfl rfl rfl rfl rfl rfl
      · refine hi.keep (by simp [serialAt, hres]) (fun h => ⟨?_, ?_⟩) rfl rfl rfl
        · intro h
          cases h
        · intro res' h
          cases h
          exact (hi.counts idx h).stored res hres

theorem results_step (hi : ResultsInv nDBMaxConnect s) (h : dbStep nDBMaxConnect s e = some s') :
    ResultsInv nDBMaxConnect s' := by
  -- while a query runs, its resource has no set
  let Dropped := fun idx m => ResultsInv nDBMaxConnect m ∧ serialAt m idx = none
  have hre : ∀ idx m connected, Dropped idx m → Dropped idx (stdbReConnect m idx connected) := by
    intro idx m connected hm
    refine ⟨reConnect_inv hm.1 idx connected, ?_⟩
    have := hm.2
    simpa [serialAt, stdbReConnect] using this
  cases e with
  | findAndLock =>
    obtain ⟨⟨t, foundIdx⟩, hlock, rfl⟩ := Option.map_eq_some_iff.mp h
    obtain ⟨-, -, -, rfl⟩ := findAndLock_some hlock
    exact hi.update (r := { s.resource foundIdx with sqlLock := true }) rfl rfl rfl rfl rfl rfl
  | unlock idx =>
    obtain ⟨-, rfl⟩ := onResource_some h
    unfold stsvDBUnlockResource
    dsimp only
    split
    · exact hi.update (r := { s.resource idx with sqlLock := false }) rfl rfl rfl rfl rfl rfl
    · exact hi
  | lastInsert idx insertId =>
    obtain ⟨-, rfl⟩ := onResource_some h
    unfold stsvDBLastInsert
    rw [releaseLeft_eq]
    dsimp only
    split <;> exact (release_inv hi idx).1
  | query idx a =>
    obtain ⟨hidx, rfl⟩ := onResource_some h
    exact query_keeps (P := Dropped idx) a (release_inv hi idx) (hre idx)
      (fun m hm => store_inv hm.1 hidx hm.2 a.result) fun m hm => hm.1
  | realQuery idx a =>
    obtain ⟨hidx, rfl⟩ := onResource_some h
    exact realQuery_keeps (P := Dropped idx) a (release_inv hi idx) (hre idx)
      (fun m hm => store_inv hm.1 hidx hm.2 a.result) fun m hm => hm.1
  | fetchRow idx =>
    obtain ⟨-, rfl⟩ := onResource_some h
    exact fetchRow_inv hi idx
  | releaseResult idx =>
    obtain ⟨-, rfl⟩ := onResource_some h
    exact (release_inv hi idx).1
  | disConnect =>
    obtain rfl := Option.some.inj h
    exact disConnect_keeps (P := ResultsInv nDBMaxConnect) (fun m idx _ hm => (release_inv hm idx).1) hi

theorem connected_inv (connected : Nat → Bool) : ResultsInv nDBMaxConnect (connectedDb nDBMaxConnect connected) := by
  obtain ⟨hres, -, hstored, hfreed⟩ := connectAll connected nDBMaxConnect
  have hnone : ∀ i, serialAt (connectedDb nDBMaxConnect connected) i = none := by
    intro i
    simp [serialAt, hres, newResource]
  refine ⟨⟨by simp [hfreed], by simp [hstored], fun i _ => ?_⟩, by simp [hnone], by simp [hnone], by simp [hfreed]⟩
  rw [hres]
  exact ⟨fun _ => ⟨rfl, rfl⟩, by simp [newResource]⟩

/-! ## Runs -/

/-- A count the int can hold. -/
theorem setWidth_toInt {v : BitVec 64} (h : v.toNat < 2 ^ 31) : (v.setWidth 32).toInt = v.toNat := by
  have hmod : (v.setWidth 32).toNat = v.toNat := by
    rw [BitVec.toNat_setWidth]
    omega
  rw [BitVec.toInt_eq_toNat_of_lt (by omega), hmod]

/-- The counts beside a set are the set's own where an int holds them. -/
theorem CountsOk.exact {r : Resource} (h : CountsOk r) {res : MySqlRes} (hres : r.mMySqlRes = some res) :
    (res.numRows.toNat < 2 ^ 31 → r.mMySqlNumRow = res.numRows.toNat) ∧
      (res.numFields.toNat < 2 ^ 31 → r.mMySqlNumFields = res.numFields.toNat) := by
  obtain ⟨hrow, hfields⟩ := h.stored res hres
  refine ⟨fun hlt => hrow.trans (setWidth_toInt hlt), fun hlt => hfields.trans ?_⟩
  exact BitVec.toInt_eq_toNat_of_lt (by omega)

theorem result_sets_linear (connected : Nat → Bool) (calls : List DbCall) :
    RunAll (dbStep nDBMaxConnect)
      (fun s => ResultsOk nDBMaxConnect s ∧ ∀ i < nDBMaxConnect, ∀ res, (s.resource i).mMySqlRes = some res →
        (res.numRows.toNat < 2 ^ 31 → (s.resource i).mMySqlNumRow = res.numRows.toNat) ∧
          (res.numFields.toNat < 2 ^ 31 → (s.resource i).mMySqlNumFields = res.numFields.toNat))
      (connectedDb nDBMaxConnect connected) calls := by
  have hinv : RunAll (dbStep nDBMaxConnect) (ResultsInv nDBMaxConnect) (connectedDb nDBMaxConnect connected) calls :=
    runAll_of_inv _ (fun _ _ => True) (fun _ _ _ hi _ he => results_step hi he) (connected_inv connected)
      (runOk_trivial _ _ _)
  exact hinv.mono _ fun s hs => ⟨hs.toResultsOk, fun i hi res hres => (hs.counts i hi).exact hres⟩

/-- A set of 2^31 rows: the cast makes its count negative. -/
theorem count_of_many_rows : ∃ s res,
    run (dbStep 1) (connectedDb 1 fun _ => true)
        [.findAndLock, .query 0 ⟨0, 0, true, 0, some ⟨2147483648, 1, []⟩⟩] = some s ∧
      (s.resource 0).mMySqlRes = some res ∧ (s.resource 0).mMySqlNumRow = -2147483648 ∧
        (s.resource 0).mMySqlNumRow ≠ res.numRows.toNat :=
  ⟨_, _, rfl, rfl, by decide +kernel, by decide +kernel⟩

end StarServer.Database

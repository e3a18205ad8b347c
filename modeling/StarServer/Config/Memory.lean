/-
  StarServer.Config.Memory — what initialising the server allocates, and what it says it did.

  `InitServerLimit` takes MAX_CCU connections if the limits of the process allow them,
  `InitServerUnlimit` as many as SERVERMEM gigabytes hold. Both add the clients' size a second
  time where the rooms' belongs, and leave out four of the seven arrays of the database. The
  former sums in an int. `STSV_Init` estimates the memory of the threads and the database with
  products of ints, from a stack limit cut to an int.

  Proved:
    * `allocate_sum`: the sizes of what is allocated, and which settings are not negative;
    * `limit_exact_iff`, `unlimit_exact_iff`: the sums, the estimate and the number of
      connections are exact, in either mode;
    * `memory_exact_iff`: for every configuration that the server starts with;
    * `default_inexact`: they are not for the configuration the server writes itself.
-/

import Mathlib.Order.Bounds.Basic
import Mathlib.Tactic.Ring
import StarServer.Memory.Blocks

namespace StarServer.Config

open StarServer.Memory

/-! ## Settings -/

/-- MAX_CCU, DATA_BUFFER, SQL_BUFFER, DB_CCU and SERVERMEM(GB), as `atoi` gives them. -/
structure Settings where
  nMaxConnection : BitVec 32
  nDataBuffer : BitVec 32
  nSQLBuffer : BitVec 32
  nDBMaxConnect : BitVec 32
  nServerMEMG : BitVec 32

/-- What `getrlimit` answers for the stack and the open files. -/
structure Limits where
  stack : BitVec 64
  nofile : BitVec 64

/-- The sizes of `Client_t`, `SERVER_ROOM_DESC` and `MYSQL`. -/
structure Sizes where
  client : Nat
  room : Nat
  mysql : Nat
  positive : 0 < client
  bounded : client < 2 ^ 20 ∧ room < 2 ^ 20 ∧ mysql < 2 ^ 20

/-- Where `config.sv2` is missing. -/
def defaultSettings : Settings := ⟨50, 65536, 65536, 10, 2⟩

def bigDataBuffer : Int := 1 * 1024 * 1024

structure Started where
  nMaxConnection : Int
  nMaxRoom : Int
  nMemoryUse : Int
  estimateRam : Int
  /-- The sizes of the blocks that `malloc` gave. -/
  blocks : List Nat

variable (sz : Sizes) (heap : Heap) (cfg : Settings) (lim : Limits)

/-! ## Initialisation -/

def checkLimite : Bool :=
  let stack : Int := lim.stack.toNat
  let limiteLogin := int32 (sizeT (int32 (int32 (cfg.nServerMEMG.toInt * 1024) * 1024)) / (stack / 1024))
  if stack < 512 * 1024 then false
  else if limiteLogin < cfg.nMaxConnection.toInt then false
  else if (lim.nofile.toNat : Int) < sizeT (int32 (cfg.nMaxConnection.toInt * 3)) then false
  else true

/-- Nothing asks whether there is a block: without one, a room's mutex is at address 0. -/
def mallocRooms (maxRoom : Int) (blocks : List Nat) : Option (List Nat) :=
  match malloc heap (sizeT (sz.room * maxRoom)) blocks with
  | some blocks => some blocks
  | none => if 0 < maxRoom then none else some blocks

/-- `mMySqlCommand` and its buffers; then `mMySql`, `pMySql`, `sqlLock`, `mMySqlRes`, `mMySqlRow`,
    `mMySqlNumRow` and `mMySqlNumFields`. -/
def mallocDB (blocks : List Nat) : Option (List Nat) := do
  let dbMaxConnect := cfg.nDBMaxConnect.toInt
  let blocks ← malloc heap (sizeT (8 * dbMaxConnect)) blocks
  let blocks ← mallocEach heap [sizeT cfg.nSQLBuffer.toInt] dbMaxConnect.toNat blocks
  mallocAll heap ([sz.mysql * dbMaxConnect, 8 * dbMaxConnect, 1 * dbMaxConnect, 8 * dbMaxConnect, 8 * dbMaxConnect,
    4 * dbMaxConnect, 4 * dbMaxConnect].map sizeT) blocks

/-- The clients, a `sendBuffer` and a `recvBuffer` for each, the rooms and the database: the
    blocks of both `InitServer`s. -/
def allocate (maxConnection maxRoom : Int) (blocks : List Nat) : Option (List Nat) := do
  let blocks ← malloc heap (sizeT (sz.client * maxConnection)) blocks
  let blocks ← mallocEach heap ([cfg.nDataBuffer.toInt, cfg.nDataBuffer.toInt].map sizeT) maxConnection.toNat blocks
  let blocks ← mallocRooms sz heap maxRoom blocks
  mallocDB sz heap cfg blocks

/-- `sumMemoryUse` in `InitServerLimit`, an int. -/
def sumMemoryLimit : Int :=
  let maxConnection := cfg.nMaxConnection.toInt
  let dbMaxConnect := cfg.nDBMaxConnect.toInt
  let sum := int32 (sizeT (1 * bigDataBuffer + maxConnection * sz.client))
  let sum := int32 (sum + int32 (int32 (maxConnection * cfg.nDataBuffer.toInt) * 2))
  let sum := int32 (sizeT (sum + maxConnection * sz.client))
  let sum := int32 (sizeT (sum + (int32 (dbMaxConnect * cfg.nSQLBuffer.toInt) + dbMaxConnect * 8)))
  int32 (sizeT (sum + (sz.mysql * dbMaxConnect + 8 * dbMaxConnect + 1 * dbMaxConnect)))

/-- `sumMemoryUse` in `InitServerUnlimit`, a `size_t`. -/
def sumMemoryUnlimit (maxConnection : Int) : Int :=
  let dbMaxConnect := cfg.nDBMaxConnect.toInt
  let sum := sizeT (1 * bigDataBuffer + maxConnection * sz.client)
  let sum := sizeT (sum + maxConnection * cfg.nDataBuffer.toInt * 2)
  let sum := sizeT (sum + maxConnection * sz.client)
  let sum := sizeT (sum + (int32 (dbMaxConnect * cfg.nSQLBuffer.toInt) + dbMaxConnect * 8))
  sizeT (sum + (sz.mysql * dbMaxConnect + 8 * dbMaxConnect + 1 * dbMaxConnect))

/-- `s_nMaxStackSize`. -/
def maxStackSize : Int := int32 lim.stack.toNat

/-- `memPerUser`. -/
def memPerUser : Int :=
  sizeT (sz.client + int32 (2 * cfg.nDataBuffer.toInt) + maxStackSize lim + sz.room / 2)

/-- `createOk` is whether `CreateServer` succeeds. -/
def initServerLimit (createOk : Bool) (blocks : List Nat) : Option Started :=
  if checkLimite cfg lim then do
    let blocks ← allocate sz heap cfg cfg.nMaxConnection.toInt 0 blocks
    if createOk then
      some ⟨cfg.nMaxConnection.toInt, 0, sizeT (sumMemoryLimit sz cfg), 0, blocks⟩
    else none
  else none

/-- A division by zero is the end of the process. -/
def initServerUnlimit (createOk : Bool) (blocks : List Nat) : Option Started :=
  let memoryHave := sizeT (cfg.nServerMEMG.toInt * 1024 * 1024 * 1024)
  if memPerUser sz cfg lim = 0 then none
  else do
    let maxConnection := int32 (memoryHave / memPerUser sz cfg lim)
    let maxRoom := maxConnection.tdiv 2
    let blocks ← allocate sz heap cfg maxConnection maxRoom blocks
    if createOk then
      some ⟨maxConnection, maxRoom, sizeT (sumMemoryUnlimit sz cfg maxConnection), 0, blocks⟩
    else none

/-- `STSV_Init` where it returns 0. -/
def stsvInit (unlimit createOk : Bool) : Option Started := do
  let blocks ← malloc heap bigDataBuffer []
  let s ← if unlimit then initServerUnlimit sz heap cfg lim createOk blocks
    else initServerLimit sz heap cfg lim createOk blocks
  let threadRam := sizeT (int32 (maxStackSize lim * s.nMaxConnection))
  let dbRam := sizeT (int32 (151 * 1024 * 1024 + int32 (cfg.nDBMaxConnect.toInt * 4)))
  some { s with estimateRam := sizeT (threadRam + s.nMemoryUse + dbRam) }

/-! ## Exact figures -/

/-- What the blocks add up to. -/
def blocksSize (maxConnection maxRoom : Int) : Int :=
  bigDataBuffer + sz.client * maxConnection + 2 * (cfg.nDataBuffer.toInt * maxConnection) + sz.room * maxRoom +
    cfg.nSQLBuffer.toInt * cfg.nDBMaxConnect.toInt + (sz.mysql + 41) * cfg.nDBMaxConnect.toInt

def dbEstimate : Int := 151 * 1024 * 1024 + 4 * cfg.nDBMaxConnect.toInt

def stackSize (maxConnection : Int) : Int := lim.stack.toNat * maxConnection

def perUser : Int := sz.client + 2 * cfg.nDataBuffer.toInt + lim.stack.toNat + sz.room / 2

def serverMemory : Int := cfg.nServerMEMG.toInt * 2 ^ 30

structure Exact (unlimit : Bool) (s : Started) : Prop where
  memoryUse : s.nMemoryUse = s.blocks.sum
  estimate : s.estimateRam = s.nMemoryUse + stackSize lim s.nMaxConnection + dbEstimate cfg
  connections : unlimit = true → IsGreatest {n | 0 ≤ n ∧ n * perUser sz cfg lim ≤ serverMemory cfg} s.nMaxConnection

/-- The second count of the clients makes up for the arrays that are left out. -/
structure LimitFits : Prop where
  balance : sz.client * cfg.nMaxConnection.toInt = 24 * cfg.nDBMaxConnect.toInt
  sum : blocksSize sz cfg cfg.nMaxConnection.toInt 0 < 2 ^ 31
  threads : stackSize lim cfg.nMaxConnection.toInt < 2 ^ 31 ∨
    2 ^ 64 - 2 ^ 31 ≤ stackSize lim cfg.nMaxConnection.toInt ∧
      stackSize lim cfg.nMaxConnection.toInt + blocksSize sz cfg cfg.nMaxConnection.toInt 0 + dbEstimate cfg < 2 ^ 64

/-- How many users fit. -/
def users : Int := serverMemory cfg / perUser sz cfg lim

/-- Nothing of a user's memory is more than an int. -/
def PlainUser : Prop :=
  -2 ^ 30 ≤ cfg.nDataBuffer.toInt ∧ cfg.nDataBuffer.toInt < 2 ^ 30 ∧ lim.stack.toNat < 2 ^ 31

/-- It, and the clients' second count makes up for the rooms too. -/
structure UnlimitFits : Prop where
  memory : 0 ≤ cfg.nServerMEMG.toInt
  user : 0 < perUser sz cfg lim
  quotient : PlainUser cfg lim ∧ users sz cfg lim < 2 ^ 31 ∨
    ¬PlainUser cfg lim ∧ int32 (serverMemory cfg / memPerUser sz cfg lim) = users sz cfg lim
  balance : sz.client * users sz cfg lim + int32 (cfg.nSQLBuffer.toInt * cfg.nDBMaxConnect.toInt) =
    sz.room * (users sz cfg lim / 2) + cfg.nSQLBuffer.toInt * cfg.nDBMaxConnect.toInt + 24 * cfg.nDBMaxConnect.toInt
  threads : stackSize lim (users sz cfg lim) < 2 ^ 31
  db : dbEstimate cfg < 2 ^ 31

variable {sz heap cfg lim}

/-! ## What is allocated -/

theorem int_bounds (v : BitVec 32) : -2 ^ 31 ≤ v.toInt ∧ v.toInt < 2 ^ 31 :=
  ⟨by have := BitVec.le_toInt v; omega, by have := BitVec.toInt_lt (x := v); omega⟩

/-- A size of a structure times an int. -/
theorem size_bounds {k : Nat} (hk : k < 2 ^ 20) {v : Int} (h0 : -2 ^ 31 ≤ v) (hlt : v < 2 ^ 31) :
    -2 ^ 51 ≤ (k : Int) * v ∧ (k : Int) * v ≤ 2 ^ 51 := by
  have hk0 : (0 : Int) ≤ k := Int.natCast_nonneg k
  have hlo : (k : Int) * -2 ^ 31 ≤ k * v := Int.mul_le_mul_of_nonneg_left h0 hk0
  have hhi : (k : Int) * v ≤ k * 2 ^ 31 := Int.mul_le_mul_of_nonneg_left (by omega) hk0
  omega

theorem rooms_sum {maxRoom : Int} {blocks blocks' : List Nat} (h0 : 0 ≤ maxRoom) (hlt : maxRoom < 2 ^ 31)
    (h : mallocRooms sz heap maxRoom blocks = some blocks') :
    (blocks'.sum : Int) = blocks.sum + sz.room * maxRoom := by
  have hb := size_bounds sz.bounded.2.1 (show -2 ^ 31 ≤ maxRoom by omega) hlt
  unfold mallocRooms at h
  split at h
  · rename_i hroom
    cases h
    exact (malloc_sum heap (by omega) (by omega) hroom).2
  · split at h
    · cases h
    · cases h
      have hz : maxRoom = 0 := by omega
      rw [hz, Int.mul_zero, Int.add_zero]

theorem db_sum {blocks blocks' : List Nat} (h : mallocDB sz heap cfg blocks = some blocks') :
    0 ≤ cfg.nDBMaxConnect.toInt ∧ (0 < cfg.nDBMaxConnect.toInt → 0 ≤ cfg.nSQLBuffer.toInt) ∧
      (blocks'.sum : Int) = blocks.sum + cfg.nSQLBuffer.toInt * cfg.nDBMaxConnect.toInt +
        (sz.mysql + 41) * cfg.nDBMaxConnect.toInt := by
  obtain ⟨hlo, hhi⟩ := int_bounds cfg.nDBMaxConnect
  obtain ⟨hslo, hshi⟩ := int_bounds cfg.nSQLBuffer
  have hm := size_bounds sz.bounded.2.2 hlo hhi
  unfold mallocDB at h
  obtain ⟨blocks1, h1, h⟩ := Option.bind_eq_some_iff.mp h
  obtain ⟨blocks2, h2, h3⟩ := Option.bind_eq_some_iff.mp h
  obtain ⟨h0, hsum1⟩ := malloc_sum heap (by omega) (by omega) h1
  obtain ⟨hsql, hsum2⟩ := mallocEach_sum heap [cfg.nSQLBuffer.toInt] (by
    intro v hv
    rw [List.mem_singleton.mp hv]
    omega) h2
  obtain ⟨-, hsum3⟩ := mallocAll_sum heap _ (by
    simp only [List.forall_mem_cons]
    refine ⟨?_, ?_, ?_, ?_, ?_, ?_, ?_, nofun⟩ <;> omega) h3
  refine ⟨by omega, fun hpos => hsql (by omega) _ (List.mem_singleton.mpr rfl), ?_⟩
  have hn : (cfg.nDBMaxConnect.toInt.toNat : Int) = cfg.nDBMaxConnect.toInt := by omega
  rw [hsum3, hsum2, hsum1, hn]
  simp only [List.sum_cons, List.sum_nil]
  ring

/-- What is allocated after the big-data pool, and what that says of the settings. -/
theorem allocate_sum {maxConnection maxRoom : Int} {blocks blocks' : List Nat} (hlo : -2 ^ 31 ≤ maxConnection)
    (hhi : maxConnection < 2 ^ 31) (hroom : 0 ≤ maxConnection → 0 ≤ maxRoom ∧ maxRoom < 2 ^ 31)
    (h : allocate sz heap cfg maxConnection maxRoom blocks = some blocks') :
    0 ≤ maxConnection ∧ (0 < maxConnection → 0 ≤ cfg.nDataBuffer.toInt) ∧ 0 ≤ cfg.nDBMaxConnect.toInt ∧
      (0 < cfg.nDBMaxConnect.toInt → 0 ≤ cfg.nSQLBuffer.toInt) ∧
        (blocks'.sum : Int) + bigDataBuffer = blocks.sum + blocksSize sz cfg maxConnection maxRoom := by
  obtain ⟨hdlo, hdhi⟩ := int_bounds cfg.nDataBuffer
  have hc := size_bounds sz.bounded.1 hlo hhi
  unfold allocate at h
  obtain ⟨blocks1, h1, h⟩ := Option.bind_eq_some_iff.mp h
  obtain ⟨blocks2, h2, h⟩ := Option.bind_eq_some_iff.mp h
  obtain ⟨blocks3, h3, h4⟩ := Option.bind_eq_some_iff.mp h
  obtain ⟨hc0, hsum1⟩ := malloc_sum heap (by omega) (by omega) h1
  have h0 : 0 ≤ maxConnection := by
    have hpos : (0 : Int) < sz.client := by have := sz.positive; omega
    exact Int.nonneg_of_mul_nonneg_right hc0 hpos
  obtain ⟨hdata, hsum2⟩ := mallocEach_sum heap _ (by
    simp only [List.forall_mem_cons]
    refine ⟨?_, ?_, nofun⟩ <;> omega) h2
  have hsum3 := rooms_sum (hroom h0).1 (hroom h0).2 h3
  obtain ⟨hdb0, hsql, hsum4⟩ := db_sum h4
  refine ⟨h0, fun hpos => hdata (by omega) _ List.mem_cons_self, hdb0, hsql, ?_⟩
  have hn : (maxConnection.toNat : Int) = maxConnection := by omega
  rw [hsum4, hsum3, hsum2, hsum1, hn]
  unfold blocksSize
  simp only [List.sum_cons, List.sum_nil]
  ring

/-! ## With room for every block -/

theorem size_fits {k : Nat} {v : Int} (hk : k < 2 ^ 20) (h0 : 0 ≤ v) (hlt : v < 2 ^ 31) :
    0 ≤ (k : Int) * v ∧ (k : Int) * v < 2 ^ 63 := by
  have hle := (size_bounds hk (show -2 ^ 31 ≤ v by omega) hlt).2
  exact ⟨Int.mul_nonneg (Int.natCast_nonneg k) h0, by omega⟩

theorem mallocDB_roomy (sz : Sizes) (hdb : 0 ≤ cfg.nDBMaxConnect.toInt) (hsql : 0 ≤ cfg.nSQLBuffer.toInt) (blocks : List Nat) :
    ∃ blocks', mallocDB sz roomy cfg blocks = some blocks' := by
  have hdblt := (int_bounds cfg.nDBMaxConnect).2
  have hsqllt := (int_bounds cfg.nSQLBuffer).2
  have hmysql := size_fits sz.bounded.2.2 hdb hdblt
  have h1 := malloc_roomy (v := 8 * cfg.nDBMaxConnect.toInt) (by omega) (by omega) blocks
  obtain ⟨blocks2, h2⟩ := mallocEach_roomy [cfg.nSQLBuffer.toInt] (by
    intro v hv
    rw [List.mem_singleton.mp hv]
    omega) cfg.nDBMaxConnect.toInt.toNat (blocks ++ [(8 * cfg.nDBMaxConnect.toInt).toNat])
  have hall : ∀ v ∈ [(sz.mysql : Int) * cfg.nDBMaxConnect.toInt, 8 * cfg.nDBMaxConnect.toInt, 1 * cfg.nDBMaxConnect.toInt,
      8 * cfg.nDBMaxConnect.toInt, 8 * cfg.nDBMaxConnect.toInt, 4 * cfg.nDBMaxConnect.toInt, 4 * cfg.nDBMaxConnect.toInt],
      0 ≤ v ∧ v < 2 ^ 63 := by
    simp only [List.forall_mem_cons]
    refine ⟨?_, ?_, ?_, ?_, ?_, ?_, ?_, nofun⟩ <;> omega
  obtain ⟨blocks3, h3⟩ := mallocAll_roomy _ hall blocks2
  exact ⟨blocks3, Option.bind_eq_some_iff.mpr ⟨_, h1, Option.bind_eq_some_iff.mpr ⟨_, h2, h3⟩⟩⟩

/-- No setting but a negative one keeps the server from starting. -/
theorem allocate_roomy (sz : Sizes) {maxConnection maxRoom : Int} (h0 : 0 ≤ maxConnection) (hhi : maxConnection < 2 ^ 31)
    (hroom0 : 0 ≤ maxRoom) (hroom : maxRoom < 2 ^ 31) (hdata : 0 ≤ cfg.nDataBuffer.toInt) (hdb : 0 ≤ cfg.nDBMaxConnect.toInt)
    (hsql : 0 ≤ cfg.nSQLBuffer.toInt) (blocks : List Nat) :
    ∃ blocks', allocate sz roomy cfg maxConnection maxRoom blocks = some blocks' := by
  have hdatalt := (int_bounds cfg.nDataBuffer).2
  have hclient := size_fits sz.bounded.1 h0 hhi
  have hrooms := size_fits sz.bounded.2.1 hroom0 hroom
  have h1 := malloc_roomy hclient.1 hclient.2 blocks
  obtain ⟨blocks2, h2⟩ := mallocEach_roomy [cfg.nDataBuffer.toInt, cfg.nDataBuffer.toInt] (by
    simp only [List.forall_mem_cons]
    refine ⟨?_, ?_, nofun⟩ <;> omega) maxConnection.toNat (blocks ++ [(sz.client * maxConnection).toNat])
  have h3 : mallocRooms sz roomy maxRoom blocks2 = some (blocks2 ++ [(sz.room * maxRoom).toNat]) := by
    unfold mallocRooms
    rw [malloc_roomy hrooms.1 hrooms.2]
  obtain ⟨blocks4, h4⟩ := mallocDB_roomy sz hdb hsql (blocks2 ++ [(sz.room * maxRoom).toNat])
  exact ⟨blocks4, Option.bind_eq_some_iff.mpr ⟨_, h1, Option.bind_eq_some_iff.mpr ⟨_, h2,
    Option.bind_eq_some_iff.mpr ⟨_, h3, h4⟩⟩⟩⟩

/-- As many connections as the quotient says. -/
theorem unlimit_roomy (sz : Sizes) (cfg : Settings) (lim : Limits) (hmem : memPerUser sz cfg lim ≠ 0)
    (h0 : 0 ≤ int32 (sizeT (cfg.nServerMEMG.toInt * 1024 * 1024 * 1024) / memPerUser sz cfg lim))
    (hdata : 0 ≤ cfg.nDataBuffer.toInt) (hdb : 0 ≤ cfg.nDBMaxConnect.toInt) (hsql : 0 ≤ cfg.nSQLBuffer.toInt) :
    ∃ s, stsvInit sz roomy cfg lim true true = some s ∧
      s.nMaxConnection = int32 (sizeT (cfg.nServerMEMG.toInt * 1024 * 1024 * 1024) / memPerUser sz cfg lim) := by
  obtain ⟨-, hhi⟩ := int32_bounds (sizeT (cfg.nServerMEMG.toInt * 1024 * 1024 * 1024) / memPerUser sz cfg lim)
  generalize hn : int32 (sizeT (cfg.nServerMEMG.toInt * 1024 * 1024 * 1024) / memPerUser sz cfg lim) = n at h0 hhi
  have hroom : n.tdiv 2 = n / 2 := Int.tdiv_eq_ediv_of_nonneg h0
  obtain ⟨blocks, hblocks⟩ := allocate_roomy sz h0 hhi (show 0 ≤ n.tdiv 2 by omega) (by omega) hdata hdb hsql
    [bigDataBuffer.toNat]
  have hpool : malloc roomy bigDataBuffer [] = some [bigDataBuffer.toNat] := by decide
  have hinit : initServerUnlimit sz roomy cfg lim true [bigDataBuffer.toNat] =
      some ⟨n, n.tdiv 2, sizeT (sumMemoryUnlimit sz cfg n), 0, blocks⟩ := by
    unfold initServerUnlimit
    rw [if_neg hmem, hn]
    exact Option.bind_eq_some_iff.mpr ⟨blocks, hblocks, rfl⟩
  simp only [stsvInit, hpool, hinit, Option.bind_eq_bind, Option.bind_some, if_true]
  exact ⟨_, rfl, rfl⟩

/-! ## The sums -/

/-- Next to what the blocks add up to: the clients twice, and 24 bytes less for each connection
    to the database. -/
theorem sumMemoryLimit_eq : sumMemoryLimit sz cfg = int32 (blocksSize sz cfg cfg.nMaxConnection.toInt 0 +
    sz.client * cfg.nMaxConnection.toInt - 24 * cfg.nDBMaxConnect.toInt) := by
  unfold sumMemoryLimit blocksSize
  simp only [int32_sizeT, int32_mul_left]
  rw [Int.mul_comm cfg.nMaxConnection.toInt sz.client, Int.mul_comm cfg.nMaxConnection.toInt cfg.nDataBuffer.toInt,
    Int.mul_comm cfg.nDBMaxConnect.toInt cfg.nSQLBuffer.toInt, Int.add_mul]
  generalize (sz.client : Int) * cfg.nMaxConnection.toInt = clients
  generalize cfg.nDataBuffer.toInt * cfg.nMaxConnection.toInt = data
  generalize cfg.nSQLBuffer.toInt * cfg.nDBMaxConnect.toInt = sql
  generalize (sz.mysql : Int) * cfg.nDBMaxConnect.toInt = mysql
  unfold int32
  omega

theorem sumMemoryUnlimit_eq (maxConnection maxRoom : Int) : sumMemoryUnlimit sz cfg maxConnection =
    sizeT (blocksSize sz cfg maxConnection maxRoom + sz.client * maxConnection - sz.room * maxRoom -
      24 * cfg.nDBMaxConnect.toInt - cfg.nSQLBuffer.toInt * cfg.nDBMaxConnect.toInt +
        int32 (cfg.nSQLBuffer.toInt * cfg.nDBMaxConnect.toInt)) := by
  simp only [sumMemoryUnlimit, blocksSize]
  rw [Int.mul_comm maxConnection sz.client, Int.mul_comm maxConnection cfg.nDataBuffer.toInt,
    Int.mul_comm cfg.nDBMaxConnect.toInt cfg.nSQLBuffer.toInt, Int.add_mul]
  generalize (sz.client : Int) * maxConnection = clients
  generalize cfg.nDataBuffer.toInt * maxConnection = data
  generalize int32 (cfg.nSQLBuffer.toInt * cfg.nDBMaxConnect.toInt) = wrapped
  generalize cfg.nSQLBuffer.toInt * cfg.nDBMaxConnect.toInt = sql
  generalize (sz.mysql : Int) * cfg.nDBMaxConnect.toInt = mysql
  generalize (sz.room : Int) * maxRoom = rooms
  unfold sizeT
  omega

/-- The parts of what is allocated. -/
theorem blocksSize_bounds (sz : Sizes) {maxConnection maxRoom : Int} (h0 : 0 ≤ maxConnection) (hhi : maxConnection < 2 ^ 31)
    (hdata : 0 < maxConnection → 0 ≤ cfg.nDataBuffer.toInt) (hdb : 0 ≤ cfg.nDBMaxConnect.toInt)
    (hsql : 0 < cfg.nDBMaxConnect.toInt → 0 ≤ cfg.nSQLBuffer.toInt) (hroom0 : 0 ≤ maxRoom) (hroom : maxRoom < 2 ^ 31) :
    bigDataBuffer + sz.client * maxConnection + sz.room * maxRoom + cfg.nSQLBuffer.toInt * cfg.nDBMaxConnect.toInt +
          41 * cfg.nDBMaxConnect.toInt ≤ blocksSize sz cfg maxConnection maxRoom ∧
      blocksSize sz cfg maxConnection maxRoom < 2 ^ 63 + 2 ^ 62 + 2 ^ 60 ∧
        0 ≤ (sz.client : Int) * maxConnection ∧ 0 ≤ (sz.room : Int) * maxRoom ∧
          (sz.client : Int) * maxConnection ≤ 2 ^ 51 ∧ 0 ≤ cfg.nSQLBuffer.toInt * cfg.nDBMaxConnect.toInt ∧
            cfg.nSQLBuffer.toInt * cfg.nDBMaxConnect.toInt ≤ 2 ^ 62 := by
  have hint : ∀ (d : BitVec 32) {n : Int}, 0 ≤ n → n < 2 ^ 31 → (0 < n → 0 ≤ d.toInt) →
      0 ≤ d.toInt * n ∧ d.toInt * n ≤ 2 ^ 62 := by
    intro d n hn0 hn hd
    obtain ⟨-, hlt⟩ := int_bounds d
    by_cases hpos : 0 < n
    · have h := mul_bounds (hd hpos) hlt hn0 hn
      omega
    · have hz : n = 0 := by omega
      rw [hz, Int.mul_zero]
      omega
  have hdata := hint cfg.nDataBuffer h0 hhi hdata
  have hsql := hint cfg.nSQLBuffer hdb (int_bounds cfg.nDBMaxConnect).2 hsql
  have hclient := size_bounds sz.bounded.1 (show -2 ^ 31 ≤ maxConnection by omega) hhi
  have hrooms := size_bounds sz.bounded.2.1 (show -2 ^ 31 ≤ maxRoom by omega) hroom
  have hmysql := size_bounds sz.bounded.2.2 (show -2 ^ 31 ≤ cfg.nDBMaxConnect.toInt by omega)
    (int_bounds cfg.nDBMaxConnect).2
  have hclient0 := Int.mul_nonneg (Int.natCast_nonneg sz.client) h0
  have hrooms0 := Int.mul_nonneg (Int.natCast_nonneg sz.room) hroom0
  have hmysql0 := Int.mul_nonneg (Int.natCast_nonneg sz.mysql) hdb
  have hdblt := (int_bounds cfg.nDBMaxConnect).2
  unfold blocksSize bigDataBuffer
  rw [Int.add_mul]
  omega

/-! ## A server that has started -/

/-- What a start says of the settings, of the blocks and of the estimate. -/
structure Began (sz : Sizes) (cfg : Settings) (lim : Limits) (maxRoom : Int) (s : Started) : Prop where
  connections : 0 ≤ s.nMaxConnection ∧ s.nMaxConnection < 2 ^ 31
  rooms : 0 ≤ maxRoom ∧ maxRoom < 2 ^ 31
  data : 0 < s.nMaxConnection → 0 ≤ cfg.nDataBuffer.toInt
  db : 0 ≤ cfg.nDBMaxConnect.toInt
  sql : 0 < cfg.nDBMaxConnect.toInt → 0 ≤ cfg.nSQLBuffer.toInt
  blocks : (s.blocks.sum : Int) = blocksSize sz cfg s.nMaxConnection maxRoom
  estimate : s.estimateRam = sizeT (int32 (stackSize lim s.nMaxConnection) + s.nMemoryUse + int32 (dbEstimate cfg))

theorem estimate_wrapped (n memoryUse : Int) :
    sizeT (sizeT (int32 (maxStackSize lim * n)) + memoryUse +
        sizeT (int32 (151 * 1024 * 1024 + int32 (cfg.nDBMaxConnect.toInt * 4)))) =
      sizeT (int32 (stackSize lim n) + memoryUse + int32 (dbEstimate cfg)) := by
  have hdb : int32 (151 * 1024 * 1024 + int32 (cfg.nDBMaxConnect.toInt * 4)) = int32 (dbEstimate cfg) := by
    rw [Int.add_comm, int32_add_left, dbEstimate, Int.mul_comm 4, Int.add_comm]
  rw [hdb, maxStackSize, int32_mul_left, ← stackSize]
  unfold sizeT
  omega

theorem began_of_allocate (lim : Limits) (memoryUse : Int) {maxConnection maxRoom : Int} {blocks blocks' : List Nat}
    (hlo : -2 ^ 31 ≤ maxConnection) (hhi : maxConnection < 2 ^ 31)
    (hroom : 0 ≤ maxConnection → 0 ≤ maxRoom ∧ maxRoom < 2 ^ 31) (hpool : malloc heap bigDataBuffer [] = some blocks)
    (h : allocate sz heap cfg maxConnection maxRoom blocks = some blocks') :
    Began sz cfg lim maxRoom ⟨maxConnection, maxRoom, memoryUse,
      sizeT (sizeT (int32 (maxStackSize lim * maxConnection)) + memoryUse +
        sizeT (int32 (151 * 1024 * 1024 + int32 (cfg.nDBMaxConnect.toInt * 4)))), blocks'⟩ := by
  obtain ⟨h0, hdata, hdb, hsql, hsum⟩ := allocate_sum hlo hhi hroom h
  obtain ⟨-, hsum0⟩ := malloc_sum (v := bigDataBuffer) heap (by decide) (by decide) hpool
  refine ⟨⟨h0, hhi⟩, hroom h0, hdata, hdb, hsql, ?_, estimate_wrapped _ _⟩
  rw [List.sum_nil] at hsum0
  show (blocks'.sum : Int) = blocksSize sz cfg maxConnection maxRoom
  omega

theorem limit_began {createOk : Bool} {s : Started} (h : stsvInit sz heap cfg lim false createOk = some s) :
    s.nMaxConnection = cfg.nMaxConnection.toInt ∧ s.nMemoryUse = sizeT (sumMemoryLimit sz cfg) ∧
      Began sz cfg lim 0 s := by
  unfold stsvInit at h
  obtain ⟨blocks, hpool, h⟩ := Option.bind_eq_some_iff.mp h
  rw [if_neg Bool.false_ne_true] at h
  obtain ⟨s', hinit, h⟩ := Option.bind_eq_some_iff.mp h
  cases h
  unfold initServerLimit at hinit
  split at hinit
  · obtain ⟨blocks', hall, hinit⟩ := Option.bind_eq_some_iff.mp hinit
    split at hinit
    · cases hinit
      obtain ⟨hlo, hhi⟩ := int_bounds cfg.nMaxConnection
      exact ⟨rfl, rfl, began_of_allocate lim _ hlo hhi (fun _ => by omega) hpool hall⟩
    · cases hinit
  · cases hinit

theorem unlimit_began {createOk : Bool} {s : Started} (h : stsvInit sz heap cfg lim true createOk = some s) :
    s.nMaxConnection = int32 (sizeT (serverMemory cfg) / memPerUser sz cfg lim) ∧
      s.nMemoryUse = sizeT (sumMemoryUnlimit sz cfg s.nMaxConnection) ∧ Began sz cfg lim (s.nMaxConnection / 2) s := by
  unfold stsvInit at h
  obtain ⟨blocks, hpool, h⟩ := Option.bind_eq_some_iff.mp h
  rw [if_pos rfl] at h
  obtain ⟨s', hinit, h⟩ := Option.bind_eq_some_iff.mp h
  cases h
  have hmem : sizeT (cfg.nServerMEMG.toInt * 1024 * 1024 * 1024) = sizeT (serverMemory cfg) := by
    unfold serverMemory
    congr 1
    omega
  simp only [initServerUnlimit, hmem] at hinit
  split at hinit
  · cases hinit
  · obtain ⟨blocks', hall, hinit⟩ := Option.bind_eq_some_iff.mp hinit
    split at hinit
    · cases hinit
      obtain ⟨hlo, hhi⟩ := int32_bounds (sizeT (serverMemory cfg) / memPerUser sz cfg lim)
      have hbegan := began_of_allocate lim
        (sizeT (sumMemoryUnlimit sz cfg (int32 (sizeT (serverMemory cfg) / memPerUser sz cfg lim)))) hlo hhi
        (fun h0 => by rw [Int.tdiv_eq_ediv_of_nonneg h0]; omega) hpool hall
      refine ⟨rfl, rfl, ?_⟩
      have h0 := hbegan.connections.1
      rw [Int.tdiv_eq_ediv_of_nonneg h0] at hbegan ⊢
      exact hbegan
    · cases hinit

/-! ## When the figures are exact -/

/-- A sum in an int is the sum of the blocks where what is counted twice is what is left out. -/
theorem limit_memory_iff {total clients missing : Int} (hc : 0 ≤ clients) (hm : 0 ≤ missing)
    (htotal : clients + missing ≤ total) (hlt : total < 2 ^ 64 - 2 ^ 31) :
    sizeT (int32 (total + clients - missing)) = total ↔ clients = missing ∧ total < 2 ^ 31 := by
  unfold sizeT int32
  constructor
  · intro h
    omega
  · rintro ⟨rfl, h⟩
    omega

/-- The threads' estimate wraps to an int; from 2^64 - 2^31 on the `size_t` undoes it. -/
theorem limit_estimate_iff {threads total db : Int} (ht : 0 ≤ threads) (h0 : 0 ≤ total) (hlt : total < 2 ^ 31) (hdb0 : 0 ≤ db)
    (hdb : db < 2 ^ 31) : sizeT (int32 threads + total + int32 db) = total + threads + db ↔
      threads < 2 ^ 31 ∨ 2 ^ 64 - 2 ^ 31 ≤ threads ∧ threads + total + db < 2 ^ 64 := by
  rw [int32_of_fits (by omega) hdb]
  unfold sizeT int32
  constructor
  · intro h
    omega
  · rintro (h | ⟨h, h'⟩)
    · omega
    · omega

theorem unlimit_estimate_iff {threads total db : Int} (ht : 0 ≤ threads) (h0 : 0 ≤ total) (hdb0 : 0 ≤ db)
    (hlt : total + threads + db < 2 ^ 64 - 2 ^ 34) (hdb : db < 2 ^ 34) :
    sizeT (int32 threads + total + int32 db) = total + threads + db ↔ threads < 2 ^ 31 ∧ db < 2 ^ 31 := by
  unfold sizeT int32
  constructor
  · intro h
    omega
  · rintro ⟨h, h'⟩
    omega

theorem isGreatest_quotient {n u h : Int} : IsGreatest {n | 0 ≤ n ∧ n * u ≤ h} n ↔ 0 ≤ h ∧ 0 < u ∧ n = h / u := by
  constructor
  · rintro ⟨⟨hn, hle⟩, hmax⟩
    have hu : 0 < u := by
      by_contra hu
      -- one more would fit as well
      have hnext : n + 1 ≤ n := hmax ⟨by omega, by rw [Int.add_mul]; omega⟩
      omega
    have h0 : 0 ≤ h := (Int.mul_nonneg hn (by omega)).trans hle
    refine ⟨h0, hu, Int.le_antisymm (Int.le_ediv_of_mul_le hu hle) ?_⟩
    exact hmax ⟨Int.ediv_nonneg h0 (by omega), Int.ediv_mul_le h (by omega)⟩
  · rintro ⟨h0, hu, rfl⟩
    refine ⟨⟨Int.ediv_nonneg h0 (by omega), Int.ediv_mul_le h (by omega)⟩, ?_⟩
    rintro m ⟨-, hm⟩
    exact Int.le_ediv_of_mul_le hu hm

theorem limit_exact_iff {createOk : Bool} {s : Started} (h : stsvInit sz heap cfg lim false createOk = some s) :
    Exact sz cfg lim false s ↔ LimitFits sz cfg lim := by
  obtain ⟨hn, hmem, hb⟩ := limit_began h
  have hblocks := hb.blocks
  have hest := hb.estimate
  have hdb0 := hb.db
  obtain ⟨hsum, hlt, hc0, -, hc, hq0, -⟩ := blocksSize_bounds sz hb.connections.1 hb.connections.2 hb.data hdb0
    hb.sql hb.rooms.1 hb.rooms.2
  rw [sumMemoryLimit_eq] at hmem
  rw [hn] at hblocks hest hsum hlt hc0 hc
  have hthreads : 0 ≤ stackSize lim cfg.nMaxConnection.toInt := by
    have h0 := hb.connections.1
    rw [hn] at h0
    exact Int.mul_nonneg (Int.natCast_nonneg _) h0
  have hmem_iff := limit_memory_iff hc0 (show 0 ≤ 24 * cfg.nDBMaxConnect.toInt by omega)
    (show _ ≤ blocksSize sz cfg cfg.nMaxConnection.toInt 0 by unfold bigDataBuffer at hsum; omega) (by omega)
  -- the database's estimate stays an int's, once the blocks together are less
  have hest_iff : blocksSize sz cfg cfg.nMaxConnection.toInt 0 < 2 ^ 31 → _ := fun hsmall =>
    limit_estimate_iff hthreads (show 0 ≤ blocksSize sz cfg cfg.nMaxConnection.toInt 0 by unfold bigDataBuffer at hsum; omega)
      hsmall (show 0 ≤ dbEstimate cfg by unfold dbEstimate; omega)
      (show dbEstimate cfg < 2 ^ 31 by unfold bigDataBuffer at hsum; unfold dbEstimate; omega)
  constructor
  · intro he
    have huse := he.memoryUse
    have hestimate := he.estimate
    rw [hmem, hblocks] at huse
    obtain ⟨hbalance, hsmall⟩ := hmem_iff.mp huse
    rw [hest, hmem, huse, hn] at hestimate
    exact ⟨hbalance, hsmall, (hest_iff hsmall).mp hestimate⟩
  · rintro ⟨hbalance, hsmall, hfits⟩
    have huse := hmem_iff.mpr ⟨hbalance, hsmall⟩
    refine ⟨?_, ?_, nofun⟩
    · rw [hmem, hblocks, huse]
    · rw [hest, hmem, huse, hn]
      exact (hest_iff hsmall).mpr hfits

/-- What is divided by is a user's memory, where nothing of it wraps. -/
theorem memPerUser_plain (hplain : PlainUser cfg lim) (hu : 0 < perUser sz cfg lim) :
    memPerUser sz cfg lim = perUser sz cfg lim := by
  obtain ⟨hlo, hhi, hstack⟩ := hplain
  have hc := sz.bounded.1
  have hr := sz.bounded.2.1
  unfold memPerUser maxStackSize perUser at *
  rw [int32_of_fits (v := 2 * cfg.nDataBuffer.toInt) (by omega) (by omega),
    int32_of_fits (v := (lim.stack.toNat : Int)) (by omega) (by omega)]
  exact sizeT_of_fits (by omega) (by omega)

/-- The connections are the users that fit exactly if the quotient is theirs. -/
theorem unlimit_connections_iff {n : Int} (hn : n = int32 (sizeT (serverMemory cfg) / memPerUser sz cfg lim)) :
    IsGreatest {n | 0 ≤ n ∧ n * perUser sz cfg lim ≤ serverMemory cfg} n ↔
      0 ≤ cfg.nServerMEMG.toInt ∧ 0 < perUser sz cfg lim ∧
        (PlainUser cfg lim ∧ users sz cfg lim < 2 ^ 31 ∨
          ¬PlainUser cfg lim ∧ int32 (serverMemory cfg / memPerUser sz cfg lim) = users sz cfg lim) := by
  have hmem : 0 ≤ serverMemory cfg ↔ 0 ≤ cfg.nServerMEMG.toInt := by
    unfold serverMemory
    omega
  have hhave : 0 ≤ serverMemory cfg → sizeT (serverMemory cfg) = serverMemory cfg := by
    intro h0
    have hlt := (int_bounds cfg.nServerMEMG).2
    exact sizeT_of_fits h0 (by unfold serverMemory; omega)
  have hint := (int32_bounds (sizeT (serverMemory cfg) / memPerUser sz cfg lim)).2
  rw [isGreatest_quotient]
  constructor
  · rintro ⟨h0, hu, hquot⟩
    refine ⟨hmem.mp h0, hu, ?_⟩
    by_cases hplain : PlainUser cfg lim
    · refine Or.inl ⟨hplain, ?_⟩
      rw [← hn, hquot] at hint
      exact hint
    · refine Or.inr ⟨hplain, ?_⟩
      rw [← hhave h0, ← hn]
      exact hquot
  · rintro ⟨h0, hu, hquot⟩
    have h0 := hmem.mpr h0
    refine ⟨h0, hu, ?_⟩
    rw [hn, hhave h0]
    rcases hquot with ⟨hplain, hlt⟩ | ⟨-, hquot⟩
    · have husers : 0 ≤ users sz cfg lim := Int.ediv_nonneg h0 (by omega)
      rw [memPerUser_plain hplain hu]
      exact int32_of_fits (by unfold users at husers; omega) hlt
    · exact hquot

/-- The stacks of the users that fit are less than SERVERMEM gigabytes. -/
theorem stackSize_le {n : Int} (h0 : 0 ≤ n) (hdata : 0 < n → 0 ≤ cfg.nDataBuffer.toInt)
    (hfits : n * perUser sz cfg lim ≤ serverMemory cfg) (hmem : 0 ≤ serverMemory cfg) :
    0 ≤ stackSize lim n ∧ stackSize lim n ≤ serverMemory cfg := by
  refine ⟨Int.mul_nonneg (Int.natCast_nonneg _) h0, ?_⟩
  by_cases hpos : 0 < n
  · have hd := hdata hpos
    have hle : (lim.stack.toNat : Int) ≤ perUser sz cfg lim := by
      unfold perUser
      omega
    calc stackSize lim n = n * lim.stack.toNat := Int.mul_comm _ _
      _ ≤ n * perUser sz cfg lim := Int.mul_le_mul_of_nonneg_left hle h0
      _ ≤ serverMemory cfg := hfits
  · have hz : n = 0 := by omega
    rw [stackSize, hz, Int.mul_zero]
    exact hmem

theorem unlimit_memory_iff {total clients rooms missing sql wrapped : Int} (hc : 0 ≤ clients) (hr : 0 ≤ rooms)
    (hm : 0 ≤ missing) (hw : -2 ^ 31 ≤ wrapped) (hwlt : wrapped < 2 ^ 31) (hpool : bigDataBuffer + clients + rooms + sql + missing ≤ total)
    (hlt : total < 2 ^ 63 + 2 ^ 62 + 2 ^ 60) (hclt : clients ≤ 2 ^ 51) (hsql : 0 ≤ sql) :
    sizeT (sizeT (total + clients - rooms - missing - sql + wrapped)) = total ↔
      clients + wrapped = rooms + sql + missing := by
  unfold sizeT
  unfold bigDataBuffer at hpool
  constructor
  · intro h
    omega
  · intro h
    omega

theorem unlimit_exact_iff {createOk : Bool} {s : Started} (h : stsvInit sz heap cfg lim true createOk = some s) :
    Exact sz cfg lim true s ↔ UnlimitFits sz cfg lim := by
  obtain ⟨hn, hmem, hb⟩ := unlimit_began h
  have hblocks := hb.blocks
  have hest := hb.estimate
  have hdb0 := hb.db
  have hdblt := (int_bounds cfg.nDBMaxConnect).2
  obtain ⟨hsum, hlt, hc0, hr0, hc, hq0, -⟩ := blocksSize_bounds sz hb.connections.1 hb.connections.2 hb.data hdb0
    hb.sql hb.rooms.1 hb.rooms.2
  rw [sumMemoryUnlimit_eq _ (s.nMaxConnection / 2)] at hmem
  have hconn := unlimit_connections_iff hn
  obtain ⟨hwlo, hwhi⟩ := int32_bounds (cfg.nSQLBuffer.toInt * cfg.nDBMaxConnect.toInt)
  have hmem_iff := unlimit_memory_iff hc0 hr0 (show 0 ≤ 24 * cfg.nDBMaxConnect.toInt by omega) hwlo hwhi
    (show _ ≤ blocksSize sz cfg s.nMaxConnection (s.nMaxConnection / 2) by omega) hlt hc hq0
  have hgb := (int_bounds cfg.nServerMEMG).2
  have hest_iff : IsGreatest {n | 0 ≤ n ∧ n * perUser sz cfg lim ≤ serverMemory cfg} s.nMaxConnection → _ := fun hmax => by
    have hfits := hmax.1
    have h0 := (isGreatest_quotient.mp hmax).1
    obtain ⟨ht0, ht⟩ := stackSize_le hfits.1 hb.data hfits.2 h0
    exact unlimit_estimate_iff ht0
      (show 0 ≤ blocksSize sz cfg s.nMaxConnection (s.nMaxConnection / 2) by unfold bigDataBuffer at hsum; omega)
      (show 0 ≤ dbEstimate cfg by unfold dbEstimate; omega)
      (by unfold serverMemory at ht; unfold dbEstimate; omega) (by unfold dbEstimate; omega)
  constructor
  · intro he
    have huse := he.memoryUse
    have hestimate := he.estimate
    have hmax := he.connections rfl
    obtain ⟨-, -, husers⟩ := isGreatest_quotient.mp hmax
    obtain ⟨hmem0, hu, hquot⟩ := hconn.mp hmax
    rw [hmem, hblocks] at huse
    have hbalance := hmem_iff.mp huse
    rw [hest, hmem, huse] at hestimate
    obtain ⟨hthreads, hdb⟩ := (hest_iff hmax).mp hestimate
    rw [husers] at hbalance hthreads
    exact ⟨hmem0, hu, hquot, hbalance, hthreads, hdb⟩
  · rintro ⟨hmem0, hu, hquot, hbalance, hthreads, hdb⟩
    have hmax := hconn.mpr ⟨hmem0, hu, hquot⟩
    obtain ⟨-, -, husers⟩ := isGreatest_quotient.mp hmax
    rw [users, ← husers] at hbalance hthreads
    have huse := hmem_iff.mpr hbalance
    refine ⟨?_, ?_, fun _ => hmax⟩
    · rw [hmem, hblocks, huse]
    · rw [hest, hmem, huse]
      exact (hest_iff hmax).mpr ⟨hthreads, hdb⟩

/-! ## Every configuration -/

/-- When the figures are exact, in the two modes. -/
def Fits (sz : Sizes) (cfg : Settings) (lim : Limits) : Bool → Prop
  | true => UnlimitFits sz cfg lim
  | false => LimitFits sz cfg lim

/-- **The memory the server says it uses**, its estimate and its number of connections are exact
    for the settings that `Fits` names, whenever it starts. -/
theorem memory_exact_iff (sz : Sizes) (heap : Heap) (cfg : Settings) (lim : Limits) (unlimit createOk : Bool) {s : Started}
    (h : stsvInit sz heap cfg lim unlimit createOk = some s) : Exact sz cfg lim unlimit s ↔ Fits sz cfg lim unlimit := by
  cases unlimit with
  | true => exact unlimit_exact_iff h
  | false => exact limit_exact_iff h

/-- The structures on a 64-bit Linux. -/
def sizes64 : Sizes := ⟨1904, 240, 1280, by decide, by decide⟩

/-- A stack of 8 megabytes, and 1024 open files. -/
def usualLimits : Limits := ⟨8 * 1024 * 1024, 1024⟩

/-- Three clients counted twice, and 238 connections to the database with 24 bytes less each; or
    six clients in the place of three rooms, and 446 connections. -/
theorem memory_exact_balanced :
    (∃ s, stsvInit sizes64 roomy ⟨3, 64, 64, 238, 2⟩ usualLimits false true = some s ∧
      Exact sizes64 ⟨3, 64, 64, 238, 2⟩ usualLimits false s) ∧
    ∃ s, stsvInit sizes64 roomy ⟨3, 64, 64, 446, 1⟩ ⟨160000000, 1024⟩ true true = some s ∧ s.nMaxConnection = 6 ∧
      Exact sizes64 ⟨3, 64, 64, 446, 1⟩ ⟨160000000, 1024⟩ true s := by
  constructor
  · obtain ⟨s, hs⟩ := Option.isSome_iff_exists.mp
      (show (stsvInit sizes64 roomy ⟨3, 64, 64, 238, 2⟩ usualLimits false true).isSome = true by decide +kernel)
    refine ⟨s, hs, (memory_exact_iff sizes64 roomy _ usualLimits false true hs).mpr ⟨?_, ?_, Or.inl ?_⟩⟩ <;> decide
  · obtain ⟨s, hs, hn⟩ := Option.map_eq_some_iff.mp
      (show (stsvInit sizes64 roomy ⟨3, 64, 64, 446, 1⟩ ⟨160000000, 1024⟩ true true).map (·.nMaxConnection) = some 6 by
        decide +kernel)
    refine ⟨s, hs, hn, (memory_exact_iff sizes64 roomy _ _ true true hs).mpr
      ⟨?_, ?_, Or.inl ⟨⟨?_, ?_, ?_⟩, ?_⟩, ?_, ?_, ?_⟩⟩ <;> decide

/-- **The server's own configuration**: it says it uses 94960 bytes more than it has allocated,
    in one mode, and 449328 more in the other. -/
theorem default_inexact :
    (∃ s, stsvInit sizes64 roomy defaultSettings usualLimits false true = some s ∧
      s.nMemoryUse - (s.blocks.sum : Int) = 94960 ∧ ¬Exact sizes64 defaultSettings usualLimits false s) ∧
    ∃ s, stsvInit sizes64 roomy defaultSettings usualLimits true true = some s ∧
      s.nMemoryUse - (s.blocks.sum : Int) = 449328 ∧ ¬Exact sizes64 defaultSettings usualLimits true s := by
  have hwrong : ∀ {s : Started} {unlimit : Bool} {d : Int}, s.nMemoryUse - (s.blocks.sum : Int) = d → d ≠ 0 →
      ¬Exact sizes64 defaultSettings usualLimits unlimit s := by
    intro s unlimit d hd h0 he
    have := he.memoryUse
    omega
  have hlimit : (stsvInit sizes64 roomy defaultSettings usualLimits false true).map
      (fun s => s.nMemoryUse - (s.blocks.sum : Int)) = some 94960 := by decide +kernel
  have hunlimit : (stsvInit sizes64 roomy defaultSettings usualLimits true true).map
      (fun s => s.nMemoryUse - (s.blocks.sum : Int)) = some 449328 := by decide +kernel
  obtain ⟨s, hs, hd⟩ := Option.map_eq_some_iff.mp hlimit
  obtain ⟨s', hs', hd'⟩ := Option.map_eq_some_iff.mp hunlimit
  exact ⟨⟨s, hs, hd, hwrong hd (by decide)⟩, s', hs', hd', hwrong hd' (by decide)⟩

end StarServer.Config

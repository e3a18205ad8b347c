/-
  StarServer.Memory.Blocks — sizes as C computes them, and the blocks that are allocated.

  An `int` keeps a result modulo 2^32, in -2^31 to 2^31 - 1, and a `size_t` modulo 2^64.
  What `malloc` answers is the heap's; no block has 2^63 bytes.
-/

import Mathlib.Tactic.Ring

namespace StarServer.Memory

/-! ## Wrapped sizes -/

/-- What an `int` keeps of a result. -/
def int32 (v : Int) : Int := (v + 2 ^ 31) % 2 ^ 32 - 2 ^ 31

/-- What a `size_t` keeps of a result. -/
def sizeT (v : Int) : Int := v % 2 ^ 64

theorem int32_bounds (v : Int) : -2 ^ 31 ≤ int32 v ∧ int32 v < 2 ^ 31 := by
  unfold int32
  omega

theorem int32_of_fits {v : Int} (h0 : -2 ^ 31 ≤ v) (h : v < 2 ^ 31) : int32 v = v := by
  unfold int32
  omega

theorem sizeT_of_fits {v : Int} (h0 : 0 ≤ v) (h : v < 2 ^ 64) : sizeT v = v := by
  unfold sizeT
  omega

/-- What was wrapped on the way does not show in an `int`. -/
theorem int32_add_left (a b : Int) : int32 (int32 a + b) = int32 (a + b) := by
  unfold int32
  omega

theorem int32_sizeT (a : Int) : int32 (sizeT a) = int32 a := by
  unfold int32 sizeT
  omega

theorem int32_mul_left (a b : Int) : int32 (int32 a * b) = int32 (a * b) := by
  obtain ⟨k, hk⟩ : ∃ k, int32 a = a + 2 ^ 32 * k := by
    refine ⟨-((a + 2 ^ 31) / 2 ^ 32), ?_⟩
    unfold int32
    omega
  rw [hk, Int.add_mul, Int.mul_assoc]
  generalize k * b = m
  unfold int32
  omega

theorem mul_bounds {a b n : Int} (h0 : 0 ≤ a) (ha : a < n) (hb0 : 0 ≤ b) (hb : b < 2 ^ 31) : 0 ≤ a * b ∧ a * b ≤ n * 2 ^ 31 :=
  ⟨Int.mul_nonneg h0 hb0, Int.mul_le_mul (by omega) (by omega) hb0 (by omega)⟩

/-! ## Allocation -/

structure Heap where
  /-- Whether the `k`-th `malloc` gets a block of the size. -/
  ok : Nat → Nat → Bool
  bounded : ∀ k size, ok k size = true → size < 2 ^ 63

variable (heap : Heap)

/-- The sizes of the blocks there are, with one more. -/
def malloc (size : Int) (blocks : List Nat) : Option (List Nat) :=
  if heap.ok blocks.length size.toNat then some (blocks ++ [size.toNat]) else none

def mallocAll : List Int → List Nat → Option (List Nat)
  | [], blocks => some blocks
  | size :: sizes, blocks => (malloc heap size blocks).bind (mallocAll sizes)

/-- As many rounds of the same blocks. -/
def mallocEach (sizes : List Int) : Nat → List Nat → Option (List Nat)
  | 0, blocks => some blocks
  | n + 1, blocks => (mallocAll heap sizes blocks).bind (mallocEach sizes n)

/-- A size whose block there is was no negative number. -/
theorem malloc_sum {v : Int} {blocks blocks' : List Nat} (h0 : -2 ^ 63 ≤ v) (hlt : v < 2 ^ 63)
    (h : malloc heap (sizeT v) blocks = some blocks') : 0 ≤ v ∧ (blocks'.sum : Int) = blocks.sum + v := by
  unfold malloc at h
  split at h
  · rename_i hok
    have hb := heap.bounded _ _ hok
    have hs : sizeT v = v := by
      unfold sizeT at hb ⊢
      omega
    rw [hs] at hb
    have hv : 0 ≤ v := by
      rw [← hs]
      exact Int.emod_nonneg v (by decide)
    cases h
    rw [hs, List.sum_append, List.sum_singleton]
    omega
  · cases h

theorem mallocAll_sum (vs : List Int) {blocks blocks' : List Nat} (hv : ∀ v ∈ vs, -2 ^ 63 ≤ v ∧ v < 2 ^ 63)
    (h : mallocAll heap (vs.map sizeT) blocks = some blocks') :
    (∀ v ∈ vs, 0 ≤ v) ∧ (blocks'.sum : Int) = blocks.sum + vs.sum := by
  induction vs generalizing blocks with
  | nil =>
    cases h
    exact ⟨nofun, (Int.add_zero _).symm⟩
  | cons v vs ih =>
    obtain ⟨blocks1, h1, hrest⟩ := Option.bind_eq_some_iff.mp h
    obtain ⟨hv0, hsum⟩ := malloc_sum heap (hv v List.mem_cons_self).1 (hv v List.mem_cons_self).2 h1
    obtain ⟨hvs, hsums⟩ := ih (fun w hw => hv w (List.mem_cons_of_mem v hw)) hrest
    refine ⟨List.forall_mem_cons.mpr ⟨hv0, hvs⟩, ?_⟩
    rw [hsums, hsum, List.sum_cons]
    omega

theorem mallocEach_sum (vs : List Int) {n : Nat} {blocks blocks' : List Nat} (hv : ∀ v ∈ vs, -2 ^ 63 ≤ v ∧ v < 2 ^ 63)
    (h : mallocEach heap (vs.map sizeT) n blocks = some blocks') :
    (0 < n → ∀ v ∈ vs, 0 ≤ v) ∧ (blocks'.sum : Int) = blocks.sum + n * vs.sum := by
  induction n generalizing blocks with
  | zero =>
    cases h
    exact ⟨nofun, by omega⟩
  | succ n ih =>
    obtain ⟨blocks1, h1, hrest⟩ := Option.bind_eq_some_iff.mp h
    obtain ⟨hv0, hsum⟩ := mallocAll_sum heap vs hv h1
    obtain ⟨-, hsums⟩ := ih hrest
    refine ⟨fun _ => hv0, ?_⟩
    rw [hsums, hsum, Int.natCast_succ, Int.add_mul]
    omega

/-! ## A heap with room for every block -/

def roomy : Heap := ⟨fun _ size => decide (size < 2 ^ 63), fun _ _ h => of_decide_eq_true h⟩

theorem malloc_roomy {v : Int} (h0 : 0 ≤ v) (hlt : v < 2 ^ 63) (blocks : List Nat) :
    malloc roomy (sizeT v) blocks = some (blocks ++ [v.toNat]) := by
  have hs : sizeT v = v := sizeT_of_fits h0 (by omega)
  unfold malloc
  rw [hs, if_pos]
  exact decide_eq_true (by omega)

theorem mallocAll_roomy (vs : List Int) (hv : ∀ v ∈ vs, 0 ≤ v ∧ v < 2 ^ 63) (blocks : List Nat) :
    ∃ blocks', mallocAll roomy (vs.map sizeT) blocks = some blocks' := by
  induction vs generalizing blocks with
  | nil => exact ⟨blocks, rfl⟩
  | cons v vs ih =>
    have hv0 := hv v List.mem_cons_self
    obtain ⟨blocks', h'⟩ := ih (fun w hw => hv w (List.mem_cons_of_mem v hw)) (blocks ++ [v.toNat])
    exact ⟨blocks', Option.bind_eq_some_iff.mpr ⟨_, malloc_roomy hv0.1 hv0.2 blocks, h'⟩⟩

theorem mallocEach_roomy (vs : List Int) (hv : ∀ v ∈ vs, 0 ≤ v ∧ v < 2 ^ 63) (n : Nat) (blocks : List Nat) :
    ∃ blocks', mallocEach roomy (vs.map sizeT) n blocks = some blocks' := by
  induction n generalizing blocks with
  | zero => exact ⟨blocks, rfl⟩
  | succ n ih =>
    obtain ⟨blocks1, h1⟩ := mallocAll_roomy vs hv blocks
    obtain ⟨blocks', h'⟩ := ih blocks1
    exact ⟨blocks', Option.bind_eq_some_iff.mpr ⟨blocks1, h1, h'⟩⟩

end StarServer.Memory

/-
  StarServer.Text.Decimal — numbers as decimal text: `%ld` and `%0*ld` of a number that is
  not negative, and reading digits back.
-/

import StarServer.Memory.Bytes

namespace StarServer.Text

open StarServer.Memory

/-- `%ld`. -/
def decimal (n : Nat) : List Byte := (Nat.toDigits 10 n).map fun c => BitVec.ofNat 8 c.toNat

/-- `%0wld`. -/
def padded (w n : Nat) : List Byte := List.replicate (w - (decimal n).length) 0x30 ++ decimal n

def IsDigit (b : Byte) : Prop := 48 ≤ b.toNat ∧ b.toNat ≤ 57

instance (b : Byte) : Decidable (IsDigit b) := by unfold IsDigit; infer_instance

/-- The number that digits stand for. -/
def value (l : List Byte) : Nat := l.foldl (fun v b => 10 * v + (b.toNat - 48)) 0

theorem foldl_value (l : List Byte) (v : Nat) :
    l.foldl (fun v b => 10 * v + (b.toNat - 48)) v = 10 ^ l.length * v + value l := by
  induction l generalizing v with
  | nil => simp [value]
  | cons b l ih =>
    have hl : value (b :: l) = 10 ^ l.length * (b.toNat - 48) + value l := by
      unfold value
      rw [List.foldl_cons, ih]
      simp [value]
    rw [List.foldl_cons, ih, hl, List.length_cons, Nat.pow_succ, Nat.mul_add, Nat.mul_assoc]
    omega

theorem value_append (l r : List Byte) : value (l ++ r) = 10 ^ r.length * value l + value r := by
  unfold value
  rw [List.foldl_append, foldl_value]
  rfl

/-- A digit's character is its code. -/
theorem toNat_digit {c : Char} (h : c.isDigit = true) :
    (BitVec.ofNat 8 c.toNat : Byte).toNat = c.toNat ∧ 48 ≤ c.toNat ∧ c.toNat ≤ 57 := by
  have hc : 48 ≤ c.toNat ∧ c.toNat ≤ 57 := by
    simp only [Char.isDigit, Bool.and_eq_true, decide_eq_true_eq, ge_iff_le, UInt32.le_iff_toNat_le] at h
    exact h
  refine ⟨?_, hc⟩
  rw [BitVec.toNat_ofNat]
  omega

theorem decimal_digits {n : Nat} {b : Byte} (h : b ∈ decimal n) : IsDigit b := by
  obtain ⟨c, hc, rfl⟩ := List.mem_map.mp h
  obtain ⟨hcode, hle⟩ := toNat_digit (Nat.isDigit_of_mem_toDigits (by decide) (by decide) hc)
  unfold IsDigit
  rw [hcode]
  exact hle

/-- **A number reads back.** -/
theorem value_decimal (n : Nat) : value (decimal n) = n := by
  have hfold : ∀ (l : List Char) (v : Nat), (∀ c ∈ l, c.isDigit = true) →
      (l.map fun c => (BitVec.ofNat 8 c.toNat : Byte)).foldl (fun v b => 10 * v + (b.toNat - 48)) v = Nat.ofDigitChars 10 l v := by
    intro l
    induction l with
    | nil =>
      intro v _
      rfl
    | cons c l ih =>
      intro v hl
      rw [List.map_cons, List.foldl_cons, ih _ fun d hd => hl d (List.mem_cons_of_mem _ hd),
        (toNat_digit (hl c List.mem_cons_self)).1, Nat.ofDigitChars_cons]
      rfl
  unfold value decimal
  rw [hfold _ 0 fun c hc => Nat.isDigit_of_mem_toDigits (by decide) (by decide) hc]
  exact Nat.ofDigitChars_ten_toDigits

theorem decimal_ne_nil (n : Nat) : decimal n ≠ [] := by
  unfold decimal
  rw [ne_eq, List.map_eq_nil_iff]
  exact Nat.toDigits_ne_nil

theorem decimal_length_le {n w : Nat} (hw : 0 < w) : (decimal n).length ≤ w ↔ n < 10 ^ w := by
  unfold decimal
  rw [List.length_map, Nat.length_toDigits_le_iff (by decide) hw]

theorem value_zeros (k : Nat) : value (List.replicate k 0x30) = 0 := by
  induction k with
  | zero => rfl
  | succ k ih =>
    rw [List.replicate_succ', value_append, ih]
    rfl

theorem value_padded (w n : Nat) : value (padded w n) = n := by
  unfold padded
  rw [value_append, value_zeros, value_decimal]
  omega

theorem padded_length {w n : Nat} (hw : 0 < w) (h : n < 10 ^ w) : (padded w n).length = w := by
  have hle := (decimal_length_le hw).mpr h
  simp only [padded, List.length_append, List.length_replicate]
  omega

/-- Different numbers have different text. -/
theorem padded_injective (w : Nat) {n m : Nat} (h : padded w n = padded w m) : n = m := by
  rw [← value_padded w n, h, value_padded]

end StarServer.Text

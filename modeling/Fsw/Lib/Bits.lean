import Mathlib.Data.Nat.Bitwise
import Fsw.Lib.Bytes

namespace Fsw
namespace Bits

def ofNat : Nat → Nat → List Bool
  | 0, _ => []
  | k + 1, x => x.testBit k :: ofNat k x

def ofBytes (bs : Bytes) : List Bool :=
  bs.flatMap fun b => ofNat 8 b.toNat

@[simp]
theorem length_ofNat {k x : Nat} : (ofNat k x).length = k := by
  induction k with
  | zero => rfl
  | succ k ih => rw [ofNat, List.length_cons, ih]

theorem ofNat_congr {k x y : Nat} (h : ∀ i < k, x.testBit i = y.testBit i)
    : ofNat k x = ofNat k y := by
  induction k with
  | zero => rfl
  | succ k ih =>
    rw [ofNat, ofNat, h k (Nat.lt_succ_self k), ih fun i hi => h i (Nat.lt_succ_of_lt hi)]

theorem ofNat_add (k m x : Nat) : ofNat (k + m) x = ofNat k (x / 2 ^ m) ++ ofNat m x := by
  induction k with
  | zero => rw [Nat.zero_add, ofNat, List.nil_append]
  | succ k ih =>
    rw [Nat.add_right_comm, ofNat, ofNat, ih, Nat.testBit_div_two_pow, List.cons_append]

theorem ofNat_mul_add {k m x y : Nat} (hy : y < 2 ^ m)
    : ofNat (k + m) (x * 2 ^ m + y) = ofNat k x ++ ofNat m y := by
  rw [ofNat_add, Nat.mul_comm, Nat.mul_add_div (Nat.two_pow_pos m),
    Nat.div_eq_of_lt hy, Nat.add_zero]
  congr 1
  apply ofNat_congr
  intro i hi
  rw [Nat.testBit_two_pow_mul_add x hy, if_pos hi]

theorem ofNat_mod {k m x : Nat} (h : k ≤ m) : ofNat k (x % 2 ^ m) = ofNat k x := by
  apply ofNat_congr
  intro i hi
  rw [Nat.testBit_mod_two_pow, decide_eq_true (by omega), Bool.true_and]

theorem ofNat_inj {k x y : Nat} (hx : x < 2 ^ k) (hy : y < 2 ^ k) (h : ofNat k x = ofNat k y)
    : x = y := by
  have hbits : ∀ k, ofNat k x = ofNat k y → ∀ i < k, x.testBit i = y.testBit i := by
    intro k
    induction k with
    | zero => intro _ i hi; omega
    | succ k ih =>
      intro h i hi
      rw [ofNat, ofNat, List.cons.injEq] at h
      by_cases heq : i = k
      . rw [heq]
        exact h.1
      . exact ih h.2 i (by omega)
  apply Nat.eq_of_testBit_eq
  intro i
  by_cases hi : i < k
  . exact hbits k h i hi
  . have hle : 2 ^ k ≤ 2 ^ i := Nat.pow_le_pow_right (by omega) (by omega)
    rw [Nat.testBit_lt_two_pow (by omega), Nat.testBit_lt_two_pow (by omega)]

theorem ofNat_ones (k : Nat) : ofNat k (2 ^ k - 1) = List.replicate k true := by
  have hbits : ∀ m ≤ k, ofNat m (2 ^ k - 1) = List.replicate m true := by
    intro m
    induction m with
    | zero => exact fun _ => rfl
    | succ m ih =>
      intro hm
      rw [ofNat, Nat.testBit_two_pow_sub_one, decide_eq_true (by omega), ih (by omega),
        List.replicate_succ]
  exact hbits k (Nat.le_refl k)

theorem ofNat_eq_ones_iff {k x : Nat} (hx : x < 2 ^ k)
    : ofNat k x = List.replicate k true ↔ x + 1 = 2 ^ k := by
  constructor
  . intro h
    rw [← ofNat_ones] at h
    have := ofNat_inj hx (by omega) h
    omega
  . intro h
    rw [← ofNat_ones]
    congr 1
    omega

theorem ofNat_prefix {k m x y : Nat} (hx : x < 2 ^ k) (hy : y < 2 ^ m) (h : ofNat k x <+: ofNat m y)
    : k ≤ m ∧ y / 2 ^ (m - k) = x := by
  have hle : k ≤ m := by
    have := h.length_le
    rw [length_ofNat, length_ofNat] at this
    exact this
  refine ⟨hle, ?_⟩
  obtain ⟨rest, hrest⟩ := h
  rw [← Nat.add_sub_cancel' hle, ofNat_add] at hrest
  have hdiv : y / 2 ^ (m - k) < 2 ^ k := by
    rw [Nat.div_lt_iff_lt_mul (Nat.two_pow_pos _), ← Nat.pow_add, Nat.add_sub_cancel' hle]
    exact hy
  exact (ofNat_inj hx hdiv (List.append_inj hrest (by simp)).1).symm

theorem ofBytes_append (as bs : Bytes) : ofBytes (as ++ bs) = ofBytes as ++ ofBytes bs := by
  rw [ofBytes, List.flatMap_append, ofBytes, ofBytes]

theorem ofBytes_cons (b : UInt8) (bs : Bytes)
    : ofBytes (b :: bs) = ofNat 8 b.toNat ++ ofBytes bs := by
  rw [ofBytes, List.flatMap_cons, ofBytes]

theorem ofBytes_singleton (b : UInt8) : ofBytes [b] = ofNat 8 b.toNat := by
  rw [ofBytes_cons]
  exact List.append_nil _

@[simp]
theorem length_ofBytes {bs : Bytes} : (ofBytes bs).length = 8 * bs.length := by
  induction bs with
  | nil => rfl
  | cons b bs ih => rw [ofBytes_cons, List.length_append, length_ofNat, ih, List.length_cons]; omega

theorem ofBytes_inj {as bs : Bytes} (h : ofBytes as = ofBytes bs) : as = bs := by
  induction as generalizing bs with
  | nil =>
    have := congrArg List.length h
    cases bs with
    | nil => rfl
    | cons b bs => simp at this
  | cons a as ih =>
    cases bs with
    | nil =>
      have := congrArg List.length h
      simp at this
    | cons b bs =>
      rw [ofBytes_cons, ofBytes_cons] at h
      obtain ⟨hbyte, hrest⟩ := List.append_inj h (by simp)
      rw [ih hrest, UInt8.toNat_inj.mp (ofNat_inj a.toNat_lt b.toNat_lt hbyte)]

def pack : List Bool → Bytes
  | b₇ :: b₆ :: b₅ :: b₄ :: b₃ :: b₂ :: b₁ :: b₀ :: bits =>
    .ofNat ([b₇, b₆, b₅, b₄, b₃, b₂, b₁, b₀].foldl (fun n b => 2 * n + b.toNat) 0) :: pack bits
  | _ => []

theorem ofBytes_pack {bits : List Bool} (h : bits.length % 8 = 0) : ofBytes (pack bits) = bits := by
  induction bits using pack.induct with
  | case1 b₇ b₆ b₅ b₄ b₃ b₂ b₁ b₀ bits ih =>
    have hbyte : ofNat 8
      (UInt8.ofNat ([b₇, b₆, b₅, b₄, b₃, b₂, b₁, b₀].foldl (fun n b => 2 * n + b.toNat) 0)).toNat
        = [b₇, b₆, b₅, b₄, b₃, b₂, b₁, b₀] := by
      clear ih h
      revert b₇ b₆ b₅ b₄ b₃ b₂ b₁ b₀
      decide
    have hlength : bits.length % 8 = 0 := by
      simp only [List.length_cons] at h
      omega
    rw [pack, ofBytes_cons, hbyte, ih hlength]
    rfl
  | case2 bits hnot =>
    match bits with
    | [] => rfl
    | [_] | [_, _] | [_, _, _] | [_, _, _, _] | [_, _, _, _, _] | [_, _, _, _, _, _]
      | [_, _, _, _, _, _, _] =>
      simp at h
    | b₇ :: b₆ :: b₅ :: b₄ :: b₃ :: b₂ :: b₁ :: b₀ :: bits =>
      exact absurd rfl (hnot b₇ b₆ b₅ b₄ b₃ b₂ b₁ b₀ bits)

end Bits
end Fsw

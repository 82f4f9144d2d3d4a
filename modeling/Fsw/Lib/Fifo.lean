import Mathlib.Algebra.BigOperators.Group.List.Basic
import Mathlib.Algebra.GroupWithZero.Nat

namespace Fsw
namespace Fifo

variable {α : Type} (w : α → Nat)

def total (l : List α) : Nat :=
  (l.map w).sum

/--
The longest beginning of a list whose total is at most `max`.
-/
def fit (max : Nat) : List α → List α
  | [] => []
  | a :: l => if w a ≤ max then a :: fit (max - w a) l else []

variable {w} {l : List α} {a : α} {max m n : Nat}

@[simp]
theorem total_nil : total w [] = 0 := rfl

@[simp]
theorem total_cons : total w (a :: l) = w a + total w l := by
  rw [total, List.map_cons, List.sum_cons, total]

@[simp]
theorem total_append {l' : List α} : total w (l ++ l') = total w l + total w l' := by
  rw [total, List.map_append, List.sum_append, total, total]

theorem total_fit_le (w : α → Nat) (max : Nat) (l : List α) : total w (fit w max l) ≤ max := by
  induction l generalizing max with
  | nil => exact Nat.zero_le max
  | cons a l ih =>
    rw [fit]
    split
    . have := ih (max - w a)
      rw [total_cons]
      omega
    . exact Nat.zero_le max

theorem total_fit_le_total (w : α → Nat) (max : Nat) (l : List α)
    : total w (fit w max l) ≤ total w l := by
  induction l generalizing max with
  | nil => exact Nat.le_refl 0
  | cons a l ih =>
    rw [fit]
    split
    . have := ih (max - w a)
      rw [total_cons, total_cons]
      omega
    . exact Nat.zero_le _

theorem fit_of_total_le (h : total w l ≤ max) : fit w max l = l := by
  induction l generalizing max with
  | nil => rfl
  | cons a l ih =>
    rw [total_cons] at h
    rw [fit, if_pos (by omega), ih (by omega)]

-- What is taken off first does not count, as long as it has to go.
theorem fit_concat (h : max < total w (l ++ [a])) : fit w max (l ++ [a]) = fit w max l := by
  induction l generalizing max with
  | nil =>
    rw [List.nil_append, total_cons, total_nil] at h
    rw [List.nil_append, fit.eq_2, if_neg (by omega), fit]
  | cons b l ih =>
    rw [List.cons_append, total_cons] at h
    rw [List.cons_append, fit, fit]
    split
    . rw [ih (by omega)]
    . rfl

theorem fit_fit (w : α → Nat) (m n : Nat) (l : List α)
    : fit w m (fit w n l) = fit w (min m n) l := by
  induction l generalizing m n with
  | nil => rfl
  | cons a l ih =>
    rw [fit, fit]
    by_cases hn : w a ≤ n
    . rw [if_pos hn, fit]
      by_cases hm : w a ≤ m
      . rw [if_pos hm, if_pos (by omega), ih, Nat.sub_min_sub_right]
      . rw [if_neg hm, if_neg (by omega)]
    . rw [if_neg hn, if_neg (by omega), fit]

theorem fit_prefix_fit {l' : List α} (h : l <+: l') (hmax : m ≤ n) : fit w m l <+: fit w n l' := by
  induction l generalizing l' m n with
  | nil => exact List.nil_prefix
  | cons a l ih =>
    obtain ⟨t, rfl⟩ := h
    rw [List.cons_append, fit, fit]
    split
    . rw [if_pos (by omega)]
      exact (List.prefix_cons_inj a).mpr (ih (List.prefix_append l t) (by omega))
    . exact List.nil_prefix

theorem prefix_fit {l' : List α} (h : l <+: l') (hmax : total w l ≤ max) : l <+: fit w max l' := by
  have := @fit_prefix_fit α w l max max l' h (Nat.le_refl max)
  rw [fit_of_total_le hmax] at this
  exact this

theorem fit_isPrefix (w : α → Nat) (max : Nat) (l : List α) : fit w max l <+: l := by
  have := @fit_prefix_fit α w l max (max + total w l) l List.prefix_rfl (Nat.le_add_right _ _)
  rw [@fit_of_total_le α w l (max + total w l) (Nat.le_add_left _ _)] at this
  exact this

theorem mem_of_mem_fit {b : α} (h : b ∈ fit w max l) : b ∈ l :=
  (fit_isPrefix w max l).subset h

theorem fit_map {β : Type} {f : β → α} {l : List β}
    : (fit (w ∘ f) max l).map f = fit w max (l.map f) := by
  induction l generalizing max with
  | nil => rfl
  | cons a l ih =>
    rw [List.map_cons, fit, fit, Function.comp]
    split
    . rw [List.map_cons, ih]
    . rfl

theorem total_map {β : Type} {f : β → α} {l : List β} : total w (l.map f) = total (w ∘ f) l := by
  rw [total, List.map_map, total]

end Fifo
end Fsw

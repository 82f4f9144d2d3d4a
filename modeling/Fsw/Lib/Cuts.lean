import Mathlib.Algebra.BigOperators.Group.List.Basic
import Mathlib.Algebra.GroupWithZero.Nat

namespace Fsw

def cut (l : List Nat) (k : Nat) : Nat :=
  (l.take k).sum

variable {l : List Nat} {j k n p : Nat}

@[simp]
theorem cut_zero : cut l 0 = 0 := by
  rfl

theorem cut_succ (h : l[k]? = some n) : cut l (k + 1) = cut l k + n := by
  unfold cut
  rw [List.take_add_one, h]
  simp

theorem cut_le_succ : cut l k ≤ cut l (k + 1) := by
  unfold cut
  rw [List.take_add_one]
  simp

theorem cut_mono (h : j ≤ k) : cut l j ≤ cut l k := by
  induction h with
  | refl => apply Nat.le_refl _
  | step _ ih => apply Nat.le_trans ih cut_le_succ

theorem cut_lt (hl : ∀ n ∈ l, 0 < n) (hj : j < k) (hk : k ≤ l.length) : cut l j < cut l k := by
  have hlt : j < l.length := by omega
  have hpos := hl l[j] (List.getElem_mem hlt)
  have hsucc : cut l (j + 1) = cut l j + l[j] := cut_succ (List.getElem?_eq_getElem hlt)
  have hle : cut l (j + 1) ≤ cut l k := cut_mono hj
  omega

theorem exists_cut (h : p < cut l k) : ∃ j, j < k ∧ cut l j ≤ p ∧ p < cut l (j + 1) := by
  induction k with
  | zero =>
    rw [cut_zero] at h
    omega
  | succ k ih =>
    by_cases hp : p < cut l k
    . rcases ih hp with ⟨j, hj, hcut⟩
      exact ⟨j, by omega, hcut⟩
    . exact ⟨k, by omega, by omega, h⟩

theorem eq_of_cut_eq {l' : List Nat} (hlength : l.length = l'.length)
    (hcut : ∀ k ≤ l.length, cut l k = cut l' k)
    : l = l' := by
  apply List.ext_getElem hlength
  intro k hk hk'
  have hsucc : cut l (k + 1) = cut l k + l[k] := cut_succ (List.getElem?_eq_getElem hk)
  have hsucc' : cut l' (k + 1) = cut l' k + l'[k] := cut_succ (List.getElem?_eq_getElem hk')
  have hthis := hcut k (Nat.le_of_lt hk)
  have hnext := hcut (k + 1) hk
  omega

section Flatten

variable {α : Type} {L : List (List α)} {a : List α}

theorem drop_cut : L.flatten.drop (cut (L.map List.length) k) = (L.drop k).flatten := by
  have hlen : (L.take k).flatten.length = cut (L.map List.length) k := by
    rw [List.length_flatten, cut, List.map_take]
  have hsplit : L.flatten = (L.take k).flatten ++ (L.drop k).flatten := by
    rw [← List.flatten_append, List.take_append_drop]
  rw [hsplit, ← hlen, List.drop_left]

theorem drop_cut_eq_append (h : L[k]? = some a)
    : L.flatten.drop (cut (L.map List.length) k) = a ++ (L.drop (k + 1)).flatten := by
  rcases List.getElem?_eq_some_iff.mp h with ⟨hk, ha⟩
  rw [drop_cut, List.drop_eq_getElem_cons hk, List.flatten_cons, ha]

end Flatten

end Fsw

import Mathlib.Data.List.Basic
import Mathlib.Data.Nat.ModEq
import Fsw.Lib.Except
import Fsw.Hpack.Impl.Ring

namespace Fsw
namespace Hpack

-- The size is a power of two, and the next smaller one would not do.
theorem sizeFrom_spec (bufsize k : Nat)
    : ∃ j, k ≤ j ∧ sizeFrom bufsize k = 2 ^ j ∧ bufsize ≤ 2 ^ j
        ∧ (j = k ∨ 2 ^ j < 2 * bufsize) := by
  rw [sizeFrom]
  split
  . next h =>
    obtain ⟨j, hj, hsize, hle, hlt⟩ := sizeFrom_spec bufsize (k + 1)
    refine ⟨j, by omega, hsize, hle, .inr ?_⟩
    rcases hlt with rfl | hlt
    . rw [Nat.pow_succ]
      omega
    . exact hlt
  . next h => exact ⟨k, Nat.le_refl k, rfl, by omega, .inl rfl⟩
termination_by bufsize - 2 ^ k
decreasing_by
  have := Nat.two_pow_pos k
  rw [Nat.pow_succ]
  omega

theorem sizeFrom_zero {bufsize : Nat} (h : bufsize ≤ 2 ^ 63)
    : ∃ k ≤ 64, sizeFrom bufsize 0 = 2 ^ k ∧ bufsize ≤ 2 ^ k := by
  obtain ⟨k, -, hsize, hle, hlt⟩ := sizeFrom_spec bufsize 0
  refine ⟨k, ?_, hsize, hle⟩
  rcases hlt with rfl | hlt
  . omega
  . have : 2 ^ k < 2 ^ 64 := by omega
    exact Nat.le_of_lt ((Nat.pow_lt_pow_iff_right (by omega)).mp this)

namespace Ring

variable {α : Type} {ring : Ring α} {l : List α} {a : α}

/--
`ring` has the elements of `l`, from the one that has been added last on.
-/
structure Holds (ring : Ring α) (l : List α) : Prop where
  size : ∃ k ≤ 64, ring.mask = 2 ^ k - 1 ∧ ring.buffer.length = 2 ^ k
  len : ring.len = l.length
  le : l.length ≤ ring.buffer.length
  cell : ∀ i, (h : i < l.length) → ring.buffer[(ring.first + i) % ring.buffer.length]?
    = some (some l[i])

theorem Holds.slot (h : ring.Holds l) (i : Nat) : ring.slot i = i % ring.buffer.length := by
  obtain ⟨k, hk, hmask, hlength⟩ := h.size
  rw [Ring.slot, hmask, hlength, Nat.and_two_pow_sub_one_eq_mod,
    Nat.mod_mod_of_dvd _ (Nat.pow_dvd_pow 2 hk)]

theorem Holds.size_pos (h : ring.Holds l) : 0 < ring.buffer.length := by
  obtain ⟨k, -, -, hlength⟩ := h.size
  rw [hlength]
  exact Nat.two_pow_pos k

theorem holds_init {bufsize : Nat} (h : bufsize ≤ 2 ^ 63) : (init bufsize : Ring α).Holds [] := by
  obtain ⟨k, hk, hsize, -⟩ := sizeFrom_zero h
  refine ⟨⟨k, hk, ?_, ?_⟩, rfl, Nat.zero_le _, ?_⟩
  . rw [init, hsize]
  . rw [init, List.length_replicate, hsize]
  . intro i hi
    exact absurd hi (Nat.not_lt_zero i)

theorem Holds.get {i : Nat} (h : ring.Holds l) (hi : i < l.length) : ring.get i = .ok l[i] := by
  rw [Ring.get, h.len, if_pos hi, h.slot, h.cell i hi]

theorem Holds.popBack (h : ring.Holds (l ++ [a]))
    : ring.get (ring.len - 1) = .ok a
      ∧ ∃ ring', ring.popBack = .ok ring' ∧ ring'.Holds l ∧ ring'.len + 1 = ring.len := by
  have hlen := h.len
  rw [List.length_append, List.length_singleton] at hlen
  constructor
  . rw [hlen, Nat.add_sub_cancel, h.get (by simp), List.getElem_concat_length rfl]
  . refine ⟨_, by rw [Ring.popBack, if_pos (by omega)], ?_, ?_⟩
    . refine ⟨h.size, ?_, ?_, ?_⟩
      . dsimp only
        omega
      . have := h.le
        rw [List.length_append] at this
        dsimp only
        omega
      . intro i hi
        have := h.cell i (by rw [List.length_append]; omega)
        rw [List.getElem_append_left hi] at this
        exact this
    . dsimp only
      omega

theorem Holds.mapM_get (h : ring.Holds l) : (List.range ring.len).mapM ring.get = .ok l := by
  have hgen (n : Nat) (hn : n ≤ l.length) : (List.range n).mapM ring.get = .ok (l.take n) := by
    induction n with
    | zero => rfl
    | succ n ih =>
      rw [List.range_succ, List.mapM_append, ih (by omega), List.mapM_cons, h.get (by omega),
        List.take_succ_eq_append_getElem]
      rfl
  rw [h.len, hgen l.length (Nat.le_refl _), List.take_length]

theorem Holds.reserve {n : Nat} (h : ring.Holds l) (hle : l.length ≤ n) (hn : n ≤ 2 ^ 63)
    : ∃ ring', ring.reserve n = .ok ring' ∧ ring'.Holds l ∧ n ≤ ring'.buffer.length := by
  rw [Ring.reserve]
  split
  . next hmask =>
    refine ⟨ring, rfl, h, ?_⟩
    obtain ⟨k, -, hmask', hlength⟩ := h.size
    have := Nat.two_pow_pos k
    omega
  . obtain ⟨k, hk, hsize, hbuf⟩ := sizeFrom_zero hn
    rw [h.mapM_get, hsize]
    refine ⟨_, rfl, ?_, ?_⟩
    . refine ⟨⟨k, hk, rfl, ?_⟩, h.len, ?_, ?_⟩
      . rw [List.length_append, List.length_map, List.length_replicate]
        omega
      . rw [List.length_append, List.length_map]
        omega
      . intro i hi
        dsimp only
        rw [Nat.zero_add, Nat.mod_eq_of_lt (by rw [List.length_append, List.length_map]; omega),
          List.getElem?_append_left (by rw [List.length_map]; exact hi), List.getElem?_map,
          List.getElem?_eq_getElem hi]
        rfl
    . rw [List.length_append, List.length_map, List.length_replicate]
      omega

theorem back_add {m n first : Nat} (hm : 0 < m) (hdvd : n ∣ m) (i : Nat)
    : ((first + (m - 1)) % m + (i + 1)) % n = (first + i) % n := by
  obtain ⟨c, hc⟩ := hdvd
  have hround : first + (m - 1) + (i + 1) = first + i + n * c := by
    rw [← hc]
    omega
  rw [Nat.add_mod, Nat.mod_mod_of_dvd _ ⟨c, hc⟩, ← Nat.add_mod, hround, Nat.add_mul_mod_self_left]

theorem Holds.before_add (h : ring.Holds l) (i : Nat)
    : (before ring.first + (i + 1)) % ring.buffer.length
        = (ring.first + i) % ring.buffer.length := by
  obtain ⟨k, hk, -, hsize⟩ := h.size
  have hdvd : ring.buffer.length ∣ 2 ^ 64 := by
    rw [hsize]
    exact Nat.pow_dvd_pow 2 hk
  exact back_add (Nat.two_pow_pos 64) hdvd i

theorem Holds.before_ne {i : Nat} (h : ring.Holds l) (hi : i + 1 < ring.buffer.length)
    : before ring.first % ring.buffer.length ≠ (ring.first + i) % ring.buffer.length := by
  intro heq
  rw [← h.before_add] at heq
  have hzero := (Nat.modEq_iff_dvd' (Nat.le_add_right _ (i + 1))).mp heq
  rw [Nat.add_sub_cancel_left] at hzero
  have := Nat.le_of_dvd (Nat.succ_pos i) hzero
  omega

theorem Holds.pushFront (a : α) (h : ring.Holds l) (hlength : l.length < 2 ^ 63)
    : ∃ ring', ring.pushFront a = .ok ring' ∧ ring'.Holds (a :: l) := by
  obtain ⟨ring', hreserve, h', hroom⟩ := h.reserve (n := l.length + 1) (by omega) (by omega)
  have hslot : before ring'.first % ring'.buffer.length < ring'.buffer.length :=
    Nat.mod_lt _ h'.size_pos
  have hpush : ring.pushFront a
      = .ok ⟨ring'.buffer.set (before ring'.first % ring'.buffer.length) (some a),
        ring'.mask, before ring'.first,
          ring'.len + 1⟩ := by
    rw [Ring.pushFront, h.len, hreserve, ok_bind]
    dsimp only
    rw [h'.slot, if_pos hslot]
    rfl
  refine ⟨_, hpush, ?_, ?_, ?_, ?_⟩
  . rw [List.length_set]
    exact h'.size
  . rw [h'.len]
    rfl
  . rw [List.length_set]
    exact hroom
  . intro i hi
    dsimp only
    rw [List.length_set]
    cases i with
    | zero => rw [Nat.add_zero, List.getElem?_set_self hslot, List.getElem_cons_zero]
    | succ i =>
      rw [List.length_cons] at hi
      rw [h'.before_add, List.getElem?_set_ne (h'.before_ne (by omega)), h'.cell i (by omega),
        List.getElem_cons_succ]

end Ring
end Hpack
end Fsw

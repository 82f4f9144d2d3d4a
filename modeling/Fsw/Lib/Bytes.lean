import Mathlib.Algebra.Group.Nat.Defs
import Mathlib.Data.List.Basic
import Mathlib.Data.Nat.Basic

namespace Fsw

abbrev Bytes := List UInt8

namespace Bytes

def storeLE : Nat → Nat → Bytes
  | 0, _ => []
  | n + 1, x => UInt8.ofNat x :: storeLE n (x / 256)

def loadLE : Bytes → Nat
  | [] => 0
  | b :: bs => b.toNat + 256 * loadLE bs

def swapLE (n x : Nat) : Nat :=
  loadLE (storeLE n x).reverse

def read? (mem : Bytes) (pos n : Nat) : Option Bytes :=
  if pos + n ≤ mem.length then some ((mem.drop pos).take n) else none

def write (mem : Bytes) (pos : Nat) (bs : Bytes) : Bytes :=
  mem.take pos ++ bs ++ mem.drop (pos + bs.length)

@[simp]
theorem length_storeLE {n x : Nat} : (storeLE n x).length = n := by
  induction n generalizing x with
  | zero => rfl
  | succ n ih => simp [storeLE, ih]

theorem loadLE_lt (bs : Bytes) : loadLE bs < 256 ^ bs.length := by
  induction bs with
  | nil => simp [loadLE]
  | cons b bs ih =>
    have := b.toNat_lt
    rw [loadLE, List.length_cons, Nat.pow_succ]
    omega

theorem loadLE_storeLE {n x : Nat} : loadLE (storeLE n x) = x % 256 ^ n := by
  induction n generalizing x with
  | zero => simp [storeLE, loadLE, Nat.mod_one]
  | succ n ih =>
    have hbyte : (UInt8.ofNat x).toNat = x % 256 := UInt8.toNat_ofNat'
    rw [storeLE, loadLE, ih, hbyte, Nat.pow_succ', Nat.mod_mul]

theorem storeLE_loadLE (bs : Bytes) : storeLE bs.length (loadLE bs) = bs := by
  induction bs with
  | nil => rfl
  | cons b bs ih =>
    have hb := b.toNat_lt
    have hdiv : (b.toNat + 256 * loadLE bs) / 256 = loadLE bs := by omega
    rw [loadLE, List.length_cons, storeLE, hdiv, ih]
    congr 1
    rw [← UInt8.toNat_inj, UInt8.toNat_ofNat']
    omega

theorem swapLE_lt {n x : Nat} : swapLE n x < 256 ^ n := by
  have := loadLE_lt (storeLE n x).reverse
  rw [List.length_reverse, length_storeLE] at this
  exact this

theorem swapLE_loadLE (bs : Bytes) : swapLE bs.length (loadLE bs) = loadLE bs.reverse := by
  rw [swapLE, storeLE_loadLE]

theorem storeLE_swapLE {n x : Nat} : storeLE n (swapLE n x) = (storeLE n x).reverse := by
  have := storeLE_loadLE (storeLE n x).reverse
  rw [List.length_reverse, length_storeLE] at this
  exact this

theorem swapLE_swapLE {n x : Nat} (hx : x < 256 ^ n)
    : swapLE n (swapLE n x) = x := by
  rw [swapLE, storeLE_swapLE, List.reverse_reverse, loadLE_storeLE, Nat.mod_eq_of_lt hx]

theorem loadLE_append (as bs : Bytes)
    : loadLE (as ++ bs) = loadLE as + 256 ^ as.length * loadLE bs := by
  induction as with
  | nil => simp [loadLE]
  | cons a as ih =>
    rw [List.cons_append, loadLE, loadLE, ih, List.length_cons, Nat.pow_succ',
      Nat.mul_add, Nat.mul_assoc, Nat.add_assoc]

theorem storeLE_xor {as bs : Bytes} (h : as.length = bs.length)
    : storeLE as.length (loadLE as ^^^ loadLE bs) = List.zipWith (· ^^^ ·) as bs := by
  induction as generalizing bs with
  | nil => rfl
  | cons a as ih =>
    cases bs with
    | nil => contradiction
    | cons b bs =>
      have ha := a.toNat_lt
      have hb := b.toNat_lt
      have hdiv : (loadLE (a :: as) ^^^ loadLE (b :: bs)) / 256 = loadLE as ^^^ loadLE bs := by
        change (_ ^^^ _) / 2 ^ 8 = _
        rw [Nat.xor_div_two_pow, loadLE, loadLE]
        congr 1
        . omega
        . omega
      have hmod : (loadLE (a :: as) ^^^ loadLE (b :: bs)) % 2 ^ 8 = a.toNat ^^^ b.toNat := by
        rw [Nat.xor_mod_two_pow, loadLE, loadLE]
        congr 1
        . omega
        . omega
      rw [List.length_cons, storeLE, List.zipWith_cons_cons]
      congr 1
      . rw [← UInt8.toNat_inj, UInt8.toNat_ofNat', hmod, UInt8.toNat_xor]
      . rw [hdiv, ih (by simpa using h)]

theorem length_write {mem bs : Bytes} {pos : Nat} (h : pos + bs.length ≤ mem.length)
    : (write mem pos bs).length = mem.length := by
  simp only [write, List.length_append, List.length_take, List.length_drop]
  omega

theorem take_write {mem bs : Bytes} {pos : Nat} (h : pos + bs.length ≤ mem.length)
    : (write mem pos bs).take (pos + bs.length) = mem.take pos ++ bs := by
  have hlen : (mem.take pos ++ bs).length = pos + bs.length := by
    simp only [List.length_append, List.length_take]
    omega
  rw [write, ← hlen, List.take_left']
  rfl

theorem take_write_of_le {mem bs : Bytes} {pos n : Nat} (hn : n ≤ pos) (h : pos ≤ mem.length)
    : (write mem pos bs).take n = mem.take n := by
  rw [write, List.append_assoc, List.take_append_of_le_length]
  . rw [List.take_take]
    congr 1
    omega
  . rw [List.length_take]
    omega

theorem getD_write {mem bs : Bytes} {pos i : Nat} (h : pos + bs.length ≤ mem.length)
    (hi : i < pos ∨ pos + bs.length ≤ i)
    : (write mem pos bs).getD i 0 = mem.getD i 0 := by
  have hlen : (mem.take pos).length = pos := by
    rw [List.length_take]
    omega
  rw [write, List.append_assoc, List.getD_eq_getElem?_getD, List.getD_eq_getElem?_getD]
  congr 1
  rcases hi with hi | hi
  . rw [List.getElem?_append_left (by omega), List.getElem?_take_of_lt hi]
  . rw [List.getElem?_append_right (by omega), List.getElem?_append_right (by omega),
      hlen, List.getElem?_drop]
    congr 1
    omega

theorem write_append {as bs bs' cs : Bytes} (h : bs.length = bs'.length)
    : write (as ++ (bs ++ cs)) as.length bs' = as ++ (bs' ++ cs) := by
  rw [write, List.take_left, ← List.drop_drop, List.drop_left, ← h,
    List.drop_left, List.append_assoc]

theorem length_read? {mem bs : Bytes} {pos n : Nat} (h : mem.read? pos n = some bs)
    : bs.length = n := by
  unfold read? at h
  split at h
  . injection h with h
    rw [← h, List.length_take, List.length_drop]
    omega
  . contradiction

theorem read?_zero {mem : Bytes} {n : Nat} (h : n ≤ mem.length)
    : mem.read? 0 n = some (mem.take n) := by
  rw [read?, Nat.zero_add, if_pos h, List.drop_zero]

end Bytes
end Fsw

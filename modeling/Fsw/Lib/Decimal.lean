import Fsw.Lib.Bytes

namespace Fsw
namespace Decimal

def ofChars (cs : List Char) : Bytes :=
  cs.map fun c => UInt8.ofNat c.toNat

def ofNat (n : Nat) : Bytes :=
  ofChars (Nat.toDigits 10 n)

def digit? (b : UInt8) : Option Nat :=
  if 48 ≤ b ∧ b ≤ 57 then some (b.toNat - 48) else none

def digits? (n : Nat) : Bytes → Option Nat
  | [] => some n
  | b :: bs => (digit? b).bind fun d => digits? (10 * n + d) bs

def read? (bs : Bytes) : Option Nat :=
  if bs = [] then none else digits? 0 bs

theorem digit?_ofNat {c : Char} (h : c.isDigit)
    : digit? (UInt8.ofNat c.toNat) = some (c.toNat - '0'.toNat) := by
  have hrange : 48 ≤ c.toNat ∧ c.toNat ≤ 57 := by
    simpa [Char.isDigit, UInt32.le_iff_toNat_le] using h
  have hnat : (UInt8.ofNat c.toNat).toNat = c.toNat := by
    rw [UInt8.toNat_ofNat', Nat.mod_eq_of_lt]
    omega
  unfold digit?
  rw [if_pos, hnat]
  . rfl
  . rw [UInt8.le_iff_toNat_le, UInt8.le_iff_toNat_le, hnat]
    exact hrange

theorem digits?_ofChars {cs : List Char} {n : Nat} (h : ∀ c ∈ cs, c.isDigit)
    : digits? n (ofChars cs) = some (Nat.ofDigitChars 10 cs n) := by
  induction cs generalizing n with
  | nil => rfl
  | cons c cs ih =>
    rw [List.forall_mem_cons] at h
    rw [Nat.ofDigitChars_cons, ← ih h.2, ofChars, List.map_cons, digits?, digit?_ofNat h.1]
    rfl

theorem ofNat_ne_nil {n : Nat} : ofNat n ≠ [] := by
  unfold ofNat ofChars
  simp

theorem read?_ofNat {n : Nat} : read? (ofNat n) = some n := by
  have hdigits : ∀ c ∈ Nat.toDigits 10 n, c.isDigit := by
    intro c hc
    apply Nat.isDigit_of_mem_toDigits _ _ hc
    . decide
    . decide
  rw [read?, if_neg ofNat_ne_nil, ofNat, digits?_ofChars hdigits, Nat.ofDigitChars_ten_toDigits]

theorem digit_of_mem_ofNat {n : Nat} {b : UInt8} (h : b ∈ ofNat n) : 48 ≤ b ∧ b ≤ 57 := by
  rcases List.mem_map.mp h with ⟨c, hc, rfl⟩
  have hdigit := Nat.isDigit_of_mem_toDigits (by decide) (by decide) hc
  have hsome := digit?_ofNat hdigit
  unfold digit? at hsome
  split at hsome
  . assumption
  . contradiction

theorem length_ofNat_le {n k : Nat} (hk : 0 < k) (h : n < 10 ^ k) : (ofNat n).length ≤ k := by
  rw [ofNat, ofChars, List.length_map]
  apply (Nat.length_toDigits_le_iff _ hk).mpr h
  decide

end Decimal
end Fsw

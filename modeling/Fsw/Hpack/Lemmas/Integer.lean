import Mathlib.Data.Nat.Bitwise
import Fsw.Hpack.Impl.Integer

namespace Fsw
namespace Hpack

theorem length_encodeContinuation (n : Nat)
    : (encodeContinuation n).length = continuationLength n := by
  induction n using encodeContinuation.induct with
  | case1 n hn ih =>
    rw [encodeContinuation, if_pos hn, continuationLength, if_pos hn,
      List.length_cons, ih, Nat.add_comm]
  | case2 n hn =>
    rw [encodeContinuation, if_neg hn, continuationLength, if_neg hn, List.length_singleton]

theorem length_encodeLength (first : UInt8) (n pfx : Nat)
    : (encodeLength first n pfx).length = countEncodedLength n pfx := by
  unfold encodeLength countEncodedLength
  dsimp only
  split
  . rfl
  . rw [List.length_cons, length_encodeContinuation, Nat.add_comm]

theorem continuationLength_le {n k : Nat} (h : n < 128 ^ (k + 1))
    : continuationLength n ≤ k + 1 := by
  induction k generalizing n with
  | zero =>
    rw [continuationLength, if_neg (by omega)]
  | succ k ih =>
    rw [continuationLength]
    split
    . have hdiv : n / 128 < 128 ^ (k + 1) := by
        rw [Nat.div_lt_iff_lt_mul (by omega)]
        rw [Nat.pow_succ] at h
        exact h
      have := ih hdiv
      omega
    . omega

theorem countEncodedLength_le {n pfx k : Nat} (h : n < 128 ^ (k + 1))
    : countEncodedLength n pfx ≤ k + 2 := by
  unfold countEncodedLength
  dsimp only
  split
  . omega
  . have := continuationLength_le (n := n - (2 ^ pfx - 1)) (k := k) (by omega)
    omega

section Continuation

variable {wide : WideShift} {n : BitVec 32} {shift read : Nat} {bs : Bytes} {d : Decoded}

theorem toNat_and_0x7f (b : UInt8) : ((b &&& 0x7f).toBitVec.setWidth 32).toNat = b.toNat % 128 := by
  have hmask : b.toNat &&& 127 = b.toNat % 128 := Nat.and_two_pow_sub_one_eq_mod b.toNat 7
  have hlt := b.toNat_lt
  rw [BitVec.toNat_setWidth, UInt8.toBitVec_and, BitVec.toNat_and]
  change (b.toNat &&& 127) % 2 ^ 32 = _
  rw [hmask]
  omega

theorem and_0x80_eq_zero_iff (b : UInt8) : b &&& 0x80 = 0 ↔ b.toNat < 128 := by
  have hlt := b.toNat_lt
  have hbit : b.toNat &&& 128 = (b.toNat.testBit 7).toNat * 2 ^ 7 := Nat.and_two_pow b.toNat 7
  rw [← UInt8.toNat_inj, UInt8.toNat_and]
  change b.toNat &&& 128 = 0 ↔ _
  rw [hbit, Nat.toNat_testBit]
  omega

-- Where the shift is defined, the two checks are one: the sum is a `uint32_t`.
theorem decodeContinuation_cons {b : UInt8} (hshift : shift < 32)
    : decodeContinuation wide n shift read (b :: bs)
        = if 2 ^ 32 ≤ n.toNat + b.toNat % 128 * 2 ^ shift then
            none
          else if b.toNat < 128 then
            some ⟨.ofNat 32 (n.toNat + b.toNat % 128 * 2 ^ shift), shift, true, read + 1⟩
          else
            decodeContinuation wide (.ofNat 32 (n.toNat + b.toNat % 128 * 2 ^ shift)) (shift + 7)
              (read + 1) bs := by
  have hpos : 0 < 2 ^ shift := Nat.two_pow_pos shift
  have hn := n.isLt
  generalize hadd : b.toNat % 128 = a
  have hright : wide.shiftRight UINT32_MAX shift < (b &&& 0x7f).toBitVec.setWidth 32
    ↔ 2 ^ 32 ≤ a * 2 ^ shift := by
    rw [WideShift.shiftRight, if_pos hshift, BitVec.lt_def, toNat_and_0x7f,
      hadd, BitVec.toNat_ushiftRight, Nat.shiftRight_eq_div_pow, Nat.div_lt_iff_lt_mul hpos]
    change 2 ^ 32 - 1 < _ ↔ _
    omega
  rw [decodeContinuation]
  dsimp only
  by_cases hlarge : 2 ^ 32 ≤ a * 2 ^ shift
  . rw [if_pos (hright.mpr hlarge), if_pos (by omega)]
  . have hleft : (wide.shiftLeft ((b &&& 0x7f).toBitVec.setWidth 32) shift).toNat
      = a * 2 ^ shift := by
      rw [WideShift.shiftLeft, if_pos hshift, BitVec.toNat_shiftLeft, toNat_and_0x7f,
        hadd, Nat.shiftLeft_eq, Nat.mod_eq_of_lt (by omega)]
    generalize wide.shiftLeft ((b &&& 0x7f).toBitVec.setWidth 32) shift = add at hleft
    have hsub : UINT32_MAX - add < n ↔ 2 ^ 32 ≤ n.toNat + a * 2 ^ shift := by
      rw [BitVec.lt_def, BitVec.toNat_sub_of_le]
      . rw [hleft]
        change 2 ^ 32 - 1 - _ < _ ↔ _
        omega
      . rw [BitVec.le_def, hleft]
        change _ ≤ 2 ^ 32 - 1
        omega
    rw [if_neg (by rw [hright]; exact hlarge)]
    by_cases hsum : 2 ^ 32 ≤ n.toNat + a * 2 ^ shift
    . rw [if_pos (hsub.mpr hsum), if_pos hsum]
    . have hadd : n + add = .ofNat 32 (n.toNat + a * 2 ^ shift) := by
        rw [← BitVec.toNat_inj, BitVec.toNat_add, BitVec.toNat_ofNat, hleft]
      rw [if_neg (by rw [hsub]; exact hsum), if_neg hsum, hadd]
      simp only [and_0x80_eq_zero_iff]

theorem decodeContinuation_read (h : decodeContinuation wide n shift read bs = some d)
    : d.read ≤ read + bs.length ∧ (d.fin = true → read < d.read)
        ∧ (d.fin = false → d.read = read + bs.length) := by
  induction bs generalizing n shift read with
  | nil =>
    rw [decodeContinuation, Option.some.injEq] at h
    rw [← h]
    simp
  | cons b bs ih =>
    rw [decodeContinuation] at h
    dsimp only at h
    split at h
    . cases h
    . split at h
      . cases h
      . split at h
        . injection h with h
          rw [← h, List.length_cons]
          dsimp only
          refine ⟨by omega, fun _ => by omega, by simp⟩
        . obtain ⟨hle, hpos, heq⟩ := ih h
          rw [List.length_cons]
          refine ⟨by omega, fun hfin => ?_, fun hfin => ?_⟩
          . have := hpos hfin
            omega
          . have := heq hfin
            omega

theorem decodeContinuation_add (m : Nat)
    : decodeContinuation wide n shift (read + m) bs
        = (decodeContinuation wide n shift read bs).map fun d => { d with read := d.read + m } := by
  induction bs generalizing n shift read with
  | nil => rfl
  | cons b bs ih =>
    rw [decodeContinuation, decodeContinuation]
    dsimp only
    split
    . rfl
    . split
      . rfl
      . split
        . rw [Option.map_some, Nat.add_right_comm]
        . rw [Nat.add_right_comm, ih]

theorem decodeContinuation_append (bs' : Bytes)
    : decodeContinuation wide n shift read (bs ++ bs')
        = match decodeContinuation wide n shift read bs with
          | none => none
          | some d =>
            if d.fin then some d else decodeContinuation wide d.res d.shift d.read bs' := by
  induction bs generalizing n shift read with
  | nil => rfl
  | cons b bs ih =>
    rw [List.cons_append, decodeContinuation, decodeContinuation]
    dsimp only
    split
    . rfl
    . split
      . rfl
      . split
        . rfl
        . exact ih

theorem decodeContinuation_encode {m : Nat} (hshift : shift < 32)
    (h : n.toNat + m * 2 ^ shift < 2 ^ 32) (rest : Bytes)
    : ∃ shift', decodeContinuation wide n shift read (encodeContinuation m ++ rest)
        = some ⟨.ofNat 32 (n.toNat + m * 2 ^ shift), shift', true,
          read + continuationLength m⟩ := by
  induction m using encodeContinuation.induct generalizing n shift read with
  | case1 m hm ih =>
    have hsplit : m = m % 128 + 128 * (m / 128) := by omega
    have hbyte : (UInt8.ofNat (2 ^ 7 ||| (m &&& 0x7f))).toNat = 128 + m % 128 := by
      have hand : m &&& 0x7f = m % 128 := Nat.and_two_pow_sub_one_eq_mod m 7
      have hor : 2 ^ 7 ||| m % 128 = 2 ^ 7 * 1 + m % 128 :=
        (Nat.two_pow_add_eq_or_of_lt (i := 7) (by omega) 1).symm
      rw [hand, hor, UInt8.toNat_ofNat']
      omega
    have hpow : 2 ^ (shift + 7) = 128 * 2 ^ shift := by rw [Nat.pow_add, Nat.mul_comm]
    have hmul : m * 2 ^ shift = m % 128 * 2 ^ shift + m / 128 * 2 ^ (shift + 7) := by
      rw [hpow, ← Nat.mul_assoc, Nat.mul_comm (m / 128), ← Nat.add_mul, ← hsplit]
    have hone : 1 * 2 ^ (shift + 7) ≤ m / 128 * 2 ^ (shift + 7) := Nat.mul_le_mul_right _ (by omega)
    have hshift' : shift + 7 < 32 := by
      by_contra hge
      have : 2 ^ 32 ≤ 2 ^ (shift + 7) := Nat.pow_le_pow_right (by omega) (by omega)
      omega
    have hnext : (BitVec.ofNat 32 (n.toNat + m % 128 * 2 ^ shift)).toNat
      = n.toNat + m % 128 * 2 ^ shift := by
      rw [BitVec.toNat_ofNat]
      omega
    obtain ⟨shift', ih⟩ :=
      @ih (.ofNat 32 (n.toNat + m % 128 * 2 ^ shift)) (shift + 7) (read + 1) hshift'
      (by rw [hnext]; omega)
    refine ⟨shift', ?_⟩
    rw [encodeContinuation, if_pos hm, List.cons_append, decodeContinuation_cons hshift, hbyte,
      show (128 + m % 128) % 128 = m % 128 by
        omega, if_neg (by omega), if_neg (by omega), ih, hnext,
      continuationLength.eq_1 m, if_pos hm]
    congr 2
    . rw [hmul, Nat.add_assoc]
    . omega
  | case2 m hm =>
    have hbyte : (UInt8.ofNat m).toNat = m := by
      rw [UInt8.toNat_ofNat']
      omega
    refine ⟨shift, ?_⟩
    rw [encodeContinuation, if_neg hm, List.singleton_append, decodeContinuation_cons hshift, hbyte,
      Nat.mod_eq_of_lt (by omega), if_neg (by omega), if_pos (by omega),
      continuationLength, if_neg hm]

theorem le_of_decodeContinuation (h : decodeContinuation wide n shift read bs = some d)
    : n.toNat ≤ d.res.toNat := by
  induction bs generalizing n shift read with
  | nil =>
    rw [decodeContinuation, Option.some.injEq] at h
    rw [← h]
  | cons b bs ih =>
    rw [decodeContinuation] at h
    dsimp only at h
    split at h
    . cases h
    . split at h
      . cases h
      . next hsub =>
        generalize wide.shiftLeft ((b &&& 0x7f).toBitVec.setWidth 32) shift = add at h hsub
        have hle : n.toNat ≤ (n + add).toNat := by
          have hmax : UINT32_MAX.toNat = 2 ^ 32 - 1 := rfl
          have hn := n.isLt
          have ha := add.isLt
          rw [BitVec.lt_def, BitVec.toNat_sub_of_le (by rw [BitVec.le_def]; omega)] at hsub
          rw [BitVec.toNat_add]
          omega
        split at h
        . injection h with h
          rw [← h]
          exact hle
        . exact Nat.le_trans hle (ih h)

end Continuation

section Length

variable {wide : WideShift} {initial : BitVec 32} {shift pfx : Nat} {b b' : UInt8}
  {bs bs' : Bytes} {d : Decoded}

theorem toNat_and_pfx (hpfx : pfx < 32)
    : (b.toBitVec.setWidth 32 &&& .ofNat 32 (2 ^ pfx - 1)).toNat = b.toNat % 2 ^ pfx := by
  have hb := b.toNat_lt
  have hlt : 2 ^ pfx - 1 < 2 ^ 32 := by
    have : 2 ^ pfx < 2 ^ 32 := Nat.pow_lt_pow_right (by omega) hpfx
    omega
  rw [BitVec.toNat_and, BitVec.toNat_setWidth, BitVec.toNat_ofNat, Nat.mod_eq_of_lt hlt,
    Nat.and_two_pow_sub_one_eq_mod]
  change b.toNat % 2 ^ 32 % _ = _
  rw [Nat.mod_eq_of_lt (a := b.toNat) (by omega)]

theorem toNat_pfx (hpfx : pfx < 32) : (BitVec.ofNat 32 (2 ^ pfx - 1)).toNat = 2 ^ pfx - 1 := by
  have : 2 ^ pfx < 2 ^ 32 := Nat.pow_lt_pow_right (by omega) hpfx
  rw [BitVec.toNat_ofNat, Nat.mod_eq_of_lt (by omega)]

theorem toNat_pfx_pos (hpos : 0 < pfx) (hpfx : pfx < 32)
    : 0 < (BitVec.ofNat 32 (2 ^ pfx - 1)).toNat := by
  have : 2 ^ 1 ≤ 2 ^ pfx := Nat.pow_le_pow_right (by omega) hpos
  rw [toNat_pfx hpfx]
  omega

theorem ne_zero_of_toNat_pos {n : BitVec 32} (h : 0 < n.toNat) : n ≠ 0 := by
  intro hn
  rw [hn] at h
  exact absurd h (Nat.lt_irrefl 0)

theorem decodeLength_zero (hpfx : pfx < 32)
    : decodeLength wide 0 0 b bs pfx
        = if b.toNat % 2 ^ pfx ≠ 2 ^ pfx - 1 then
            some ⟨.ofNat 32 (b.toNat % 2 ^ pfx), 0, true, 1⟩
          else
            decodeContinuation wide (.ofNat 32 (2 ^ pfx - 1)) 0 1 bs := by
  have hfirst : b.toBitVec.setWidth 32 &&& .ofNat 32 (2 ^ pfx - 1)
    = .ofNat 32 (b.toNat % 2 ^ pfx) := by
    rw [← toNat_and_pfx hpfx, BitVec.ofNat_toNat, BitVec.setWidth_eq]
  have hne : b.toBitVec.setWidth 32 &&& .ofNat 32 (2 ^ pfx - 1) ≠ .ofNat 32 (2 ^ pfx - 1)
      ↔ b.toNat % 2 ^ pfx ≠ 2 ^ pfx - 1 := by
    rw [Ne, ← BitVec.toNat_inj, toNat_and_pfx hpfx, toNat_pfx hpfx]
  rw [decodeLength, if_pos rfl]
  by_cases h : b.toNat % 2 ^ pfx ≠ 2 ^ pfx - 1
  . rw [if_pos (hne.mpr h), if_pos h, hfirst]
  . rw [if_neg (mt hne.mp h), if_neg h]
    split
    . next hbs => rw [hbs, decodeContinuation]
    . rfl

theorem decodeLength_of_pos (h : 0 < initial.toNat)
    : decodeLength wide initial shift b bs pfx
        = decodeContinuation wide initial shift 0 (b :: bs) := by
  rw [decodeLength]
  exact if_neg (ne_zero_of_toNat_pos h)

theorem decodeLength_cases (wide : WideShift) (b : UInt8) (hpos : 0 < pfx) (hpfx : pfx < 32)
    (hshift : initial = 0 → shift = 0)
    : (∃ n, ∀ bs, decodeLength wide initial shift b bs pfx = some ⟨n, 0, true, 1⟩)
      ∨ ∃ n read front, 0 < n.toNat ∧ read + front.length = 1
          ∧ ∀ bs, decodeLength wide initial shift b bs pfx
            = decodeContinuation wide n shift read (front ++ bs) := by
  by_cases hinitial : initial = 0
  . rw [hinitial, hshift hinitial]
    by_cases h : b.toNat % 2 ^ pfx ≠ 2 ^ pfx - 1
    . refine .inl ⟨.ofNat 32 (b.toNat % 2 ^ pfx), fun bs => ?_⟩
      rw [decodeLength_zero hpfx, if_pos h]
    . refine .inr ⟨_, 1, [], toNat_pfx_pos hpos hpfx, rfl, fun bs => ?_⟩
      rw [decodeLength_zero hpfx, if_neg h, List.nil_append]
  . have hpos : 0 < initial.toNat := by
      rw [← BitVec.toNat_inj] at hinitial
      exact Nat.pos_of_ne_zero hinitial
    exact .inr ⟨initial, 0, [b], hpos, rfl, fun bs => decodeLength_of_pos hpos⟩

theorem decodeLength_read (hpos : 0 < pfx) (hpfx : pfx < 32) (hshift : initial = 0 → shift = 0)
    (h : decodeLength wide initial shift b bs pfx = some d)
    : 0 < d.read ∧ d.read ≤ bs.length + 1
        ∧ (d.fin = false → d.read = bs.length + 1 ∧ 0 < d.res.toNat) := by
  rcases decodeLength_cases wide b hpos hpfx hshift with
    ⟨n, hone⟩ | ⟨n, read, front, hn, hread, hmore⟩
  . rw [hone, Option.some.injEq] at h
    rw [← h]
    simp
  . rw [hmore] at h
    obtain ⟨hle, hfin, hnot⟩ := decodeContinuation_read h
    have hres := le_of_decodeContinuation h
    rw [List.length_append] at hle hnot
    refine ⟨?_, by omega, fun hf => ⟨by have := hnot hf; omega, by omega⟩⟩
    cases hf : d.fin with
    | false =>
      have := hnot hf
      omega
    | true =>
      have := hfin hf
      omega

theorem decodeLength_append (hpos : 0 < pfx) (hpfx : pfx < 32) (hshift : initial = 0 → shift = 0)
    : decodeLength wide initial shift b (bs ++ b' :: bs') pfx
        = match decodeLength wide initial shift b bs pfx with
          | none => none
          | some d =>
            if d.fin then
              some d
            else
              (decodeLength wide d.res d.shift b' bs' pfx).map fun d' =>
              { d' with read := d'.read + d.read } := by
  rcases decodeLength_cases wide b hpos hpfx hshift with
    ⟨n, hone⟩ | ⟨n, read, front, hn, hread, hmore⟩
  . rw [hone, hone]
    rfl
  . rw [hmore, hmore, ← List.append_assoc, decodeContinuation_append]
    cases hd : decodeContinuation wide n shift read (front ++ bs) with
    | none => rfl
    | some d =>
      have hres := le_of_decodeContinuation hd
      dsimp only
      split
      . rfl
      . rw [decodeLength_of_pos (by omega), ← decodeContinuation_add, Nat.zero_add]

theorem toNat_first {first : UInt8} {m : Nat} (hpfx : pfx ≤ 8) (hm : m < 2 ^ pfx)
    : (first &&& ~~~UInt8.ofNat (2 ^ pfx - 1) ||| UInt8.ofNat m).toNat % 2 ^ pfx = m := by
  have hdvd : 2 ^ 8 = 2 ^ pfx * 2 ^ (8 - pfx) := by rw [← Nat.pow_add, Nat.add_sub_cancel' hpfx]
  have hle : 2 ^ pfx ≤ 2 ^ 8 := Nat.pow_le_pow_right (by omega) hpfx
  have hpos : 0 < 2 ^ pfx := Nat.two_pow_pos pfx
  have hnot : (~~~UInt8.ofNat (2 ^ pfx - 1)).toNat % 2 ^ pfx = 0 := by
    rw [UInt8.toNat_not, UInt8.toNat_ofNat', Nat.mod_eq_of_lt (a := 2 ^ pfx - 1) (by omega)]
    change (2 ^ 8 - 1 - (2 ^ pfx - 1)) % 2 ^ pfx = 0
    rw [show 2 ^ 8 - 1 - (2 ^ pfx - 1) = 2 ^ 8 - 2 ^ pfx * 1 by omega, hdvd,
      ← Nat.mul_sub, Nat.mul_mod_right]
  rw [UInt8.toNat_or, UInt8.toNat_and, Nat.or_mod_two_pow, Nat.and_mod_two_pow,
    hnot, Nat.and_zero, Nat.zero_or,
    UInt8.toNat_ofNat', Nat.mod_mod_of_dvd _ ⟨_, hdvd⟩, Nat.mod_eq_of_lt hm]

theorem encodeLength_eq_cons (first : UInt8) (n pfx : Nat)
    : ∃ b bs, encodeLength first n pfx = b :: bs := by
  unfold encodeLength
  dsimp only
  split
  . exact ⟨_, _, rfl⟩
  . exact ⟨_, _, rfl⟩

theorem decodeLength_encode {first : UInt8} {n : Nat} {rest : Bytes}
    (hpos : 0 < pfx) (hpfx : pfx ≤ 8) (hn : n < 2 ^ 32)
    (h : encodeLength first n pfx ++ rest = b :: bs)
    : ∃ shift', decodeLength wide 0 0 b bs pfx
        = some ⟨.ofNat 32 n, shift', true, countEncodedLength n pfx⟩ := by
  have hk : 0 < 2 ^ pfx := Nat.two_pow_pos pfx
  rw [decodeLength_zero (by omega)]
  unfold encodeLength at h
  unfold countEncodedLength
  dsimp only at h ⊢
  split at h
  . next hlt =>
    rw [List.singleton_append, List.cons.injEq] at h
    refine ⟨0, ?_⟩
    rw [← h.1, toNat_first hpfx (by omega), if_pos (by omega), if_pos hlt]
  . next hge =>
    rw [List.cons_append, List.cons.injEq] at h
    have hk' : (BitVec.ofNat 32 (2 ^ pfx - 1)).toNat = 2 ^ pfx - 1 := toNat_pfx (by omega)
    obtain ⟨shift', hdecode⟩ : ∃ shift', decodeContinuation wide (.ofNat 32 (2 ^ pfx - 1)) 0 1
        (encodeContinuation (n - (2 ^ pfx - 1)) ++ rest) = _ :=
          decodeContinuation_encode (by omega) (by omega) rest
    refine ⟨shift', ?_⟩
    rw [← h.1, toNat_first hpfx (by omega), if_neg (by simp), if_neg hge, ← h.2, hdecode, hk',
      Nat.pow_zero, Nat.mul_one, Nat.add_sub_cancel' (by omega)]

end Length

end Hpack
end Fsw

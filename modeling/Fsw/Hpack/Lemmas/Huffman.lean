import Mathlib.Tactic.IntervalCases
import Fsw.Hpack.Lemmas.Bufs
import Fsw.Hpack.Lemmas.HuffmanCode

namespace Fsw
namespace Hpack

open Bufs (filled)

def bytesOf : Nat → Nat → Bytes
  | 0, _ => []
  | n + 1, c => .ofNat (c >>> (8 * n)) :: bytesOf n c

theorem length_bytesOf (n c : Nat) : (bytesOf n c).length = n := by
  induction n with
  | zero => rfl
  | succ n ih => rw [bytesOf, List.length_cons, ih]

theorem ofBytes_bytesOf (n c : Nat) : Bits.ofBytes (bytesOf n c) = Bits.ofNat (8 * n) c := by
  induction n with
  | zero => rfl
  | succ n ih =>
    rw [bytesOf, Bits.ofBytes_cons, ih, UInt8.toNat_ofNat', Bits.ofNat_mod (Nat.le_refl 8),
      Nat.shiftRight_eq_div_pow, Nat.mul_succ, Nat.add_comm, Bits.ofNat_add]

theorem shiftRight_div (c n : Nat) : (c / 256) >>> n = c >>> (n + 8) := by
  rw [Nat.shiftRight_eq_div_pow, Nat.shiftRight_eq_div_pow, Nat.pow_add,
    Nat.div_div_eq_div_mul, Nat.mul_comm]

theorem bytesOf_succ (n c : Nat) : bytesOf (n + 1) c = bytesOf n (c / 256) ++ [.ofNat c] := by
  induction n with
  | zero => rfl
  | succ n ih => rw [bytesOf, ih, bytesOf, shiftRight_div, List.cons_append, Nat.mul_succ]

section Bytes

variable {addb addbHold : Bufs → UInt8 → Except Error Bufs} {code nbits : Nat} {front tail : Bytes}

structure Adds (addb addbHold : Bufs → UInt8 → Except Error Bufs) : Prop where
  addb : ∀ front held tail b, addb (filled front (held :: tail)) b
    = .ok (filled (front ++ [b]) tail)
  addbHold : ∀ front held tail b, addbHold (filled front (held :: tail)) b
    = .ok (filled front (b :: tail))

theorem adds_slow : Adds Bufs.addb Bufs.addbHold where
  addb := fun _ _ _ _ => Bufs.addb_filled
  addbHold := fun _ _ _ _ => Bufs.addbHold_filled

theorem adds_fast : Adds Bufs.fastAddb Bufs.fastAddbHold where
  addb := fun _ _ _ _ => Bufs.fastAddb_filled
  addbHold := fun _ _ _ _ => Bufs.fastAddbHold_filled

def huffEncodeHighs (addb : Bufs → UInt8 → Except Error Bufs) (code : Nat)
    : Nat → Bufs → Nat → Except Error (Bufs × Nat)
  | 0, bufs, nbits => .ok (bufs, nbits)
  | i + 1, bufs, nbits => do
    let (bufs, nbits) ← huffEncodeHigh addb code (8 * (i + 1)) bufs nbits
    huffEncodeHighs addb code i bufs nbits

theorem huffEncodeBytes_eq {bufs : Bufs}
    : huffEncodeBytes addb addbHold code bufs nbits = (do
        let (bufs, nbits) ← huffEncodeHighs addb code 3 bufs nbits
        if nbits = 8 then
          let bufs ← addb bufs (.ofNat code)
          return ⟨bufs, bufs.curAvail, 8⟩
        else
          let bufs ← addbHold bufs (.ofNat code)
          return ⟨bufs, bufs.curAvail, 8 - nbits⟩) := by
  simp only [huffEncodeBytes, huffEncodeHighs, bind_assoc]
  rfl

theorem huffEncodeHigh_le {shift : Nat} {bufs : Bufs} (h : nbits ≤ shift)
    : huffEncodeHigh addb code shift bufs nbits = .ok (bufs, nbits) := by
  rw [huffEncodeHigh, if_neg (by omega)]
  rfl

theorem Adds.huffEncodeHighs {i : Nat} (hadds : Adds addb addbHold) (hpos : 0 < nbits)
    (hle : nbits ≤ 8 * (i + 1)) (hroom : (nbits - 1) / 8 ≤ tail.length)
    : huffEncodeHighs addb code i (filled front tail) nbits
        = .ok
          (filled (front ++ bytesOf ((nbits - 1) / 8) (code / 256)) (tail.drop ((nbits - 1) / 8)),
            nbits - 8 * ((nbits - 1) / 8)) := by
  induction i generalizing front tail nbits with
  | zero =>
    rw [show (nbits - 1) / 8 = 0 by omega, bytesOf, List.append_nil]
    rfl
  | succ i ih =>
    rw [Hpack.huffEncodeHighs]
    by_cases h : nbits ≤ 8 * (i + 1)
    . rw [huffEncodeHigh_le h]
      exact ih hpos h hroom
    . obtain ⟨held, rest, rfl⟩ := List.exists_cons_of_length_pos (l := tail) (by omega)
      have hbytes : (nbits - 1) / 8 = i + 1 := by omega
      have hbytes' : (nbits - 8 - 1) / 8 = i := by omega
      rw [List.length_cons] at hroom
      rw [huffEncodeHigh, if_pos (by omega), hadds.addb]
      have := @ih (nbits - 8) (front ++ [.ofNat (code >>> (8 * (i + 1)))]) rest
        (by omega) (by omega) (by omega)
      rw [hbytes'] at this
      rw [hbytes, bytesOf, shiftRight_div, ← Nat.mul_succ, List.drop_succ_cons]
      refine Eq.trans this ?_
      rw [List.append_assoc, List.singleton_append]
      congr 2
      omega

theorem Adds.huffEncodeBytes (hadds : Adds addb addbHold) (hpos : 0 < nbits) (hle : nbits ≤ 32)
    (hroom : (nbits - 1) / 8 < tail.length)
    : huffEncodeBytes addb addbHold code (filled front tail) nbits
        = if nbits % 8 = 0 then
            .ok ⟨filled (front ++ bytesOf (nbits / 8) code) (tail.drop (nbits / 8)),
              tail.length - nbits / 8, 8⟩
          else
            .ok ⟨filled (front ++ bytesOf (nbits / 8) (code / 256))
              (.ofNat code :: tail.drop (nbits / 8 + 1)),
              tail.length - nbits / 8, 8 - nbits % 8⟩ := by
  obtain ⟨held, rest, hdrop⟩ : ∃ held rest, tail.drop ((nbits - 1) / 8) = held :: rest := by
    apply List.exists_cons_of_length_pos
    rw [List.length_drop]
    omega
  have hrest : tail.drop ((nbits - 1) / 8 + 1) = rest := by
    rw [← List.drop_drop, hdrop, List.drop_succ_cons, List.drop_zero]
  rw [huffEncodeBytes_eq, hadds.huffEncodeHighs hpos hle (by omega), hdrop]
  change (if _ then _ else _) = _
  split
  . next h =>
    have hsucc : nbits / 8 = (nbits - 1) / 8 + 1 := by omega
    rw [hadds.addb, if_pos (by omega)]
    change Except.ok _ = _
    rw [Bufs.curAvail_filled, ← hrest, List.length_drop, hsucc, bytesOf_succ, List.append_assoc]
  . next h =>
    have heq : (nbits - 1) / 8 = nbits / 8 := by omega
    rw [hadds.addbHold, if_neg (by omega)]
    change Except.ok _ = _
    rw [Bufs.curAvail_filled, List.length_cons, ← hrest, List.length_drop, heq]
    congr 2
    . omega
    . omega

theorem huffEncodeHighs_full {i : Nat} (hpos : 0 < nbits) (hle : nbits ≤ 8 * (i + 1))
    (hroom : tail.length < (nbits - 1) / 8)
    : huffEncodeHighs Bufs.addb code i (filled front tail) nbits = .error .bufferError := by
  induction i generalizing front tail nbits with
  | zero => omega
  | succ i ih =>
    rw [huffEncodeHighs]
    by_cases h : nbits ≤ 8 * (i + 1)
    . rw [huffEncodeHigh_le h]
      exact ih hpos h hroom
    . rw [huffEncodeHigh, if_pos (by omega)]
      cases tail with
      | nil =>
        rw [Bufs.addb_nil]
        rfl
      | cons held rest =>
        rw [List.length_cons] at hroom
        rw [Bufs.addb_filled]
        exact ih (by omega) (by omega) (by omega)

theorem huffEncodeBytes_full (hpos : 0 < nbits) (hle : nbits ≤ 32)
    (hroom : tail.length ≤ (nbits - 1) / 8)
    : huffEncodeBytes Bufs.addb Bufs.addbHold code (filled front tail) nbits
        = .error .bufferError := by
  rw [huffEncodeBytes_eq]
  by_cases h : tail.length < (nbits - 1) / 8
  . rw [huffEncodeHighs_full hpos hle h]
    rfl
  . have hdrop : tail.drop ((nbits - 1) / 8) = [] := List.drop_eq_nil_of_le (by omega)
    rw [adds_slow.huffEncodeHighs hpos hle (by omega), hdrop]
    change (if _ then _ else _) = _
    rw [Bufs.addb_nil, Bufs.addbHold_nil]
    split
    . rfl
    . rfl

end Bytes

theorem or_held {r q x : Nat} (hr : r ≤ 8) (hq : q < 2 ^ (8 - r)) (hx : x < 2 ^ r)
    : UInt8.ofNat (q * 2 ^ r) ||| UInt8.ofNat x = UInt8.ofNat (q * 2 ^ r + x)
      ∧ (UInt8.ofNat (q * 2 ^ r + x)).toNat = q * 2 ^ r + x := by
  have hpow : 2 ^ 8 = 2 ^ (8 - r) * 2 ^ r := by rw [← Nat.pow_add, Nat.sub_add_cancel hr]
  have hlt : q * 2 ^ r + x < 2 ^ 8 := by
    have : (q + 1) * 2 ^ r ≤ 2 ^ (8 - r) * 2 ^ r := Nat.mul_le_mul_right _ hq
    rw [Nat.succ_mul] at this
    omega
  have hnat : (UInt8.ofNat (q * 2 ^ r + x)).toNat = q * 2 ^ r + x := by
    rw [UInt8.toNat_ofNat', Nat.mod_eq_of_lt hlt]
  refine ⟨?_, hnat⟩
  rw [← UInt8.toNat_inj, hnat, UInt8.toNat_or, UInt8.toNat_ofNat', UInt8.toNat_ofNat',
    Nat.mod_eq_of_lt (by omega),
    Nat.mod_eq_of_lt (by omega), Nat.mul_comm, Nat.two_pow_add_eq_or_of_lt hx]

/--
`bits` have been written to `size` bytes, the last of them into a byte that has room for `rembits`
more.
-/
inductive Filling (size : Nat) (bits : List Bool) : HuffOut → Prop where
  | full {front tail : Bytes} (hsize : front.length + tail.length = size)
      (hbits : bits = Bits.ofBytes front)
      : Filling size bits ⟨filled front tail, tail.length, 8⟩
  | part {front tail : Bytes} {q r : Nat} (hpos : 0 < r) (hr : r < 8) (hq : q < 2 ^ (8 - r))
      (hsize : front.length + (tail.length + 1) = size)
      (hbits : bits = Bits.ofBytes front ++ Bits.ofNat (8 - r) q)
      : Filling size bits ⟨filled front (.ofNat (q * 2 ^ r) :: tail), tail.length + 1, r⟩

inductive Opened (size : Nat) (bits : List Bool) : HuffOut → Prop where
  | mk {front tail : Bytes} {q r : Nat} (hpos : 0 < r) (hr : r ≤ 8) (hq : q < 2 ^ (8 - r))
      (hsize : front.length + (tail.length + 1) = size)
      (hbits : bits = Bits.ofBytes front ++ Bits.ofNat (8 - r) q)
      : Opened size bits ⟨filled front (.ofNat (q * 2 ^ r) :: tail), tail.length + 1, r⟩

variable {size : Nat} {bits : List Bool} {out : HuffOut}

theorem Filling.huffEncodeOpen (h : Filling size bits out)
    : (bits.length = 8 * size ∧ huffEncodeOpen out = .error .bufferError)
      ∨ ∃ out', huffEncodeOpen out = .ok out' ∧ Opened size bits out' := by
  cases h with
  | @full front tail hsize hbits =>
    rw [Hpack.huffEncodeOpen, if_pos rfl]
    cases tail with
    | nil =>
      refine .inl ⟨?_, ?_⟩
      . rw [hbits, Bits.length_ofBytes, ← hsize]
        rfl
      . dsimp only
        rw [if_neg (by simp), Bufs.addbHold_nil]
        rfl
    | cons held tail =>
      refine .inr ⟨_, ?_, .mk (q := 0) (r := 8) (by omega) (by omega) (by omega) hsize ?_⟩
      . dsimp only
        rw [if_pos (by simp), Bufs.fastAddbHold_filled]
        rfl
      . rw [hbits]
        exact (List.append_nil _).symm
  | part hpos hr hq hsize hbits =>
    rw [Hpack.huffEncodeOpen, if_neg (Nat.ne_of_lt hr)]
    exact .inr ⟨_, rfl, .mk hpos (Nat.le_of_lt hr) hq hsize hbits⟩

theorem length_of_opened {front : Bytes} {q r : Nat} (hr : r ≤ 8)
    (hbits : bits = Bits.ofBytes front ++ Bits.ofNat (8 - r) q)
    : bits.length + r = 8 * (front.length + 1) := by
  rw [hbits, List.length_append, Bits.length_ofBytes, Bits.length_ofNat]
  omega

theorem lowBits_eq {m code : Nat} (h : m % 8 ≠ 0) (hm : m ≤ 32)
    : Bits.ofNat (8 * (m / 8)) (code <<< (8 - m % 8) % 2 ^ 32 / 256)
        ++ Bits.ofNat (m % 8) (code % 2 ^ (m % 8))
        = Bits.ofNat m code := by
  have hhigh : Bits.ofNat (8 * (m / 8)) (code <<< (8 - m % 8) % 2 ^ 32 / 256)
      = Bits.ofNat (8 * (m / 8)) (code / 2 ^ (m % 8)) := by
    apply Bits.ofNat_congr
    intro i hi
    change ((code <<< (8 - m % 8) % 2 ^ 32) / 2 ^ 8).testBit i = _
    rw [Nat.testBit_div_two_pow, Nat.testBit_mod_two_pow, decide_eq_true (by omega), Bool.true_and,
      Nat.testBit_shiftLeft, decide_eq_true (by omega), Bool.true_and, Nat.testBit_div_two_pow]
    congr 1
    omega
  rw [hhigh, Bits.ofNat_mod (Nat.le_refl _), ← Bits.ofNat_add]
  congr 1
  omega

theorem held_eq {p code : Nat} (hp : p ≤ 8)
    : UInt8.ofNat (code <<< p % 2 ^ 32) = UInt8.ofNat (code % 2 ^ (8 - p) * 2 ^ p) := by
  have hpow : 2 ^ 8 = 2 ^ (8 - p) * 2 ^ p := by rw [← Nat.pow_add, Nat.sub_add_cancel hp]
  rw [← UInt8.toNat_inj, UInt8.toNat_ofNat', UInt8.toNat_ofNat',
    Nat.mod_mod_of_dvd _ ⟨2 ^ 24, by omega⟩,
    Nat.shiftLeft_eq, hpow, Nat.mul_mod_mul_right, Nat.mul_mod_mul_right, Nat.mod_mod]

def huffEncodeRest (bufs : Bufs) (avail code m : Nat) : Except Error HuffOut := do
  let code := if m &&& 0x7 ≠ 0 then code <<< (8 - (m &&& 0x7)) % 2 ^ 32 else code
  if avail < (m + 7) / 8 then
    huffEncodeBytes Bufs.addb Bufs.addbHold code bufs m
  else if m < 8 then
    let bufs ← bufs.fastAddbHold (.ofNat code)
    return ⟨bufs, bufs.curAvail, 8 - m⟩
  else
    huffEncodeBytes Bufs.fastAddb Bufs.fastAddbHold code bufs m

theorem huffEncodeRest_full {front tail : Bytes} {code m : Nat} (hpos : 0 < m) (hm : m ≤ 32)
    (hroom : 8 * tail.length < m)
    : huffEncodeRest (filled front tail) tail.length code m = .error .bufferError := by
  rw [huffEncodeRest, if_pos (by omega)]
  exact huffEncodeBytes_full hpos hm (by omega)

theorem huffEncodeRest_ok {front tail : Bytes} {code m : Nat} (hpos : 0 < m) (hm : m ≤ 32)
    (hroom : m ≤ 8 * tail.length)
    : ∃ out, huffEncodeRest (filled front tail) tail.length code m = .ok out
        ∧ Filling (front.length + tail.length) (Bits.ofBytes front ++ Bits.ofNat m code) out := by
  have hand : m &&& 0x7 = m % 8 := Nat.and_two_pow_sub_one_eq_mod m 3
  rw [huffEncodeRest, if_neg (by omega), hand]
  by_cases h8 : m % 8 = 0
  . rw [if_neg (by omega), if_neg (fun hne => hne h8), adds_fast.huffEncodeBytes hpos hm (by omega),
      if_pos h8]
    have htail : tail.length - m / 8 = (tail.drop (m / 8)).length := by rw [List.length_drop]
    rw [htail]
    refine ⟨_, rfl, .full ?_ ?_⟩
    . rw [List.length_append, length_bytesOf, List.length_drop]
      omega
    . rw [Bits.ofBytes_append, ofBytes_bytesOf]
      congr 2
      omega
  . have hpart {front' rest : Bytes} (hbits : Bits.ofBytes front' = Bits.ofBytes front
          ++ Bits.ofNat (8 * (m / 8)) (code <<< (8 - m % 8) % 2 ^ 32 / 256))
        (hlength : front'.length + (rest.length + 1) = front.length + tail.length)
        : Filling (front.length + tail.length) (Bits.ofBytes front ++ Bits.ofNat m code)
            ⟨filled front' (.ofNat (code <<< (8 - m % 8) % 2 ^ 32) :: rest), rest.length + 1,
              8 - m % 8⟩ := by
      have hsub : 8 - (8 - m % 8) = m % 8 := by omega
      rw [held_eq (by omega), hsub]
      refine .part (by omega) (by omega) ?_ hlength ?_
      . rw [hsub]
        exact Nat.mod_lt _ (Nat.two_pow_pos _)
      . rw [hsub, hbits, List.append_assoc, lowBits_eq h8 hm]
    rw [if_pos h8]
    split
    . next hlt =>
      obtain ⟨held, rest, rfl⟩ := List.exists_cons_of_length_pos (l := tail) (by omega)
      rw [Bufs.fastAddbHold_filled]
      have hzero : m / 8 = 0 := by omega
      refine ⟨_, ?_, @hpart front rest ?_ rfl⟩
      . change Except.ok _ = _
        rw [Bufs.curAvail_filled, List.length_cons, Nat.mod_eq_of_lt hlt]
      . rw [hzero]
        exact (List.append_nil _).symm
    . rw [adds_fast.huffEncodeBytes hpos hm (by omega), if_neg h8]
      refine ⟨_, rfl, ?_⟩
      have htail : tail.length - m / 8 = (tail.drop (m / 8 + 1)).length + 1 := by
        rw [List.length_drop]
        omega
      rw [htail]
      apply hpart
      . rw [Bits.ofBytes_append, ofBytes_bytesOf]
      . rw [List.length_append, length_bytesOf, List.length_drop]
        omega

theorem Opened.huffEncodeSym {sym : HuffSym} (h : Opened size bits out) (hpos : 0 < sym.nbits)
    (hle : sym.nbits ≤ 32) (hcode : sym.code < 2 ^ sym.nbits)
    : if bits.length + sym.nbits ≤ 8 * size then
        ∃ out', huffEncodeSym out sym = .ok out'
          ∧ Filling size (bits ++ Bits.ofNat sym.nbits sym.code) out'
      else
        huffEncodeSym out sym = .error .bufferError := by
  obtain @⟨front, tail, q, r, hr0, hr, hq, hsize, hbits⟩ := h
  have hlength := length_of_opened hr hbits
  unfold Hpack.huffEncodeSym
  dsimp only
  by_cases hgt : r > sym.nbits
  . have hx : sym.code <<< (r - sym.nbits) < 2 ^ r := by
      rw [Nat.shiftLeft_eq]
      have : sym.code * 2 ^ (r - sym.nbits) < 2 ^ sym.nbits * 2 ^ (r - sym.nbits) :=
        Nat.mul_lt_mul_of_pos_right hcode (Nat.two_pow_pos _)
      rw [← Nat.pow_add, Nat.add_sub_cancel' (by omega)] at this
      exact this
    have hsum : q * 2 ^ r + sym.code <<< (r - sym.nbits)
      = (q * 2 ^ sym.nbits + sym.code) * 2 ^ (r - sym.nbits) := by
      rw [Nat.shiftLeft_eq, Nat.add_mul, Nat.mul_assoc, ← Nat.pow_add,
        Nat.add_sub_cancel' (by omega)]
    rw [if_pos (by omega), if_pos hgt, Bufs.fastOrbHold_filled, (or_held hr hq hx).1, hsum]
    refine ⟨_, rfl, .part (by omega) (by omega) ?_ hsize ?_⟩
    . have : (q + 1) * 2 ^ sym.nbits ≤ 2 ^ (8 - r) * 2 ^ sym.nbits := Nat.mul_le_mul_right _ hq
      rw [← Nat.pow_add, Nat.succ_mul] at this
      rw [show 8 - (r - sym.nbits) = 8 - r + sym.nbits by omega]
      omega
    . rw [hbits, List.append_assoc, ← Bits.ofNat_mul_add hcode]
      congr 2
      omega
  . rw [if_neg hgt]
    by_cases heq : r = sym.nbits
    . rw [if_pos (by omega), if_pos heq, Bufs.fastOrb_filled, (or_held hr hq (heq ▸ hcode)).1]
      refine ⟨_, rfl, .full ?_ ?_⟩
      . rw [List.length_append, ← hsize, List.length_singleton]
        omega
      . rw [Bits.ofBytes_append, Bits.ofBytes_singleton, (or_held hr hq (heq ▸ hcode)).2,
          hbits, List.append_assoc, heq, ← Bits.ofNat_mul_add hcode]
        congr 2
        omega
    . have hx : sym.code >>> (sym.nbits - r) < 2 ^ r := by
        rw [Nat.shiftRight_eq_div_pow, Nat.div_lt_iff_lt_mul (Nat.two_pow_pos _), ← Nat.pow_add,
          Nat.add_sub_cancel' (by omega)]
        exact hcode
      have hword : Bits.ofNat sym.nbits sym.code
          = Bits.ofNat r (sym.code >>> (sym.nbits - r)) ++ Bits.ofNat (sym.nbits - r) sym.code := by
        rw [Nat.shiftRight_eq_div_pow, ← Bits.ofNat_add, Nat.add_sub_cancel' (by omega)]
      have hfront : Bits.ofBytes (front ++ [.ofNat (q * 2 ^ r + sym.code >>> (sym.nbits - r))])
          = bits ++ Bits.ofNat r (sym.code >>> (sym.nbits - r)) := by
        rw [Bits.ofBytes_append, Bits.ofBytes_singleton, (or_held hr hq hx).2,
          hbits, List.append_assoc, ← Bits.ofNat_mul_add hx, Nat.sub_add_cancel hr]
      have hsize'
          : (front ++ [UInt8.ofNat (q * 2 ^ r + sym.code >>> (sym.nbits - r))]).length + tail.length
              = size := by
        rw [List.length_append, List.length_singleton]
        omega
      rw [if_neg heq, Bufs.fastOrb_filled, (or_held hr hq hx).1, hword, ← List.append_assoc,
        ← hfront, ← hsize']
      split
      . exact huffEncodeRest_ok (by omega) (by omega) (by omega)
      . exact huffEncodeRest_full (by omega) (by omega) (by omega)

theorem Filling.huffEncodeStep {b : UInt8} (h : Filling size bits out)
    : if bits.length + (symOf b.toNat).nbits ≤ 8 * size then
        ∃ out', huffEncodeStep out b = .ok out' ∧ Filling size (bits ++ huffCode.word b) out'
      else
        huffEncodeStep out b = .error .bufferError := by
  have hb := b.toNat_lt
  obtain ⟨hpos, hle, hcode⟩ := symOf_bounds (c := b.toNat) (by omega)
  rw [Hpack.huffEncodeStep]
  rcases h.huffEncodeOpen with ⟨hfull, herror⟩ | ⟨out', hok, hopened⟩
  . rw [if_neg (by omega), herror]
    rfl
  . rw [hok]
    exact hopened.huffEncodeSym (by omega) (by omega) hcode

theorem Filling.length_le (h : Filling size bits out) : bits.length ≤ 8 * size := by
  cases h with
  | full hsize hbits =>
    rw [hbits, Bits.length_ofBytes]
    omega
  | part hpos hr hq hsize hbits =>
    have := length_of_opened (Nat.le_of_lt hr) hbits
    omega

theorem length_encode (src : Bytes)
    : (huffCode.encode src).length = (src.map fun b => (symOf b.toNat).nbits).sum := by
  induction src with
  | nil => rfl
  | cons b src ih =>
    rw [PrefixCode.encode_cons, List.length_append, ih, List.map_cons, List.sum_cons]
    congr 1
    exact Bits.length_ofNat

theorem Filling.foldlM (src : Bytes) (h : Filling size bits out)
    : if bits.length + (huffCode.encode src).length ≤ 8 * size then
        ∃ out', src.foldlM Hpack.huffEncodeStep out = .ok out'
          ∧ Filling size (bits ++ huffCode.encode src) out'
      else
        src.foldlM Hpack.huffEncodeStep out = .error .bufferError := by
  induction src generalizing bits out with
  | nil =>
    rw [PrefixCode.encode_nil, List.append_nil, if_pos (by simpa using h.length_le)]
    exact ⟨out, rfl, h⟩
  | cons b src ih =>
    have hword : (huffCode.word b).length = (symOf b.toNat).nbits := Bits.length_ofNat
    have hstep := h.huffEncodeStep (b := b)
    rw [List.foldlM_cons, PrefixCode.encode_cons, List.length_append, hword]
    by_cases hfits : bits.length + (symOf b.toNat).nbits ≤ 8 * size
    . rw [if_pos hfits] at hstep
      obtain ⟨out', hok, hfilling⟩ := hstep
      have hrest := ih hfilling
      rw [List.length_append, hword, List.append_assoc, Nat.add_assoc] at hrest
      rw [hok]
      exact hrest
    . rw [if_neg hfits] at hstep
      rw [if_neg (by omega), hstep]
      rfl

def padOf (n : Nat) : Nat :=
  (8 - n % 8) % 8

def huffBytes (src : Bytes) : Bytes :=
  Bits.pack (huffCode.encode src ++ List.replicate (padOf (huffCode.encode src).length) true)

theorem ofBytes_huffBytes (src : Bytes)
    : Bits.ofBytes (huffBytes src)
        = huffCode.encode src ++ List.replicate (padOf (huffCode.encode src).length) true := by
  apply Bits.ofBytes_pack
  rw [List.length_append, List.length_replicate, padOf]
  omega

theorem length_huffBytes (src : Bytes) : (huffBytes src).length = huffEncodeCount src := by
  have := congrArg List.length (ofBytes_huffBytes src)
  rw [Bits.length_ofBytes, List.length_append, List.length_replicate, length_encode, padOf] at this
  rw [huffEncodeCount]
  omega

theorem huffBytes_unique {src bs : Bytes} {n : Nat} (hn : n < 8)
    (h : Bits.ofBytes bs = huffCode.encode src ++ List.replicate n true)
    : bs = huffBytes src := by
  have hlength := congrArg List.length h
  rw [Bits.length_ofBytes, List.length_append, List.length_replicate] at hlength
  have hpad : n = padOf (huffCode.encode src).length := by
    rw [padOf]
    omega
  apply Bits.ofBytes_inj
  rw [h, ofBytes_huffBytes, hpad]

theorem eq_append_huffBytes {front front' src : Bytes} {n : Nat} (hn : n < 8)
    (h : Bits.ofBytes front' = Bits.ofBytes front ++ huffCode.encode src ++ List.replicate n true)
    : front' = front ++ huffBytes src := by
  have hlength := congrArg List.length h
  simp only [List.length_append, List.length_replicate, Bits.length_ofBytes] at hlength
  have htake : Bits.ofBytes (front'.take front.length) = Bits.ofBytes front
      ∧ Bits.ofBytes (front'.drop front.length) = huffCode.encode src ++ List.replicate n true := by
    rw [← List.take_append_drop front.length front', Bits.ofBytes_append, List.append_assoc] at h
    apply List.append_inj h
    rw [Bits.length_ofBytes, Bits.length_ofBytes, List.length_take]
    omega
  rw [← List.take_append_drop front.length front', Bits.ofBytes_inj htake.1,
    huffBytes_unique hn htake.2]

theorem huffEncode_eq {front tail src : Bytes}
    : if huffEncodeCount src ≤ tail.length then
        ∃ tail', tail'.length + huffEncodeCount src = tail.length
          ∧ huffEncode (filled front tail) src = .ok (filled (front ++ huffBytes src) tail')
      else
        huffEncode (filled front tail) src = .error .bufferError := by
  have hinit : Filling (front.length + tail.length) (Bits.ofBytes front)
      ⟨filled front tail, (filled front tail).curAvail, 8⟩ := by
    rw [Bufs.curAvail_filled]
    exact .full rfl rfl
  have hrun := hinit.foldlM src
  rw [Bits.length_ofBytes, length_encode] at hrun
  unfold huffEncode
  split
  . next hcount =>
    rw [huffEncodeCount] at hcount
    rw [if_pos (by omega)] at hrun
    obtain ⟨out, hok, hfilling⟩ := hrun
    rw [hok]
    simp only [bind, Except.bind]
    cases hfilling with
    | @full front' tail' hsize hbits =>
      have hfront : front' = front ++ huffBytes src :=
        eq_append_huffBytes (n := 0) (by omega)
          (by rw [← hbits, List.replicate_zero, List.append_nil])
      refine ⟨tail', ?_, ?_⟩
      . rw [hfront, List.length_append, length_huffBytes] at hsize
        omega
      . rw [if_neg (Nat.lt_irrefl 8), hfront]
        rfl
    | @part front' tail' q r hpos hr hq hsize hbits =>
      have hones : 2 ^ r - 1 < 2 ^ r := Nat.sub_lt (Nat.two_pow_pos r) (by omega)
      have hpad : (symOf 256).code >>> ((symOf 256).nbits - r) = 2 ^ r - 1 := by
        rw [symOf_stop]
        interval_cases r <;> rfl
      have hfront : front' ++ [UInt8.ofNat (q * 2 ^ r + (2 ^ r - 1))] = front ++ huffBytes src := by
        apply eq_append_huffBytes hr
        rw [Bits.ofBytes_append, Bits.ofBytes_singleton, (or_held (Nat.le_of_lt hr) hq hones).2,
          hbits,
          List.append_assoc, ← Bits.ofNat_ones, ← Bits.ofNat_mul_add hones,
          Nat.sub_add_cancel (Nat.le_of_lt hr)]
      refine ⟨tail', ?_, ?_⟩
      . have := congrArg List.length hfront
        rw [List.length_append, List.length_append, length_huffBytes, List.length_singleton] at this
        omega
      . rw [if_pos hr, if_neg (Nat.succ_ne_zero _), hpad, Bufs.fastOrb_filled,
          (or_held (Nat.le_of_lt hr) hq hones).1, hfront]
  . next hcount =>
    rw [huffEncodeCount] at hcount
    rw [if_neg (by omega)] at hrun
    rw [hrun]
    rfl

def nibbles (bs : Bytes) : List (Fin 16) :=
  bs.flatMap fun b => [Fin.ofNat 16 (b.toNat / 16), Fin.ofNat 16 (b.toNat % 16)]

theorem nibbles_append (bs bs' : Bytes) : nibbles (bs ++ bs') = nibbles bs ++ nibbles bs' := by
  rw [nibbles, List.flatMap_append, nibbles, nibbles]

theorem length_nibbles (bs : Bytes) : (nibbles bs).length = 2 * bs.length := by
  induction bs with
  | nil => rfl
  | cons b bs ih =>
    rw [← List.singleton_append, nibbles_append, List.length_append, ih, List.length_append]
    exact (Nat.mul_add 2 1 _).symm

theorem bits_nibbles (bs : Bytes) : (nibbles bs).flatMap huffDecoder.bits = Bits.ofBytes bs := by
  induction bs with
  | nil => rfl
  | cons b bs ih =>
    have hb := b.toNat_lt
    rw [← List.singleton_append, nibbles_append, List.flatMap_append, ih, Bits.ofBytes_append,
      Bits.ofBytes_singleton]
    congr 1
    change Bits.ofNat 4 (b.toNat / 16 % 16) ++ (Bits.ofNat 4 (b.toNat % 16 % 16) ++ []) = _
    rw [List.append_nil, Nat.mod_mod, Nat.mod_eq_of_lt (a := b.toNat / 16) (by omega)]
    change _ ++ Bits.ofNat 4 (b.toNat % 2 ^ 4) = _
    rw [Bits.ofNat_mod (Nat.le_refl 4)]
    exact (Bits.ofNat_add 4 4 b.toNat).symm

instance (path : List Bool) : Decidable (Padding path) :=
  inferInstanceAs (Decidable (_ ∧ _))

def ctxOf (s : Fin 256) : HuffDecodeContext :=
  ⟨s, decide (Padding (pathOf s))⟩

theorem init_eq_ctxOf : HuffDecodeContext.init = ctxOf 0 := by
  have hpath : pathOf (0 : Fin 256) = [] := huffDecoder.path_start
  rw [ctxOf, hpath]
  rfl

variable {s : Fin 256} {buf : Buf} {src : Bytes}

def decoded (buf : Buf) : Option (Bytes × Fin 256) → Except Error (HuffDecodeContext × Buf)
  | none => .error .headerComp
  | some (cs, s) => .ok (ctxOf s, { buf with data := buf.data ++ cs })

theorem huffDecodeNibble_eq {x : Fin 16} (hroom : buf.data.length + 1 ≤ buf.cap)
    : huffDecodeNibble s buf x
        = match huffStep s x with
          | none => .error .headerComp
          | some (e, _) =>
            .ok (huffDecodeEntry s x, { buf with data := buf.data ++ e.toList }) := by
  unfold huffDecodeNibble huffStep
  dsimp only
  split
  . rfl
  . split
    . rw [Buf.put, if_pos (by omega)]
      rfl
    . change Except.ok _ = Except.ok _
      rw [Option.toList_none, List.append_nil]

theorem huffStep_entry {x : Fin 16} {e : Option UInt8} {s' : Fin 256}
    (h : huffStep s x = some (e, s'))
    : (huffDecodeEntry s x).state = s'
      ∧ ((huffDecodeEntry s x).flags &&& HuffFlag.ACCEPTED ≠ 0 ↔ Padding (pathOf s')) := by
  unfold huffStep at h
  dsimp only at h
  split at h
  . cases h
  . next hfail =>
    rw [Option.some.injEq, Prod.mk.injEq] at h
    have hstate (hlt : (huffDecodeEntry s x).state < 256) : (huffDecodeEntry s x).state = s' := by
      rw [← h.2]
      exact (Nat.mod_eq_of_lt hlt).symm
    cases entrySpec s.isLt x.isLt with
    | fail hfail' _ => exact absurd hfail' hfail
    | next _ hlt haccept _ _ => exact ⟨hstate hlt, hstate hlt ▸ haccept⟩
    | sym _ hlt haccept _ _ _ => exact ⟨hstate hlt, hstate hlt ▸ haccept⟩

theorem step_huffDecoder (x : Fin 16) : huffDecoder.step s x = huffStep s x := rfl

theorem huffDecodeByte_eq {b : UInt8} (hroom : buf.data.length + 2 ≤ buf.cap)
    : huffDecodeByte (ctxOf s) buf b = decoded buf (huffDecoder.run s (nibbles [b])) := by
  have hb := b.toNat_lt
  have hhigh : (b >>> 4).toNat = (Fin.ofNat 16 (b.toNat / 16) : Fin 16) := by
    change _ = b.toNat / 16 % 16
    rw [UInt8.toNat_shiftRight, Nat.shiftRight_eq_div_pow]
    change b.toNat / 16 = _
    omega
  have hlow : (b &&& 0xf).toNat = (Fin.ofNat 16 (b.toNat % 16) : Fin 16) := by
    change _ = b.toNat % 16 % 16
    rw [UInt8.toNat_and, Nat.mod_mod]
    exact Nat.and_two_pow_sub_one_eq_mod b.toNat 4
  have hrun : huffDecoder.run s (nibbles [b])
      = (huffStep s (Fin.ofNat 16 (b.toNat / 16))).bind fun (e, s') =>
          (huffStep s' (Fin.ofNat 16 (b.toNat % 16))).map fun (e', s'') =>
            (e.toList ++ e'.toList, s'') := by
    change huffDecoder.run s [_, _] = _
    simp only [PrefixCode.Decoder.run, step_huffDecoder]
    cases huffStep s (Fin.ofNat 16 (b.toNat / 16)) with
    | none => rfl
    | some r =>
      dsimp only [Option.bind_some]
      cases huffStep r.2 (Fin.ofNat 16 (b.toNat % 16)) with
      | none => rfl
      | some r' => simp
  rw [hrun, huffDecodeByte, hhigh, hlow]
  change (huffDecodeNibble s buf _ >>= _) = _
  rw [huffDecodeNibble_eq (by omega)]
  cases hstep : huffStep s (Fin.ofNat 16 (b.toNat / 16)) with
  | none => rfl
  | some r =>
    obtain ⟨e, s'⟩ := r
    have hlength : e.toList.length ≤ 1 := by
      cases e with
      | none => exact Nat.zero_le 1
      | some c => exact Nat.le_refl 1
    change (huffDecodeNibble (huffDecodeEntry _ _).state _ _ >>= _) = _
    rw [(huffStep_entry hstep).1,
      huffDecodeNibble_eq (by dsimp only; rw [List.length_append]; omega)]
    cases hstep' : huffStep s' (Fin.ofNat 16 (b.toNat % 16)) with
    | none =>
      rw [Option.bind_some]
      dsimp only
      rw [hstep']
      rfl
    | some r' =>
      obtain ⟨e', s''⟩ := r'
      obtain ⟨hstate, haccept⟩ := huffStep_entry hstep'
      rw [Option.bind_some]
      dsimp only
      rw [hstep']
      change Except.ok _ = Except.ok _
      rw [hstate, decide_eq_decide.mpr haccept, List.append_assoc]
      rfl

theorem foldlM_huffDecodeByte (hroom : buf.data.length + 2 * src.length ≤ buf.cap)
    : src.foldlM (fun (ctx, buf) b => huffDecodeByte ctx buf b) (ctxOf s, buf)
        = decoded buf (huffDecoder.run s (nibbles src)) := by
  induction src generalizing s buf with
  | nil =>
    change Except.ok _ = Except.ok _
    rw [List.append_nil]
  | cons b src ih =>
    rw [List.length_cons] at hroom
    rw [List.foldlM_cons, ← List.singleton_append, nibbles_append, PrefixCode.Decoder.run_append]
    dsimp only
    rw [huffDecodeByte_eq (by omega)]
    cases hrun : huffDecoder.run s (nibbles [b]) with
    | none => rfl
    | some r =>
      obtain ⟨cs, s'⟩ := r
      have hlength : cs.length ≤ 2 := PrefixCode.Decoder.length_run_le hrun
      change List.foldlM _ (ctxOf s', _) src = _
      rw [ih (by dsimp only; rw [List.length_append]; omega), Option.bind_some]
      dsimp only
      cases huffDecoder.run s' (nibbles src) with
      | none => rfl
      | some r' =>
        change Except.ok _ = Except.ok _
        dsimp only
        rw [List.append_assoc]

theorem huffDecode_eq {final : Bool} (hroom : buf.data.length + 2 * src.length ≤ buf.cap)
    : huffDecode (ctxOf s) buf src final
        = match huffDecoder.run s (nibbles src) with
          | none => .error .headerComp
          | some (cs, s') =>
            if final ∧ ¬Padding (pathOf s') then
              .error .headerComp
            else
              .ok (ctxOf s', { buf with data := buf.data ++ cs }) := by
  rw [huffDecode, foldlM_huffDecodeByte hroom]
  cases huffDecoder.run s (nibbles src) with
  | none => rfl
  | some r =>
    change (if (final && !(ctxOf r.2).accept) = true then _ else _) = _
    simp [ctxOf]
    rfl

theorem open_ones {n : Nat} (hn : n < 30) : huffCode.Open (List.replicate n true) := by
  have hstop : huffCode.stop = List.replicate 30 true := by
    change wordOf 256 = _
    rw [wordOf, symOf_stop]
    rfl
  have hp : List.replicate n true <+: huffCode.stop := by
    rw [hstop]
    exact ⟨List.replicate (30 - n) true,
      by rw [← List.replicate_add, Nat.add_sub_cancel' (Nat.le_of_lt hn)]⟩
  constructor
  . intro c hword
    exact huffCode.not_word_stop c (hword.trans hp)
  . intro h
    have := h.length_le
    rw [hstop, List.length_replicate, List.length_replicate] at this
    omega

theorem padOf_lt (n : Nat) : padOf n < 8 :=
  Nat.mod_lt _ (by omega)

theorem huffDecode_huffBytes (hroom : buf.data.length + 2 * (huffBytes src).length ≤ buf.cap)
    : ∃ s, huffDecode .init buf (huffBytes src) true
        = .ok (ctxOf s, { buf with data := buf.data ++ src }) := by
  have hpad := padOf_lt (huffCode.encode src).length
  have hbits : huffDecoder.path 0 ++ (nibbles (huffBytes src)).flatMap huffDecoder.bits
      = huffCode.encode src ++ List.replicate (padOf (huffCode.encode src).length) true := by
    have hstart : huffDecoder.path 0 = [] := huffDecoder.path_start
    rw [hstart, List.nil_append, bits_nibbles, ofBytes_huffBytes]
  obtain ⟨s', hrun, hpath⟩ := PrefixCode.Decoder.run_complete (open_ones (by omega)) hbits
  have hpath : pathOf s' = List.replicate (padOf (huffCode.encode src).length) true := hpath
  have hpadding : Padding (pathOf s') := by
    rw [hpath, Padding, List.length_replicate]
    exact ⟨Nat.le_of_lt_succ hpad, rfl⟩
  refine ⟨s', ?_⟩
  rw [init_eq_ctxOf, huffDecode_eq hroom, hrun]
  dsimp only
  rw [if_neg (fun h => h.2 hpadding)]

theorem eq_huffBytes_of_huffDecode {bs : Bytes} {ctx : HuffDecodeContext} {buf' : Buf}
    (hroom : buf.data.length + 2 * bs.length ≤ buf.cap)
    (h : huffDecode .init buf bs true = .ok (ctx, buf'))
    : ∃ src, bs = huffBytes src ∧ buf' = { buf with data := buf.data ++ src } := by
  rw [init_eq_ctxOf, huffDecode_eq hroom] at h
  split at h
  . cases h
  . next cs s' hrun =>
    split at h
    . cases h
    . next hpadding =>
      injection h with h
      rw [Prod.mk.injEq] at h
      have hpadding : Padding (pathOf s') := by
        by_contra hnot
        exact hpadding ⟨rfl, hnot⟩
      have hsound := PrefixCode.Decoder.run_sound hrun
      have hstart : huffDecoder.path 0 = [] := huffDecoder.path_start
      rw [hstart, List.nil_append, bits_nibbles] at hsound
      change _ = _ ++ pathOf s' at hsound
      rw [hpadding.2] at hsound
      exact ⟨cs, huffBytes_unique (Nat.lt_succ_of_le hpadding.1) hsound, h.2.symm⟩

/--
A string is decoded from some bytes if and only if these are what it is encoded to.
-/
theorem huffDecode_iff_huffEncode (mem bs src : Bytes) (cap : Nat)
    (hmem : mem.length = huffEncodeCount src) (hcap : 2 * bs.length ≤ cap)
    : (huffDecode .init ⟨cap, []⟩ bs true).map (·.2.data) = .ok src
        ↔ (huffEncode (.wrapInit mem) src).map (·.contents) = .ok bs := by
  have hfilled : Bufs.wrapInit mem = filled [] mem := rfl
  have hencode := @huffEncode_eq [] mem src
  rw [if_pos (by omega)] at hencode
  obtain ⟨tail', -, hok⟩ := hencode
  have hroom : (⟨cap, []⟩ : Buf).data.length + 2 * bs.length ≤ cap := by
    change 0 + 2 * bs.length ≤ cap
    omega
  rw [hfilled, hok, Except.map, Bufs.contents_filled, List.nil_append, Except.ok.injEq]
  constructor
  . intro h
    cases hdecode : huffDecode .init ⟨cap, []⟩ bs true with
    | error e =>
      rw [hdecode] at h
      cases h
    | ok r =>
      obtain ⟨src', hbs, hbuf⟩ := eq_huffBytes_of_huffDecode hroom hdecode
      rw [hdecode, Except.map, Except.ok.injEq, hbuf] at h
      have hsrc : src' = src := h
      rw [hbs, hsrc]
  . intro h
    rw [← h] at hroom ⊢
    obtain ⟨s, hs⟩ := huffDecode_huffBytes hroom
    rw [hs, Except.map, List.nil_append]

theorem huffDecode_iff_huffEncode_www
    : (huffDecode .init ⟨6, []⟩ [0xf1, 0xe3, 0xc7] true).map (·.2.data) = .ok [0x77, 0x77, 0x77]
        ↔ (huffEncode (.wrapInit [0, 0, 0]) [0x77, 0x77, 0x77]).map (·.contents)
          = .ok [0xf1, 0xe3, 0xc7] :=
  huffDecode_iff_huffEncode [0, 0, 0] [0xf1, 0xe3, 0xc7] [0x77, 0x77, 0x77]
  6 (by decide +kernel) (by decide)

end Hpack
end Fsw

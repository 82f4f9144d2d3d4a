import Mathlib.Data.List.Pairwise
import Fsw.Lib.Bits
import Fsw.Lib.PrefixCode
import Fsw.Hpack.Impl.Huffman

namespace Fsw
namespace Hpack

-- The symbols in the order of their words, each with its index
def bySize : List (HuffSym × Nat) :=
  (List.range 31).flatMap fun n => huffSymTable.zipIdx.filter fun s => s.1.nbits == n

-- All words of the maximal length that begin with `s` come before all that begin with `t`.
def Before (s t : HuffSym × Nat) : Prop :=
  (s.1.code + 1) * 2 ^ (30 - s.1.nbits) ≤ t.1.code * 2 ^ (30 - t.1.nbits)

instance : DecidableRel Before :=
  fun _ _ => inferInstanceAs (Decidable (_ ≤ _))

def chain : List (HuffSym × Nat) → Bool
  | s :: t :: l => decide (Before s t) && chain (t :: l)
  | _ => true

set_option maxRecDepth 100000 in
theorem chain_bySize : chain bySize = true := by decide +kernel

set_option maxRecDepth 100000 in
theorem length_huffSymTable : huffSymTable.length = 257 := by decide +kernel

set_option maxRecDepth 100000 in
theorem huffSymTable_bounds
    : huffSymTable.all (fun s => decide (5 ≤ s.nbits ∧ s.nbits ≤ 30 ∧ s.code < 2 ^ s.nbits))
        = true := by
  decide +kernel

theorem mem_huffSymTable {c : Nat} (h : c < 257) : (symOf c, c) ∈ huffSymTable.zipIdx := by
  rw [List.mem_zipIdx_iff_getElem?, symOf, List.getD_eq_getElem?_getD]
  rw [← length_huffSymTable] at h
  rw [List.getElem?_eq_getElem h, Option.getD_some]

theorem symOf_bounds {c : Nat} (h : c < 257)
    : 5 ≤ (symOf c).nbits ∧ (symOf c).nbits ≤ 30 ∧ (symOf c).code < 2 ^ (symOf c).nbits := by
  have hmem : symOf c ∈ huffSymTable :=
    List.mem_of_getElem? (List.mem_zipIdx_iff_getElem?.mp (mem_huffSymTable h))
  exact of_decide_eq_true (List.all_eq_true.mp huffSymTable_bounds (symOf c) hmem)

theorem mem_bySize {c : Nat} (h : c < 257) : (symOf c, c) ∈ bySize := by
  have := symOf_bounds h
  rw [bySize, List.mem_flatMap]
  refine ⟨(symOf c).nbits, List.mem_range.mpr (by omega), ?_⟩
  rw [List.mem_filter]
  exact ⟨mem_huffSymTable h, beq_self_eq_true _⟩

theorem Before.trans {s t u : HuffSym × Nat} (h : Before s t) (h' : Before t u) : Before s u := by
  have hle : t.1.code * 2 ^ (30 - t.1.nbits) ≤ (t.1.code + 1) * 2 ^ (30 - t.1.nbits) :=
    Nat.mul_le_mul_right _ (Nat.le_succ _)
  exact Nat.le_trans h (Nat.le_trans hle h')

instance : Trans Before Before Before :=
  ⟨Before.trans⟩

theorem pairwise_of_chain {l : List (HuffSym × Nat)} (h : chain l = true) : l.Pairwise Before := by
  have hchain : l.IsChain Before := by
    induction l with
    | nil => exact .nil
    | cons s l ih =>
      cases l with
      | nil => exact .singleton s
      | cons t l =>
        rw [chain, Bool.and_eq_true, decide_eq_true_eq] at h
        exact .cons_cons h.1 (ih h.2)
  exact hchain.pairwise

def Apart (s t : HuffSym × Nat) : Prop :=
  Before s t ∨ Before t s

instance : Std.Symm Apart :=
  ⟨fun _ _ => Or.symm⟩

theorem apart_of_ne {c c' : Nat} (h : c < 257) (h' : c' < 257) (hne : c ≠ c')
    : Apart (symOf c, c) (symOf c', c') := by
  have hpairwise : bySize.Pairwise Apart := (pairwise_of_chain chain_bySize).imp .inl
  apply hpairwise.forall (mem_bySize h) (mem_bySize h')
  rw [Ne, Prod.mk.injEq]
  exact fun heq => hne heq.2

def wordOf (c : Nat) : List Bool :=
  Bits.ofNat (symOf c).nbits (symOf c).code

theorem not_apart_of_prefix {c c' : Nat} (h : c < 257) (h' : c' < 257) (hp : wordOf c <+: wordOf c')
    : ¬Apart (symOf c, c) (symOf c', c') := by
  obtain ⟨-, hle, hlt⟩ := symOf_bounds h
  obtain ⟨-, hle', hlt'⟩ := symOf_bounds h'
  obtain ⟨hn, hdiv⟩ := Bits.ofNat_prefix hlt hlt' hp
  unfold Apart Before
  dsimp only
  generalize (symOf c).nbits = n at *
  generalize (symOf c').nbits = n' at *
  generalize (symOf c).code = v at *
  generalize (symOf c').code = v' at *
  have hpow : 2 ^ (30 - n) = 2 ^ (n' - n) * 2 ^ (30 - n') := by
    rw [← Nat.pow_add]
    congr 1
    omega
  have hpos : 0 < 2 ^ (30 - n') := Nat.two_pow_pos _
  have hpos' : 0 < 2 ^ (n' - n) := Nat.two_pow_pos _
  have hlow : v * 2 ^ (n' - n) ≤ v' := by
    rw [← hdiv]
    exact Nat.div_mul_le_self v' _
  have hhigh : v' < (v + 1) * 2 ^ (n' - n) := by
    rw [← hdiv, Nat.mul_comm]
    exact Nat.lt_mul_div_succ v' hpos'
  rw [hpow, ← Nat.mul_assoc, ← Nat.mul_assoc]
  rintro (hbefore | hbefore)
  . exact absurd (Nat.le_of_mul_le_mul_right hbefore hpos) (by omega)
  . exact absurd (Nat.le_of_mul_le_mul_right hbefore hpos) (by omega)

theorem wordOf_inj {c c' : Nat} (h : c < 257) (h' : c' < 257) (hp : wordOf c <+: wordOf c')
    : c = c' := by
  by_contra hne
  exact not_apart_of_prefix h h' hp (apart_of_ne h h' hne)

def huffCode : PrefixCode UInt8 where
  word := fun c => wordOf c.toNat
  stop := wordOf 256
  word_inj := fun c c' h => by
    have hc := c.toNat_lt
    have hc' := c'.toNat_lt
    exact UInt8.toNat_inj.mp (wordOf_inj (by omega) (by omega) h)
  not_word_stop := fun c h => by
    have hc := c.toNat_lt
    have := wordOf_inj (by omega) (by omega) h
    omega
  not_stop_word := fun c h => by
    have hc := c.toNat_lt
    have := wordOf_inj (by omega) (by omega) h
    omega

set_option maxRecDepth 100000 in
theorem symOf_stop : symOf 256 = ⟨30, 0x3fffffff⟩ := by decide +kernel

def internal : Nat → Nat → List (Nat × Nat)
  | 0, _ => []
  | n + 1, v => if v % 2 = 0 then internal n (v / 2) ++ [(n, v / 2)] else []

-- The inner nodes of the tree of words, each before what is below it
def paths : List (Nat × Nat) :=
  bySize.flatMap fun s => internal s.1.nbits s.1.code

set_option maxRecDepth 100000 in
theorem length_paths : paths.length = 256 := by decide +kernel

def checkEntry (ps : List (Nat × Nat)) (p : Nat × Nat) (x : Nat) (e : HuffDecode) : Bool :=
  let n := p.1 + 4
  let v := p.2 * 2 ^ 4 + x
  if Nat.beq (e.flags &&& 4) 0 then
    match ps[e.state]? with
    | none => false
    | some q =>
      Nat.blt q.2 (2 ^ q.1)
      && (Nat.beq (e.flags &&& 1) 0 == !(Nat.ble q.1 7 && Nat.beq (q.2 + 1) (2 ^ q.1)))
      && if Nat.beq (e.flags &&& 2) 0 then
          Nat.beq n q.1 && Nat.beq v q.2
        else
          match huffSymTable[e.sym]? with
          | none => false
          | some c =>
            Nat.blt e.sym 256 && Nat.beq n (c.nbits + q.1) && Nat.beq v (c.code * 2 ^ q.1 + q.2)
  else
    Nat.ble 30 n && Nat.beq (v / 2 ^ (n - 30)) 0x3fffffff

def checkRow (ps : List (Nat × Nat)) (p : Nat × Nat) : Nat → List HuffDecode → Bool
  | x, [] => Nat.beq x 16
  | x, e :: row => checkEntry ps p x e && checkRow ps p (x + 1) row

def checkRows (qs : List (Nat × Nat)) : List (Nat × Nat) → List (List HuffDecode) → Bool
  | [], [] => true
  | p :: ps, row :: rows => checkRow qs p 0 row && checkRows qs ps rows
  | _, _ => false

set_option maxRecDepth 100000 in
theorem checkRows_huffDecodeTable
    : checkRows paths paths huffDecodeTable = true := by decide +kernel

theorem checkEntry_of_checkRow {ps : List (Nat × Nat)} {p : Nat × Nat}
    {i x : Nat} {row : List HuffDecode} (h : checkRow ps p i row = true) (hx : i + x < 16)
    : checkEntry ps p (i + x) (row.getD x ⟨0, 0, 0⟩) = true := by
  induction row generalizing i x with
  | nil =>
    rw [checkRow, Nat.beq_eq] at h
    omega
  | cons e row ih =>
    rw [checkRow, Bool.and_eq_true] at h
    cases x with
    | zero => exact h.1
    | succ x =>
      rw [List.getD_cons_succ, ← Nat.succ_add_eq_add_succ]
      exact ih h.2 (by omega)

theorem checkRow_of_checkRows {qs ps : List (Nat × Nat)} {s : Nat} {rows : List (List HuffDecode)}
    (h : checkRows qs ps rows = true) (hs : s < ps.length)
    : checkRow qs (ps.getD s (0, 0)) 0 (rows.getD s []) = true := by
  induction ps generalizing s rows with
  | nil => exact absurd hs (Nat.not_lt_zero s)
  | cons p ps ih =>
    cases rows with
    | nil => cases h
    | cons row rows =>
      rw [checkRows, Bool.and_eq_true] at h
      cases s with
      | zero => exact h.1
      | succ s => exact ih h.2 (Nat.lt_of_succ_lt_succ hs)

def nodeOf (s : Nat) : Nat × Nat :=
  paths.getD s (0, 0)

def pathOf (s : Nat) : List Bool :=
  Bits.ofNat (nodeOf s).1 (nodeOf s).2

-- An unfinished word may stand at the end if it could be the beginning of the word for the end.
def Padding (path : List Bool) : Prop :=
  path.length ≤ 7 ∧ path = List.replicate path.length true

theorem checkEntry_huffDecodeTable {s x : Nat} (hs : s < 256) (hx : x < 16)
    : checkEntry paths (nodeOf s) x (huffDecodeEntry s x) = true := by
  rw [← length_paths] at hs
  have := checkEntry_of_checkRow (checkRow_of_checkRows checkRows_huffDecodeTable hs)
    (i := 0) (x := x) (by omega)
  rw [Nat.zero_add] at this
  exact this

theorem pathOf_append (s : Nat) {x : Nat} (hx : x < 16)
    : pathOf s ++ Bits.ofNat 4 x = Bits.ofNat ((nodeOf s).1 + 4) ((nodeOf s).2 * 2 ^ 4 + x) := by
  rw [Bits.ofNat_mul_add hx, pathOf]

theorem nodeOf_of_getElem? {s : Nat} {q : Nat × Nat} (h : paths[s]? = some q)
    : s < 256 ∧ nodeOf s = q := by
  constructor
  . rw [← length_paths]
    exact (List.getElem?_eq_some_iff.mp h).1
  . rw [nodeOf, List.getD_eq_getElem?_getD, h, Option.getD_some]

theorem symOf_of_getElem? {c : Nat} {s : HuffSym} (h : huffSymTable[c]? = some s)
    : symOf c = s := by
  rw [symOf, List.getD_eq_getElem?_getD, h, Option.getD_some]

theorem padding_iff {q : Nat × Nat} (hq : q.2 < 2 ^ q.1)
    : Padding (Bits.ofNat q.1 q.2) ↔ q.1 ≤ 7 ∧ q.2 + 1 = 2 ^ q.1 := by
  rw [Padding, Bits.length_ofNat, Bits.ofNat_eq_ones_iff hq]

inductive EntrySpec (path : List Bool) (e : HuffDecode) : Prop where
  | fail (hfail : e.flags &&& HuffFlag.FAIL ≠ 0) (hstop : wordOf 256 <+: path)
  | next (hfail : e.flags &&& HuffFlag.FAIL = 0) (hstate : e.state < 256)
      (haccept : e.flags &&& HuffFlag.ACCEPTED ≠ 0 ↔ Padding (pathOf e.state))
      (hsym : e.flags &&& HuffFlag.SYM = 0) (hpath : path = pathOf e.state)
  | sym (hfail : e.flags &&& HuffFlag.FAIL = 0) (hstate : e.state < 256)
      (haccept : e.flags &&& HuffFlag.ACCEPTED ≠ 0 ↔ Padding (pathOf e.state))
      (hsym : e.flags &&& HuffFlag.SYM ≠ 0) (hlt : e.sym < 256)
      (hpath : path = wordOf e.sym ++ pathOf e.state)

theorem entrySpec {s x : Nat} (hs : s < 256) (hx : x < 16)
    : EntrySpec (pathOf s ++ Bits.ofNat 4 x) (huffDecodeEntry s x) := by
  have hcheck := checkEntry_huffDecodeTable hs hx
  rw [pathOf_append s hx]
  generalize huffDecodeEntry s x = e at hcheck
  unfold checkEntry at hcheck
  dsimp only at hcheck
  split at hcheck
  . next hfail =>
    rw [Nat.beq_eq] at hfail
    split at hcheck
    . cases hcheck
    . next q hq =>
      obtain ⟨hstate, hnode⟩ := nodeOf_of_getElem? hq
      rw [Bool.and_eq_true, Bool.and_eq_true, Nat.blt_eq] at hcheck
      obtain ⟨⟨hlt, haccept⟩, hcheck⟩ := hcheck
      have haccept : e.flags &&& HuffFlag.ACCEPTED ≠ 0 ↔ Padding (pathOf e.state) := by
        rw [pathOf, hnode, padding_iff hlt, HuffFlag.ACCEPTED, Ne, ← Nat.beq_eq,
          ← Nat.ble_eq, ← Nat.beq_eq, ← Bool.and_eq_true, Bool.not_eq_true, ← Bool.not_eq_true']
        rw [beq_iff_eq] at haccept
        rw [haccept, Bool.not_not]
      split at hcheck
      . next hsym =>
        rw [Bool.and_eq_true, Nat.beq_eq, Nat.beq_eq] at hcheck
        apply EntrySpec.next hfail hstate haccept (Nat.eq_of_beq_eq_true hsym)
        rw [hcheck.1, hcheck.2, pathOf, hnode]
      . next hsym =>
        split at hcheck
        . cases hcheck
        . next c hc =>
          rw [Bool.and_eq_true, Bool.and_eq_true, Nat.blt_eq, Nat.beq_eq, Nat.beq_eq] at hcheck
          obtain ⟨⟨hlt', hn⟩, hv⟩ := hcheck
          apply EntrySpec.sym hfail hstate haccept (fun h => hsym (Nat.beq_eq.mpr h)) hlt'
          rw [hn, hv, Bits.ofNat_mul_add hlt, wordOf, symOf_of_getElem? hc, pathOf, hnode]
  . next hfail =>
    rw [Bool.and_eq_true, Nat.ble_eq, Nat.beq_eq] at hcheck
    apply EntrySpec.fail fun h => hfail (Nat.beq_eq.mpr h)
    rw [← Nat.add_sub_cancel' hcheck.1, Bits.ofNat_add, hcheck.2, wordOf, symOf_stop]
    exact List.prefix_append _ _

theorem internal_prefix {n v : Nat} {p : Nat × Nat} (h : p ∈ internal n v)
    : p.1 < n ∧ Bits.ofNat p.1 p.2 <+: Bits.ofNat n v := by
  induction n generalizing v with
  | zero => cases h
  | succ n ih =>
    have hsplit : Bits.ofNat (n + 1) v = Bits.ofNat n (v / 2 ^ 1) ++ Bits.ofNat 1 v :=
      Bits.ofNat_add n 1 v
    rw [internal] at h
    split at h
    . rw [hsplit]
      rcases List.mem_append.mp h with h | h
      . obtain ⟨hlt, hp⟩ := ih h
        exact ⟨by omega, hp.trans (List.prefix_append _ _)⟩
      . rw [List.mem_singleton.mp h]
        exact ⟨Nat.lt_succ_self n, List.prefix_append _ _⟩
    . cases h

theorem pathOf_prefix {s : Nat} (hs : s < 256)
    : ∃ c < 257, (pathOf s).length < (wordOf c).length ∧ pathOf s <+: wordOf c := by
  have hmem : nodeOf s ∈ paths := by
    rw [← length_paths] at hs
    rw [nodeOf, List.getD_eq_getElem _ _ hs]
    exact List.getElem_mem hs
  rw [paths, List.mem_flatMap] at hmem
  obtain ⟨⟨sym, c⟩, hsym, hnode⟩ := hmem
  rw [bySize, List.mem_flatMap] at hsym
  obtain ⟨n, -, hsym⟩ := hsym
  have hget := List.mem_zipIdx_iff_getElem?.mp (List.mem_filter.mp hsym).1
  have hc : c < 257 := by
    rw [← length_huffSymTable]
    exact (List.getElem?_eq_some_iff.mp hget).1
  obtain ⟨hlt, hp⟩ := internal_prefix hnode
  refine ⟨c, hc, ?_⟩
  rw [wordOf, symOf_of_getElem? hget, pathOf, Bits.length_ofNat, Bits.length_ofNat]
  exact ⟨hlt, hp⟩

theorem not_wordOf_pathOf {s c : Nat} (hs : s < 256) (hc : c < 257) : ¬wordOf c <+: pathOf s := by
  intro h
  obtain ⟨c', hc', hlt, hp⟩ := pathOf_prefix hs
  have heq := wordOf_inj hc hc' (h.trans hp)
  have := h.length_le
  rw [heq] at this
  omega

theorem open_pathOf {s : Nat} (hs : s < 256) : huffCode.Open (pathOf s) where
  not_word := fun c => not_wordOf_pathOf hs (by have := c.toNat_lt; omega)
  not_stop := not_wordOf_pathOf hs (by omega)

def huffStep (s : Fin 256) (x : Fin 16) : Option (Option UInt8 × Fin 256) :=
  let t := huffDecodeEntry s x
  if t.flags &&& HuffFlag.FAIL ≠ 0 then
    none
  else
    some (if t.flags &&& HuffFlag.SYM ≠ 0 then some (.ofNat t.sym) else none, Fin.ofNat 256 t.state)

theorem toNat_ofNat_of_lt {n : Nat} (h : n < 256) : (UInt8.ofNat n).toNat = n := by
  rw [UInt8.toNat_ofNat', Nat.mod_eq_of_lt h]

set_option maxRecDepth 100000 in
theorem nodeOf_zero : nodeOf 0 = (0, 0) := by decide +kernel

def huffDecoder : huffCode.Decoder (Fin 256) (Fin 16) where
  start := 0
  step := huffStep
  bits := fun x => Bits.ofNat 4 x
  path := fun s => pathOf s
  path_start := by
    change pathOf 0 = []
    rw [pathOf, nodeOf_zero]
    rfl
  path_open := fun s => open_pathOf s.isLt
  path_step := by
    intro s x e s' h
    unfold huffStep at h
    dsimp only at h
    split at h
    . cases h
    . next hfail =>
      rw [Option.some.injEq, Prod.mk.injEq] at h
      cases entrySpec s.isLt x.isLt with
      | fail hfail' _ => exact absurd hfail' hfail
      | next _ hstate _ hsym hpath =>
        rw [← h.1, ← h.2, hpath, if_neg (fun hne => hne hsym)]
        change _ = pathOf (_ % 256)
        rw [Nat.mod_eq_of_lt hstate]
      | sym _ hstate _ hsym hlt hpath =>
        rw [← h.1, ← h.2, hpath, if_pos hsym, Option.toList_some, PrefixCode.encode_cons,
          PrefixCode.encode_nil, List.append_nil]
        change _ = wordOf (UInt8.ofNat _).toNat ++ pathOf (_ % 256)
        rw [Nat.mod_eq_of_lt hstate, toNat_ofNat_of_lt hlt]
  stop_of_fail := by
    intro s x h
    unfold huffStep at h
    dsimp only at h
    split at h
    . next hfail =>
      cases entrySpec s.isLt x.isLt with
      | fail _ hstop => exact hstop
      | next hfail' _ _ _ _ => exact absurd hfail' hfail
      | sym hfail' _ _ _ _ _ => exact absurd hfail' hfail
    . cases h

end Hpack
end Fsw

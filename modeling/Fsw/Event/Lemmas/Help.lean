import Fsw.Event.Impl.Help
import Fsw.Coroutine.Lemmas.StackDiscipline

namespace Fsw

variable {fd fd' id : BitVec 32}

theorem snd_fromuint64 (fd id : BitVec 32) : (fromuint64 (touint64 fd id)).2 = id := by
  have hmask : (0xffffffff#64).setWidth 32 = BitVec.allOnes 32 := by decide
  rw [fromuint64, touint64]
  dsimp only
  rw [BitVec.setWidth_and, hmask, BitVec.and_allOnes]
  apply BitVec.eq_of_getLsbD_eq
  intro i hi
  have h64 : i < 64 := by omega
  simp only [BitVec.getLsbD_setWidth, BitVec.getLsbD_or, BitVec.getLsbD_zero,
    BitVec.getLsbD_shiftLeft,
    BitVec.getLsbD_signExtend, hi, h64, decide_true, Bool.true_and, Bool.false_or,
    ↓reduceIte, Bool.not_true, Bool.false_and]

theorem fst_fromuint64
    : (fromuint64 (touint64 fd id)).1 = fd ||| if id.msb then BitVec.allOnes 32 else 0#32 := by
  rw [fromuint64, touint64]
  dsimp only
  apply BitVec.eq_of_getLsbD_eq
  intro i hi
  have h64 : 32 + i < 64 := by omega
  have h32 : ¬32 + i < 32 := by omega
  have hi64 : i < 64 := by omega
  simp only [BitVec.getLsbD_setWidth, BitVec.getLsbD_ushiftRight,
    BitVec.getLsbD_or, BitVec.getLsbD_zero,
    BitVec.getLsbD_shiftLeft, BitVec.getLsbD_signExtend, hi, hi64, h64, h32, decide_true,
    decide_false, Bool.true_and, Bool.false_or, ↓reduceIte, Bool.not_false, Nat.add_sub_cancel_left]
  cases id.msb with
  | false => simp
  | true =>
    rw [if_pos rfl, BitVec.getLsbD_allOnes, decide_eq_true hi, Bool.or_true]

theorem msb_of_nonneg (hfd : 0 ≤ fd.toInt) : fd.msb = false := by
  rw [BitVec.msb_eq_toInt, decide_eq_false_iff_not]
  omega

theorem fst_fromuint64_iff (hfd : 0 ≤ fd.toInt)
    : (fromuint64 (touint64 fd id)).1 = fd ↔ id.msb = false := by
  rw [fst_fromuint64]
  cases id.msb with
  | false => simp
  | true =>
    rw [if_pos rfl, BitVec.or_allOnes]
    constructor
    . intro h
      have hmsb := msb_of_nonneg hfd
      rw [← h] at hmsb
      contradiction
    . intro h
      contradiction

-- What `wait_event` stores for a descriptor, `id` of type `long` being the identifier of the
-- coroutine
def tagOf (fd : BitVec 32) (id : Int) : BitVec 64 :=
  touint64 fd (BitVec.ofInt 32 id)

section Identifiers

variable {cid cid' : Int}

theorem msb_ofInt_iff (h : 0 ≤ cid)
    : (BitVec.ofInt 32 cid).msb = false ∧ (BitVec.ofInt 32 cid).toInt = cid ↔ cid < 2 ^ 31 := by
  rw [BitVec.msb_eq_toInt, decide_eq_false_iff_not, BitVec.toInt_ofInt]
  constructor
  . intro h'
    have := Int.bmod_lt (x := cid) (m := 2 ^ 32) (by decide)
    omega
  . intro hlt
    rw [Int.bmod_eq_of_le (by omega) (by omega)]
    omega

theorem tagOf_injective (hfd : 0 ≤ fd.toInt) (hfd' : 0 ≤ fd'.toInt) (hcid : 0 ≤ cid ∧ cid < 2 ^ 31)
    (hcid' : 0 ≤ cid' ∧ cid' < 2 ^ 31) (h : tagOf fd cid = tagOf fd' cid')
    : fd = fd' ∧ cid = cid' := by
  rcases (msb_ofInt_iff hcid.1).mpr hcid.2 with ⟨hmsb, hint⟩
  rcases (msb_ofInt_iff hcid'.1).mpr hcid'.2 with ⟨hmsb', hint'⟩
  have hdecoded : fromuint64 (tagOf fd cid) = fromuint64 (tagOf fd' cid') := by rw [h]
  constructor
  . rw [← (fst_fromuint64_iff hfd).mpr hmsb, ← (fst_fromuint64_iff hfd').mpr hmsb']
    exact congrArg Prod.fst hdecoded
  . have hid : BitVec.ofInt 32 cid = BitVec.ofInt 32 cid' := by
      rw [← snd_fromuint64 fd (BitVec.ofInt 32 cid), ← snd_fromuint64 fd' (BitVec.ofInt 32 cid')]
      exact congrArg Prod.snd hdecoded
    rw [← hint, ← hint', hid]

end Identifiers

namespace Runtime

variable {s s' : Runtime} {tr es : List Event} {p : Addr} {co : Coroutine}

structure Traced (s : Runtime) (p : Addr) (cid : Int) (fd : BitVec 32) : Prop where
  descriptor : (fromuint64 (tagOf fd cid)).1 = fd
  found : s.getByCid (fromuint64 (tagOf fd cid)).2.toInt = some p

def DistinctTags (s : Runtime) : Prop :=
  ∀ fd fd' : BitVec 32, 0 ≤ fd.toInt → 0 ≤ fd'.toInt →
    ∀ cid cid', 1 ≤ cid → cid ≤ s.lastCid → 1 ≤ cid' → cid' ≤ s.lastCid →
      tagOf fd cid = tagOf fd' cid' → fd = fd' ∧ cid = cid'

theorem run_cid_pos (h : machine.Run Valid tr s)
    : 0 ≤ s.lastCid ∧ ∀ cid p, .created cid p ∈ tr → 1 ≤ cid := by
  have hrun : (∃ l, s.Inv l) ∧ 0 ≤ s.lastCid ∧ ∀ cid p, .created cid p ∈ tr → 1 ≤ cid := by
    apply h.invariant (I := fun tr s => (∃ l, s.Inv l) ∧ 0 ≤ s.lastCid ∧ ∀ cid p,
      .created cid p ∈ tr → 1 ≤ cid)
    . exact ⟨⟨[], inv_init⟩, Int.le_refl 0, by simp⟩
    . intro tr s c s' es _ ih hvalid hstep
      rcases ih with ⟨⟨l, hinv⟩, hlast, hcreated⟩
      rcases hinv.step_cases hvalid hstep with ⟨p, _, rfl, hinv', hlast', _⟩
        | ⟨p, _, rfl, hinv', hsame⟩
        | ⟨p, t, _, rfl, _, hinv', hsame⟩ | ⟨p, t, co, _, _, _, rfl, hinv', hlast', _⟩
      . refine ⟨⟨_, hinv'⟩, by omega, ?_⟩
        intro cid p' hmem
        rcases List.mem_append.mp hmem with hmem | hmem
        . exact hcreated cid p' hmem
        . rw [List.mem_singleton] at hmem
          injection hmem with hcid _
          omega
      . rw [List.append_nil, hsame.lastCid]
        exact ⟨⟨_, hinv'⟩, hlast, hcreated⟩
      . rw [List.append_nil, hsame.lastCid]
        exact ⟨⟨_, hinv'⟩, hlast, hcreated⟩
      . refine ⟨⟨_, hinv'⟩, by omega, ?_⟩
        intro cid p' hmem
        rcases List.mem_append.mp hmem with hmem | hmem
        . exact hcreated cid p' hmem
        . simp at hmem
  exact hrun.2

theorem traced_iff (h : machine.Run Valid tr s) (hco : s.heap p = some co)
    {fd : BitVec 32} (hfd : 0 ≤ fd.toInt)
    : s.Traced p co.cid fd ↔ co.cid < 2 ^ 31 := by
  rcases Run.inv h with ⟨⟨l, hinv⟩, hhistory⟩
  have hreg : s.coroutines co.cid = some p := (hinv.registered co.cid p).mpr ⟨co, hco, rfl⟩
  have hpos : 0 ≤ co.cid := by
    have := (run_cid_pos h).2 co.cid p ((hhistory.registered co.cid p).mp hreg).1
    omega
  rw [← msb_ofInt_iff hpos]
  constructor
  . intro htraced
    refine ⟨(fst_fromuint64_iff hfd).mp htraced.descriptor, ?_⟩
    have hfound := htraced.found
    rw [tagOf, snd_fromuint64] at hfound
    rcases (hinv.registered _ p).mp hfound with ⟨co', hco', hcid⟩
    rw [hco] at hco'
    injection hco' with hco'
    rw [← hcid, hco']
  . intro hid
    refine ⟨(fst_fromuint64_iff hfd).mpr hid.1, ?_⟩
    rw [tagOf, snd_fromuint64, hid.2]
    exact hreg

theorem distinctTags_iff : s.DistinctTags ↔ s.lastCid < 2 ^ 31 := by
  constructor
  . intro hdistinct
    by_contra hge
    have hsame : tagOf 0 (2 ^ 31) = tagOf 1 (2 ^ 31) := by decide
    have heq := hdistinct 0 1 (by decide) (by decide) (2 ^ 31) (2 ^ 31) (by decide)
      (by omega) (by decide) (by omega)
      hsame
    exact absurd heq.1 (by decide)
  . intro hlt fd fd' hfd hfd' cid cid' h1 hle h1' hle' htag
    exact tagOf_injective hfd hfd' (by omega) (by omega) htag

/--
A tag leads back to its coroutine if and only if the identifier has less than 32 bits, and tags are
distinct as long as all identifiers have.
-/
theorem tags_iff (h : machine.Run Valid tr s)
    : (∀ p co (fd : BitVec 32), s.heap p = some co → 0 ≤ fd.toInt
        → (s.Traced p co.cid fd ↔ co.cid < 2 ^ 31))
      ∧ (s.DistinctTags ↔ s.lastCid < 2 ^ 31) := by
  refine ⟨?_, distinctTags_iff⟩
  intro p co fd hco hfd
  exact traced_iff h hco hfd

section Many

variable {l : List Addr}

theorem run_create (h : machine.Run Valid tr s) (hinv : s.Inv l) (hfree : s.heap p = none)
    (hcid : s.lastCid ≠ LONG_MAX)
    : ∃ s', machine.Run Valid (tr ++ [.created (s.lastCid + 1) p]) s' ∧ s'.Inv (p :: l)
        ∧ s'.heap p = some (s.created p) ∧ s'.lastCid = s.lastCid + 1 := by
  have hcreate : ∃ s', s.create p = .ok s' ∧ s'.heap p = some (s.created p) :=
    ⟨_, create_eq hcid, Function.update_self _ _ _⟩
  rcases hcreate with ⟨s', hcreate, hco⟩
  rcases hinv.create_ok hfree hcreate with ⟨hinv', _, hlast, _⟩
  have hstep : s.step (.create p) = .ok (s', [.created (s.lastCid + 1) p]) := by
    rw [step, hcreate]
    rfl
  have hvalid : s.Valid (.create p) := hfree
  exact ⟨s', .step h hvalid hstep, hinv', hco, hlast⟩

theorem run_finish (h : machine.Run Valid tr s) (hinv : s.Inv (p :: l))
    : ∃ tr' s', machine.Run Valid tr' s' ∧ s'.Inv l ∧ s'.heap p = none
        ∧ s'.lastCid = s.lastCid := by
  rcases hinv.finish with ⟨s', co, hco, hfinish, hinv', hlive, hlast, _⟩
  have hstack : s.stack = some p := hinv.stack
  have hstep : s.step .finish = .ok (s', [.finished co.cid p]) := by
    simp only [step, hstack, deref, hco, hfinish, bind, Except.bind]
    rfl
  have hvalid : s.Valid .finish := by
    rw [Valid, hstack]
    simp
  refine ⟨_, s', .step h hvalid hstep, hinv', ?_, hlast⟩
  have hdead : ¬s'.Live p := by
    rw [hlive]
    simp
  simpa [Live] using hdead

theorem exists_run (n : Nat) (hn : n ≤ LONG_MAX)
    : ∃ tr s, machine.Run Valid tr s ∧ s.Inv [] ∧ s.heap 1 = none ∧ s.lastCid = n := by
  induction n with
  | zero => exact ⟨[], init, .init, inv_init, rfl, rfl⟩
  | succ n ih =>
    rcases ih (by omega) with ⟨tr, s, hrun, hinv, hfree, hlast⟩
    rcases run_create hrun hinv hfree (by omega) with ⟨s₁, hrun₁, hinv₁, _, hlast₁⟩
    rcases run_finish hrun₁ hinv₁ with ⟨tr₂, s₂, hrun₂, hinv₂, hfree₂, hlast₂⟩
    exact ⟨tr₂, s₂, hrun₂, hinv₂, hfree₂, by omega⟩

theorem exists_run_cid (n : Nat) (hn : n < LONG_MAX)
    : ∃ tr s p co, machine.Run Valid tr s ∧ s.heap p = some co ∧ co.cid = n + 1
        ∧ s.lastCid = n + 1 := by
  rcases exists_run n (by omega) with ⟨tr, s, hrun, hinv, hfree, hlast⟩
  rcases run_create hrun hinv hfree (by omega) with ⟨s', hrun', _, hco, hlast'⟩
  exact ⟨_, s', 1, s.created 1, hrun', hco, by rw [created, hlast], by omega⟩

end Many

theorem tags_iff_first
    : ∃ tr s p co, machine.Run Valid tr s ∧ s.heap p = some co ∧ co.cid = 1 ∧ s.Traced p co.cid 5
        ∧ s.DistinctTags := by
  rcases exists_run_cid 0 (by decide) with ⟨tr, s, p, co, hrun, hco, hcid, hlast⟩
  rcases tags_iff hrun with ⟨htraced, hdistinct⟩
  refine ⟨tr, s, p, co, hrun, hco, by omega, (htraced p co 5 hco (by decide)).mpr (by omega),
    hdistinct.mpr (by omega)⟩

theorem cid_two_pow_31_lost
    : ∃ tr s p co, machine.Run Valid tr s ∧ s.heap p = some co ∧ co.cid = 2 ^ 31
        ∧ fromuint64 (tagOf 5 co.cid) = (BitVec.ofInt 32 (-1), BitVec.ofInt 32 (-2 ^ 31))
        ∧ ¬s.Traced p co.cid 5 ∧ tagOf 5 co.cid = tagOf 6 co.cid := by
  rcases exists_run_cid (2 ^ 31 - 1) (by decide) with ⟨tr, s, p, co, hrun, hco, hcid, _⟩
  have hcid : co.cid = 2 ^ 31 := by omega
  refine ⟨tr, s, p, co, hrun, hco, hcid, by rw [hcid]; decide, ?_, by rw [hcid]; decide⟩
  rw [traced_iff hrun hco (by decide)]
  omega

end Runtime

end Fsw

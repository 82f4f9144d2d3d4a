import Fsw.Coroutine.Impl.Runtime

namespace Fsw

structure Coroutine.Active (p : Addr) (l : List Addr) (co : Coroutine) : Prop where
  origin : co.origin = l.head?
  ctx : co.ctx.ctx = none
  swapCtx : co.ctx.swapCtx = some ⟨l.head?, .swappedIn p⟩
  isEnd : co.ctx.isEnd = false

structure Coroutine.Idle (p : Addr) (co : Coroutine) : Prop where
  ctx : co.ctx.ctx = some ⟨some p, .swappedOut⟩
  isEnd : co.ctx.isEnd = false

namespace Runtime

open Coroutine

def Live (s : Runtime) (p : Addr) : Prop :=
  (s.heap p).isSome

def Suspended (s : Runtime) (p : Addr) : Prop :=
  ∃ co, s.heap p = some co ∧ co.ctx.ctx = some ⟨some p, .swappedOut⟩

def Linked (s : Runtime) : List Addr → Prop
  | [] => True
  | p :: l => (∃ co, s.heap p = some co ∧ Coroutine.Active p l co) ∧ Linked s l

/--
The coroutines `l` are swapped in, each by its successor in `l` and the last one by `main`.
-/
structure Inv (s : Runtime) (l : List Addr) : Prop where
  nodup : l.Nodup
  current : s.current = l.head?
  stack : s.stack = l.head?
  linked : s.Linked l
  idle : ∀ p co, s.heap p = some co → p ∉ l → Coroutine.Idle p co
  registered : ∀ cid p, s.coroutines cid = some p ↔ ∃ co, s.heap p = some co ∧ co.cid = cid
  cid_le : ∀ p co, s.heap p = some co → co.cid ≤ s.lastCid

theorem Linked.of_heap_eq {s s' : Runtime} {l : List Addr} (h : s.Linked l)
    (heap : ∀ p ∈ l, s'.heap p = s.heap p)
    : s'.Linked l := by
  induction l with
  | nil => trivial
  | cons p l ih =>
    rcases h with ⟨⟨co, hco, hact⟩, hl⟩
    constructor
    . refine ⟨co, ?_, hact⟩
      rw [heap p (by simp), hco]
    . apply ih hl
      intro q hq
      apply heap
      simp [hq]

theorem Linked.live {s : Runtime} {l : List Addr} (h : s.Linked l)
    : ∀ p ∈ l, s.Live p := by
  induction l with
  | nil => simp
  | cons p l ih =>
    rcases h with ⟨⟨co, hco, _⟩, hl⟩
    intro q hq
    cases List.mem_cons.mp hq with
    | inl heq => simp [Live, heq, hco]
    | inr hmem => apply ih hl q hmem

theorem Linked.active {s : Runtime} {l : List Addr} {p : Addr} {co : Coroutine}
    (h : s.Linked l) (hp : p ∈ l) (hco : s.heap p = some co)
    : ∃ l', Coroutine.Active p l' co := by
  induction l with
  | nil => simp at hp
  | cons q l ih =>
    rcases h with ⟨⟨co', hco', hact⟩, hl⟩
    cases List.mem_cons.mp hp with
    | inl heq =>
      subst heq
      rw [hco'] at hco
      injection hco with hco
      subst hco
      exact ⟨l, hact⟩
    | inr hmem => apply ih hl hmem

theorem Linked.ctx_eq_none {s : Runtime} {l : List Addr} {p : Addr} {co : Coroutine}
    (h : s.Linked l) (hp : p ∈ l) (hco : s.heap p = some co)
    : co.ctx.ctx = none := by
  rcases h.active hp hco with ⟨_, hact⟩
  exact hact.ctx

theorem inv_init : init.Inv [] where
  nodup := List.nodup_nil
  current := rfl
  stack := rfl
  linked := trivial
  idle := by simp [init]
  registered := by simp [init]
  cid_le := by simp [init]

theorem Inv.suspended_iff {s : Runtime} {l : List Addr} {p : Addr} (h : s.Inv l)
    : s.Suspended p ↔ s.Live p ∧ p ∉ l := by
  constructor
  . rintro ⟨co, hco, hctx⟩
    refine ⟨by simp [Live, hco], ?_⟩
    intro hmem
    rw [h.linked.ctx_eq_none hmem hco] at hctx
    contradiction
  . rintro ⟨hlive, hmem⟩
    rcases Option.isSome_iff_exists.mp hlive with ⟨co, hco⟩
    exact ⟨co, hco, (h.idle p co hco hmem).ctx⟩

theorem Inv.isEnd {s : Runtime} {l : List Addr} {p : Addr} {co : Coroutine} (h : s.Inv l)
    (hco : s.heap p = some co)
    : co.ctx.isEnd = false := by
  by_cases hp : p ∈ l
  . rcases h.linked.active hp hco with ⟨_, hact⟩
    exact hact.isEnd
  . exact (h.idle p co hco hp).isEnd

theorem Inv.active {s : Runtime} {l : List Addr} {p : Addr} (h : s.Inv (p :: l))
    : ∃ co, s.heap p = some co ∧ Coroutine.Active p l co := by
  apply h.linked.1

theorem Inv.coroutines_lastCid_succ {s : Runtime} {l : List Addr} (h : s.Inv l)
    : s.coroutines (s.lastCid + 1) = none := by
  cases hreg : s.coroutines (s.lastCid + 1) with
  | none => rfl
  | some p =>
    rcases (h.registered _ _).mp hreg with ⟨co, hco, hcid⟩
    have := h.cid_le p co hco
    omega

theorem Inv.eq_of_cid_eq {s : Runtime} {l : List Addr} {p q : Addr} {co co' : Coroutine}
    (h : s.Inv l) (hp : s.heap p = some co) (hq : s.heap q = some co') (hcid : co.cid = co'.cid)
    : p = q := by
  have h1 := (h.registered co.cid p).mpr ⟨co, hp, rfl⟩
  have h2 := (h.registered co'.cid q).mpr ⟨co', hq, rfl⟩
  rw [hcid, h2] at h1
  injection h1 with h1
  apply h1.symm

section Effects

def entered (s : Runtime) (p : Addr) (co : Coroutine) : Coroutine :=
  { co with
    origin := s.current
    ctx := { co.ctx with swapCtx := some ⟨s.stack, .swappedIn p⟩, ctx := none } }

def left (s : Runtime) (co : Coroutine) : Coroutine :=
  { co with ctx := { co.ctx with ctx := some ⟨s.stack, .swappedOut⟩, swapCtx := none } }

theorem run_eq {s : Runtime} {p : Addr} {co : Coroutine} {pc : Pc} (hco : s.heap p = some co)
    (hctx : co.ctx.ctx = some ⟨some p, pc⟩) (hpc : pc = .contextFunc ∨ pc = .swappedOut)
    : s.run p = .ok { s.set p (s.entered p co) with current := some p, stack := some p } := by
  simp only [run, deref, hco, swapIn, set, bind, Except.bind, Function.update_self, hctx,
    jumpFcontext, Function.update_idem, entered]
  cases hpc with
  | inl h => simp [h, land]
  | inr h => simp [h, land]

def created (s : Runtime) (p : Addr) : Coroutine where
  origin := s.current
  ctx := { ctx := none, swapCtx := some ⟨s.stack, .swappedIn p⟩, isEnd := false }
  cid := s.lastCid + 1

theorem create_eq {s : Runtime} {p : Addr} (hcid : s.lastCid ≠ LONG_MAX)
    : s.create p = .ok
        { heap := Function.update s.heap p (some (s.created p))
          current := some p
          lastCid := s.lastCid + 1
          coroutines := Function.update s.coroutines (s.lastCid + 1) (some p)
          stack := some p } := by
  simp only [create, new, hcid, ↓reduceIte, bind, Except.bind]
  rw [run_eq (Function.update_self ..) rfl (.inl rfl)]
  simp [set, entered, created]

theorem yield_eq {s : Runtime} {p : Addr} {l : List Addr} {co : Coroutine}
    (hcur : s.current = some p) (hco : s.heap p = some co) (hact : Coroutine.Active p l co)
    : s.yield = .ok { s.set p (s.left co) with current := l.head?, stack := l.head? } := by
  simp [yield, hcur, deref, hco, swapOut, set, bind, Except.bind, jumpFcontext, hact.swapCtx, land,
    hact.isEnd, hact.origin, left]

theorem finish_eq {s : Runtime} {p : Addr} {l : List Addr} {co : Coroutine}
    (hco : s.heap p = some co) (hact : Coroutine.Active p l co)
    : s.finish p = .ok
        { s with
          heap := Function.update s.heap p none
          current := l.head?
          coroutines := Function.update s.coroutines co.cid none
          stack := l.head? } := by
  simp [finish, deref, hco, swapOut, set, bind, Except.bind, jumpFcontext, hact.swapCtx, land,
    hact.origin]

end Effects

section Preservation

variable {s : Runtime} {l : List Addr} {p : Addr} {co : Coroutine}

theorem Inv.registered_set {co' : Coroutine} (h : s.Inv l) (hco : s.heap p = some co)
    (hcid : co'.cid = co.cid)
    : ∀ cid q, s.coroutines cid = some q ↔ ∃ c, (s.set p co').heap q = some c ∧ c.cid = cid := by
  intro cid q
  rw [h.registered]
  by_cases hq : q = p
  . subst hq
    simp [set, hco, hcid]
  . simp [set, hq]

theorem Inv.cid_le_set {co' : Coroutine} (h : s.Inv l) (hco : s.heap p = some co)
    (hcid : co'.cid = co.cid)
    : ∀ q c, (s.set p co').heap q = some c → c.cid ≤ s.lastCid := by
  intro q c hq
  by_cases hqp : q = p
  . subst hqp
    simp only [set, Function.update_self, Option.some.injEq] at hq
    rw [← hq, hcid]
    apply h.cid_le q co hco
  . simp only [set, ne_eq, hqp, not_false_eq_true, Function.update_of_ne] at hq
    apply h.cid_le q c hq

theorem Inv.enter (h : s.Inv l) (hco : s.heap p = some co) (hmem : p ∉ l)
    (hend : co.ctx.isEnd = false)
    : Inv { s.set p (s.entered p co) with current := some p, stack := some p } (p :: l) where
  nodup := by simp [h.nodup, hmem]
  current := rfl
  stack := rfl
  linked := by
    constructor
    . refine ⟨s.entered p co, by simp [set], ?_⟩
      constructor
      . simp [entered, h.current]
      . rfl
      . simp [entered, h.stack]
      . simpa [entered] using hend
    . apply h.linked.of_heap_eq
      intro q hq
      have : q ≠ p := by
        intro heq
        exact hmem (heq ▸ hq)
      simp [set, this]
  idle := by
    intro q co' hq hqmem
    simp only [List.mem_cons, not_or] at hqmem
    simp only [set, ne_eq, hqmem.1, not_false_eq_true, Function.update_of_ne] at hq
    apply h.idle q co' hq hqmem.2
  registered := h.registered_set hco rfl
  cid_le := h.cid_le_set hco rfl

theorem Inv.create (h : s.Inv l) (hp : s.heap p = none)
    : Inv
        { heap := Function.update s.heap p (some (s.created p))
          current := some p
          lastCid := s.lastCid + 1
          coroutines := Function.update s.coroutines (s.lastCid + 1) (some p)
          stack := some p } (p :: l) where
  nodup := by
    have : p ∉ l := by
      intro hmem
      have := h.linked.live p hmem
      simp [Live, hp] at this
    simp [h.nodup, this]
  current := rfl
  stack := rfl
  linked := by
    constructor
    . refine ⟨s.created p, by simp, ?_⟩
      constructor
      . simp [created, h.current]
      . rfl
      . simp [created, h.stack]
      . rfl
    . apply h.linked.of_heap_eq
      intro q hq
      have : q ≠ p := by
        intro heq
        have := h.linked.live q hq
        simp [Live, heq, hp] at this
      simp [this]
  idle := by
    intro q co' hq hqmem
    simp only [List.mem_cons, not_or] at hqmem
    simp only [ne_eq, hqmem.1, not_false_eq_true, Function.update_of_ne] at hq
    apply h.idle q co' hq hqmem.2
  registered := by
    intro cid q
    by_cases hq : q = p
    . subst hq
      constructor
      . intro hreg
        refine ⟨s.created q, by simp, ?_⟩
        by_cases hcid : cid = s.lastCid + 1
        . simp [created, hcid]
        . simp only [ne_eq, hcid, not_false_eq_true, Function.update_of_ne, h.registered, hp]
            at hreg
          simp at hreg
      . rintro ⟨c, hc, hcid⟩
        simp only [Function.update_self, Option.some.injEq] at hc
        rw [← hcid, ← hc]
        simp [created]
    . by_cases hcid : cid = s.lastCid + 1
      . have := h.coroutines_lastCid_succ
        subst hcid
        simp only [Function.update_self, Option.some.injEq, ne_eq, hq, not_false_eq_true,
          Function.update_of_ne, ← h.registered, this]
        simp [Ne.symm hq]
      . simp only [ne_eq, hcid, not_false_eq_true, Function.update_of_ne, hq]
        apply h.registered cid q
  cid_le := by
    intro q c hq
    by_cases hqp : q = p
    . subst hqp
      simp only [Function.update_self, Option.some.injEq] at hq
      simp [← hq, created]
    . simp only [ne_eq, hqp, not_false_eq_true, Function.update_of_ne] at hq
      have := h.cid_le q c hq
      dsimp
      omega

theorem Inv.leave (h : s.Inv (p :: l)) (hco : s.heap p = some co)
    (hact : Coroutine.Active p l co)
    : Inv { s.set p (s.left co) with current := l.head?, stack := l.head? } l where
  nodup := h.nodup.of_cons
  current := rfl
  stack := rfl
  linked := by
    apply h.linked.2.of_heap_eq
    intro q hq
    have : q ≠ p := by
      intro heq
      exact (List.nodup_cons.mp h.nodup).1 (heq ▸ hq)
    simp [set, this]
  idle := by
    intro q co' hq hqmem
    by_cases hqp : q = p
    . subst hqp
      simp only [set, Function.update_self, Option.some.injEq] at hq
      rw [← hq]
      constructor
      . simp [left, h.stack]
      . simpa [left] using hact.isEnd
    . simp only [set, ne_eq, hqp, not_false_eq_true, Function.update_of_ne] at hq
      apply h.idle q co' hq
      simp [hqp, hqmem]
  registered := h.registered_set hco rfl
  cid_le := h.cid_le_set hco rfl

theorem Inv.die (h : s.Inv (p :: l)) (hco : s.heap p = some co)
    : Inv
        { s with
          heap := Function.update s.heap p none
          current := l.head?
          coroutines := Function.update s.coroutines co.cid none
          stack := l.head? } l where
  nodup := h.nodup.of_cons
  current := rfl
  stack := rfl
  linked := by
    apply h.linked.2.of_heap_eq
    intro q hq
    have : q ≠ p := by
      intro heq
      exact (List.nodup_cons.mp h.nodup).1 (heq ▸ hq)
    simp [this]
  idle := by
    intro q co' hq hqmem
    have hqp : q ≠ p := by
      intro heq
      simp [heq] at hq
    simp only [ne_eq, hqp, not_false_eq_true, Function.update_of_ne] at hq
    apply h.idle q co' hq
    simp [hqp, hqmem]
  registered := by
    intro cid q
    constructor
    . intro hreg
      by_cases hcid : cid = co.cid
      . simp [hcid] at hreg
      . simp only [ne_eq, hcid, not_false_eq_true, Function.update_of_ne] at hreg
        rcases (h.registered cid q).mp hreg with ⟨co', hco', hcid'⟩
        have hqp : q ≠ p := by
          intro heq
          rw [heq, hco] at hco'
          injection hco' with hco'
          exact hcid (by rw [hco', hcid'])
        exact ⟨co', by simpa [hqp] using hco', hcid'⟩
    . rintro ⟨co', hco', hcid'⟩
      have hqp : q ≠ p := by
        intro heq
        simp [heq] at hco'
      simp only [ne_eq, hqp, not_false_eq_true, Function.update_of_ne] at hco'
      have hcid : cid ≠ co.cid := by
        intro heq
        exact hqp (h.eq_of_cid_eq hco' hco (by rw [hcid', heq]))
      simp only [ne_eq, hcid, not_false_eq_true, Function.update_of_ne]
      exact (h.registered cid q).mpr ⟨co', hco', hcid'⟩
  cid_le := by
    intro q co' hq
    have hqp : q ≠ p := by
      intro heq
      simp [heq] at hq
    simp only [ne_eq, hqp, not_false_eq_true, Function.update_of_ne] at hq
    apply h.cid_le q co' hq

end Preservation

section Specs

structure Same (s s' : Runtime) : Prop where
  live : ∀ p, s'.Live p ↔ s.Live p
  cid : ∀ p, (s'.heap p).map (·.cid) = (s.heap p).map (·.cid)
  coroutines : s'.coroutines = s.coroutines
  lastCid : s'.lastCid = s.lastCid

theorem Same.trans {s s' s'' : Runtime} (h : Same s s') (h' : Same s' s'') : Same s s'' where
  live := fun p => (h'.live p).trans (h.live p)
  cid := fun p => (h'.cid p).trans (h.cid p)
  coroutines := h'.coroutines.trans h.coroutines
  lastCid := h'.lastCid.trans h.lastCid

theorem same_set {s : Runtime} {p : Addr} {co co' : Coroutine} {c st : Option Addr}
    (hco : s.heap p = some co) (hcid : co'.cid = co.cid)
    : Same s { s.set p co' with current := c, stack := st } where
  live := by
    intro q
    by_cases hq : q = p
    . subst hq
      simp [Live, set, hco]
    . simp [Live, set, hq]
  cid := by
    intro q
    by_cases hq : q = p
    . subst hq
      simp [set, hco, hcid]
    . simp [set, hq]
  coroutines := rfl
  lastCid := rfl

variable {s s' : Runtime} {l : List Addr} {p : Addr}

theorem Inv.current_ne_of_suspended (h : s.Inv l) (hp : s.Suspended p)
    : s.current ≠ some p := by
  intro hcur
  rw [h.current] at hcur
  apply (h.suspended_iff.mp hp).2 (List.mem_of_mem_head? hcur)

theorem Inv.resume (h : s.Inv l) (hp : s.Suspended p)
    : ∃ s', s.resume p = .ok s' ∧ s'.Inv (p :: l) ∧ Same s s' := by
  have hmem := (h.suspended_iff.mp hp).2
  rcases hp with ⟨co, hco, hctx⟩
  have hidle := h.idle p co hco hmem
  have hcur : s.current ≠ some p := h.current_ne_of_suspended ⟨co, hco, hctx⟩
  refine ⟨_, ?_, h.enter hco hmem hidle.isEnd, same_set hco rfl⟩
  simp only [Runtime.resume, hcur, ↓reduceIte]
  apply run_eq hco hctx (.inr rfl)

theorem Inv.suspended_of_resume (h : s.Inv l) (hok : s.resume p = .ok s')
    : s.Suspended p := by
  rw [h.suspended_iff]
  unfold Runtime.resume at hok
  split at hok
  . contradiction
  . cases hco : s.heap p with
    | none => simp [run, deref, hco, bind, Except.bind] at hok
    | some co =>
      refine ⟨by simp [Live, hco], ?_⟩
      intro hmem
      have := h.linked.ctx_eq_none hmem hco
      simp [run, deref, hco, bind, Except.bind, swapIn, set, jumpFcontext, this] at hok

theorem Inv.resume_ok (h : s.Inv l) (hok : s.resume p = .ok s')
    : s.Suspended p ∧ s'.Inv (p :: l) ∧ Same s s' := by
  have hp := h.suspended_of_resume hok
  rcases h.resume hp with ⟨s'', hok', hinv, hsame⟩
  rw [hok] at hok'
  injection hok' with heq
  subst heq
  exact ⟨hp, hinv, hsame⟩

theorem Inv.yield (h : s.Inv (p :: l))
    : ∃ s', s.yield = .ok s' ∧ s'.Inv l ∧ Same s s' := by
  rcases h.active with ⟨co, hco, hact⟩
  exact ⟨_, yield_eq h.current hco hact, h.leave hco hact, same_set hco rfl⟩

theorem Inv.yield_ok (h : s.Inv l) (hok : s.yield = .ok s')
    : ∃ p t, l = p :: t ∧ s'.Inv t ∧ Same s s' := by
  cases l with
  | nil =>
    have := h.current
    simp only [List.head?_nil] at this
    simp [Runtime.yield, this] at hok
  | cons p t =>
    rcases h.yield with ⟨s'', hok', hinv, hsame⟩
    rw [hok] at hok'
    injection hok' with heq
    subst heq
    exact ⟨p, t, rfl, hinv, hsame⟩

theorem Inv.create_ok (h : s.Inv l) (hp : s.heap p = none) (hok : s.create p = .ok s')
    : s'.Inv (p :: l) ∧ (∀ q, s'.Live q ↔ s.Live q ∨ q = p) ∧ s'.lastCid = s.lastCid + 1
        ∧ s'.coroutines = Function.update s.coroutines (s.lastCid + 1) (some p) := by
  by_cases hcid : s.lastCid = LONG_MAX
  . simp [Runtime.create, new, hcid, bind, Except.bind] at hok
  . rw [create_eq hcid] at hok
    injection hok with heq
    subst heq
    refine ⟨h.create hp, ?_, rfl, rfl⟩
    intro q
    by_cases hq : q = p
    . simp [Live, hq]
    . simp [Live, hq]

theorem Inv.finish (h : s.Inv (p :: l))
    : ∃ s' co, s.heap p = some co ∧ s.finish p = .ok s' ∧ s'.Inv l
        ∧ (∀ q, s'.Live q ↔ s.Live q ∧ q ≠ p) ∧ s'.lastCid = s.lastCid
        ∧ s'.coroutines = Function.update s.coroutines co.cid none := by
  rcases h.active with ⟨co, hco, hact⟩
  refine ⟨_, co, hco, finish_eq hco hact, h.die hco, ?_, rfl, rfl⟩
  intro q
  by_cases hq : q = p
  . simp [Live, hq]
  . simp [Live, hq]

theorem Inv.finish_ok (h : s.Inv l) (hst : s.stack = some p) (hok : s.finish p = .ok s')
    : ∃ t, l = p :: t ∧ s'.Inv t ∧ ∀ q, s'.Live q ↔ s.Live q ∧ q ≠ p := by
  cases l with
  | nil =>
    rw [h.stack] at hst
    contradiction
  | cons q t =>
    rw [h.stack, List.head?_cons, Option.some.injEq] at hst
    subst hst
    rcases h.finish with ⟨s'', co, hco, hok', hinv, hlive, _⟩
    rw [hok] at hok'
    injection hok' with heq
    subst heq
    exact ⟨t, rfl, hinv, hlive⟩

theorem Inv.suspended_enter {q : Addr} (h : s.Inv l) (h' : s'.Inv (p :: l)) (hsame : Same s s')
    : s'.Suspended q ↔ s.Suspended q ∧ q ≠ p := by
  rw [h.suspended_iff, h'.suspended_iff, hsame.live, List.mem_cons]
  grind

theorem Inv.suspended_leave {q : Addr} (h : s.Inv (p :: l)) (h' : s'.Inv l) (hsame : Same s s')
    : s'.Suspended q ↔ s.Suspended q ∨ q = p := by
  rw [h.suspended_iff, h'.suspended_iff, hsame.live, List.mem_cons]
  have hlive := h.linked.live p (by simp)
  have hmem := (List.nodup_cons.mp h.nodup).1
  grind

theorem Inv.suspended_create {q : Addr} (h : s.Inv l) (h' : s'.Inv (p :: l))
    (hlive : ∀ q, s'.Live q ↔ s.Live q ∨ q = p) (hp : s.heap p = none)
    : s'.Suspended q ↔ s.Suspended q := by
  rw [h.suspended_iff, h'.suspended_iff, hlive, List.mem_cons]
  have : ¬s.Live p := by simp [Live, hp]
  grind

theorem Inv.suspended_finish {q : Addr} (h : s.Inv (p :: l)) (h' : s'.Inv l)
    (hlive : ∀ q, s'.Live q ↔ s.Live q ∧ q ≠ p)
    : s'.Suspended q ↔ s.Suspended q := by
  rw [h.suspended_iff, h'.suspended_iff, hlive, List.mem_cons]
  grind

end Specs

end Runtime
end Fsw

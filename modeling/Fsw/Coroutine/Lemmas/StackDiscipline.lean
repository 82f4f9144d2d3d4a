import Fsw.Coroutine.Lemmas.Runtime

namespace Fsw
namespace Runtime

open Coroutine

inductive OriginChain (s : Runtime) : Option Addr → List Addr → Prop where
  | nil : OriginChain s none []
  | cons {p : Addr} {co : Coroutine} {l : List Addr} (hco : s.heap p = some co)
      (h : OriginChain s co.origin l) : OriginChain s (some p) (p :: l)

inductive SwapChain (s : Runtime) : Option Addr → List Addr → Prop where
  | nil : SwapChain s none []
  | cons {p : Addr} {co : Coroutine} {fctx : FContext} {l : List Addr} (hco : s.heap p = some co)
      (hswap : co.ctx.swapCtx = some fctx) (h : SwapChain s fctx.stack l)
      : SwapChain s (some p) (p :: l)

def OnChain (s : Runtime) (p : Addr) : Prop :=
  ∃ l, OriginChain s s.current l ∧ p ∈ l

/--
What the callers of the runtime are held to: only registered coroutines off the active chain are
resumed, `yield` is called by coroutines only. Besides, `new` returns an address not in use, and it
is coroutines that end.
-/
def Valid (s : Runtime) : Cmd → Prop
  | .create p => s.heap p = none
  | .yield => s.stack ≠ none
  | .resume p => (∃ cid, s.coroutines cid = some p) ∧ ¬s.OnChain p
  | .resumeCid cid => ∃ p, s.coroutines cid = some p ∧ ¬s.OnChain p
  | .finish => s.stack ≠ none

theorem Linked.originChain {s : Runtime} {l : List Addr} (h : s.Linked l)
    : OriginChain s l.head? l := by
  induction l with
  | nil => exact .nil
  | cons p l ih =>
    rcases h with ⟨⟨co, hco, hact⟩, hl⟩
    apply OriginChain.cons hco
    rw [hact.origin]
    apply ih hl

theorem Linked.swapChain {s : Runtime} {l : List Addr} (h : s.Linked l)
    : SwapChain s l.head? l := by
  induction l with
  | nil => exact .nil
  | cons p l ih =>
    rcases h with ⟨⟨co, hco, hact⟩, hl⟩
    exact .cons hco hact.swapCtx (ih hl)

theorem OriginChain.unique {s : Runtime} {p : Option Addr} {l l' : List Addr}
    (h : OriginChain s p l) (h' : OriginChain s p l')
    : l = l' := by
  induction h generalizing l' with
  | nil =>
    cases h'
    rfl
  | cons hco _ ih =>
    cases h' with
    | cons hco' h' =>
      rw [hco] at hco'
      injection hco' with hco'
      subst hco'
      rw [ih h']

theorem Inv.originChain {s : Runtime} {l : List Addr} (h : s.Inv l)
    : OriginChain s s.current l := by
  rw [h.current]
  apply h.linked.originChain

theorem Inv.onChain_iff {s : Runtime} {l : List Addr} {p : Addr} (h : s.Inv l)
    : s.OnChain p ↔ p ∈ l := by
  constructor
  . rintro ⟨l', hchain, hmem⟩
    rw [h.originChain.unique hchain]
    exact hmem
  . intro hmem
    exact ⟨l, h.originChain, hmem⟩

theorem Inv.suspended_of_registered {s : Runtime} {l : List Addr} {cid : Int} {p : Addr}
    (h : s.Inv l) (hreg : s.coroutines cid = some p) (hchain : ¬s.OnChain p)
    : s.Suspended p := by
  rcases (h.registered cid p).mp hreg with ⟨co, hco, _⟩
  rw [h.suspended_iff]
  rw [h.onChain_iff] at hchain
  exact ⟨by simp [Live, hco], hchain⟩

def Cmd.isCall : Cmd → Bool
  | .create _ | .resume _ | .resumeCid _ => true
  | .yield | .finish => false

theorem Inv.step_cases {s s' : Runtime} {l : List Addr} {c : Cmd} {es : List Event} (h : s.Inv l)
    (hv : s.Valid c) (hs : s.step c = .ok (s', es))
    : (∃ p, c = .create p ∧ es = [.created (s.lastCid + 1) p] ∧ s'.Inv (p :: l)
        ∧ s'.lastCid = s.lastCid + 1
        ∧ s'.coroutines = Function.update s.coroutines (s.lastCid + 1) (some p))
      ∨ (∃ p, c.isCall ∧ es = [] ∧ s'.Inv (p :: l) ∧ Same s s')
      ∨ (∃ p t, c = .yield ∧ es = [] ∧ l = p :: t ∧ s'.Inv t ∧ Same s s')
      ∨ (∃ p t co, c = .finish ∧ l = p :: t ∧ s.heap p = some co ∧ es = [.finished co.cid p]
        ∧ s'.Inv t ∧ s'.lastCid = s.lastCid
        ∧ s'.coroutines = Function.update s.coroutines co.cid none) := by
  cases c with
  | create p =>
    left
    cases hc : s.create p with
    | error f => simp [step, hc, bind, Except.bind] at hs
    | ok t =>
      simp only [step, hc, bind, Except.bind, pure, Except.pure, Except.ok.injEq, Prod.mk.injEq]
        at hs
      rcases hs with ⟨rfl, rfl⟩
      rcases h.create_ok hv hc with ⟨hinv, _, hlast, hreg⟩
      exact ⟨p, rfl, rfl, hinv, hlast, hreg⟩
  | yield =>
    right; right; left
    cases hc : s.yield with
    | error f => simp [step, hc, bind, Except.bind] at hs
    | ok t =>
      simp only [step, hc, bind, Except.bind, pure, Except.pure, Except.ok.injEq, Prod.mk.injEq]
        at hs
      rcases hs with ⟨rfl, rfl⟩
      rcases h.yield_ok hc with ⟨p, l', hl, hinv, hsame⟩
      exact ⟨p, l', rfl, rfl, hl, hinv, hsame⟩
  | resume p =>
    right; left
    cases hc : s.resume p with
    | error f => simp [step, hc, bind, Except.bind] at hs
    | ok t =>
      simp only [step, hc, bind, Except.bind, pure, Except.pure, Except.ok.injEq, Prod.mk.injEq]
        at hs
      rcases hs with ⟨rfl, rfl⟩
      rcases h.resume_ok hc with ⟨_, hinv, hsame⟩
      exact ⟨p, rfl, rfl, hinv, hsame⟩
  | resumeCid cid =>
    right; left
    rcases hv with ⟨p, hreg, _⟩
    cases hc : s.resume p with
    | error f => simp [step, resumeCid, getByCid, hreg, hc, bind, Except.bind] at hs
    | ok t =>
      simp only [step, resumeCid, getByCid, hreg, hc, bind, Except.bind, pure, Except.pure,
        Except.ok.injEq, Prod.mk.injEq] at hs
      rcases hs with ⟨rfl, rfl⟩
      rcases h.resume_ok hc with ⟨_, hinv, hsame⟩
      exact ⟨p, rfl, rfl, hinv, hsame⟩
  | finish =>
    right; right; right
    cases l with
    | nil => apply absurd h.stack hv
    | cons p t =>
      rcases h.finish with ⟨t', co, hco, hok, hinv, _, hlast, hreg⟩
      have hstack : s.stack = some p := h.stack
      simp only [step, hstack, deref, hco, hok, bind, Except.bind, pure, Except.pure,
        Except.ok.injEq, Prod.mk.injEq] at hs
      rcases hs with ⟨rfl, rfl⟩
      exact ⟨p, t, co, rfl, rfl, hco, rfl, hinv, hlast, hreg⟩

theorem Inv.step_ok {s : Runtime} {l : List Addr} {c : Cmd} (h : s.Inv l) (hv : s.Valid c)
    : (∃ s' es, s.step c = .ok (s', es)) ∨ ((∃ p, c = .create p) ∧ s.lastCid = LONG_MAX) := by
  cases c with
  | create p =>
    by_cases hcid : s.lastCid = LONG_MAX
    . exact .inr ⟨⟨p, rfl⟩, hcid⟩
    . left
      simp only [step, create_eq hcid]
      exact ⟨_, _, rfl⟩
  | yield =>
    left
    cases l with
    | nil => apply absurd h.stack hv
    | cons p t =>
      rcases h.yield with ⟨s', hok, _, _⟩
      simp only [step, hok]
      exact ⟨_, _, rfl⟩
  | resume p =>
    left
    rcases hv with ⟨⟨cid, hreg⟩, hchain⟩
    rcases h.resume (h.suspended_of_registered hreg hchain) with ⟨s', hok, _, _⟩
    simp only [step, hok]
    exact ⟨_, _, rfl⟩
  | resumeCid cid =>
    left
    rcases hv with ⟨p, hreg, hchain⟩
    rcases h.resume (h.suspended_of_registered hreg hchain) with ⟨s', hok, _, _⟩
    simp only [step, resumeCid, getByCid, hreg, hok]
    exact ⟨_, _, rfl⟩
  | finish =>
    left
    cases l with
    | nil => apply absurd h.stack hv
    | cons p t =>
      rcases h.finish with ⟨s', co, hco, hok, _⟩
      have hstack : s.stack = some p := h.stack
      simp only [step, hstack, deref, hco, hok]
      exact ⟨_, _, rfl⟩

def createdCids (tr : List Event) : List Int :=
  tr.filterMap fun
    | .created cid _ => some cid
    | .finished _ _ => none

structure History (tr : List Event) (s : Runtime) : Prop where
  registered : ∀ cid p, s.coroutines cid = some p ↔ .created cid p ∈ tr ∧ .finished cid p ∉ tr
  created_le : ∀ cid p, .created cid p ∈ tr → cid ≤ s.lastCid
  finished_le : ∀ cid p, .finished cid p ∈ tr → cid ≤ s.lastCid
  increasing : (createdCids tr).Pairwise (· < ·)

theorem history_init : History [] init := by
  constructor
  . simp [init]
  . simp
  . simp
  . simp [createdCids]

theorem mem_createdCids {tr : List Event} {cid : Int}
    : cid ∈ createdCids tr ↔ ∃ p, .created cid p ∈ tr := by
  simp only [createdCids, List.mem_filterMap]
  constructor
  . rintro ⟨e, he, heq⟩
    cases e with
    | created cid' p =>
      injection heq with heq
      subst heq
      exact ⟨p, he⟩
    | finished cid' p => contradiction
  . rintro ⟨p, he⟩
    exact ⟨_, he, rfl⟩

theorem History.create {tr : List Event} {s s' : Runtime} {p : Addr} (h : History tr s)
    (hlast : s'.lastCid = s.lastCid + 1)
    (hreg : s'.coroutines = Function.update s.coroutines (s.lastCid + 1) (some p))
    : History (tr ++ [.created (s.lastCid + 1) p]) s' where
  registered := by
    intro cid q
    rw [hreg]
    by_cases hcid : cid = s.lastCid + 1
    . subst hcid
      have h1 : Event.created (s.lastCid + 1) q ∉ tr := by
        intro hmem
        have := h.created_le _ _ hmem
        omega
      have h2 : Event.finished (s.lastCid + 1) q ∉ tr := by
        intro hmem
        have := h.finished_le _ _ hmem
        omega
      simp [h1, h2, eq_comm]
    . simp only [ne_eq, hcid, not_false_eq_true, Function.update_of_ne, h.registered]
      simp [hcid]
  created_le := by
    intro cid q hmem
    rw [List.mem_append] at hmem
    cases hmem with
    | inl hmem =>
      have := h.created_le _ _ hmem
      omega
    | inr hmem =>
      simp only [List.mem_singleton, Event.created.injEq] at hmem
      omega
  finished_le := by
    intro cid q hmem
    simp only [List.mem_append, List.mem_singleton, reduceCtorEq, or_false] at hmem
    have := h.finished_le _ _ hmem
    omega
  increasing := by
    simp only [createdCids, List.filterMap_append]
    rw [List.pairwise_append]
    refine ⟨h.increasing, by simp, ?_⟩
    intro a ha b hb
    rcases mem_createdCids.mp ha with ⟨q, hq⟩
    have := h.created_le _ _ hq
    simp only [List.filterMap_cons, List.filterMap_nil, List.mem_singleton] at hb
    omega

theorem History.finish {tr : List Event} {s s' : Runtime} {cid : Int} {p : Addr}
    (h : History tr s) (hp : s.coroutines cid = some p) (hlast : s'.lastCid = s.lastCid)
    (hreg : s'.coroutines = Function.update s.coroutines cid none)
    : History (tr ++ [.finished cid p]) s' where
  registered := by
    intro cid' q
    rw [hreg]
    by_cases hcid : cid' = cid
    . subst hcid
      simp only [Function.update_self, reduceCtorEq, List.mem_append, List.mem_singleton,
        Event.finished.injEq, true_and, not_or, false_iff, not_and, or_false]
      -- A cid belongs to one address only, hence `q` is either `p` or not registered.
      intro hmem hfin hqp
      have hq := (h.registered cid' q).mpr ⟨hmem, hfin⟩
      rw [hp] at hq
      injection hq with hq
      apply hqp hq.symm
    . simp only [ne_eq, hcid, not_false_eq_true, Function.update_of_ne, h.registered]
      simp [hcid]
  created_le := by
    intro cid' q hmem
    simp only [List.mem_append, List.mem_singleton, reduceCtorEq, or_false] at hmem
    have := h.created_le _ _ hmem
    omega
  finished_le := by
    intro cid' q hmem
    rw [List.mem_append] at hmem
    cases hmem with
    | inl hmem =>
      have := h.finished_le _ _ hmem
      omega
    | inr hmem =>
      simp only [List.mem_singleton, Event.finished.injEq] at hmem
      have := h.created_le _ _ ((h.registered cid p).mp hp).1
      omega
  increasing := by
    have : createdCids (tr ++ [.finished cid p]) = createdCids tr := by
      simp [createdCids]
    rw [this]
    apply h.increasing

theorem History.same {tr : List Event} {s s' : Runtime} (h : History tr s) (hsame : Same s s')
    : History (tr ++ []) s' := by
  rw [List.append_nil]
  constructor
  . rw [hsame.coroutines]
    apply h.registered
  . rw [hsame.lastCid]
    apply h.created_le
  . rw [hsame.lastCid]
    apply h.finished_le
  . apply h.increasing

theorem Run.inv {tr : List Event} {s : Runtime} (h : machine.Run Valid tr s)
    : (∃ l, s.Inv l) ∧ History tr s := by
  refine Machine.Run.invariant (I := fun tr s => (∃ l, s.Inv l) ∧ History tr s) ?_ ?_ h
  . exact ⟨⟨[], inv_init⟩, history_init⟩
  . rintro tr s c s' es _ ⟨⟨l, hinv⟩, hhist⟩ hv hs
    obtain ⟨p, _, rfl, hinv', hlast, hreg⟩ | ⟨p, _, rfl, hinv', hsame⟩
      | ⟨p, t, _, rfl, _, hinv', hsame⟩ | ⟨p, t, co, _, _, hco, rfl, hinv', hlast, hreg⟩ :=
      hinv.step_cases hv hs
    . exact ⟨⟨_, hinv'⟩, hhist.create hlast hreg⟩
    . exact ⟨⟨_, hinv'⟩, hhist.same hsame⟩
    . exact ⟨⟨_, hinv'⟩, hhist.same hsame⟩
    . have hp := (hinv.registered co.cid p).mpr ⟨co, hco, rfl⟩
      exact ⟨⟨_, hinv'⟩, hhist.finish hp hlast hreg⟩

/--
The rest of a call that was made on the native stack `st`: other stacks execute until control is
back on `st` for the first time.
-/
inductive Returns (st : Option Addr) : Runtime → Runtime → Prop where
  | back {s : Runtime} (h : s.stack = st) : Returns st s s
  | step {s s' s'' : Runtime} {c : Cmd} {es : List Event} (hne : s.stack ≠ st) (hv : s.Valid c)
      (hs : s.step c = .ok (s', es)) (h : Returns st s' s'') : Returns st s s''

theorem Returns.inv {st : Option Addr} {s s' : Runtime} {l m : List Addr} (h : Returns st s s')
    (hst : st = l.head?) (hinv : s.Inv (m ++ l))
    : s'.Inv l := by
  induction h generalizing m with
  | back hstack =>
    cases m with
    | nil => exact hinv
    | cons q m =>
      -- `q` would have to be on top of `l` and above `l` at once.
      have hq := hinv.stack
      rw [hstack, hst] at hq
      have hmem : q ∈ l := List.mem_of_mem_head? hq
      have := hinv.nodup
      simp [hmem] at this
  | step hne hv hs _ ih =>
    obtain ⟨p, _, _, hinv', _, _⟩ | ⟨p, _, _, hinv', _⟩
      | ⟨p, t, _, _, hl, hinv', _⟩ | ⟨p, t, co, _, hl, _, _, hinv', _, _⟩ :=
      hinv.step_cases hv hs
    . apply ih (m := p :: m) hinv'
    . apply ih (m := p :: m) hinv'
    all_goals
      cases m with
      | nil =>
        have := hinv.stack
        simp only [List.nil_append] at this
        apply absurd (this.trans hst.symm) hne
      | cons q m =>
        simp only [List.cons_append, List.cons.injEq] at hl
        rw [← hl.2] at hinv'
        apply ih hinv'

theorem call_returns {s s₁ s₂ : Runtime} {l : List Addr} {c : Cmd} {es : List Event}
    (hinv : s.Inv l) (hcall : c.isCall) (hv : s.Valid c) (hs : s.step c = .ok (s₁, es))
    (hret : Returns s.stack s₁ s₂)
    : s₂.Inv l := by
  obtain ⟨p, _, _, hinv', _, _⟩ | ⟨p, _, _, hinv', _⟩
    | ⟨p, t, rfl, _⟩ | ⟨p, t, co, rfl, _⟩ := hinv.step_cases hv hs
  . apply hret.inv (m := [p]) hinv.stack hinv'
  . apply hret.inv (m := [p]) hinv.stack hinv'
  . simp [Cmd.isCall] at hcall
  . simp [Cmd.isCall] at hcall

theorem leave_returns_to_origin {s : Runtime} {l : List Addr} {c : Cmd} (hinv : s.Inv l)
    (hcall : c.isCall = false) (hv : s.Valid c)
    : ∃ p co s' es, s.current = some p ∧ s.heap p = some co ∧ s.step c = .ok (s', es)
        ∧ s'.current = co.origin ∧ s'.stack = co.origin := by
  cases l with
  | nil => cases c <;> first | exact absurd hinv.stack hv | simp [Cmd.isCall] at hcall
  | cons p t =>
    rcases hinv.active with ⟨co, hco, hact⟩
    rcases hinv.step_ok hv with ⟨s', es, hs⟩ | ⟨⟨q, rfl⟩, _⟩
    . refine ⟨p, co, s', es, hinv.current, hco, hs, ?_⟩
      rw [hact.origin]
      obtain ⟨q, rfl, _⟩ | ⟨q, hcall', _⟩
        | ⟨q, t', _, _, hl, hinv', _⟩ | ⟨q, t', co', _, hl, _, _, hinv', _, _⟩ :=
        hinv.step_cases hv hs
      . simp [Cmd.isCall] at hcall
      . simp [hcall] at hcall'
      . injection hl with _ hl
        subst hl
        exact ⟨hinv'.current, hinv'.stack⟩
      . injection hl with _ hl
        subst hl
        exact ⟨hinv'.current, hinv'.stack⟩
    . simp [Cmd.isCall] at hcall

theorem stack_discipline {tr : List Event} {s : Runtime} (h : machine.Run Valid tr s)
    : (∃ l, OriginChain s s.current l ∧ SwapChain s s.stack l ∧ l.Nodup)
      ∧ (∀ c, c.isCall = false → s.Valid c →
          ∃ p co s' es, s.current = some p ∧ s.heap p = some co ∧ s.step c = .ok (s', es)
            ∧ s'.current = co.origin ∧ s'.stack = co.origin)
      ∧ (∀ c, s.Valid c →
          (∃ s' es, s.step c = .ok (s', es)) ∨ ((∃ p, c = .create p) ∧ s.lastCid = LONG_MAX))
      ∧ (∀ c s₁ es s₂, c.isCall → s.Valid c → s.step c = .ok (s₁, es) → Returns s.stack s₁ s₂ →
          s₂.current = s.current
            ∧ ∃ l, OriginChain s s.current l ∧ OriginChain s₂ s₂.current l)
      ∧ (∀ cid p, s.coroutines cid = some p ↔ .created cid p ∈ tr ∧ .finished cid p ∉ tr)
      ∧ (∀ cid p, s.coroutines cid = some p → ∃ co, s.heap p = some co ∧ co.cid = cid)
      ∧ (createdCids tr).Pairwise (· < ·) := by
  rcases Run.inv h with ⟨⟨l, hinv⟩, hhist⟩
  refine ⟨?_, ?_, ?_, ?_, hhist.registered, ?_, hhist.increasing⟩
  . refine ⟨l, hinv.originChain, ?_, hinv.nodup⟩
    rw [hinv.stack]
    apply hinv.linked.swapChain
  . intro c hcall hv
    apply leave_returns_to_origin hinv hcall hv
  . intro c hv
    apply hinv.step_ok hv
  . intro c s₁ es s₂ hcall hv hs hret
    have hinv₂ := call_returns hinv hcall hv hs hret
    refine ⟨?_, l, hinv.originChain, hinv₂.originChain⟩
    rw [hinv.current, hinv₂.current]
  . intro cid p hreg
    apply (hinv.registered cid p).mp hreg

def originList (s : Runtime) : Nat → Option Addr → Option (List Addr)
  | _, none => some []
  | 0, some _ => none
  | n + 1, some p => do
    let co ← s.heap p
    let l ← originList s n co.origin
    return p :: l

theorem originChain_of_originList {s : Runtime} {n : Nat} {p : Option Addr} {l : List Addr}
    (h : s.originList n p = some l)
    : OriginChain s p l := by
  induction n generalizing p l with
  | zero =>
    cases p with
    | none =>
      simp only [originList, Option.some.injEq] at h
      rw [← h]
      exact .nil
    | some p => simp [originList] at h
  | succ n ih =>
    cases p with
    | none =>
      simp only [originList, Option.some.injEq] at h
      rw [← h]
      exact .nil
    | some p =>
      simp only [originList, bind, Option.bind_eq_some_iff, pure, Option.some.injEq] at h
      rcases h with ⟨co, hco, l', hl', rfl⟩
      exact .cons hco (ih hl')

def checkValid (s : Runtime) : Cmd → Bool
  | .create p => (s.heap p).isNone
  | .yield => s.stack.isSome
  | .resume p =>
    (s.heap p).any (fun co => s.coroutines co.cid = some p)
      && (s.originList 8 s.current).any (fun l => p ∉ l)
  | .resumeCid cid =>
    (s.coroutines cid).any (fun p => (s.originList 8 s.current).any (fun l => p ∉ l))
  | .finish => s.stack.isSome

theorem not_onChain_of_originList {s : Runtime} {p : Addr}
    (h : (s.originList 8 s.current).any (fun l => p ∉ l))
    : ¬s.OnChain p := by
  rintro ⟨l, hchain, hmem⟩
  cases hl : s.originList 8 s.current with
  | none => simp [hl] at h
  | some l' =>
    rw [(originChain_of_originList hl).unique hchain] at hl
    simp [hl, hmem] at h

theorem valid_of_checkValid {s : Runtime} {c : Cmd} (h : s.checkValid c)
    : s.Valid c := by
  cases c with
  | create p => simpa [checkValid, Valid] using h
  | yield => simpa [checkValid, Valid, Option.isSome_iff_ne_none] using h
  | resume p =>
    simp only [checkValid, Bool.and_eq_true] at h
    refine ⟨?_, not_onChain_of_originList h.2⟩
    cases hco : s.heap p with
    | none => simp [hco] at h
    | some co => exact ⟨co.cid, by simpa [hco] using h.1⟩
  | resumeCid cid =>
    simp only [checkValid] at h
    cases hp : s.coroutines cid with
    | none => simp [hp] at h
    | some p =>
      refine ⟨p, hp, not_onChain_of_originList ?_⟩
      rw [hp, Option.any_some] at h
      exact h
  | finish => simpa [checkValid, Valid, Option.isSome_iff_ne_none] using h

theorem stack_discipline_nested
    : ∃ tr s, machine.Run Valid tr s ∧ s.coroutines 1 = some 1 ∧ s.coroutines 2 = none
        ∧ createdCids tr = [1, 2] ∧ (createdCids tr).Pairwise (· < ·) := by
  have hexec : (machine.exec (fun s c => s.checkValid c)
      [.create 1, .create 2, .yield, .yield, .resumeCid 2, .finish]).map
        (fun r => (r.1.coroutines 1, r.1.coroutines 2, createdCids r.2))
      = some (some 1, none, [1, 2]) := by decide
  rcases Option.map_eq_some_iff.mp hexec with ⟨⟨s, tr⟩, he, heq⟩
  simp only [Prod.mk.injEq] at heq
  have h := (Machine.run_of_exec he).mono (fun _ _ => valid_of_checkValid)
  exact ⟨tr, s, h, heq.1, heq.2.1, heq.2.2, (stack_discipline h).2.2.2.2.2.2⟩

end Runtime
end Fsw

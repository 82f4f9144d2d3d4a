import Fsw.Coroutine.Lemmas.HandOff

namespace Fsw
namespace Sys

def Returned (tr : List Event) (call : Nat) : Prop :=
  (∃ ret, .retPush call ret ∈ tr) ∨ ∃ ret, .retPop call ret ∈ tr

structure NoStale (tr : List Event) (s : Sys) : Prop where
  queued : ∀ w ∈ s.chan.consumerQueue ++ s.chan.producerQueue, ¬Returned tr w.call
  resumePop : ∀ call w, s.here = .pushResume call w →
    s.rt.Suspended w.co ∧ s.point (some w.co) = .popWait w.call ∧ s.rt.current ≠ some w.co
  resumePush : ∀ call data w, s.here = .popResume call data w →
    s.rt.Suspended w.co ∧ (∃ data', s.point (some w.co) = .pushWait w.call data')
      ∧ s.rt.current ≠ some w.co

def Cmd.target : Cmd → Option Addr
  | .resume p => some p
  | _ => none

def NoResume (_ : Sys) (c : Cmd) : Prop :=
  c.target = none

instance (s : Sys) (c : Cmd) : Decidable (NoResume s c) :=
  inferInstanceAs (Decidable (c.target = none))

theorem popCall_eq_some {pt : Point} {call : Nat}
    : pt.popCall = some call ↔ pt = .popWait call := by
  cases pt <;> simp [Point.popCall]

theorem pushCall_eq_some {pt : Point} {call : Nat}
    : pt.pushCall = some call ↔ ∃ data, pt = .pushWait call data := by
  cases pt <;> simp [Point.pushCall]

theorem not_returned {tr : List Event} {s : Sys} {st : Option Addr} {call : Nat}
    (h : Log tr s.point s.calls) (hst : (s.point st).call = some call)
    : ¬Returned tr call := by
  intro hret
  rcases hret with ⟨ret, hmem⟩ | ⟨ret, hmem⟩
  . apply (returned_of_ret h hmem rfl rfl).1 st hst
  . apply (returned_of_ret h hmem rfl rfl).1 st hst

/--
If no timer fires for a coroutine that is blocked in the channel, and nobody else resumes one
either, then there are no stale waiters.
-/
theorem no_stale_waiter {capacity : Nat} {tr : List Event} {s : Sys}
    (h : (machine capacity).Run ByChannel tr s)
    : NoStale tr s := by
  have hho := Run.handOff (fun _ _ hp => hp) h
  have hlog := Run.log h
  rcases Run.shape h with ⟨l, hshape⟩
  constructor
  . intro w hw
    rcases List.mem_append.mp hw with hw | hw
    . apply not_returned hlog
      rw [popCall_eq_some.mp (hho.blocked_of_mem_consumerQueue hw).2]
      rfl
    . rcases pushCall_eq_some.mp (hho.blocked_of_mem_producerQueue hw).2 with ⟨data, hpoint⟩
      apply not_returned hlog
      rw [hpoint]
      rfl
  . intro call w hhere
    have hblocked := hho.blocked_of_pushResume hhere
    refine ⟨hblocked.1, popCall_eq_some.mp hblocked.2, ?_⟩
    apply hshape.inv.current_ne_of_suspended hblocked.1
  . intro call data w hhere
    have hblocked := hho.blocked_of_popResume hhere
    refine ⟨hblocked.1, pushCall_eq_some.mp hblocked.2, ?_⟩
    apply hshape.inv.current_ne_of_suspended hblocked.1

theorem no_stale_waiter_timed
    : ∃ tr s, (machine 1).Run ByChannel tr s ∧ s.here = .pushResume 1 ⟨1, 0⟩ ∧ s.timers.length = 1
        ∧ s.rt.Suspended 1 ∧ s.point (some 1) = .popWait 0 := by
  have hexec : ((machine 1).exec ByChannel
      [.create 1, .pop ⟨true, 5⟩, .create 2, .push (some 7) ⟨false, 0⟩]).map
        (fun r => (r.1.here, r.1.timers.length))
      = some (.pushResume 1 ⟨1, 0⟩, 1) := by decide
  rcases Option.map_eq_some_iff.mp hexec with ⟨⟨s, tr⟩, he, heq⟩
  simp only [Prod.mk.injEq] at heq
  have h := Machine.run_of_exec he
  have hresume := (no_stale_waiter h).resumePop 1 ⟨1, 0⟩ heq.1
  exact ⟨tr, s, h, heq.1, heq.2, hresume.1, hresume.2.1⟩

section Timeout

variable {capacity now : Nat} {tr : List Event} {s : Sys} {t : Timer Waiter}

theorem run_two {s₁ s₂ : Sys} {c₁ c₂ : Cmd} {es₁ es₂ : List Event}
    (h : (machine capacity).Run ByChannel tr s) (hs₁ : s.step c₁ = .ok (s₁, es₁))
    (hs₂ : s₁.step c₂ = .ok (s₂, es₂))
    : (machine capacity).Run (fun _ _ => True) (tr ++ (es₁ ++ es₂)) s₂ := by
  have hrun : (machine capacity).Run (fun _ _ => True) tr s := by
    apply h.mono
    intros
    trivial
  have hrun₁ : (machine capacity).Run (fun _ _ => True) (tr ++ es₁) s₁ := .step hrun trivial hs₁
  rw [← List.append_assoc]
  exact .step hrun₁ trivial hs₂

theorem callback_eq {p : Addr} {l : List Addr} (hshape : Shape s.rt s.point l)
    (hhere : s.here = .callback now t) (hco : t.privateData.co = p) (hp : s.rt.Suspended p)
    : ∃ s', s.step (.go 0) = .ok (s', [.fire t.privateData.call]) ∧ s'.chan = s.chan
        ∧ s'.here = s.point (some p) := by
  rcases hshape.inv.resume hp with ⟨rt, hrt, _, _⟩
  refine ⟨{ s.goto (.runTimers now) with rt := rt }, ?_, rfl, ?_⟩
  . simp only [step, goStep, hhere, resumeAt, goto, hco, hrt]
    rfl
  . apply here_enter hshape hrt rfl

-- The other direction of the above: the first time a timer fires for a coroutine that is blocked in
-- the channel, the call returns and its waiter stays.
theorem stale_of_timeout (h : (machine capacity).Run ByChannel tr s)
    (hhere : s.here = .callback now t) (hblocked : s.Blocked t.privateData.co)
    : ∃ es s', (machine capacity).Run (fun _ _ => True) (tr ++ es) s' ∧ ¬NoStale (tr ++ es) s' := by
  have hho := Run.handOff (fun _ _ hp => hp) h
  rcases Run.shape h with ⟨l, hshape⟩
  rcases hho.plain (by rw [hhere]; rfl) with ⟨hpop, hpush, hset⟩
  rcases hblocked with ⟨call, hblocked | hblocked⟩
  . rcases callback_eq hshape hhere rfl hblocked.1 with ⟨s₁, hs₁, hchan, hhere₁⟩
    rw [popCall_eq_some.mp hblocked.2] at hhere₁
    have hmem := (hpop.mem ⟨_, call⟩).mpr hblocked
    have hdata : s₁.chan.dataQueue = [] := by
      rw [hchan]
      apply hset.1 (List.ne_nil_of_mem hmem)
    have hs₂ : s₁.step (.go 0) = .ok (s₁.goto .user, [.retPop call none]) := by
      simp [step, goStep, hhere₁, popData, hdata]
    refine ⟨_, _, run_two h hs₁ hs₂, ?_⟩
    intro hstale
    apply hstale.queued ⟨_, call⟩
    . rw [List.mem_append]
      left
      rw [show (s₁.goto .user).chan = s.chan from hchan]
      exact hmem
    . right
      exact ⟨none, by simp⟩
  . rcases callback_eq hshape hhere rfl hblocked.1 with ⟨s₁, hs₁, hchan, hhere₁⟩
    rcases pushCall_eq_some.mp hblocked.2 with ⟨data, hpoint⟩
    rw [hpoint] at hhere₁
    have hmem := (hpush.mem ⟨_, call⟩).mpr hblocked
    have hdata : s₁.chan.dataQueue.length = s₁.chan.capacity := by
      rw [hchan]
      apply hset.2 (List.ne_nil_of_mem hmem)
    have hs₂ : s₁.step (.go 0) = .ok (s₁.goto .user, [.retPush call false]) := by
      simp [step, goStep, hhere₁, pushData, hdata]
    refine ⟨_, _, run_two h hs₁ hs₂, ?_⟩
    intro hstale
    apply hstale.queued ⟨_, call⟩
    . rw [List.mem_append]
      right
      rw [show (s₁.goto .user).chan = s.chan from hchan]
      exact hmem
    . left
      exact ⟨false, by simp⟩

end Timeout

-- The `pop` of coroutine 1 times out and coroutine 1 ends. The `push` of coroutine 2 resumes it.
theorem stale_waiter_resumed
    : ∃ tr s, (machine 1).Run NoResume tr s ∧ .retPop 0 none ∈ tr ∧ s.here = .pushResume 1 ⟨1, 0⟩
        ∧ s.rt.heap 1 = none ∧ (∃ e, s.step (.go 0) = .error e) ∧ ¬NoStale tr s := by
  have hexec : ((machine 1).exec NoResume
      [.create 1, .pop ⟨true, 1⟩, .tick 1, .runTimers, .go 0, .go 0, .go 0, .finish, .go 0,
       .create 2, .push (some 7) ⟨false, 0⟩]).map
        (fun r => (decide (.retPop 0 none ∈ r.2), r.1.here, r.1.rt.heap 1,
          match r.1.step (.go 0) with
          | .ok _ => none
          | .error e => some e))
      = some (true, .pushResume 1 ⟨1, 0⟩, none, some .useAfterFree) := by decide
  rcases Option.map_eq_some_iff.mp hexec with ⟨⟨s, tr⟩, he, heq⟩
  simp only [Prod.mk.injEq, decide_eq_true_eq] at heq
  rcases heq with ⟨hret, hhere, hdead, hfault⟩
  refine ⟨tr, s, Machine.run_of_exec he, hret, hhere, hdead, ?_, ?_⟩
  . split at hfault
    . contradiction
    . next e hstep => exact ⟨e, hstep⟩
  . intro hstale
    rcases (hstale.resumePop 1 ⟨1, 0⟩ hhere).1 with ⟨co, hco, _⟩
    rw [hdead] at hco
    contradiction

end Sys
end Fsw

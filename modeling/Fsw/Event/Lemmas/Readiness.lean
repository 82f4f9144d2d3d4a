import Fsw.Event.Lemmas.Socket

namespace Fsw
namespace Sockets

def Op.needed : Op → BitVec 32
  | .accept => EPOLLIN
  | .recv => EPOLLIN
  | .recvAll => EPOLLIN
  | .send => EPOLLOUT
  | .sendAll => EPOLLOUT
  | .connect => EPOLLOUT

theorem mask_awaited_iff {op : Op} : mask op.awaited = op.needed ↔ op ≠ .sendAll := by
  cases op with
  | accept | recv | recvAll | send | sendAll | connect => decide

def Suspends (s : Sockets) (p : Addr) (op : Op) (fd : BitVec 32) : Prop :=
  s.call p = some (op, fd) ∧ ∃ call, s.loop.point (some p) = .waitEvent call fd

def Reports (ev : EpollEvent) (readable writable : Bool) : Prop :=
  ev.events = EPOLLIN ∧ readable ∨ ev.events = EPOLLOUT ∧ writable

structure Right (s : Sockets) : Prop where
  needed : ∀ p op fd, s.Suspends p op fd → ∃ ev, s.interest fd = some ev ∧ ev.events = op.needed
  notStuck : ∀ p fd readable, s.Suspends p .sendAll fd → ∃ ev, s.interest fd = some ev
    ∧ Reports ev readable true

def Cmd.IsClose : Cmd → Prop
  | .close _ => True
  | .own _ | .call _ _ | .result _ | .go _ _ => False

structure Registered (s : Sockets) : Prop where
  record : ∀ p op fd, s.Suspends p op fd → ∃ ev, s.interest fd = some ev
    ∧ ev.events = mask op.awaited
  unique : ∀ p q op op' fd, s.Suspends p op fd → s.Suspends q op' fd → p = q

theorem registered_init : init.Registered := by
  constructor
  . intro p op fd h
    cases h.1
  . intro p q op op' fd h
    cases h.1

section Step

variable {s s' : Sockets} {es tr : List Loop.Event} {c : Cmd}

theorem Registered.of_suspends (h : s.Registered)
    (hsuspends : ∀ p op fd, s'.Suspends p op fd → s.Suspends p op fd
      ∧ s'.interest fd = s.interest fd)
    : s'.Registered := by
  constructor
  . intro p op fd hp
    rcases hsuspends p op fd hp with ⟨hp, hinterest⟩
    rw [hinterest]
    exact h.record p op fd hp
  . intro p q op op' fd hp hq
    exact h.unique p q op op' fd (hsuspends p op fd hp).1 (hsuspends q op' fd hq).1

theorem suspends_of_call {p q : Addr} {op : Op} {fd : BitVec 32} (h : s'.Suspends q op fd)
    (hhere : s.loop.here = .user) (hstack : s.loop.rt.stack = some p)
    (hcall : ∀ q, q ≠ p → s'.call q = s.call q)
    (hpoint : ∀ q call fd, s'.loop.point (some q) = .waitEvent call fd
      → s.loop.point (some q) = .waitEvent call fd)
    : s.Suspends q op fd := by
  rcases h with ⟨hq, call, hwaits⟩
  have hwaits := hpoint q call fd hwaits
  have hne : q ≠ p := fun heq => here_of_waits hwaits hhere (by rw [hstack, heq])
  rw [hcall q hne] at hq
  exact ⟨hq, call, hwaits⟩

theorem suspends_step {p : Addr} {op : Op} {fd : BitVec 32} (hinv : s.Inv) (hstep : Step s c es s')
    (h : s'.Suspends p op fd)
    : s.Suspends p op fd ∨ c = .result (.again true) ∧ s.loop.rt.stack = some p
        ∧ s.call p = some (op, fd) := by
  cases hstep with
  | idle => exact .inl h
  | quiet hquiet hloop =>
    rcases h with ⟨hcall, call, hwaits⟩
    rw [point_quiet hinv.alive hquiet (Loop.Step.of_step hloop)] at hwaits
    exact .inl ⟨hcall, call, hwaits⟩
  | run hhere hstack hloop =>
    rcases h with ⟨_, call, hwaits⟩
    exact absurd hwaits (not_waits_run hinv hhere hstack hloop)
  | call hhere hstack =>
    left
    exact suspends_of_call h hhere hstack (fun q hq => Function.update_of_ne hq _ _)
      fun _ _ _ hwaits => hwaits
  | close => exact .inl h
  | leave hhere hstack =>
    left
    exact suspends_of_call h hhere hstack (fun q hq => Function.update_of_ne hq _ _)
      fun _ _ _ hwaits => hwaits
  | addFailed hhere hstack hloop =>
    left
    refine suspends_of_call h hhere hstack (fun q hq => Function.update_of_ne hq _ _) ?_
    intro q call fd hwaits
    exact (point_quiet hinv.alive quiet_addFailed (Loop.Step.of_step hloop) q call fd).mp hwaits
  | wait hhere hstack hcall hfree hloop =>
    rcases h with ⟨hp, call, hwaits⟩
    rcases (point_entered (entered_of_step hhere hstack hloop)).mp hwaits with
      ⟨rfl, _, rfl⟩ | ⟨_, hwaits⟩
    . exact .inr ⟨rfl, hstack, hp⟩
    . exact .inl ⟨hp, call, hwaits⟩
  | removed hhere hstack hreg hloop =>
    rcases h with ⟨hp, call, hwaits⟩
    rw [point_left hhere hstack hloop] at hwaits
    exact .inl ⟨hp, call, hwaits.1⟩
  | lost hhere hstack hreg hloop =>
    rcases h with ⟨hp, call, hwaits⟩
    rw [point_left hhere hstack hloop] at hwaits
    refine .inl ⟨?_, call, hwaits.1⟩
    rw [← hp]
    exact (Function.update_of_ne hwaits.2 _ _).symm

theorem Registered.wait {p : Addr} {op : Op} {fd : BitVec 32} {loop : Loop}
    (h : s.Registered) (hinv : s.Inv) (hhere : s.loop.here = .user)
    (hstack : s.loop.rt.stack = some p) (hcall : s.call p = some (op, fd))
    (hfree : s.interest fd = none)
    (hloop : s.loop.step (.waitEvent fd op.awaited true) = .ok (loop, es))
    : Registered
        { s with loop := loop, interest := Function.update s.interest fd loop.events[0]? } := by
  have hentered := entered_of_step hhere hstack hloop
  rcases hentered.record (hinv.allocated.of_stack hstack) with ⟨ev, hev, hmask⟩
  -- Nobody else waits for this socket, it would be registered.
  have hother {q : Addr} {op' : Op} {fd' : BitVec 32} (hne : q ≠ p)
      (hq : Suspends { s with
        loop := loop, interest := Function.update s.interest fd loop.events[0]? } q op' fd')
      : s.Suspends q op' fd' ∧ fd' ≠ fd := by
    rcases hq with ⟨hq, call, hwaits⟩
    rcases (point_entered hentered).mp hwaits with ⟨heq, _⟩ | ⟨_, hwaits⟩
    . contradiction
    . refine ⟨⟨hq, call, hwaits⟩, ?_⟩
      intro heq
      rcases h.record q op' fd' ⟨hq, call, hwaits⟩ with ⟨ev', hev', _⟩
      rw [heq, hfree] at hev'
      contradiction
  have hself {op' : Op} {fd' : BitVec 32}
      (hq : Suspends { s with
        loop := loop, interest := Function.update s.interest fd loop.events[0]? } p op' fd')
      : op' = op ∧ fd' = fd := by
    have hq := hq.1
    dsimp only at hq
    rw [hcall] at hq
    simp only [Option.some.injEq, Prod.mk.injEq] at hq
    exact ⟨hq.1.symm, hq.2.symm⟩
  constructor
  . intro q op' fd' hq
    by_cases hne : q = p
    . subst hne
      rcases hself hq with ⟨rfl, rfl⟩
      dsimp only
      rw [Function.update_self]
      exact ⟨ev, hev, hmask⟩
    . rcases hother hne hq with ⟨hq, hfd⟩
      dsimp only
      rw [Function.update_of_ne hfd]
      exact h.record q op' fd' hq
  . intro q r op' op'' fd' hq hr
    by_cases hqp : q = p
    . by_cases hrp : r = p
      . rw [hqp, hrp]
      . rw [hqp] at hq
        exact absurd (hself hq).2 (hother hrp hr).2
    . by_cases hrp : r = p
      . rw [hrp] at hr
        exact absurd (hself hr).2 (hother hqp hq).2
      . exact h.unique q r op' op'' fd' (hother hqp hq).1 (hother hrp hr).1

theorem Inv.suspends {p : Addr} {call : Nat} {fd : BitVec 32} (h : s.Inv)
    (hhere : s.loop.here = .waitEvent call fd) (hstack : s.loop.rt.stack = some p)
    : ∃ op, s.Suspends p op fd := by
  rw [Loop.here, hstack] at hhere
  rcases h.waits p call fd hhere with ⟨op, hcall⟩
  exact ⟨op, hcall, call, hhere⟩

theorem Registered.removed {p : Addr} {call : Nat} {fd : BitVec 32} {ready : List EpollEvent}
    {top : Nat} {loop : Loop} (h : s.Registered) (hinv : s.Inv)
    (hhere : s.loop.here = .waitEvent call fd) (hstack : s.loop.rt.stack = some p)
    (hloop : s.loop.step (.go true ready top) = .ok (loop, es))
    : Registered { s with loop := loop, interest := Function.update s.interest fd none } := by
  rcases hinv.suspends hhere hstack with ⟨op, hp⟩
  apply h.of_suspends
  rintro q op' fd' ⟨hcall, call', hwaits⟩
  rw [point_left hhere hstack hloop] at hwaits
  have hq : s.Suspends q op' fd' := ⟨hcall, call', hwaits.1⟩
  refine ⟨hq, Function.update_of_ne ?_ _ _⟩
  intro heq
  rw [heq] at hq
  exact hwaits.2 (h.unique q p op' op fd hq hp)

theorem Registered.step (h : s.Registered) (hinv : s.Inv) (hclose : ¬c.IsClose)
    (hstep : Step s c es s')
    : s'.Registered := by
  cases hstep with
  | idle => exact h
  | quiet hquiet hloop =>
    apply h.of_suspends
    rintro p op fd ⟨hcall, call, hwaits⟩
    rw [point_quiet hinv.alive hquiet (Loop.Step.of_step hloop)] at hwaits
    exact ⟨⟨hcall, call, hwaits⟩, rfl⟩
  | run hhere hstack hloop =>
    apply h.of_suspends
    rintro p op fd ⟨_, call, hwaits⟩
    exact absurd hwaits (not_waits_run hinv hhere hstack hloop)
  | call hhere hstack =>
    apply h.of_suspends
    intro p op fd hp
    exact ⟨suspends_of_call hp hhere hstack (fun q hq => Function.update_of_ne hq _ _)
      fun _ _ _ hwaits => hwaits, rfl⟩
  | close => exact absurd trivial hclose
  | leave hhere hstack =>
    apply h.of_suspends
    intro p op fd hp
    exact ⟨suspends_of_call hp hhere hstack (fun q hq => Function.update_of_ne hq _ _)
      fun _ _ _ hwaits => hwaits, rfl⟩
  | addFailed hhere hstack hloop =>
    apply h.of_suspends
    intro p op fd hp
    refine ⟨suspends_of_call hp hhere hstack (fun q hq => Function.update_of_ne hq _ _) ?_, rfl⟩
    intro q call fd hwaits
    exact (point_quiet hinv.alive quiet_addFailed (Loop.Step.of_step hloop) q call fd).mp hwaits
  | wait hhere hstack hcall hfree hloop => exact h.wait hinv hhere hstack hcall hfree hloop
  | removed hhere hstack hreg hloop => exact h.removed hinv hhere hstack hloop
  | lost hhere hstack hreg hloop =>
    rcases hinv.suspends hhere hstack with ⟨op, hp⟩
    rcases h.record _ op _ hp with ⟨ev, hev, _⟩
    rw [hreg] at hev
    contradiction

theorem run_registered (h : machine.Run (fun _ c => ¬c.IsClose) tr s) : s.Registered := by
  apply h.invariant (I := fun _ s => s.Registered) registered_init
  intro tr s c s' es hrun ih hclose hstep
  have hinv := run_inv hrun
  exact ih.step hinv hclose (.of_step hinv.main hstep)

-- No `send_all` finds that the kernel has no room.
def Unblocked (s : Sockets) (c : Cmd) : Prop :=
  ¬c.IsClose ∧ ∀ p fd, s.loop.rt.stack = some p → s.call p = some (.sendAll, fd)
    → c ≠ .result (.again true)

theorem run_unblocked (h : machine.Run Unblocked tr s) : ∀ p fd, ¬s.Suspends p .sendAll fd := by
  apply h.invariant (I := fun _ s => ∀ p fd, ¬s.Suspends p .sendAll fd)
  . intro p fd h
    cases h.1
  . intro tr s c s' es hrun ih hp hstep p fd hsuspends
    have hinv := run_inv hrun
    rcases suspends_step hinv (.of_step hinv.main hstep) hsuspends with
      hbefore | ⟨hc, hstack, hcall⟩
    . exact ih p fd hbefore
    . exact hp.2 p fd hstack hcall hc

theorem right_iff_of_registered (h : s.Registered)
    : s.Right ↔ ∀ p fd, ¬s.Suspends p .sendAll fd := by
  constructor
  . intro hright p fd hp
    rcases h.record p .sendAll fd hp with ⟨ev, hev, hmask⟩
    rcases hright.needed p .sendAll fd hp with ⟨ev', hev', hneeded⟩
    rw [hev] at hev'
    injection hev' with hev'
    rw [← hev', hmask] at hneeded
    exact mask_awaited_iff.mp hneeded rfl
  . intro hnone
    constructor
    . intro p op fd hp
      have hop : op ≠ .sendAll := by
        intro heq
        rw [heq] at hp
        exact hnone p fd hp
      rcases h.record p op fd hp with ⟨ev, hev, hmask⟩
      exact ⟨ev, hev, by rw [hmask, mask_awaited_iff.mpr hop]⟩
    . intro p fd readable hp
      exact absurd hp (hnone p fd)

/--
Everybody who waits is registered for the event that he needs if and only if nobody waits in
`send_all`, which is so at any time if the kernel always has room for what `send_all` sends.
-/
theorem right_iff (h : machine.Run (fun _ c => ¬c.IsClose) tr s)
    : (s.Right ↔ ∀ p fd, ¬s.Suspends p .sendAll fd) ∧ (machine.Run Unblocked tr s → s.Right) := by
  have hright := right_iff_of_registered (run_registered h)
  refine ⟨hright, ?_⟩
  intro hrun
  exact hright.mpr (run_unblocked hrun)

end Step

instance {c : Cmd} : Decidable c.IsClose :=
  match c with
  | .close _ => inferInstanceAs (Decidable True)
  | .own _ | .call _ _ | .result _ | .go _ _ => inferInstanceAs (Decidable False)

def blocked (op : Op) : List Cmd :=
  [.own (.run 1), .call op 5, .result (.again true)]

def onlyCall (op : Op) : Addr → Option (Op × BitVec 32) :=
  Function.update (fun _ => none) 1 (some (op, 5))

theorem blocked_run (op : Op)
    : ∃ tr s, machine.Run (fun _ c => ¬c.IsClose) tr s ∧ s.call = onlyCall op
        ∧ s.Suspends 1 op 5 ∧ ∃ ev, s.interest 5 = some ev ∧ ev.events = mask op.awaited := by
  have hexec : ((machine.exec (fun _ c => ¬c.IsClose) (blocked op)).map fun r =>
      (r.1.call, r.1.loop.point (some 1), (r.1.interest 5).map (·.events)))
      = some (onlyCall op, .waitEvent 0 5, some (mask op.awaited)) := by
    cases op with
    | accept | recv | recvAll | send | sendAll | connect => rfl
  rcases Option.map_eq_some_iff.mp hexec with ⟨⟨s, tr⟩, hrun, hvalues⟩
  simp only [Prod.mk.injEq] at hvalues
  rcases hvalues with ⟨hcall, hpoint, hinterest⟩
  refine ⟨tr, s, Machine.run_of_exec hrun, hcall, ⟨?_, 0, hpoint⟩,
    Option.map_eq_some_iff.mp hinterest⟩
  rw [hcall, onlyCall, Function.update_self]

theorem right_iff_send
    : ∃ tr s, machine.Run (fun _ c => ¬c.IsClose) tr s ∧ s.Suspends 1 .send 5 ∧ s.Right := by
  rcases blocked_run .send with ⟨tr, s, hrun, hcall, hsuspends, _⟩
  refine ⟨tr, s, hrun, hsuspends, (right_iff hrun).1.mpr ?_⟩
  intro p fd hp
  have hp := hp.1
  rw [hcall, onlyCall, Function.update_apply] at hp
  split at hp
  . cases hp
  . contradiction

-- The peer reads and never writes: the socket gets writable, and it is registered for being
-- readable.
theorem sendAll_stuck
    : ∃ tr s ev, machine.Run (fun _ c => ¬c.IsClose) tr s ∧ s.Suspends 1 .sendAll 5
        ∧ s.interest 5 = some ev
        ∧ ev.events = EPOLLIN ∧ ¬Reports ev false true ∧ ¬s.Right := by
  rcases blocked_run .sendAll with ⟨tr, s, hrun, _, hsuspends, ev, hev, hmask⟩
  have hin : ev.events = EPOLLIN := hmask
  have hreports : ¬Reports ev false true := by
    unfold Reports
    rw [hin]
    decide
  refine ⟨tr, s, ev, hrun, hsuspends, hev, hin, hreports, ?_⟩
  intro hright
  rcases hright.notStuck 1 5 false hsuspends with ⟨ev', hev', hreports'⟩
  rw [hev] at hev'
  injection hev' with hev'
  rw [← hev'] at hreports'
  exact hreports hreports'

end Sockets
end Fsw

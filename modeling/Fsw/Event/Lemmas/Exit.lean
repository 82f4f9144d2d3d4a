import Fsw.Coroutine.Lemmas.TimerManager
import Fsw.Event.Lemmas.Step

namespace Fsw
namespace Loop

variable {s s' : Loop} {tr es : List Event} {c : Cmd}

def Point.IsLoop : Point → Prop
  | .wait | .handleIo _ _ | .runTimers _ => True
  | .user | .waitEvent _ _ | .sleepWait _ => False

/--
`main` is either in its own code, with nothing else to execute, or it is in the event loop, where
nobody else is.
-/
structure Main (s : Loop) : Prop where
  main : s.point none = .user ∧ s.rt.stack = none ∨ (s.point none).IsLoop ∧ s.running > 0
  others : ∀ p, ¬(s.point (some p)).IsLoop

def Counted (s : Loop) : Prop :=
  ∃ l : List Addr, (∀ p call fd, s.point (some p) = .waitEvent call fd → p ∈ l)
    ∧ l.length ≤ s.eventNum

def Armed (s : Loop) (tr : List Event) : Prop :=
  ∀ p call, s.point (some p) = .sleepWait call → (∃ t ∈ s.timers, t.privateData.call = call)
    ∨ .fire call ∈ tr

def Idle (s : Loop) : Prop :=
  s.point none = .user → s.timers = [] ∧ ∀ p call fd, s.point (some p) ≠ .waitEvent call fd

structure Inv (s : Loop) (tr : List Event) : Prop where
  main : s.Main
  counted : s.Counted
  armed : s.Armed tr
  idle : s.Idle

theorem inv_init : Inv init [] := by
  refine ⟨⟨.inl ⟨rfl, rfl⟩, fun p h => h⟩, ⟨[], ?_, ?_⟩, ?_, ?_⟩
  . intro p call fd h
    contradiction
  . exact Int.le_refl 0
  . intro p call h
    contradiction
  . intro _
    refine ⟨rfl, ?_⟩
    intro p call fd h
    contradiction

section Points

variable {pt pt' : Point} {p q : Addr} {x : Option Addr}

theorem point_of_update (hpoint : s'.point = Function.update s.point x pt) (hne : pt ≠ pt')
    (h : s'.point (some p) = pt') : s.point (some p) = pt' := by
  rw [hpoint, Function.update_apply] at h
  split at h
  . exact absurd h hne
  . exact h

theorem goto_point (hstack : s.rt.stack = x)
    : (s.goto pt).point = Function.update s.point x pt := by
  rw [goto, hstack]

theorem point_eq_update (hhere : s.here = pt) (hstack : s.rt.stack = x)
    : s.point = Function.update s.point x pt := by
  rw [here, hstack] at hhere
  rw [← hhere, Function.update_eq_self]

theorem Main.isLoop (h : s.Main) (hstack : s.rt.stack = some q)
    : (s.point none).IsLoop ∧ s.running > 0 := by
  rcases h.main with ⟨_, hnone⟩ | hloop
  . rw [hstack] at hnone
    contradiction
  . exact hloop

theorem Main.stack_eq_none (h : s.Main) (hhere : s.here.IsLoop) : s.rt.stack = none := by
  cases hstack : s.rt.stack with
  | none => rfl
  | some q =>
    rw [here, hstack] at hhere
    exact absurd hhere (h.others q)

theorem Main.running_pos (h : s.Main) (hhere : s.here.IsLoop) : s.running > 0 := by
  rcases h.main with ⟨hmain, hstack⟩ | ⟨_, hpos⟩
  . rw [here, hstack, hmain] at hhere
    exact absurd hhere id
  . exact hpos

theorem Main.exists_stack (h : s.Main) (hhere : ¬s.here.IsLoop) (huser : s.here ≠ .user)
    : ∃ q, s.rt.stack = some q := by
  cases hstack : s.rt.stack with
  | some q => exact ⟨q, rfl⟩
  | none =>
    rw [here, hstack] at hhere huser
    rcases h.main with ⟨hmain, _⟩ | ⟨hmain, _⟩
    . exact absurd hmain huser
    . exact absurd hmain hhere

theorem Counted.of_points (h : s.Counted) (hpoint : s'.point = Function.update s.point x pt)
    (hpt : ∀ call fd, pt ≠ .waitEvent call fd) (hnum : s'.eventNum = s.eventNum) : s'.Counted := by
  rcases h with ⟨l, hmem, hle⟩
  refine ⟨l, ?_, by rw [hnum]; exact hle⟩
  intro p call fd hp
  exact hmem p call fd (point_of_update hpoint (hpt call fd) hp)

theorem Armed.of_points (h : s.Armed tr) (hpoint : s'.point = Function.update s.point x pt)
    (hpt : ∀ call, pt ≠ .sleepWait call) (htimers : s'.timers = s.timers)
    : s'.Armed (tr ++ es) := by
  intro p call hp
  rcases h p call (point_of_update hpoint (hpt call) hp) with hpending | hfired
  . left
    rw [htimers]
    exact hpending
  . exact .inr (List.mem_append_left _ hfired)

theorem Inv.move (h : s.Inv tr) (hstack : s.rt.stack = some q)
    (hpoint : s'.point = Function.update s.point (some p) pt) (hpt : ¬pt.IsLoop)
    (hrunning : s'.running = s.running) (hcounted : s'.Counted) (harmed : s'.Armed (tr ++ es))
    : s'.Inv (tr ++ es) := by
  have hloop := h.main.isLoop hstack
  have hnone : s'.point none = s.point none := by
    rw [hpoint, Function.update_of_ne (by simp)]
  refine ⟨⟨.inr (by rw [hnone, hrunning]; exact hloop), ?_⟩, hcounted, harmed, ?_⟩
  . intro p'
    rw [hpoint, Function.update_apply]
    split
    . exact hpt
    . exact h.main.others p'
  . intro huser
    rw [hnone] at huser
    rw [huser] at hloop
    exact absurd hloop.1 id

theorem Inv.turn (h : s.Inv tr) (hhere : s.here.IsLoop)
    (hpoint : s'.point = Function.update s.point none pt) (hpt : pt.IsLoop)
    (hrunning : s'.running = s.running) (hnum : s'.eventNum = s.eventNum)
    (harmed : s'.Armed (tr ++ es)) : s'.Inv (tr ++ es) := by
  refine ⟨⟨.inr ?_, ?_⟩, h.counted.of_points hpoint ?_ hnum, harmed, ?_⟩
  . rw [hpoint, Function.update_self, hrunning]
    exact ⟨hpt, h.main.running_pos hhere⟩
  . intro p
    rw [hpoint, Function.update_of_ne (by simp)]
    exact h.main.others p
  . intro call fd heq
    rw [heq] at hpt
    exact hpt
  . intro huser
    rw [hpoint, Function.update_self] at huser
    rw [huser] at hpt
    exact absurd hpt id

end Points

section Cases

variable {p q : Addr} {rt : Runtime}

theorem Inv.run (h : s.Inv tr) (hhere : s.here = .user) (hstack : s.rt.stack = none)
    : Inv { s.newEvent.goto .wait with
        rt := rt
        point := Function.update (s.newEvent.goto .wait).point (some p) .user } tr := by
  have huser : s.point none = .user := by
    rw [here, hstack] at hhere
    exact hhere
  rcases h.idle huser with ⟨htimers, hwaiters⟩
  have hpoint : (s.newEvent.goto .wait).point = Function.update s.point none .wait := by
    have hnew : s.newEvent.rt.stack = none := hstack
    exact goto_point hnew
  have hother {p' : Addr} {pt : Point} (hne : .user ≠ pt)
      (hpt : Function.update (s.newEvent.goto .wait).point (some p) .user (some p') = pt)
        : s.point (some p') = pt := by
    rw [hpoint, Function.update_apply] at hpt
    split at hpt
    . exact absurd hpt hne
    . rw [Function.update_of_ne (by simp)] at hpt
      exact hpt
  refine ⟨⟨.inr ?_, ?_⟩, ⟨[], ?_, Int.le_refl 0⟩, ?_, ?_⟩
  . dsimp only
    rw [Function.update_of_ne (by simp), hpoint, Function.update_self]
    exact ⟨trivial, Int.one_pos⟩
  . intro p' hloop
    cases hp' : Function.update (s.newEvent.goto .wait).point (some p) .user (some p') with
    | user | waitEvent | sleepWait =>
      dsimp only at hloop
      rw [hp'] at hloop
      exact hloop
    | wait | handleIo | runTimers =>
      have hpt := hother (by simp) hp'
      have := h.main.others p'
      rw [hpt] at this
      exact this trivial
  . intro p' call fd hp'
    exact absurd (hother (by simp) hp') (hwaiters p' call fd)
  . intro p' call hp'
    rcases h.armed p' call (hother (by simp) hp') with ⟨t, ht, _⟩ | hfired
    . rw [htimers] at ht
      contradiction
    . exact .inr hfired
  . intro hwait
    dsimp only at hwait
    rw [Function.update_of_ne (by simp), hpoint, Function.update_self] at hwait
    contradiction

theorem Inv.sleep {co : Addr} {seconds : Duration} (h : s.Inv tr) (hstack : s.rt.stack = some q)
    : Inv { s.goto (.sleepWait s.calls) with
        rt := rt
        timers := s.timers.addTimer s.clock seconds.msec ⟨co, s.calls⟩
        calls := s.calls + 1 } (tr ++ [.callSleep s.calls]) := by
  have hpoint : (s.goto (.sleepWait s.calls)).point
    = Function.update s.point (some q) (.sleepWait s.calls) :=
    goto_point hstack
  refine h.move hstack hpoint id rfl (h.counted.of_points hpoint (by simp) rfl) ?_
  intro p call hp
  dsimp only at hp
  rw [hpoint, Function.update_apply] at hp
  split at hp
  . left
    injection hp with hcall
    refine ⟨_, List.mem_append_right _ (List.mem_singleton_self _), ?_⟩
    exact hcall
  . rcases h.armed p call hp with ⟨t, ht, hcall⟩ | hfired
    . exact .inl ⟨t, List.mem_append_left _ ht, hcall⟩
    . exact .inr (List.mem_append_left _ hfired)

theorem Inv.waitEvent {fd : BitVec 32} {events : List EpollEvent} (h : s.Inv tr)
    (hstack : s.rt.stack = some q)
    : Inv { s.goto (.waitEvent s.calls fd) with
        rt := rt
        events := events
        eventNum := s.eventNum + 1
        calls := s.calls + 1 } (tr ++ [.callWaitEvent s.calls fd]) := by
  have hpoint : (s.goto (.waitEvent s.calls fd)).point
    = Function.update s.point (some q) (.waitEvent s.calls fd) :=
    goto_point hstack
  refine h.move hstack hpoint id rfl ?_ (h.armed.of_points hpoint (by simp) rfl)
  rcases h.counted with ⟨l, hmem, hle⟩
  refine ⟨q :: l, ?_, ?_⟩
  . intro p call fd' hp
    dsimp only at hp
    rw [hpoint, Function.update_apply] at hp
    split at hp
    . next heq =>
      injection heq with heq
      rw [heq]
      apply List.mem_cons_self
    . exact List.mem_cons_of_mem _ (hmem p call fd' hp)
  . rw [List.length_cons]
    dsimp only
    omega

theorem Inv.retWaitEvent {call : Nat} {fd : BitVec 32} {removed : Bool} (h : s.Inv tr)
    (hhere : s.here = .waitEvent call fd)
    : Inv { s.goto .user with eventNum := if removed then s.eventNum - 1 else s.eventNum }
        (tr ++ [.retWaitEvent call removed]) := by
  rcases h.main.exists_stack (by rw [hhere]; exact id) (by rw [hhere]; simp) with ⟨q, hstack⟩
  have hpoint : (s.goto .user).point = Function.update s.point (some q) .user := goto_point hstack
  refine h.move hstack hpoint id rfl ?_ (h.armed.of_points hpoint (by simp) rfl)
  rcases h.counted with ⟨l, hmem, hle⟩
  rw [here, hstack] at hhere
  have hq := hmem q call fd hhere
  have hlength := List.length_erase_of_mem hq
  have hpos := List.length_pos_of_mem hq
  refine ⟨l.erase q, ?_, ?_⟩
  . intro p call' fd' hp
    have hne : p ≠ q := by
      intro heq
      dsimp only at hp
      rw [hpoint, heq, Function.update_self] at hp
      contradiction
    rw [List.mem_erase_of_ne hne]
    exact hmem p call' fd' (point_of_update hpoint (by simp) hp)
  . dsimp only
    split
    . omega
    . omega

theorem getNextTimeout_neg {α : Type} {timers : TimerManager α} {now : Nat}
    (h : timers.getNextTimeout now < 0)
    : timers = [] := by
  unfold TimerManager.getNextTimeout at h
  split at h
  . next hnone => exact TimerManager.top?_eq_none.mp hnone
  . dsimp only at h
    split at h
    . omega
    . omega

theorem Inv.returns (h : s.Inv tr) (hhere : s.here = .wait)
    (hdone : s.running > 0 → s.timers.getNextTimeout s.clock < 0 ∧ s.eventNum = 0)
    : s.timers = [] ∧ ∀ p call fd, s.point (some p) ≠ .waitEvent call fd := by
  have hpos := h.main.running_pos (by rw [hhere]; trivial)
  rcases hdone hpos with ⟨htimeout, hzero⟩
  refine ⟨getNextTimeout_neg htimeout, ?_⟩
  intro p call fd hp
  rcases h.counted with ⟨l, hmem, hle⟩
  have := List.length_pos_of_mem (hmem p call fd hp)
  omega

theorem Inv.retWait {running : Int} (h : s.Inv tr) (hhere : s.here = .wait)
    (hdone : s.running > 0 → s.timers.getNextTimeout s.clock < 0 ∧ s.eventNum = 0)
    : Inv { s.goto .user with running := running } (tr ++ [.retWait]) := by
  have hstack := h.main.stack_eq_none (by rw [hhere]; trivial)
  have hpoint : (s.goto .user).point = Function.update s.point none .user := goto_point hstack
  rcases h.returns hhere hdone with ⟨htimers, hwaiters⟩
  refine ⟨⟨.inl ⟨?_, hstack⟩, ?_⟩, h.counted.of_points hpoint (by simp) rfl,
    h.armed.of_points hpoint (by simp) rfl, ?_⟩
  . dsimp only
    rw [hpoint, Function.update_self]
  . intro p
    dsimp only
    rw [hpoint, Function.update_of_ne (by simp)]
    exact h.main.others p
  . intro _
    refine ⟨htimers, ?_⟩
    intro p call fd hp
    exact hwaiters p call fd (point_of_update hpoint (by simp) hp)

theorem Armed.fire {top : Nat} {t : Timer Waiter} (h : s.Armed tr) (ht : s.timers[top]? = some t)
    : Armed { s with timers := s.timers.eraseIdx top, rt := rt }
        (tr ++ [.fire t.privateData.call]) := by
  intro p call hp
  rcases h p call hp with ⟨t', ht', hcall⟩ | hfired
  . rcases List.getElem?_eq_some_iff.mp ht with ⟨hlt, hget⟩
    have hperm := List.getElem_cons_eraseIdx_perm hlt
    rw [hget] at hperm
    rcases List.mem_cons.mp (hperm.mem_iff.mpr ht') with heq | hmem
    . right
      rw [← hcall, heq]
      apply List.mem_append_right _ (List.mem_singleton_self _)
    . exact .inl ⟨t', hmem, hcall⟩
  . exact .inr (List.mem_append_left _ hfired)

end Cases

theorem Inv.step (h : s.Inv tr) (hstep : Step s c es s') : s'.Inv (tr ++ es) := by
  have hmove {p q : Addr} {t : Loop} (hstack : s.rt.stack = some q)
      (hpoint : t.point = Function.update s.point (some p) .user) (hrunning : t.running = s.running)
      (hnum : t.eventNum = s.eventNum) (htimers : t.timers = s.timers) : t.Inv (tr ++ es) :=
    h.move hstack hpoint id hrunning (h.counted.of_points hpoint (by simp) hnum)
      (h.armed.of_points hpoint (by simp) htimers)
  have hturn (pt : Point) {t : Loop} (hloop : s.here.IsLoop) (hpt : pt.IsLoop)
      (hpoint : t.point = (s.goto pt).point)
      (hrunning : t.running = s.running) (hnum : t.eventNum = s.eventNum)
      (htimers : t.timers = s.timers)
      : t.Inv (tr ++ es) := by
    rw [goto_point (h.main.stack_eq_none hloop)] at hpoint
    refine h.turn hloop hpoint hpt hrunning hnum (h.armed.of_points hpoint ?_ htimers)
    intro call heq
    rw [heq] at hpt
    exact hpt
  cases hstep with
  | idle =>
    rw [List.append_nil]
    exact h
  | tick =>
    rw [List.append_nil]
    exact ⟨⟨h.main.main, h.main.others⟩, h.counted, h.armed, h.idle⟩
  | run hhere hstack hp hrt =>
    rw [List.append_nil]
    exact h.run hhere hstack
  | create hhere hstack hp hrt => exact hmove hstack rfl rfl rfl rfl
  | yield hhere hstack hrt => exact hmove hstack (goto_point hstack) rfl rfl rfl
  | resume hhere hstack hrt | finish hhere hstack hrt =>
    have hpoint := point_eq_update hhere hstack
    exact hmove hstack hpoint rfl rfl rfl
  | sleep hhere hstack hcur hrt => exact h.sleep hstack
  | addFailed hhere hstack hcur =>
    have hpoint := point_eq_update hhere hstack
    exact hmove hstack hpoint rfl rfl rfl
  | waitEvent hhere hstack hcur hnum hrt => exact h.waitEvent hstack
  | retWaitEvent hhere => exact h.retWaitEvent hhere
  | retSleep hhere =>
    rcases h.main.exists_stack (by rw [hhere]; exact id) (by rw [hhere]; simp) with ⟨q, hstack⟩
    exact hmove hstack (goto_point hstack) rfl rfl rfl
  | retWait hhere hdone => exact h.retWait hhere hdone
  | epollWait hhere hrunning =>
    exact hturn (.handleIo _ _) (by rw [hhere]; trivial) trivial rfl rfl rfl rfl
  | handleIo hhere hi hev hrt =>
    exact hturn (.handleIo _ _) (by rw [hhere]; trivial) trivial rfl rfl rfl rfl
  | handledIo hhere hi =>
    exact hturn (.runTimers _) (by rw [hhere]; trivial) trivial rfl rfl rfl rfl
  | timersDone hhere => exact hturn .wait (by rw [hhere]; trivial) trivial rfl rfl rfl rfl
  | fire hhere ht htop hdue hrt =>
    have hloop : s.here.IsLoop := by
      rw [hhere]
      trivial
    have hpoint := point_eq_update hhere (h.main.stack_eq_none hloop)
    exact h.turn hloop hpoint trivial rfl rfl (h.armed.fire ht)

theorem run_inv (h : machine.Run (fun _ _ => True) tr s) : s.Inv tr := by
  apply h.invariant (I := fun tr s => s.Inv tr) inv_init
  intro tr s c s' es _ ih _ hstep
  exact ih.step (.of_step hstep)

/--
When `Event::wait` returns, no timer is pending, nobody is in `wait_event`, and everybody who is in
`sleep` has had his timer fire.
-/
theorem wait_returns_late (h : machine.Run (fun _ _ => True) tr s) (hstep : s.step c = .ok (s', es))
    (hret : .retWait ∈ es)
    : s'.timers = [] ∧ (∀ p call fd, s'.point p ≠ .waitEvent call fd)
      ∧ ∀ p call, s'.point p = .sleepWait call → .fire call ∈ tr ++ es := by
  have hinv := run_inv h
  have hinv' := hinv.step (.of_step hstep)
  cases Step.of_step hstep with
  | @retWait removed ready top running hhere hdone =>
    rcases hinv.returns hhere hdone with ⟨htimers, _⟩
    have hstack := hinv.main.stack_eq_none (by rw [hhere]; trivial)
    have huser : (s.goto .user).point none = .user := by
      rw [goto_point hstack, Function.update_self]
    rcases hinv'.idle huser with ⟨_, hwaiters⟩
    refine ⟨htimers, ?_, ?_⟩
    . intro x call fd hx
      cases x with
      | none =>
        dsimp only at hx
        rw [huser] at hx
        contradiction
      | some p => exact hwaiters p call fd hx
    . intro x call hx
      cases x with
      | none =>
        dsimp only at hx
        rw [huser] at hx
        contradiction
      | some p =>
        rcases hinv'.armed p call hx with ⟨t, ht, _⟩ | hfired
        . rw [show (s.goto .user).timers = [] from htimers] at ht
          contradiction
        . exact hfired
  | idle | tick | run | create | yield | resume | finish | sleep | addFailed
    | waitEvent | retWaitEvent | retSleep
  | epollWait | handleIo | handledIo | timersDone | fire => simp at hret

-- A coroutine waits for a socket, sleeps for two milliseconds and ends.
def waitAndSleep : List Cmd :=
  [.run 1, .waitEvent 5 .read true, .go false [⟨EPOLLIN, touint64 5 1⟩] 0,
    .go false [] 0, .go true [] 0,
    .sleep ⟨true, 2⟩, .go false [] 0, .go false [] 0, .tick 2, .go false [] 0,
    .go false [] 0, .go false [] 0,
    .go false [] 0, .finish, .go false [] 0]

theorem waitAndSleep_returns_late
    : ∃ tr s s' es, machine.Run (fun _ _ => True) tr s ∧ s.step (.go false [] 0) = .ok (s', es)
        ∧ es = [.retWait]
        ∧ s'.timers = [] ∧ ∀ p call fd, s'.point p ≠ .waitEvent call fd := by
  have hexec : ((machine.exec (fun _ _ => True) waitAndSleep).bind fun r =>
      ((r.1.step (.go false [] 0)).map Prod.snd).toOption) = some [.retWait] := by decide +kernel
  rcases Option.bind_eq_some_iff.mp hexec with ⟨⟨s, tr⟩, hrun, hstep⟩
  have hrun := Machine.run_of_exec hrun
  dsimp only at hstep
  cases hlast : s.step (.go false [] 0) with
  | error e =>
    rw [hlast] at hstep
    contradiction
  | ok r =>
    rcases r with ⟨s', es⟩
    rw [hlast] at hstep
    injection hstep with hstep
    dsimp only at hstep
    subst hstep
    rcases wait_returns_late hrun hlast (List.mem_singleton_self _) with ⟨htimers, hwaiters, _⟩
    exact ⟨tr, s, s', _, hrun, hlast, rfl, htimers, hwaiters⟩

end Loop
end Fsw

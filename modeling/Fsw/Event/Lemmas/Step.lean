import Fsw.Lib.Except
import Fsw.Event.Impl.Event

namespace Fsw
namespace Loop

inductive Step (s : Loop) : Cmd → List Event → Loop → Prop where
  | idle {c : Cmd} : Step s c [] s
  | tick {now : Nat} : Step s (.tick now) [] { s with clock := now }
  | run {p : Addr} {rt : Runtime} (hhere : s.here = .user) (hstack : s.rt.stack = none)
      (hp : s.rt.heap p = none) (hrt : s.rt.create p = .ok rt)
      : Step s (.run p) []
          { s.newEvent.goto .wait with
            rt := rt
            point := Function.update (s.newEvent.goto .wait).point (some p) .user }
  | create {p q : Addr} {rt : Runtime} (hhere : s.here = .user) (hstack : s.rt.stack = some q)
      (hp : s.rt.heap p = none) (hrt : s.rt.create p = .ok rt)
      : Step s (.create p) [] { s with rt := rt, point := Function.update s.point (some p) .user }
  | yield {q : Addr} {rt : Runtime} (hhere : s.here = .user) (hstack : s.rt.stack = some q)
      (hrt : s.rt.yield = .ok rt)
      : Step s .yield [] { s.goto .user with rt := rt }
  | resume {p q : Addr} {rt : Runtime} (hhere : s.here = .user) (hstack : s.rt.stack = some q)
      (hrt : s.rt.resume p = .ok rt)
      : Step s (.resume p) [] { s with rt := rt }
  | finish {q : Addr} {rt : Runtime} (hhere : s.here = .user) (hstack : s.rt.stack = some q)
      (hrt : s.rt.finish q = .ok rt)
      : Step s .finish [] { s with rt := rt }
  | sleep {q co : Addr} {seconds : Duration} {rt : Runtime} (hhere : s.here = .user)
      (hstack : s.rt.stack = some q) (hcur : s.rt.current = some co) (hrt : s.rt.yield = .ok rt)
      : Step s (.sleep seconds) [.callSleep s.calls]
          { s.goto (.sleepWait s.calls) with
            rt := rt
            timers := s.timers.addTimer s.clock seconds.msec ⟨co, s.calls⟩
            calls := s.calls + 1 }
  | addFailed {q co : Addr} {fd : BitVec 32} {event : EventType} {ev : EpollEvent}
      (hhere : s.here = .user) (hstack : s.rt.stack = some q) (hcur : s.rt.current = some co)
      : Step s (.waitEvent fd event false) [.callWaitEvent s.calls fd, .retWaitEvent s.calls false]
          { s with events := s.events.set 0 ev, calls := s.calls + 1 }
  | waitEvent {q co : Addr} {fd : BitVec 32} {event : EventType} {ev : EpollEvent} {rt : Runtime}
      (hhere : s.here = .user) (hstack : s.rt.stack = some q) (hcur : s.rt.current = some co)
      (hnum : s.eventNum ≠ INT_MAX) (hrt : s.rt.yield = .ok rt)
      : Step s (.waitEvent fd event true) [.callWaitEvent s.calls fd]
          { s.goto (.waitEvent s.calls fd) with
            rt := rt
            events := s.events.set 0 ev
            eventNum := s.eventNum + 1
            calls := s.calls + 1 }
  | retWaitEvent {call : Nat} {fd : BitVec 32} {removed : Bool}
      {ready : List EpollEvent} {top : Nat} (hhere : s.here = .waitEvent call fd)
      : Step s (.go removed ready top) [.retWaitEvent call removed]
          { s.goto .user with eventNum := if removed then s.eventNum - 1 else s.eventNum }
  | retSleep {call : Nat} {removed : Bool} {ready : List EpollEvent} {top : Nat}
      (hhere : s.here = .sleepWait call)
      : Step s (.go removed ready top) [.retSleep call] (s.goto .user)
  | retWait {removed : Bool} {ready : List EpollEvent} {top : Nat} {running : Int}
      (hhere : s.here = .wait)
      (hdone : s.running > 0 → s.timers.getNextTimeout s.clock < 0 ∧ s.eventNum = 0)
      : Step s (.go removed ready top) [.retWait] { s.goto .user with running := running }
  | epollWait {removed : Bool} {ready : List EpollEvent} {top : Nat} (hhere : s.here = .wait)
      (hrunning : s.running > 0)
      : Step s (.go removed ready top) []
          { s.goto (.handleIo 0 (ready.take EPOLL_CAP).length) with
            events := ready.take EPOLL_CAP ++ s.events.drop (ready.take EPOLL_CAP).length }
  | handleIo {i num : Nat} {removed : Bool} {ready : List EpollEvent} {top : Nat}
      {ev : EpollEvent} {rt : Runtime} (hhere : s.here = .handleIo i num) (hi : i < num)
      (hev : s.events[i]? = some ev) (hrt : s.rt.resumeCid (fromuint64 ev.u64).2.toInt = .ok rt)
      : Step s (.go removed ready top) [.resumed (fromuint64 ev.u64).2]
          { s.goto (.handleIo (i + 1) num) with rt := rt }
  | handledIo {i num : Nat} {removed : Bool} {ready : List EpollEvent} {top : Nat}
      (hhere : s.here = .handleIo i num) (hi : ¬i < num)
      : Step s (.go removed ready top) [] (s.goto (.runTimers s.clock))
  | timersDone {now : Nat} {removed : Bool} {ready : List EpollEvent} {top : Nat}
      (hhere : s.here = .runTimers now)
      : Step s (.go removed ready top) [] (s.goto .wait)
  | fire {now : Nat} {removed : Bool} {ready : List EpollEvent} {top : Nat}
      {t : Timer Waiter} {rt : Runtime} (hhere : s.here = .runTimers now)
      (ht : s.timers[top]? = some t) (htop : s.timers.IsTop t) (hdue : ¬now < t.execMsec)
      (hrt : s.rt.resume t.privateData.co = .ok rt)
      : Step s (.go removed ready top) [.fire t.privateData.call]
          { s with timers := s.timers.eraseIdx top, rt := rt }

variable {s s' : Loop} {es : List Event} {c : Cmd}

theorem Step.of_sleep {q : Addr} {seconds : Duration} (hhere : s.here = .user)
    (hstack : s.rt.stack = some q) (h : s.sleep seconds = .ok (s', es))
    : Step s (.sleep seconds) es s' := by
  unfold Loop.sleep at h
  dsimp only at h
  split at h
  . contradiction
  . next co hcur =>
    rcases bind_eq_ok h with ⟨s₁, hyield, h⟩
    rcases bind_eq_ok hyield with ⟨rt, hrt, heq⟩
    injection heq with heq
    rcases ok_pair h with ⟨hs, hes⟩
    subst heq hs hes
    exact .sleep hhere hstack hcur hrt

theorem Step.of_waitEvent {q : Addr} {fd : BitVec 32} {event : EventType} {added : Bool}
    (hhere : s.here = .user) (hstack : s.rt.stack = some q)
    (h : s.waitEvent fd event added = .ok (s', es))
    : Step s (.waitEvent fd event added) es s' := by
  unfold Loop.waitEvent at h
  dsimp only at h
  split at h
  . contradiction
  . next co hcur =>
    rcases bind_eq_ok h with ⟨co', _, h⟩
    split at h
    . next hadded =>
      split at h
      . contradiction
      . next hnum =>
        rcases bind_eq_ok h with ⟨s₁, hyield, h⟩
        rcases bind_eq_ok hyield with ⟨rt, hrt, heq⟩
        injection heq with heq
        rcases ok_pair h with ⟨hs, hes⟩
        subst heq hs hes hadded
        exact .waitEvent hhere hstack hcur hnum hrt
    . next hadded =>
      rcases ok_pair h with ⟨hs, hes⟩
      rw [Bool.not_eq_true] at hadded
      subst hs hes hadded
      exact .addFailed hhere hstack hcur

theorem Step.of_user (hhere : s.here = .user) (h : s.userStep c = .ok (s', es))
    : Step s c es s' := by
  unfold userStep at h
  split at h
  . next p hstack =>
    split at h
    . next hp =>
      rcases bind_eq_ok h with ⟨s₁, hrun, h⟩
      rcases bind_eq_ok hrun with ⟨rt, hrt, heq⟩
      injection heq with heq
      rcases ok_pair h with ⟨hs, hes⟩
      subst heq hs hes
      exact .run hhere hstack hp hrt
    . rcases ok_pair h with ⟨rfl, rfl⟩
      exact .idle
  . next q p hstack =>
    split at h
    . next hp =>
      rcases bind_eq_ok h with ⟨s₁, hcreate, h⟩
      rcases bind_eq_ok hcreate with ⟨rt, hrt, heq⟩
      injection heq with heq
      rcases ok_pair h with ⟨hs, hes⟩
      subst heq hs hes
      exact .create hhere hstack hp hrt
    . rcases ok_pair h with ⟨rfl, rfl⟩
      exact .idle
  . next q hstack =>
    rcases bind_eq_ok h with ⟨s₁, hyield, h⟩
    rcases bind_eq_ok hyield with ⟨rt, hrt, heq⟩
    injection heq with heq
    rcases ok_pair h with ⟨hs, hes⟩
    subst heq hs hes
    exact .yield hhere hstack hrt
  . next q p hstack =>
    rcases bind_eq_ok h with ⟨rt, hrt, h⟩
    rcases ok_pair h with ⟨rfl, rfl⟩
    exact .resume hhere hstack hrt
  . next q hstack =>
    rcases bind_eq_ok h with ⟨rt, hrt, h⟩
    rcases ok_pair h with ⟨rfl, rfl⟩
    exact .finish hhere hstack hrt
  . next q seconds hstack => exact .of_sleep hhere hstack h
  . next q fd event added hstack => exact .of_waitEvent hhere hstack h
  . rcases ok_pair h with ⟨rfl, rfl⟩
    exact .idle

theorem Step.of_go {removed : Bool} {ready : List EpollEvent} {top : Nat}
    (h : s.goStep removed ready top = .ok (s', es)) : Step s (.go removed ready top) es s' := by
  unfold goStep at h
  split at h
  . rcases ok_pair h with ⟨rfl, rfl⟩
    exact .idle
  . next call fd hhere =>
    rcases ok_pair h with ⟨hs, hes⟩
    have hs
      : s' = { s.goto .user with eventNum := if removed then s.eventNum - 1 else s.eventNum } := by
      rw [← hs]
      cases removed with
      | false => rfl
      | true => rfl
    rw [hs, ← hes]
    exact .retWaitEvent hhere
  . next call hhere =>
    rcases ok_pair h with ⟨rfl, rfl⟩
    exact .retSleep hhere
  . next hhere =>
    injection h with h
    unfold Loop.wait at h
    split at h
    . next hrunning =>
      split at h
      . next hdone =>
        injection h with hs hes
        subst hs hes
        refine .retWait hhere fun _ => ?_
        simpa using hdone
      . injection h with hs hes
        subst hs hes
        exact .epollWait hhere hrunning
    . next hrunning =>
      injection h with hs hes
      subst hs hes
      exact .retWait hhere fun h => absurd h hrunning
  . next i num hhere =>
    unfold Loop.handleIo at h
    split at h
    . next hi =>
      split at h
      . contradiction
      . next ev hev =>
        rcases bind_eq_ok h with ⟨rt, hrt, h⟩
        rcases ok_pair h with ⟨rfl, rfl⟩
        exact .handleIo hhere hi hev hrt
    . next hi =>
      rcases ok_pair h with ⟨rfl, rfl⟩
      exact .handledIo hhere hi
  . next now hhere =>
    unfold nextTimer at h
    split at h
    . rcases ok_pair h with ⟨rfl, rfl⟩
      exact .timersDone hhere
    . split at h
      . rcases ok_pair h with ⟨rfl, rfl⟩
        exact .idle
      . next t ht =>
        split at h
        . next htop =>
          split at h
          . rcases ok_pair h with ⟨rfl, rfl⟩
            exact .timersDone hhere
          . next hdue =>
            rcases bind_eq_ok h with ⟨rt, hrt, h⟩
            rcases ok_pair h with ⟨rfl, rfl⟩
            exact .fire hhere ht htop hdue hrt
        . rcases ok_pair h with ⟨rfl, rfl⟩
          exact .idle

theorem Step.of_step (h : s.step c = .ok (s', es)) : Step s c es s' := by
  unfold step at h
  split at h
  . rcases ok_pair h with ⟨rfl, rfl⟩
    exact .tick
  . exact .of_go h
  . split at h
    . next hhere => exact .of_user hhere h
    . rcases ok_pair h with ⟨rfl, rfl⟩
      exact .idle

end Loop
end Fsw

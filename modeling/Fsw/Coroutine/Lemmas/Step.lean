import Fsw.Lib.Except
import Fsw.Coroutine.Impl.System
import Fsw.Coroutine.Lemmas.Runtime

/-!
This module contains everything a step of the system can do, as a relation with one constructor per
branch of the code. All invariants are proved by going through these.

`PopEntry` and `PushEntry` are the two ways into the second half of `pop` and `push`: without a
wait, in a call that has just been made, or out of one.
-/

namespace Fsw
namespace Sys

inductive PopEntry (s : Sys) : Cmd → Nat → List Event → Sys → Prop where
  | fresh {timeout : Duration} (hhere : s.here = .user) (hdata : s.chan.dataQueue ≠ [])
      : PopEntry s (.pop timeout) s.calls [.callPop s.calls timeout] { s with calls := s.calls + 1 }
  | woken {call top : Nat} (hhere : s.here = .popWait call) : PopEntry s (.go top) call [] s

inductive PushEntry (s : Sys) : Cmd → Nat → Data → List Event → Sys → Prop where
  | fresh {data : Data} {timeout : Duration} (hhere : s.here = .user)
      (hdata : s.chan.dataQueue.length ≠ s.chan.capacity)
      : PushEntry s (.push data timeout) s.calls data [.callPush s.calls data timeout]
          { s with calls := s.calls + 1 }
  | woken {call top : Nat} {data : Data} (hhere : s.here = .pushWait call data)
      : PushEntry s (.go top) call data [] s

inductive Step (s : Sys) : Cmd → List Event → Sys → Prop where
  | idle {c : Cmd} : Step s c [] s
  | tick {now : Nat} : Step s (.tick now) [] { s with clock := now }
  | create {p : Addr} {rt : Runtime} (hhere : s.here = .user) (hp : s.rt.heap p = none)
      (hrt : s.rt.create p = .ok rt)
      : Step s (.create p) []
          { s with rt := rt, point := Function.update s.point (some p) .user }
  | yield {rt : Runtime} (hhere : s.here = .user) (hrt : s.rt.yield = .ok rt)
      : Step s .yield [] { s.goto .user with rt := rt }
  | resume {p : Addr} {rt : Runtime} (hhere : s.here = .user) (hrt : s.rt.resume p = .ok rt)
      : Step s (.resume p) [] { s.goto .user with rt := rt }
  | finish {p : Addr} {rt : Runtime} (hhere : s.here = .user) (hstack : s.rt.stack = some p)
      (hrt : s.rt.finish p = .ok rt)
      : Step s .finish [] { s with rt := rt }
  | popBlock {co : Addr} {timeout : Duration} {rt : Runtime} (hhere : s.here = .user)
      (hdata : s.chan.dataQueue = []) (hcur : s.rt.current = some co) (hrt : s.rt.yield = .ok rt)
      : Step s (.pop timeout) [.callPop s.calls timeout, .blockPop ⟨co, s.calls⟩]
          { s.goto (.popWait s.calls) with
            rt := rt
            timers := s.armTimer timeout ⟨co, s.calls⟩
            calls := s.calls + 1
            chan := { s.chan with consumerQueue := s.chan.consumerQueue ++ [⟨co, s.calls⟩] } }
  | popEmpty {c : Cmd} {call : Nat} {pre : List Event} {t : Sys} (he : PopEntry s c call pre t)
      (hdata : s.chan.dataQueue = [])
      : Step s c (pre ++ [.retPop call none]) (t.goto .user)
  | popTake {c : Cmd} {call : Nat} {pre : List Event} {t : Sys} {data : Data} {rest : List Data}
      (he : PopEntry s c call pre t) (hdata : s.chan.dataQueue = data :: rest)
      (hprod : s.chan.producerQueue = [])
      : Step s c (pre ++ [.dequeue call data, .retPop call data])
          ({ t with chan := { s.chan with dataQueue := rest } }.goto .user)
  | popServe {c : Cmd} {call : Nat} {pre : List Event} {t : Sys} {data : Data} {rest : List Data}
      {w : Waiter} {ws : List Waiter} (he : PopEntry s c call pre t)
      (hdata : s.chan.dataQueue = data :: rest) (hprod : s.chan.producerQueue = w :: ws)
      : Step s c (pre ++ [.dequeue call data, .servePush w])
          ({ t with chan := { s.chan with dataQueue := rest, producerQueue := ws } }.goto
            (.popResume call data w))
  | popResume {call top : Nat} {data : Data} {w : Waiter} {rt : Runtime}
      (hhere : s.here = .popResume call data w) (hrt : s.rt.resume w.co = .ok rt)
      : Step s (.go top) [] { s.goto (.popNotify call data) with rt := rt }
  | popReturn {call top : Nat} {data : Data} (hhere : s.here = .popNotify call data)
      : Step s (.go top) [.retPop call data] (s.goto .user)
  | pushBlock {co : Addr} {data : Data} {timeout : Duration} {rt : Runtime} (hhere : s.here = .user)
      (hdata : s.chan.dataQueue.length = s.chan.capacity) (hcur : s.rt.current = some co)
      (hrt : s.rt.yield = .ok rt)
      : Step s (.push data timeout) [.callPush s.calls data timeout, .blockPush ⟨co, s.calls⟩]
          { s.goto (.pushWait s.calls data) with
            rt := rt
            timers := s.armTimer timeout ⟨co, s.calls⟩
            calls := s.calls + 1
            chan := { s.chan with producerQueue := s.chan.producerQueue ++ [⟨co, s.calls⟩] } }
  | pushFull {c : Cmd} {call : Nat} {data : Data} {pre : List Event} {t : Sys}
      (he : PushEntry s c call data pre t)
      (hdata : s.chan.dataQueue.length = s.chan.capacity)
      : Step s c (pre ++ [.retPush call false]) (t.goto .user)
  | pushPut {c : Cmd} {call : Nat} {data : Data} {pre : List Event} {t : Sys}
      (he : PushEntry s c call data pre t) (hdata : s.chan.dataQueue.length ≠ s.chan.capacity)
      (hcons : s.chan.consumerQueue = [])
      : Step s c (pre ++ [.enqueue call data, .retPush call true])
          ({ t with chan := { s.chan with dataQueue := s.chan.dataQueue ++ [data] } }.goto .user)
  | pushServe {c : Cmd} {call : Nat} {data : Data} {pre : List Event} {t : Sys} {w : Waiter}
      {ws : List Waiter} (he : PushEntry s c call data pre t)
      (hdata : s.chan.dataQueue.length ≠ s.chan.capacity)
      (hcons : s.chan.consumerQueue = w :: ws)
      : Step s c (pre ++ [.enqueue call data, .servePop w])
          ({ t with
            chan := { s.chan with
              dataQueue := s.chan.dataQueue ++ [data]
              consumerQueue := ws } }.goto (.pushResume call w))
  | pushResume {call top : Nat} {w : Waiter} {rt : Runtime} (hhere : s.here = .pushResume call w)
      (hrt : s.rt.resume w.co = .ok rt)
      : Step s (.go top) [] { s.goto (.pushNotify call) with rt := rt }
  | pushReturn {call top : Nat} (hhere : s.here = .pushNotify call)
      : Step s (.go top) [.retPush call true] (s.goto .user)
  | sleepBlock {co : Addr} {seconds : Duration} {rt : Runtime} (hhere : s.here = .user)
      (hcur : s.rt.current = some co) (hrt : s.rt.yield = .ok rt)
      : Step s (.sleep seconds) [.callSleep s.calls]
          { s.goto (.sleepWait s.calls) with
            rt := rt
            timers := s.timers.addTimer s.clock seconds.msec ⟨co, s.calls⟩
            calls := s.calls + 1 }
  | sleepReturn {call top : Nat} (hhere : s.here = .sleepWait call)
      : Step s (.go top) [.retSleep call] (s.goto .user)
  | runTimers (hhere : s.here = .user) (hstack : s.rt.stack = none)
      : Step s .runTimers [] (s.goto (.runTimers s.clock))
  | timersDone {now top : Nat} (hhere : s.here = .runTimers now)
      : Step s (.go top) [] (s.goto .user)
  | timerDue {now top : Nat} {t : Timer Waiter} (hhere : s.here = .runTimers now)
      (ht : s.timers[top]? = some t) (htop : s.timers.IsTop t) (hdue : t.execMsec ≤ now)
      : Step s (.go top) [] ({ s with timers := s.timers.eraseIdx top }.goto (.callback now t))
  | callback {now top : Nat} {t : Timer Waiter} {rt : Runtime} (hhere : s.here = .callback now t)
      (hrt : s.rt.resume t.privateData.co = .ok rt)
      : Step s (.go top) [.fire t.privateData.call] { s.goto (.runTimers now) with rt := rt }

section Sound

variable {s s' : Sys} {c : Cmd} {es : List Event}

theorem ok_eq_ok {t : Sys} {es' : List Event}
    (h : (Except.ok (t, es') : Except Fault (Sys × List Event)) = .ok (s', es))
    : t = s' ∧ es' = es := by
  injection h with h
  rw [Prod.mk.injEq] at h
  exact h

theorem resumeAt_ok {co : Addr} {pt : Point} (h : s.resumeAt co pt = .ok s')
    : ∃ rt, s.rt.resume co = .ok rt ∧ s' = { s.goto pt with rt := rt } := by
  rcases bind_eq_ok h with ⟨rt, hrt, heq⟩
  injection heq with heq
  exact ⟨rt, hrt, heq.symm⟩

theorem yieldAt_ok {pt : Point} (h : s.yieldAt pt = .ok s')
    : ∃ rt, s.rt.yield = .ok rt ∧ s' = { s.goto pt with rt := rt } := by
  rcases bind_eq_ok h with ⟨rt, hrt, heq⟩
  injection heq with heq
  exact ⟨rt, hrt, heq.symm⟩

theorem PopEntry.chan_eq {call : Nat} {pre : List Event} (h : PopEntry s c call pre s')
    : s'.chan = s.chan := by
  cases h with
  | fresh => rfl
  | woken => rfl

theorem PushEntry.chan_eq {call : Nat} {data : Data} {pre : List Event}
    (h : PushEntry s c call data pre s')
    : s'.chan = s.chan := by
  cases h with
  | fresh => rfl
  | woken => rfl

theorem PopEntry.step {call : Nat} {pre : List Event} (h : PopEntry s c call pre s')
    : Step s c (pre ++ (s'.popData call).2) (s'.popData call).1 := by
  unfold popData
  rw [h.chan_eq]
  split
  . next hdata => exact .popEmpty h hdata
  . next hdata =>
    split
    . next hprod => exact .popTake h hdata hprod
    . next hprod => exact .popServe h hdata hprod

theorem PushEntry.step {call : Nat} {data : Data} {pre : List Event}
    (h : PushEntry s c call data pre s')
    : Step s c (pre ++ (s'.pushData call data).2) (s'.pushData call data).1 := by
  unfold pushData
  rw [h.chan_eq]
  split
  . next hdata => exact .pushFull h hdata
  . next hdata =>
    split
    . next hcons => exact .pushPut h hdata hcons
    . next hcons => exact .pushServe h hdata hcons

theorem step_of_pop {timeout : Duration} (hhere : s.here = .user)
    (h : s.pop timeout = .ok (s', es))
    : Step s (.pop timeout) es s' := by
  unfold pop at h
  dsimp only at h
  split at h
  . next hdata =>
    split at h
    . contradiction
    . next co hcur =>
      rcases bind_eq_ok h with ⟨t, ht, heq⟩
      rcases yieldAt_ok ht with ⟨rt, hrt, rfl⟩
      rcases ok_eq_ok heq with ⟨rfl, rfl⟩
      exact .popBlock hhere hdata hcur hrt
  . next hdata =>
    rcases ok_eq_ok h with ⟨rfl, rfl⟩
    apply (PopEntry.fresh hhere hdata).step

theorem step_of_push {data : Data} {timeout : Duration} (hhere : s.here = .user)
    (h : s.push data timeout = .ok (s', es))
    : Step s (.push data timeout) es s' := by
  unfold push at h
  dsimp only at h
  split at h
  . next hdata =>
    split at h
    . contradiction
    . next co hcur =>
      rcases bind_eq_ok h with ⟨t, ht, heq⟩
      rcases yieldAt_ok ht with ⟨rt, hrt, rfl⟩
      rcases ok_eq_ok heq with ⟨rfl, rfl⟩
      exact .pushBlock hhere hdata hcur hrt
  . next hdata =>
    rcases ok_eq_ok h with ⟨rfl, rfl⟩
    apply (PushEntry.fresh hhere hdata).step

theorem step_of_sleep {seconds : Duration} (hhere : s.here = .user)
    (h : s.sleep seconds = .ok (s', es))
    : Step s (.sleep seconds) es s' := by
  unfold sleep at h
  dsimp only at h
  split at h
  . contradiction
  . next co hcur =>
    rcases bind_eq_ok h with ⟨t, ht, heq⟩
    rcases yieldAt_ok ht with ⟨rt, hrt, rfl⟩
    rcases ok_eq_ok heq with ⟨rfl, rfl⟩
    exact .sleepBlock hhere hcur hrt

theorem step_of_nextTimer {now top : Nat} (hhere : s.here = .runTimers now)
    : Step s (.go top) [] (s.nextTimer now top) := by
  unfold nextTimer
  split
  . exact .timersDone hhere
  . split
    . exact .idle
    . next t ht =>
      split
      . next htop =>
        split
        . exact .timersDone hhere
        . next hdue => exact .timerDue hhere ht htop (by omega)
      . exact .idle

theorem step_of_userStep (hhere : s.here = .user) (h : s.userStep c = .ok (s', es))
    : Step s c es s' := by
  cases c with
  | tick now =>
    rcases ok_eq_ok h with ⟨rfl, rfl⟩
    exact .idle
  | go top =>
    rcases ok_eq_ok h with ⟨rfl, rfl⟩
    exact .idle
  | create p =>
    simp only [userStep] at h
    split at h
    . next hp =>
      rcases bind_eq_ok h with ⟨rt, hrt, heq⟩
      rcases ok_eq_ok heq with ⟨rfl, rfl⟩
      exact .create hhere hp hrt
    . rcases ok_eq_ok h with ⟨rfl, rfl⟩
      exact .idle
  | yield =>
    rcases bind_eq_ok h with ⟨t, ht, heq⟩
    rcases yieldAt_ok ht with ⟨rt, hrt, rfl⟩
    rcases ok_eq_ok heq with ⟨rfl, rfl⟩
    exact .yield hhere hrt
  | resume p =>
    rcases bind_eq_ok h with ⟨t, ht, heq⟩
    rcases resumeAt_ok ht with ⟨rt, hrt, rfl⟩
    rcases ok_eq_ok heq with ⟨rfl, rfl⟩
    exact .resume hhere hrt
  | finish =>
    simp only [userStep] at h
    split at h
    . rcases ok_eq_ok h with ⟨rfl, rfl⟩
      exact .idle
    . next p hstack =>
      rcases bind_eq_ok h with ⟨rt, hrt, heq⟩
      rcases ok_eq_ok heq with ⟨rfl, rfl⟩
      exact .finish hhere hstack hrt
  | push data timeout => exact step_of_push hhere h
  | pop timeout => apply step_of_pop hhere h
  | sleep seconds => apply step_of_sleep hhere h
  | runTimers =>
    simp only [userStep] at h
    split at h
    . next hstack =>
      rcases ok_eq_ok h with ⟨rfl, rfl⟩
      exact .runTimers hhere hstack
    . rcases ok_eq_ok h with ⟨rfl, rfl⟩
      exact .idle

theorem step_of_goStep {top : Nat} (h : s.goStep top = .ok (s', es))
    : Step s (.go top) es s' := by
  unfold goStep at h
  split at h
  . rcases ok_eq_ok h with ⟨rfl, rfl⟩
    exact .idle
  . next call hhere =>
    rcases ok_eq_ok h with ⟨rfl, rfl⟩
    apply (PopEntry.woken hhere).step
  . next call data w hhere =>
    rcases bind_eq_ok h with ⟨t, ht, heq⟩
    rcases resumeAt_ok ht with ⟨rt, hrt, rfl⟩
    rcases ok_eq_ok heq with ⟨rfl, rfl⟩
    exact .popResume hhere hrt
  . next call data hhere =>
    rcases ok_eq_ok h with ⟨rfl, rfl⟩
    exact .popReturn hhere
  . next call data hhere =>
    rcases ok_eq_ok h with ⟨rfl, rfl⟩
    apply (PushEntry.woken hhere).step
  . next call w hhere =>
    rcases bind_eq_ok h with ⟨t, ht, heq⟩
    rcases resumeAt_ok ht with ⟨rt, hrt, rfl⟩
    rcases ok_eq_ok heq with ⟨rfl, rfl⟩
    exact .pushResume hhere hrt
  . next call hhere =>
    rcases ok_eq_ok h with ⟨rfl, rfl⟩
    exact .pushReturn hhere
  . next call hhere =>
    rcases ok_eq_ok h with ⟨rfl, rfl⟩
    exact .sleepReturn hhere
  . next now hhere =>
    rcases ok_eq_ok h with ⟨rfl, rfl⟩
    apply step_of_nextTimer hhere
  . next now t hhere =>
    rcases bind_eq_ok h with ⟨t, ht, heq⟩
    rcases resumeAt_ok ht with ⟨rt, hrt, rfl⟩
    rcases ok_eq_ok heq with ⟨rfl, rfl⟩
    exact .callback hhere hrt

theorem Step.of_step (h : s.step c = .ok (s', es))
    : Step s c es s' := by
  unfold step at h
  split at h
  . rcases ok_eq_ok h with ⟨rfl, rfl⟩
    exact .tick
  . exact step_of_goStep h
  . split at h
    . next hhere => exact step_of_userStep hhere h
    . rcases ok_eq_ok h with ⟨rfl, rfl⟩
      exact .idle

end Sound

end Sys
end Fsw

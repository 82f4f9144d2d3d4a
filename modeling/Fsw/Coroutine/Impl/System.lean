import Fsw.Coroutine.Impl.Runtime
import Fsw.Coroutine.Impl.Timer

/-!
This module contains `Channel::push` and `Channel::pop` of `channel.cc`, `Coroutine::sleep` of
`coroutine.cc` and `TimerManager::run_timers` of `timer.cc` as they run together: on top of the
coroutine runtime, on one channel, with any number of coroutines.

Every native stack is at some `Point` of the code. One step of the system executes the stack the
processor is on from its point up to the next call of the runtime, or up to its own code again. What
a stack does in its own code is up to the commands that drive the system. A command that the stack
is in no position to follow changes nothing.

A `void *` is an `Option Addr`, `none` being `nullptr`. Of a `double` number of seconds the code
looks at two things, whether it is positive and its product with `Timer::SECOND` as an `int64_t`,
and these are what a `Duration` consists of. Calls of `push`, `pop` and `sleep` are numbered, so
that statements can refer to them: of a `Waiter` the source has the coroutine only.
-/

namespace Fsw

abbrev Data := Option Addr

structure Duration where
  positive : Bool
  msec : Int
  deriving DecidableEq, Repr

structure Waiter where
  co : Addr
  call : Nat
  deriving DecidableEq, Repr

structure Channel where
  capacity : Nat
  producerQueue : List Waiter
  consumerQueue : List Waiter
  dataQueue : List Data
  deriving DecidableEq, Repr

def Channel.new (capacity : Nat) : Channel where
  capacity := capacity
  producerQueue := []
  consumerQueue := []
  dataQueue := []

namespace Sys

inductive Point where
  | user -- Its own code
  | popWait (call : Nat) -- `pop`, in `Coroutine::yield()`
  | popResume (call : Nat) (data : Data) (w : Waiter) -- `pop`, about to call `resume(co)`
  | popNotify (call : Nat) (data : Data) -- `pop`, in `Coroutine::resume(co)`
  | pushWait (call : Nat) (data : Data) -- `push`, in `Coroutine::yield()`
  | pushResume (call : Nat) (w : Waiter) -- `push`, about to call `Coroutine::resume(co)`
  | pushNotify (call : Nat) -- `push`, in `Coroutine::resume(co)`
  | sleepWait (call : Nat) -- `sleep`, in `Coroutine::yield()`
  | runTimers (now : Nat) -- `run_timers`, at the head of its loop or in the callback of a timer
  | callback (now : Nat) (t : Timer Waiter) -- `run_timers`, about to call the callback of `t`
  deriving DecidableEq, Repr

inductive Event where
  | callPush (call : Nat) (data : Data) (timeout : Duration)
  | callPop (call : Nat) (timeout : Duration)
  | callSleep (call : Nat)
  | blockPush (w : Waiter) -- A coroutine goes to the end of `producer_queue`
  | blockPop (w : Waiter) -- A coroutine goes to the end of `consumer_queue`
  | servePush (w : Waiter) -- `pop` takes a coroutine off `producer_queue`
  | servePop (w : Waiter) -- `push` takes a coroutine off `consumer_queue`
  | enqueue (call : Nat) (data : Data)
  | dequeue (call : Nat) (data : Data)
  | retPush (call : Nat) (ret : Bool)
  | retPop (call : Nat) (ret : Data)
  | retSleep (call : Nat)
  | fire (call : Nat) -- The timer that a call has armed calls its callback
  deriving DecidableEq, Repr

inductive Cmd where
  | tick (now : Nat) -- The clock moves
  | create (p : Addr) -- `Coroutine::create`, with the address that `new` returns
  | yield
  | resume (p : Addr)
  | finish -- The function of the coroutine returns
  | push (data : Data) (timeout : Duration)
  | pop (timeout : Duration)
  | sleep (seconds : Duration)
  | runTimers
  | go (top : Nat) -- the stack goes on in the library, `top` is the place of `timers.top()`
  deriving DecidableEq, Repr

end Sys

structure Sys where
  rt : Runtime
  chan : Channel
  timers : TimerManager Waiter
  clock : Nat
  point : Option Addr → Sys.Point
  calls : Nat

namespace Sys

def init (capacity : Nat) : Sys where
  rt := .init
  chan := .new capacity
  timers := []
  clock := 0
  point := fun _ => .user
  calls := 0

def here (s : Sys) : Point :=
  s.point s.rt.stack

def goto (s : Sys) (pt : Point) : Sys :=
  { s with point := Function.update s.point s.rt.stack pt }

def armTimer (s : Sys) (timeout : Duration) (w : Waiter) : TimerManager Waiter :=
  if timeout.positive then s.timers.addTimer s.clock timeout.msec w else s.timers

-- The rest of `pop` after the wait, if there is one.
def popData (s : Sys) (call : Nat) : Sys × List Event :=
  match s.chan.dataQueue with
  | [] => (s.goto .user, [.retPop call none])
  | data :: rest =>
    match s.chan.producerQueue with
    | [] =>
      let chan := { s.chan with dataQueue := rest }
      ({ s with chan := chan }.goto .user, [.dequeue call data, .retPop call data])
    | w :: ws =>
      let chan := { s.chan with dataQueue := rest, producerQueue := ws }
      ({ s with chan := chan }.goto (.popResume call data w), [.dequeue call data, .servePush w])

-- The rest of `push` after the wait, if there is one.
def pushData (s : Sys) (call : Nat) (data : Data) : Sys × List Event :=
  if s.chan.dataQueue.length = s.chan.capacity then
    (s.goto .user, [.retPush call false])
  else
    match s.chan.consumerQueue with
    | [] =>
      let chan := { s.chan with dataQueue := s.chan.dataQueue ++ [data] }
      ({ s with chan := chan }.goto .user, [.enqueue call data, .retPush call true])
    | w :: ws =>
      let chan := { s.chan with dataQueue := s.chan.dataQueue ++ [data], consumerQueue := ws }
      ({ s with chan := chan }.goto (.pushResume call w), [.enqueue call data, .servePop w])

def yieldAt (s : Sys) (pt : Point) : Except Fault Sys := do
  let s := s.goto pt
  let rt ← s.rt.yield
  return { s with rt := rt }

def resumeAt (s : Sys) (co : Addr) (pt : Point) : Except Fault Sys := do
  let s := s.goto pt
  let rt ← s.rt.resume co
  return { s with rt := rt }

def pop (s : Sys) (timeout : Duration) : Except Fault (Sys × List Event) :=
  let call := s.calls
  let s := { s with calls := call + 1 }
  if s.chan.dataQueue = [] then
    match s.rt.current with
    | none => .error .nullDeref
    | some co => do
      let w : Waiter := ⟨co, call⟩
      let s := { s with
        timers := s.armTimer timeout w
        chan := { s.chan with consumerQueue := s.chan.consumerQueue ++ [w] } }
      let s ← s.yieldAt (.popWait call)
      return (s, [.callPop call timeout, .blockPop w])
  else
    let (s, es) := s.popData call
    .ok (s, .callPop call timeout :: es)

def push (s : Sys) (data : Data) (timeout : Duration) : Except Fault (Sys × List Event) :=
  let call := s.calls
  let s := { s with calls := call + 1 }
  if s.chan.dataQueue.length = s.chan.capacity then
    match s.rt.current with
    | none => .error .nullDeref
    | some co => do
      let w : Waiter := ⟨co, call⟩
      let s := { s with
        timers := s.armTimer timeout w
        chan := { s.chan with producerQueue := s.chan.producerQueue ++ [w] } }
      let s ← s.yieldAt (.pushWait call data)
      return (s, [.callPush call data timeout, .blockPush w])
  else
    let (s, es) := s.pushData call data
    .ok (s, .callPush call data timeout :: es)

def sleep (s : Sys) (seconds : Duration) : Except Fault (Sys × List Event) :=
  let call := s.calls
  let s := { s with calls := call + 1 }
  match s.rt.current with
  | none => .error .nullDeref
  | some co => do
    let s := { s with timers := s.timers.addTimer s.clock seconds.msec ⟨co, call⟩ }
    let s ← s.yieldAt (.sleepWait call)
    return (s, [.callSleep call])

def nextTimer (s : Sys) (now top : Nat) : Sys :=
  if s.timers = [] then
    s.goto .user
  else
    match s.timers[top]? with
    | none => s
    | some t =>
      if s.timers.IsTop t then
        if now < t.execMsec then
          s.goto .user
        else
          { s with timers := s.timers.eraseIdx top }.goto (.callback now t)
      else
        s

def userStep (s : Sys) (c : Cmd) : Except Fault (Sys × List Event) :=
  match c with
  | .create p =>
    -- `new` never returns an address that is in use.
    if s.rt.heap p = none then do
      let rt ← s.rt.create p
      return ({ s with rt := rt, point := Function.update s.point (some p) .user }, [])
    else
      .ok (s, [])
  | .yield => do
    let s ← s.yieldAt .user
    return (s, [])
  | .resume p => do
    let s ← s.resumeAt p .user
    return (s, [])
  | .finish =>
    match s.rt.stack with
    | none => .ok (s, [])
    | some p => do
      let rt ← s.rt.finish p
      return ({ s with rt := rt }, [])
  | .push data timeout => s.push data timeout
  | .pop timeout => s.pop timeout
  | .sleep seconds => s.sleep seconds
  | .runTimers =>
    -- Only the event loop runs timers, and it is `main` that runs the event loop.
    match s.rt.stack with
    | none => .ok (s.goto (.runTimers s.clock), [])
    | some _ => .ok (s, [])
  | .tick _ | .go _ => .ok (s, [])

def goStep (s : Sys) (top : Nat) : Except Fault (Sys × List Event) :=
  match s.here with
  | .user => .ok (s, [])
  | .popWait call => .ok (s.popData call)
  | .popResume call data w => do
    let s ← s.resumeAt w.co (.popNotify call data)
    return (s, [])
  | .popNotify call data => .ok (s.goto .user, [.retPop call data])
  | .pushWait call data => .ok (s.pushData call data)
  | .pushResume call w => do
    let s ← s.resumeAt w.co (.pushNotify call)
    return (s, [])
  | .pushNotify call => .ok (s.goto .user, [.retPush call true])
  | .sleepWait call => .ok (s.goto .user, [.retSleep call])
  | .runTimers now => .ok (s.nextTimer now top, [])
  | .callback now t => do
    let s ← s.resumeAt t.privateData.co (.runTimers now)
    return (s, [.fire t.privateData.call])

def step (s : Sys) (c : Cmd) : Except Fault (Sys × List Event) :=
  match c with
  | .tick now => .ok ({ s with clock := now }, [])
  | .go top => s.goStep top
  | c => if s.here = .user then s.userStep c else .ok (s, [])

def machine (capacity : Nat) : Machine Sys Cmd Event Fault where
  init := init capacity
  step := step

end Sys
end Fsw

import Fsw.Coroutine.Impl.System
import Fsw.Event.Impl.Help

/-!
This module contains the event loop of `event.cc` with the coroutines it runs: `coroutine::run` of
`coroutine.h`, `Coroutine::sleep` of `coroutine.cc` and `Socket::wait_event` of `socket.cc`.

As for channels, every native stack is at some `Point` of the code, and one step of the system
executes the stack the processor is on up to the next call of the runtime. What the kernel does is
up to the commands: whether `epoll_ctl` succeeds, and which events `epoll_wait` returns. Calls of
`sleep` and `wait_event` are numbered.
-/

namespace Fsw

def EPOLL_CAP : Nat := 16
def EPOLLIN : BitVec 32 := 0x001
def EPOLLOUT : BitVec 32 := 0x004
def INT_MAX : Int := 2 ^ 31 - 1

-- What `epoll_wait` is passed: its parameter is an `int`, `timeout` is an `int64_t`.
def epollTimeout {α : Type} (timers : TimerManager α) (now : Nat) : Int :=
  (timers.getNextTimeout now).bmod (2 ^ 32)

structure EpollEvent where
  events : BitVec 32
  u64 : BitVec 64
  deriving DecidableEq, Repr

namespace Loop

inductive EventType where
  | read
  | write
  deriving DecidableEq, Repr

inductive Point where
  | user -- Its own code
  | waitEvent (call : Nat) (fd : BitVec 32) -- `wait_event`, in `Coroutine::yield()`
  | sleepWait (call : Nat) -- `sleep`, in `Coroutine::yield()`
  | wait -- `Event::wait`, at the head of its loop
  | handleIo (i num : Nat) -- `default_handle_io`, at the head of its loop or in `resume(cid)`
  | runTimers (now : Nat) -- `run_timers`, at the head of its loop or in the callback of a timer
  deriving DecidableEq, Repr

inductive Event where
  | callSleep (call : Nat)
  | callWaitEvent (call : Nat) (fd : BitVec 32)
  | retSleep (call : Nat)
  | retWaitEvent (call : Nat) (ret : Bool)
  | resumed (cid : BitVec 32) -- `default_handle_io` resumes a coroutine
  | fire (call : Nat) -- The timer that a call has armed calls its callback
  | retWait -- `Event::wait` returns
  deriving DecidableEq, Repr

inductive Cmd where
  | tick (now : Nat) -- The clock moves
  | run (p : Addr) -- `main` calls `coroutine::run`
  | create (p : Addr) -- `Coroutine::create`, with the address that `new` returns
  | yield
  | resume (p : Addr)
  | finish -- The function of the coroutine returns
  | sleep (seconds : Duration)
  | waitEvent (fd : BitVec 32) (event : EventType) (added : Bool) -- `added` if the `ADD` succeeds
  | go (removed : Bool) (ready : List EpollEvent) (top : Nat) -- the stack goes on in the library
  deriving DecidableEq, Repr

end Loop

-- `timers` is `timer_manager`, and `eventNum` and `events` are those of `poll`.
structure Loop where
  rt : Runtime
  running : Int
  eventNum : Int
  events : List EpollEvent
  timers : TimerManager Waiter
  clock : Nat
  point : Option Addr → Loop.Point
  calls : Nat

namespace Loop

def init : Loop where
  rt := .init
  running := 0
  eventNum := 0
  events := []
  timers := []
  clock := 0
  point := fun _ => .user
  calls := 0

def here (s : Loop) : Point :=
  s.point s.rt.stack

def goto (s : Loop) (pt : Point) : Loop :=
  { s with point := Function.update s.point s.rt.stack pt }

def yieldAt (s : Loop) (pt : Point) : Except Fault Loop := do
  let s := s.goto pt
  let rt ← s.rt.yield
  return { s with rt := rt }

-- `new Event()`
def newEvent (s : Loop) : Loop :=
  { s with
    running := 1
    eventNum := 0
    events := List.replicate EPOLL_CAP ⟨0, 0⟩
    timers := [] }

def create (s : Loop) (p : Addr) : Except Fault Loop := do
  let rt ← s.rt.create p
  return { s with rt := rt, point := Function.update s.point (some p) .user }

-- `coroutine::run`, up to where `create` has the coroutine run
def run (s : Loop) (p : Addr) : Except Fault Loop :=
  (s.newEvent.goto .wait).create p

def sleep (s : Loop) (seconds : Duration) : Except Fault (Loop × List Event) :=
  let call := s.calls
  let s := { s with calls := call + 1 }
  match s.rt.current with
  | none => .error .nullDeref
  | some co => do
    let s := { s with timers := s.timers.addTimer s.clock seconds.msec ⟨co, call⟩ }
    let s ← s.yieldAt (.sleepWait call)
    return (s, [.callSleep call])

def waitEvent (s : Loop) (fd : BitVec 32) (event : EventType) (added : Bool)
    : Except Fault (Loop × List Event) :=
  let call := s.calls
  let s := { s with calls := call + 1 }
  match s.rt.current with
  | none => .error .nullDeref
  | some p => do
    let co ← s.rt.deref p
    let ev : EpollEvent :=
      ⟨if event = .read then EPOLLIN else EPOLLOUT, touint64 fd (BitVec.ofInt 32 co.cid)⟩
    let s := { s with events := s.events.set 0 ev }
    if added then
      if s.eventNum = INT_MAX then
        .error .overflow
      else
        let s ← { s with eventNum := s.eventNum + 1 }.yieldAt (.waitEvent call fd)
        return (s, [.callWaitEvent call fd])
    else
      return (s, [.callWaitEvent call fd, .retWaitEvent call false])

-- One turn of the loop of `Event::wait`, up to `handle_io`
def wait (s : Loop) (ready : List EpollEvent) : Loop × List Event :=
  if s.running > 0 then
    if s.timers.getNextTimeout s.clock < 0 && s.eventNum = 0 then
      ({ s with running := 0 }.goto .user, [.retWait])
    else
      let ready := ready.take EPOLL_CAP
      ({ s with events := ready ++ s.events.drop ready.length }.goto (.handleIo 0 ready.length), [])
  else
    (s.goto .user, [.retWait])

def handleIo (s : Loop) (i num : Nat) : Except Fault (Loop × List Event) :=
  if i < num then
    match s.events[i]? with
    | none => .error .nullDeref
    | some p => do
      let (_, cid) := fromuint64 p.u64
      let s := s.goto (.handleIo (i + 1) num)
      let rt ← s.rt.resumeCid cid.toInt
      return ({ s with rt := rt }, [.resumed cid])
  else
    .ok (s.goto (.runTimers s.clock), [])

def nextTimer (s : Loop) (now top : Nat) : Except Fault (Loop × List Event) :=
  if s.timers = [] then
    .ok (s.goto .wait, [])
  else
    match s.timers[top]? with
    | none => .ok (s, [])
    | some t =>
      if s.timers.IsTop t then
        if now < t.execMsec then
          .ok (s.goto .wait, [])
        else do
          let rt ← s.rt.resume t.privateData.co
          return ({ s with timers := s.timers.eraseIdx top, rt := rt }, [.fire t.privateData.call])
      else
        .ok (s, [])

def userStep (s : Loop) (c : Cmd) : Except Fault (Loop × List Event) :=
  match s.rt.stack, c with
  | none, .run p =>
    -- `new` never returns an address that is in use.
    if s.rt.heap p = none then do
      let s ← s.run p
      return (s, [])
    else
      .ok (s, [])
  | some _, .create p =>
    if s.rt.heap p = none then do
      let s ← s.create p
      return (s, [])
    else
      .ok (s, [])
  | some _, .yield => do
    let s ← s.yieldAt .user
    return (s, [])
  | some _, .resume p => do
    let rt ← s.rt.resume p
    return ({ s with rt := rt }, [])
  | some p, .finish => do
    let rt ← s.rt.finish p
    return ({ s with rt := rt }, [])
  | some _, .sleep seconds => s.sleep seconds
  | some _, .waitEvent fd event added => s.waitEvent fd event added
  | _, _ => .ok (s, [])

def goStep (s : Loop) (removed : Bool) (ready : List EpollEvent) (top : Nat)
    : Except Fault (Loop × List Event) :=
  match s.here with
  | .user => .ok (s, [])
  | .waitEvent call _ =>
    let s := if removed then { s with eventNum := s.eventNum - 1 } else s
    .ok (s.goto .user, [.retWaitEvent call removed])
  | .sleepWait call => .ok (s.goto .user, [.retSleep call])
  | .wait => .ok (s.wait ready)
  | .handleIo i num => s.handleIo i num
  | .runTimers now => s.nextTimer now top

def step (s : Loop) (c : Cmd) : Except Fault (Loop × List Event) :=
  match c with
  | .tick now => .ok ({ s with clock := now }, [])
  | .go removed ready top => s.goStep removed ready top
  | c => if s.here = .user then s.userStep c else .ok (s, [])

def machine : Machine Loop Cmd Event Fault where
  init := init
  step := step

end Loop
end Fsw

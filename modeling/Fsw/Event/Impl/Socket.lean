import Fsw.Event.Impl.Event

/-!
This module contains the functions of `socket.cc` that wait for a socket, on top of the event loop.
Each of them calls the kernel in a loop and waits while the kernel has nothing for it. The interest
list of `epoll` is the kernel's: `EPOLL_CTL_ADD` copies the record that it is passed, and a
descriptor that is closed is removed from it.
-/

namespace Fsw
namespace Sockets

inductive Op where
  | accept
  | recv
  | recvAll
  | send
  | sendAll
  | connect
  deriving DecidableEq, Repr

-- What the loop of the function passes to `wait_event`
def Op.awaited : Op → Loop.EventType
  | .accept => .read
  | .recv => .read
  | .recvAll => .read
  | .send => .write
  | .sendAll => .read
  | .connect => .write

inductive Result where
  -- `EAGAIN`, or `EINPROGRESS`; `added` if the kernel would take an `EPOLL_CTL_ADD`
  | again (added : Bool)
  | more -- Some bytes, but not all of those that `recv_all` or `send_all` want
  | done -- Everything else
  deriving DecidableEq, Repr

inductive Cmd where
  | own (c : Loop.Cmd) -- Something that has nothing to do with sockets
  | call (op : Op) (fd : BitVec 32)
  | result (r : Result) -- the call of the kernel returns
  | close (fd : BitVec 32)
  | go (ready : List EpollEvent) (top : Nat) -- the stack goes on in the library
  deriving DecidableEq, Repr

end Sockets

-- `call` is the function that a coroutine is in, with the descriptor of the socket.
structure Sockets where
  loop : Loop
  interest : BitVec 32 → Option EpollEvent
  call : Addr → Option (Sockets.Op × BitVec 32)

namespace Sockets

def init : Sockets where
  loop := .init
  interest := fun _ => none
  call := fun _ => none

def calling (s : Sockets) : Option (Op × BitVec 32) :=
  s.loop.rt.stack.bind s.call

def lift (s : Sockets) (c : Loop.Cmd) : Except Fault (Sockets × List Loop.Event) := do
  let (loop, es) ← s.loop.step c
  return ({ s with loop := loop }, es)

def own (s : Sockets) (c : Loop.Cmd) : Except Fault (Sockets × List Loop.Event) :=
  match c with
  | .tick now => s.lift (.tick now)
  | .run p =>
    -- `new Event()` creates an interest list.
    if s.loop.here = .user ∧ s.loop.rt.stack = none ∧ s.loop.rt.heap p = none then
      { s with interest := fun _ => none }.lift (.run p)
    else
      .ok (s, [])
  | .waitEvent _ _ _ => .ok (s, [])
  | .go _ _ _ => .ok (s, [])
  | c => if s.calling = none then s.lift c else .ok (s, [])

def leave (s : Sockets) (p : Addr) : Sockets :=
  { s with call := Function.update s.call p none }

-- A descriptor is in the interest list once.
def again (s : Sockets) (p : Addr) (op : Op) (fd : BitVec 32) (added : Bool)
    : Except Fault (Sockets × List Loop.Event) :=
  if added ∧ s.interest fd = none then do
    let (loop, es) ← s.loop.step (.waitEvent fd op.awaited true)
    return ({ s with loop := loop, interest := Function.update s.interest fd loop.events[0]? }, es)
  else do
    let (loop, es) ← s.loop.step (.waitEvent fd op.awaited false)
    return ({ s with loop := loop }.leave p, es)

def result (s : Sockets) (r : Result) : Except Fault (Sockets × List Loop.Event) :=
  match s.loop.rt.stack with
  | none => .ok (s, [])
  | some p =>
    match s.call p with
    | none => .ok (s, [])
    | some (op, fd) =>
      if s.loop.here = .user then
        match r with
        | .again added => s.again p op fd added
        | .more => if op = .recvAll ∨ op = .sendAll then .ok (s, []) else .ok (s.leave p, [])
        | .done => .ok (s.leave p, [])
      else
        .ok (s, [])

def go (s : Sockets) (ready : List EpollEvent) (top : Nat)
    : Except Fault (Sockets × List Loop.Event) :=
  match s.loop.rt.stack, s.loop.here with
  | some p, .waitEvent _ fd =>
    if (s.interest fd).isSome then
      { s with interest := Function.update s.interest fd none }.lift (.go true ready top)
    else
      (s.leave p).lift (.go false ready top)
  | _, _ => s.lift (.go false ready top)

def step (s : Sockets) (c : Cmd) : Except Fault (Sockets × List Loop.Event) :=
  match c with
  | .own c => s.own c
  | .call op fd =>
    match s.loop.rt.stack with
    | none => .ok (s, [])
    | some p =>
      if s.loop.here = .user ∧ s.call p = none then
        .ok ({ s with call := Function.update s.call p (some (op, fd)) }, [])
      else
        .ok (s, [])
  | .result r => s.result r
  | .close fd =>
    if s.loop.here = .user ∧ s.calling = none then
      .ok ({ s with interest := Function.update s.interest fd none }, [])
    else
      .ok (s, [])
  | .go ready top => s.go ready top

def machine : Machine Sockets Cmd Loop.Event Fault where
  init := init
  step := step

end Sockets
end Fsw

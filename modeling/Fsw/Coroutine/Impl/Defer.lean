import Fsw.Coroutine.Impl.Runtime

/-!
This module contains `Context::context_func` of `context.cc` with the deferred tasks of a coroutine,
on top of the coroutine runtime.

What the function of a coroutine and the ones of its tasks do is up to the commands that drive the
system. A command that the stack the processor is on is in no position to follow changes nothing.
Calls of `defer` are numbered, so that statements can refer to the task each of them makes.
-/

namespace Fsw
namespace Defer

structure Task where
  call : Nat
  fn : Addr
  args : Option Addr
  deriving DecidableEq, Repr

inductive Point where
  | user (task : Option Task) -- In `fn_()`, or in the function of a task
  | loop -- At the head of the loop of `execute_defer_tasks`
  deriving DecidableEq, Repr

-- Coroutines by their `cid`, `caller` is the one on whose stack `defer` is called.
inductive Event where
  | registered (caller : Option Int) (cid : Int) (task : Task)
  | started (cid : Int) (task : Task)
  | returned (cid : Int) (task : Task)
  | finished (cid : Int)
  deriving DecidableEq, Repr

inductive Cmd where
  | create (p : Addr)
  | yield
  | resume (p : Addr)
  | resumeCid (cid : Int)
  | defer (fn : Addr) (args : Option Addr)
  | ret -- The function that is executed returns.
  | go -- The loop of `execute_defer_tasks` goes on.
  deriving DecidableEq, Repr

end Defer

structure Defer where
  rt : Runtime
  point : Option Addr → Defer.Point
  deferTasks : Addr → Option (List Defer.Task)
  calls : Nat

namespace Defer

def init : Defer where
  rt := .init
  point := fun _ => .user none
  deferTasks := fun _ => none
  calls := 0

def here (s : Defer) : Point :=
  s.point s.rt.stack

def goto (s : Defer) (pt : Point) : Defer :=
  { s with point := Function.update s.point s.rt.stack pt }

def setTasks (s : Defer) (p : Addr) (tasks : Option (List Task)) : Defer :=
  { s with deferTasks := Function.update s.deferTasks p tasks }

def cid? (s : Defer) (p : Addr) : Option Int :=
  (s.rt.heap p).map (·.cid)

def create (s : Defer) (p : Addr) : Except Fault Defer :=
  if s.rt.heap p = none then do
    let rt ← s.rt.create p
    return { s with
      rt := rt
      point := Function.update s.point (some p) (.user none) }.setTasks p none
  else
    .ok s

def defer (s : Defer) (fn : Addr) (args : Option Addr) : Except Fault (Defer × List Event) :=
  match s.rt.current with
  | none => .error .nullDeref
  | some p => do
    let co ← s.rt.deref p
    let tasks := (s.deferTasks p).getD []
    let task : Task := ⟨s.calls, fn, args⟩
    return ({ s with calls := s.calls + 1 }.setTasks p (some (task :: tasks)),
      [.registered (s.rt.stack.bind s.cid?) co.cid task])

def finish (s : Defer) (p : Addr) : Except Fault (Defer × List Event) := do
  let co ← s.rt.deref p
  let rt ← s.rt.finish p
  return ({ s with rt := rt }, [.finished co.cid])

def executeDeferTasks (s : Defer) (p : Addr) : Except Fault (Defer × List Event) :=
  match s.deferTasks p with
  | none => s.finish p
  | some [] => (s.setTasks p none).finish p
  | some (task :: tasks) => do
    let co ← s.rt.deref p
    return ((s.setTasks p (some tasks)).goto (.user (some task)), [.started co.cid task])

def ret (s : Defer) (p : Addr) (task : Option Task) : Except Fault (Defer × List Event) :=
  match task with
  | none => .ok (s.goto .loop, [])
  | some task => do
    let co ← s.rt.deref p
    return (s.goto .loop, [.returned co.cid task])

def userStep (s : Defer) (task : Option Task) (c : Cmd) : Except Fault (Defer × List Event) :=
  match c with
  | .create p => do
    let s ← s.create p
    return (s, [])
  | .yield => do
    let rt ← s.rt.yield
    return ({ s with rt := rt }, [])
  | .resume p => do
    let rt ← s.rt.resume p
    return ({ s with rt := rt }, [])
  | .resumeCid cid => do
    let rt ← s.rt.resumeCid cid
    return ({ s with rt := rt }, [])
  | .defer fn args => s.defer fn args
  | .ret =>
    match s.rt.stack with
    | none => .ok (s, [])
    | some p => s.ret p task
  | .go => .ok (s, [])

def step (s : Defer) (c : Cmd) : Except Fault (Defer × List Event) :=
  match s.here, c, s.rt.stack with
  | .user task, c, _ => s.userStep task c
  | .loop, .go, some p => s.executeDeferTasks p
  | .loop, _, _ => .ok (s, [])

def machine : Machine Defer Cmd Event Fault where
  init := init
  step := step

end Defer
end Fsw

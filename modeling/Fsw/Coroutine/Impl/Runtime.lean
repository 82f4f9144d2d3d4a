import Mathlib.Algebra.Group.Int.Defs
import Mathlib.Logic.Function.Basic
import Fsw.Lib.Machine

/-!
This module contains the coroutine runtime: the context switches of `context.cc` and the coroutine
objects, their registry and their switching discipline of `coroutine.cc`.

A coroutine runs on a native stack of its own, which lives and dies with its object; the native
stack `none` is the one of `main`. User code is not modelled: it is whatever sequence of `create`,
`yield`, `resume` and `finish` the stack that is currently executing issues. `finish` is the end of
`Context::context_func`, after the function of the coroutine and its deferred tasks have returned.

Machine contexts are one-shot. A slot of a `Context` is therefore `none` before something is saved
into it, and again from the moment on at which something jumps to what it holds. Every operation
executes up to the point at which user code goes on, `land` being what is left to do of the `run`,
`_resume` or `_yield` that a jump leads into.
-/

namespace Fsw

abbrev Addr := Nat

inductive Fault where
  | assertion -- A failed `assert`
  | nullDeref -- A member function called on `nullptr`
  | useAfterFree -- A member function called on an object that has been deleted
  | staleContext -- A jump to a machine context whose frames are gone
  | overflow -- Signed overflow
  deriving DecidableEq, Repr

namespace Coroutine

inductive Pc where
  | contextFunc -- The start of `Context::context_func`, as prepared by `make_fcontext`
  | swappedIn (co : Addr) -- `Coroutine::run` or `Coroutine::_resume` of `co`, after `ctx.swap_in()`
  | swappedOut -- `Coroutine::_yield`, after `ctx.swap_out()`
  | ended -- `Context::context_func`, after its final `swap_out()`
  deriving DecidableEq, Repr

structure FContext where
  stack : Option Addr
  pc : Pc
  deriving DecidableEq, Repr

structure Context where
  ctx : Option FContext
  swapCtx : Option FContext
  isEnd : Bool
  deriving DecidableEq, Repr

end Coroutine

structure Coroutine where
  origin : Option Addr
  ctx : Coroutine.Context
  cid : Int
  deriving DecidableEq, Repr

structure Runtime where
  heap : Addr → Option Coroutine
  current : Option Addr
  lastCid : Int
  coroutines : Int → Option Addr
  stack : Option Addr

namespace Runtime

open Coroutine

def LONG_MAX : Int := 2 ^ 63 - 1

def init : Runtime where
  heap := fun _ => none
  current := none
  lastCid := 0
  coroutines := fun _ => none
  stack := none

def deref (s : Runtime) (p : Addr) : Except Fault Coroutine :=
  match s.heap p with
  | some co => .ok co
  | none => .error .useAfterFree

def set (s : Runtime) (p : Addr) (co : Coroutine) : Runtime :=
  { s with heap := Function.update s.heap p (some co) }

def land (s : Runtime) (pc : Pc) : Except Fault Runtime :=
  match pc with
  | .contextFunc => .ok s
  | .swappedOut => .ok s
  | .swappedIn p => do
    let co ← s.deref p
    if co.ctx.isEnd then
      .ok { s with
        current := co.origin
        coroutines := Function.update s.coroutines co.cid none
        heap := Function.update s.heap p none }
    else
      .ok s
  | .ended => .error .staleContext

def jumpFcontext (s : Runtime) (target : Option FContext) : Except Fault Runtime :=
  match target with
  | some fctx => land { s with stack := fctx.stack } fctx.pc
  | none => .error .staleContext

def swapIn (s : Runtime) (p : Addr) : Except Fault Runtime := do
  let co ← s.deref p
  let saved : FContext := ⟨s.stack, .swappedIn p⟩
  let s := s.set p { co with ctx := { co.ctx with swapCtx := some saved, ctx := none } }
  s.jumpFcontext co.ctx.ctx

def swapOut (s : Runtime) (p : Addr) (pc : Pc) : Except Fault Runtime := do
  let co ← s.deref p
  let saved : FContext := ⟨s.stack, pc⟩
  let s := s.set p { co with ctx := { co.ctx with ctx := some saved, swapCtx := none } }
  s.jumpFcontext co.ctx.swapCtx

def run (s : Runtime) (p : Addr) : Except Fault Runtime := do
  let co ← s.deref p
  let s := { s.set p { co with origin := s.current } with current := some p }
  s.swapIn p

def new (s : Runtime) (p : Addr) : Except Fault Runtime :=
  if s.lastCid = LONG_MAX then
    .error .overflow
  else
    let cid := s.lastCid + 1
    let ctx : Context := { ctx := some ⟨some p, .contextFunc⟩, swapCtx := none, isEnd := false }
    let s := s.set p { origin := none, ctx := ctx, cid := cid }
    .ok { s with lastCid := cid, coroutines := Function.update s.coroutines cid (some p) }

-- `p` is the address that `new` returns.
def create (s : Runtime) (p : Addr) : Except Fault Runtime := do
  let s ← s.new p
  s.run p

def yield (s : Runtime) : Except Fault Runtime :=
  match s.current with
  | none => .error .nullDeref
  | some p => do
    let co ← s.deref p
    let s := { s with current := co.origin }
    s.swapOut p .swappedOut

def resume (s : Runtime) (p : Addr) : Except Fault Runtime :=
  if s.current = some p then
    .error .assertion
  else
    s.run p

def getByCid (s : Runtime) (cid : Int) : Option Addr :=
  s.coroutines cid

def resumeCid (s : Runtime) (cid : Int) : Except Fault Runtime :=
  match s.getByCid cid with
  | none => .error .nullDeref
  | some p => s.resume p

def finish (s : Runtime) (p : Addr) : Except Fault Runtime := do
  let co ← s.deref p
  let s := s.set p { co with ctx := { co.ctx with isEnd := true } }
  s.swapOut p .ended

inductive Cmd where
  | create (p : Addr)
  | yield
  | resume (p : Addr)
  | resumeCid (cid : Int)
  | finish
  deriving DecidableEq, Repr

inductive Event where
  | created (cid : Int) (p : Addr)
  | finished (cid : Int) (p : Addr)
  deriving DecidableEq, Repr

def step (s : Runtime) (c : Cmd) : Except Fault (Runtime × List Event) :=
  match c with
  | .create p => do
    let s' ← s.create p
    return (s', [.created (s.lastCid + 1) p])
  | .yield => do
    let s' ← s.yield
    return (s', [])
  | .resume p => do
    let s' ← s.resume p
    return (s', [])
  | .resumeCid cid => do
    let s' ← s.resumeCid cid
    return (s', [])
  | .finish =>
    match s.stack with
    | none => .error .nullDeref
    | some p => do
      let co ← s.deref p
      let s' ← s.finish p
      return (s', [.finished co.cid p])

def machine : Machine Runtime Cmd Event Fault where
  init := init
  step := step

end Runtime
end Fsw

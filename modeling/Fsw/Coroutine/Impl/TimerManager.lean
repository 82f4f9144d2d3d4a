import Fsw.Lib.Machine
import Fsw.Coroutine.Impl.Timer

/-!
This module contains `TimerManager::run_timers` of `timer.cc` with callbacks that may do anything:
add timers, and run timers themselves. Calls of `add_timer` are numbered, and the number is the
private data of the timer.
-/

namespace Fsw
namespace Drain

-- A call of `run_timers`, either at the head of its loop or in a callback
structure Frame where
  now : Nat
  inCallback : Bool
  deriving DecidableEq, Repr

inductive Cmd where
  | tick (now : Nat) -- The clock moves
  | addTimer (timeout : Int)
  | runTimers -- `run_timers` is called
  | loop (top : Nat) -- the innermost `run_timers` goes on, `top` is the place of `timers.top()`
  | ret -- The callback returns
  deriving DecidableEq, Repr

inductive Event where
  | added (call now : Nat) (timeout : Int)
  | fired (t : Timer Nat) (clock : Nat)
  | returned (now : Nat) -- `run_timers`, which has found out that it is `now`
  deriving DecidableEq, Repr

end Drain

structure Drain where
  timers : TimerManager Nat
  clock : Nat
  frames : List Drain.Frame
  calls : Nat
  deriving DecidableEq, Repr

namespace Drain

def init : Drain where
  timers := []
  clock := 0
  frames := []
  calls := 0

def outside (s : Drain) : Bool :=
  s.frames.all (·.inCallback)

def loop (s : Drain) (frame : Frame) (frames : List Frame) (top : Nat) : Drain × List Event :=
  if s.timers.isEmpty then
    ({ s with frames := frames }, [.returned frame.now])
  else
    match s.timers[top]? with
    | none => (s, [])
    | some t =>
      if s.timers.IsTop t then
        if frame.now < t.execMsec then
          ({ s with frames := frames }, [.returned frame.now])
        else
          ({ s with
            timers := s.timers.eraseIdx top
            frames := { frame with inCallback := true } :: frames }, [.fired t s.clock])
      else
        (s, [])

def step (s : Drain) (c : Cmd) : Except Empty (Drain × List Event) :=
  match c with
  | .tick now => .ok ({ s with clock := now }, [])
  | .addTimer timeout =>
    if s.outside then
      .ok ({ s with timers := s.timers.addTimer s.clock timeout s.calls, calls := s.calls + 1 },
        [.added s.calls s.clock timeout])
    else
      .ok (s, [])
  | .runTimers =>
    if s.outside then .ok ({ s with frames := ⟨s.clock, false⟩ :: s.frames }, []) else .ok (s, [])
  | .loop top =>
    match s.frames with
    | ⟨now, false⟩ :: frames => .ok (s.loop ⟨now, false⟩ frames top)
    | _ => .ok (s, [])
  | .ret =>
    match s.frames with
    | ⟨now, true⟩ :: frames => .ok ({ s with frames := ⟨now, false⟩ :: frames }, [])
    | _ => .ok (s, [])

def machine : Machine Drain Cmd Event Empty where
  init := init
  step := step

/--
The clock never goes back and stays below `2^63`, and timeouts are not negative.
-/
def Admissible (s : Drain) : Cmd → Prop
  | .tick now => s.clock ≤ now ∧ now < 2 ^ 63
  | .addTimer timeout => 0 ≤ timeout ∧ timeout < 2 ^ 63
  | .runTimers | .loop _ | .ret => True

instance {s : Drain} {c : Cmd} : Decidable (s.Admissible c) :=
  match c with
  | .tick _ => inferInstanceAs (Decidable (_ ∧ _))
  | .addTimer _ => inferInstanceAs (Decidable (_ ∧ _))
  | .runTimers => inferInstanceAs (Decidable True)
  | .loop _ => inferInstanceAs (Decidable True)
  | .ret => inferInstanceAs (Decidable True)

end Drain
end Fsw

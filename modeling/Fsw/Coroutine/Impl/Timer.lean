import Mathlib.Algebra.Group.Int.Defs
import Mathlib.Algebra.Group.Nat.Defs
import Mathlib.Data.Int.Notation
import Mathlib.Data.List.Basic

/-!
This module contains the timers of `timer.cc`, `now` being what `get_current_ms()` returns. A timer
manager is the list of its pending timers. Which one `std::priority_queue::top` delivers among those
with the smallest `exec_msec` is left open: it is some `t` with `IsTop t`.
-/

namespace Fsw

structure Timer (α : Type) where
  timeout : Nat
  execMsec : Nat
  privateData : α
  deriving DecidableEq, Repr

namespace Timer

def toUInt64 (n : Int) : Nat :=
  (n % 2 ^ 64).toNat

def toInt64 (n : Nat) : Int :=
  if n < 2 ^ 63 then n else n - 2 ^ 64

def new {α : Type} (now : Nat) (timeout : Nat) (privateData : α) : Timer α where
  timeout := timeout
  execMsec := (now + timeout) % 2 ^ 64
  privateData := privateData

end Timer

abbrev TimerManager (α : Type) := List (Timer α)

namespace TimerManager

variable {α : Type}

def addTimer (timers : TimerManager α) (now : Nat) (timeout : Int) (privateData : α)
    : TimerManager α :=
  timers ++ [Timer.new now (Timer.toUInt64 timeout) privateData]

def IsTop (timers : TimerManager α) (t : Timer α) : Prop :=
  ∀ t' ∈ timers, t.execMsec ≤ t'.execMsec

instance (timers : TimerManager α) (t : Timer α) : Decidable (timers.IsTop t) :=
  inferInstanceAs (Decidable (∀ t' ∈ timers, _))

-- `timers.top()` or a timer with the same `exec_msec`
def top? (timers : TimerManager α) : Option (Timer α) :=
  timers.find? fun t => timers.IsTop t

def getNextTimeout (timers : TimerManager α) (now : Nat) : Int :=
  match timers.top? with
  | none => -1
  | some t =>
    let diff := Timer.toInt64 ((t.execMsec + 2 ^ 64 - now) % 2 ^ 64)
    if diff < 0 then 0 else diff

end TimerManager
end Fsw

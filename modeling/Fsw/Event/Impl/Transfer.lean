import Fsw.Coroutine.Impl.Timer
import Fsw.Lib.Bytes

/-!
This module contains `recv_all` and `send_all` of `socket.cc` with whatever the kernel answers. The
two have the same loops; `move` is what the kernel does when it transfers bytes at a place of the
buffer. An `ssize_t` that overflows is a failure of its own.
-/

namespace Fsw
namespace Transfer

inductive Result where
  | count (n : Nat)
  | again (waited : Bool) -- `EAGAIN`, and what `wait_event` returns then
  | error -- Any other error
  deriving DecidableEq, Repr

def Result.ret : Result → Int
  | .count n => n
  | .again _ => -1
  | .error => -1

-- The kernel has been asked for `length` bytes from `buf + pos` on.
structure Attempt where
  pos : Int
  length : Nat
  result : Result
  deriving DecidableEq, Repr

inductive Stuck where
  | unfinished -- The results are used up.
  | overflow
  deriving DecidableEq, Repr

end Transfer

structure Transfer (σ : Type) where
  ret : Int
  state : σ
  attempts : List Transfer.Attempt
  deriving DecidableEq, Repr

namespace Transfer

variable {σ : Type}

def SSIZE_MAX : Int := 9223372036854775807

def after (a : Attempt) (t : Transfer σ) : Transfer σ :=
  { t with attempts := a :: t.attempts }

def transferAll (move : σ → Nat → Nat → σ) (len : Nat) (total : Int) (s : σ)
    : List Result → Except Stuck (Transfer σ)
  | [] => .error .unfinished
  | r :: script =>
    let attempt : Attempt := ⟨total, Timer.toUInt64 (len - total), r⟩
    match r with
    | .again true => (transferAll move len total s script).map (after attempt)
    | r =>
      let ret := r.ret
      if ret ≤ 0 then
        let total := if total = 0 then ret else total
        .ok ⟨total, s, [attempt]⟩
      else if total + ret > SSIZE_MAX then
        .error .overflow
      else
        let s := move s total.toNat ret.toNat
        let total := total + ret
        if Timer.toUInt64 total = len then
          .ok ⟨total, s, [attempt]⟩
        else
          (transferAll move len total s script).map (after attempt)

structure Receiver where
  mem : Bytes
  consumed : Nat

def slice (stream : Nat → UInt8) (start n : Nat) : Bytes :=
  (List.range n).map fun i => stream (start + i)

def recvAll (stream : Nat → UInt8) (mem : Bytes) (buf len : Nat) (script : List Result)
    : Except Stuck (Transfer Receiver) :=
  let move (s : Receiver) (total n : Nat) : Receiver :=
    ⟨s.mem.write (buf + total) (slice stream s.consumed n), s.consumed + n⟩
  transferAll move len 0 ⟨mem, 0⟩ script

def sendAll (mem : Bytes) (buf len : Nat) (script : List Result) : Except Stuck (Transfer Bytes) :=
  let move (wire : Bytes) (total n : Nat) : Bytes :=
    wire ++ (mem.drop (buf + total)).take n
  transferAll move len 0 [] script

end Transfer
end Fsw

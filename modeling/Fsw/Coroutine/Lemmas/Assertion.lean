import Fsw.Coroutine.Impl.System

namespace Fsw
namespace Sys

variable {rt : Runtime} {s : Sys} {p : Addr}

theorem bind_ne_error {α β : Type} {x : Except Fault α} {f : α → Except Fault β} {e : Fault}
    (hx : x ≠ .error e) (hf : ∀ a, f a ≠ .error e)
    : (x >>= f) ≠ .error e := by
  cases x with
  | error e' =>
    intro h
    injection h with h
    rw [h] at hx
    contradiction
  | ok a => apply hf a

theorem bind_pure_ne_error {α β : Type} {x : Except Fault α} {f : α → β} {e : Fault}
    (hx : x ≠ .error e)
    : (x >>= fun a => .ok (f a)) ≠ .error e := by
  apply bind_ne_error hx
  intro a h
  contradiction

theorem deref_ne_assertion : rt.deref p ≠ .error .assertion := by
  unfold Runtime.deref
  split <;> simp

theorem jumpFcontext_ne_assertion {target : Option Coroutine.FContext}
    : rt.jumpFcontext target ≠ .error .assertion := by
  unfold Runtime.jumpFcontext
  split
  . unfold Runtime.land
    split
    . simp
    . simp
    . apply bind_ne_error deref_ne_assertion
      intro co
      split <;> simp
    . simp
  . simp

theorem swapOut_ne_assertion {pc : Coroutine.Pc} : rt.swapOut p pc ≠ .error .assertion := by
  apply bind_ne_error deref_ne_assertion
  intro co
  exact jumpFcontext_ne_assertion

theorem run_ne_assertion : rt.run p ≠ .error .assertion := by
  apply bind_ne_error deref_ne_assertion
  intro co
  apply bind_ne_error deref_ne_assertion
  intro co'
  exact jumpFcontext_ne_assertion

theorem resume_ne_assertion (h : rt.current ≠ some p)
    : rt.resume p ≠ .error .assertion := by
  rw [Runtime.resume, if_neg h]
  exact run_ne_assertion

theorem create_ne_assertion : rt.create p ≠ .error .assertion := by
  apply bind_ne_error
  . unfold Runtime.new
    split <;> simp
  . intro rt'
    exact run_ne_assertion

theorem yield_ne_assertion : rt.yield ≠ .error .assertion := by
  unfold Runtime.yield
  split
  . simp
  . apply bind_ne_error deref_ne_assertion
    intro co
    exact swapOut_ne_assertion

theorem finish_ne_assertion : rt.finish p ≠ .error .assertion := by
  apply bind_ne_error deref_ne_assertion
  intro co
  exact swapOut_ne_assertion

theorem yieldAt_ne_assertion {pt : Point} : s.yieldAt pt ≠ .error .assertion := by
  apply bind_pure_ne_error yield_ne_assertion

theorem resumeAt_ne_assertion {pt : Point} (h : s.rt.current ≠ some p)
    : s.resumeAt p pt ≠ .error .assertion := by
  apply bind_pure_ne_error (resume_ne_assertion h)

theorem push_ne_assertion {data : Data} {timeout : Duration}
    : s.push data timeout ≠ .error .assertion := by
  unfold Sys.push
  dsimp only
  split
  . split
    . simp
    . apply bind_pure_ne_error yieldAt_ne_assertion
  . simp

theorem pop_ne_assertion {timeout : Duration} : s.pop timeout ≠ .error .assertion := by
  unfold Sys.pop
  dsimp only
  split
  . split
    . simp
    . apply bind_pure_ne_error yieldAt_ne_assertion
  . simp

theorem sleep_ne_assertion {seconds : Duration} : s.sleep seconds ≠ .error .assertion := by
  unfold Sys.sleep
  dsimp only
  split
  . simp
  . apply bind_pure_ne_error yieldAt_ne_assertion

theorem userStep_ne_assertion {c : Cmd} (hc : ∀ p, c = .resume p → s.rt.current ≠ some p)
    : s.userStep c ≠ .error .assertion := by
  cases c with
  | create p =>
    simp only [userStep]
    split
    . apply bind_pure_ne_error create_ne_assertion
    . simp
  | yield =>
    apply bind_pure_ne_error yieldAt_ne_assertion
  | resume p =>
    apply bind_pure_ne_error (resumeAt_ne_assertion (hc p rfl))
  | finish =>
    simp only [userStep]
    split
    . simp
    . apply bind_pure_ne_error finish_ne_assertion
  | push data timeout => exact push_ne_assertion
  | pop timeout => exact pop_ne_assertion
  | sleep seconds => exact sleep_ne_assertion
  | runTimers =>
    simp only [userStep]
    split <;> simp
  | tick now => simp [userStep]
  | go top => simp [userStep]


end Sys
end Fsw

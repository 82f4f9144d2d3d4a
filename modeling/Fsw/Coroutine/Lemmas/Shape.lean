import Fsw.Coroutine.Lemmas.Step

namespace Fsw
namespace Sys

def Point.isCalling : Point → Bool
  | .user | .popNotify _ _ | .pushNotify _ | .runTimers _ => true
  | _ => false

def Point.isWaiting : Point → Bool
  | .user | .popWait _ | .pushWait _ _ | .sleepWait _ => true
  | _ => false

def Point.isTimer : Point → Bool
  | .runTimers _ | .callback _ _ => true
  | _ => false

def below : List Addr → List (Option Addr)
  | [] => []
  | _ :: l => l.head? :: below l

structure Shape (rt : Runtime) (point : Option Addr → Point) (l : List Addr) : Prop where
  inv : rt.Inv l
  calling : ∀ st ∈ below l, (point st).isCalling
  waiting : ∀ p, rt.Suspended p → (point (some p)).isWaiting
  dead : ∀ p, rt.heap p = none → point (some p) = .user
  timer : ∀ p, (point (some p)).isTimer = false

theorem mem_of_some_mem_below {p : Addr} {l : List Addr} (h : some p ∈ below l)
    : p ∈ l := by
  induction l with
  | nil => simp [below] at h
  | cons q l ih =>
    rw [below, List.mem_cons] at h
    rw [List.mem_cons]
    right
    cases h with
    | inl h =>
      apply List.mem_of_mem_head?
      rw [← h]
      rfl
    | inr h => apply ih h

theorem head?_not_mem_below {l : List Addr} (h : l.Nodup)
    : l.head? ∉ below l := by
  cases l with
  | nil => simp [below]
  | cons p l =>
    rw [List.nodup_cons] at h
    rw [below, List.head?_cons, List.mem_cons, not_or]
    constructor
    . intro heq
      apply h.1
      apply List.mem_of_mem_head?
      rw [← heq]
      rfl
    . intro hmem
      apply h.1
      apply mem_of_some_mem_below hmem

namespace Shape

variable {rt rt' : Runtime} {point : Option Addr → Point} {l : List Addr} {p : Addr}

theorem stack_ne_of_suspended (h : Shape rt point l) (hp : rt.Suspended p)
    : rt.stack ≠ some p := by
  rw [h.inv.stack, ← h.inv.current]
  apply h.inv.current_ne_of_suspended hp

theorem stack_ne_of_dead (h : Shape rt point l) (hp : rt.heap p = none)
    : rt.stack ≠ some p := by
  intro hstack
  rw [h.inv.stack] at hstack
  have := h.inv.linked.live p (List.mem_of_mem_head? hstack)
  simp [Runtime.Live, hp] at this

theorem goto {pt : Point} (h : Shape rt point l) (hpt : pt.isTimer → rt.stack = none)
    : Shape rt (Function.update point rt.stack pt) l where
  inv := h.inv
  calling := by
    intro st hst
    have : st ≠ rt.stack := by
      intro heq
      apply head?_not_mem_below h.inv.nodup
      rw [← h.inv.stack, ← heq]
      exact hst
    rw [Function.update_of_ne this]
    apply h.calling st hst
  waiting := by
    intro p hp
    rw [Function.update_of_ne (h.stack_ne_of_suspended hp).symm]
    apply h.waiting p hp
  dead := by
    intro p hp
    rw [Function.update_of_ne (h.stack_ne_of_dead hp).symm]
    apply h.dead p hp
  timer := by
    intro p
    by_cases heq : some p = rt.stack
    . rw [heq, Function.update_self]
      cases hpt' : pt.isTimer with
      | false => rfl
      | true =>
        rw [hpt hpt'] at heq
        contradiction
    . rw [Function.update_of_ne heq]
      apply h.timer p

theorem enter (h : Shape rt point l) (hcall : (point rt.stack).isCalling)
    (hok : rt.resume p = .ok rt')
    : Shape rt' point (p :: l) := by
  rcases h.inv.resume_ok hok with ⟨_, hinv, hsame⟩
  constructor
  . exact hinv
  . intro st hst
    rw [below, List.mem_cons] at hst
    cases hst with
    | inl heq =>
      rw [heq, ← h.inv.stack]
      exact hcall
    | inr hmem => apply h.calling st hmem
  . intro q hq
    rw [h.inv.suspended_enter hinv hsame] at hq
    apply h.waiting q hq.1
  . intro q hq
    apply h.dead
    have := hsame.live q
    simpa [Runtime.Live, hq] using this
  . apply h.timer

theorem create (h : Shape rt point l) (hcall : (point rt.stack).isCalling)
    (hp : rt.heap p = none) (hok : rt.create p = .ok rt')
    : Shape rt' point (p :: l) := by
  rcases h.inv.create_ok hp hok with ⟨hinv, hlive, _, _⟩
  constructor
  . exact hinv
  . intro st hst
    rw [below, List.mem_cons] at hst
    cases hst with
    | inl heq =>
      rw [heq, ← h.inv.stack]
      exact hcall
    | inr hmem => apply h.calling st hmem
  . intro q hq
    rw [h.inv.suspended_create hinv hlive hp] at hq
    apply h.waiting q hq
  . intro q hq
    apply h.dead
    have := hlive q
    simp only [Runtime.Live, hq, Option.isSome_none, Bool.false_eq_true, false_iff, not_or] at this
    simpa using this.1
  . apply h.timer

theorem leave (h : Shape rt point l) (hwait : (point rt.stack).isWaiting)
    (hok : rt.yield = .ok rt')
    : ∃ p t, l = p :: t ∧ rt.stack = some p ∧ Shape rt' point t
        ∧ ∀ q, rt'.Suspended q ↔ rt.Suspended q ∨ q = p := by
  rcases h.inv.yield_ok hok with ⟨p, t, rfl, hinv, hsame⟩
  have hstack : rt.stack = some p := h.inv.stack
  have hsusp : ∀ q, rt'.Suspended q ↔ rt.Suspended q ∨ q = p := by
    intro q
    apply h.inv.suspended_leave hinv hsame
  refine ⟨p, t, rfl, hstack, ?_, hsusp⟩
  constructor
  . exact hinv
  . intro st hst
    apply h.calling
    rw [below, List.mem_cons]
    right
    exact hst
  . intro q hq
    rw [hsusp] at hq
    cases hq with
    | inl hq => apply h.waiting q hq
    | inr heq =>
      rw [heq, ← hstack]
      exact hwait
  . intro q hq
    apply h.dead
    have := hsame.live q
    simpa [Runtime.Live, hq] using this
  . apply h.timer

theorem finish (h : Shape rt point l) (huser : point rt.stack = .user)
    (hstack : rt.stack = some p) (hok : rt.finish p = .ok rt')
    : ∃ t, l = p :: t ∧ Shape rt' point t ∧ ∀ q, rt'.Suspended q ↔ rt.Suspended q := by
  rcases h.inv.finish_ok hstack hok with ⟨t, rfl, hinv, hlive⟩
  have hsusp : ∀ q, rt'.Suspended q ↔ rt.Suspended q := by
    intro q
    apply h.inv.suspended_finish hinv hlive
  refine ⟨t, rfl, ?_, hsusp⟩
  constructor
  . exact hinv
  . intro st hst
    apply h.calling
    rw [below, List.mem_cons]
    right
    exact hst
  . intro q hq
    rw [hsusp] at hq
    apply h.waiting q hq
  . intro q hq
    by_cases hqp : q = p
    . rw [hqp, ← hstack]
      exact huser
    . apply h.dead
      have := hlive q
      simpa [Runtime.Live, hq, hqp] using this
  . apply h.timer

theorem update_dead (h : Shape rt point l) (hp : rt.heap p = none)
    : Function.update point (some p) .user = point := by
  rw [← h.dead p hp]
  apply Function.update_eq_self ..

end Shape

theorem shape_init {capacity : Nat} : Shape (init capacity).rt (init capacity).point [] where
  inv := Runtime.inv_init
  calling := by simp [below]
  waiting := by simp [init, Runtime.init, Runtime.Suspended]
  dead := by simp [init]
  timer := by simp [init, Point.isTimer]

theorem PopEntry.rt_eq {s t : Sys} {c : Cmd} {call : Nat} {pre : List Event}
    (h : PopEntry s c call pre t)
    : t.rt = s.rt ∧ t.point = s.point ∧ t.timers = s.timers := by
  cases h with
  | fresh => exact ⟨rfl, rfl, rfl⟩
  | woken => exact ⟨rfl, rfl, rfl⟩

theorem PushEntry.rt_eq {s t : Sys} {c : Cmd} {call : Nat} {data : Data} {pre : List Event}
    (h : PushEntry s c call data pre t)
    : t.rt = s.rt ∧ t.point = s.point ∧ t.timers = s.timers := by
  cases h with
  | fresh => exact ⟨rfl, rfl, rfl⟩
  | woken => exact ⟨rfl, rfl, rfl⟩

theorem Shape.stack_eq_none {s : Sys} {l : List Addr} (h : Shape s.rt s.point l)
    (htimer : s.here.isTimer)
    : s.rt.stack = none := by
  cases hstack : s.rt.stack with
  | none => rfl
  | some p =>
    rw [here, hstack, h.timer p] at htimer
    contradiction

theorem Shape.step {s s' : Sys} {c : Cmd} {es : List Event} {l : List Addr}
    (h : Shape s.rt s.point l) (hs : Step s c es s')
    : ∃ l', Shape s'.rt s'.point l' := by
  have hmove : ∀ pt : Point, (pt.isTimer → s.rt.stack = none) →
      Shape s.rt (Function.update s.point s.rt.stack pt) l := by
    intro pt hpt
    apply h.goto hpt
  cases hs with
  | idle => exact ⟨l, h⟩
  | tick => exact ⟨l, h⟩
  | create hhere hp hrt =>
    rw [h.update_dead hp]
    exact ⟨_, h.create (by rw [← here, hhere]; rfl) hp hrt⟩
  | yield hhere hrt =>
    rcases (hmove .user (by simp [Point.isTimer])).leave (by simp [Point.isWaiting]) hrt
      with ⟨p, t, _, _, ht, _⟩
    exact ⟨t, ht⟩
  | resume hhere hrt =>
    exact ⟨_, (hmove .user (by simp [Point.isTimer])).enter (by simp [Point.isCalling]) hrt⟩
  | finish hhere hstack hrt =>
    rcases h.finish hhere hstack hrt with ⟨t, _, ht, _⟩
    exact ⟨t, ht⟩
  | popBlock hhere hdata hcur hrt =>
    rcases (hmove (.popWait s.calls) (by simp [Point.isTimer])).leave
      (by simp [Point.isWaiting]) hrt
      with ⟨p, t, _, _, ht, _⟩
    exact ⟨t, ht⟩
  | pushBlock hhere hdata hcur hrt =>
    rcases (hmove (.pushWait s.calls _) (by simp [Point.isTimer])).leave
      (by simp [Point.isWaiting]) hrt
      with ⟨p, t, _, _, ht, _⟩
    exact ⟨t, ht⟩
  | sleepBlock hhere hcur hrt =>
    rcases (hmove (.sleepWait s.calls) (by simp [Point.isTimer])).leave
      (by simp [Point.isWaiting]) hrt
      with ⟨p, t, _, _, ht, _⟩
    exact ⟨t, ht⟩
  | popEmpty he | popTake he | popServe he =>
    simp only [Sys.goto, he.rt_eq.1, he.rt_eq.2.1]
    exact ⟨l, hmove _ (by simp [Point.isTimer])⟩
  | pushFull he | pushPut he | pushServe he =>
    simp only [Sys.goto, he.rt_eq.1, he.rt_eq.2.1]
    exact ⟨l, hmove _ (by simp [Point.isTimer])⟩
  | popResume hhere hrt =>
    exact ⟨_,
      (hmove (.popNotify _ _) (by simp [Point.isTimer])).enter (by simp [Point.isCalling]) hrt⟩
  | pushResume hhere hrt =>
    exact ⟨_,
      (hmove (.pushNotify _) (by simp [Point.isTimer])).enter (by simp [Point.isCalling]) hrt⟩
  | callback hhere hrt =>
    have hstack := h.stack_eq_none (by rw [hhere]; rfl)
    exact ⟨_, (hmove (.runTimers _) (fun _ => hstack)).enter (by simp [Point.isCalling]) hrt⟩
  | popReturn hhere => exact ⟨l, hmove _ (by simp [Point.isTimer])⟩
  | pushReturn hhere => exact ⟨l, hmove _ (by simp [Point.isTimer])⟩
  | sleepReturn hhere => exact ⟨l, hmove _ (by simp [Point.isTimer])⟩
  | runTimers hhere hstack => exact ⟨l, hmove _ (fun _ => hstack)⟩
  | timersDone hhere => exact ⟨l, hmove _ (by simp [Point.isTimer])⟩
  | timerDue hhere =>
    have hstack := h.stack_eq_none (by rw [hhere]; rfl)
    exact ⟨l, hmove _ (fun _ => hstack)⟩

theorem Run.shape {capacity : Nat} {P : Sys → Cmd → Prop} {tr : List Event} {s : Sys}
    (h : (machine capacity).Run P tr s)
    : ∃ l, Shape s.rt s.point l := by
  apply Machine.Run.invariant (I := fun _ s => ∃ l, Shape s.rt s.point l) ?_ ?_ h
  . exact ⟨[], shape_init⟩
  . intro tr s c s' es _ ih _ hs
    rcases ih with ⟨l, hl⟩
    apply hl.step (Step.of_step hs)

end Sys
end Fsw

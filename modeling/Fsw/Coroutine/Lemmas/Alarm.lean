import Mathlib.Data.List.Perm.Basic
import Fsw.Coroutine.Lemmas.StaleWaiter

namespace Fsw
namespace Sys

def Point.waitCall : Point → Option Nat
  | .popWait call | .pushWait call _ | .sleepWait call => some call
  | _ => none

def alarms (pt : Point) (timers : TimerManager Waiter) : List Waiter :=
  match pt with
  | .callback _ t => t.privateData :: timers.map Timer.privateData
  | _ => timers.map Timer.privateData

-- Timers cannot be cancelled, so the channel must not end a wait whose timer is still pending.
structure Alarmed (s : Sys) : Prop where
  waiting : ∀ w ∈ alarms s.here s.timers, s.BlockedIn Point.waitCall w.co w.call
  nodup : ((alarms s.here s.timers).map Waiter.call).Nodup

def woken (s : Sys) (c : Cmd) : Option Addr :=
  match c, s.here with
  | .resume p, .user => some p
  | .go _, .popResume _ _ w => some w.co
  | .go _, .pushResume _ w => some w.co
  | _, _ => none

def Untimed (timers : TimerManager Waiter) (call : Nat) : Prop :=
  ∀ t ∈ timers, t.privateData.call ≠ call

instance (timers : TimerManager Waiter) (call : Nat) : Decidable (Untimed timers call) :=
  inferInstanceAs (Decidable (∀ t ∈ timers, _))

def CanGo (chan : Channel) (timers : TimerManager Waiter) : Point → Prop
  | .user => True
  | .popWait call => chan.dataQueue ≠ [] ∧ Untimed timers call
  | .pushWait call _ => chan.dataQueue.length ≠ chan.capacity ∧ Untimed timers call
  | _ => False

instance (chan : Channel) (timers : TimerManager Waiter) (pt : Point)
    : Decidable (CanGo chan timers pt) :=
  match pt with
  | .user => isTrue trivial
  | .popWait _ => inferInstanceAs (Decidable (_ ∧ _))
  | .pushWait _ _ => inferInstanceAs (Decidable (_ ∧ _))
  | .popResume _ _ _ | .popNotify _ _ | .pushResume _ _ | .pushNotify _
    | .sleepWait _ | .runTimers _
  | .callback _ _ => isFalse id

def Cmd.data : Cmd → Option Data
  | .push data _ => some data
  | _ => none

/--
If a coroutine that is in a call of `push`, `pop` or `sleep` is resumed by anything but a timer,
then this is a call of `push` or `pop` that can go on and that no timer is pending for. Nobody
pushes `nullptr`.
-/
def Unraced (s : Sys) (c : Cmd) : Prop :=
  (∀ p ∈ s.woken c, CanGo s.chan s.timers (s.point (some p))) ∧ c.data ≠ some none

instance (s : Sys) (c : Cmd) : Decidable (Unraced s c) :=
  inferInstanceAs (Decidable ((∀ p ∈ s.woken c, _) ∧ _))

def Point.isCallback : Point → Bool
  | .callback _ _ => true
  | _ => false

theorem alarms_eq {pt : Point} {timers : TimerManager Waiter} (h : pt.isCallback = false)
    : alarms pt timers = timers.map Timer.privateData := by
  cases pt <;> simp_all [alarms, Point.isCallback]

theorem Point.not_isCallback_of_isCalling {pt : Point} (h : pt.isCalling)
    : pt.isCallback = false := by
  cases pt <;> simp_all [Point.isCalling, Point.isCallback]

theorem Point.not_isCallback_of_isWaiting {pt : Point} (h : pt.isWaiting)
    : pt.isCallback = false := by
  cases pt <;> simp_all [Point.isWaiting, Point.isCallback]

namespace Alarmed

variable {s s' : Sys} {l : List Addr} {pt : Point} {q : Addr}

theorem waiting_timer {t : Timer Waiter} (h : Alarmed s) (ht : t ∈ s.timers)
    : s.BlockedIn Point.waitCall t.privateData.co t.privateData.call := by
  apply h.waiting
  have hmem := List.mem_map_of_mem (f := Timer.privateData) ht
  unfold alarms
  split
  . apply List.mem_cons_of_mem _ hmem
  . exact hmem

theorem nodup_timers (h : Alarmed s)
    : (s.timers.map (fun t => t.privateData.call)).Nodup := by
  have hnodup := h.nodup
  unfold alarms at hnodup
  split at hnodup
  . rw [List.map_cons, List.nodup_cons, List.map_map] at hnodup
    apply hnodup.2
  . rw [List.map_map] at hnodup
    exact hnodup

theorem of_not_callback (hhere : s.here.isCallback = false)
    (hwait : ∀ t ∈ s.timers, s.BlockedIn Point.waitCall t.privateData.co t.privateData.call)
    (hnodup : (s.timers.map (fun t => t.privateData.call)).Nodup)
    : Alarmed s := by
  constructor
  . rw [alarms_eq hhere]
    intro w hw
    rcases List.mem_map.mp hw with ⟨t, ht, rfl⟩
    apply hwait t ht
  . rw [alarms_eq hhere, List.map_map]
    exact hnodup

theorem move (h : Alarmed s) (hshape : Shape s.rt s.point l) (hrt : s'.rt = s.rt)
    (hpoint : s'.point = Function.update s.point s.rt.stack pt)
    (hperm : (alarms pt s'.timers).Perm (alarms s.here s.timers))
    : Alarmed s' := by
  have hhere : s'.here = pt := by
    rw [here, hpoint, hrt, Function.update_self]
  constructor
  . rw [hhere]
    intro w hw
    rw [blockedIn_move hshape hrt hpoint]
    apply h.waiting
    rw [← hperm.mem_iff]
    exact hw
  . rw [hhere, (hperm.map _).nodup_iff]
    apply h.nodup

theorem enter (h : Alarmed s) (hshape : Shape s.rt s.point l) (hrt : s.rt.resume q = .ok s'.rt)
    (hpoint : s'.point = Function.update s.point s.rt.stack pt) (htimers : s'.timers = s.timers)
    (hq : ∀ t ∈ s.timers, t.privateData.co ≠ q)
    : Alarmed s' := by
  apply of_not_callback
  . rw [here_enter hshape hrt hpoint]
    apply Point.not_isCallback_of_isWaiting
    apply hshape.waiting q (hshape.inv.resume_ok hrt).1
  . rw [htimers]
    intro t ht
    rw [blockedIn_enter hshape hrt hpoint]
    exact ⟨h.waiting_timer ht, hq t ht⟩
  . rw [htimers]
    apply h.nodup_timers

theorem leave (h : Alarmed s) (hshape : Shape s.rt s.point l) (hwait : pt.isWaiting)
    (hrt : s.rt.yield = .ok s'.rt)
    (hpoint : s'.point = Function.update s.point s.rt.stack pt) (htimers : s'.timers = s.timers)
    : Alarmed s' := by
  apply of_not_callback
  . apply Point.not_isCallback_of_isCalling
    apply here_leave hshape hwait hrt hpoint
  . rw [htimers]
    intro t ht
    rw [blockedIn_leave hshape hwait hrt hpoint]
    left
    apply h.waiting_timer ht
  . rw [htimers]
    apply h.nodup_timers

theorem arm {co : Addr} {timeout : Int} {tr : List Event} (h : Alarmed s)
    (hshape : Shape s.rt s.point l) (hlog : Log tr s.point s.calls) (hwait : pt.isWaiting)
    (hrt : s.rt.yield = .ok s'.rt)
    (hpoint : s'.point = Function.update s.point s.rt.stack pt) (hcur : s.rt.current = some co)
    (hcall : pt.waitCall = some s.calls)
    (htimers : s'.timers = s.timers.addTimer s.clock timeout ⟨co, s.calls⟩)
    : Alarmed s' := by
  have hstack : s.rt.stack = some co := by
    rw [hshape.inv.stack, ← hshape.inv.current, hcur]
  apply of_not_callback
  . apply Point.not_isCallback_of_isCalling
    apply here_leave hshape hwait hrt hpoint
  . rw [htimers]
    intro t ht
    rw [blockedIn_leave hshape hwait hrt hpoint]
    rcases List.mem_append.mp ht with ht | ht
    . left
      apply h.waiting_timer ht
    . right
      rw [List.mem_singleton] at ht
      rw [ht]
      exact ⟨hstack, hcall⟩
  . rw [htimers, TimerManager.addTimer, List.map_append, List.nodup_append]
    refine ⟨h.nodup_timers, by simp, ?_⟩
    intro call hcall' call' hnew heq
    rcases List.mem_map.mp hcall' with ⟨t, ht, hcall'⟩
    have hlt : t.privateData.call < s.calls := by
      apply hlog.lt (some t.privateData.co)
      have := (h.waiting_timer ht).2
      generalize s.point (some t.privateData.co) = pt at this
      cases pt <;> simp_all [Point.waitCall, Point.call]
    simp only [Timer.new, List.map_cons, List.map_nil, List.mem_singleton] at hnew
    omega

theorem congr (h : Alarmed s) (hsusp : ∀ q, s'.rt.Suspended q ↔ s.rt.Suspended q)
    (hpoint : s'.point = s.point) (htimers : s'.timers = s.timers)
    (hhere : s'.here.isCallback = false)
    : Alarmed s' := by
  apply of_not_callback hhere
  . rw [htimers]
    intro t ht
    rw [blockedIn_congr hsusp hpoint]
    apply h.waiting_timer ht
  . rw [htimers]
    apply h.nodup_timers

end Alarmed

theorem alarmed_init {capacity : Nat} : Alarmed (init capacity) := by
  apply Alarmed.of_not_callback
  . rfl
  . simp [init]
  . simp [init]

theorem Alarmed.armTimer {s s' : Sys} {l : List Addr} {tr : List Event} {pt : Point} {co : Addr}
    {timeout : Duration} (h : Alarmed s) (hshape : Shape s.rt s.point l)
    (hlog : Log tr s.point s.calls) (hwait : pt.isWaiting) (hrt : s.rt.yield = .ok s'.rt)
    (hpoint : s'.point = Function.update s.point s.rt.stack pt) (hcur : s.rt.current = some co)
    (hcall : pt.waitCall = some s.calls)
    (htimers : s'.timers = s.armTimer timeout ⟨co, s.calls⟩)
    : Alarmed s' := by
  unfold Sys.armTimer at htimers
  split at htimers
  . apply h.arm hshape hlog hwait hrt hpoint hcur hcall htimers
  . apply h.leave hshape hwait hrt hpoint htimers

theorem Alarmed.step {s s' : Sys} {c : Cmd} {es tr : List Event} {l : List Addr}
    (hshape : Shape s.rt s.point l) (hlog : Log tr s.point s.calls) (h : Alarmed s)
    (hp : Unraced s c) (hs : Step s c es s')
    : Alarmed s' := by
  have hne : ∀ q, (∀ call, (s.point (some q)).waitCall = some call → Untimed s.timers call) →
      ∀ t ∈ s.timers, t.privateData.co ≠ q := by
    intro q hq t ht heq
    have hwait := (h.waiting_timer ht).2
    rw [heq] at hwait
    apply hq _ hwait t ht rfl
  have hwoken : ∀ q ∈ s.woken c, ∀ t ∈ s.timers, t.privateData.co ≠ q := by
    intro q hq
    apply hne
    have hgo := hp.1 q hq
    generalize s.point (some q) = pt at hgo
    cases pt <;> simp_all [CanGo, Point.waitCall]
  have hmove : ∀ {t : Sys} {pt pt' : Point}, s.here = pt' → pt'.isCallback = false →
      pt.isCallback = false → t.rt = s.rt → t.point = Function.update s.point s.rt.stack pt →
      t.timers = s.timers → Alarmed t := by
    intro t pt pt' hhere hpt' hpt hrt hpoint htimers
    apply h.move hshape hrt hpoint
    rw [hhere, alarms_eq hpt', alarms_eq hpt, htimers]
  cases hs with
  | idle => exact h
  | tick => exact ⟨h.waiting, h.nodup⟩
  | @create p rt hhere hdead hrt =>
    rcases hshape.inv.create_ok hdead hrt with ⟨hinv, hlive, _, _⟩
    have hpoint := hshape.update_dead hdead
    apply h.congr
    . intro q
      apply hshape.inv.suspended_create hinv hlive hdead
    . exact hpoint
    . rfl
    . simp only [here, hpoint, hinv.stack, List.head?_cons, hshape.dead p hdead]
      rfl
  | yield hhere hrt => exact h.leave hshape (by rfl) hrt rfl rfl
  | resume hhere hrt => exact h.enter hshape hrt rfl rfl (hwoken _ (by simp [woken, hhere]))
  | finish hhere hstack hrt =>
    rcases hshape.finish hhere hstack hrt with ⟨t, rfl, hshape', hsusp⟩
    refine h.congr hsusp rfl rfl ?_
    apply Point.not_isCallback_of_isCalling
    simp only [here, hshape'.inv.stack]
    apply hshape.calling
    simp [below]
  | popBlock hhere hdata hcur hrt => exact h.armTimer hshape hlog (by rfl) hrt rfl hcur rfl rfl
  | pushBlock hhere hdata hcur hrt => exact h.armTimer hshape hlog (by rfl) hrt rfl hcur rfl rfl
  | sleepBlock hhere hcur hrt => exact h.arm hshape hlog (by rfl) hrt rfl hcur rfl rfl
  | popEmpty he | popTake he | popServe he =>
    simp only [goto, he.rt_eq]
    cases he with
    | fresh hhere => exact hmove hhere rfl rfl rfl rfl rfl
    | woken hhere => exact hmove hhere rfl rfl rfl rfl rfl
  | pushFull he | pushPut he | pushServe he =>
    simp only [goto, he.rt_eq]
    cases he with
    | fresh hhere => exact hmove hhere rfl rfl rfl rfl rfl
    | woken hhere => exact hmove hhere rfl rfl rfl rfl rfl
  | popReturn hhere | pushReturn hhere | sleepReturn hhere => exact hmove hhere rfl rfl rfl rfl rfl
  | runTimers hhere | timersDone hhere => exact hmove hhere rfl rfl rfl rfl rfl
  | popResume hhere hrt => exact h.enter hshape hrt rfl rfl (hwoken _ (by simp [woken, hhere]))
  | pushResume hhere hrt => exact h.enter hshape hrt rfl rfl (hwoken _ (by simp [woken, hhere]))
  | timerDue hhere ht htop hdue =>
    refine h.move hshape rfl rfl ?_
    rcases List.getElem?_eq_some_iff.mp ht with ⟨hlt, hget⟩
    have hperm := List.getElem_cons_eraseIdx_perm hlt
    rw [hget] at hperm
    simp only [hhere, alarms]
    apply hperm.map Timer.privateData
  | @callback now top t rt hhere hrt =>
    refine h.enter hshape hrt rfl rfl ?_
    apply hne
    intro call hcall t' ht' heq
    have hwait := (h.waiting t.privateData (by simp [alarms, hhere])).2
    have hnodup := h.nodup
    simp only [alarms, hhere, List.map_cons, List.map_map, List.nodup_cons] at hnodup
    apply hnodup.1
    rw [hcall] at hwait
    injection hwait with hwait
    rw [← hwait, ← heq]
    apply List.mem_map_of_mem (f := Waiter.call ∘ Timer.privateData) ht'

theorem Run.alarmed {capacity : Nat} {tr : List Event} {s : Sys}
    (h : (machine capacity).Run Unraced tr s)
    : Alarmed s := by
  apply Machine.Run.invariant (I := fun _ s => Alarmed s) ?_ ?_ h
  . exact alarmed_init
  . intro tr s c s' es hrun ih hp hs
    rcases Run.shape hrun with ⟨l, hshape⟩
    apply ih.step hshape (Run.log hrun) hp (Step.of_step hs)

end Sys
end Fsw

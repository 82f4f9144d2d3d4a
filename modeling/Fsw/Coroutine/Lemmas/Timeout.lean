import Fsw.Coroutine.Lemmas.Alarm

namespace Fsw
namespace Sys

def Point.data : Point → Option Data
  | .pushWait _ data | .popResume _ data _ | .popNotify _ data => some data
  | _ => none

structure NonNull (s : Sys) : Prop where
  queue : none ∉ s.chan.dataQueue
  point : ∀ st, (s.point st).data ≠ some none

theorem NonNull.move {s s' : Sys} {pt : Point} (h : NonNull s)
    (hpoint : s'.point = Function.update s.point s.rt.stack pt) (hpt : pt.data ≠ some none)
    (hqueue : none ∉ s'.chan.dataQueue)
    : NonNull s' := by
  constructor
  . exact hqueue
  . intro st
    rw [hpoint]
    by_cases hst : st = s.rt.stack
    . rw [hst, Function.update_self]
      exact hpt
    . rw [Function.update_of_ne hst]
      apply h.point st

theorem NonNull.here {s : Sys} {pt : Point} (h : NonNull s) (hhere : s.here = pt)
    : pt.data ≠ some none := by
  rw [← hhere]
  apply h.point s.rt.stack

theorem NonNull.step {s s' : Sys} {c : Cmd} {es : List Event} {l : List Addr}
    (hshape : Shape s.rt s.point l) (h : NonNull s) (hp : Unraced s c) (hs : Step s c es s')
    : NonNull s' := by
  have htake : ∀ {data rest}, s.chan.dataQueue = data :: rest → data ≠ none ∧ none ∉ rest := by
    intro data rest hdata
    have := h.queue
    rw [hdata, List.mem_cons, not_or] at this
    exact ⟨Ne.symm this.1, this.2⟩
  have hput : ∀ {c call data pre t}, Unraced s c → PushEntry s c call data pre t →
      none ∉ s.chan.dataQueue ++ [data] := by
    intro c call data pre t hp he
    rw [List.mem_append, List.mem_singleton, not_or]
    refine ⟨h.queue, ?_⟩
    intro hnull
    cases he with
    | fresh hhere hdata =>
      apply hp.2
      rw [hnull]
      rfl
    | woken hhere =>
      apply h.here hhere
      rw [← hnull]
      rfl
  cases hs with
  | idle | tick | finish => exact ⟨h.queue, h.point⟩
  | create hhere hdead hrt =>
    constructor
    . apply h.queue
    . rw [hshape.update_dead hdead]
      apply h.point
  | yield | resume | popBlock | sleepBlock => exact h.move rfl (by simp [Point.data]) h.queue
  | sleepReturn | runTimers | timersDone | timerDue | callback =>
    exact h.move rfl (by simp [Point.data]) h.queue
  | popReturn | pushReturn | pushResume => exact h.move rfl (by simp [Point.data]) h.queue
  | popResume hhere hrt => exact h.move rfl (by simpa [Point.data] using h.here hhere) h.queue
  | @pushBlock co data timeout rt hhere hdata hcur hrt =>
    refine h.move rfl ?_ h.queue
    apply hp.2
  | popEmpty he =>
    simp only [goto, he.rt_eq]
    refine h.move rfl (by simp [Point.data]) ?_
    dsimp only
    rw [he.chan_eq]
    apply h.queue
  | popTake he hdata =>
    simp only [goto, he.rt_eq]
    exact h.move rfl (by simp [Point.data]) (htake hdata).2
  | popServe he hdata =>
    simp only [goto, he.rt_eq]
    refine h.move rfl ?_ (htake hdata).2
    simp [Point.data, (htake hdata).1]
  | pushFull he =>
    simp only [goto, he.rt_eq]
    refine h.move rfl (by simp [Point.data]) ?_
    dsimp only
    rw [he.chan_eq]
    apply h.queue
  | pushPut he | pushServe he =>
    simp only [goto, he.rt_eq]
    exact h.move rfl (by simp [Point.data]) (hput hp he)

theorem Run.nonNull {capacity : Nat} {tr : List Event} {s : Sys}
    (h : (machine capacity).Run Unraced tr s)
    : NonNull s := by
  apply Machine.Run.invariant (I := fun _ s => NonNull s) ?_ ?_ h
  . exact ⟨by simp [machine, init, Channel.new], by simp [machine, init, Point.data]⟩
  . intro tr s c s' es hrun ih hp hs
    rcases Run.shape hrun with ⟨l, hshape⟩
    apply ih.step hshape hp (Step.of_step hs)

def Ready (tr : List Event) (pt : Point) (chan : Channel) : Prop :=
  match pt with
  | .popWait call => chan.dataQueue ≠ [] ∨ .fire call ∈ tr
  | .pushWait call _ => chan.dataQueue.length ≠ chan.capacity ∨ .fire call ∈ tr
  | .sleepWait call => .fire call ∈ tr
  | _ => True

theorem ready_of_isCalling {tr : List Event} {pt : Point} {chan : Channel} (h : pt.isCalling)
    : Ready tr pt chan := by
  cases pt <;> simp_all [Point.isCalling, Ready]

theorem ready_of_canGo {tr : List Event} {pt : Point} {chan : Channel}
    {timers : TimerManager Waiter} (h : CanGo chan timers pt)
    : Ready tr pt chan := by
  cases pt <;> simp_all [CanGo, Ready]

theorem ready_fired {tr : List Event} {pt : Point} {chan : Channel} {call : Nat}
    (h : pt.waitCall = some call) (hmem : .fire call ∈ tr)
    : Ready tr pt chan := by
  cases pt <;> simp_all [Point.waitCall, Ready]

theorem here_goto {s : Sys} {pt : Point} : (s.goto pt).here = pt := by
  simp [goto, here]

theorem Ready.step {s s' : Sys} {c : Cmd} {es tr : List Event} {l : List Addr}
    (hshape : Shape s.rt s.point l) (halarm : Alarmed s) (h : Ready tr s.here s.chan)
    (hp : Unraced s c) (hs : Step s c es s')
    : Ready (tr ++ es) s'.here s'.chan := by
  cases hs with
  | idle | tick =>
    rw [List.append_nil]
    exact h
  | @create p rt hhere hdead hrt =>
    rcases hshape.inv.create_ok hdead hrt with ⟨hinv, _, _, _⟩
    simp only [here, hshape.update_dead hdead, hinv.stack, List.head?_cons, hshape.dead p hdead]
    apply ready_of_isCalling rfl
  | finish hhere hstack hrt =>
    rcases hshape.finish hhere hstack hrt with ⟨t, rfl, hshape', _⟩
    apply ready_of_isCalling
    simp only [here, hshape'.inv.stack]
    apply hshape.calling
    simp [below]
  | yield hhere hrt | sleepBlock hhere hcur hrt =>
    apply ready_of_isCalling
    exact here_leave hshape (by rfl) hrt rfl
  | popBlock hhere hdata hcur hrt | pushBlock hhere hdata hcur hrt =>
    apply ready_of_isCalling
    exact here_leave hshape (by rfl) hrt rfl
  | resume hhere hrt | popResume hhere hrt | pushResume hhere hrt =>
    rw [here_enter hshape hrt rfl]
    exact ready_of_canGo (hp.1 _ (by simp [woken, hhere]))
  | popEmpty he | popTake he | pushFull he | pushPut he =>
    rw [here_goto]
    apply ready_of_isCalling rfl
  | popReturn | pushReturn | sleepReturn | runTimers | timersDone =>
    rw [here_goto]
    apply ready_of_isCalling rfl
  | timerDue | popServe | pushServe =>
    rw [here_goto]
    trivial
  | @callback now top t rt hhere hrt =>
    rw [here_enter hshape hrt rfl]
    apply ready_fired
    . apply (halarm.waiting t.privateData _).2
      simp [hhere, alarms]
    . simp

theorem Run.ready {capacity : Nat} {tr : List Event} {s : Sys}
    (h : (machine capacity).Run Unraced tr s)
    : Ready tr s.here s.chan := by
  apply Machine.Run.invariant (I := fun tr s => Ready tr s.here s.chan) ?_ ?_ h
  . apply ready_of_isCalling rfl
  . intro tr s c s' es hrun ih hp hs
    rcases Run.shape hrun with ⟨l, hshape⟩
    apply ih.step hshape (Run.alarmed hrun) hp (Step.of_step hs)

structure Armed (tr : List Event) (calls call : Nat) : Prop where
  lt : call < calls
  pop : ∀ timeout, .callPop call timeout ∈ tr → timeout.positive
  push : ∀ data timeout, .callPush call data timeout ∈ tr → timeout.positive

structure Armory (tr : List Event) (s : Sys) : Prop where
  timers : ∀ t ∈ s.timers, Armed tr s.calls t.privateData.call
  callback : ∀ st now t, s.point st = .callback now t → Armed tr s.calls t.privateData.call
  fired : ∀ call, .fire call ∈ tr → Armed tr s.calls call

def Event.isNew (calls : Nat) : Event → Bool
  | .callPop call _ | .callPush call _ _ => call = calls
  | _ => true

theorem Armed.append {tr es : List Event} {calls calls' call : Nat} (h : Armed tr calls call)
    (hes : ∀ e ∈ es, e.isNew calls) (hcalls : calls ≤ calls')
    : Armed (tr ++ es) calls' call := by
  rcases h with ⟨hlt, hpop, hpush⟩
  constructor
  . omega
  . intro timeout hmem
    cases List.mem_append.mp hmem with
    | inl hmem => apply hpop timeout hmem
    | inr hmem =>
      have := hes _ hmem
      simp only [Event.isNew, decide_eq_true_eq] at this
      omega
  . intro data timeout hmem
    cases List.mem_append.mp hmem with
    | inl hmem => apply hpush data timeout hmem
    | inr hmem =>
      have := hes _ hmem
      simp only [Event.isNew, decide_eq_true_eq] at this
      omega

theorem Armory.append {tr es : List Event} {s s' : Sys} {pt : Point} (h : Armory tr s)
    (hes : ∀ e ∈ es, e.isNew s.calls) (hcalls : s.calls ≤ s'.calls)
    (htimers : ∀ t ∈ s'.timers, t ∈ s.timers ∨ Armed (tr ++ es) s'.calls t.privateData.call)
    (hpoint : s'.point = Function.update s.point s.rt.stack pt)
    (hpt : ∀ now t, pt = .callback now t → t ∈ s.timers)
    (hfire : ∀ call, .fire call ∈ es → ∃ now t, s.here = .callback now t
      ∧ t.privateData.call = call)
    : Armory (tr ++ es) s' := by
  constructor
  . intro t ht
    cases htimers t ht with
    | inl ht => apply (h.timers t ht).append hes hcalls
    | inr ht => exact ht
  . intro st now t heq
    rw [hpoint] at heq
    by_cases hst : st = s.rt.stack
    . rw [hst, Function.update_self] at heq
      apply (h.timers t (hpt now t heq)).append hes hcalls
    . rw [Function.update_of_ne hst] at heq
      apply (h.callback st now t heq).append hes hcalls
  . intro call hmem
    cases List.mem_append.mp hmem with
    | inl hmem => apply (h.fired call hmem).append hes hcalls
    | inr hmem =>
      rcases hfire call hmem with ⟨now, t, hhere, rfl⟩
      apply (h.callback s.rt.stack now t hhere).append hes hcalls

theorem Armory.same {tr es : List Event} {s s' : Sys} {pt : Point} (h : Armory tr s)
    (hes : ∀ e ∈ es, e.isNew s.calls) (hfire : ∀ call, .fire call ∉ es)
    (hcalls : s.calls ≤ s'.calls) (htimers : s'.timers = s.timers)
    (hpoint : s'.point = Function.update s.point s.rt.stack pt) (hpt : pt.isCallback = false)
    : Armory (tr ++ es) s' := by
  apply h.append hes hcalls ?_ hpoint ?_ ?_
  . rw [htimers]
    intro t ht
    exact .inl ht
  . intro now t heq
    rw [heq] at hpt
    contradiction
  . intro call hmem
    apply absurd hmem (hfire call)

theorem mem_armTimer {s : Sys} {timeout : Duration} {w : Waiter} {t : Timer Waiter}
    (h : t ∈ s.armTimer timeout w)
    : t ∈ s.timers ∨ (timeout.positive ∧ t.privateData = w) := by
  unfold armTimer at h
  split at h
  . next hpos =>
    rcases List.mem_append.mp h with h | h
    . exact .inl h
    . right
      rw [List.mem_singleton.mp h]
      exact ⟨hpos, rfl⟩
  . exact .inl h

theorem PopEntry.calls_le {s t : Sys} {c : Cmd} {call : Nat} {pre : List Event}
    (h : PopEntry s c call pre t)
    : s.calls ≤ t.calls ∧ ∀ e ∈ pre, e.isNew s.calls ∧ ∀ call, e ≠ .fire call := by
  cases h with
  | fresh => simp [Event.isNew]
  | woken => simp

theorem PushEntry.calls_le {s t : Sys} {c : Cmd} {call : Nat} {data : Data} {pre : List Event}
    (h : PushEntry s c call data pre t)
    : s.calls ≤ t.calls ∧ ∀ e ∈ pre, e.isNew s.calls ∧ ∀ call, e ≠ .fire call := by
  cases h with
  | fresh => simp [Event.isNew]
  | woken => simp

theorem Armory.step {s s' : Sys} {c : Cmd} {es tr : List Event} {l : List Addr}
    (hshape : Shape s.rt s.point l) (hlog : Log tr s.point s.calls) (h : Armory tr s)
    (hs : Step s c es s')
    : Armory (tr ++ es) s' := by
  have hentry : ∀ {pre es' : List Event} {t t' : Sys} {pt : Point},
      (s.calls ≤ t.calls ∧ ∀ e ∈ pre, e.isNew s.calls ∧ ∀ call, e ≠ .fire call) →
      (∀ e ∈ es', e.isNew s.calls ∧ ∀ call, e ≠ .fire call) → t'.calls = t.calls →
      t'.timers = s.timers → t'.point = Function.update s.point s.rt.stack pt →
      pt.isCallback = false → Armory (tr ++ (pre ++ es')) t' := by
    intro pre es' t t' pt hpre hes' hcalls htimers hpoint hpt
    have hall : ∀ e ∈ pre ++ es', e.isNew s.calls ∧ ∀ call, e ≠ .fire call := by
      intro e he
      cases List.mem_append.mp he with
      | inl he => apply hpre.2 e he
      | inr he => apply hes' e he
    refine h.same (fun e he => (hall e he).1) ?_ (by omega) htimers hpoint hpt
    intro call hmem
    apply (hall _ hmem).2 call rfl
  have hnew : ∀ {es' : List Event} (timeout : Duration),
      (∀ t, .callPop s.calls t ∈ es' → t = timeout) →
      (∀ data t, .callPush s.calls data t ∈ es' → t = timeout) →
      timeout.positive → Armed (tr ++ es') (s.calls + 1) s.calls := by
    intro es' timeout hpop hpush hpos
    have hold : ∀ e ∈ tr, e.call ≠ some s.calls := by
      intro e he hcall
      rw [mem_iff_mem_hist tr e hcall, hlog.future s.calls (Nat.le_refl _)] at he
      simp at he
    constructor
    . omega
    . intro t hmem
      cases List.mem_append.mp hmem with
      | inl hmem => apply absurd rfl (hold _ hmem)
      | inr hmem =>
        rw [hpop t hmem]
        exact hpos
    . intro data t hmem
      cases List.mem_append.mp hmem with
      | inl hmem => apply absurd rfl (hold _ hmem)
      | inr hmem =>
        rw [hpush data t hmem]
        exact hpos
  cases hs with
  | idle | tick | finish =>
    rw [List.append_nil]
    exact ⟨h.timers, h.callback, h.fired⟩
  | create hhere hdead hrt =>
    rw [List.append_nil, hshape.update_dead hdead]
    exact ⟨h.timers, h.callback, h.fired⟩
  | yield | resume | popResume | pushResume =>
    exact h.same (by simp) (by simp) (Nat.le_refl _) rfl rfl rfl
  | popReturn | pushReturn | sleepReturn | runTimers | timersDone =>
    exact h.same (by simp [Event.isNew]) (by simp) (Nat.le_refl _) rfl rfl rfl
  | popEmpty he | popTake he | popServe he =>
    simp only [goto, he.rt_eq]
    exact hentry he.calls_le (by simp [Event.isNew]) rfl rfl rfl rfl
  | pushFull he | pushPut he | pushServe he =>
    simp only [goto, he.rt_eq]
    exact hentry he.calls_le (by simp [Event.isNew]) rfl rfl rfl rfl
  | @popBlock co timeout rt hhere hdata hcur hrt =>
    refine h.append (by simp [Event.isNew]) (Nat.le_succ _) ?_ rfl (by simp) (by simp)
    intro t ht
    rcases mem_armTimer ht with ht | ⟨hpos, heq⟩
    . exact .inl ht
    . right
      rw [heq]
      exact hnew timeout (by simp) (by simp) hpos
  | @pushBlock co data timeout rt hhere hdata hcur hrt =>
    refine h.append (by simp [Event.isNew]) (Nat.le_succ _) ?_ rfl (by simp) (by simp)
    intro t ht
    rcases mem_armTimer ht with ht | ⟨hpos, heq⟩
    . exact .inl ht
    . right
      rw [heq]
      exact hnew timeout (by simp) (by simp) hpos
  | @sleepBlock co seconds rt hhere hcur hrt =>
    refine h.append (by simp [Event.isNew]) (Nat.le_succ _) ?_ rfl (by simp) (by simp)
    intro t ht
    rcases List.mem_append.mp ht with ht | ht
    . exact .inl ht
    . right
      rw [List.mem_singleton.mp ht]
      exact hnew ⟨true, 0⟩ (by simp) (by simp) rfl
  | timerDue hhere ht htop hdue =>
    refine h.append (by simp) (Nat.le_refl _) ?_ rfl ?_ (by simp)
    . intro t' ht'
      exact .inl (List.mem_of_mem_eraseIdx ht')
    . intro now t heq
      injection heq with _ heq
      rw [← heq]
      apply List.mem_of_getElem? ht
  | callback hhere hrt =>
    refine h.append (by simp [Event.isNew]) (Nat.le_refl _) (fun _ => .inl) rfl (by simp) ?_
    intro call hmem
    simp only [List.mem_singleton, Event.fire.injEq] at hmem
    exact ⟨_, _, hhere, hmem.symm⟩

theorem Run.armory {capacity : Nat} {P : Sys → Cmd → Prop} {tr : List Event} {s : Sys}
    (h : (machine capacity).Run P tr s)
    : Armory tr s := by
  apply Machine.Run.invariant (I := fun tr s => Armory tr s) ?_ ?_ h
  . exact ⟨by simp [machine, init], by simp [machine, init], by simp⟩
  . intro tr s c s' es hrun ih _ hs
    rcases Run.shape hrun with ⟨l, hshape⟩
    apply ih.step hshape (Run.log hrun) (Step.of_step hs)

structure Ended (tr : List Event) : Prop where
  pop : ∀ call, .retPop call none ∈ tr → .fire call ∈ tr
  push : ∀ call, .retPush call false ∈ tr → .fire call ∈ tr
  sleep : ∀ call, .retSleep call ∈ tr → .fire call ∈ tr

theorem Ended.append {tr es : List Event} (h : Ended tr)
    (hpop : ∀ call, .retPop call none ∈ es → .fire call ∈ tr)
    (hpush : ∀ call, .retPush call false ∈ es → .fire call ∈ tr)
    (hsleep : ∀ call, .retSleep call ∈ es → .fire call ∈ tr)
    : Ended (tr ++ es) := by
  constructor
  all_goals
    intro call hmem
    rw [List.mem_append]
    left
    cases List.mem_append.mp hmem with
    | inl hmem => first | exact h.pop call hmem | exact h.push call hmem | exact h.sleep call hmem
    | inr hmem => first | exact hpop call hmem | exact hpush call hmem | exact hsleep call hmem

theorem Ended.step {s s' : Sys} {c : Cmd} {es tr : List Event} (h : Ended tr)
    (hnull : NonNull s) (hready : Ready tr s.here s.chan) (hs : Step s c es s')
    : Ended (tr ++ es) := by
  cases hs with
  | idle | tick | create | yield | resume | finish => exact h.append (by simp) (by simp) (by simp)
  | popResume | pushResume | runTimers | timersDone => exact h.append (by simp) (by simp) (by simp)
  | popBlock | pushBlock | sleepBlock | callback => exact h.append (by simp) (by simp) (by simp)
  | pushReturn | timerDue => exact h.append (by simp) (by simp) (by simp)
  | popServe he | pushServe he => cases he <;> exact h.append (by simp) (by simp) (by simp)
  | pushPut he => cases he <;> exact h.append (by simp) (by simp) (by simp)
  | popTake he hdata =>
    have hne := hnull.queue
    rw [hdata, List.mem_cons, not_or] at hne
    cases he <;> exact h.append (by simp [hne.1]) (by simp) (by simp)
  | popReturn hhere =>
    have hne := hnull.here hhere
    simp only [Point.data, ne_eq, Option.some.injEq] at hne
    exact h.append (by simp [Ne.symm hne]) (by simp) (by simp)
  | popEmpty he hdata =>
    cases he with
    | fresh hhere hdata' => apply absurd hdata hdata'
    | woken hhere =>
      rw [hhere] at hready
      exact h.append (by simpa using hready.resolve_left (by simpa using hdata)) (by simp) (by simp)
  | pushFull he hdata =>
    cases he with
    | fresh hhere hdata' => apply absurd hdata hdata'
    | woken hhere =>
      rw [hhere] at hready
      exact h.append (by simp) (by simpa using hready.resolve_left (by simpa using hdata)) (by simp)
  | sleepReturn hhere =>
    rw [hhere] at hready
    exact h.append (by simp) (by simp) (by simpa [Ready] using hready)

theorem Run.ended {capacity : Nat} {tr : List Event} {s : Sys}
    (h : (machine capacity).Run Unraced tr s)
    : Ended tr := by
  apply Machine.Run.invariant (I := fun tr _ => Ended tr) ?_ ?_ h
  . exact ⟨by simp, by simp, by simp⟩
  . intro tr s c s' es hrun ih _ hs
    apply ih.step (Run.nonNull hrun) (Run.ready hrun) (Step.of_step hs)

structure OwnTimers (tr : List Event) (s : Sys) : Prop where
  callback : ∀ now t, s.here = .callback now t →
    s.rt.Suspended t.privateData.co
      ∧ (s.point (some t.privateData.co)).waitCall = some t.privateData.call
  pop : ∀ call timeout, .callPop call timeout ∈ tr → timeout.positive = false →
    .retPop call none ∉ tr
  push : ∀ call data timeout, .callPush call data timeout ∈ tr → timeout.positive = false →
    .retPush call false ∉ tr
  sleep : ∀ call, .retSleep call ∈ tr → .fire call ∈ tr

theorem timers_end_own_waits {capacity : Nat} {tr : List Event} {s : Sys}
    (h : (machine capacity).Run Unraced tr s)
    : OwnTimers tr s := by
  have halarm := Run.alarmed h
  have hended := Run.ended h
  have harmory := Run.armory h
  constructor
  . intro now t hhere
    apply halarm.waiting t.privateData
    simp [hhere, alarms]
  . intro call timeout hcall huntimed hret
    have := (harmory.fired call (hended.pop call hret)).pop timeout hcall
    rw [huntimed] at this
    contradiction
  . intro call data timeout hcall huntimed hret
    have := (harmory.fired call (hended.push call hret)).push data timeout hcall
    rw [huntimed] at this
    contradiction
  . apply hended.sleep

theorem timers_end_own_waits_pop
    : ∃ tr s, (machine 1).Run Unraced tr s ∧ .retPop 0 none ∈ tr ∧ .retSleep 1 ∈ tr
        ∧ .fire 1 ∈ tr := by
  have hexec : ((machine 1).exec Unraced
      [.create 1, .pop ⟨true, 1⟩, .tick 1, .runTimers, .go 0, .go 0, .go 0, .sleep ⟨true, 1⟩, .go 0,
       .tick 2, .runTimers, .go 0, .go 0, .go 0]).map
        (fun r => (decide (.retPop 0 none ∈ r.2), decide (.retSleep 1 ∈ r.2)))
      = some (true, true) := by decide
  rcases Option.map_eq_some_iff.mp hexec with ⟨⟨s, tr⟩, he, heq⟩
  simp only [Prod.mk.injEq, decide_eq_true_eq] at heq
  have h := Machine.run_of_exec he
  exact ⟨tr, s, h, heq.1, heq.2, (timers_end_own_waits h).sleep 1 heq.2⟩

-- Coroutine 2 pushes what coroutine 1 waits for, the timer of the wait stays. Coroutine 1 then
-- waits without a timeout, and the timer ends this wait.
theorem timer_ends_other_wait
    : ∃ tr s, (machine 1).Run (fun s c => NoResume s c ∧ c.data ≠ some none) tr s
        ∧ .callPop 2 ⟨false, 0⟩ ∈ tr ∧ .retPop 2 none ∈ tr ∧ ¬OwnTimers tr s := by
  have hexec : ((machine 1).exec (fun s c => NoResume s c ∧ c.data ≠ some none)
      [.create 1, .pop ⟨true, 1⟩, .create 2, .push (some 7) ⟨false, 0⟩,
        .go 0, .go 0, .pop ⟨false, 0⟩,
       .go 0, .finish, .tick 1, .runTimers, .go 0, .go 0, .go 0]).map
        (fun r => (decide (.callPop 2 ⟨false, 0⟩ ∈ r.2), decide (.retPop 2 none ∈ r.2)))
      = some (true, true) := by decide
  rcases Option.map_eq_some_iff.mp hexec with ⟨⟨s, tr⟩, he, heq⟩
  simp only [Prod.mk.injEq, decide_eq_true_eq] at heq
  refine ⟨tr, s, Machine.run_of_exec he, heq.1, heq.2, ?_⟩
  intro hown
  exact hown.pop 2 ⟨false, 0⟩ heq.1 rfl heq.2

end Sys
end Fsw

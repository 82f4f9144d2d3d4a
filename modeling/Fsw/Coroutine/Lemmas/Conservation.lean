import Fsw.Coroutine.Lemmas.Log

namespace Fsw
namespace Sys

def enqueued (tr : List Event) : List Data :=
  tr.filterMap fun
    | .enqueue _ data => some data
    | _ => none

def dequeued (tr : List Event) : List Data :=
  tr.filterMap fun
    | .dequeue _ data => some data
    | _ => none

def blockedPops (tr : List Event) : List Waiter :=
  tr.filterMap fun
    | .blockPop w => some w
    | _ => none

def servedPops (tr : List Event) : List Waiter :=
  tr.filterMap fun
    | .servePop w => some w
    | _ => none

def blockedPushes (tr : List Event) : List Waiter :=
  tr.filterMap fun
    | .blockPush w => some w
    | _ => none

def servedPushes (tr : List Event) : List Waiter :=
  tr.filterMap fun
    | .servePush w => some w
    | _ => none

structure Conserved (capacity : Nat) (tr : List Event) (chan : Channel) : Prop where
  cap : chan.capacity = capacity
  bound : chan.dataQueue.length ≤ capacity
  data : enqueued tr = dequeued tr ++ chan.dataQueue
  consumers : blockedPops tr = servedPops tr ++ chan.consumerQueue
  producers : blockedPushes tr = servedPushes tr ++ chan.producerQueue

theorem conserved_init {capacity : Nat} : Conserved capacity [] (init capacity).chan where
  cap := rfl
  bound := by simp [init, Channel.new]
  data := rfl
  consumers := rfl
  producers := rfl

def Event.onQueue : Event → Bool
  | .blockPush _ | .blockPop _ | .servePush _ | .servePop _ | .enqueue _ _ | .dequeue _ _ => true
  | _ => false

theorem PopEntry.silent {s t : Sys} {c : Cmd} {call : Nat} {pre : List Event}
    (h : PopEntry s c call pre t)
    : ∀ e ∈ pre, e.onQueue = false := by
  cases h with
  | fresh => simp [Event.onQueue]
  | woken => simp

theorem PushEntry.silent {s t : Sys} {c : Cmd} {call : Nat} {data : Data} {pre : List Event}
    (h : PushEntry s c call data pre t)
    : ∀ e ∈ pre, e.onQueue = false := by
  cases h with
  | fresh => simp [Event.onQueue]
  | woken => simp

theorem filterMap_eq_nil_of_silent {α : Type} {f : Event → Option α} {es : List Event}
    (hes : ∀ e ∈ es, e.onQueue = false) (hf : ∀ e, e.onQueue = false → f e = none)
    : es.filterMap f = [] := by
  rw [List.filterMap_eq_nil_iff]
  intro e he
  apply hf
  apply hes
  exact he

namespace Conserved

variable {capacity : Nat} {tr es : List Event} {chan : Channel}

-- What a step adds to the log at the front of each queue has to be what it does to the queue.
theorem append {chan' : Channel} (h : Conserved capacity tr chan)
    (hcap : chan'.capacity = chan.capacity) (hbound : chan'.dataQueue.length ≤ capacity)
    (hdata : chan.dataQueue ++ enqueued es = dequeued es ++ chan'.dataQueue)
    (hcons : chan.consumerQueue ++ blockedPops es = servedPops es ++ chan'.consumerQueue)
    (hprod : chan.producerQueue ++ blockedPushes es = servedPushes es ++ chan'.producerQueue)
    : Conserved capacity (tr ++ es) chan' := by
  constructor
  . rw [hcap, h.cap]
  . exact hbound
  . calc
      enqueued (tr ++ es)
      _ = enqueued tr ++ enqueued es := List.filterMap_append
      _ = dequeued tr ++ (chan.dataQueue ++ enqueued es) := by rw [h.data, List.append_assoc]
      _ = (dequeued tr ++ dequeued es) ++ chan'.dataQueue := by rw [hdata, List.append_assoc]
      _ = dequeued (tr ++ es) ++ chan'.dataQueue := by simp [dequeued]
  . calc
      blockedPops (tr ++ es)
      _ = blockedPops tr ++ blockedPops es := List.filterMap_append
      _ = servedPops tr ++ (chan.consumerQueue ++ blockedPops es) := by
        rw [h.consumers, List.append_assoc]
      _ = (servedPops tr ++ servedPops es) ++ chan'.consumerQueue := by
        rw [hcons, List.append_assoc]
      _ = servedPops (tr ++ es) ++ chan'.consumerQueue := by simp [servedPops]
  . calc
      blockedPushes (tr ++ es)
      _ = blockedPushes tr ++ blockedPushes es := List.filterMap_append
      _ = servedPushes tr ++ (chan.producerQueue ++ blockedPushes es) := by
        rw [h.producers, List.append_assoc]
      _ = (servedPushes tr ++ servedPushes es) ++ chan'.producerQueue := by
        rw [hprod, List.append_assoc]
      _ = servedPushes (tr ++ es) ++ chan'.producerQueue := by simp [servedPushes]

theorem silent (h : Conserved capacity tr chan) (hes : ∀ e ∈ es, e.onQueue = false)
    : Conserved capacity (tr ++ es) chan := by
  have hnil : ∀ {α : Type} {f : Event → Option α}, (∀ e, e.onQueue = false → f e = none) →
      es.filterMap f = [] := filterMap_eq_nil_of_silent hes
  apply h.append
  . rfl
  . apply h.bound
  . rw [enqueued, dequeued, hnil, hnil, List.append_nil, List.nil_append]
    all_goals
      intro e he
      cases e <;> simp_all [Event.onQueue]
  . rw [blockedPops, servedPops, hnil, hnil, List.append_nil, List.nil_append]
    all_goals
      intro e he
      cases e <;> simp_all [Event.onQueue]
  . rw [blockedPushes, servedPushes, hnil, hnil, List.append_nil, List.nil_append]
    all_goals
      intro e he
      cases e <;> simp_all [Event.onQueue]

theorem blockPop {w : Waiter} (h : Conserved capacity tr chan)
    : Conserved capacity (tr ++ [.blockPop w])
        { chan with consumerQueue := chan.consumerQueue ++ [w] } := by
  apply h.append
  . rfl
  . apply h.bound
  . simp [enqueued, dequeued]
  . simp [blockedPops, servedPops]
  . simp [blockedPushes, servedPushes]

theorem blockPush {w : Waiter} (h : Conserved capacity tr chan)
    : Conserved capacity (tr ++ [.blockPush w])
        { chan with producerQueue := chan.producerQueue ++ [w] } := by
  apply h.append
  . rfl
  . apply h.bound
  . simp [enqueued, dequeued]
  . simp [blockedPops, servedPops]
  . simp [blockedPushes, servedPushes]

theorem servePop {w : Waiter} {ws : List Waiter} (h : Conserved capacity tr chan)
    (hw : chan.consumerQueue = w :: ws)
    : Conserved capacity (tr ++ [.servePop w]) { chan with consumerQueue := ws } := by
  apply h.append
  . rfl
  . apply h.bound
  . simp [enqueued, dequeued]
  . simp [blockedPops, servedPops, hw]
  . simp [blockedPushes, servedPushes]

theorem servePush {w : Waiter} {ws : List Waiter} (h : Conserved capacity tr chan)
    (hw : chan.producerQueue = w :: ws)
    : Conserved capacity (tr ++ [.servePush w]) { chan with producerQueue := ws } := by
  apply h.append
  . rfl
  . apply h.bound
  . simp [enqueued, dequeued]
  . simp [blockedPops, servedPops]
  . simp [blockedPushes, servedPushes, hw]

theorem enqueue {call : Nat} {data : Data} (h : Conserved capacity tr chan)
    (hne : chan.dataQueue.length ≠ chan.capacity)
    : Conserved capacity (tr ++ [.enqueue call data])
        { chan with dataQueue := chan.dataQueue ++ [data] } := by
  apply h.append
  . rfl
  . -- The check of the code is `==`, together with the bound this is as good as `>=`.
    have := h.bound
    rw [h.cap] at hne
    simp only [List.length_append, List.length_singleton]
    omega
  . simp [enqueued, dequeued]
  . simp [blockedPops, servedPops]
  . simp [blockedPushes, servedPushes]

theorem dequeue {call : Nat} {data : Data} {rest : List Data} (h : Conserved capacity tr chan)
    (hw : chan.dataQueue = data :: rest)
    : Conserved capacity (tr ++ [.dequeue call data]) { chan with dataQueue := rest } := by
  apply h.append
  . rfl
  . have := h.bound
    rw [hw, List.length_cons] at this
    dsimp
    omega
  . simp [enqueued, dequeued, hw]
  . simp [blockedPops, servedPops]
  . simp [blockedPushes, servedPushes]

end Conserved

theorem Conserved.step {capacity : Nat} {s s' : Sys} {c : Cmd} {es tr : List Event}
    (h : Conserved capacity tr s.chan) (hs : Step s c es s')
    : Conserved capacity (tr ++ es) s'.chan := by
  cases hs with
  | idle | tick | create | yield | resume | finish => exact h.silent (by simp)
  | popResume | pushResume | runTimers | timersDone | timerDue => exact h.silent (by simp)
  | popReturn | pushReturn | sleepBlock | sleepReturn | callback =>
    exact h.silent (by simp [Event.onQueue])
  | popBlock =>
    rw [List.append_cons]
    exact (h.silent (by simp [Event.onQueue])).blockPop
  | pushBlock =>
    rw [List.append_cons]
    exact (h.silent (by simp [Event.onQueue])).blockPush
  | popEmpty he =>
    rw [← List.append_assoc]
    have hpre := h.silent he.silent
    rw [← he.chan_eq] at hpre
    exact hpre.silent (by simp [Event.onQueue])
  | pushFull he =>
    rw [← List.append_assoc]
    have hpre := h.silent he.silent
    rw [← he.chan_eq] at hpre
    exact hpre.silent (by simp [Event.onQueue])
  | popTake he hdata hprod =>
    rw [← List.append_assoc, List.append_cons]
    exact ((h.silent he.silent).dequeue hdata).silent (by simp [Event.onQueue])
  | popServe he hdata hprod =>
    rw [← List.append_assoc, List.append_cons]
    apply ((h.silent he.silent).dequeue hdata).servePush hprod
  | pushPut he hdata hcons =>
    rw [← List.append_assoc, List.append_cons]
    exact ((h.silent he.silent).enqueue hdata).silent (by simp [Event.onQueue])
  | pushServe he hdata hcons =>
    rw [← List.append_assoc, List.append_cons]
    apply ((h.silent he.silent).enqueue hdata).servePop hcons

theorem Run.conserved {capacity : Nat} {P : Sys → Cmd → Prop} {tr : List Event} {s : Sys}
    (h : (machine capacity).Run P tr s)
    : Conserved capacity tr s.chan := by
  apply Machine.Run.invariant (I := fun tr s => Conserved capacity tr s.chan) ?_ ?_ h
  . exact conserved_init
  . intro tr s c s' es _ ih _ hs
    apply ih.step (Step.of_step hs)

def ReturnsTrue (s : Sys) (call : Nat) : Prop :=
  ∃ st, s.point st = .pushNotify call ∨ ∃ w, s.point st = .pushResume call w

def ReturnsData (s : Sys) (call : Nat) (data : Data) : Prop :=
  ∃ st, s.point st = .popNotify call data ∨ ∃ w, s.point st = .popResume call data w

def enqueueCalls (tr : List Event) : List Nat :=
  tr.filterMap fun
    | .enqueue call _ => some call
    | _ => none

def Event.isEnqueue : Event → Bool
  | .enqueue _ _ => true
  | _ => false

theorem count_enqueueCalls {call : Nat} {tr : List Event}
    : (enqueueCalls tr).count call = (hist call tr).countP Event.isEnqueue := by
  unfold enqueueCalls hist
  induction tr with
  | nil => rfl
  | cons e tr ih =>
    cases e with
    | enqueue call' data =>
      by_cases heq : call' = call
      . subst heq
        rw [List.filterMap_cons, List.filter_cons_of_pos (by simp [Event.call]),
          List.count_cons_self]
        rw [List.countP_cons_of_pos (by rfl), ih]
      . rw [List.filterMap_cons, List.filter_cons_of_neg (by simp [Event.call, heq])]
        rw [List.count_cons_of_ne heq, ih]
    | _ =>
      simp only [List.filterMap_cons, ih, List.filter_cons]
      split <;> simp [Event.isEnqueue]

def Event.isRet : Event → Bool
  | .retPush _ _ | .retPop _ _ | .retSleep _ => true
  | _ => false

section Calls

variable {s : Sys} {tr : List Event} {call : Nat} {data : Data}

theorem enqueue_iff (h : Log tr s.point s.calls)
    : .enqueue call data ∈ tr
        ↔ (∃ t, .callPush call data t ∈ tr) ∧ (.retPush call true ∈ tr ∨ s.ReturnsTrue call) := by
  simp only [mem_iff_mem_hist tr (.enqueue call data) rfl,
    mem_iff_mem_hist tr (.callPush call data _) rfl, mem_iff_mem_hist tr (.retPush call true) rfl]
  rcases h.hist_cases call with hnil | ⟨st, hst, hpart⟩ | ⟨hst, hcomp⟩
  . simp [hnil]
  . have hret : s.ReturnsTrue call ↔ s.point st = .pushNotify call
        ∨ ∃ w, s.point st = .pushResume call w := by
      constructor
      . intro hret
        rcases hret with ⟨st', hst'⟩
        have : st' = st := by
          apply h.inj st' st call ?_ hst
          rcases hst' with heq | ⟨w, heq⟩ <;> rw [heq] <;> rfl
        rw [← this]
        exact hst'
      . intro hst
        exact ⟨st, hst⟩
    rw [hret]
    generalize hist call tr = es at hpart
    generalize s.point st = pt at hst hpart
    cases hpart with
    | popWait | pushWait | sleepWait => simp_all [Point.call]
    | popResume hstart | popNotify hstart => cases hstart <;> simp
    | pushResume hstart | pushNotify hstart =>
      injection hst with hst
      subst hst
      cases hstart <;> simp [eq_comm]
  . have hret : ¬s.ReturnsTrue call := by
      intro hret
      rcases hret with ⟨st, heq | ⟨w, heq⟩⟩
      . exact hst st (by rw [heq]; rfl)
      . exact hst st (by rw [heq]; rfl)
    generalize hist call tr = es at hcomp
    cases hcomp with
    | popEmpty | pushFull | slept => simp [hret]
    | popTaken hstart => cases hstart <;> simp [hret]
    | pushPut hstart => cases hstart <;> simp [hret, eq_comm]

theorem dequeue_returned (h : Log tr s.point s.calls) (hmem : .dequeue call data ∈ tr)
    : (∃ t, .callPop call t ∈ tr) ∧ (.retPop call data ∈ tr ∨ s.ReturnsData call data) := by
  rw [mem_iff_mem_hist tr _ rfl] at hmem
  simp only [mem_iff_mem_hist tr (.callPop call _) rfl, mem_iff_mem_hist tr (.retPop call data) rfl]
  rcases h.hist_cases call with hnil | ⟨st, hst, hpart⟩ | ⟨hst, hcomp⟩
  . simp [hnil] at hmem
  . generalize hist call tr = es at hpart hmem
    generalize hpt : s.point st = pt at hst hpart
    cases hpart with
    | popWait | pushWait | sleepWait => simp at hmem
    | pushResume hstart | pushNotify hstart => cases hstart <;> simp at hmem
    | popResume hstart | popNotify hstart =>
      injection hst with hst
      subst hst
      cases hstart <;> simp at hmem <;> subst hmem <;> simp [ReturnsData]
        <;> exact ⟨st, by simp [hpt]⟩
  . generalize hist call tr = es at hcomp hmem
    cases hcomp with
    | popEmpty | pushFull | slept => simp at hmem
    | pushPut hstart => cases hstart <;> simp at hmem
    | popTaken hstart => cases hstart <;> simp_all

theorem enqueueCalls_nodup (h : Log tr s.point s.calls)
    : (enqueueCalls tr).Nodup := by
  rw [List.nodup_iff_count]
  intro call
  rw [count_enqueueCalls]
  rcases h.hist_cases call with hnil | ⟨st, hst, hpart⟩ | ⟨hst, hcomp⟩
  . simp [hnil]
  . generalize hist call tr = es at hpart
    generalize s.point st = pt at hpart
    cases hpart with
    | popWait | pushWait | sleepWait => simp [Event.isEnqueue]
    | popResume hstart | popNotify hstart => cases hstart <;> simp [Event.isEnqueue]
    | pushResume hstart | pushNotify hstart => cases hstart <;> simp [Event.isEnqueue]
  . generalize hist call tr = es at hcomp
    cases hcomp with
    | popEmpty | pushFull | slept => simp [Event.isEnqueue]
    | popTaken hstart => cases hstart <;> simp [Event.isEnqueue]
    | pushPut hstart => cases hstart <;> simp [List.countP_cons, Event.isEnqueue]

theorem Partial.not_isRet {pt : Point} {es : List Event} (h : Partial pt es)
    : ∀ e ∈ es, e.isRet = false := by
  cases h with
  | popWait | pushWait | sleepWait => simp [Event.isRet]
  | popResume hstart | popNotify hstart => cases hstart <;> simp [Event.isRet]
  | pushResume hstart | pushNotify hstart => cases hstart <;> simp [Event.isRet]

theorem returned_of_ret (h : Log tr s.point s.calls) {e : Event} (hmem : e ∈ tr)
    (hcall : e.call = some call) (hret : e.isRet)
    : (∀ st, (s.point st).call ≠ some call) ∧ Complete call (hist call tr) := by
  rw [mem_iff_mem_hist tr e hcall] at hmem
  rcases h.hist_cases call with hnil | ⟨st, hst, hpart⟩ | hcomp
  . simp [hnil] at hmem
  . rw [hpart.not_isRet e hmem] at hret
    contradiction
  . exact hcomp

theorem retPush_false (h : Log tr s.point s.calls) (hmem : .retPush call false ∈ tr)
    : .enqueue call data ∉ tr ∧ .dequeue call data ∉ tr := by
  have hcomp := (returned_of_ret h hmem rfl rfl).2
  rw [mem_iff_mem_hist tr _ rfl] at hmem
  rw [mem_iff_mem_hist tr (.enqueue call data) rfl, mem_iff_mem_hist tr (.dequeue call data) rfl]
  generalize hist call tr = es at hcomp hmem
  cases hcomp with
  | popEmpty | slept => simp at hmem
  | pushFull => simp
  | popTaken hstart => cases hstart <;> simp at hmem
  | pushPut hstart => cases hstart <;> simp at hmem

theorem retPop_cases (h : Log tr s.point s.calls) (hmem : .retPop call data ∈ tr)
    : .dequeue call data ∈ tr ∨ (data = none ∧ ∀ data', .dequeue call data' ∉ tr) := by
  have hcomp := (returned_of_ret h hmem rfl rfl).2
  rw [mem_iff_mem_hist tr _ rfl] at hmem
  simp only [mem_iff_mem_hist tr (.dequeue call _) rfl]
  generalize hist call tr = es at hcomp hmem
  cases hcomp with
  | popEmpty => simp_all
  | pushFull | slept => simp at hmem
  | pushPut hstart => cases hstart <;> simp at hmem
  | popTaken hstart => cases hstart <;> simp_all

end Calls

theorem dataQueue_eq_of_step {s s' : Sys} {c : Cmd} {es : List Event} (hs : Step s c es s')
    (hes : ∀ call data, .enqueue call data ∉ es ∧ .dequeue call data ∉ es)
    : s'.chan.dataQueue = s.chan.dataQueue := by
  cases hs with
  | popEmpty he => apply congrArg _ he.chan_eq
  | pushFull he => apply congrArg _ he.chan_eq
  | @popTake _ call _ _ data | @popServe _ call _ _ data =>
    have := (hes call data).2
    simp at this
  | @pushPut _ call data | @pushServe _ call data =>
    have := (hes call data).1
    simp at this
  | _ => rfl

/--
The conservation law, in runs in which anything may happen: blocked coroutines may be resumed by
anyone at any time. The queue only changes in steps that log it as `enqueue` or `dequeue`, under the
number of the call that does it.
-/
theorem fifo_conservation {capacity : Nat} {tr : List Event} {s : Sys}
    (h : (machine capacity).Run (fun _ _ => True) tr s)
    : s.chan.dataQueue.length ≤ capacity
      ∧ enqueued tr = dequeued tr ++ s.chan.dataQueue
      ∧ (∀ call data, .enqueue call data ∈ tr
          ↔ (∃ t, .callPush call data t ∈ tr) ∧ (.retPush call true ∈ tr ∨ s.ReturnsTrue call))
      ∧ (enqueueCalls tr).Nodup
      ∧ (∀ call data, .dequeue call data ∈ tr →
          (∃ t, .callPop call t ∈ tr) ∧ (.retPop call data ∈ tr ∨ s.ReturnsData call data))
      ∧ (∀ call data, .retPush call false ∈ tr → .enqueue call data ∉ tr ∧ .dequeue call data ∉ tr)
      ∧ (∀ call data, .retPop call data ∈ tr →
          .dequeue call data ∈ tr ∨ (data = none ∧ ∀ data', .dequeue call data' ∉ tr))
      ∧ (∀ c s' es, s.step c = .ok (s', es) →
          (∀ call data, .enqueue call data ∉ es ∧ .dequeue call data ∉ es) →
            s'.chan.dataQueue = s.chan.dataQueue) := by
  have hcons := Run.conserved h
  have hlog := Run.log h
  refine ⟨hcons.bound, hcons.data, ?_, enqueueCalls_nodup hlog, ?_, ?_, ?_, ?_⟩
  . intro call data
    apply enqueue_iff hlog
  . intro call data hmem
    apply dequeue_returned hlog hmem
  . intro call data hmem
    apply retPush_false hlog hmem
  . intro call data hmem
    apply retPop_cases hlog hmem
  . intro c s' es hs hes
    apply dataQueue_eq_of_step (Step.of_step hs) hes

-- Coroutine 1 blocks in `pop`, `main` wakes it and the channel is still empty; coroutine 2 fills
-- the channel, in passing resumes coroutine 1 once more, and blocks, `main` wakes it and the
-- channel is still full.
theorem fifo_conservation_spurious
    : ∃ tr s, (machine 1).Run (fun _ _ => True) tr s
        ∧ .retPop 0 none ∈ tr ∧ .retPush 2 false ∈ tr ∧ enqueued tr = [some 7]
        ∧ s.chan.dataQueue.length ≤ 1 ∧ enqueued tr = dequeued tr ++ s.chan.dataQueue := by
  have hexec : ((machine 1).exec (fun _ _ => True)
      [.create 1, .pop ⟨false, 0⟩, .resume 1, .go 0, .yield,
       .create 2, .push (some 7) ⟨false, 0⟩, .go 0, .yield, .go 0, .push (some 8) ⟨false, 0⟩,
       .resume 2, .go 0]).map
        (fun r => (decide (.retPop 0 none ∈ r.2), decide (.retPush 2 false ∈ r.2), enqueued r.2))
      = some (true, true, [some 7]) := by decide
  rcases Option.map_eq_some_iff.mp hexec with ⟨⟨s, tr⟩, he, heq⟩
  simp only [Prod.mk.injEq, decide_eq_true_eq] at heq
  have h := Machine.run_of_exec he
  have hall := fifo_conservation h
  exact ⟨tr, s, h, heq.1, heq.2.1, heq.2.2, hall.1, hall.2.1⟩

end Sys
end Fsw

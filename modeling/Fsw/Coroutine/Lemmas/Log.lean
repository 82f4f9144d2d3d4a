import Fsw.Coroutine.Lemmas.Shape

namespace Fsw
namespace Sys

-- That another call takes a waiter off a queue, or that its timer fires, is not something a call
-- does.
def Event.call : Event → Option Nat
  | .callPush call _ _ | .callPop call _ | .callSleep call => some call
  | .blockPush w | .blockPop w => some w.call
  | .servePush _ | .servePop _ | .fire _ => none
  | .enqueue call _ | .dequeue call _ => some call
  | .retPush call _ | .retPop call _ | .retSleep call => some call

def Point.call : Point → Option Nat
  | .user | .runTimers _ | .callback _ _ => none
  | .popWait call | .popResume call _ _ | .popNotify call _ => some call
  | .pushWait call _ | .pushResume call _ | .pushNotify call => some call
  | .sleepWait call => some call

def hist (call : Nat) (tr : List Event) : List Event :=
  tr.filter (fun e => e.call = some call)

inductive PopStart (call : Nat) : List Event → Prop where
  | direct {t : Duration} : PopStart call [.callPop call t]
  | blocked {t : Duration} {co : Addr} : PopStart call [.callPop call t, .blockPop ⟨co, call⟩]

inductive PushStart (call : Nat) (data : Data) : List Event → Prop where
  | direct {t : Duration} : PushStart call data [.callPush call data t]
  | blocked {t : Duration} {co : Addr}
      : PushStart call data [.callPush call data t, .blockPush ⟨co, call⟩]

inductive Partial : Point → List Event → Prop where
  | popWait {call : Nat} {t : Duration} {co : Addr}
      : Partial (.popWait call) [.callPop call t, .blockPop ⟨co, call⟩]
  | popResume {call : Nat} {data : Data} {w : Waiter} {es : List Event} (h : PopStart call es)
      : Partial (.popResume call data w) (es ++ [.dequeue call data])
  | popNotify {call : Nat} {data : Data} {es : List Event} (h : PopStart call es)
      : Partial (.popNotify call data) (es ++ [.dequeue call data])
  | pushWait {call : Nat} {data : Data} {t : Duration} {co : Addr}
      : Partial (.pushWait call data) [.callPush call data t, .blockPush ⟨co, call⟩]
  | pushResume {call : Nat} {data : Data} {w : Waiter} {es : List Event}
      (h : PushStart call data es)
      : Partial (.pushResume call w) (es ++ [.enqueue call data])
  | pushNotify {call : Nat} {data : Data} {es : List Event} (h : PushStart call data es)
      : Partial (.pushNotify call) (es ++ [.enqueue call data])
  | sleepWait {call : Nat} : Partial (.sleepWait call) [.callSleep call]

inductive Complete (call : Nat) : List Event → Prop where
  | popTaken {data : Data} {es : List Event} (h : PopStart call es)
      : Complete call (es ++ [.dequeue call data, .retPop call data])
  | popEmpty {t : Duration} {co : Addr}
      : Complete call [.callPop call t, .blockPop ⟨co, call⟩, .retPop call none]
  | pushPut {data : Data} {es : List Event} (h : PushStart call data es)
      : Complete call (es ++ [.enqueue call data, .retPush call true])
  | pushFull {data : Data} {t : Duration} {co : Addr}
      : Complete call [.callPush call data t, .blockPush ⟨co, call⟩, .retPush call false]
  | slept : Complete call [.callSleep call, .retSleep call]

/--
The events of one call are its history: if some native stack is in the call it is the one that
belongs to the point of the stack, and otherwise the one of a call that has returned.
-/
structure Log (tr : List Event) (point : Option Addr → Point) (calls : Nat) : Prop where
  lt : ∀ st call, (point st).call = some call → call < calls
  inj : ∀ st st' call, (point st).call = some call → (point st').call = some call → st = st'
  future : ∀ call, calls ≤ call → hist call tr = []
  running : ∀ st call, (point st).call = some call → Partial (point st) (hist call tr)
  returned : ∀ call, call < calls → (∀ st, (point st).call ≠ some call)
    → Complete call (hist call tr)

@[simp]
theorem hist_append {call : Nat} {tr es : List Event}
    : hist call (tr ++ es) = hist call tr ++ hist call es := by
  unfold hist
  rw [List.filter_append]

theorem hist_eq_nil {call call' : Nat} {es : List Event}
    (hes : ∀ e ∈ es, e.call = some call ∨ e.call = none) (hne : call' ≠ call)
    : hist call' es = [] := by
  unfold hist
  rw [List.filter_eq_nil_iff]
  intro e he
  cases hes e he with
  | inl h => simp [h, Ne.symm hne]
  | inr h => simp [h]

namespace Log

variable {tr es : List Event} {point : Option Addr → Point} {calls call : Nat} {st : Option Addr}
variable {pt : Point}

theorem update {calls' : Nat} (h : Log tr point calls)
    (hes : ∀ e ∈ es, e.call = some call ∨ e.call = none)
    (hcall : (calls' = calls ∧ (point st).call = some call)
      ∨ (calls' = calls + 1 ∧ call = calls ∧ (point st).call = none))
    (hpt : pt.call = some call ∨ pt.call = none)
    (hongoing : pt.call = some call → Partial pt (hist call (tr ++ es)))
    (hcomplete : pt.call = none → Complete call (hist call (tr ++ es)))
    : Log (tr ++ es) (Function.update point st pt) calls' := by
  have hlt : call < calls' := by
    rcases hcall with ⟨rfl, hst⟩ | ⟨rfl, rfl, _⟩
    . apply h.lt st call hst
    . omega
  have hle : calls ≤ calls' := by omega
  have hother : ∀ st', st' ≠ st → (point st').call ≠ some call := by
    intro st' hne heq
    rcases hcall with ⟨_, hst⟩ | ⟨_, rfl, _⟩
    . apply hne (h.inj st' st call heq hst)
    . have := h.lt st' call heq
      omega
  have hold : ∀ call', call' ≠ call → (point st).call ≠ some call' := by
    intro call' hne heq
    rcases hcall with ⟨_, hst⟩ | ⟨_, _, hst⟩
    . rw [heq] at hst
      injection hst with hst
      apply hne hst
    . rw [heq] at hst
      contradiction
  have hmine : ∀ call', pt.call = some call' → call' = call := by
    intro call' heq
    rcases hpt with hpt | hpt
    . rw [heq] at hpt
      injection hpt
    . rw [heq] at hpt
      contradiction
  constructor
  . intro st' call' heq
    by_cases hst : st' = st
    . subst hst
      rw [Function.update_self] at heq
      rw [hmine call' heq]
      exact hlt
    . rw [Function.update_of_ne hst] at heq
      have := h.lt st' call' heq
      omega
  . intro st' st'' call' heq heq'
    by_cases hst : st' = st
    . by_cases hst' : st'' = st
      . rw [hst, hst']
      . rw [hst, Function.update_self] at heq
        rw [Function.update_of_ne hst'] at heq'
        rw [hmine call' heq] at heq'
        apply absurd heq' (hother st'' hst')
    . rw [Function.update_of_ne hst] at heq
      by_cases hst' : st'' = st
      . rw [hst', Function.update_self] at heq'
        rw [hmine call' heq'] at heq
        apply absurd heq (hother st' hst)
      . rw [Function.update_of_ne hst'] at heq'
        apply h.inj st' st'' call' heq heq'
  . intro call' hge
    rw [hist_append, h.future call' (by omega), hist_eq_nil hes (by omega)]
    rfl
  . intro st' call' heq
    by_cases hst : st' = st
    . subst hst
      rw [Function.update_self] at heq ⊢
      have hc := hmine call' heq
      subst hc
      apply hongoing heq
    . rw [Function.update_of_ne hst] at heq ⊢
      have hne : call' ≠ call := by
        intro hc
        rw [hc] at heq
        apply hother st' hst heq
      rw [hist_append, hist_eq_nil hes hne, List.append_nil]
      apply h.running st' call' heq
  . intro call' hlt' hnone
    by_cases hc : call' = call
    . subst hc
      apply hcomplete
      have := hnone st
      rw [Function.update_self] at this
      cases hpt with
      | inl hpt => apply absurd hpt this
      | inr hpt => exact hpt
    . rw [hist_append, hist_eq_nil hes hc, List.append_nil]
      apply h.returned
      . omega
      . intro st' heq
        by_cases hst : st' = st
        . rw [hst] at heq
          apply hold call' hc heq
        . apply hnone st'
          rw [Function.update_of_ne hst]
          exact heq

theorem begin (h : Log tr point calls) (hst : (point st).call = none)
    (hes : ∀ e ∈ es, e.call = some calls ∨ e.call = none)
    (hpt : pt.call = some calls ∨ pt.call = none)
    (hongoing : pt.call = some calls → Partial pt (hist calls es))
    (hcomplete : pt.call = none → Complete calls (hist calls es))
    : Log (tr ++ es) (Function.update point st pt) (calls + 1) := by
  have hnil := h.future calls (Nat.le_refl _)
  apply h.update hes (.inr ⟨rfl, rfl, hst⟩) hpt
  . rw [hist_append, hnil]
    exact hongoing
  . rw [hist_append, hnil]
    exact hcomplete

theorem goOn (h : Log tr point calls) (hst : (point st).call = some call)
    (hes : ∀ e ∈ es, e.call = some call ∨ e.call = none)
    (hpt : pt.call = some call ∨ pt.call = none)
    (hongoing : ∀ es₀, Partial (point st) es₀ → pt.call = some call
      → Partial pt (es₀ ++ hist call es))
    (hcomplete : ∀ es₀, Partial (point st) es₀ → pt.call = none
      → Complete call (es₀ ++ hist call es))
    : Log (tr ++ es) (Function.update point st pt) calls := by
  have hrun := h.running st call hst
  apply h.update hes (.inl ⟨rfl, hst⟩) hpt
  . rw [hist_append]
    apply hongoing _ hrun
  . rw [hist_append]
    apply hcomplete _ hrun

theorem silent (h : Log tr point calls) (hes : ∀ e ∈ es, e.call = none)
    : Log (tr ++ es) point calls := by
  have hnil : ∀ call, hist call es = [] := by
    intro call
    unfold hist
    rw [List.filter_eq_nil_iff]
    intro e he
    simp [hes e he]
  constructor
  . apply h.lt
  . apply h.inj
  . intro call hge
    rw [hist_append, hnil, h.future call hge]
    rfl
  . intro st call heq
    rw [hist_append, hnil, List.append_nil]
    apply h.running st call heq
  . intro call hlt hnone
    rw [hist_append, hnil, List.append_nil]
    apply h.returned call hlt hnone

theorem move (h : Log tr point calls) (hst : (point st).call = none) (hpt : pt.call = none)
    : Log tr (Function.update point st pt) calls := by
  have hcall : ∀ st', (Function.update point st pt st').call = (point st').call := by
    intro st'
    by_cases heq : st' = st
    . rw [heq, Function.update_self, hpt, hst]
    . rw [Function.update_of_ne heq]
  constructor
  . intro st' call heq
    rw [hcall] at heq
    apply h.lt st' call heq
  . intro st' st'' call heq heq'
    rw [hcall] at heq heq'
    apply h.inj st' st'' call heq heq'
  . apply h.future
  . intro st' call heq
    have hne : st' ≠ st := by
      intro hc
      rw [hc, hcall, hst] at heq
      contradiction
    rw [hcall] at heq
    rw [Function.update_of_ne hne]
    apply h.running st' call heq
  . intro call hlt hnone
    apply h.returned call hlt
    intro st'
    rw [← hcall]
    apply hnone st'

end Log

theorem mem_hist {call : Nat} {e : Event} {tr : List Event}
    : e ∈ hist call tr ↔ e ∈ tr ∧ e.call = some call := by
  unfold hist
  rw [List.mem_filter, decide_eq_true_eq]

theorem mem_iff_mem_hist {call : Nat} (tr : List Event) (e : Event) (he : e.call = some call)
    : e ∈ tr ↔ e ∈ hist call tr := by
  rw [mem_hist]
  simp [he]

theorem Log.hist_cases {tr : List Event} {point : Option Addr → Point} {calls : Nat}
    (h : Log tr point calls) (call : Nat)
    : hist call tr = []
      ∨ (∃ st, (point st).call = some call ∧ Partial (point st) (hist call tr))
      ∨ ((∀ st, (point st).call ≠ some call) ∧ Complete call (hist call tr)) := by
  by_cases hlt : call < calls
  . right
    by_cases hst : ∃ st, (point st).call = some call
    . left
      rcases hst with ⟨st, hst⟩
      exact ⟨st, hst, h.running st call hst⟩
    . right
      rw [not_exists] at hst
      exact ⟨hst, h.returned call hlt hst⟩
  . left
    exact h.future call (by omega)

theorem log_init {capacity : Nat} : Log [] (init capacity).point (init capacity).calls where
  lt := by simp [init, Point.call]
  inj := by simp [init, Point.call]
  future := by simp [hist]
  running := by simp [init, Point.call]
  returned := by simp [init]

theorem Log.popEntry {s t : Sys} {c : Cmd} {call : Nat} {pre es tr : List Event} {pt : Point}
    (h : Log tr s.point s.calls) (he : PopEntry s c call pre t)
    (hes : ∀ e ∈ es, e.call = some call ∨ e.call = none)
    (hpt : pt.call = some call ∨ pt.call = none)
    (hongoing : ∀ es₀, PopStart call es₀ → pt.call = some call → Partial pt (es₀ ++ hist call es))
    (hcomplete : ∀ es₀, PopStart call es₀ → pt.call = none → Complete call (es₀ ++ hist call es))
    : Log (tr ++ (pre ++ es)) (Function.update s.point s.rt.stack pt) t.calls := by
  cases he with
  | @fresh timeout hhere hdata =>
    apply h.begin
    . rw [← here, hhere]
      rfl
    . intro e hmem
      cases List.mem_cons.mp hmem with
      | inl heq =>
        left
        rw [heq]
        rfl
      | inr hmem => apply hes e hmem
    . exact hpt
    . intro hcall
      have := hongoing _ (.direct (t := timeout)) hcall
      simpa [hist, Event.call] using this
    . intro hcall
      have := hcomplete _ (.direct (t := timeout)) hcall
      simpa [hist, Event.call] using this
  | woken hhere =>
    apply h.goOn
    . rw [← here, hhere]
      rfl
    . exact hes
    . exact hpt
    all_goals
      intro es₀ hes₀ hcall
      rw [← here, hhere] at hes₀
      cases hes₀
    . apply hongoing _ .blocked hcall
    . apply hcomplete _ .blocked hcall

theorem Log.pushEntry {s t : Sys} {c : Cmd} {call : Nat} {data : Data} {pre es tr : List Event}
    {pt : Point} (h : Log tr s.point s.calls) (he : PushEntry s c call data pre t)
    (hes : ∀ e ∈ es, e.call = some call ∨ e.call = none)
    (hpt : pt.call = some call ∨ pt.call = none)
    (hongoing : ∀ es₀, PushStart call data es₀ → pt.call = some call →
      Partial pt (es₀ ++ hist call es))
    (hcomplete : ∀ es₀, PushStart call data es₀ → pt.call = none →
      Complete call (es₀ ++ hist call es))
    : Log (tr ++ (pre ++ es)) (Function.update s.point s.rt.stack pt) t.calls := by
  cases he with
  | @fresh _ timeout hhere hdata =>
    apply h.begin
    . rw [← here, hhere]
      rfl
    . intro e hmem
      cases List.mem_cons.mp hmem with
      | inl heq =>
        left
        rw [heq]
        rfl
      | inr hmem => apply hes e hmem
    . exact hpt
    . intro hcall
      have := hongoing _ (.direct (t := timeout)) hcall
      simpa [hist, Event.call] using this
    . intro hcall
      have := hcomplete _ (.direct (t := timeout)) hcall
      simpa [hist, Event.call] using this
  | woken hhere =>
    apply h.goOn
    . rw [← here, hhere]
      rfl
    . exact hes
    . exact hpt
    all_goals
      intro es₀ hes₀ hcall
      rw [← here, hhere] at hes₀
      cases hes₀
    . apply hongoing _ .blocked hcall
    . apply hcomplete _ .blocked hcall

theorem Log.step {s s' : Sys} {c : Cmd} {es tr : List Event} {l : List Addr}
    (hshape : Shape s.rt s.point l) (h : Log tr s.point s.calls) (hs : Step s c es s')
    : Log (tr ++ es) s'.point s'.calls := by
  have hst : ∀ {pt}, s.here = pt → (s.point s.rt.stack).call = pt.call := by
    intro pt hhere
    rw [← hhere]
    rfl
  cases hs with
  | idle => exact h.silent (by simp)
  | tick => exact h.silent (by simp)
  | create hhere hp hrt =>
    rw [hshape.update_dead hp]
    exact h.silent (by simp)
  | yield hhere hrt => exact (h.silent (by simp)).move (hst hhere) rfl
  | resume hhere hrt => exact (h.silent (by simp)).move (hst hhere) rfl
  | finish hhere hstack hrt => exact h.silent (by simp)
  | popBlock hhere hdata hcur hrt =>
    apply h.begin (hst hhere)
    . simp [Event.call]
    . simp [Point.call]
    . intro _
      simpa [hist, Event.call] using Partial.popWait
    . simp [Point.call]
  | popEmpty he hdata =>
    simp only [goto, he.rt_eq.1, he.rt_eq.2.1]
    cases he with
    | fresh hhere hdata' => apply absurd hdata hdata'
    | woken hhere =>
      apply h.goOn (hst hhere)
      . simp [Event.call]
      . simp [Point.call]
      . simp [Point.call]
      . intro es₀ hes₀ _
        rw [← here, hhere] at hes₀
        cases hes₀
        simpa [hist, Event.call] using Complete.popEmpty
  | popTake he hdata hprod =>
    simp only [goto, he.rt_eq.1, he.rt_eq.2.1]
    apply h.popEntry he
    . simp [Event.call]
    . simp [Point.call]
    . simp [Point.call]
    . intro es₀ hes₀ _
      simpa [hist, Event.call] using Complete.popTaken hes₀
  | popServe he hdata hprod =>
    simp only [goto, he.rt_eq.1, he.rt_eq.2.1]
    apply h.popEntry he
    . simp [Event.call]
    . simp [Point.call]
    . intro es₀ hes₀ _
      simpa [hist, Event.call] using Partial.popResume hes₀
    . simp [Point.call]
  | popResume hhere hrt =>
    apply h.goOn (hst hhere)
    . simp
    . simp [Point.call]
    . intro es₀ hes₀ _
      rw [← here, hhere] at hes₀
      cases hes₀ with
      | popResume hstart => simpa [hist] using Partial.popNotify hstart
    . simp [Point.call]
  | popReturn hhere =>
    apply h.goOn (hst hhere)
    . simp [Event.call]
    . simp [Point.call]
    . simp [Point.call]
    . intro es₀ hes₀ _
      rw [← here, hhere] at hes₀
      cases hes₀ with
      | popNotify hstart => simpa [hist, Event.call] using Complete.popTaken hstart
  | pushBlock hhere hdata hcur hrt =>
    apply h.begin (hst hhere)
    . simp [Event.call]
    . simp [Point.call]
    . intro _
      simpa [hist, Event.call] using Partial.pushWait
    . simp [Point.call]
  | pushFull he hdata =>
    simp only [goto, he.rt_eq.1, he.rt_eq.2.1]
    cases he with
    | fresh hhere hdata' => apply absurd hdata hdata'
    | woken hhere =>
      apply h.goOn (hst hhere)
      . simp [Event.call]
      . simp [Point.call]
      . simp [Point.call]
      . intro es₀ hes₀ _
        rw [← here, hhere] at hes₀
        cases hes₀
        simpa [hist, Event.call] using Complete.pushFull
  | pushPut he hdata hcons =>
    simp only [goto, he.rt_eq.1, he.rt_eq.2.1]
    apply h.pushEntry he
    . simp [Event.call]
    . simp [Point.call]
    . simp [Point.call]
    . intro es₀ hes₀ _
      simpa [hist, Event.call] using Complete.pushPut hes₀
  | pushServe he hdata hcons =>
    simp only [goto, he.rt_eq.1, he.rt_eq.2.1]
    apply h.pushEntry he
    . simp [Event.call]
    . simp [Point.call]
    . intro es₀ hes₀ _
      simpa [hist, Event.call] using Partial.pushResume hes₀
    . simp [Point.call]
  | pushResume hhere hrt =>
    apply h.goOn (hst hhere)
    . simp
    . simp [Point.call]
    . intro es₀ hes₀ _
      rw [← here, hhere] at hes₀
      cases hes₀ with
      | pushResume hstart => simpa [hist] using Partial.pushNotify hstart
    . simp [Point.call]
  | pushReturn hhere =>
    apply h.goOn (hst hhere)
    . simp [Event.call]
    . simp [Point.call]
    . simp [Point.call]
    . intro es₀ hes₀ _
      rw [← here, hhere] at hes₀
      cases hes₀ with
      | pushNotify hstart => simpa [hist, Event.call] using Complete.pushPut hstart
  | sleepBlock hhere hcur hrt =>
    apply h.begin (hst hhere)
    . simp [Event.call]
    . simp [Point.call]
    . intro _
      simpa [hist, Event.call] using Partial.sleepWait
    . simp [Point.call]
  | sleepReturn hhere =>
    apply h.goOn (hst hhere)
    . simp [Event.call]
    . simp [Point.call]
    . simp [Point.call]
    . intro es₀ hes₀ _
      rw [← here, hhere] at hes₀
      cases hes₀
      simpa [hist, Event.call] using Complete.slept
  | runTimers hhere hstack => exact (h.silent (by simp)).move (hst hhere) rfl
  | timersDone hhere => exact (h.silent (by simp)).move (hst hhere) rfl
  | timerDue hhere ht htop hdue => exact (h.silent (by simp)).move (hst hhere) rfl
  | callback hhere hrt => exact (h.silent (by simp [Event.call])).move (hst hhere) rfl

theorem Run.log {capacity : Nat} {P : Sys → Cmd → Prop} {tr : List Event} {s : Sys}
    (h : (machine capacity).Run P tr s)
    : Log tr s.point s.calls := by
  apply Machine.Run.invariant (I := fun tr s => Log tr s.point s.calls) ?_ ?_ h
  . exact log_init
  . intro tr s c s' es hrun ih _ hs
    rcases Run.shape hrun with ⟨l, hshape⟩
    apply ih.step hshape (Step.of_step hs)

end Sys
end Fsw

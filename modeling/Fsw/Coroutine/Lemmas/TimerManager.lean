import Mathlib.Data.List.MinMax
import Mathlib.Data.List.Nodup
import Mathlib.Data.List.Perm.Basic
import Fsw.Lib.Except
import Fsw.Coroutine.Impl.TimerManager

namespace Fsw

namespace TimerManager

variable {α : Type} {timers : TimerManager α} {t : Timer α}

theorem exists_isTop (h : timers ≠ []) : ∃ t ∈ timers, timers.IsTop t := by
  cases hmin : timers.argmin (·.execMsec) with
  | none => exact absurd (List.argmin_eq_none.mp hmin) h
  | some t =>
    refine ⟨t, List.argmin_mem hmin, ?_⟩
    intro t' ht'
    exact List.le_of_mem_argmin ht' hmin

theorem top?_eq_some (h : timers.top? = some t) : t ∈ timers ∧ timers.IsTop t := by
  refine ⟨List.mem_of_find?_eq_some h, ?_⟩
  have := List.find?_some h
  exact of_decide_eq_true this

theorem top?_eq_none : timers.top? = none ↔ timers = [] := by
  constructor
  . intro h
    by_contra hne
    rcases exists_isTop hne with ⟨t, hmem, hmin⟩
    have := List.find?_eq_none.mp h t hmem
    simp [hmin] at this
  . intro h
    rw [h]
    rfl

end TimerManager

namespace Drain

variable {s s' : Drain} {tr es : List Event}

def Event.timer? : Event → Option (Timer Nat)
  | .fired t _ => some t
  | _ => none

def firedTimers (tr : List Event) : List (Timer Nat) :=
  tr.filterMap Event.timer?

structure Semantics (s : Drain) (tr : List Event) : Prop where
  once : ((firedTimers tr).map (·.privateData)).Nodup
  added : ∀ t clock, .fired t clock ∈ tr → ∃ now timeout, .added t.privateData now timeout ∈ tr
  notEarly : ∀ t clock (now : Nat) timeout, .fired t clock ∈ tr
    → .added t.privateData now timeout ∈ tr →
    (now : Int) + timeout = t.execMsec ∧ t.execMsec ≤ clock
  ordered : (firedTimers tr).Pairwise fun t t' => t.execMsec ≤ t'.execMsec
  drained : ∀ c s' es now, s.Admissible c → s.step c = .ok (s', es) → .returned now ∈ es →
    ∀ t ∈ s'.timers, now < t.execMsec
  nextTimeout : (s.timers.getNextTimeout s.clock = -1 ↔ s.timers = [])
    ∧ (s.timers ≠ [] → ∃ top ∈ s.timers, s.timers.IsTop top
      ∧ s.timers.getNextTimeout s.clock = max 0 ((top.execMsec : Int) - s.clock))

structure Inv (s : Drain) (tr : List Event) : Prop where
  clock_lt : s.clock < 2 ^ 63
  frames_le : ∀ frame ∈ s.frames, frame.now ≤ s.clock
  calls : ∀ call now timeout, .added call now timeout ∈ tr → call < s.calls
  unique : ∀ call now timeout now' timeout', .added call now timeout ∈ tr
    → .added call now' timeout' ∈ tr →
    now = now' ∧ timeout = timeout'
  origin : ∀ t ∈ s.timers, ∃ (now : Nat) (timeout : Int), .added t.privateData now timeout ∈ tr
    ∧ timeout < 2 ^ 63
    ∧ now ≤ s.clock ∧ (now : Int) + timeout = t.execMsec
  firedOrigin : ∀ t clock, .fired t clock ∈ tr → t.execMsec ≤ clock ∧ clock ≤ s.clock
    ∧ ∃ (now : Nat) (timeout : Int), .added t.privateData now timeout ∈ tr
    ∧ (now : Int) + timeout = t.execMsec
  nodup : (((firedTimers tr) ++ s.timers).map (·.privateData)).Nodup
  fired_le : ∀ t ∈ firedTimers tr, ∀ t' ∈ s.timers, t.execMsec ≤ t'.execMsec
  ordered : (firedTimers tr).Pairwise fun t t' => t.execMsec ≤ t'.execMsec

inductive Step (s : Drain) : Drain → List Event → Prop where
  | idle : Step s s []
  | tick {now : Nat} (hle : s.clock ≤ now) (hlt : now < 2 ^ 63) : Step s { s with clock := now } []
  | addTimer {timeout : Int} (hnonneg : 0 ≤ timeout) (hlt : timeout < 2 ^ 63)
      : Step s { s with timers := s.timers.addTimer s.clock timeout s.calls, calls := s.calls + 1 }
          [.added s.calls s.clock timeout]
  | runTimers : Step s { s with frames := ⟨s.clock, false⟩ :: s.frames } []
  | returned {frame : Frame} {frames : List Frame} (hframes : s.frames = frame :: frames)
      (hdone : ∀ t ∈ s.timers, frame.now < t.execMsec)
      : Step s { s with frames := frames } [.returned frame.now]
  | fired {frame : Frame} {frames : List Frame} {top : Nat} {t : Timer Nat}
      (hframes : s.frames = frame :: frames) (htop : s.timers[top]? = some t)
      (hmin : s.timers.IsTop t) (hdue : ¬frame.now < t.execMsec)
      : Step s { s with
          timers := s.timers.eraseIdx top, frames := { frame with inCallback := true } :: frames }
          [.fired t s.clock]
  | ret {frame : Frame} {frames : List Frame} (hframes : s.frames = frame :: frames)
      : Step s { s with frames := { frame with inCallback := false } :: frames } []

theorem Step.of_loop {frame : Frame} {frames : List Frame} {top : Nat}
    (hframes : s.frames = frame :: frames) (h : s.loop frame frames top = (s', es))
    : Step s s' es := by
  unfold loop at h
  split at h
  . next hempty =>
    injection h with hs hes
    subst hs hes
    apply Step.returned hframes
    rw [List.isEmpty_iff.mp hempty]
    simp
  . split at h
    . injection h with hs hes
      subst hs hes
      exact .idle
    . next t htop =>
      split at h
      . next hmin =>
        split at h
        . next hlt =>
          injection h with hs hes
          subst hs hes
          apply Step.returned hframes
          intro t' ht'
          exact Nat.lt_of_lt_of_le hlt (hmin t' ht')
        . next hdue =>
          injection h with hs hes
          subst hs hes
          exact .fired hframes htop hmin hdue
      . injection h with hs hes
        subst hs hes
        exact .idle

theorem Step.of_step {c : Cmd} (hc : s.Admissible c) (h : s.step c = .ok (s', es))
    : Step s s' es := by
  cases c with
  | tick now =>
    rcases ok_pair h with ⟨rfl, rfl⟩
    exact .tick hc.1 hc.2
  | addTimer timeout =>
    unfold step at h
    dsimp only at h
    split at h
    . rcases ok_pair h with ⟨rfl, rfl⟩
      exact .addTimer hc.1 hc.2
    . rcases ok_pair h with ⟨rfl, rfl⟩
      exact .idle
  | runTimers =>
    unfold step at h
    dsimp only at h
    split at h
    . rcases ok_pair h with ⟨rfl, rfl⟩
      exact .runTimers
    . rcases ok_pair h with ⟨rfl, rfl⟩
      exact .idle
  | loop top =>
    unfold step at h
    dsimp only at h
    split at h
    . next hframes =>
      injection h with h
      exact Step.of_loop hframes h
    . rcases ok_pair h with ⟨rfl, rfl⟩
      exact .idle
  | ret =>
    unfold step at h
    dsimp only at h
    split at h
    . next hframes =>
      rcases ok_pair h with ⟨rfl, rfl⟩
      exact .ret hframes
    . rcases ok_pair h with ⟨rfl, rfl⟩
      exact .idle

theorem mem_firedTimers {t : Timer Nat} : t ∈ firedTimers tr ↔ ∃ clock, .fired t clock ∈ tr := by
  unfold firedTimers
  rw [List.mem_filterMap]
  constructor
  . intro h
    rcases h with ⟨event, hevent, ht⟩
    cases event with
    | fired t' clock =>
      injection ht with ht
      rw [← ht]
      exact ⟨clock, hevent⟩
    | added call now timeout => contradiction
    | returned now => contradiction
  . intro h
    rcases h with ⟨clock, h⟩
    exact ⟨_, h, rfl⟩

theorem firedTimers_append : firedTimers (tr ++ es) = firedTimers tr ++ firedTimers es := by
  apply List.filterMap_append

theorem inv_init : Inv init [] := by
  constructor
  . decide
  . simp [init]
  . simp
  . simp
  . simp [init]
  . simp
  . simp [firedTimers, init]
  . simp [firedTimers]
  . simp [firedTimers]

theorem Inv.quiet (s' : Drain) (h : s.Inv tr) (hes : firedTimers es = [])
    (hadded : ∀ call now timeout, .added call now timeout ∉ es)
    (hclock : s.clock ≤ s'.clock) (hlt : s'.clock < 2 ^ 63)
    (hframes : ∀ frame ∈ s'.frames, frame.now ≤ s'.clock) (htimers : s'.timers = s.timers)
    (hcalls : s'.calls = s.calls) : s'.Inv (tr ++ es) := by
  have hfired : firedTimers (tr ++ es) = firedTimers tr := by
    rw [firedTimers_append, hes, List.append_nil]
  have hmem (call now : Nat) (timeout : Int) (hmem : .added call now timeout ∈ tr ++ es)
      : .added call now timeout ∈ tr := by
    rcases List.mem_append.mp hmem with hmem | hmem
    . exact hmem
    . exact absurd hmem (hadded call now timeout)
  constructor
  . exact hlt
  . exact hframes
  . intro call now timeout hmem'
    rw [hcalls]
    exact h.calls call now timeout (hmem _ _ _ hmem')
  . intro call now timeout now' timeout' h₁ h₂
    exact h.unique call now timeout now' timeout' (hmem _ _ _ h₁) (hmem _ _ _ h₂)
  . intro t ht
    rw [htimers] at ht
    rcases h.origin t ht with ⟨now, timeout, hmem', hlt', hle, heq⟩
    exact ⟨now, timeout, List.mem_append_left _ hmem', hlt', by omega, heq⟩
  . intro t clock hmem'
    have hold : t ∈ firedTimers tr := by
      rw [← hfired, mem_firedTimers]
      exact ⟨clock, hmem'⟩
    rcases List.mem_append.mp hmem' with hmem' | hmem'
    . rcases h.firedOrigin t clock hmem' with ⟨hle, hclock', now, timeout, hmem'', heq⟩
      exact ⟨hle, by omega, now, timeout, List.mem_append_left _ hmem'', heq⟩
    . have : t ∈ firedTimers es := mem_firedTimers.mpr ⟨clock, hmem'⟩
      rw [hes] at this
      contradiction
  . rw [hfired, htimers]
    exact h.nodup
  . rw [hfired, htimers]
    exact h.fired_le
  . rw [hfired]
    exact h.ordered

theorem Inv.addTimer {timeout : Int} (h : s.Inv tr) (hnonneg : 0 ≤ timeout) (hlt : timeout < 2 ^ 63)
    : Inv { s with timers := s.timers.addTimer s.clock timeout s.calls, calls := s.calls + 1 }
        (tr ++ [.added s.calls s.clock timeout]) := by
  have hclock := h.clock_lt
  have hexec : ((Timer.new s.clock (Timer.toUInt64 timeout) s.calls).execMsec : Int)
    = s.clock + timeout := by
    simp only [Timer.new, Timer.toUInt64]
    omega
  have hfired : firedTimers (tr ++ [.added s.calls s.clock timeout]) = firedTimers tr := by
    rw [firedTimers_append]
    exact List.append_nil _
  have hmem (call now : Nat) (timeout' : Int)
    (hmem : .added call now timeout' ∈ tr ++ [.added s.calls s.clock timeout])
      : .added call now timeout' ∈ tr ∨ call = s.calls ∧ now = s.clock ∧ timeout' = timeout := by
    rcases List.mem_append.mp hmem with hmem | hmem
    . exact .inl hmem
    . rw [List.mem_singleton] at hmem
      injection hmem with hcall hnow htimeout
      exact .inr ⟨hcall, hnow, htimeout⟩
  constructor
  . exact hclock
  . exact h.frames_le
  . intro call now timeout' hmem'
    dsimp only
    rcases hmem _ _ _ hmem' with hmem' | hmem'
    . have := h.calls call now timeout' hmem'
      omega
    . omega
  . intro call now₁ timeout₁ now₂ timeout₂ h₁ h₂
    rcases hmem _ _ _ h₁ with h₁ | h₁
    . rcases hmem _ _ _ h₂ with h₂ | h₂
      . exact h.unique call now₁ timeout₁ now₂ timeout₂ h₁ h₂
      . have := h.calls _ _ _ h₁
        omega
    . rcases hmem _ _ _ h₂ with h₂ | h₂
      . have := h.calls _ _ _ h₂
        omega
      . omega
  . intro t ht
    rcases List.mem_append.mp ht with ht | ht
    . rcases h.origin t ht with ⟨now, timeout', hmem', hlt', hle, heq⟩
      exact ⟨now, timeout', List.mem_append_left _ hmem', hlt', hle, heq⟩
    . rw [List.mem_singleton] at ht
      subst ht
      exact ⟨s.clock, timeout, List.mem_append_right _ (List.mem_singleton_self _),
        hlt, Nat.le_refl _, hexec.symm⟩
  . intro t clock hmem'
    rcases List.mem_append.mp hmem' with hmem' | hmem'
    . rcases h.firedOrigin t clock hmem' with ⟨hle, hclock', now, timeout', hmem'', heq⟩
      exact ⟨hle, hclock', now, timeout', List.mem_append_left _ hmem'', heq⟩
    . simp at hmem'
  . rw [hfired]
    show ((firedTimers tr ++ (s.timers ++ [Timer.new s.clock (Timer.toUInt64 timeout) s.calls])).map
      _).Nodup
    rw [← List.append_assoc, List.map_append, List.nodup_append]
    refine ⟨h.nodup, List.nodup_singleton _, ?_⟩
    intro call hcall call' hcall'
    rw [List.map_singleton, List.mem_singleton] at hcall'
    rcases List.mem_map.mp hcall with ⟨t, ht, hdata⟩
    have hlt' : t.privateData < s.calls := by
      rcases List.mem_append.mp ht with ht | ht
      . rcases mem_firedTimers.mp ht with ⟨clock, ht⟩
        rcases h.firedOrigin t clock ht with ⟨_, _, now, timeout', hmem', _⟩
        exact h.calls _ _ _ hmem'
      . rcases h.origin t ht with ⟨now, timeout', hmem', _⟩
        exact h.calls _ _ _ hmem'
    rw [hcall', ← hdata]
    simp only [Timer.new]
    omega
  . rw [hfired]
    intro t ht t' ht'
    rcases List.mem_append.mp ht' with ht' | ht'
    . exact h.fired_le t ht t' ht'
    . rw [List.mem_singleton] at ht'
      subst ht'
      rcases mem_firedTimers.mp ht with ⟨clock, ht⟩
      have := h.firedOrigin t clock ht
      omega
  . rw [hfired]
    exact h.ordered

theorem Inv.fire {frame : Frame} {frames : List Frame} {top : Nat} {t : Timer Nat} (h : s.Inv tr)
    (hframes : s.frames = frame :: frames) (htop : s.timers[top]? = some t)
    (hmin : s.timers.IsTop t) (hdue : ¬frame.now < t.execMsec)
    : Inv { s with
        timers := s.timers.eraseIdx top, frames := { frame with inCallback := true } :: frames }
        (tr ++ [.fired t s.clock]) := by
  have hpending : t ∈ s.timers := List.mem_of_getElem? htop
  have hnow : frame.now ≤ s.clock := by
    apply h.frames_le
    rw [hframes]
    apply List.mem_cons_self
  have hfired : firedTimers (tr ++ [.fired t s.clock]) = firedTimers tr ++ [t] := by
    rw [firedTimers_append]
    rfl
  have hmem (call now : Nat) (timeout : Int)
    (hmem : .added call now timeout ∈ tr ++ [.fired t s.clock])
      : .added call now timeout ∈ tr := by
    rcases List.mem_append.mp hmem with hmem | hmem
    . exact hmem
    . simp at hmem
  constructor
  . exact h.clock_lt
  . intro frame' hframe'
    rcases List.mem_cons.mp hframe' with hframe' | hframe'
    . rw [hframe']
      exact hnow
    . apply h.frames_le
      rw [hframes]
      exact List.mem_cons_of_mem _ hframe'
  . intro call now timeout hmem'
    exact h.calls call now timeout (hmem _ _ _ hmem')
  . intro call now timeout now' timeout' h₁ h₂
    exact h.unique call now timeout now' timeout' (hmem _ _ _ h₁) (hmem _ _ _ h₂)
  . intro t' ht'
    rcases h.origin t' (List.mem_of_mem_eraseIdx ht') with ⟨now, timeout, hmem', hlt', hle, heq⟩
    exact ⟨now, timeout, List.mem_append_left _ hmem', hlt', hle, heq⟩
  . intro t' clock hmem'
    rcases List.mem_append.mp hmem' with hmem' | hmem'
    . rcases h.firedOrigin t' clock hmem' with ⟨hle, hclock', now, timeout, hmem'', heq⟩
      exact ⟨hle, hclock', now, timeout, List.mem_append_left _ hmem'', heq⟩
    . rw [List.mem_singleton] at hmem'
      injection hmem' with ht' hclock
      subst ht' hclock
      rcases h.origin t' hpending with ⟨now, timeout, hmem'', _, _, heq⟩
      exact ⟨by omega, Nat.le_refl _, now, timeout, List.mem_append_left _ hmem'', heq⟩
  . rcases List.getElem?_eq_some_iff.mp htop with ⟨hlt, hget⟩
    have hperm := List.getElem_cons_eraseIdx_perm hlt
    rw [hget] at hperm
    rw [hfired, List.append_assoc, List.singleton_append]
    exact ((hperm.append_left _).map _).nodup_iff.mpr h.nodup
  . rw [hfired]
    intro t₁ ht₁ t₂ ht₂
    have ht₂ := List.mem_of_mem_eraseIdx ht₂
    rcases List.mem_append.mp ht₁ with ht₁ | ht₁
    . exact h.fired_le t₁ ht₁ t₂ ht₂
    . rw [List.mem_singleton.mp ht₁]
      exact hmin t₂ ht₂
  . rw [hfired, List.pairwise_append]
    refine ⟨h.ordered, List.pairwise_singleton _ _, ?_⟩
    intro t₁ ht₁ t₂ ht₂
    rw [List.mem_singleton.mp ht₂]
    exact h.fired_le t₁ ht₁ t hpending

theorem step_inv {c : Cmd} (h : s.Inv tr) (hc : s.Admissible c) (hstep : s.step c = .ok (s', es))
    : s'.Inv (tr ++ es) := by
  have hclock := h.clock_lt
  cases Step.of_step hc hstep with
  | idle =>
    rw [List.append_nil]
    exact h
  | @tick now hle hlt =>
    apply Inv.quiet { s with clock := now } h rfl (by simp) hle hlt
    . intro frame hframe
      exact Nat.le_trans (h.frames_le frame hframe) hle
    . rfl
    . rfl
  | addTimer hnonneg hlt => exact h.addTimer hnonneg hlt
  | runTimers =>
    apply Inv.quiet { s with frames := ⟨s.clock, false⟩ :: s.frames } h rfl
      (by simp) (Nat.le_refl _) hclock
    . intro frame hframe
      rcases List.mem_cons.mp hframe with hframe | hframe
      . rw [hframe]
      . exact h.frames_le frame hframe
    . rfl
    . rfl
  | @returned frame frames hframes hdone =>
    apply Inv.quiet { s with frames := frames } h rfl (by simp) (Nat.le_refl _) hclock
    . intro frame' hframe'
      apply h.frames_le
      rw [hframes]
      exact List.mem_cons_of_mem _ hframe'
    . rfl
    . rfl
  | fired hframes htop hmin hdue => exact h.fire hframes htop hmin hdue
  | @ret frame frames hframes =>
    apply Inv.quiet { s with frames := { frame with inCallback := false } :: frames }
      h rfl (by simp)
      (Nat.le_refl _) hclock
    . intro frame' hframe'
      have hle := h.frames_le
      rw [hframes] at hle
      rcases List.mem_cons.mp hframe' with hframe' | hframe'
      . rw [hframe']
        exact hle frame List.mem_cons_self
      . exact hle frame' (List.mem_cons_of_mem _ hframe')
    . rfl
    . rfl

theorem run_inv (h : machine.Run Admissible tr s) : s.Inv tr := by
  apply h.invariant (I := fun tr s => s.Inv tr) inv_init
  intro tr s c s' es _ ih hc hstep
  exact step_inv ih hc hstep

theorem getNextTimeout_eq (h : s.Inv tr)
    : (s.timers.getNextTimeout s.clock = -1 ↔ s.timers = [])
      ∧ (s.timers ≠ [] → ∃ top ∈ s.timers, s.timers.IsTop top
        ∧ s.timers.getNextTimeout s.clock = max 0 ((top.execMsec : Int) - s.clock)) := by
  cases htop : s.timers.top? with
  | none =>
    have hnil := TimerManager.top?_eq_none.mp htop
    simp [hnil, TimerManager.getNextTimeout, TimerManager.top?]
  | some top =>
    rcases TimerManager.top?_eq_some htop with ⟨hmem, hmin⟩
    have hne : s.timers ≠ [] := List.ne_nil_of_mem hmem
    rcases h.origin top hmem with ⟨now, timeout, _, hlt, hle, heq⟩
    have hclock := h.clock_lt
    have hdiff : Timer.toInt64 ((top.execMsec + 2 ^ 64 - s.clock) % 2 ^ 64)
      = (top.execMsec : Int) - s.clock := by
      unfold Timer.toInt64
      split
      . omega
      . omega
    have hmax : s.timers.getNextTimeout s.clock = max 0 ((top.execMsec : Int) - s.clock) := by
      simp only [TimerManager.getNextTimeout, htop, hdiff]
      split
      . omega
      . omega
    refine ⟨?_, fun _ => ⟨top, hmem, hmin, hmax⟩⟩
    rw [hmax]
    exact ⟨fun h => by omega, fun h => absurd h hne⟩

theorem timer_semantics (h : machine.Run Admissible tr s) : s.Semantics tr := by
  have hinv := run_inv h
  constructor
  . have := hinv.nodup
    rw [List.map_append] at this
    exact this.of_append_left
  . intro t clock hmem
    rcases hinv.firedOrigin t clock hmem with ⟨_, _, now, timeout, hmem', _⟩
    exact ⟨now, timeout, hmem'⟩
  . intro t clock now timeout hmem hadded
    rcases hinv.firedOrigin t clock hmem with ⟨hle, _, now', timeout', hmem', heq⟩
    rcases hinv.unique _ _ _ _ _ hadded hmem' with ⟨hnow, htimeout⟩
    rw [hnow, htimeout]
    exact ⟨heq, hle⟩
  . exact hinv.ordered
  . intro c s' es now hc hstep hmem
    cases Step.of_step hc hstep with
    | @returned frame frames hframes hdone =>
      rw [List.mem_singleton] at hmem
      injection hmem with hnow
      rw [hnow]
      exact hdone
    | idle | tick | addTimer | runTimers | fired | ret => simp at hmem
  . exact getNextTimeout_eq hinv

-- A timer that has been added last runs first, and its callback adds one that is already due.
def threeTimers : List Cmd :=
  [.addTimer 5, .tick 3, .addTimer 0, .runTimers, .loop 1, .addTimer 0, .ret,
    .loop 1, .ret, .loop 0, .tick 7,
    .runTimers, .loop 0, .ret, .loop 0]

theorem threeTimers_semantics
    : ∃ tr s, machine.Run Admissible tr s ∧ (firedTimers tr).map (·.execMsec) = [3, 3, 5]
        ∧ s.Semantics tr := by
  have hexec
    : (machine.exec Admissible threeTimers).map (fun r => (firedTimers r.2).map (·.execMsec))
      = some [3, 3, 5] := by decide +kernel
  rcases Option.map_eq_some_iff.mp hexec with ⟨⟨s, tr⟩, hrun, hfired⟩
  have hrun := Machine.run_of_exec hrun
  exact ⟨tr, s, hrun, hfired, timer_semantics hrun⟩

end Drain
end Fsw

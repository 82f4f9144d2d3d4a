import Fsw.Coroutine.Impl.Defer
import Fsw.Coroutine.Lemmas.Runtime
import Fsw.Lib.Except

namespace Fsw
namespace Defer

structure Stage where
  pending : List Task
  running : Option Task

def Point.running : Point → Option Task
  | .user task => task
  | .loop => none

@[ext]
structure View where
  stage : Int → Option Stage
  lastCid : Int
  calls : Nat

def View.get (v : View) (cid : Int) : Stage :=
  (v.stage cid).getD ⟨[], none⟩

def View.set (v : View) (cid : Int) (st : Stage) : View :=
  { v with stage := Function.update v.stage cid (some st) }

inductive Act (v : View) : List Event → View → Prop where
  | quiet : Act v [] v
  | create : Act v [] { v.set (v.lastCid + 1) ⟨[], none⟩ with lastCid := v.lastCid + 1 }
  | register {cid : Int} {st : Stage} {fn : Addr} {args : Option Addr} (hst : v.stage cid = some st)
      : Act v [.registered (some cid) cid ⟨v.calls, fn, args⟩]
          { v.set cid { st with pending := ⟨v.calls, fn, args⟩ :: st.pending } with
            calls := v.calls + 1 }
  | start {cid : Int} {task : Task} {tasks : List Task}
      (hst : v.stage cid = some ⟨task :: tasks, none⟩)
      : Act v [.started cid task] (v.set cid ⟨tasks, some task⟩)
  | ret {cid : Int} {task : Task} {tasks : List Task} (hst : v.stage cid = some ⟨tasks, some task⟩)
      : Act v [.returned cid task] (v.set cid ⟨tasks, none⟩)
  | finish {cid : Int} (hst : v.stage cid = some ⟨[], none⟩)
      : Act v [.finished cid] { v with stage := Function.update v.stage cid none }

def stageAt (s : Defer) (p : Addr) : Stage :=
  ⟨(s.deferTasks p).getD [], (s.point (some p)).running⟩

def view (s : Defer) : View where
  stage := fun cid => (s.rt.coroutines cid).map s.stageAt
  lastCid := s.rt.lastCid
  calls := s.calls

section View

variable {s s' : Defer} {l : List Addr} {p : Addr} {co : Coroutine}

theorem stage_of_heap (h : s.rt.Inv l) (hco : s.rt.heap p = some co)
    : s.view.stage co.cid = some (s.stageAt p) := by
  have hreg := (h.registered co.cid p).mpr ⟨co, hco, rfl⟩
  simp only [view, hreg, Option.map_some]

theorem coroutines_ne {cid : Int} (h : s.rt.Inv l) (hco : s.rt.heap p = some co)
    (hcid : cid ≠ co.cid)
    : s.rt.coroutines cid ≠ some p := by
  intro hreg
  rcases (h.registered cid p).mp hreg with ⟨co', hco', hcid'⟩
  rw [hco] at hco'
  injection hco' with hco'
  exact hcid (by rw [hco', hcid'])

section Other

variable (hother : ∀ q, q ≠ p → s'.stageAt q = s.stageAt q)
include hother

theorem map_stageAt {reg : Option Addr} (hreg : reg ≠ some p)
    : reg.map s'.stageAt = reg.map s.stageAt := by
  cases reg with
  | none => rfl
  | some q => rw [Option.map_some, Option.map_some, hother q (fun hq => hreg (by rw [hq]))]

theorem view_set {st : Stage} (h : s.rt.Inv l) (hco : s.rt.heap p = some co) (hrt : s'.rt = s.rt)
    (hst : s'.stageAt p = st)
    : s'.view = { s.view.set co.cid st with calls := s'.calls } := by
  refine View.ext ?_ (by rw [view, hrt]; rfl) rfl
  funext cid
  simp only [view, View.set, hrt]
  by_cases hcid : cid = co.cid
  . subst hcid
    have hp := (h.registered co.cid p).mpr ⟨co, hco, rfl⟩
    rw [hp, Option.map_some, Function.update_self, hst]
  . rw [Function.update_of_ne hcid]
    exact map_stageAt hother (coroutines_ne h hco hcid)

theorem view_create {st : Stage} (h : s.rt.Inv l) (hp : s.rt.heap p = none)
    (hreg : s'.rt.coroutines = Function.update s.rt.coroutines (s.rt.lastCid + 1) (some p))
    (hlast : s'.rt.lastCid = s.rt.lastCid + 1) (hcalls : s'.calls = s.calls)
    (hst : s'.stageAt p = st)
    : s'.view = { s.view.set (s.view.lastCid + 1) st with lastCid := s.view.lastCid + 1 } := by
  refine View.ext ?_ hlast hcalls
  funext cid
  simp only [view, View.set, hreg]
  by_cases hcid : cid = s.rt.lastCid + 1
  . subst hcid
    rw [Function.update_self, Function.update_self, Option.map_some, hst]
  . rw [Function.update_of_ne hcid, Function.update_of_ne hcid]
    apply map_stageAt hother
    intro hq
    rcases (h.registered cid p).mp hq with ⟨co, hco, _⟩
    rw [hp] at hco
    contradiction

theorem view_finish (h : s.rt.Inv l) (hco : s.rt.heap p = some co)
    (hreg : s'.rt.coroutines = Function.update s.rt.coroutines co.cid none)
    (hlast : s'.rt.lastCid = s.rt.lastCid) (hcalls : s'.calls = s.calls)
    : s'.view = { s.view with stage := Function.update s.view.stage co.cid none } := by
  refine View.ext ?_ hlast hcalls
  funext cid
  simp only [view, hreg]
  by_cases hcid : cid = co.cid
  . subst hcid
    rw [Function.update_self, Function.update_self, Option.map_none]
  . rw [Function.update_of_ne hcid, Function.update_of_ne hcid]
    exact map_stageAt hother (coroutines_ne h hco hcid)

end Other

end View

section Stage

variable {s : Defer} {p q : Addr}

theorem setTasks_stageAt {tasks : Option (List Task)} (hq : q ≠ p)
    : (s.setTasks p tasks).stageAt q = s.stageAt q := by
  simp only [stageAt, setTasks, Function.update_of_ne hq]

theorem setTasks_stageAt_self {tasks : Option (List Task)}
    : (s.setTasks p tasks).stageAt p = ⟨tasks.getD [], (s.point (some p)).running⟩ := by
  simp only [stageAt, setTasks, Function.update_self]

variable (hstack : s.rt.stack = some p)
include hstack

theorem goto_stageAt {pt : Point} (hq : q ≠ p) : (s.goto pt).stageAt q = s.stageAt q := by
  have hne : some q ≠ some p := fun h => hq (Option.some.inj h)
  simp only [stageAt, goto, hstack, Function.update_of_ne hne]

theorem goto_stageAt_self {pt : Point}
    : (s.goto pt).stageAt p = ⟨(s.deferTasks p).getD [], pt.running⟩ := by
  simp only [stageAt, goto, hstack, Function.update_self]

theorem stageAt_here : s.stageAt p = ⟨(s.deferTasks p).getD [], s.here.running⟩ := by
  rw [stageAt, here, hstack]

end Stage

section Step

variable {s s' : Defer} {l : List Addr} {p : Addr} {es : List Event}

inductive Step (s : Defer) : List Event → Defer → Prop where
  | idle : Step s [] s
  | create {task : Option Task} {p : Addr} {rt : Runtime} (hhere : s.here = .user task)
      (hp : s.rt.heap p = none) (hrt : s.rt.create p = .ok rt)
      : Step s []
          ({ s with
            rt := rt
            point := Function.update s.point (some p) (.user none) }.setTasks p none)
  | switch {task : Option Task} {rt : Runtime} {l : List Addr} (hhere : s.here = .user task)
      (hinv : rt.Inv l) (hsame : Runtime.Same s.rt rt)
      : Step s [] { s with rt := rt }
  | defer {p : Addr} {co : Coroutine} {fn : Addr} {args : Option Addr}
      (hcurrent : s.rt.current = some p) (hco : s.rt.heap p = some co)
      : Step s [.registered (s.rt.stack.bind s.cid?) co.cid ⟨s.calls, fn, args⟩]
          ({ s with calls := s.calls + 1 }.setTasks p
            (some (⟨s.calls, fn, args⟩ :: (s.deferTasks p).getD [])))
  | retBody {p : Addr} (hstack : s.rt.stack = some p) (hhere : s.here = .user none)
      : Step s [] (s.goto .loop)
  | retTask {p : Addr} {co : Coroutine} {task : Task} (hstack : s.rt.stack = some p)
      (hhere : s.here = .user (some task)) (hco : s.rt.heap p = some co)
      : Step s [.returned co.cid task] (s.goto .loop)
  | start {p : Addr} {co : Coroutine} {task : Task} {tasks : List Task}
      (hstack : s.rt.stack = some p) (hhere : s.here = .loop) (hco : s.rt.heap p = some co)
      (htasks : s.deferTasks p = some (task :: tasks))
      : Step s [.started co.cid task] ((s.setTasks p (some tasks)).goto (.user (some task)))
  | finish {p : Addr} {co : Coroutine} {rt : Runtime} (hstack : s.rt.stack = some p)
      (hhere : s.here = .loop) (hco : s.rt.heap p = some co)
      (htasks : (s.deferTasks p).getD [] = []) (hrt : s.rt.finish p = .ok rt)
      : Step s [.finished co.cid] { s.setTasks p none with rt := rt }

theorem deref_ok {rt : Runtime} {co : Coroutine} (h : rt.deref p = .ok co)
    : rt.heap p = some co := by
  unfold Runtime.deref at h
  split at h
  . next hco =>
    injection h with h
    rw [hco, h]
  . contradiction

theorem finish_ok (hok : s.finish p = .ok (s', es))
    : ∃ co rt, s.rt.heap p = some co ∧ s.rt.finish p = .ok rt ∧ s' = { s with rt := rt }
        ∧ es = [.finished co.cid] := by
  rcases bind_eq_ok hok with ⟨co, hco, heq⟩
  rcases bind_eq_ok heq with ⟨rt, hrt, heq⟩
  obtain ⟨hs', hes⟩ := ok_pair heq
  exact ⟨co, rt, deref_ok hco, hrt, hs'.symm, hes.symm⟩

theorem step_of_executeDeferTasks (hstack : s.rt.stack = some p) (hhere : s.here = .loop)
    (hok : s.executeDeferTasks p = .ok (s', es))
    : Step s es s' := by
  unfold executeDeferTasks at hok
  split at hok
  . next htasks =>
    rcases finish_ok hok with ⟨co, rt, hco, hrt, rfl, rfl⟩
    have hs : s.setTasks p none = s := by
      rw [setTasks, ← htasks, Function.update_eq_self]
    have hstep := Step.finish hstack hhere hco (by rw [htasks]; rfl) hrt
    rw [hs] at hstep
    exact hstep
  . next htasks =>
    rcases finish_ok hok with ⟨co, rt, hco, hrt, rfl, rfl⟩
    exact .finish hstack hhere hco (by rw [htasks]; rfl) hrt
  . next htasks =>
    rcases bind_eq_ok hok with ⟨co, hco, heq⟩
    obtain ⟨rfl, rfl⟩ := ok_pair heq
    exact .start hstack hhere (deref_ok hco) htasks

theorem step_of_userStep {task : Option Task} {c : Cmd} (h : s.rt.Inv l)
    (hhere : s.here = .user task) (hok : s.userStep task c = .ok (s', es))
    : Step s es s' := by
  cases c with
  | create p =>
    rcases bind_eq_ok hok with ⟨t, ht, heq⟩
    obtain ⟨rfl, rfl⟩ := ok_pair heq
    unfold create at ht
    split at ht
    . next hp =>
      rcases bind_eq_ok ht with ⟨rt, hrt, heq⟩
      injection heq with hs'
      rw [← hs']
      exact .create hhere hp hrt
    . injection ht with hs'
      rw [← hs']
      exact .idle
  | yield =>
    rcases bind_eq_ok hok with ⟨rt, hrt, heq⟩
    obtain ⟨rfl, rfl⟩ := ok_pair heq
    rcases h.yield_ok hrt with ⟨_, _, _, hinv, hsame⟩
    exact .switch hhere hinv hsame
  | resume p =>
    rcases bind_eq_ok hok with ⟨rt, hrt, heq⟩
    obtain ⟨rfl, rfl⟩ := ok_pair heq
    rcases h.resume_ok hrt with ⟨_, hinv, hsame⟩
    exact .switch hhere hinv hsame
  | resumeCid cid =>
    rcases bind_eq_ok hok with ⟨rt, hrt, heq⟩
    obtain ⟨rfl, rfl⟩ := ok_pair heq
    unfold Runtime.resumeCid at hrt
    split at hrt
    . contradiction
    . rcases h.resume_ok hrt with ⟨_, hinv, hsame⟩
      exact .switch hhere hinv hsame
  | defer fn args =>
    dsimp only [userStep, Defer.defer] at hok
    split at hok
    . contradiction
    . next hcurrent =>
      rcases bind_eq_ok hok with ⟨co, hco, heq⟩
      obtain ⟨rfl, rfl⟩ := ok_pair heq
      exact .defer hcurrent (deref_ok hco)
  | ret =>
    dsimp only [userStep] at hok
    split at hok
    . obtain ⟨rfl, rfl⟩ := ok_pair hok
      exact .idle
    . next hstack =>
      cases task with
      | none =>
        obtain ⟨rfl, rfl⟩ := ok_pair hok
        exact .retBody hstack hhere
      | some task =>
        rcases bind_eq_ok hok with ⟨co, hco, heq⟩
        obtain ⟨rfl, rfl⟩ := ok_pair heq
        exact .retTask hstack hhere (deref_ok hco)
  | go =>
    obtain ⟨rfl, rfl⟩ := ok_pair hok
    exact .idle

theorem Step.of_step {c : Cmd} (h : s.rt.Inv l) (hok : s.step c = .ok (s', es)) : Step s es s' := by
  unfold step at hok
  cases hhere : s.here with
  | loop =>
    rw [hhere] at hok
    split at hok
    . contradiction
    . next hstack => exact step_of_executeDeferTasks hstack hhere hok
    . obtain ⟨rfl, rfl⟩ := ok_pair hok
      exact .idle
  | user task =>
    rw [hhere] at hok
    exact step_of_userStep h hhere hok

theorem Step.inv (h : s.rt.Inv l) (hstep : Step s es s') : ∃ l', s'.rt.Inv l' := by
  cases hstep with
  | idle => exact ⟨l, h⟩
  | create _ hp hrt => exact ⟨_, (h.create_ok hp hrt).1⟩
  | switch _ hinv _ => exact ⟨_, hinv⟩
  | defer _ _ => exact ⟨l, h⟩
  | retBody _ _ => exact ⟨l, h⟩
  | retTask _ _ _ => exact ⟨l, h⟩
  | start _ _ _ _ => exact ⟨l, h⟩
  | finish hstack _ _ _ hrt =>
    rcases h.finish_ok hstack hrt with ⟨l', _, hinv, _⟩
    exact ⟨l', hinv⟩

end Step

section Act

variable {s s' : Defer} {l : List Addr} {es : List Event}

theorem view_eq (hreg : s'.rt.coroutines = s.rt.coroutines) (hlast : s'.rt.lastCid = s.rt.lastCid)
    (hcalls : s'.calls = s.calls) (hstage : ∀ q, s'.stageAt q = s.stageAt q)
    : s'.view = s.view := by
  have hstageAt : s'.stageAt = s.stageAt := funext hstage
  rw [view, view, hreg, hlast, hstageAt, hcalls]

theorem Step.act (h : s.rt.Inv l) (hstep : Step s es s') : Act s.view es s'.view := by
  cases hstep with
  | idle => exact .quiet
  | @create _ p rt _ hp hrt =>
    generalize hs' : setTasks _ p none = s'
    rcases h.create_ok hp hrt with ⟨_, _, hlast, hreg⟩
    have hother : ∀ q, q ≠ p → s'.stageAt q = s.stageAt q := by
      intro q hq
      have hne : some q ≠ some p := fun h => hq (Option.some.inj h)
      rw [← hs', setTasks_stageAt hq]
      simp only [stageAt, Function.update_of_ne hne]
    have hst : s'.stageAt p = ⟨[], none⟩ := by
      rw [← hs', setTasks_stageAt_self]
      simp only [Function.update_self]
      rfl
    rw [view_create hother h hp (hs' ▸ hreg) (hs' ▸ hlast) (hs' ▸ rfl) hst]
    exact .create
  | @switch _ rt _ _ _ hsame =>
    have hview : view { s with rt := rt } = s.view :=
      view_eq hsame.coroutines hsame.lastCid rfl (fun _ => rfl)
    rw [hview]
    exact .quiet
  | @defer p co fn args hcurrent hco =>
    generalize hs' : setTasks _ p _ = s'
    have hstack : s.rt.stack = some p := by rw [h.stack, ← h.current, hcurrent]
    have hcaller : s.rt.stack.bind s.cid? = some co.cid := by
      rw [hstack, Option.bind_some, cid?, hco, Option.map_some]
    have hother : ∀ q, q ≠ p → s'.stageAt q = s.stageAt q := by
      intro q hq
      rw [← hs', setTasks_stageAt hq]
      rfl
    have hst : s'.stageAt p
      = { s.stageAt p with pending := ⟨s.calls, fn, args⟩ :: (s.stageAt p).pending } := by
      rw [← hs', setTasks_stageAt_self]
      rfl
    rw [hcaller, view_set hother h hco (hs' ▸ rfl) hst, ← hs']
    exact .register (stage_of_heap h hco)
  | @retBody p hstack hhere =>
    have hstage : ∀ q, (s.goto .loop).stageAt q = s.stageAt q := by
      intro q
      by_cases hq : q = p
      . rw [hq, goto_stageAt_self hstack, stageAt_here hstack, hhere]
        rfl
      . exact goto_stageAt hstack hq
    have hview : (s.goto .loop).view = s.view := view_eq rfl rfl rfl hstage
    rw [hview]
    exact .quiet
  | @retTask p co task hstack hhere hco =>
    have hother : ∀ q, q ≠ p → (s.goto .loop).stageAt q = s.stageAt q :=
      fun q hq => goto_stageAt hstack hq
    rw [view_set hother h hco rfl (goto_stageAt_self hstack)]
    refine .ret ?_
    rw [stage_of_heap h hco, stageAt_here hstack, hhere]
    rfl
  | @start p co task tasks hstack hhere hco htasks =>
    generalize hs' : goto _ _ = s'
    have hstack' : (s.setTasks p (some tasks)).rt.stack = some p := hstack
    have hother : ∀ q, q ≠ p → s'.stageAt q = s.stageAt q := by
      intro q hq
      rw [← hs', goto_stageAt hstack' hq, setTasks_stageAt hq]
    have hst : s'.stageAt p = ⟨tasks, some task⟩ := by
      rw [← hs', goto_stageAt_self hstack']
      simp only [setTasks, Function.update_self]
      rfl
    rw [view_set hother h hco (hs' ▸ rfl) hst, ← hs']
    refine .start ?_
    rw [stage_of_heap h hco, stageAt_here hstack, hhere, htasks]
    rfl
  | @finish p co rt hstack hhere hco htasks hrt =>
    rcases h.finish_ok hstack hrt with ⟨l', rfl, _⟩
    rcases h.finish with ⟨rt', co', hco', hrt', _, _, hlast, hreg⟩
    rw [hco] at hco'
    injection hco' with hco'
    rw [hrt] at hrt'
    injection hrt' with hrt'
    subst hco' hrt'
    generalize hs' : ({ s.setTasks p none with rt := rt } : Defer) = s'
    have hother : ∀ q, q ≠ p → s'.stageAt q = s.stageAt q := by
      intro q hq
      rw [← hs']
      exact setTasks_stageAt hq
    rw [view_finish hother h hco (hs' ▸ hreg) (hs' ▸ hlast) (hs' ▸ rfl)]
    refine .finish ?_
    rw [stage_of_heap h hco, stageAt_here hstack, hhere, htasks]
    rfl

end Act

end Defer
end Fsw

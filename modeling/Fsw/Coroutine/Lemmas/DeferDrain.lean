import Fsw.Coroutine.Lemmas.DeferOrder

namespace Fsw
namespace Defer

inductive Code where
  | done
  | yield (rest : Code)
  | defer (fn : Addr) (args : Option Addr) (task : Code) (rest : Code)

def Code.size : Code → Nat
  | .done => 1
  | .yield rest => rest.size + 1
  | .defer _ _ task rest => task.size + rest.size + 1

def Code.sizes : List Code → Nat
  | [] => 0
  | code :: codes => code.size + Code.sizes codes

def script (p : Addr) (code : Code) (codes : List Code) : List Cmd :=
  match code, codes with
  | .done, [] => [.ret, .go]
  | .done, code :: codes => .ret :: .go :: script p code codes
  | .yield rest, codes => .yield :: .resume p :: script p rest codes
  | .defer fn args task rest, codes => .defer fn args :: script p rest (task :: codes)
  termination_by code.size + Code.sizes codes
  decreasing_by
    all_goals
      simp only [Code.size, Code.sizes]
      omega

def Exists (rt : Runtime) (q : Option Addr) : Prop :=
  ∀ p, q = some p → rt.Live p

def Elsewhere (s : Defer) : Prop :=
  ∀ q, q ≠ s.rt.stack → Exists s.rt q → ∃ task, s.point q = .user task

section Elsewhere

variable {s s' : Defer} {l : List Addr} {task : Option Task} {es : List Event}

theorem Elsewhere.all {q : Option Addr} (h : s.Elsewhere) (hhere : s.here = .user task)
    (hq : Exists s.rt q)
    : ∃ task, s.point q = .user task := by
  by_cases hstack : q = s.rt.stack
  . rw [hstack]
    exact ⟨task, hhere⟩
  . exact h q hstack hq

theorem Elsewhere.goto {pt : Point} (h : s.Elsewhere) : (s.goto pt).Elsewhere := by
  intro q hq hlive
  have hpoint : (s.goto pt).point q = s.point q := Function.update_of_ne hq _ _
  rw [hpoint]
  exact h q hq hlive

theorem Step.elsewhere (h : s.Elsewhere) (hinv : s.rt.Inv l) (hstep : Step s es s')
    : s'.Elsewhere := by
  cases hstep with
  | idle => exact h
  | @create _ p rt hhere hp hrt =>
    rcases hinv.create_ok hp hrt with ⟨_, hlive, _⟩
    intro q _ hq
    dsimp only [setTasks]
    by_cases hqp : q = some p
    . rw [hqp, Function.update_self]
      exact ⟨none, rfl⟩
    . rw [Function.update_of_ne hqp]
      apply h.all hhere
      rintro r rfl
      rcases (hlive r).mp (hq r rfl) with hr | rfl
      . exact hr
      . contradiction
  | switch hhere _ hsame =>
    intro q _ hlive
    exact h.all hhere (fun p hp => (hsame.live p).mp (hlive p hp))
  | defer _ _ => exact h
  | retBody _ _ => exact h.goto
  | retTask _ _ _ => exact h.goto
  | start _ _ _ _ => exact Elsewhere.goto (s := s.setTasks _ _) h
  | @finish p _ _ hstack _ _ _ hrt =>
    rcases hinv.finish_ok hstack hrt with ⟨_, _, _, hlive⟩
    intro q _ hq
    have hqp : q ≠ some p := by
      rintro rfl
      exact ((hlive p).mp (hq p rfl)).2 rfl
    apply h q (by rw [hstack]; exact hqp)
    intro r hr
    exact ((hlive r).mp (hq r hr)).1

theorem run_elsewhere {P : Defer → Cmd → Prop} {tr : List Event} (h : machine.Run P tr s)
    : s.Elsewhere := by
  apply h.invariant (I := fun _ s => s.Elsewhere)
  . exact fun _ _ _ => ⟨none, rfl⟩
  . intro tr s c s' es hrun he _ hstep
    rcases run_hist hrun with ⟨⟨l, hinv⟩, _⟩
    exact (Step.of_step hinv hstep).elsewhere he hinv

end Elsewhere

section Drain

variable {s : Defer} {l : List Addr} {p : Addr} {cid : Int} {task : Option Task} {tr : List Event}

theorem ret_step (h : s.rt.Inv (p :: l)) (hhere : s.here = .user task)
    : ∃ es, s.step .ret = .ok (s.goto .loop, es) := by
  have hstack : s.rt.stack = some p := h.stack
  rcases h.active with ⟨co, hco, _⟩
  cases task with
  | none =>
    refine ⟨[], ?_⟩
    simp only [step, hhere, userStep, hstack, ret]
  | some task =>
    refine ⟨[.returned co.cid task], ?_⟩
    simp only [step, hhere, userStep, hstack, ret, Runtime.deref, hco]
    rfl

theorem start_step {task : Task} {tasks : List Task} (h : s.rt.Inv (p :: l))
    (hhere : s.here = .loop) (htasks : s.deferTasks p = some (task :: tasks))
    : ∃ es, s.step .go = .ok ((s.setTasks p (some tasks)).goto (.user (some task)), es) := by
  have hstack : s.rt.stack = some p := h.stack
  rcases h.active with ⟨co, hco, _⟩
  refine ⟨[.started co.cid task], ?_⟩
  simp only [step, hhere, hstack, executeDeferTasks, htasks, Runtime.deref, hco]
  rfl

theorem finish_step (h : s.rt.Inv (p :: l)) (hcid : s.cid? p = some cid) (hhere : s.here = .loop)
    (htasks : (s.deferTasks p).getD [] = [])
    : ∃ s', s.step .go = .ok (s', [.finished cid]) := by
  have hstack : s.rt.stack = some p := h.stack
  have hstep : s.step .go = s.executeDeferTasks p := by
    simp only [step, hhere, hstack]
  have hfinish : ∀ co : Coroutine, s.rt.heap p = some co → co.cid = cid := by
    intro co hco
    rw [cid?, hco, Option.map_some, Option.some.injEq] at hcid
    exact hcid
  rw [hstep]
  unfold executeDeferTasks
  split
  . rcases finish_eq h with ⟨co, s', hco, hok⟩
    rw [hfinish co hco] at hok
    exact ⟨s', hok⟩
  . rcases finish_eq (s := s.setTasks p none) h with ⟨co, s', hco, hok⟩
    rw [hfinish co hco] at hok
    exact ⟨s', hok⟩
  . next htasks' =>
    rw [htasks'] at htasks
    contradiction

theorem pause_steps (h : s.rt.Inv (p :: l)) (he : s.Elsewhere) (hhere : s.here = .user task)
    : ∃ rt rt', s.step .yield = .ok ({ s with rt := rt }, [])
        ∧ step { s with rt := rt } (.resume p) = .ok ({ s with rt := rt' }, [])
        ∧ rt'.Inv (p :: l) ∧ Runtime.Same s.rt rt' := by
  rcases h.yield with ⟨rt, hyield, hinv, hsame⟩
  have hp : rt.Suspended p := (h.suspended_leave hinv hsame).mpr (.inr rfl)
  rcases hinv.resume hp with ⟨rt', hresume, hinv', hsame'⟩
  have hexists : Exists s.rt rt.stack := by
    intro q hq
    rw [hinv.stack] at hq
    exact (hsame.live q).mp (hinv.linked.live q (List.mem_of_mem_head? hq))
  rcases he.all hhere hexists with ⟨task', hpoint⟩
  have hhere' : here { s with rt := rt } = .user task' := hpoint
  refine ⟨rt, rt', ?_, ?_, hinv', hsame.trans hsame'⟩
  . simp only [step, hhere, userStep, hyield]
    rfl
  . simp only [step, hhere', userStep, hresume]
    rfl

theorem defer_step {fn : Addr} {args : Option Addr} (h : s.rt.Inv (p :: l))
    (hhere : s.here = .user task)
    : ∃ es, s.step (.defer fn args)
        = .ok ({ s with calls := s.calls + 1 }.setTasks p
          (some (⟨s.calls, fn, args⟩ :: (s.deferTasks p).getD [])),
            es) := by
  have hcurrent : s.rt.current = some p := h.current
  rcases h.active with ⟨co, hco, _⟩
  refine ⟨[.registered (s.rt.stack.bind s.cid?) co.cid ⟨s.calls, fn, args⟩], ?_⟩
  simp only [step, hhere, userStep, Defer.defer, hcurrent, Runtime.deref, hco]
  rfl

theorem exists_task {n : Nat} (h : ((s.deferTasks p).getD []).length = n + 1)
    : ∃ task tasks, s.deferTasks p = some (task :: tasks) := by
  match htasks : s.deferTasks p with
  | none =>
    rw [htasks] at h
    contradiction
  | some [] =>
    rw [htasks] at h
    contradiction
  | some (task :: tasks) => exact ⟨task, tasks, rfl⟩

theorem script_ends {code : Code} {codes : List Code} (h : s.rt.Inv (p :: l))
    (hcid : s.cid? p = some cid) (he : s.Elsewhere) (hhere : s.here = .user task)
    (hlength : ((s.deferTasks p).getD []).length = codes.length)
    : ∃ s' tr', machine.execFrom (fun _ _ => True) s tr (script p code codes) = some (s', tr')
        ∧ .finished cid ∈ tr' := by
  induction code, codes using script.induct generalizing s task tr with
  | case1 =>
    rcases ret_step h hhere with ⟨es, hret⟩
    have hloop : (s.goto .loop).here = .loop := Function.update_self _ _ _
    rcases finish_step (s := s.goto .loop) h hcid hloop (List.eq_nil_of_length_eq_zero hlength) with
      ⟨s', hfinish⟩
    refine ⟨s', (tr ++ es) ++ [.finished cid], ?_, by simp⟩
    rw [script, Machine.execFrom_cons trivial hret, Machine.execFrom_cons trivial hfinish]
    rfl
  | case2 code codes ih =>
    rcases ret_step h hhere with ⟨es, hret⟩
    have hloop : (s.goto .loop).here = .loop := Function.update_self _ _ _
    rcases exists_task hlength with ⟨t, ts, htasks⟩
    rcases start_step (s := s.goto .loop) h hloop htasks with ⟨es', hstart⟩
    have hhere' : (((s.goto .loop).setTasks p (some ts)).goto (.user (some t))).here
      = .user (some t) :=
      Function.update_self _ _ _
    rw [script, Machine.execFrom_cons trivial hret, Machine.execFrom_cons trivial hstart]
    refine ih h hcid (Elsewhere.goto (s := (s.goto .loop).setTasks p (some ts)) he.goto) hhere' ?_
    rw [htasks] at hlength
    simp only [goto, setTasks, Function.update_self, Option.getD_some]
    exact Nat.succ.inj hlength
  | case3 rest codes ih =>
    rcases pause_steps h he hhere with ⟨rt, rt', hyield, hresume, hinv, hsame⟩
    have hcid' : cid? { s with rt := rt' } p = some cid := (hsame.cid p).trans hcid
    have he' : Elsewhere { s with rt := rt' } := by
      intro q _ hexists
      exact he.all hhere (fun r hr => (hsame.live r).mp (hexists r hr))
    have hhere' : here { s with rt := rt' } = .user task := by
      have hstack : rt'.stack = s.rt.stack := by rw [hinv.stack, h.stack]
      change s.point rt'.stack = _
      rw [hstack]
      exact hhere
    rw [script, Machine.execFrom_cons trivial hyield, Machine.execFrom_cons trivial hresume]
    exact ih hinv hcid' he' hhere' hlength
  | case4 fn args child rest codes ih =>
    rcases @defer_step s l p task fn args h hhere with ⟨es, hdefer⟩
    rw [script, Machine.execFrom_cons trivial hdefer]
    refine ih h hcid he hhere ?_
    simp only [setTasks, Function.update_self, Option.getD_some, List.length_cons, hlength]

/--
Deferred tasks are executed exactly once, the last one first and all of them before the coroutine
ends, whatever the coroutines do. A coroutine with finitely much to do ends.
-/
theorem deferred_tasks (tr : List Event) (s : Defer) (h : machine.Run (fun _ _ => True) tr s)
    : Lifo tr s
      ∧ ∀ p cid code codes, s.rt.stack = some p → s.cid? p = some cid → s.here ≠ .loop →
        ((s.deferTasks p).getD []).length = codes.length →
        ∃ s' tr', machine.execFrom (fun _ _ => True) s tr (script p code codes) = some (s', tr')
          ∧ .finished cid ∈ tr' := by
  refine ⟨run_lifo h, ?_⟩
  intro p cid code codes hstack hcid hhere hlength
  rcases run_hist h with ⟨⟨l, hinv⟩, _⟩
  have hl : ∃ l', l = p :: l' := by
    rw [hinv.stack] at hstack
    exact List.head?_eq_some_iff.mp hstack
  rcases hl with ⟨l', rfl⟩
  cases hpoint : s.here with
  | loop => contradiction
  | user task => exact script_ends hinv hcid (run_elsewhere h) hpoint hlength

-- The first task that is started registers another one and yields, and another coroutine has a task
-- in the meantime.
def nestedTasks : List Cmd :=
  [.create 1, .defer 10 none, .defer 11 none, .ret, .go, .defer 12 none, .yield,
    .create 2, .defer 20 none, .ret, .go,
    .ret, .go, .resume 1, .ret, .go, .ret, .go, .ret, .go]

theorem deferred_tasks_nested
    : ∃ tr s, machine.Run (fun _ _ => True) tr s
        ∧ (started tr 1).map (·.fn) = [11, 12, 10] ∧ (started tr 2).map (·.fn) = [20]
        ∧ (registered tr 1).map (·.fn) = [10, 11, 12] ∧ .finished 1 ∈ tr ∧ Lifo tr s := by
  have hexec : (machine.exec (fun _ _ => True) nestedTasks).map
      (fun r => ((started r.2 1).map (·.fn), (started r.2 2).map (·.fn),
        (registered r.2 1).map (·.fn),
        decide (.finished 1 ∈ r.2)))
      = some ([11, 12, 10], [20], [10, 11, 12], true) := by
    rfl
  rcases Option.map_eq_some_iff.mp hexec with ⟨⟨s, tr⟩, he, heq⟩
  simp only [Prod.mk.injEq, decide_eq_true_eq] at heq
  have h := Machine.run_of_exec he
  exact ⟨tr, s, h, heq.1, heq.2.1, heq.2.2.1, heq.2.2.2, (deferred_tasks tr s h).1⟩

end Drain

end Defer
end Fsw

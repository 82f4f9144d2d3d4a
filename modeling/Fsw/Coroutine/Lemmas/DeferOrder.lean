import Fsw.Coroutine.Lemmas.Defer
import Mathlib.Data.List.Nodup

namespace Fsw
namespace Defer

def Event.registered? (cid : Int) : Event → Option Task
  | .registered _ cid' task => if cid' = cid then some task else none
  | _ => none

def Event.started? (cid : Int) : Event → Option Task
  | .started cid' task => if cid' = cid then some task else none
  | _ => none

def Event.returned? (cid : Int) : Event → Option Task
  | .returned cid' task => if cid' = cid then some task else none
  | _ => none

def Event.cid : Event → Int
  | .registered _ cid _ => cid
  | .started cid _ => cid
  | .returned cid _ => cid
  | .finished cid => cid

def registered (tr : List Event) (cid : Int) : List Task :=
  tr.filterMap (·.registered? cid)

def started (tr : List Event) (cid : Int) : List Task :=
  tr.filterMap (·.started? cid)

def returned (tr : List Event) (cid : Int) : List Task :=
  tr.filterMap (·.returned? cid)

def pending (tr : List Event) (cid : Int) : List Task :=
  (registered tr cid).reverse.filter (· ∉ started tr cid)

structure Ledger (tr : List Event) (calls : Nat) (cid : Int) (st : Stage) : Prop where
  call_lt : ∀ task ∈ registered tr cid, task.call < calls
  distinct : (registered tr cid).Nodup
  started_mem : ∀ task ∈ started tr cid, task ∈ registered tr cid
  once : (started tr cid).Nodup
  pending : st.pending = pending tr cid
  running : ∀ task ∈ started tr cid, task ∈ returned tr cid ∨ st.running = some task

structure Hist (tr : List Event) (v : View) : Prop where
  ledger : ∀ cid, Ledger tr v.calls cid (v.get cid)
  caller : ∀ caller cid task, .registered caller cid task ∈ tr → caller = some cid
  owner : ∀ cid cid' task, task ∈ registered tr cid → task ∈ registered tr cid' → cid = cid'
  fresh : ∀ cid, v.lastCid < cid → v.stage cid = none
  finished : ∀ cid, .finished cid ∈ tr → v.stage cid = none ∧ cid ≤ v.lastCid

section Concat

variable {tr : List Event} {e : Event} {cid : Int} {task : Task}

theorem registered?_self {caller : Option Int}
    : (Event.registered caller cid task).registered? cid = some task := if_pos rfl

theorem started?_self : (Event.started cid task).started? cid = some task := if_pos rfl

theorem returned?_self : (Event.returned cid task).returned? cid = some task := if_pos rfl

theorem filterMap_concat {f : Event → Option Task}
    : (tr ++ [e]).filterMap f = tr.filterMap f ++ (f e).toList := by
  rw [List.filterMap_append]
  cases h : f e <;> simp [h]

theorem registered_none (h : e.registered? cid = none)
    : registered (tr ++ [e]) cid = registered tr cid := by
  rw [registered, filterMap_concat, h, Option.toList_none, List.append_nil, registered]

theorem started_none (h : e.started? cid = none) : started (tr ++ [e]) cid = started tr cid := by
  rw [started, filterMap_concat, h, Option.toList_none, List.append_nil, started]

theorem returned_none (h : e.returned? cid = none)
    : returned (tr ++ [e]) cid = returned tr cid := by
  rw [returned, filterMap_concat, h, Option.toList_none, List.append_nil, returned]

theorem registered_some (h : e.registered? cid = some task)
    : registered (tr ++ [e]) cid = registered tr cid ++ [task] := by
  rw [registered, filterMap_concat, h, Option.toList_some, registered]

theorem started_some (h : e.started? cid = some task)
    : started (tr ++ [e]) cid = started tr cid ++ [task] := by
  rw [started, filterMap_concat, h, Option.toList_some, started]

theorem returned_some (h : e.returned? cid = some task)
    : returned (tr ++ [e]) cid = returned tr cid ++ [task] := by
  rw [returned, filterMap_concat, h, Option.toList_some, returned]

theorem mem_registered_concat
    : task ∈ registered (tr ++ [e]) cid ↔ task ∈ registered tr cid
        ∨ e.registered? cid = some task := by
  rw [registered, filterMap_concat, List.mem_append, Option.mem_toList, registered]

theorem nodup_concat {l : List Task} (h : l.Nodup) (hnew : task ∉ l) : (l ++ [task]).Nodup := by
  rw [← List.concat_eq_append]
  exact List.Nodup.concat hnew h

theorem mem_pending : task ∈ pending tr cid ↔ task ∈ registered tr cid ∧ task ∉ started tr cid := by
  simp [pending]

theorem pending_none (hregistered : e.registered? cid = none) (hstarted : e.started? cid = none)
    : pending (tr ++ [e]) cid = pending tr cid := by
  rw [pending, registered_none hregistered, started_none hstarted, pending]

theorem pending_registered (hregistered : e.registered? cid = some task)
    (hstarted : e.started? cid = none) (hnew : task ∉ started tr cid)
    : pending (tr ++ [e]) cid = task :: pending tr cid := by
  rw [pending, registered_some hregistered, started_none hstarted, List.reverse_append]
  simp [pending, hnew]

theorem pending_started {tasks : List Task} (hregistered : e.registered? cid = none)
    (hstarted : e.started? cid = some task) (hdistinct : (registered tr cid).Nodup)
    (hpending : pending tr cid = task :: tasks)
    : pending (tr ++ [e]) cid = tasks := by
  have hnodup : (task :: tasks).Nodup := by
    rw [← hpending]
    exact (List.nodup_reverse.mpr hdistinct).filter _
  have hfilter : pending (tr ++ [e]) cid = (pending tr cid).filter (· ≠ task) := by
    rw [pending, pending, registered_none hregistered, started_some hstarted, List.filter_filter]
    simp [and_comm]
  rw [hfilter, hpending, List.filter_cons_of_neg (by simp), List.filter_eq_self]
  intro t ht
  have hne : t ≠ task := fun h => (List.nodup_cons.mp hnodup).1 (h ▸ ht)
  simpa using hne

end Concat

section View

variable {v : View} {cid cid' : Int} {st : Stage}

theorem View.get_of_stage (h : v.stage cid = some st) : v.get cid = st := by
  rw [View.get, h, Option.getD_some]

theorem View.get_set_self : (v.set cid st).get cid = st := by
  simp only [View.get, View.set, Function.update_self, Option.getD_some]

theorem View.get_set_of_ne (h : cid' ≠ cid) : (v.set cid st).get cid' = v.get cid' := by
  simp only [View.get, View.set, Function.update_of_ne h]

end View

section Ledger

variable {tr : List Event} {calls : Nat} {cid : Int} {st : Stage}

theorem Event.other {e : Event} (h : e.cid ≠ cid)
    : e.registered? cid = none ∧ e.started? cid = none ∧ e.returned? cid = none := by
  cases e with
  | registered _ _ _ => exact ⟨if_neg h, rfl, rfl⟩
  | started _ _ => exact ⟨rfl, if_neg h, rfl⟩
  | returned _ _ => exact ⟨rfl, rfl, if_neg h⟩
  | finished _ => exact ⟨rfl, rfl, rfl⟩

theorem Ledger.other {e : Event} {calls' : Nat} (h : Ledger tr calls cid st)
    (hcalls : calls ≤ calls')
    (he : e.registered? cid = none ∧ e.started? cid = none ∧ e.returned? cid = none)
    : Ledger (tr ++ [e]) calls' cid st where
  call_lt := by
    rw [registered_none he.1]
    intro task htask
    have := h.call_lt task htask
    omega
  distinct := by
    rw [registered_none he.1]
    exact h.distinct
  started_mem := by
    rw [registered_none he.1, started_none he.2.1]
    exact h.started_mem
  once := by
    rw [started_none he.2.1]
    exact h.once
  pending := by
    rw [pending_none he.1 he.2.1]
    exact h.pending
  running := by
    rw [started_none he.2.1, returned_none he.2.2]
    exact h.running

theorem Ledger.not_mem_registered {task : Task} (h : Ledger tr calls cid st)
    (htask : task.call = calls)
    : task ∉ registered tr cid := by
  intro hmem
  have := h.call_lt task hmem
  omega

theorem Ledger.register {caller : Option Int} {task : Task} (h : Ledger tr calls cid st)
    (htask : task.call = calls)
    : Ledger (tr ++ [.registered caller cid task]) (calls + 1) cid
        { st with pending := task :: st.pending } where
  call_lt := by
    rw [registered_some registered?_self]
    intro t ht
    rcases List.mem_append.mp ht with ht | ht
    . have := h.call_lt t ht
      omega
    . rw [List.mem_singleton.mp ht]
      omega
  distinct := by
    rw [registered_some registered?_self]
    exact nodup_concat h.distinct (h.not_mem_registered htask)
  started_mem := by
    rw [registered_some registered?_self, started_none rfl]
    intro t ht
    exact List.mem_append_left _ (h.started_mem t ht)
  once := by
    rw [started_none rfl]
    exact h.once
  pending := by
    have hnew : task ∉ started tr cid := fun hmem =>
      h.not_mem_registered htask (h.started_mem task hmem)
    rw [pending_registered registered?_self rfl hnew, h.pending]
  running := by
    rw [started_none rfl, returned_none rfl]
    exact h.running

theorem Ledger.start {task : Task} {tasks : List Task}
    (h : Ledger tr calls cid ⟨task :: tasks, none⟩)
    : Ledger (tr ++ [.started cid task]) calls cid ⟨tasks, some task⟩ := by
  have hhead : task ∈ registered tr cid ∧ task ∉ started tr cid := by
    rw [← mem_pending, ← h.pending]
    exact List.mem_cons_self
  exact
    { call_lt := by
        rw [registered_none rfl]
        exact h.call_lt
      distinct := by
        rw [registered_none rfl]
        exact h.distinct
      started_mem := by
        rw [registered_none rfl, started_some started?_self]
        intro t ht
        rcases List.mem_append.mp ht with ht | ht
        . exact h.started_mem t ht
        . rw [List.mem_singleton.mp ht]
          exact hhead.1
      once := by
        rw [started_some started?_self]
        exact nodup_concat h.once hhead.2
      pending := (pending_started rfl started?_self h.distinct h.pending.symm).symm
      running := by
        rw [started_some started?_self, returned_none rfl]
        intro t ht
        rcases List.mem_append.mp ht with ht | ht
        . exact .inl ((h.running t ht).resolve_right nofun)
        . rw [List.mem_singleton.mp ht]
          exact .inr rfl }

theorem Ledger.ret {task : Task} {tasks : List Task} (h : Ledger tr calls cid ⟨tasks, some task⟩)
    : Ledger (tr ++ [.returned cid task]) calls cid ⟨tasks, none⟩ where
  call_lt := by
    rw [registered_none rfl]
    exact h.call_lt
  distinct := by
    rw [registered_none rfl]
    exact h.distinct
  started_mem := by
    rw [registered_none rfl, started_none rfl]
    exact h.started_mem
  once := by
    rw [started_none rfl]
    exact h.once
  pending := by
    rw [pending_none rfl rfl]
    exact h.pending
  running := by
    rw [started_none rfl, returned_some returned?_self]
    intro t ht
    rcases h.running t ht with ht | ht
    . exact .inl (List.mem_append_left _ ht)
    . injection ht with ht
      rw [ht]
      exact .inl (List.mem_append_right _ (List.mem_singleton_self t))

end Ledger

section Hist

variable {tr : List Event} {v : View} {cid : Int} {st : Stage}

theorem ledger_nil : Ledger [] 0 cid ⟨[], none⟩ where
  call_lt := by simp [registered]
  distinct := List.nodup_nil
  started_mem := by simp [started]
  once := List.nodup_nil
  pending := rfl
  running := by simp [started]

theorem hist_init : Hist [] init.view where
  ledger := fun _ => ledger_nil
  caller := by simp
  owner := by simp [registered]
  fresh := fun _ _ => rfl
  finished := by simp

theorem Hist.ne_of_fresh {cid' : Int} (h : Hist tr v) (hst : v.stage cid = some st)
    (hlt : v.lastCid < cid')
    : cid' ≠ cid := by
  rintro rfl
  rw [h.fresh _ hlt] at hst
  contradiction

theorem Hist.ne_of_finished {cid' : Int} (h : Hist tr v) (hst : v.stage cid = some st)
    (hmem : .finished cid' ∈ tr)
    : cid' ≠ cid := by
  rintro rfl
  rw [(h.finished _ hmem).1] at hst
  contradiction

theorem Hist.create (h : Hist tr v)
    : Hist tr { v.set (v.lastCid + 1) ⟨[], none⟩ with lastCid := v.lastCid + 1 } where
  ledger := by
    intro cid
    have hget : (v.set (v.lastCid + 1) ⟨[], none⟩).get cid = v.get cid := by
      by_cases hcid : cid = v.lastCid + 1
      . rw [hcid, View.get_set_self, View.get, h.fresh _ (by omega)]
        rfl
      . exact View.get_set_of_ne hcid
    have hledger := h.ledger cid
    rw [← hget] at hledger
    exact hledger
  caller := h.caller
  owner := h.owner
  fresh := by
    intro cid hlt
    dsimp only at hlt
    simp only [View.set]
    rw [Function.update_of_ne (by omega)]
    exact h.fresh cid (by omega)
  finished := by
    intro cid hmem
    have := h.finished cid hmem
    simp only [View.set]
    rw [Function.update_of_ne (by omega)]
    exact ⟨this.1, by omega⟩

theorem Hist.finish (h : Hist tr v) (hst : v.stage cid = some ⟨[], none⟩)
    : Hist (tr ++ [.finished cid]) { v with stage := Function.update v.stage cid none } where
  ledger := by
    intro cid'
    have hget : View.get { v with stage := Function.update v.stage cid none } cid'
      = v.get cid' := by
      by_cases hcid : cid' = cid
      . rw [hcid, View.get_of_stage hst]
        simp only [View.get, Function.update_self]
        rfl
      . simp only [View.get, Function.update_of_ne hcid]
    rw [hget]
    exact (h.ledger cid').other (Nat.le_refl _) ⟨rfl, rfl, rfl⟩
  caller := by
    intro caller cid' task hmem
    exact h.caller caller cid' task (by simpa using hmem)
  owner := by
    intro cid₁ cid₂ task h₁ h₂
    exact h.owner cid₁ cid₂ task ((mem_registered_concat.mp h₁).resolve_right nofun)
      ((mem_registered_concat.mp h₂).resolve_right nofun)
  fresh := by
    intro cid' hlt
    dsimp only
    rw [Function.update_of_ne (h.ne_of_fresh hst hlt)]
    exact h.fresh cid' hlt
  finished := by
    intro cid' hmem
    dsimp only
    rcases List.mem_append.mp hmem with hmem | hmem
    . rw [Function.update_of_ne (h.ne_of_finished hst hmem)]
      exact h.finished cid' hmem
    . rw [List.mem_singleton] at hmem
      injection hmem with hcid
      rw [hcid, Function.update_self]
      refine ⟨rfl, ?_⟩
      by_contra hlt
      exact h.ne_of_fresh hst (by omega) rfl

theorem Event.cid_of_registered? {e : Event} {task : Task} (h : e.registered? cid = some task)
    : e.cid = cid := by
  by_contra hcid
  rw [(Event.other hcid).1] at h
  contradiction

theorem Hist.concat {e : Event} {calls : Nat} {st' : Stage} (h : Hist tr v)
    (hst : v.stage e.cid = some st) (hcalls : v.calls ≤ calls)
    (hledger : Ledger (tr ++ [e]) calls e.cid st')
    (hcaller : ∀ caller cid task, e = .registered caller cid task → caller = some cid)
    (hnew : ∀ cid task, e.registered? cid = some task → v.calls ≤ task.call)
    (hfinished : ∀ cid, e ≠ .finished cid)
    : Hist (tr ++ [e]) { v.set e.cid st' with calls := calls } where
  ledger := by
    intro cid
    by_cases hcid : e.cid = cid
    . rw [← hcid]
      have hget : (v.set e.cid st').get e.cid = st' := View.get_set_self
      rw [← hget] at hledger
      exact hledger
    . have hget : (v.set e.cid st').get cid = v.get cid := View.get_set_of_ne (fun h => hcid h.symm)
      have hother := (h.ledger cid).other hcalls (Event.other hcid)
      rw [← hget] at hother
      exact hother
  caller := by
    intro caller cid task hmem
    rcases List.mem_append.mp hmem with hmem | hmem
    . exact h.caller caller cid task hmem
    . exact hcaller caller cid task (List.mem_singleton.mp hmem).symm
  owner := by
    have hold (cid₁ cid₂ : Int) (task : Task) (h₁ : e.registered? cid₁ = some task)
      : task ∉ registered tr cid₂ := by
      intro h₂
      have hlt := (h.ledger cid₂).call_lt task h₂
      have hle := hnew cid₁ task h₁
      omega
    intro cid₁ cid₂ task h₁ h₂
    rcases mem_registered_concat.mp h₁ with h₁ | h₁
    . rcases mem_registered_concat.mp h₂ with h₂ | h₂
      . exact h.owner cid₁ cid₂ task h₁ h₂
      . exact absurd h₁ (hold cid₂ cid₁ task h₂)
    . rcases mem_registered_concat.mp h₂ with h₂ | h₂
      . exact absurd h₂ (hold cid₁ cid₂ task h₁)
      . rw [← Event.cid_of_registered? h₁, ← Event.cid_of_registered? h₂]
  fresh := by
    intro cid hlt
    simp only [View.set]
    rw [Function.update_of_ne (h.ne_of_fresh hst hlt)]
    exact h.fresh cid hlt
  finished := by
    intro cid hmem
    rcases List.mem_append.mp hmem with hmem | hmem
    . simp only [View.set]
      rw [Function.update_of_ne (h.ne_of_finished hst hmem)]
      exact h.finished cid hmem
    . exact absurd (List.mem_singleton.mp hmem).symm (hfinished cid)

theorem Hist.act {v' : View} {es : List Event} (h : Hist tr v) (hact : Act v es v')
    : Hist (tr ++ es) v' := by
  have hledger {cid : Int} {st : Stage} (hst : v.stage cid = some st)
    : Ledger tr v.calls cid st := by
    rw [← View.get_of_stage hst]
    exact h.ledger cid
  cases hact with
  | quiet =>
    rw [List.append_nil]
    exact h
  | create =>
    rw [List.append_nil]
    exact h.create
  | register hst =>
    refine h.concat hst (Nat.le_succ _) ((hledger hst).register rfl) ?_ ?_ nofun
    . rintro _ _ _ ⟨⟩
      rfl
    . intro cid task htask
      simp only [Event.registered?] at htask
      split at htask
      . injection htask with htask
        exact Nat.le_of_eq (congrArg Task.call htask)
      . contradiction
  | start hst => exact h.concat hst (Nat.le_refl _) (hledger hst).start nofun nofun nofun
  | ret hst => exact h.concat hst (Nat.le_refl _) (hledger hst).ret nofun nofun nofun
  | finish hst => exact h.finish hst

end Hist

structure Lifo (tr : List Event) (s : Defer) : Prop where
  caller : ∀ caller cid task, .registered caller cid task ∈ tr → caller = some cid
  owner : ∀ cid cid' task, task ∈ registered tr cid → task ∈ registered tr cid' → cid = cid'
  distinct : ∀ cid, (registered tr cid).Nodup
  started_mem : ∀ cid, ∀ task ∈ started tr cid, task ∈ registered tr cid
  once : ∀ cid, (started tr cid).Nodup
  last : ∀ before cid task after, tr = before ++ .started cid task :: after
    → (pending before cid).head? = some task
  ended : ∀ before cid after, tr = before ++ .finished cid :: after →
    ∀ task ∈ registered tr cid, (started before cid).count task = 1 ∧ task ∈ returned before cid
  alive : ∀ cid task, task ∈ registered tr cid → task ∉ returned tr cid →
    ∃ p co, s.rt.coroutines cid = some p ∧ s.rt.heap p = some co ∧ co.cid = cid
      ∧ co.ctx.isEnd = false
  goesOn : ∀ p, s.rt.stack = some p → s.here = .loop →
    ∃ co s' e, s.rt.heap p = some co ∧ s.step .go = .ok (s', [e])
      ∧ (e = .finished co.cid ∨ ∃ task, e = .started co.cid task)

section Run

variable {P : Defer → Cmd → Prop} {tr : List Event} {s : Defer}

theorem run_hist (h : machine.Run P tr s) : (∃ l, s.rt.Inv l) ∧ Hist tr s.view := by
  apply h.invariant (I := fun tr s => (∃ l, s.rt.Inv l) ∧ Hist tr s.view)
  . exact ⟨⟨[], Runtime.inv_init⟩, hist_init⟩
  . rintro tr s c s' es _ ⟨⟨l, hinv⟩, hhist⟩ _ hstep
    have hstep := Step.of_step hinv hstep
    exact ⟨hstep.inv hinv, hhist.act (hstep.act hinv)⟩

theorem Act.length_le {v v' : View} {es : List Event} (h : Act v es v') : es.length ≤ 1 := by
  cases h with
  | quiet => exact Nat.zero_le 1
  | create => exact Nat.zero_le 1
  | register _ => exact Nat.le_refl 1
  | start _ => exact Nat.le_refl 1
  | ret _ => exact Nat.le_refl 1
  | finish _ => exact Nat.le_refl 1

theorem run_act {before after : List Event} {e : Event} (h : machine.Run P tr s)
    (htr : tr = before ++ e :: after)
    : ∃ v v', Hist before v ∧ Act v [e] v' := by
  have hone : ∀ tr s c s' es, machine.Run P tr s → machine.step s c = .ok (s', es)
    → es.length ≤ 1 := by
    intro tr s c s' es hrun hstep
    rcases run_hist hrun with ⟨⟨l, hinv⟩, _⟩
    exact ((Step.of_step hinv hstep).act hinv).length_le
  rcases h.split hone htr with ⟨s₁, c, s₂, hrun, _, hstep⟩
  rcases run_hist hrun with ⟨⟨l, hinv⟩, hhist⟩
  exact ⟨s₁.view, s₂.view, hhist, (Step.of_step hinv hstep).act hinv⟩

theorem Ledger.returned {calls : Nat} {cid : Int} {task : Task} (h : Ledger tr calls cid ⟨[], none⟩)
    (htask : task ∈ registered tr cid)
    : task ∈ started tr cid ∧ task ∈ returned tr cid := by
  have hstarted : task ∈ started tr cid := by
    by_contra hnot
    have hmem := mem_pending.mpr ⟨htask, hnot⟩
    rw [← h.pending] at hmem
    contradiction
  exact ⟨hstarted, (h.running task hstarted).resolve_right nofun⟩

theorem run_last {before after : List Event} {cid : Int} {task : Task} (h : machine.Run P tr s)
    (htr : tr = before ++ .started cid task :: after)
    : (pending before cid).head? = some task := by
  rcases run_act h htr with ⟨v, v', hhist, hact⟩
  cases hact with
  | start hst =>
    rw [← (hhist.ledger cid).pending, View.get_of_stage hst]
    rfl

theorem run_closed {before after : List Event} {cid : Int} (h : machine.Run P tr s)
    (htr : tr = before ++ .finished cid :: after)
    : registered tr cid = registered before cid := by
  have hafter : registered after cid = [] := by
    rw [registered, List.filterMap_eq_nil_iff]
    intro e he
    by_contra hsome
    rcases Option.ne_none_iff_exists'.mp hsome with ⟨task, htask⟩
    rcases List.append_of_mem he with ⟨after₁, after₂, rfl⟩
    have htr' : tr = (before ++ .finished cid :: after₁) ++ e :: after₂ := by
      rw [htr, List.append_assoc, List.cons_append]
    rcases run_act h htr' with ⟨v, v', hhist, hact⟩
    have hgone := (hhist.finished cid (by simp)).1
    cases hact with
    | register hst =>
      rw [← Event.cid_of_registered? htask] at hgone
      exact absurd (hst.symm.trans hgone) (by simp)
    | start _ => contradiction
    | ret _ => contradiction
    | finish _ => contradiction
  rw [htr, registered, List.filterMap_append, List.filterMap_cons_none rfl]
  change registered before cid ++ registered after cid = _
  rw [hafter, List.append_nil]

theorem run_ended {before after : List Event} {cid : Int} {task : Task} (h : machine.Run P tr s)
    (htr : tr = before ++ .finished cid :: after) (htask : task ∈ registered tr cid)
    : (started before cid).count task = 1 ∧ task ∈ returned before cid := by
  rw [run_closed h htr] at htask
  rcases run_act h htr with ⟨v, v', hhist, hact⟩
  cases hact with
  | finish hst =>
    have hledger := hhist.ledger cid
    rw [View.get_of_stage hst] at hledger
    have hdone := hledger.returned htask
    exact ⟨List.count_eq_one_of_mem hledger.once hdone.1, hdone.2⟩

theorem run_alive {cid : Int} {task : Task} (h : machine.Run P tr s)
    (htask : task ∈ registered tr cid) (hnot : task ∉ returned tr cid)
    : ∃ p co, s.rt.coroutines cid = some p ∧ s.rt.heap p = some co ∧ co.cid = cid
        ∧ co.ctx.isEnd = false := by
  rcases run_hist h with ⟨⟨l, hinv⟩, hhist⟩
  cases hreg : s.rt.coroutines cid with
  | none =>
    have hledger := hhist.ledger cid
    have hget : s.view.get cid = ⟨[], none⟩ := by
      simp only [View.get, view, hreg, Option.map_none, Option.getD_none]
    rw [hget] at hledger
    exact absurd (hledger.returned htask).2 hnot
  | some p =>
    rcases (hinv.registered cid p).mp hreg with ⟨co, hco, hcid⟩
    exact ⟨p, co, rfl, hco, hcid, hinv.isEnd hco⟩

theorem finish_eq {p : Addr} {l : List Addr} (h : s.rt.Inv (p :: l))
    : ∃ co s', s.rt.heap p = some co ∧ s.finish p = .ok (s', [.finished co.cid]) := by
  rcases h.finish with ⟨rt, co, hco, hrt, _⟩
  refine ⟨co, { s with rt := rt }, hco, ?_⟩
  simp only [finish, Runtime.deref, hco, hrt, bind, Except.bind]
  rfl

theorem go_eq {p : Addr} {l : List Addr} (h : s.rt.Inv l) (hstack : s.rt.stack = some p)
    (hhere : s.here = .loop)
    : ∃ co s' e, s.rt.heap p = some co ∧ s.step .go = .ok (s', [e])
        ∧ (e = .finished co.cid ∨ ∃ task, e = .started co.cid task) := by
  have hl : ∃ l', l = p :: l' := by
    rw [h.stack] at hstack
    exact List.head?_eq_some_iff.mp hstack
  rcases hl with ⟨l', rfl⟩
  have hstep : s.step .go = s.executeDeferTasks p := by
    simp only [step, hhere, hstack]
  rw [hstep]
  unfold executeDeferTasks
  split
  . rcases finish_eq h with ⟨co, s', hco, hok⟩
    exact ⟨co, s', _, hco, hok, .inl rfl⟩
  . rcases finish_eq (s := s.setTasks p none) h with ⟨co, s', hco, hok⟩
    exact ⟨co, s', _, hco, hok, .inl rfl⟩
  . next task tasks _ =>
    rcases h.active with ⟨co, hco, _⟩
    refine ⟨co, (s.setTasks p (some tasks)).goto (.user (some task)), .started co.cid task,
      hco, ?_, .inr ⟨task, rfl⟩⟩
    simp only [Runtime.deref, hco, bind, Except.bind]
    rfl

/--
Deferred tasks are executed exactly once, the last one first and all of them before the coroutine
ends, whatever the coroutines do.
-/
theorem run_lifo (h : machine.Run P tr s) : Lifo tr s := by
  rcases run_hist h with ⟨⟨l, hinv⟩, hhist⟩
  exact
    { caller := hhist.caller
      owner := hhist.owner
      distinct := fun cid => (hhist.ledger cid).distinct
      started_mem := fun cid => (hhist.ledger cid).started_mem
      once := fun cid => (hhist.ledger cid).once
      last := fun _ _ _ _ htr => run_last h htr
      ended := fun _ _ _ htr _ htask => run_ended h htr htask
      alive := fun _ _ htask hnot => run_alive h htask hnot
      goesOn := fun _ hstack hhere => go_eq hinv hstack hhere }

end Run

end Defer
end Fsw

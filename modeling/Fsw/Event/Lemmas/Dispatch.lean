import Fsw.Event.Lemmas.Exit
import Fsw.Event.Lemmas.Help

namespace Fsw

namespace Runtime

variable {s s' : Runtime} {l : List Addr} {p q : Addr} {cid : Int}

structure Parked (s : Runtime) (q : Addr) (cid : Int) : Prop where
  suspended : s.Suspended q
  registered : s.coroutines cid = some q

theorem Parked.create (h : s.Parked q cid) (hinv : s.Inv l) (hp : s.heap p = none)
    (hok : s.create p = .ok s')
    : s'.Parked q cid := by
  rcases hinv.create_ok hp hok with ⟨hinv', hlive, _, hreg⟩
  refine ⟨(hinv.suspended_create hinv' hlive hp).mpr h.suspended, ?_⟩
  rw [hreg, Function.update_of_ne, h.registered]
  intro hcid
  have := h.registered
  rw [hcid, hinv.coroutines_lastCid_succ] at this
  contradiction

theorem Parked.yield (h : s.Parked q cid) (hinv : s.Inv l) (hok : s.yield = .ok s')
    : s'.Parked q cid := by
  rcases hinv.yield_ok hok with ⟨p, t, rfl, hinv', hsame⟩
  refine ⟨(hinv.suspended_leave hinv' hsame).mpr (.inl h.suspended), ?_⟩
  rw [hsame.coroutines, h.registered]

theorem Parked.resume (h : s.Parked q cid) (hinv : s.Inv l) (hok : s.resume p = .ok s')
    (hne : q ≠ p)
    : s'.Parked q cid := by
  rcases hinv.resume_ok hok with ⟨_, hinv', hsame⟩
  refine ⟨(hinv.suspended_enter hinv' hsame).mpr ⟨h.suspended, hne⟩, ?_⟩
  rw [hsame.coroutines, h.registered]

theorem Parked.finish (h : s.Parked q cid) (hinv : s.Inv l) (hstack : s.stack = some p)
    (hok : s.finish p = .ok s')
    : s'.Parked q cid := by
  cases l with
  | nil =>
    rw [hinv.stack] at hstack
    contradiction
  | cons r t =>
    rw [hinv.stack, List.head?_cons, Option.some.injEq] at hstack
    subst hstack
    rcases hinv.finish with ⟨s'', co, hco, hok', hinv', hlive, _, hreg⟩
    rw [hok] at hok'
    injection hok' with heq
    subst heq
    refine ⟨(hinv.suspended_finish hinv' hlive).mpr h.suspended, ?_⟩
    rw [hreg, Function.update_of_ne, h.registered]
    intro hcid
    -- The coroutine that ends is on the chain, so it is another one.
    have hr := (hinv.registered co.cid r).mpr ⟨co, hco, rfl⟩
    rw [← hcid, h.registered] at hr
    injection hr with hr
    have hmem := (hinv.suspended_iff.mp h.suspended).2
    rw [hr] at hmem
    exact hmem List.mem_cons_self

structure Sane (s : Runtime) : Prop where
  inv : ∃ l, s.Inv l
  lastCid : 0 ≤ s.lastCid
  cid_pos : ∀ cid p, s.coroutines cid = some p → 1 ≤ cid

theorem sane_init : init.Sane where
  inv := ⟨[], inv_init⟩
  lastCid := Int.le_refl 0
  cid_pos := by simp [init]

theorem Sane.same (h : s.Sane) (hinv : s'.Inv l) (hsame : Same s s') : s'.Sane where
  inv := ⟨l, hinv⟩
  lastCid := by
    rw [hsame.lastCid]
    exact h.lastCid
  cid_pos := by
    rw [hsame.coroutines]
    exact h.cid_pos

theorem Sane.create (h : s.Sane) (hp : s.heap p = none) (hok : s.create p = .ok s') : s'.Sane := by
  rcases h.inv with ⟨l, hinv⟩
  rcases hinv.create_ok hp hok with ⟨hinv', _, hlast, hreg⟩
  have hpos := h.lastCid
  refine ⟨⟨_, hinv'⟩, by omega, ?_⟩
  intro cid q hq
  rw [hreg, Function.update_apply] at hq
  split at hq
  . omega
  . exact h.cid_pos cid q hq

theorem Sane.yield (h : s.Sane) (hok : s.yield = .ok s') : s'.Sane := by
  rcases h.inv with ⟨l, hinv⟩
  rcases hinv.yield_ok hok with ⟨_, _, _, hinv', hsame⟩
  exact h.same hinv' hsame

theorem Sane.resume (h : s.Sane) (hok : s.resume p = .ok s') : s'.Sane := by
  rcases h.inv with ⟨l, hinv⟩
  rcases hinv.resume_ok hok with ⟨_, hinv', hsame⟩
  exact h.same hinv' hsame

theorem resume_of_resumeCid (hok : s.resumeCid cid = .ok s')
    : ∃ p, s.coroutines cid = some p ∧ s.resume p = .ok s' := by
  unfold resumeCid at hok
  split at hok
  . contradiction
  . next p hp => exact ⟨p, hp, hok⟩

theorem Sane.finish (h : s.Sane) (hstack : s.stack = some p) (hok : s.finish p = .ok s')
    : s'.Sane := by
  rcases h.inv with ⟨l, hinv⟩
  rcases hinv.finish_ok hstack hok with ⟨t, rfl, hinv', _⟩
  rcases hinv.finish with ⟨s'', co, _, hok', _, _, hlast, hreg⟩
  rw [hok] at hok'
  injection hok' with heq
  subst heq
  refine ⟨⟨t, hinv'⟩, by rw [hlast]; exact h.lastCid, ?_⟩
  intro cid q hq
  rw [hreg, Function.update_apply] at hq
  split at hq
  . contradiction
  . exact h.cid_pos cid q hq

end Runtime

namespace Loop

variable {s s' : Loop} {tr es : List Event} {c : Cmd}

theorem Step.sane (hstep : Step s c es s') (h : s.rt.Sane) : s'.rt.Sane := by
  cases hstep with
  | idle | tick | addFailed | retWaitEvent | retSleep | retWait | epollWait
    | handledIo | timersDone => exact h
  | run _ _ hp hrt | create _ _ hp hrt => exact h.create hp hrt
  | yield _ _ hrt | sleep _ _ _ hrt | waitEvent _ _ _ _ hrt => exact h.yield hrt
  | resume _ _ hrt | fire _ _ _ _ hrt => exact h.resume hrt
  | handleIo _ _ _ hrt =>
    rcases Runtime.resume_of_resumeCid hrt with ⟨p, _, hrt⟩
    exact h.resume hrt
  | finish _ hstack hrt => exact h.finish hstack hrt

theorem run_sane (h : machine.Run (fun _ _ => True) tr s) : s.rt.Sane := by
  apply h.invariant (I := fun _ s => s.rt.Sane) Runtime.sane_init
  intro tr s c s' es _ ih _ hstep
  exact (Step.of_step hstep).sane ih

structure Member where
  co : Addr
  cid : Int
  fd : BitVec 32

structure Batch (s : Loop) (ready : List EpollEvent) (ms : List Member) : Prop where
  tags : ready.map (·.u64) = ms.map fun m => tagOf m.fd m.cid
  length_le : ready.length ≤ EPOLL_CAP
  nodup : (ms.map (·.co)).Nodup
  parked : ∀ m ∈ ms, s.rt.Parked m.co m.cid
  cid_lt : ∀ m ∈ ms, m.cid < 2 ^ 31

def resumed (tr : List Event) : List Int :=
  tr.filterMap fun
    | .resumed cid => some cid.toInt
    | _ => none

-- As long as `default_handle_io` has not returned, and no coroutine of the batch is resumed by
-- another one
def Dispatching (ms : List Member) (s : Loop) (c : Cmd) : Prop :=
  (∃ i num, s.point none = .handleIo i num) ∧ ∀ p, c = .resume p → ∀ m ∈ ms, m.co ≠ p

-- The first `i` have been resumed. The record that a coroutine overwrites then is one that has been
-- read.
structure Dispatched (ms : List Member) (i : Nat) (tr : List Event) (s : Loop) : Prop where
  le : i ≤ ms.length
  main : s.point none = .handleIo i ms.length ∨ i = ms.length ∧ ∃ now, s.point none = .runTimers now
  resumed_eq : resumed tr = (ms.take i).map (·.cid)
  started : s.rt.stack ≠ none → 1 ≤ i
  tag : ∀ j m, i ≤ j → ms[j]? = some m → ∃ ev, s.events[j]? = some ev ∧ ev.u64 = tagOf m.fd m.cid
  parked : ∀ j m, i ≤ j → ms[j]? = some m → s.rt.Parked m.co m.cid

section Dispatched

variable {ms : List Member} {i : Nat}

theorem resumed_append {tr' : List Event} : resumed (tr ++ tr') = resumed tr ++ resumed tr' := by
  apply List.filterMap_append

theorem Dispatched.keep (h : Dispatched ms i tr s) (hmain : s'.point none = s.point none)
    (hes : resumed es = []) (hstarted : s'.rt.stack ≠ none → 1 ≤ i)
    (hevents : ∀ j, i ≤ j → s'.events[j]? = s.events[j]?)
    (hparked : ∀ m ∈ ms, s.rt.Parked m.co m.cid → s'.rt.Parked m.co m.cid)
    : Dispatched ms i (tr ++ es) s' where
  le := h.le
  main := by
    rw [hmain]
    exact h.main
  resumed_eq := by
    rw [resumed_append, hes, List.append_nil, h.resumed_eq]
  started := hstarted
  tag := by
    intro j m hj hm
    rw [hevents j hj]
    exact h.tag j m hj hm
  parked := by
    intro j m hj hm
    exact hparked m (List.mem_of_getElem? hm) (h.parked j m hj hm)

theorem Dispatched.user {q : Addr} (h : Dispatched ms i tr s) (hstack : s.rt.stack = some q)
    (hmain : s'.point none = s.point none) (hes : resumed es = [])
    (hevents : ∀ j, 1 ≤ j → s'.events[j]? = s.events[j]?)
    (hparked : ∀ m ∈ ms, s.rt.Parked m.co m.cid → s'.rt.Parked m.co m.cid)
    : Dispatched ms i (tr ++ es) s' := by
  have hi : 1 ≤ i := by
    apply h.started
    rw [hstack]
    simp
  apply h.keep hmain hes (fun _ => hi) _ hparked
  intro j hj
  apply hevents
  omega

theorem toInt_tag {fd : BitVec 32} {cid : Int} (hpos : 1 ≤ cid) (hlt : cid < 2 ^ 31)
    : (fromuint64 (tagOf fd cid)).2.toInt = cid := by
  rw [tagOf, snd_fromuint64]
  exact ((msb_ofInt_iff (by omega)).mpr hlt).2

theorem goto_none {q : Addr} {pt : Point} (hstack : s.rt.stack = some q)
    : (s.goto pt).point none = s.point none := by
  rw [goto_point hstack, Function.update_of_ne (by simp)]

theorem Dispatched.next {m : Member} (h : Dispatched ms i tr s) (hsane : s.rt.Sane)
    (hcid : ∀ m ∈ ms, m.cid < 2 ^ 31) (hm : ms[i]? = some m)
    : ∃ ev, s.events[i]? = some ev ∧ (fromuint64 ev.u64).2 = BitVec.ofInt 32 m.cid
        ∧ (fromuint64 ev.u64).2.toInt = m.cid ∧ s.rt.Parked m.co m.cid := by
  have hparked := h.parked i m (Nat.le_refl i) hm
  rcases h.tag i m (Nat.le_refl i) hm with ⟨ev, hev, htag⟩
  refine ⟨ev, hev, ?_, ?_, hparked⟩
  . rw [htag, tagOf, snd_fromuint64]
  . rw [htag,
      toInt_tag (hsane.cid_pos m.cid m.co hparked.registered) (hcid m (List.mem_of_getElem? hm))]

theorem co_ne_of_lt {m m' : Member} {j : Nat} (hnodup : (ms.map (·.co)).Nodup)
    (hij : i < j) (hm : ms[i]? = some m) (hm' : ms[j]? = some m')
    : m'.co ≠ m.co := by
  intro heq
  have hi : (ms.map (·.co))[i]? = some m.co := by
    rw [List.getElem?_map, hm]
    rfl
  have hj : (ms.map (·.co))[j]? = some m.co := by
    rw [List.getElem?_map, hm', ← heq]
    rfl
  have := (List.getElem?_inj (List.getElem?_eq_some_iff.mp hi).1 hnodup).mp (hi.trans hj.symm)
  omega

theorem Dispatched.handleIo {rt : Runtime} {ev : EpollEvent} (h : Dispatched ms i tr s)
    (hsane : s.rt.Sane) (hstack : s.rt.stack = none) (hnodup : (ms.map (·.co)).Nodup)
    (hcid : ∀ m ∈ ms, m.cid < 2 ^ 31) (hi : i < ms.length) (hev : s.events[i]? = some ev)
    (hrt : s.rt.resumeCid (fromuint64 ev.u64).2.toInt = .ok rt)
    : Dispatched ms (i + 1) (tr ++ [.resumed (fromuint64 ev.u64).2])
        { s.goto (.handleIo (i + 1) ms.length) with rt := rt } := by
  obtain ⟨m, hm⟩ : ∃ m, ms[i]? = some m := ⟨ms[i], List.getElem?_eq_getElem hi⟩
  rcases h.next hsane hcid hm with ⟨ev', hev', _, htoInt, hparked⟩
  rw [hev] at hev'
  injection hev' with hev'
  subst hev'
  rw [htoInt] at hrt
  rcases Runtime.resume_of_resumeCid hrt with ⟨p, hp, hrt⟩
  rw [hparked.registered] at hp
  injection hp with hp
  subst hp
  rcases hsane.inv with ⟨l, hinv⟩
  refine ⟨hi, .inl ?_, ?_, fun _ => by omega, ?_, ?_⟩
  . dsimp only
    rw [goto_point hstack, Function.update_self]
  . have hlast : resumed [.resumed (fromuint64 ev.u64).2] = [m.cid] := by
      rw [← htoInt]
      rfl
    rw [resumed_append, h.resumed_eq, hlast, List.take_add_one, hm]
    simp
  . intro j m' hj hm'
    exact h.tag j m' (by omega) hm'
  . intro j m' hj hm'
    exact (h.parked j m' (by omega) hm').resume hinv hrt (co_ne_of_lt hnodup (by omega) hm hm')

theorem Dispatched.step (h : Dispatched ms i tr s) (hinv : ∃ tr, s.Inv tr) (hsane : s.rt.Sane)
    (hnodup : (ms.map (·.co)).Nodup) (hcid : ∀ m ∈ ms, m.cid < 2 ^ 31) (hp : Dispatching ms s c)
    (hstep : Step s c es s')
    : ∃ i', Dispatched ms i' (tr ++ es) s' := by
  rcases hinv with ⟨tr', hinv⟩
  rcases hsane.inv with ⟨l, hrtinv⟩
  rcases hp.1 with ⟨i', num, hnone⟩
  have hmain : s.point none = .handleIo i ms.length := by
    rcases h.main with hmain | ⟨_, now, hmain⟩
    . exact hmain
    . rw [hmain] at hnone
      contradiction
  have hloop (pt : Point) (hhere : s.here = pt) (hpt : pt.IsLoop)
      : s.rt.stack = none ∧ pt = .handleIo i ms.length := by
    have hstack := hinv.main.stack_eq_none (by rw [hhere]; exact hpt)
    rw [here, hstack, hmain] at hhere
    exact ⟨hstack, hhere.symm⟩
  cases hstep with
  | idle => exact ⟨i, h.keep rfl rfl h.started (fun _ _ => rfl) fun _ _ hparked => hparked⟩
  | tick => exact ⟨i, h.keep rfl rfl h.started (fun _ _ => rfl) fun _ _ hparked => hparked⟩
  | run hhere hstack =>
    rw [here, hstack, hmain] at hhere
    contradiction
  | create hhere hstack hp' hrt =>
    refine ⟨i, h.user hstack ?_ rfl (fun _ _ => rfl) ?_⟩
    . dsimp only
      rw [Function.update_of_ne (by simp)]
    . intro m _ hparked
      exact hparked.create hrtinv hp' hrt
  | yield hhere hstack hrt =>
    refine ⟨i, h.user hstack (goto_none hstack) rfl (fun _ _ => rfl) ?_⟩
    intro m _ hparked
    exact hparked.yield hrtinv hrt
  | @resume p q rt hhere hstack hrt =>
    refine ⟨i, h.user hstack rfl rfl (fun _ _ => rfl) ?_⟩
    intro m hm hparked
    exact hparked.resume hrtinv hrt (hp.2 p rfl m hm)
  | finish hhere hstack hrt =>
    refine ⟨i, h.user hstack rfl rfl (fun _ _ => rfl) ?_⟩
    intro m _ hparked
    exact hparked.finish hrtinv hstack hrt
  | sleep hhere hstack hcur hrt =>
    refine ⟨i, h.user hstack (goto_none hstack) rfl (fun _ _ => rfl) ?_⟩
    intro m _ hparked
    exact hparked.yield hrtinv hrt
  | addFailed hhere hstack hcur =>
    refine ⟨i, h.user hstack rfl rfl ?_ fun _ _ hparked => hparked⟩
    intro j hj
    exact List.getElem?_set_ne (by omega)
  | waitEvent hhere hstack hcur hnum hrt =>
    refine ⟨i, h.user hstack (goto_none hstack) rfl ?_ ?_⟩
    . intro j hj
      exact List.getElem?_set_ne (by omega)
    . intro m _ hparked
      exact hparked.yield hrtinv hrt
  | retWaitEvent hhere | retSleep hhere =>
    rcases hinv.main.exists_stack (by rw [hhere]; exact id) (by rw [hhere]; simp) with ⟨q, hstack⟩
    exact ⟨i, h.user hstack (goto_none hstack) rfl (fun _ _ => rfl) fun _ _ hparked => hparked⟩
  | retWait hhere | epollWait hhere => exact absurd (hloop _ hhere trivial).2 (by simp)
  | handleIo hhere hi hev hrt =>
    rcases hloop _ hhere trivial with ⟨hstack, heq⟩
    injection heq with hi' hnum
    subst hi' hnum
    exact ⟨_, h.handleIo hsane hstack hnodup hcid hi hev hrt⟩
  | handledIo hhere hi =>
    rcases hloop _ hhere trivial with ⟨hstack, heq⟩
    injection heq with hi' hnum
    subst hi' hnum
    have hle := h.le
    refine ⟨_, h.le, .inr ⟨by omega, s.clock, ?_⟩, ?_, h.started, h.tag, h.parked⟩
    . rw [goto_point hstack, Function.update_self]
    . rw [resumed_append, h.resumed_eq]
      exact List.append_nil _
  | timersDone hhere | fire hhere => exact absurd (hloop _ hhere trivial).2 (by simp)

theorem Dispatched.run {s₁ : Loop} (hinit : Dispatched ms 0 [] s₁) (hinv : ∃ tr, s₁.Inv tr)
    (hsane : s₁.rt.Sane) (hnodup : (ms.map (·.co)).Nodup) (hcid : ∀ m ∈ ms, m.cid < 2 ^ 31)
    (h : (machine.startAt s₁).Run (Dispatching ms) tr s)
    : (∃ i, Dispatched ms i tr s) ∧ (∃ tr, s.Inv tr) ∧ s.rt.Sane := by
  apply h.invariant (I := fun tr s => (∃ i, Dispatched ms i tr s) ∧ (∃ tr, s.Inv tr) ∧ s.rt.Sane)
  . exact ⟨⟨0, hinit⟩, hinv, hsane⟩
  . intro tr s c s' es _ ih hp hstep
    rcases ih with ⟨⟨i, hi⟩, ⟨tr', hinv⟩, hsane⟩
    have hstep := Step.of_step hstep
    exact ⟨hi.step ⟨tr', hinv⟩ hsane hnodup hcid hp hstep, ⟨_, hinv.step hstep⟩, hstep.sane hsane⟩

theorem dispatched_init {ready : List EpollEvent} {removed : Bool} {top : Nat}
    {s₁ : Loop} (hinv : s.Inv tr) (hbatch : s.Batch ready ms) (hhere : s.here = .wait)
    (hstep : s.step (.go removed ready top) = .ok (s₁, es)) (hpolled : .retWait ∉ es)
    : Dispatched ms 0 [] s₁ := by
  have hstack := hinv.main.stack_eq_none (by rw [hhere]; trivial)
  have hlength : ready.length = ms.length := by
    have := congrArg List.length hbatch.tags
    rw [List.length_map, List.length_map] at this
    exact this
  have htake : ready.take EPOLL_CAP = ready := List.take_of_length_le hbatch.length_le
  have hgo : s.step (.go removed ready top) = .ok (s.wait ready) := by
    simp only [Loop.step, goStep, hhere]
  rw [hgo] at hstep
  injection hstep with hstep
  unfold Loop.wait at hstep
  split at hstep
  . split at hstep
    . injection hstep with _ hes
      rw [← hes] at hpolled
      exact absurd (List.mem_singleton_self _) hpolled
    . injection hstep with hs₁ _
      rw [← hs₁, htake]
      refine ⟨Nat.zero_le _, .inl ?_, rfl, ?_, ?_, ?_⟩
      . rw [← hlength]
        exact congrFun (goto_point hstack) none |>.trans (Function.update_self _ _ _)
      . intro h
        exact absurd hstack h
      . intro j m _ hm
        have htag : (ready.map (·.u64))[j]? = some (tagOf m.fd m.cid) := by
          rw [hbatch.tags, List.getElem?_map, hm]
          rfl
        rw [List.getElem?_map, Option.map_eq_some_iff] at htag
        rcases htag with ⟨ev, hev, htag⟩
        refine ⟨ev, ?_, htag⟩
        have hlt := (List.getElem?_eq_some_iff.mp hev).1
        exact (List.getElem?_append_left hlt).trans hev
      . intro j m _ hm
        exact hbatch.parked m (List.mem_of_getElem? hm)
  . injection hstep with _ hes
    rw [← hes] at hpolled
    exact absurd (List.mem_singleton_self _) hpolled

theorem Dispatched.point_eq {k num : Nat} (h : Dispatched ms i tr s)
    (hpoint : s.point none = .handleIo k num)
    : k = i ∧ num = ms.length := by
  rcases h.main with hmain | ⟨_, now, hmain⟩
  . rw [hmain] at hpoint
    injection hpoint with hk hnum
    exact ⟨hk.symm, hnum.symm⟩
  . rw [hmain] at hpoint
    contradiction

theorem Dispatched.resumes {m : Member} {removed : Bool} {ready : List EpollEvent} {top : Nat}
    (h : Dispatched ms i tr s) (hsane : s.rt.Sane) (hcid : ∀ m ∈ ms, m.cid < 2 ^ 31)
    (hhere : s.here = .handleIo i ms.length) (hm : ms[i]? = some m)
    : ∃ s', s.step (.go removed ready top) = .ok (s', [.resumed (BitVec.ofInt 32 m.cid)])
        ∧ s'.rt.stack = some m.co := by
  rcases h.next hsane hcid hm with ⟨ev, hev, hid, htoInt, hparked⟩
  rcases hsane.inv with ⟨l, hinv⟩
  rcases hinv.resume hparked.suspended with ⟨rt, hrt, hinv', _⟩
  have hlt := (List.getElem?_eq_some_iff.mp hm).1
  have hresume : (s.goto (.handleIo (i + 1) ms.length)).rt.resumeCid (fromuint64 ev.u64).2.toInt
    = .ok rt := by
    rw [htoInt, Runtime.resumeCid, Runtime.getByCid, goto, hparked.registered]
    exact hrt
  refine ⟨{ s.goto (.handleIo (i + 1) ms.length) with rt := rt }, ?_, hinv'.stack⟩
  rw [← hid]
  simp only [Loop.step, goStep, hhere, Loop.handleIo]
  rw [if_pos hlt, hev]
  simp only [hresume, bind, Except.bind]
  rfl

end Dispatched

/--
While `default_handle_io` runs, the coroutines it has resumed are the first ones of the batch, in
order. It resumes the next one whenever it goes on, and at the end it has resumed them all.
-/
theorem batch_dispatched {ready : List EpollEvent} {ms : List Member} {removed : Bool}
    {top : Nat} {s₁ s₂ : Loop} {tr₂ : List Event} (h : machine.Run (fun _ _ => True) tr s)
    (hbatch : s.Batch ready ms) (hhere : s.here = .wait)
    (hstep : s.step (.go removed ready top) = .ok (s₁, es)) (hpolled : .retWait ∉ es)
    (hrun : (machine.startAt s₁).Run (Dispatching ms) tr₂ s₂)
    : (∀ i num, s₂.point none = .handleIo i num → num = ms.length
        ∧ resumed tr₂ = (ms.take i).map (·.cid)
          ∧ (s₂.here = .handleIo i num → ∀ removed ready top,
            ∃ s₃ es, s₂.step (.go removed ready top) = .ok (s₃, es)
              ∧ (∀ m, ms[i]? = some m → es = [.resumed (BitVec.ofInt 32 m.cid)]
                ∧ s₃.rt.stack = some m.co)
              ∧ (ms[i]? = none → es = [] ∧ ∃ now, s₃.point none = .runTimers now)))
        ∧ ((∀ i num, s₂.point none ≠ .handleIo i num) → resumed tr₂ = ms.map (·.cid)) := by
  have hinv := run_inv h
  have hfirst := dispatched_init hinv hbatch hhere hstep hpolled
  have hinv₁ := hinv.step (.of_step hstep)
  have hsane₁ := (Step.of_step hstep).sane (run_sane h)
  rcases hfirst.run ⟨_, hinv₁⟩ hsane₁ hbatch.nodup hbatch.cid_lt hrun with
    ⟨⟨i, hi⟩, ⟨tr', hinv₂⟩, hsane₂⟩
  refine ⟨?_, ?_⟩
  . intro k num hpoint
    rcases hi.point_eq hpoint with ⟨rfl, rfl⟩
    refine ⟨rfl, hi.resumed_eq, ?_⟩
    intro hio removed ready top
    cases hm : ms[k]? with
    | some m =>
      rcases hi.resumes hsane₂ hbatch.cid_lt hio hm with ⟨s₃, hs₃, hstack⟩
      refine ⟨s₃, _, hs₃, ?_, nofun⟩
      intro m' hm'
      injection hm' with hm'
      rw [← hm']
      exact ⟨rfl, hstack⟩
    | none =>
      have hstack := hinv₂.main.stack_eq_none (by rw [hio]; trivial)
      have hk : ¬k < ms.length := by
        have := List.getElem?_eq_none_iff.mp hm
        omega
      refine ⟨s₂.goto (.runTimers s₂.clock), [], ?_, nofun, fun _ => ⟨rfl, s₂.clock, ?_⟩⟩
      . simp only [Loop.step, goStep, hio, Loop.handleIo]
        rw [if_neg hk]
      . rw [goto_point hstack, Function.update_self]
  . intro hdone
    rcases hi.main with hmain | ⟨hlength, _⟩
    . exact absurd hmain (hdone _ _)
    . rw [hi.resumed_eq, hlength, List.take_length]

def checkDispatching (ms : List Member) (s : Loop) (c : Cmd) : Bool :=
  (match s.point none with
    | .handleIo _ _ => true
    | _ => false)
  && match c with
    | .resume p => ms.all fun m => m.co != p
    | _ => true

theorem dispatching_of_check {ms : List Member} (h : checkDispatching ms s c)
    : Dispatching ms s c := by
  unfold checkDispatching at h
  rw [Bool.and_eq_true] at h
  rcases h with ⟨hpoint, hresume⟩
  constructor
  . split at hpoint
    . next i num hio => exact ⟨i, num, hio⟩
    . contradiction
  . rintro p rfl m hm
    have := List.all_eq_true.mp hresume m hm
    exact bne_iff_ne.mp this

-- Coroutine 1 creates coroutine 2, and both wait for a socket.
def bothWait : List Cmd :=
  [.run 1, .create 2, .waitEvent 5 .read true, .waitEvent 6 .read true]

def bothReady : List EpollEvent :=
  [⟨EPOLLIN, tagOf 6 1⟩, ⟨EPOLLIN, tagOf 5 2⟩]

def both : List Member :=
  [⟨1, 1, 6⟩, ⟨2, 2, 5⟩]

-- Coroutine 1 waits again and overwrites the first record by that, before coroutine 2 is resumed
-- and ends.
def dispatchBoth : List Cmd :=
  [.go false [] 0, .go true [] 0, .waitEvent 7 .write true, .go false [] 0, .go true [] 0,
    .finish, .go false [] 0]

theorem batch_dispatched_both
    : ∃ tr s s₁ es tr₂ s₂, machine.Run (fun _ _ => True) tr s ∧ s.Batch bothReady both
        ∧ s.here = .wait
        ∧ s.step (.go false bothReady 0) = .ok (s₁, es) ∧ .retWait ∉ es
        ∧ (machine.startAt s₁).Run (Dispatching both) tr₂ s₂ ∧ resumed tr₂ = [1, 2]
        ∧ s₁.events[0]? = some ⟨EPOLLIN, tagOf 6 1⟩
        ∧ s₂.events[0]? = some ⟨EPOLLOUT, tagOf 7 1⟩ := by
  have hexec : ((machine.exec (fun _ _ => True) bothWait).bind fun r =>
      (r.1.step (.go false bothReady 0)).toOption.bind fun r₁ =>
        ((machine.startAt r₁.1).exec (fun s c => checkDispatching both s c) dispatchBoth).map
          fun r₂ =>
          (r.1.here, (r.1.rt.heap 1).map (·.ctx.ctx), (r.1.rt.heap 2).map (·.ctx.ctx),
            r.1.rt.coroutines 1,
            r.1.rt.coroutines 2, r₁.2, r₁.1.events[0]?, r₂.1.events[0]?, r₂.1.point none))
      = some (.wait, some (some ⟨some 1, .swappedOut⟩), some (some ⟨some 2, .swappedOut⟩),
        some 1, some 2, [],
          some ⟨EPOLLIN, tagOf 6 1⟩, some ⟨EPOLLOUT, tagOf 7 1⟩, .runTimers 0) := by
    rfl
  rcases Option.bind_eq_some_iff.mp hexec with ⟨⟨s, tr⟩, hrun, hexec⟩
  rcases Option.bind_eq_some_iff.mp hexec with ⟨⟨s₁, es⟩, hstep, hexec⟩
  rcases Option.map_eq_some_iff.mp hexec with ⟨⟨s₂, tr₂⟩, hrun₂, hvalues⟩
  simp only [Prod.mk.injEq] at hvalues
  rcases hvalues with ⟨hhere, hco₁, hco₂, hreg₁, hreg₂, hes, hev, hev₂, hpoint⟩
  rcases Option.map_eq_some_iff.mp hco₁ with ⟨co₁, hco₁, hctx₁⟩
  rcases Option.map_eq_some_iff.mp hco₂ with ⟨co₂, hco₂, hctx₂⟩
  have hrun := Machine.run_of_exec hrun
  have hstep : s.step (.go false bothReady 0) = .ok (s₁, es) := ok_of_toOption hstep
  have hrun₂ : (machine.startAt s₁).Run (Dispatching both) tr₂ s₂ := by
    have hcheck : ∀ s c, checkDispatching both s c → Dispatching both s c :=
      fun _ _ => dispatching_of_check
    apply Machine.Run.mono hcheck
    exact Machine.run_of_exec hrun₂
  have hbatch : s.Batch bothReady both := by
    refine ⟨rfl, by decide, by decide, ?_, by decide⟩
    intro m hm
    rcases List.mem_cons.mp hm with rfl | hm
    . exact ⟨⟨co₁, hco₁, hctx₁⟩, hreg₁⟩
    . rw [List.mem_singleton] at hm
      subst hm
      exact ⟨⟨co₂, hco₂, hctx₂⟩, hreg₂⟩
  have hpolled : .retWait ∉ es := by
    rw [hes]
    simp
  have hall := (batch_dispatched hrun hbatch hhere hstep hpolled hrun₂).2
  refine ⟨tr, s, s₁, es, tr₂, s₂, hrun, hbatch, hhere, hstep, hpolled, hrun₂, hall ?_, hev, hev₂⟩
  intro i num hio
  rw [hpoint] at hio
  contradiction

end Loop
end Fsw

import Mathlib.Data.List.Perm.Subperm
import Fsw.Event.Lemmas.Socket

namespace Fsw
namespace Sockets

section Loop

variable {s s' : Loop} {es : List Loop.Event} {c : Loop.Cmd}

def Waiting (s : Loop) (p : Addr) : Prop :=
  ∃ call fd, s.point (some p) = .waitEvent call fd

def Bounded (s : Loop) : Prop :=
  ∃ l : List Addr, l.Nodup ∧ (∀ p ∈ l, Waiting s p) ∧ s.eventNum ≤ l.length

theorem eventNum_quiet (hquiet : Quiet s c) (hstep : Loop.Step s c es s')
    : s'.eventNum = s.eventNum := by
  cases hstep with
  | idle | tick | create | yield | resume | finish | sleep | addFailed | retSleep
    | retWait | epollWait | handleIo
  | handledIo | timersDone | fire => rfl
  | run => exact absurd rfl (hquiet.1 _)
  | waitEvent => exact absurd rfl (hquiet.2.1 _ _)
  | retWaitEvent hhere => exact absurd rfl (hquiet.2.2 _ _ hhere _ _ _)

theorem Bounded.of_points (h : Bounded s) (hnum : s'.eventNum = s.eventNum)
    (hpoint : ∀ p, Waiting s p → Waiting s' p)
    : Bounded s' := by
  rcases h with ⟨l, hnodup, hwaits, hle⟩
  refine ⟨l, hnodup, ?_, by rw [hnum]; exact hle⟩
  intro p hp
  exact hpoint p (hwaits p hp)

theorem Bounded.entered {q : Addr} {fd : BitVec 32} {event : Loop.EventType} (h : Bounded s)
    (hhere : s.here = .user) (hstack : s.rt.stack = some q) (hentered : Entered s s' q fd event)
    : Bounded s' := by
  rcases h with ⟨l, hnodup, hwaits, hle⟩
  have hq : q ∉ l := by
    intro hq
    rcases hwaits q hq with ⟨call, fd', hpoint⟩
    exact here_of_waits hpoint hhere hstack
  refine ⟨q :: l, List.nodup_cons.mpr ⟨hq, hnodup⟩, ?_, ?_⟩
  . intro p hp
    rcases List.mem_cons.mp hp with rfl | hp
    . exact ⟨s.calls, fd, by rw [hentered.point, Function.update_self]⟩
    . rcases hwaits p hp with ⟨call, fd', hpoint⟩
      refine ⟨call, fd', ?_⟩
      rw [hentered.point, Function.update_of_ne, hpoint]
      intro heq
      injection heq with heq
      exact hq (heq ▸ hp)
  . rw [hentered.eventNum, List.length_cons]
    omega

theorem Bounded.left {q : Addr} {call : Nat} {fd : BitVec 32} {ready : List EpollEvent}
    {top : Nat} (h : Bounded s) (hhere : s.here = .waitEvent call fd) (hstack : s.rt.stack = some q)
    (hloop : s.step (.go true ready top) = .ok (s', es))
    : Bounded s' := by
  rw [step_go_waitEvent hhere] at hloop
  rcases ok_pair hloop with ⟨rfl, _⟩
  rcases h with ⟨l, hnodup, hwaits, hle⟩
  have hlength : (l.length : Int) - 1 ≤ (l.erase q).length := by
    have := List.le_length_erase (a := q) (l := l)
    omega
  refine ⟨l.erase q, hnodup.erase q, ?_, ?_⟩
  . intro p hp
    rw [hnodup.mem_erase_iff] at hp
    rcases hwaits p hp.2 with ⟨call', fd', hpoint⟩
    refine ⟨call', fd', ?_⟩
    dsimp only
    rw [Loop.goto_point hstack, Function.update_of_ne, hpoint]
    intro heq
    injection heq with heq
    exact hp.1 heq
  . dsimp only
    rw [if_pos rfl]
    omega

-- Whoever has called `create` or `resume` is in his own code.
def Callers (s : Loop) : Prop :=
  ∃ l, s.rt.Inv l ∧ ∀ q ∈ l.tail, s.point (some q) = .user

theorem Callers.of_stack {p : Addr} (h : Callers s) (hstack : s.rt.stack = some p)
    : ∃ l, s.rt.Inv (p :: l) ∧ p ∉ l ∧ ∀ q ∈ l, s.point (some q) = .user := by
  rcases h with ⟨l, hinv, htail⟩
  cases l with
  | nil =>
    rw [hinv.stack] at hstack
    contradiction
  | cons r l =>
    rw [hinv.stack, List.head?_cons, Option.some.injEq] at hstack
    subst hstack
    exact ⟨l, hinv, (List.nodup_cons.mp hinv.nodup).1, htail⟩

theorem Callers.goto {pt : Loop.Point} (h : Callers s) (hrt : s'.rt = s.rt)
    (hpoint : s'.point = (s.goto pt).point)
    : Callers s' := by
  rcases h with ⟨l, hinv, htail⟩
  refine ⟨l, by rw [hrt]; exact hinv, ?_⟩
  intro q hq
  rw [hpoint, Loop.goto_point rfl, Function.update_of_ne, htail q hq]
  intro heq
  rw [hinv.stack] at heq
  cases l with
  | nil => contradiction
  | cons r l =>
    injection heq with heq
    exact (List.nodup_cons.mp hinv.nodup).1 (heq ▸ hq)

theorem Callers.enter {p q : Addr} {rt : Runtime} (h : Callers s) (hhere : s.here = .user)
    (hstack : s.rt.stack = some q) (hrt : s'.rt = rt) (hinv' : ∀ l, s.rt.Inv l → rt.Inv (p :: l))
    (hpoint : ∀ r, s.point (some r) = .user → s'.point (some r) = .user)
    : Callers s' := by
  rcases h.of_stack hstack with ⟨l, hinv, _, htail⟩
  refine ⟨p :: q :: l, by rw [hrt]; exact hinv' _ hinv, ?_⟩
  intro r hr
  apply hpoint
  rcases List.mem_cons.mp hr with rfl | hr
  . rw [Loop.here, hstack] at hhere
    exact hhere
  . exact htail r hr

theorem Callers.start {p : Addr} (h : Callers s) (hstack : s.rt.stack = none)
    (hinv' : ∀ l, s.rt.Inv l → s'.rt.Inv (p :: l))
    : Callers s' := by
  rcases h with ⟨l, hinv, _⟩
  cases l with
  | nil => exact ⟨[p], hinv' [] hinv, nofun⟩
  | cons r l =>
    rw [hinv.stack] at hstack
    contradiction

theorem Callers.leave {p : Addr} (h : Callers s) (hstack : s.rt.stack = some p)
    (hinv' : ∀ l, s.rt.Inv (p :: l) → s'.rt.Inv l)
    (hpoint : ∀ q, q ≠ p → s'.point (some q) = s.point (some q))
    : Callers s' := by
  rcases h.of_stack hstack with ⟨l, hinv, hp, htail⟩
  refine ⟨l, hinv' l hinv, ?_⟩
  intro q hq
  have hmem := List.mem_of_mem_tail hq
  rw [hpoint q fun heq => hp (heq ▸ hmem), htail q hmem]

theorem goto_of_ne {p q : Addr} {pt : Loop.Point} (hstack : s.rt.stack = some p) (hne : q ≠ p)
    : (s.goto pt).point (some q) = s.point (some q) := by
  rw [Loop.goto_point hstack, Function.update_of_ne]
  intro heq
  injection heq with heq
  exact hne heq

theorem inv_of_yield {p : Addr} {rt : Runtime} (hrt : s.rt.yield = .ok rt) (l : List Addr)
    (h : s.rt.Inv (p :: l))
    : rt.Inv l := by
  rcases h.yield_ok hrt with ⟨_, _, heq, hinv, _⟩
  injection heq with _ heq
  rw [heq]
  exact hinv

theorem Callers.step (h : Callers s) (hmain : s.Main) (hstep : Loop.Step s c es s')
    : Callers s' := by
  have hnone {pt : Loop.Point} (hhere : s.here = pt) (hpt : pt.IsLoop) : s.rt.stack = none :=
    hmain.stack_eq_none (by rw [hhere]; exact hpt)
  cases hstep with
  | idle | tick | addFailed => exact h
  | retWaitEvent | retSleep | retWait | epollWait | handledIo | timersDone => exact h.goto rfl rfl
  | run hhere hstack hp hrt => exact h.start hstack fun l hinv => (hinv.create_ok hp hrt).1
  | create hhere hstack hp hrt =>
    refine h.enter hhere hstack rfl (fun l hinv => (hinv.create_ok hp hrt).1) ?_
    intro r hr
    dsimp only
    rw [Function.update_apply]
    split
    . rfl
    . exact hr
  | resume hhere hstack hrt =>
    exact h.enter hhere hstack rfl (fun l hinv => (hinv.resume_ok hrt).2.1) fun _ hr => hr
  | yield hhere hstack hrt | sleep hhere hstack _ hrt | waitEvent hhere hstack _ _ hrt =>
    exact h.leave hstack (inv_of_yield hrt) fun q hq => goto_of_ne hstack hq
  | finish hhere hstack hrt =>
    refine h.leave hstack ?_ fun _ _ => rfl
    intro l hinv
    rcases hinv.finish_ok hstack hrt with ⟨t, heq, hinv', _⟩
    injection heq with _ heq
    rw [heq]
    exact hinv'
  | handleIo hhere _ _ hrt =>
    rcases Runtime.resume_of_resumeCid hrt with ⟨p, _, hrt⟩
    exact h.start (hnone hhere trivial) fun l hinv => (hinv.resume_ok hrt).2.1
  | fire hhere _ _ _ hrt => exact h.start (hnone hhere trivial) fun l hinv =>
    (hinv.resume_ok hrt).2.1

theorem Callers.suspended {p : Addr} (h : Callers s) (halive : Alive s) (hp : Waiting s p)
    (hne : s.rt.stack ≠ some p)
    : s.rt.Suspended p := by
  rcases h with ⟨l, hinv, htail⟩
  rcases hp with ⟨call, fd, hpoint⟩
  rw [hinv.suspended_iff]
  refine ⟨halive p call fd hpoint, ?_⟩
  intro hmem
  cases l with
  | nil => contradiction
  | cons r l =>
    rcases List.mem_cons.mp hmem with rfl | hmem
    . exact hne hinv.stack
    . rw [htail p hmem] at hpoint
      contradiction

end Loop

section Count

variable {s s' : Sockets} {es tr : List Loop.Event} {c : Cmd}

-- Whoever comes out of `wait_event` finds his descriptor in the interest list.
def Kept (s : Sockets) (c : Cmd) : Prop :=
  ∀ call fd ready top, s.loop.here = .waitEvent call fd → c = .go ready top → s.interest fd ≠ none

theorem step_callers (h : Callers s.loop) (hmain : s.loop.Main) (hstep : Step s c es s')
    : Callers s'.loop := by
  cases hstep with
  | idle | call | close | leave => exact h
  | quiet _ hloop | run _ _ hloop | addFailed _ _ hloop | wait _ _ _ _ hloop | removed _ _ _ hloop
  | lost _ _ _ hloop => exact h.step hmain (.of_step hloop)

theorem step_bounded (h : Bounded s.loop) (hinv : s.Inv) (hkept : s.Kept c) (hstep : Step s c es s')
    : Bounded s'.loop := by
  have hquiet {lc : Loop.Cmd} {loop : Loop} (hquiet : Quiet s.loop lc)
    (hloop : s.loop.step lc = .ok (loop, es))
      : Bounded loop := by
    have hstep := Loop.Step.of_step hloop
    apply h.of_points (eventNum_quiet hquiet hstep)
    rintro p ⟨call, fd, hpoint⟩
    exact ⟨call, fd, (point_quiet hinv.alive hquiet hstep p call fd).mpr hpoint⟩
  cases hstep with
  | idle | call | close | leave => exact h
  | quiet hq hloop => exact hquiet hq hloop
  | run hhere hstack hloop =>
    cases Loop.Step.of_step hloop with
    | idle => exact h
    | run => exact ⟨[], List.nodup_nil, nofun, Int.le_refl 0⟩
  | addFailed hhere hstack hloop => exact hquiet quiet_addFailed hloop
  | wait hhere hstack hcall hfree hloop =>
    exact h.entered hhere hstack (entered_of_step hhere hstack hloop)
  | removed hhere hstack hreg hloop => exact h.left hhere hstack hloop
  | lost hhere hstack hreg hloop => exact absurd hreg (hkept _ _ _ _ hhere rfl)

theorem run_callers {P : Sockets → Cmd → Prop} (h : machine.Run P tr s) : Callers s.loop := by
  apply h.invariant (I := fun _ s => Callers s.loop)
  . exact ⟨[], Runtime.inv_init, nofun⟩
  . intro tr s c s' es hrun ih _ hstep
    have hmain := (run_inv hrun).main
    exact step_callers ih hmain (.of_step hmain hstep)

theorem run_bounded (h : machine.Run Kept tr s) : Bounded s.loop := by
  apply h.invariant (I := fun _ s => Bounded s.loop)
  . exact ⟨[], List.nodup_nil, nofun, Int.le_refl 0⟩
  . intro tr s c s' es hrun ih hkept hstep
    have hinv := run_inv hrun
    exact step_bounded ih hinv hkept (.of_step hinv.main hstep)

-- There are at least as many as are counted, so all of them are.
theorem waiting_iff {s : Loop} {l : List Addr} (hinv : s.Inv tr) (hnodup : l.Nodup)
    (hwaits : ∀ p ∈ l, Waiting s p) (hle : s.eventNum ≤ l.length) (p : Addr)
    : p ∈ l ↔ Waiting s p := by
  refine ⟨hwaits p, ?_⟩
  rintro ⟨call, fd, hpoint⟩
  rcases hinv.counted with ⟨l', hmem, hle'⟩
  have hsubset : l ⊆ l' := by
    intro q hq
    rcases hwaits q hq with ⟨call, fd, hpoint⟩
    exact hmem q call fd hpoint
  have hperm := (hnodup.subperm hsubset).perm_of_length_le (by omega)
  exact hperm.mem_iff.mpr (hmem p call fd hpoint)

theorem stops {ready : List EpollEvent} {top : Nat} (hrunning : s.loop.running > 0)
    (hhere : s.loop.here = .wait) (htimers : s.loop.timers = []) (hnum : s.loop.eventNum = 0)
    : ∃ s', s.step (.go ready top) = .ok (s', [.retWait]) := by
  have hloop : s.loop.step (.go false ready top)
    = .ok ({ s.loop with running := 0 }.goto .user, [.retWait]) := by
    simp only [Loop.step, Loop.goStep, hhere, Loop.wait]
    rw [if_pos hrunning, htimers, hnum]
    rfl
  refine ⟨{ s with loop := { s.loop with running := 0 }.goto .user }, ?_⟩
  have hgo : s.go ready top = s.lift (.go false ready top) := by
    unfold go
    split
    . next hwait =>
      rw [hhere] at hwait
      contradiction
    . rfl
  rw [step, hgo, lift, hloop]
  rfl

/--
If everybody who comes out of `wait_event` finds his descriptor in the interest list, `event_num` is
at most the number of coroutines in `wait_event`. They are suspended, unless one of them has just
been resumed. So the loop stops when there are none of them and there is no timer.
-/
theorem eventNum_le (h : machine.Run Kept tr s)
    : ∃ l : List Addr, l.Nodup ∧ (∀ p, p ∈ l ↔ Waiting s.loop p)
        ∧ (∀ p ∈ l, s.loop.rt.stack ≠ some p → s.loop.rt.Suspended p)
        ∧ s.loop.eventNum ≤ l.length
        ∧ (s.loop.here = .wait → s.loop.timers = [] → l = [] → ∀ ready top,
          ∃ s', s.step (.go ready top) = .ok (s', [.retWait])) := by
  have hinv := run_inv h
  have hcallers := run_callers h
  rcases hinv.loop with ⟨tr', hloop⟩
  rcases run_bounded h with ⟨l, hnodup, hwaits, hle⟩
  refine ⟨l, hnodup, waiting_iff hloop hnodup hwaits hle, ?_, hle, ?_⟩
  . intro p hp hne
    exact hcallers.suspended hinv.alive (hwaits p hp) hne
  . intro hhere htimers hnil ready top
    have hrunning := hloop.main.running_pos (by rw [hhere]; trivial)
    rcases hloop.counted with ⟨l', _, hle'⟩
    rw [hnil, List.length_nil] at hle
    exact stops hrunning hhere htimers (by omega)

def checkKept (s : Sockets) (c : Cmd) : Bool :=
  match s.loop.here, c with
  | .waitEvent _ fd, .go _ _ => (s.interest fd).isSome
  | _, _ => true

theorem kept_of_check (h : s.checkKept c) : s.Kept c := by
  rintro call fd ready top hhere rfl hnone
  unfold checkKept at h
  rw [hhere] at h
  dsimp only at h
  rw [hnone] at h
  contradiction

theorem not_waiting_of_call (h : s.Inv) (hcall : ∀ p, s.call p = none) (p : Addr)
    : ¬Waiting s.loop p := by
  rintro ⟨call, fd, hpoint⟩
  rcases h.waits p call fd hpoint with ⟨op, hop⟩
  rw [hcall p] at hop
  contradiction

end Count

-- Coroutine 2 waits for socket 5 and coroutine 1, which has created it, for socket 6. Both sockets
-- are readable.
def bothRecv : List Cmd :=
  [.own (.run 1), .own (.create 2), .call .recv 5, .result (.again true),
    .call .recv 6, .result (.again true),
    .go [⟨EPOLLIN, tagOf 6 1⟩, ⟨EPOLLIN, tagOf 5 2⟩] 0, .go [] 0, .go [] 0, .result .done]

-- Coroutine 1 ends, then coroutine 2 comes out of `recv` and ends.
def bothEnd : List Cmd :=
  [.own .finish, .go [] 0, .go [] 0, .result .done, .own .finish, .go [] 0, .go [] 0]

def noCalls : Addr → Option (Op × BitVec 32) :=
  Function.update
    (Function.update (Function.update (Function.update (fun _ => none) 2 (some (.recv, 5))) 1
    (some (.recv, 6))) 1 none) 2 none

theorem noCalls_eq (p : Addr) : noCalls p = none := by
  unfold noCalls
  simp only [Function.update_apply]
  split
  . rfl
  . split
    . rfl
    . rfl

theorem eventNum_le_both
    : ∃ tr s s', machine.Run Kept tr s ∧ s.loop.here = .wait ∧ s.loop.timers = []
        ∧ (∀ p, ¬Waiting s.loop p)
        ∧ s.step (.go [] 0) = .ok (s', [.retWait]) := by
  have hexec : ((machine.exec (fun s c => s.checkKept c) (bothRecv ++ bothEnd)).map fun r =>
      (r.1.loop.here, r.1.loop.timers, r.1.call)) = some (.wait, [], noCalls) := by
    rfl
  rcases Option.map_eq_some_iff.mp hexec with ⟨⟨s, tr⟩, hrun, hvalues⟩
  simp only [Prod.mk.injEq] at hvalues
  rcases hvalues with ⟨hhere, htimers, hcall⟩
  have hrun : machine.Run Kept tr s := (Machine.run_of_exec hrun).mono fun _ _ => kept_of_check
  have hwaiting := not_waiting_of_call (run_inv hrun) fun p => by rw [hcall, noCalls_eq]
  rcases eventNum_le hrun with ⟨l, _, hl, _, _, hstops⟩
  have hnil : l = [] := List.eq_nil_iff_forall_not_mem.mpr fun p hp => hwaiting p ((hl p).mp hp)
  rcases hstops hhere htimers hnil [] 0 with ⟨s', hs'⟩
  exact ⟨tr, s, s', hrun, hhere, htimers, hwaiting, hs'⟩

-- Coroutine 1 closes the socket that coroutine 2 has been reported for, before it is resumed.
theorem eventNum_leaks
    : ∃ tr s s' es, machine.Run (fun _ _ => True) tr s ∧ s.loop.here = .wait ∧ s.loop.timers = []
        ∧ (∀ p, ¬Waiting s.loop p) ∧ s.loop.eventNum = 1
        ∧ s.step (.go [] 0) = .ok (s', es) ∧ .retWait ∉ es := by
  have hexec : ((machine.exec (fun _ _ => True) (bothRecv ++ [.close 5] ++ bothEnd)).bind fun r =>
      (r.1.step (.go [] 0)).toOption.map fun r' =>
        (r.1.loop.here, r.1.loop.timers, r.1.call, r.1.loop.eventNum, r'.2))
          = some (.wait, [], noCalls, 1, []) := by
    rfl
  rcases Option.bind_eq_some_iff.mp hexec with ⟨⟨s, tr⟩, hrun, hexec⟩
  rcases Option.map_eq_some_iff.mp hexec with ⟨⟨s', es⟩, hstep, hvalues⟩
  simp only [Prod.mk.injEq] at hvalues
  rcases hvalues with ⟨hhere, htimers, hcall, hnum, hes⟩
  have hrun := Machine.run_of_exec hrun
  have hwaiting := not_waiting_of_call (run_inv hrun) fun p => by rw [hcall, noCalls_eq]
  exact ⟨tr, s, s', es, hrun, hhere, htimers, hwaiting, hnum, ok_of_toOption hstep,
    by rw [hes]; simp⟩

end Sockets
end Fsw

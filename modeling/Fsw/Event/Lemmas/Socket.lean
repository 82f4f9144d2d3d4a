import Fsw.Event.Impl.Socket
import Fsw.Event.Lemmas.Dispatch

namespace Fsw
namespace Sockets

-- What goes on in the event loop without a coroutine that begins or stops to wait for a socket
def Quiet (s : Loop) (c : Loop.Cmd) : Prop :=
  (∀ p, c ≠ .run p) ∧ (∀ fd event, c ≠ .waitEvent fd event true)
    ∧ ∀ call fd, s.here = .waitEvent call fd → ∀ removed ready top, c ≠ .go removed ready top

inductive Step (s : Sockets) : Cmd → List Loop.Event → Sockets → Prop where
  | idle {c : Cmd} : Step s c [] s
  | quiet {c : Cmd} {lc : Loop.Cmd} {loop : Loop} {es : List Loop.Event} (hquiet : Quiet s.loop lc)
      (hloop : s.loop.step lc = .ok (loop, es))
      : Step s c es { s with loop := loop }
  | run {p : Addr} {loop : Loop} {es : List Loop.Event} (hhere : s.loop.here = .user)
      (hstack : s.loop.rt.stack = none) (hloop : s.loop.step (.run p) = .ok (loop, es))
      : Step s (.own (.run p)) es { s with loop := loop, interest := fun _ => none }
  | call {p : Addr} {op : Op} {fd : BitVec 32} (hhere : s.loop.here = .user)
      (hstack : s.loop.rt.stack = some p)
      : Step s (.call op fd) [] { s with call := Function.update s.call p (some (op, fd)) }
  | close {fd : BitVec 32}
      : Step s (.close fd) [] { s with interest := Function.update s.interest fd none }
  | leave {p : Addr} {r : Result} (hhere : s.loop.here = .user) (hstack : s.loop.rt.stack = some p)
      : Step s (.result r) [] (s.leave p)
  | addFailed {p : Addr} {op : Op} {fd : BitVec 32} {r : Result}
      {loop : Loop} {es : List Loop.Event} (hhere : s.loop.here = .user)
      (hstack : s.loop.rt.stack = some p)
      (hloop : s.loop.step (.waitEvent fd op.awaited false) = .ok (loop, es))
      : Step s (.result r) es ({ s with loop := loop }.leave p)
  | wait {p : Addr} {op : Op} {fd : BitVec 32} {loop : Loop} {es : List Loop.Event}
      (hhere : s.loop.here = .user) (hstack : s.loop.rt.stack = some p)
      (hcall : s.call p = some (op, fd)) (hfree : s.interest fd = none)
      (hloop : s.loop.step (.waitEvent fd op.awaited true) = .ok (loop, es))
      : Step s (.result (.again true)) es
          { s with loop := loop, interest := Function.update s.interest fd loop.events[0]? }
  | removed {p : Addr} {call : Nat} {fd : BitVec 32} {ready : List EpollEvent}
      {top : Nat} {loop : Loop} {es : List Loop.Event} (hhere : s.loop.here = .waitEvent call fd)
      (hstack : s.loop.rt.stack = some p) (hreg : s.interest fd ≠ none)
      (hloop : s.loop.step (.go true ready top) = .ok (loop, es))
      : Step s (.go ready top) es
          { s with loop := loop, interest := Function.update s.interest fd none }
  | lost {p : Addr} {call : Nat} {fd : BitVec 32} {ready : List EpollEvent}
      {top : Nat} {loop : Loop} {es : List Loop.Event} (hhere : s.loop.here = .waitEvent call fd)
      (hstack : s.loop.rt.stack = some p) (hreg : s.interest fd = none)
      (hloop : s.loop.step (.go false ready top) = .ok (loop, es))
      : Step s (.go ready top) es { s.leave p with loop := loop }

section Cases

variable {s s' : Sockets} {es : List Loop.Event} {c : Cmd} {lc : Loop.Cmd}

theorem lift_eq_ok (h : s.lift lc = .ok (s', es))
    : ∃ loop, s.loop.step lc = .ok (loop, es) ∧ s' = { s with loop := loop } := by
  rcases bind_eq_ok h with ⟨⟨loop, es'⟩, hloop, h⟩
  rcases ok_pair h with ⟨hs, hes⟩
  rw [← hes]
  exact ⟨loop, hloop, hs.symm⟩

theorem Step.of_lift (hquiet : Quiet s.loop lc) (h : s.lift lc = .ok (s', es))
    : Step s c es s' := by
  rcases lift_eq_ok h with ⟨loop, hloop, rfl⟩
  exact .quiet hquiet hloop

theorem Step.of_own (h : s.own lc = .ok (s', es)) : Step s (.own lc) es s' := by
  cases lc with
  | tick now => exact .of_lift (by simp [Quiet]) h
  | run p =>
    simp only [own] at h
    split at h
    . next hcond =>
      rcases lift_eq_ok h with ⟨loop, hloop, rfl⟩
      exact .run hcond.1 hcond.2.1 hloop
    . rcases ok_pair h with ⟨rfl, rfl⟩
      exact .idle
  | waitEvent fd event added | go removed ready top =>
    rcases ok_pair h with ⟨rfl, rfl⟩
    exact .idle
  | create p | yield | resume p | finish | sleep seconds =>
    simp only [own] at h
    split at h
    . exact .of_lift (by simp [Quiet]) h
    . rcases ok_pair h with ⟨rfl, rfl⟩
      exact .idle

theorem Step.of_again {p : Addr} {op : Op} {fd : BitVec 32} {added : Bool}
    (hhere : s.loop.here = .user) (hstack : s.loop.rt.stack = some p)
    (hcall : s.call p = some (op, fd)) (h : s.again p op fd added = .ok (s', es))
    : Step s (.result (.again added)) es s' := by
  unfold again at h
  split at h
  . next hadded =>
    rcases hadded with ⟨rfl, hfree⟩
    rcases bind_eq_ok h with ⟨⟨loop, es'⟩, hloop, h⟩
    rcases ok_pair h with ⟨rfl, rfl⟩
    exact .wait hhere hstack hcall hfree hloop
  . rcases bind_eq_ok h with ⟨⟨loop, es'⟩, hloop, h⟩
    rcases ok_pair h with ⟨rfl, rfl⟩
    exact .addFailed hhere hstack hloop

theorem Step.of_result {r : Result} (h : s.result r = .ok (s', es)) : Step s (.result r) es s' := by
  unfold result at h
  split at h
  . rcases ok_pair h with ⟨rfl, rfl⟩
    exact .idle
  . next p hstack =>
    split at h
    . rcases ok_pair h with ⟨rfl, rfl⟩
      exact .idle
    . next op fd hcall =>
      split at h
      . next hhere =>
        cases r with
        | again added => exact .of_again hhere hstack hcall h
        | more =>
          dsimp only at h
          split at h
          . rcases ok_pair h with ⟨rfl, rfl⟩
            exact .idle
          . rcases ok_pair h with ⟨rfl, rfl⟩
            exact .leave hhere hstack
        | done =>
          rcases ok_pair h with ⟨rfl, rfl⟩
          exact .leave hhere hstack
      . rcases ok_pair h with ⟨rfl, rfl⟩
        exact .idle

theorem Step.of_go {ready : List EpollEvent} {top : Nat} (hmain : s.loop.Main)
    (h : s.go ready top = .ok (s', es))
    : Step s (.go ready top) es s' := by
  unfold go at h
  split at h
  . next p call fd hstack hhere =>
    split at h
    . next hreg =>
      rcases lift_eq_ok h with ⟨loop, hloop, rfl⟩
      exact .removed hhere hstack (Option.isSome_iff_ne_none.mp hreg) hloop
    . next hreg =>
      rcases lift_eq_ok h with ⟨loop, hloop, rfl⟩
      exact .lost hhere hstack (Option.not_isSome_iff_eq_none.mp hreg) hloop
  . next hother =>
    refine .of_lift ⟨by simp, by simp, ?_⟩ h
    intro call fd hhere
    rcases hmain.exists_stack (by rw [hhere]; exact id) (by rw [hhere]; simp) with ⟨p, hstack⟩
    exact absurd hhere (hother p call fd hstack)

theorem Step.of_step (hmain : s.loop.Main) (h : s.step c = .ok (s', es)) : Step s c es s' := by
  cases c with
  | own lc => exact .of_own h
  | call op fd =>
    simp only [step] at h
    split at h
    . rcases ok_pair h with ⟨rfl, rfl⟩
      exact .idle
    . next p hstack =>
      split at h
      . next hcond =>
        rcases ok_pair h with ⟨rfl, rfl⟩
        exact .call hcond.1 hstack
      . rcases ok_pair h with ⟨rfl, rfl⟩
        exact .idle
  | result r => exact .of_result h
  | close fd =>
    simp only [step] at h
    split at h
    . rcases ok_pair h with ⟨rfl, rfl⟩
      exact .close
    . rcases ok_pair h with ⟨rfl, rfl⟩
      exact .idle
  | go ready top => exact .of_go hmain h

end Cases

section Loop

variable {s s' : Loop} {es : List Loop.Event} {c : Loop.Cmd}

def Alive (s : Loop) : Prop :=
  ∀ p call fd, s.point (some p) = .waitEvent call fd → s.rt.Live p

theorem waitEvent_iff_of_update {x : Option Addr} {pt : Loop.Point}
    (hpoint : s'.point = Function.update s.point x pt)
    (hbefore : ∀ call fd, s.point x ≠ .waitEvent call fd)
    (hafter : ∀ call fd, pt ≠ .waitEvent call fd) (p : Addr) (call : Nat) (fd : BitVec 32)
    : s'.point (some p) = .waitEvent call fd ↔ s.point (some p) = .waitEvent call fd := by
  rw [hpoint, Function.update_apply]
  split
  . next hx =>
    rw [hx]
    exact ⟨fun h => absurd h (hafter call fd), fun h => absurd h (hbefore call fd)⟩
  . exact Iff.rfl

theorem waitEvent_iff_of_goto {pt : Loop.Point} (hpoint : s'.point = (s.goto pt).point)
    (hhere : ∀ call fd, s.here ≠ .waitEvent call fd) (hpt : ∀ call fd, pt ≠ .waitEvent call fd)
    (p : Addr) (call : Nat) (fd : BitVec 32)
    : s'.point (some p) = .waitEvent call fd ↔ s.point (some p) = .waitEvent call fd :=
  waitEvent_iff_of_update hpoint hhere hpt p call fd

theorem point_quiet (halive : Alive s) (hquiet : Quiet s c) (hstep : Loop.Step s c es s')
    (p : Addr) (call : Nat) (fd : BitVec 32)
    : s'.point (some p) = .waitEvent call fd ↔ s.point (some p) = .waitEvent call fd := by
  cases hstep with
  | idle | tick | resume | finish | addFailed | fire => exact Iff.rfl
  | run => exact absurd rfl (hquiet.1 _)
  | create hhere hstack hp hrt =>
    refine waitEvent_iff_of_update rfl ?_ (by simp) p call fd
    intro call fd hwaits
    have := halive _ call fd hwaits
    simp [Runtime.Live, hp] at this
  | yield hhere | sleep hhere | retSleep hhere | retWait hhere | epollWait hhere
    | handleIo hhere | handledIo hhere
  | timersDone hhere => exact waitEvent_iff_of_goto rfl (by simp [hhere]) (by simp) p call fd
  | waitEvent => exact absurd rfl (hquiet.2.1 _ _)
  | retWaitEvent hhere => exact absurd rfl (hquiet.2.2 _ _ hhere _ _ _)

theorem live_step {p : Addr} (hsane : s.rt.Sane) (hstep : Loop.Step s c es s') (hlive : s.rt.Live p)
    (hne : s.here = .user → s.rt.stack ≠ some p)
    : s'.rt.Live p := by
  rcases hsane.inv with ⟨l, hinv⟩
  cases hstep with
  | idle | tick | addFailed | retWaitEvent | retSleep | retWait | epollWait | handledIo
    | timersDone => exact hlive
  | run _ _ hp hrt | create _ _ hp hrt =>
    rcases hinv.create_ok hp hrt with ⟨_, hlive', _⟩
    exact (hlive' p).mpr (.inl hlive)
  | yield _ _ hrt | sleep _ _ _ hrt | waitEvent _ _ _ _ hrt =>
    rcases hinv.yield_ok hrt with ⟨_, _, _, _, hsame⟩
    exact (hsame.live p).mpr hlive
  | resume _ _ hrt | fire _ _ _ _ hrt =>
    rcases hinv.resume_ok hrt with ⟨_, _, hsame⟩
    exact (hsame.live p).mpr hlive
  | handleIo _ _ _ hrt =>
    rcases Runtime.resume_of_resumeCid hrt with ⟨q, _, hrt⟩
    rcases hinv.resume_ok hrt with ⟨_, _, hsame⟩
    exact (hsame.live p).mpr hlive
  | finish hhere hstack hrt =>
    rcases hinv.finish_ok hstack hrt with ⟨t, _, _, hlive'⟩
    refine (hlive' p).mpr ⟨hlive, ?_⟩
    intro hp
    exact hne hhere (by rw [hstack, hp])

theorem here_of_waits {p : Addr} {call : Nat} {fd : BitVec 32}
    (h : s.point (some p) = .waitEvent call fd) (hhere : s.here = .user)
    : s.rt.stack ≠ some p := by
  intro hstack
  rw [Loop.here, hstack, h] at hhere
  contradiction

theorem Alive.quiet (h : Alive s) (hsane : s.rt.Sane) (hquiet : Quiet s c)
    (hstep : Loop.Step s c es s')
    : Alive s' := by
  intro p call fd hwaits
  rw [point_quiet h hquiet hstep] at hwaits
  exact live_step hsane hstep (h p call fd hwaits) (here_of_waits hwaits)

def Allocated (s : Loop) : Prop :=
  s.events ≠ [] ∨ s.here = .user ∧ s.rt.stack = none

theorem Allocated.step (h : Allocated s) (hstep : Loop.Step s c es s') : Allocated s' := by
  rcases h with h | ⟨huser, hnone⟩
  . left
    cases hstep with
    | idle | tick | create | yield | resume | finish | sleep | retWaitEvent | retSleep
      | retWait | handleIo | handledIo
    | timersDone | fire => exact h
    | run =>
      intro hnil
      have := congrArg List.length hnil
      simp [Loop.goto, Loop.newEvent, EPOLL_CAP] at this
    | addFailed | waitEvent => simpa using h
    | epollWait =>
      intro hnil
      simp only [List.append_eq_nil_iff] at hnil
      rw [hnil.1] at hnil
      exact h hnil.2
  . cases hstep with
    | idle | tick => exact .inr ⟨huser, hnone⟩
    | run =>
      left
      intro hnil
      have := congrArg List.length hnil
      simp [Loop.goto, Loop.newEvent, EPOLL_CAP] at this
    | create _ hstack | yield _ hstack | resume _ hstack | finish _ hstack | sleep _ hstack
      | addFailed _ hstack
    | waitEvent _ hstack =>
      rw [hnone] at hstack
      contradiction
    | retWaitEvent hhere | retSleep hhere | retWait hhere | epollWait hhere
      | handleIo hhere | handledIo hhere
    | timersDone hhere | fire hhere =>
      rw [huser] at hhere
      contradiction

theorem Allocated.of_stack {p : Addr} (h : Allocated s) (hstack : s.rt.stack = some p)
    : s.events ≠ [] := by
  rcases h with h | ⟨_, hnone⟩
  . exact h
  . rw [hstack] at hnone
    contradiction

def mask (event : Loop.EventType) : BitVec 32 :=
  if event = .read then EPOLLIN else EPOLLOUT

structure Entered (s s' : Loop) (q : Addr) (fd : BitVec 32) (event : Loop.EventType) : Prop where
  point : s'.point = Function.update s.point (some q) (.waitEvent s.calls fd)
  eventNum : s'.eventNum = s.eventNum + 1
  record : s.events ≠ [] → ∃ ev, s'.events[0]? = some ev ∧ ev.events = mask event

theorem entered_of_step {q : Addr} {fd : BitVec 32} {event : Loop.EventType}
    (hhere : s.here = .user) (hstack : s.rt.stack = some q)
    (h : s.step (.waitEvent fd event true) = .ok (s', es))
    : Entered s s' q fd event := by
  simp only [Loop.step, hhere, if_true, Loop.userStep, hstack] at h
  unfold Loop.waitEvent at h
  dsimp only at h
  split at h
  . contradiction
  . rcases bind_eq_ok h with ⟨co, _, h⟩
    rw [if_pos rfl] at h
    split at h
    . contradiction
    . rcases bind_eq_ok h with ⟨s₁, hyield, h⟩
      rcases bind_eq_ok hyield with ⟨rt, _, heq⟩
      injection heq with heq
      rcases ok_pair h with ⟨hs, _⟩
      subst heq hs
      refine ⟨Loop.goto_point hstack, rfl, ?_⟩
      intro hevents
      have hpos : 0 < s.events.length := List.length_pos_iff.mpr hevents
      exact ⟨_, List.getElem?_set_self hpos, rfl⟩

theorem step_go_waitEvent {call : Nat} {fd : BitVec 32} {removed : Bool}
    {ready : List EpollEvent} {top : Nat} (hhere : s.here = .waitEvent call fd)
    : s.step (.go removed ready top)
        = .ok ({ s.goto .user with eventNum := if removed then s.eventNum - 1 else s.eventNum },
            [.retWaitEvent call removed]) := by
  simp only [Loop.step, Loop.goStep, hhere]
  cases removed with
  | false => rfl
  | true => rfl

end Loop

structure Inv (s : Sockets) : Prop where
  loop : ∃ tr, s.loop.Inv tr
  sane : s.loop.rt.Sane
  alive : Alive s.loop
  allocated : Allocated s.loop
  waits : ∀ p call fd, s.loop.point (some p) = .waitEvent call fd → ∃ op, s.call p = some (op, fd)

theorem inv_init : init.Inv where
  loop := ⟨[], Loop.inv_init⟩
  sane := Runtime.sane_init
  alive := nofun
  allocated := .inr ⟨rfl, rfl⟩
  waits := nofun

section Invariant

variable {s s' : Sockets} {es tr : List Loop.Event} {c : Cmd}

theorem Inv.main (h : s.Inv) : s.loop.Main := by
  rcases h.loop with ⟨_, hinv⟩
  exact hinv.main

theorem Inv.of_loop {loop : Loop} {lc : Loop.Cmd} (h : s.Inv)
    (hloop : s.loop.step lc = .ok (loop, es)) (hs' : s'.loop = loop) (halive : Alive loop)
    (hwaits : ∀ p call fd, loop.point (some p) = .waitEvent call fd
      → ∃ op, s'.call p = some (op, fd))
    : s'.Inv := by
  rcases h.loop with ⟨tr, hinv⟩
  have hstep := Loop.Step.of_step hloop
  subst hs'
  exact ⟨⟨_, hinv.step hstep⟩, hstep.sane h.sane, halive, h.allocated.step hstep, hwaits⟩

theorem Inv.of_call {call' : Addr → Option (Op × BitVec 32)}
    {interest : BitVec 32 → Option EpollEvent} (h : s.Inv) {p : Addr} (hhere : s.loop.here = .user)
    (hstack : s.loop.rt.stack = some p) (hcall : ∀ q, q ≠ p → call' q = s.call q)
    : Inv { s with call := call', interest := interest } := by
  refine ⟨h.loop, h.sane, h.alive, h.allocated, ?_⟩
  intro q call fd hwaits
  have hne : q ≠ p := by
    intro heq
    exact here_of_waits hwaits hhere (by rw [hstack, heq])
  dsimp only
  rw [hcall q hne]
  exact h.waits q call fd hwaits

theorem point_left {p q : Addr} {call call' : Nat} {fd fd' : BitVec 32} {removed : Bool}
    {ready : List EpollEvent} {top : Nat} {loop : Loop} (hhere : s.loop.here = .waitEvent call fd)
    (hstack : s.loop.rt.stack = some p)
    (hloop : s.loop.step (.go removed ready top) = .ok (loop, es))
    : loop.point (some q) = .waitEvent call' fd' ↔ s.loop.point (some q) = .waitEvent call' fd'
        ∧ q ≠ p := by
  rw [step_go_waitEvent hhere] at hloop
  rcases ok_pair hloop with ⟨rfl, _⟩
  dsimp only
  rw [Loop.goto_point hstack, Function.update_apply]
  split
  . next heq =>
    injection heq with heq
    simp [heq]
  . next hne =>
    have : q ≠ p := fun heq => hne (by rw [heq])
    simp [this]

theorem point_entered {q p : Addr} {call : Nat} {fd fd' : BitVec 32}
    {event : Loop.EventType} {loop : Loop} (h : Entered s.loop loop q fd event)
    : loop.point (some p) = .waitEvent call fd' ↔ p = q ∧ call = s.loop.calls ∧ fd' = fd
        ∨ p ≠ q ∧ s.loop.point (some p) = .waitEvent call fd' := by
  rw [h.point, Function.update_apply]
  split
  . next heq =>
    injection heq with heq
    simp only [Loop.Point.waitEvent.injEq, heq, true_and, ne_eq, not_true_eq_false,
      false_and, or_false]
    constructor
    . rintro ⟨hcall, hfd⟩
      exact ⟨hcall.symm, hfd.symm⟩
    . rintro ⟨hcall, hfd⟩
      exact ⟨hcall.symm, hfd.symm⟩
  . next hne =>
    have : p ≠ q := fun heq => hne (by rw [heq])
    simp [this]

theorem quiet_addFailed {fd : BitVec 32} {event : Loop.EventType}
    : Quiet s.loop (.waitEvent fd event false) := by
  simp [Quiet]

theorem not_waits_run {p q : Addr} {call : Nat} {fd : BitVec 32} {loop : Loop} (h : s.Inv)
    (hhere : s.loop.here = .user) (hstack : s.loop.rt.stack = none)
    (hloop : s.loop.step (.run p) = .ok (loop, es))
    : loop.point (some q) ≠ .waitEvent call fd := by
  rcases h.loop with ⟨_, hinv⟩
  rw [Loop.here, hstack] at hhere
  have hwaits := (hinv.idle hhere).2 q call fd
  cases Loop.Step.of_step hloop with
  | idle => exact hwaits
  | run =>
    intro hq
    have hpoint : (s.loop.newEvent.goto .wait).point = Function.update s.loop.point none .wait := by
      have hnew : s.loop.newEvent.rt.stack = none := hstack
      exact Loop.goto_point hnew
    dsimp only at hq
    rw [Function.update_apply] at hq
    split at hq
    . contradiction
    . rw [hpoint, Function.update_of_ne (by simp)] at hq
      exact hwaits hq

theorem Inv.quiet {loop : Loop} {lc : Loop.Cmd} (h : s.Inv) (hquiet : Quiet s.loop lc)
    (hloop : s.loop.step lc = .ok (loop, es))
    : Inv { s with loop := loop } := by
  have hstep := Loop.Step.of_step hloop
  refine h.of_loop hloop rfl (h.alive.quiet h.sane hquiet hstep) ?_
  intro p call fd hwaits
  rw [point_quiet h.alive hquiet hstep] at hwaits
  exact h.waits p call fd hwaits

theorem Inv.wait {p : Addr} {op : Op} {fd : BitVec 32} {loop : Loop}
    {interest : BitVec 32 → Option EpollEvent} (h : s.Inv) (hhere : s.loop.here = .user)
    (hstack : s.loop.rt.stack = some p) (hcall : s.call p = some (op, fd))
    (hloop : s.loop.step (.waitEvent fd op.awaited true) = .ok (loop, es))
    : Inv { s with loop := loop, interest := interest } := by
  have hentered := entered_of_step hhere hstack hloop
  have hstep := Loop.Step.of_step hloop
  refine h.of_loop hloop rfl ?_ ?_
  . intro q call fd' hwaits
    rcases (point_entered hentered).mp hwaits with ⟨rfl, _, _⟩ | ⟨_, hwaits⟩
    . rcases h.sane.inv with ⟨l, hinv⟩
      have hlive : s.loop.rt.Live q := by
        apply hinv.linked.live
        rw [hinv.stack] at hstack
        exact List.mem_of_mem_head? hstack
      cases hstep with
      | idle => exact hlive
      | waitEvent _ _ _ _ hrt =>
        rcases hinv.yield_ok hrt with ⟨_, _, _, _, hsame⟩
        exact (hsame.live q).mpr hlive
    . exact live_step h.sane hstep (h.alive q call fd' hwaits) (here_of_waits hwaits)
  . intro q call fd' hwaits
    rcases (point_entered hentered).mp hwaits with ⟨rfl, _, rfl⟩ | ⟨_, hwaits⟩
    . exact ⟨op, hcall⟩
    . exact h.waits q call fd' hwaits

theorem Inv.left {p : Addr} {call : Nat} {fd : BitVec 32} {removed : Bool}
    {ready : List EpollEvent} {top : Nat} {loop : Loop} {call' : Addr → Option (Op × BitVec 32)}
    {interest : BitVec 32 → Option EpollEvent} (h : s.Inv)
    (hhere : s.loop.here = .waitEvent call fd) (hstack : s.loop.rt.stack = some p)
    (hloop : s.loop.step (.go removed ready top) = .ok (loop, es))
    (hcall : ∀ q, q ≠ p → call' q = s.call q)
    : Inv { loop := loop, call := call', interest := interest } := by
  have hstep := Loop.Step.of_step hloop
  refine h.of_loop hloop rfl ?_ ?_
  . intro q call' fd' hwaits
    rw [point_left hhere hstack hloop] at hwaits
    exact live_step h.sane hstep (h.alive q call' fd' hwaits.1) (here_of_waits hwaits.1)
  . intro q call' fd' hwaits
    rw [point_left hhere hstack hloop] at hwaits
    dsimp only
    rw [hcall q hwaits.2]
    exact h.waits q call' fd' hwaits.1

theorem Inv.step (h : s.Inv) (hstep : Step s c es s') : s'.Inv := by
  cases hstep with
  | idle => exact h
  | quiet hquiet hloop => exact h.quiet hquiet hloop
  | run hhere hstack hloop =>
    refine h.of_loop hloop rfl ?_ ?_
    . intro p call fd hwaits
      exact absurd hwaits (not_waits_run h hhere hstack hloop)
    . intro p call fd hwaits
      exact absurd hwaits (not_waits_run h hhere hstack hloop)
  | call hhere hstack => exact h.of_call hhere hstack fun q hq => Function.update_of_ne hq _ _
  | close => exact ⟨h.loop, h.sane, h.alive, h.allocated, h.waits⟩
  | leave hhere hstack => exact h.of_call hhere hstack fun q hq => Function.update_of_ne hq _ _
  | @addFailed p op fd r loop es hhere hstack hloop =>
    have hinv := h.quiet quiet_addFailed hloop
    refine ⟨hinv.loop, hinv.sane, hinv.alive, hinv.allocated, ?_⟩
    intro q call fd' hwaits
    have hne : q ≠ p := by
      intro heq
      have hwaits :=
        (point_quiet h.alive quiet_addFailed (Loop.Step.of_step hloop) q call fd').mp hwaits
      exact here_of_waits hwaits hhere (by rw [hstack, heq])
    change ∃ op, Function.update s.call p none q = some (op, fd')
    rw [Function.update_of_ne hne]
    exact hinv.waits q call fd' hwaits
  | wait hhere hstack hcall hfree hloop => exact h.wait hhere hstack hcall hloop
  | removed hhere hstack hreg hloop => exact h.left hhere hstack hloop fun _ _ => rfl
  | lost hhere hstack hreg hloop =>
    exact h.left hhere hstack hloop fun q hq => Function.update_of_ne hq _ _

theorem run_inv {P : Sockets → Cmd → Prop} (h : machine.Run P tr s) : s.Inv := by
  apply h.invariant (I := fun _ s => s.Inv) inv_init
  intro tr s c s' es _ ih _ hstep
  exact ih.step (.of_step ih.main hstep)

end Invariant

end Sockets
end Fsw

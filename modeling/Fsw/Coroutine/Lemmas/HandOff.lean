import Fsw.Coroutine.Lemmas.Assertion
import Fsw.Coroutine.Lemmas.Conservation

namespace Fsw
namespace Sys

def Point.popCall : Point → Option Nat
  | .popWait call => some call
  | _ => none

def Point.pushCall : Point → Option Nat
  | .pushWait call _ => some call
  | _ => none

def BlockedIn (f : Point → Option Nat) (s : Sys) (p : Addr) (call : Nat) : Prop :=
  s.rt.Suspended p ∧ f (s.point (some p)) = some call

def Blocked (s : Sys) (p : Addr) : Prop :=
  ∃ call, s.BlockedIn Point.popCall p call ∨ s.BlockedIn Point.pushCall p call

def consumers (pt : Point) (chan : Channel) : List Waiter :=
  match pt with
  | .pushResume _ w => w :: chan.consumerQueue
  | _ => chan.consumerQueue

def producers (pt : Point) (chan : Channel) : List Waiter :=
  match pt with
  | .popResume _ _ w => w :: chan.producerQueue
  | _ => chan.producerQueue

structure Waits (blocked : Addr → Nat → Prop) (ws : List Waiter) : Prop where
  mem : ∀ w, w ∈ ws ↔ blocked w.co w.call
  nodup : (ws.map Waiter.co).Nodup

def Settled (chan : Channel) : Prop :=
  (chan.consumerQueue ≠ [] → chan.dataQueue = [])
    ∧ (chan.producerQueue ≠ [] → chan.dataQueue.length = chan.capacity)

-- Between a push and the pop it wakes up there is an element too many, between a pop and the push
-- it wakes up there is one too few. Nothing else runs in between.
def Balanced (pt : Point) (chan : Channel) : Prop :=
  match pt with
  | .popWait _ | .pushResume _ _ => chan.dataQueue.length = 1 ∧ chan.producerQueue = []
  | .pushWait _ _ | .popResume _ _ _ =>
    chan.dataQueue.length + 1 = chan.capacity ∧ chan.consumerQueue = []
  | _ => Settled chan

structure HandOff (s : Sys) : Prop where
  consumers : Waits (s.BlockedIn Point.popCall) (consumers s.here s.chan)
  producers : Waits (s.BlockedIn Point.pushCall) (producers s.here s.chan)
  balanced : Balanced s.here s.chan

def resumed (s : Sys) (c : Cmd) : Option Addr :=
  match c, s.here with
  | .resume p, .user => some p
  | .go _, .callback _ t => some t.privateData.co
  | _, _ => none

def ByChannel (s : Sys) (c : Cmd) : Prop :=
  ∀ p ∈ s.resumed c, ¬s.Blocked p

instance (rt : Runtime) (p : Addr) : Decidable (rt.Suspended p) :=
  decidable_of_iff (∃ co ∈ rt.heap p, co.ctx.ctx = some ⟨some p, .swappedOut⟩) (by rfl)

instance (s : Sys) (p : Addr) : Decidable (s.Blocked p) :=
  decidable_of_iff
    (s.rt.Suspended p
      ∧ ((s.point (some p)).popCall.isSome ∨ (s.point (some p)).pushCall.isSome))
    (by simp only [Blocked, BlockedIn, Option.isSome_iff_exists]; grind)

instance (s : Sys) (c : Cmd) : Decidable (ByChannel s c) :=
  inferInstanceAs (Decidable (∀ p ∈ s.resumed c, ¬s.Blocked p))

namespace Waits

variable {blocked blocked' : Addr → Nat → Prop} {w : Waiter} {ws : List Waiter}

theorem congr (h : Waits blocked ws) (heq : ∀ p call, blocked' p call ↔ blocked p call)
    : Waits blocked' ws where
  mem := by
    intro w
    rw [h.mem, heq]
  nodup := h.nodup

theorem snoc (h : Waits blocked ws) (hw : ∀ call, ¬blocked w.co call)
    (heq : ∀ p call, blocked' p call ↔ blocked p call ∨ (p = w.co ∧ call = w.call))
    : Waits blocked' (ws ++ [w]) where
  mem := by
    intro w'
    rw [List.mem_append, h.mem, heq, List.mem_singleton]
    cases w
    cases w'
    simp
  nodup := by
    rw [List.map_append, List.map_singleton, List.nodup_append]
    refine ⟨h.nodup, by simp, ?_⟩
    intro p hp q hq heq'
    rcases List.mem_map.mp hp with ⟨w', hw', hco⟩
    rw [List.mem_singleton] at hq
    rw [h.mem, hco, heq', hq] at hw'
    apply hw _ hw'

theorem tail (h : Waits blocked (w :: ws))
    (heq : ∀ p call, blocked' p call ↔ blocked p call ∧ p ≠ w.co)
    : Waits blocked' ws where
  mem := by
    intro w'
    have hnodup := h.nodup
    rw [List.map_cons, List.nodup_cons] at hnodup
    rw [heq, ← h.mem, List.mem_cons]
    constructor
    . intro hmem
      refine ⟨.inr hmem, ?_⟩
      intro hco
      apply hnodup.1
      rw [← hco]
      apply List.mem_map_of_mem hmem
    . intro hmem
      rcases hmem with ⟨rfl | hmem, hne⟩
      . contradiction
      . exact hmem
  nodup := by
    have hnodup := h.nodup
    rw [List.map_cons, List.nodup_cons] at hnodup
    apply hnodup.2

end Waits

section Effects

variable {s s' : Sys} {f : Point → Option Nat} {l : List Addr}
  {pt : Point} {p q : Addr} {call : Nat}

theorem blockedIn_move (hshape : Shape s.rt s.point l) (hrt : s'.rt = s.rt)
    (hpoint : s'.point = Function.update s.point s.rt.stack pt)
    : s'.BlockedIn f p call ↔ s.BlockedIn f p call := by
  unfold BlockedIn
  rw [hrt, hpoint]
  apply and_congr_right
  intro hp
  rw [Function.update_of_ne (hshape.stack_ne_of_suspended hp).symm]

theorem blockedIn_enter (hshape : Shape s.rt s.point l) (hrt : s.rt.resume q = .ok s'.rt)
    (hpoint : s'.point = Function.update s.point s.rt.stack pt)
    : s'.BlockedIn f p call ↔ s.BlockedIn f p call ∧ p ≠ q := by
  rcases hshape.inv.resume_ok hrt with ⟨_, hinv, hsame⟩
  unfold BlockedIn
  rw [hshape.inv.suspended_enter hinv hsame, hpoint, and_right_comm]
  apply and_congr_left
  intro _
  apply and_congr_right
  intro hp
  rw [Function.update_of_ne (hshape.stack_ne_of_suspended hp).symm]

theorem here_enter (hshape : Shape s.rt s.point l) (hrt : s.rt.resume q = .ok s'.rt)
    (hpoint : s'.point = Function.update s.point s.rt.stack pt)
    : s'.here = s.point (some q) := by
  rcases hshape.inv.resume_ok hrt with ⟨hq, hinv, _⟩
  unfold here
  rw [hinv.stack, hpoint, List.head?_cons]
  rw [Function.update_of_ne (hshape.stack_ne_of_suspended hq).symm]

theorem blockedIn_leave (hshape : Shape s.rt s.point l) (hwait : pt.isWaiting)
    (hrt : s.rt.yield = .ok s'.rt)
    (hpoint : s'.point = Function.update s.point s.rt.stack pt)
    : s'.BlockedIn f p call
        ↔ s.BlockedIn f p call ∨ (s.rt.stack = some p ∧ f pt = some call) := by
  have htimer : pt.isTimer → s.rt.stack = none := by
    cases pt <;> simp_all [Point.isWaiting, Point.isTimer]
  rcases (hshape.goto htimer).leave (by simpa using hwait) hrt with ⟨q, t, _, hstack, _, hsusp⟩
  unfold BlockedIn
  rw [hsusp, hpoint, hstack]
  by_cases hpq : p = q
  . have : ¬s.rt.Suspended p := by
      intro hp
      apply hshape.stack_ne_of_suspended hp
      rw [hstack, hpq]
    simp [hpq, hpq ▸ this]
  . have : q ≠ p := Ne.symm hpq
    simp [hpq, this]

theorem here_leave (hshape : Shape s.rt s.point l) (hwait : pt.isWaiting)
    (hrt : s.rt.yield = .ok s'.rt)
    (hpoint : s'.point = Function.update s.point s.rt.stack pt)
    : s'.here.isCalling := by
  have htimer : pt.isTimer → s.rt.stack = none := by
    cases pt <;> simp_all [Point.isWaiting, Point.isTimer]
  rcases (hshape.goto htimer).leave (by simpa using hwait) hrt with ⟨q, t, rfl, _, hshape', _⟩
  unfold here
  rw [hshape'.inv.stack, hpoint]
  apply (hshape.goto htimer).calling
  simp [below]

theorem blockedIn_congr (hsusp : ∀ q, s'.rt.Suspended q ↔ s.rt.Suspended q)
    (hpoint : s'.point = s.point)
    : s'.BlockedIn f p call ↔ s.BlockedIn f p call := by
  unfold BlockedIn
  rw [hsusp, hpoint]

end Effects

def Point.isPlain : Point → Bool
  | .popWait _ | .pushResume _ _ | .pushWait _ _ | .popResume _ _ _ => false
  | _ => true

theorem Point.isPlain_of_isCalling {pt : Point} (h : pt.isCalling)
    : pt.isPlain := by
  cases pt <;> simp_all [Point.isCalling, Point.isPlain]

namespace HandOff

variable {s s' : Sys} {l : List Addr} {pt : Point} {q : Addr}

theorem of_plain (hpt : s.here.isPlain)
    (hcons : Waits (s.BlockedIn Point.popCall) s.chan.consumerQueue)
    (hprod : Waits (s.BlockedIn Point.pushCall) s.chan.producerQueue) (hset : Settled s.chan)
    : HandOff s := by
  constructor
  all_goals
    generalize s.here = pt at hpt
    cases pt <;> simp_all [Point.isPlain, Sys.consumers, Sys.producers, Balanced]

theorem plain (h : HandOff s) (hpt : s.here.isPlain)
    : Waits (s.BlockedIn Point.popCall) s.chan.consumerQueue
      ∧ Waits (s.BlockedIn Point.pushCall) s.chan.producerQueue ∧ Settled s.chan := by
  rcases h with ⟨hcons, hprod, hbal⟩
  generalize s.here = pt at hpt hcons hprod hbal
  cases pt <;> simp_all [Point.isPlain, Sys.consumers, Sys.producers, Balanced]

theorem move (h : HandOff s) (hshape : Shape s.rt s.point l) (hrt : s'.rt = s.rt)
    (hpoint : s'.point = Function.update s.point s.rt.stack pt)
    (hcons : Sys.consumers pt s'.chan = Sys.consumers s.here s.chan)
    (hprod : Sys.producers pt s'.chan = Sys.producers s.here s.chan) (hbal : Balanced pt s'.chan)
    : HandOff s' := by
  have hhere : s'.here = pt := by
    rw [here, hpoint, hrt, Function.update_self]
  constructor
  . rw [hhere, hcons]
    apply h.consumers.congr
    intro p call
    apply blockedIn_move hshape hrt hpoint
  . rw [hhere, hprod]
    apply h.producers.congr
    intro p call
    apply blockedIn_move hshape hrt hpoint
  . rw [hhere]
    exact hbal

theorem move_plain (h : HandOff s) (hshape : Shape s.rt s.point l) (hrt : s'.rt = s.rt)
    (hpoint : s'.point = Function.update s.point s.rt.stack pt) (hchan : s'.chan = s.chan)
    (hhere : s.here.isPlain) (hpt : pt.isPlain)
    : HandOff s' := by
  rcases h.plain hhere with ⟨_, _, hset⟩
  generalize hp : s.here = pt' at hhere
  apply h.move hshape hrt hpoint
  all_goals
    rw [hchan]
    cases pt <;> cases pt' <;> simp_all [Point.isPlain, Sys.consumers, Sys.producers, Balanced]

theorem enter_plain (h : HandOff s) (hshape : Shape s.rt s.point l)
    (hrt : s.rt.resume q = .ok s'.rt)
    (hpoint : s'.point = Function.update s.point s.rt.stack pt) (hchan : s'.chan = s.chan)
    (hhere : s.here.isPlain) (hq : ¬s.Blocked q)
    : HandOff s' := by
  rcases h.plain hhere with ⟨hcons, hprod, hset⟩
  rcases hshape.inv.resume_ok hrt with ⟨hsusp, _, _⟩
  unfold Blocked at hq
  rw [not_exists] at hq
  apply of_plain
  . rw [here_enter hshape hrt hpoint]
    have hwait := hshape.waiting q hsusp
    unfold BlockedIn at hq
    generalize s.point (some q) = pt' at hwait hq
    cases pt' <;> simp_all [Point.isWaiting, Point.isPlain, Point.popCall, Point.pushCall]
  . rw [hchan]
    apply hcons.congr
    intro p call
    rw [blockedIn_enter hshape hrt hpoint, and_iff_left_iff_imp]
    intro hp heq
    rw [heq] at hp
    apply hq call (.inl hp)
  . rw [hchan]
    apply hprod.congr
    intro p call
    rw [blockedIn_enter hshape hrt hpoint, and_iff_left_iff_imp]
    intro hp heq
    rw [heq] at hp
    apply hq call (.inr hp)
  . rw [hchan]
    exact hset

theorem leave_plain (h : HandOff s) (hshape : Shape s.rt s.point l) (hwait : pt.isWaiting)
    (hrt : s.rt.yield = .ok s'.rt)
    (hpoint : s'.point = Function.update s.point s.rt.stack pt) (hchan : s'.chan = s.chan)
    (hhere : s.here.isPlain) (hpt : pt.isPlain)
    : HandOff s' := by
  rcases h.plain hhere with ⟨hcons, hprod, hset⟩
  have hpop : pt.popCall = none := by
    cases pt <;> simp_all [Point.isPlain, Point.popCall]
  have hpush : pt.pushCall = none := by
    cases pt <;> simp_all [Point.isPlain, Point.pushCall]
  apply of_plain
  . apply Point.isPlain_of_isCalling (here_leave hshape hwait hrt hpoint)
  . rw [hchan]
    apply hcons.congr
    intro p call
    rw [blockedIn_leave hshape hwait hrt hpoint, hpop]
    simp
  . rw [hchan]
    apply hprod.congr
    intro p call
    rw [blockedIn_leave hshape hwait hrt hpoint, hpush]
    simp
  . rw [hchan]
    exact hset

theorem congr_plain (h : HandOff s) (hsusp : ∀ q, s'.rt.Suspended q ↔ s.rt.Suspended q)
    (hpoint : s'.point = s.point) (hchan : s'.chan = s.chan) (hhere : s.here.isPlain)
    (hhere' : s'.here.isPlain)
    : HandOff s' := by
  rcases h.plain hhere with ⟨hcons, hprod, hset⟩
  apply of_plain hhere'
  . rw [hchan]
    apply hcons.congr
    intro p call
    apply blockedIn_congr hsusp hpoint
  . rw [hchan]
    apply hprod.congr
    intro p call
    apply blockedIn_congr hsusp hpoint
  . rw [hchan]
    exact hset

theorem blockPop {co : Addr} {call : Nat} (h : HandOff s) (hshape : Shape s.rt s.point l)
    (hrt : s.rt.yield = .ok s'.rt)
    (hpoint : s'.point = Function.update s.point s.rt.stack (.popWait call))
    (hhere : s.here.isPlain) (hcur : s.rt.current = some co) (hdata : s.chan.dataQueue = [])
    (hchan : s'.chan = { s.chan with consumerQueue := s.chan.consumerQueue ++ [⟨co, call⟩] })
    : HandOff s' := by
  rcases h.plain hhere with ⟨hcons, hprod, hset⟩
  have hstack : s.rt.stack = some co := by
    rw [hshape.inv.stack, ← hshape.inv.current, hcur]
  apply of_plain
  . exact Point.isPlain_of_isCalling (here_leave hshape (by rfl) hrt hpoint)
  . rw [hchan]
    apply hcons.snoc
    . intro call' hblocked
      apply hshape.stack_ne_of_suspended hblocked.1 hstack
    . intro p call'
      rw [blockedIn_leave hshape (by rfl) hrt hpoint, hstack]
      simp [Point.popCall, eq_comm]
  . rw [hchan]
    apply hprod.congr
    intro p call'
    rw [blockedIn_leave hshape (by rfl) hrt hpoint]
    simp [Point.pushCall]
  . rw [hchan]
    exact ⟨fun _ => hdata, hset.2⟩

theorem blockPush {co : Addr} {call : Nat} {data : Data} (h : HandOff s)
    (hshape : Shape s.rt s.point l) (hrt : s.rt.yield = .ok s'.rt)
    (hpoint : s'.point = Function.update s.point s.rt.stack (.pushWait call data))
    (hhere : s.here.isPlain) (hcur : s.rt.current = some co)
    (hdata : s.chan.dataQueue.length = s.chan.capacity)
    (hchan : s'.chan = { s.chan with producerQueue := s.chan.producerQueue ++ [⟨co, call⟩] })
    : HandOff s' := by
  rcases h.plain hhere with ⟨hcons, hprod, hset⟩
  have hstack : s.rt.stack = some co := by
    rw [hshape.inv.stack, ← hshape.inv.current, hcur]
  apply of_plain
  . exact Point.isPlain_of_isCalling (here_leave hshape (by rfl) hrt hpoint)
  . rw [hchan]
    apply hcons.congr
    intro p call'
    rw [blockedIn_leave hshape (by rfl) hrt hpoint]
    simp [Point.popCall]
  . rw [hchan]
    apply hprod.snoc
    . intro call' hblocked
      apply hshape.stack_ne_of_suspended hblocked.1 hstack
    . intro p call'
      rw [blockedIn_leave hshape (by rfl) hrt hpoint, hstack]
      simp [Point.pushCall, eq_comm]
  . rw [hchan]
    exact ⟨hset.1, fun _ => hdata⟩

theorem resumePop {call : Nat} {w : Waiter} (h : HandOff s) (hshape : Shape s.rt s.point l)
    (hhere : s.here = .pushResume call w) (hrt : s.rt.resume w.co = .ok s'.rt)
    (hpoint : s'.point = Function.update s.point s.rt.stack pt) (hchan : s'.chan = s.chan)
    : HandOff s' := by
  rcases h with ⟨hcons, hprod, hbal⟩
  rw [hhere] at hcons hprod hbal
  have hw := (hcons.mem w).mp (by simp [Sys.consumers])
  have hhere' : s'.here = .popWait w.call := by
    rw [here_enter hshape hrt hpoint]
    have := hw.2
    generalize s.point (some w.co) = pt' at this
    cases pt' <;> simp_all [Point.popCall]
  constructor
  . rw [hhere', hchan]
    apply hcons.tail
    intro p call'
    apply blockedIn_enter hshape hrt hpoint
  . rw [hhere', hchan]
    apply hprod.congr
    intro p call'
    rw [blockedIn_enter hshape hrt hpoint, and_iff_left_iff_imp]
    intro hp heq
    have h1 := hp.2
    have h2 := hw.2
    rw [heq] at h1
    generalize s.point (some w.co) = pt' at h1 h2
    cases pt' <;> simp_all [Point.popCall, Point.pushCall]
  . rw [hhere', hchan]
    exact hbal

theorem resumePush {call : Nat} {data : Data} {w : Waiter} (h : HandOff s)
    (hshape : Shape s.rt s.point l) (hhere : s.here = .popResume call data w)
    (hrt : s.rt.resume w.co = .ok s'.rt)
    (hpoint : s'.point = Function.update s.point s.rt.stack pt) (hchan : s'.chan = s.chan)
    : HandOff s' := by
  rcases h with ⟨hcons, hprod, hbal⟩
  rw [hhere] at hcons hprod hbal
  have hw := (hprod.mem w).mp (by simp [Sys.producers])
  have hhere' : ∃ data', s'.here = .pushWait w.call data' := by
    rw [here_enter hshape hrt hpoint]
    have := hw.2
    generalize s.point (some w.co) = pt' at this
    cases pt' <;> simp_all [Point.pushCall]
  rcases hhere' with ⟨data', hhere'⟩
  constructor
  . rw [hhere', hchan]
    apply hcons.congr
    intro p call'
    rw [blockedIn_enter hshape hrt hpoint, and_iff_left_iff_imp]
    intro hp heq
    have h1 := hp.2
    have h2 := hw.2
    rw [heq] at h1
    generalize s.point (some w.co) = pt' at h1 h2
    cases pt' <;> simp_all [Point.popCall, Point.pushCall]
  . rw [hhere', hchan]
    apply hprod.tail
    intro p call'
    apply blockedIn_enter hshape hrt hpoint
  . rw [hhere', hchan]
    exact hbal

theorem popEntry {c : Cmd} {call : Nat} {pre : List Event} {t : Sys} (h : HandOff s)
    (he : PopEntry s c call pre t)
    : (s.here = .user ∧ Settled s.chan ∧ s.chan.dataQueue ≠ [])
      ∨ (s.here = .popWait call ∧ s.chan.dataQueue.length = 1 ∧ s.chan.producerQueue = []) := by
  cases he with
  | fresh hhere hdata =>
    left
    have := h.balanced
    rw [hhere] at this
    exact ⟨hhere, this, hdata⟩
  | woken hhere =>
    right
    have := h.balanced
    rw [hhere] at this
    exact ⟨hhere, this⟩

theorem pushEntry {c : Cmd} {call : Nat} {data : Data} {pre : List Event} {t : Sys} (h : HandOff s)
    (he : PushEntry s c call data pre t)
    : (s.here = .user ∧ Settled s.chan ∧ s.chan.dataQueue.length ≠ s.chan.capacity)
      ∨ (s.here = .pushWait call data ∧ s.chan.dataQueue.length + 1 = s.chan.capacity
        ∧ s.chan.consumerQueue = []) := by
  cases he with
  | fresh hhere hdata =>
    left
    have := h.balanced
    rw [hhere] at this
    exact ⟨hhere, this, hdata⟩
  | woken hhere =>
    right
    have := h.balanced
    rw [hhere] at this
    exact ⟨hhere, this⟩

theorem not_popEmpty {c : Cmd} {call : Nat} {pre : List Event} {t : Sys} (h : HandOff s)
    (he : PopEntry s c call pre t)
    : s.chan.dataQueue ≠ [] := by
  rcases h.popEntry he with ⟨_, _, hdata⟩ | ⟨_, hlen, _⟩
  . exact hdata
  . intro hdata
    simp [hdata] at hlen

theorem not_pushFull {c : Cmd} {call : Nat} {data : Data} {pre : List Event} {t : Sys}
    (h : HandOff s) (he : PushEntry s c call data pre t)
    : s.chan.dataQueue.length ≠ s.chan.capacity := by
  rcases h.pushEntry he with ⟨_, _, hdata⟩ | ⟨_, hlen, _⟩
  . exact hdata
  . omega

theorem pop {c : Cmd} {call : Nat} {pre : List Event} {t : Sys} {data : Data} {rest : List Data}
    (h : HandOff s) (hshape : Shape s.rt s.point l) (he : PopEntry s c call pre t)
    (hdata : s.chan.dataQueue = data :: rest) (hrt : s'.rt = s.rt)
    (hpoint : s'.point = Function.update s.point s.rt.stack pt)
    (hchan : (pt = .user ∧ s.chan.producerQueue = [] ∧ s'.chan = { s.chan with dataQueue := rest })
      ∨ ∃ w ws, pt = .popResume call data w ∧ s.chan.producerQueue = w :: ws
        ∧ s'.chan = { s.chan with dataQueue := rest, producerQueue := ws })
    : HandOff s' := by
  have hentry := h.popEntry he
  rw [hdata] at hentry
  apply h.move hshape hrt hpoint
  . rcases hchan with ⟨rfl, hprod, hchan⟩ | ⟨w, ws, rfl, hprod, hchan⟩
    all_goals rcases hentry with ⟨hhere, _⟩ | ⟨hhere, _⟩
    all_goals simp [hchan, hhere, Sys.consumers]
  . rcases hchan with ⟨rfl, hprod, hchan⟩ | ⟨w, ws, rfl, hprod, hchan⟩
    all_goals rcases hentry with ⟨hhere, _⟩ | ⟨hhere, _⟩
    all_goals simp [hchan, hhere, Sys.producers, hprod]
  . rcases hchan with ⟨rfl, hprod, hchan⟩ | ⟨w, ws, rfl, hprod, hchan⟩
    . rcases hentry with ⟨_, hset, _⟩ | ⟨_, hlen, _⟩
      . have := hset.1
        simp_all [Balanced, Settled]
      . simp_all [Balanced, Settled]
    . rcases hentry with ⟨_, hset, _⟩ | ⟨_, _, hprod'⟩
      . have hcap := hset.2 (by simp [hprod])
        have hcons := hset.1
        simp_all [Balanced]
      . rw [hprod] at hprod'
        contradiction

theorem push {c : Cmd} {call : Nat} {data : Data} {pre : List Event} {t : Sys} (h : HandOff s)
    (hshape : Shape s.rt s.point l) (he : PushEntry s c call data pre t) (hrt : s'.rt = s.rt)
    (hpoint : s'.point = Function.update s.point s.rt.stack pt)
    (hchan : (pt = .user ∧ s.chan.consumerQueue = []
        ∧ s'.chan = { s.chan with dataQueue := s.chan.dataQueue ++ [data] })
      ∨ ∃ w ws, pt = .pushResume call w ∧ s.chan.consumerQueue = w :: ws
        ∧ s'.chan = { s.chan with dataQueue := s.chan.dataQueue ++ [data], consumerQueue := ws })
    : HandOff s' := by
  have hentry := h.pushEntry he
  apply h.move hshape hrt hpoint
  . rcases hchan with ⟨rfl, hcons, hchan⟩ | ⟨w, ws, rfl, hcons, hchan⟩
    all_goals rcases hentry with ⟨hhere, _⟩ | ⟨hhere, _⟩
    all_goals simp [hchan, hhere, Sys.consumers, hcons]
  . rcases hchan with ⟨rfl, hcons, hchan⟩ | ⟨w, ws, rfl, hcons, hchan⟩
    all_goals rcases hentry with ⟨hhere, _⟩ | ⟨hhere, _⟩
    all_goals simp [hchan, hhere, Sys.producers]
  . rcases hchan with ⟨rfl, hcons, hchan⟩ | ⟨w, ws, rfl, hcons, hchan⟩
    . rcases hentry with ⟨_, hset, hne⟩ | ⟨_, hlen, _⟩
      . have := hset.2
        simp_all [Balanced, Settled]
      . simp_all [Balanced, Settled]
    . rcases hentry with ⟨_, hset, hne⟩ | ⟨_, _, hcons'⟩
      . have hdata := hset.1 (by simp [hcons])
        have hprod := hset.2
        simp_all [Balanced]
      . rw [hcons] at hcons'
        contradiction

end HandOff

theorem handOff_init {capacity : Nat} : HandOff (init capacity) := by
  have hblocked : ∀ f p call, ¬(init capacity).BlockedIn f p call := by
    intro f p call h
    rcases h with ⟨⟨co, hco, _⟩, _⟩
    simp [init, Runtime.init] at hco
  have hnil : ∀ f, Waits ((init capacity).BlockedIn f) [] := by
    intro f
    exact ⟨by simp [hblocked], by simp⟩
  apply HandOff.of_plain
  . rfl
  . apply hnil _
  . apply hnil _
  . simp [Settled, init, Channel.new]

theorem HandOff.step {s s' : Sys} {c : Cmd} {es : List Event} {l : List Addr}
    (hshape : Shape s.rt s.point l) (h : HandOff s) (hp : ByChannel s c) (hs : Step s c es s')
    : HandOff s' := by
  cases hs with
  | idle => exact h
  | tick => exact ⟨h.consumers, h.producers, h.balanced⟩
  | @create p rt hhere hdead hrt =>
    rcases hshape.inv.create_ok hdead hrt with ⟨hinv, hlive, _, _⟩
    have hpoint := hshape.update_dead hdead
    apply h.congr_plain
    . intro q
      apply hshape.inv.suspended_create hinv hlive hdead
    . exact hpoint
    . rfl
    . rw [hhere]
      rfl
    . simp only [here, hpoint, hinv.stack, List.head?_cons, hshape.dead p hdead]
      rfl
  | yield hhere hrt => exact h.leave_plain hshape (by rfl) hrt rfl rfl (by rw [hhere]; rfl) rfl
  | resume hhere hrt =>
    exact h.enter_plain hshape hrt rfl rfl (by rw [hhere]; rfl) (hp _ (by simp [resumed, hhere]))
  | finish hhere hstack hrt =>
    rcases hshape.finish hhere hstack hrt with ⟨t, rfl, hshape', hsusp⟩
    apply h.congr_plain
    . exact hsusp
    . rfl
    . rfl
    . rw [hhere]
      rfl
    . apply Point.isPlain_of_isCalling
      simp only [here, hshape'.inv.stack]
      apply hshape.calling
      simp [below]
  | popBlock hhere hdata hcur hrt =>
    exact h.blockPop hshape hrt rfl (by rw [hhere]; rfl) hcur hdata rfl
  | popEmpty he hdata => apply absurd hdata (h.not_popEmpty he)
  | popTake he hdata hprod =>
    simp only [goto, he.rt_eq.1, he.rt_eq.2.1]
    exact h.pop hshape he hdata rfl rfl (.inl ⟨rfl, hprod, rfl⟩)
  | popServe he hdata hprod =>
    simp only [goto, he.rt_eq.1, he.rt_eq.2.1]
    exact h.pop hshape he hdata rfl rfl (.inr ⟨_, _, rfl, hprod, rfl⟩)
  | popResume hhere hrt => exact h.resumePush hshape hhere hrt rfl rfl
  | popReturn hhere => exact h.move_plain hshape rfl rfl rfl (by rw [hhere]; rfl) rfl
  | pushBlock hhere hdata hcur hrt =>
    exact h.blockPush hshape hrt rfl (by rw [hhere]; rfl) hcur hdata rfl
  | pushFull he hdata => apply absurd hdata (h.not_pushFull he)
  | pushPut he hdata hcons =>
    simp only [goto, he.rt_eq.1, he.rt_eq.2.1]
    exact h.push hshape he rfl rfl (.inl ⟨rfl, hcons, rfl⟩)
  | pushServe he hdata hcons =>
    simp only [goto, he.rt_eq.1, he.rt_eq.2.1]
    exact h.push hshape he rfl rfl (.inr ⟨_, _, rfl, hcons, rfl⟩)
  | pushResume hhere hrt => exact h.resumePop hshape hhere hrt rfl rfl
  | pushReturn hhere => exact h.move_plain hshape rfl rfl rfl (by rw [hhere]; rfl) rfl
  | sleepBlock hhere hcur hrt =>
    exact h.leave_plain hshape (by rfl) hrt rfl rfl (by rw [hhere]; rfl) rfl
  | sleepReturn hhere => exact h.move_plain hshape rfl rfl rfl (by rw [hhere]; rfl) rfl
  | runTimers hhere hstack => exact h.move_plain hshape rfl rfl rfl (by rw [hhere]; rfl) rfl
  | timersDone hhere => exact h.move_plain hshape rfl rfl rfl (by rw [hhere]; rfl) rfl
  | timerDue hhere ht htop hdue =>
    exact h.move_plain hshape rfl rfl rfl (by rw [hhere]; rfl) rfl
  | callback hhere hrt =>
    exact h.enter_plain hshape hrt rfl rfl (by rw [hhere]; rfl) (hp _ (by simp [resumed, hhere]))

theorem Run.handOff {capacity : Nat} {P : Sys → Cmd → Prop} (hP : ∀ s c, P s c → ByChannel s c)
    {tr : List Event} {s : Sys} (h : (machine capacity).Run P tr s)
    : HandOff s := by
  apply Machine.Run.invariant (I := fun _ s => HandOff s) ?_ ?_ h
  . exact handOff_init
  . intro tr s c s' es hrun ih hp hs
    rcases Run.shape hrun with ⟨l, hshape⟩
    apply ih.step hshape (hP s c hp) (Step.of_step hs)

section Blocked

variable {s : Sys} {w : Waiter} {call : Nat} {data : Data}

theorem HandOff.blocked_of_mem_consumerQueue (h : HandOff s) (hw : w ∈ s.chan.consumerQueue)
    : s.BlockedIn Point.popCall w.co w.call := by
  rw [← h.consumers.mem]
  unfold Sys.consumers
  split
  . apply List.mem_cons_of_mem _ hw
  . exact hw

theorem HandOff.blocked_of_mem_producerQueue (h : HandOff s) (hw : w ∈ s.chan.producerQueue)
    : s.BlockedIn Point.pushCall w.co w.call := by
  rw [← h.producers.mem]
  unfold Sys.producers
  split
  . apply List.mem_cons_of_mem _ hw
  . exact hw

theorem HandOff.blocked_of_pushResume (h : HandOff s) (hhere : s.here = .pushResume call w)
    : s.BlockedIn Point.popCall w.co w.call := by
  rw [← h.consumers.mem, hhere]
  simp [Sys.consumers]

theorem HandOff.blocked_of_popResume (h : HandOff s) (hhere : s.here = .popResume call data w)
    : s.BlockedIn Point.pushCall w.co w.call := by
  rw [← h.producers.mem, hhere]
  simp [Sys.producers]

end Blocked

theorem resumeAt_suspended {s : Sys} {l : List Addr} {p : Addr} {pt : Point}
    (hshape : Shape s.rt s.point l) (hp : s.rt.Suspended p)
    : ∃ t, s.resumeAt p pt = .ok t := by
  rcases hshape.inv.resume hp with ⟨rt, hrt, _, _⟩
  refine ⟨{ s.goto pt with rt := rt }, ?_⟩
  simp only [resumeAt, goto, hrt]
  rfl

theorem HandOff.goStep {s : Sys} {l : List Addr} {top : Nat} (h : HandOff s)
    (hshape : Shape s.rt s.point l) (hhere : ∀ now t, s.here ≠ .callback now t)
    : ∃ r, s.goStep top = .ok r := by
  unfold Sys.goStep
  split
  . exact ⟨_, rfl⟩
  . exact ⟨_, rfl⟩
  . next call data w hhere =>
    rcases resumeAt_suspended hshape (h.blocked_of_popResume hhere).1 with ⟨t, ht⟩
    rw [ht]
    exact ⟨_, rfl⟩
  . exact ⟨_, rfl⟩
  . exact ⟨_, rfl⟩
  . next call w hhere =>
    rcases resumeAt_suspended hshape (h.blocked_of_pushResume hhere).1 with ⟨t, ht⟩
    rw [ht]
    exact ⟨_, rfl⟩
  . exact ⟨_, rfl⟩
  . exact ⟨_, rfl⟩
  . exact ⟨_, rfl⟩
  . next now t hcallback => exact absurd hcallback (hhere now t)

theorem HandOff.goStep_ne_assertion {s : Sys} {l : List Addr} {top : Nat} (h : HandOff s)
    (hshape : Shape s.rt s.point l)
    : s.goStep top ≠ .error .assertion := by
  by_cases hhere : ∃ now t, s.here = .callback now t
  . rcases hhere with ⟨now, t, hhere⟩
    have hcur : s.rt.current ≠ some t.privateData.co := by
      rw [hshape.inv.current, ← hshape.inv.stack, hshape.stack_eq_none (by rw [hhere]; rfl)]
      simp
    unfold Sys.goStep
    rw [hhere]
    apply bind_pure_ne_error (resumeAt_ne_assertion hcur)
  . have hgo : ∃ r, s.goStep top = .ok r := h.goStep hshape (by simpa using hhere)
    rcases hgo with ⟨r, hr⟩
    rw [hr]
    simp

structure Served (tr : List Event) : Prop where
  pop : ∀ call data, .retPop call data ∈ tr → .dequeue call data ∈ tr
  push : ∀ call ret, .retPush call ret ∈ tr → ret = true

theorem Served.append {tr es : List Event} (h : Served tr)
    (hpop : ∀ call data, .retPop call data ∈ es → .dequeue call data ∈ tr ++ es)
    (hpush : ∀ call ret, .retPush call ret ∈ es → ret = true)
    : Served (tr ++ es) := by
  constructor
  . intro call data hmem
    cases List.mem_append.mp hmem with
    | inl hmem => apply List.mem_append_left _ (h.pop call data hmem)
    | inr hmem => apply hpop call data hmem
  . intro call ret hmem
    cases List.mem_append.mp hmem with
    | inl hmem => apply h.push call ret hmem
    | inr hmem => apply hpush call ret hmem

theorem Served.step {s s' : Sys} {c : Cmd} {es tr : List Event} (h : Served tr)
    (hlog : Log tr s.point s.calls) (hho : HandOff s) (hs : Step s c es s')
    : Served (tr ++ es) := by
  cases hs with
  | idle | tick | create | yield | resume | finish => exact h.append (by simp) (by simp)
  | popResume | pushResume | runTimers | timersDone | timerDue => exact h.append (by simp) (by simp)
  | popBlock | pushBlock | sleepBlock | sleepReturn | callback => exact h.append (by simp) (by simp)
  | pushReturn => exact h.append (by simp) (by simp)
  | popEmpty he hdata => apply absurd hdata (hho.not_popEmpty he)
  | pushFull he hdata => apply absurd hdata (hho.not_pushFull he)
  | popTake he | popServe he => cases he <;> exact h.append (by simp) (by simp)
  | pushPut he | pushServe he => cases he <;> exact h.append (by simp) (by simp)
  | @popReturn call _ data hhere =>
    apply h.append
    . have hpart := hlog.running s.rt.stack call (by rw [← here, hhere]; rfl)
      rw [← here, hhere] at hpart
      have hmem : .dequeue call data ∈ tr := by
        rw [mem_iff_mem_hist tr _ rfl]
        generalize hist call tr = es at hpart
        cases hpart
        simp
      intro call' data' heq
      simp only [List.mem_singleton, Event.retPop.injEq] at heq
      rw [heq.1, heq.2]
      apply List.mem_append_left _ hmem
    . simp

theorem Run.served {capacity : Nat} {P : Sys → Cmd → Prop} (hP : ∀ s c, P s c → ByChannel s c)
    {tr : List Event} {s : Sys} (h : (machine capacity).Run P tr s)
    : Served tr := by
  apply Machine.Run.invariant (I := fun tr _ => Served tr) ?_ ?_ h
  . exact ⟨by simp, by simp⟩
  . intro tr s c s' es hrun ih _ hs
    apply ih.step (Run.log hrun) (Run.handOff hP hrun) (Step.of_step hs)

theorem HandOff.nodup {s : Sys} (h : HandOff s) (hhere : s.here = .user)
    : ((s.chan.consumerQueue ++ s.chan.producerQueue).map Waiter.co).Nodup := by
  rcases h.plain (by rw [hhere]; rfl) with ⟨hcons, hprod, _⟩
  rw [List.map_append, List.nodup_append]
  refine ⟨hcons.nodup, hprod.nodup, ?_⟩
  intro p hp q hq heq
  rcases List.mem_map.mp hp with ⟨w, hw, hco⟩
  rcases List.mem_map.mp hq with ⟨w', hw', hco'⟩
  have h1 := ((hcons.mem w).mp hw).2
  have h2 := ((hprod.mem w').mp hw').2
  rw [hco, heq] at h1
  rw [hco'] at h2
  generalize s.point (some q) = pt at h1 h2
  cases pt <;> simp_all [Point.popCall, Point.pushCall]

/--
Channels whose waiters are only resumed by the channel. The waits may even have timeouts, as long as
none of their timers fires while the coroutine is still blocked.
-/
theorem hand_off {capacity : Nat} {tr : List Event} {s : Sys}
    (h : (machine capacity).Run ByChannel tr s)
    : (s.here = .user →
        (s.chan.consumerQueue ≠ [] → s.chan.dataQueue = [])
        ∧ (s.chan.producerQueue ≠ [] → s.chan.dataQueue.length = capacity)
        ∧ (∀ w ∈ s.chan.consumerQueue, s.BlockedIn Point.popCall w.co w.call)
        ∧ (∀ w ∈ s.chan.producerQueue, s.BlockedIn Point.pushCall w.co w.call)
        ∧ ((s.chan.consumerQueue ++ s.chan.producerQueue).map Waiter.co).Nodup
        ∧ (∀ p call, s.BlockedIn Point.popCall p call →
            ⟨p, call⟩ ∈ s.chan.consumerQueue ∧ s.chan.dataQueue = [])
        ∧ (∀ p call, s.BlockedIn Point.pushCall p call →
            ⟨p, call⟩ ∈ s.chan.producerQueue ∧ s.chan.dataQueue.length = capacity))
      ∧ (∀ call data, .retPop call data ∈ tr → .dequeue call data ∈ tr)
      ∧ (∀ call ret, .retPush call ret ∈ tr → ret = true)
      ∧ (∀ c, (∀ p, c = .resume p → s.rt.current ≠ some p) → s.step c ≠ .error .assertion)
      ∧ (∀ top, (∀ now t, s.here ≠ .callback now t) → ∃ r, s.step (.go top) = .ok r)
      ∧ blockedPops tr = servedPops tr ++ s.chan.consumerQueue
      ∧ blockedPushes tr = servedPushes tr ++ s.chan.producerQueue := by
  have hho := Run.handOff (fun _ _ hp => hp) h
  have hserved := Run.served (fun _ _ hp => hp) h
  have hcons := Run.conserved h
  rcases Run.shape h with ⟨l, hshape⟩
  refine ⟨?_, hserved.pop, hserved.push, ?_, ?_, hcons.consumers, hcons.producers⟩
  . intro hhere
    rcases hho.plain (by rw [hhere]; rfl) with ⟨hpop, hpush, hset⟩
    rw [← hcons.cap]
    refine ⟨hset.1, hset.2, fun w => (hpop.mem w).mp, fun w => (hpush.mem w).mp,
      hho.nodup hhere, ?_, ?_⟩
    . intro p call hblocked
      have hmem := (hpop.mem ⟨p, call⟩).mpr hblocked
      exact ⟨hmem, hset.1 (List.ne_nil_of_mem hmem)⟩
    . intro p call hblocked
      have hmem := (hpush.mem ⟨p, call⟩).mpr hblocked
      exact ⟨hmem, hset.2 (List.ne_nil_of_mem hmem)⟩
  . intro c hc
    unfold step
    split
    . simp
    . apply hho.goStep_ne_assertion hshape
    . split
      . apply userStep_ne_assertion hc
      . simp
  . intro top hhere
    apply hho.goStep hshape hhere

-- Coroutines 1 and 2 block in `pop`, coroutine 3 pushes and so resumes coroutine 1, which takes the
-- element and, inside of the push, blocks in `pop` again.
theorem hand_off_nested
    : ∃ tr s, (machine 1).Run ByChannel tr s ∧ s.here = .user ∧ .retPop 0 (some 7) ∈ tr
        ∧ s.chan.consumerQueue = [⟨2, 1⟩, ⟨1, 3⟩] ∧ s.chan.dataQueue = []
        ∧ blockedPops tr = servedPops tr ++ [⟨2, 1⟩, ⟨1, 3⟩] := by
  have hexec : ((machine 1).exec ByChannel
      [.create 1, .pop ⟨false, 0⟩, .create 2, .pop ⟨false, 0⟩, .create 3, .push (some 7) ⟨false, 0⟩,
       .go 0, .go 0, .pop ⟨false, 0⟩, .go 0]).map
        (fun r => (r.1.here, decide (.retPop 0 (some 7) ∈ r.2), r.1.chan.consumerQueue))
      = some (.user, true, [⟨2, 1⟩, ⟨1, 3⟩]) := by decide
  rcases Option.map_eq_some_iff.mp hexec with ⟨⟨s, tr⟩, he, heq⟩
  simp only [Prod.mk.injEq, decide_eq_true_eq] at heq
  have h := Machine.run_of_exec he
  rcases hand_off h with ⟨huser, _, _, _, _, hserved, _⟩
  have hdata := (huser heq.1).1 (by simp [heq.2.2])
  rw [heq.2.2] at hserved
  exact ⟨tr, s, h, heq.1, heq.2.1, heq.2.2, hdata, hserved⟩

end Sys
end Fsw

import Fsw.Http.Impl.Intake
import Fsw.Http.Lemmas.Server

namespace Fsw
namespace Http

def IntakeEvent.conn? : IntakeEvent → Option Nat
  | coroutine _ => none
  | recved id _ => some id
  | parse id _ => some id
  | lookup id _ => some id

-- After a result of 0 or less, nothing is done for the connection.
def IntakeEvent.Leaves (e e' : IntakeEvent) : Prop :=
  ∀ (id : Nat) (n : Int), e = .recved id n → n ≤ 0 → e'.conn? ≠ some id

structure Sound (tr : List IntakeEvent) : Prop where
  descriptors : ∀ fd : Int, .coroutine fd ∈ tr → 0 ≤ fd
  counts : ∀ (id : Nat) (n : Int), .parse id n ∈ tr → 1 ≤ n ∧ n ≤ (READ_BUF_MAX_SIZE : Int)
  ends : tr.Pairwise IntakeEvent.Leaves
  paths : ∀ id path, .lookup id path ∈ tr → path.isSome = true

-- Calls only fail if they can be made again, and what is received has a URL in it.
def Intake.Good : Intake → Prop
  | accept _ (.connected _) => True
  | accept _ (.failed failure) => failure.retry = true
  | recv _ .closed => True
  | recv _ (.failed failure) => failure.retry = true
  | recv _ (.received r) => ∃ s, .url s ∈ r.callbacks
  | shutdown => True

section Sound

variable {tr es : List IntakeEvent}

theorem sound_append
    : Sound (tr ++ es) ↔ Sound tr ∧ Sound es ∧ ∀ e ∈ tr, ∀ e' ∈ es, e.Leaves e' := by
  constructor
  . intro h
    have hends := List.pairwise_append.mp h.ends
    refine ⟨⟨?_, ?_, hends.1, ?_⟩, ⟨?_, ?_, hends.2.1, ?_⟩, hends.2.2⟩
    . intro fd hfd
      apply h.descriptors fd (List.mem_append_left _ hfd)
    . intro id n hn
      apply h.counts id n (List.mem_append_left _ hn)
    . intro id path hpath
      apply h.paths id path (List.mem_append_left _ hpath)
    . intro fd hfd
      apply h.descriptors fd (List.mem_append_right _ hfd)
    . intro id n hn
      apply h.counts id n (List.mem_append_right _ hn)
    . intro id path hpath
      apply h.paths id path (List.mem_append_right _ hpath)
  . rintro ⟨htr, hes, hcross⟩
    refine ⟨?_, ?_, List.pairwise_append.mpr ⟨htr.ends, hes.ends, hcross⟩, ?_⟩
    . intro fd hfd
      rcases List.mem_append.mp hfd with hfd | hfd
      . apply htr.descriptors fd hfd
      . apply hes.descriptors fd hfd
    . intro id n hn
      rcases List.mem_append.mp hn with hn | hn
      . apply htr.counts id n hn
      . apply hes.counts id n hn
    . intro id path hpath
      rcases List.mem_append.mp hpath with hpath | hpath
      . apply htr.paths id path hpath
      . apply hes.paths id path hpath

theorem sound_nil : Sound [] := by
  refine ⟨?_, ?_, .nil, ?_⟩
  . intro fd hfd
    contradiction
  . intro id n hn
    contradiction
  . intro id path hpath
    contradiction

theorem sound_coroutine {fd : Int} : Sound [.coroutine fd] ↔ 0 ≤ fd := by
  constructor
  . intro h
    apply h.descriptors fd (List.mem_singleton_self _)
  . intro h
    refine ⟨?_, ?_, List.pairwise_singleton _ _, ?_⟩
    . intro fd' hfd
      simp at hfd
      rw [hfd]
      exact h
    . simp
    . simp

theorem sound_closed {id : Nat} : Sound [.recved id 0] := by
  refine ⟨?_, ?_, List.pairwise_singleton _ _, ?_⟩
  . simp
  . simp
  . simp

theorem not_sound_failed {id : Nat} : ¬Sound [.recved id (-1), .parse id (-1)] := by
  intro h
  have := h.counts id (-1) (by simp)
  omega

theorem sound_received {id n : Nat} {path : Option Bytes} (hpos : 0 < n)
    (hle : n ≤ READ_BUF_MAX_SIZE)
    : Sound [.recved id n, .parse id n, .lookup id path] ↔ path.isSome = true := by
  constructor
  . intro h
    apply h.paths id path
    simp
  . intro h
    refine ⟨?_, ?_, ?_, ?_⟩
    . simp
    . intro id' n' hmem
      simp at hmem
      omega
    . simp [IntakeEvent.Leaves]
      omega
    . intro id' path' hmem
      simp at hmem
      rw [hmem.2]
      exact h

end Sound

section Path

variable {ctx : Ctx} {callbacks : List Callback}

theorem callback_path {cb : Callback}
    : (ctx.callback cb).request.path.isSome = true ↔ ctx.request.path.isSome = true
        ∨ ∃ s, cb = .url s := by
  cases cb with
  | url s => simp [Ctx.callback, Ctx.httpRequestOnUrl]
  | headersComplete parser =>
    simp only [Ctx.callback, Ctx.httpRequestOnHeadersComplete, Ctx.setHttpVersion,
      Ctx.setHttpMethod]
    cases parser.method <;> simp
  | _ =>
    simp [Ctx.callback, Ctx.httpRequestOnHeaderField, Ctx.httpRequestOnHeaderValue,
      Ctx.httpRequestOnBody]

theorem parse_path
    : (ctx.parse callbacks).request.path.isSome = true
        ↔ ctx.request.path.isSome = true ∨ ∃ s, .url s ∈ callbacks := by
  unfold Ctx.parse
  induction callbacks generalizing ctx with
  | nil => simp
  | cons cb callbacks ih =>
    rw [List.foldl_cons, ih, callback_path, or_assoc]
    simp only [List.mem_cons, exists_or, eq_comm (b := cb)]

end Path

namespace Server

variable {server : Server} {s s' : IntakeState} {c : Intake} {es tr : List IntakeEvent}

theorem turn_next {ctx ctx' : Ctx} {r : Read} (h : (server.turn ctx r).2 = .next ctx')
    : ctx'.request.path = none := by
  unfold turn at h
  dsimp only at h
  split at h
  . contradiction
  . split at h
    . contradiction
    . dsimp only at h
      split at h
      . injection h with h
        rw [← h]
        rfl
      . contradiction

inductive Outcome (s : IntakeState) (c : Intake) : List Conn → List IntakeEvent → Prop where
  | quiet (hgood : c.Good) : Outcome s c s.conns []
  | create {u : Uninit} {fd : Int} (hgood : c.Good ↔ 0 ≤ fd)
      : Outcome s c (s.conns ++ [⟨fd, .new u, true⟩]) [.coroutine fd]
  | closed {id : Nat} {conn : Conn} (hconn : s.conns[id]? = some conn) (hlive : conn.live = true)
      (hgood : c.Good)
      : Outcome s c (s.conns.set id { conn with live := false }) [.recved id 0]
  | failed {id : Nat} {conns : List Conn} (hgood : ¬c.Good)
      : Outcome s c (conns.map ({ · with live := false })) [.recved id (-1), .parse id (-1)]
  | received {id : Nat} {conn conn' : Conn} {r : Received} (hconn : s.conns[id]? = some conn)
      (hlive : conn.live = true) (hconn' : conn'.live = true → conn'.ctx.request.path = none)
      (hgood : c.Good ↔ ∃ s, .url s ∈ r.callbacks)
      : Outcome s c (s.conns.set id conn') [.recved id r.data.length, .parse id r.data.length,
          .lookup id ((conn.ctx.recv r.data).parse r.callbacks).request.path]
  | trapped {id : Nat} {conn : Conn} {r : Received} (hconn : s.conns[id]? = some conn)
      (hlive : conn.live = true) (hgood : c.Good ↔ ∃ s, .url s ∈ r.callbacks)
      : Outcome s c (s.conns.map ({ · with live := false })) [.recved id r.data.length,
          .parse id r.data.length,
          .lookup id ((conn.ctx.recv r.data).parse r.callbacks).request.path]

theorem intakeAccept_outcome {u : Uninit} {result : AcceptResult}
    (h : intakeAccept s u result = .ok (s', es))
    : Outcome s (.accept u result) s'.conns es := by
  unfold intakeAccept at h
  cases result with
  | connected fd =>
    injection h with h
    injection h with hs hes
    rw [← hs, ← hes]
    apply Outcome.create
    simp [Intake.Good]
  | failed failure =>
    dsimp only at h
    split at h
    . next hretry =>
      injection h with h
      injection h with hs hes
      rw [← hs, ← hes]
      exact .quiet hretry
    . next hretry =>
      injection h with h
      injection h with hs hes
      rw [← hs, ← hes]
      apply Outcome.create
      simp [Intake.Good, hretry]

theorem intakeRecv_outcome {id : Nat} {conn : Conn} {result : RecvResult}
    (hconn : s.conns[id]? = some conn) (hlive : conn.live = true)
    (h : server.intakeRecv s id conn result = .ok (s', es))
    : Outcome s (.recv id result) s'.conns es := by
  unfold intakeRecv at h
  cases result with
  | closed =>
    injection h with h
    injection h with hs hes
    rw [← hs, ← hes]
    exact .closed hconn hlive trivial
  | failed failure =>
    dsimp only at h
    split at h
    . next hretry =>
      injection h with h
      injection h with hs hes
      rw [← hs, ← hes]
      exact .quiet hretry
    . next hretry =>
      injection h with h
      injection h with hs hes
      rw [← hs, ← hes]
      exact .failed hretry
  | received r =>
    dsimp only at h
    cases hturn : (server.turn conn.ctx r.toRead).2 with
    | next ctx =>
      rw [hturn] at h
      injection h with h
      injection h with hs hes
      rw [← hs, ← hes]
      exact .received hconn hlive (fun _ => turn_next hturn) Iff.rfl
    | done =>
      rw [hturn] at h
      injection h with h
      injection h with hs hes
      rw [← hs, ← hes]
      exact .received hconn hlive (fun h => absurd h Bool.false_ne_true) Iff.rfl
    | trap trap =>
      rw [hturn] at h
      injection h with h
      injection h with hs hes
      rw [← hs, ← hes]
      exact .trapped hconn hlive Iff.rfl

theorem intakeStep_outcome (h : server.intakeStep s c = .ok (s', es))
    : Outcome s c s'.conns es := by
  cases c with
  | shutdown =>
    injection h with h
    injection h with hs hes
    rw [← hs, ← hes]
    exact .quiet trivial
  | accept u result =>
    unfold intakeStep at h
    dsimp only at h
    split at h
    . apply intakeAccept_outcome h
    . contradiction
  | recv id result =>
    unfold intakeStep at h
    dsimp only at h
    split at h
    . contradiction
    . next conn hconn =>
      split at h
      . next hlive => apply intakeRecv_outcome hconn hlive h
      . contradiction

def Fresh (conns : List Conn) : Prop :=
  ∀ conn ∈ conns, conn.live = true → conn.ctx.request.path = none

def Left (tr : List IntakeEvent) (conns : List Conn) : Prop :=
  ∀ (id : Nat) (n : Int), .recved id n ∈ tr → n ≤ 0 → ∃ conn, conns[id]? = some conn
    ∧ conn.live = false

variable {conns : List Conn}

theorem fresh_gone : Fresh (conns.map ({ · with live := false })) := by
  intro conn hconn hlive
  rcases List.mem_map.mp hconn with ⟨conn', _, rfl⟩
  contradiction

theorem fresh_set {id : Nat} {conn : Conn} (h : Fresh conns)
    (hconn : conn.live = true → conn.ctx.request.path = none)
    : Fresh (conns.set id conn) := by
  intro conn' hmem
  rcases List.mem_or_eq_of_mem_set hmem with hmem | rfl
  . apply h conn' hmem
  . exact hconn

theorem Outcome.fresh (h : Outcome s c conns es) (hfresh : Fresh s.conns) : Fresh conns := by
  cases h with
  | quiet => exact hfresh
  | create =>
    intro conn hmem hlive
    rcases List.mem_append.mp hmem with hmem | hmem
    . apply hfresh conn hmem hlive
    . rw [List.mem_singleton] at hmem
      rw [hmem]
      rfl
  | closed => exact fresh_set hfresh (fun h => absurd h Bool.false_ne_true)
  | failed => exact fresh_gone
  | received _ _ hconn' => exact fresh_set hfresh hconn'
  | trapped => exact fresh_gone

theorem sound_received_iff {conn : Conn} {r : Received} {id : Nat} (hfresh : Fresh s.conns)
    (hconn : s.conns[id]? = some conn) (hlive : conn.live = true)
    : Sound [.recved id r.data.length, .parse id r.data.length,
          .lookup id ((conn.ctx.recv r.data).parse r.callbacks).request.path]
        ↔ ∃ s, .url s ∈ r.callbacks := by
  have hpath : (conn.ctx.recv r.data).request.path = none :=
    hfresh conn (List.mem_of_getElem? hconn) hlive
  rw [sound_received r.pos r.le, parse_path, hpath]
  simp

theorem Outcome.sound_iff (h : Outcome s c conns es) (hfresh : Fresh s.conns)
    : Sound es ↔ c.Good := by
  cases h with
  | quiet hgood => simp [sound_nil, hgood]
  | create hgood => rw [sound_coroutine, hgood]
  | closed _ _ hgood => simp [sound_closed, hgood]
  | failed hgood => simp [not_sound_failed, hgood]
  | received hconn hlive _ hgood => rw [sound_received_iff hfresh hconn hlive, hgood]
  | trapped hconn hlive hgood => rw [sound_received_iff hfresh hconn hlive, hgood]

theorem left_gone (h : Left tr conns) : Left tr (conns.map ({ · with live := false })) := by
  intro id n hmem hn
  rcases h id n hmem hn with ⟨conn, hconn, _⟩
  refine ⟨{ conn with live := false }, ?_, rfl⟩
  rw [List.getElem?_map, hconn]
  rfl

theorem left_set {id : Nat} {conn conn' : Conn} (h : Left tr conns) (hconn : conns[id]? = some conn)
    (hlive : conn.live = true)
    : Left tr (conns.set id conn') := by
  intro id' n hmem hn
  rcases h id' n hmem hn with ⟨conn₀, hconn₀, hlive₀⟩
  refine ⟨conn₀, ?_, hlive₀⟩
  rw [List.getElem?_set_ne]
  . exact hconn₀
  . rintro rfl
    rw [hconn] at hconn₀
    injection hconn₀ with heq
    rw [heq, hlive₀] at hlive
    contradiction

theorem left_append (h : Left tr conns) (hes : ∀ (id : Nat) (n : Int), .recved id n ∈ es → 0 < n)
    : Left (tr ++ es) conns := by
  intro id n hmem hn
  rcases List.mem_append.mp hmem with hmem | hmem
  . apply h id n hmem hn
  . have := hes id n hmem
    omega

theorem Outcome.left (h : Outcome s c conns es) (hgood : c.Good) (hleft : Left tr s.conns)
    : Left (tr ++ es) conns := by
  cases h with
  | quiet =>
    rw [List.append_nil]
    exact hleft
  | create =>
    apply left_append
    . intro id n hmem hn
      rcases hleft id n hmem hn with ⟨conn, hconn, hlive⟩
      refine ⟨conn, ?_, hlive⟩
      rw [List.getElem?_append_left]
      . exact hconn
      . apply (List.getElem?_eq_some_iff.mp hconn).1
    . simp
  | @closed id conn hconn hlive =>
    have hlt := (List.getElem?_eq_some_iff.mp hconn).1
    intro id' n hmem hn
    rcases List.mem_append.mp hmem with hmem | hmem
    . apply left_set hleft hconn hlive id' n hmem hn
    . rw [List.mem_singleton] at hmem
      injection hmem with hid _
      rw [hid]
      refine ⟨_, List.getElem?_set_self hlt, rfl⟩
  | failed hbad => contradiction
  | @received id conn conn' r hconn hlive =>
    apply left_append (left_set hleft hconn hlive)
    intro id' n hmem
    have := r.pos
    simp at hmem
    omega
  | @trapped id conn r =>
    apply left_append (left_gone hleft)
    intro id' n hmem
    have := r.pos
    simp at hmem
    omega

theorem Outcome.leaves (h : Outcome s c conns es) (hgood : c.Good) (hleft : Left tr s.conns)
    : ∀ e ∈ tr, ∀ e' ∈ es, e.Leaves e' := by
  have hid {id : Nat} {conn : Conn} (hconn : s.conns[id]? = some conn) (hlive : conn.live = true)
      {e e' : IntakeEvent}
      (he : e ∈ tr) (he' : e'.conn? = some id) : e.Leaves e' := by
    rintro id' n rfl hn hid'
    rcases hleft id' n he hn with ⟨conn', hconn', hlive'⟩
    rw [he'] at hid'
    injection hid' with hid'
    rw [← hid', hconn] at hconn'
    injection hconn' with heq
    rw [heq, hlive'] at hlive
    contradiction
  intro e he e' he'
  cases h with
  | quiet => contradiction
  | create =>
    rw [List.mem_singleton] at he'
    intro id n _ _
    rw [he']
    simp [IntakeEvent.conn?]
  | closed hconn hlive =>
    apply hid hconn hlive he
    rw [List.mem_singleton] at he'
    rw [he']
    rfl
  | failed hbad => contradiction
  | received hconn hlive =>
    apply hid hconn hlive he
    simp only [List.mem_cons, List.not_mem_nil, or_false] at he'
    rcases he' with rfl | rfl | rfl <;> rfl
  | trapped hconn hlive =>
    apply hid hconn hlive he
    simp only [List.mem_cons, List.not_mem_nil, or_false] at he'
    rcases he' with rfl | rfl | rfl <;> rfl

variable {cs : List Intake}

theorem execFrom_cons (h : server.intake.execFrom (fun _ _ => True) s tr (c :: cs) = some (s', es))
    : ∃ s₁ es₁, Outcome s c s₁.conns es₁
        ∧ server.intake.execFrom (fun _ _ => True) s₁ (tr ++ es₁) cs = some (s', es) := by
  unfold Machine.execFrom at h
  rw [if_pos trivial] at h
  split at h
  . next s₁ es₁ hstep => exact ⟨s₁, es₁, intakeStep_outcome hstep, h⟩
  . contradiction

theorem sound_of_execFrom (h : server.intake.execFrom (fun _ _ => True) s tr cs = some (s', es))
    (hsound : Sound es)
    : Sound tr := by
  induction cs generalizing s tr with
  | nil =>
    injection h with h
    injection h with _ htr
    rw [htr]
    exact hsound
  | cons c cs ih =>
    rcases execFrom_cons h with ⟨s₁, es₁, _, h⟩
    exact (sound_append.mp (ih h)).1

theorem good_of_sound (h : server.intake.execFrom (fun _ _ => True) s tr cs = some (s', es))
    (hfresh : Fresh s.conns) (hsound : Sound es)
    : ∀ c ∈ cs, c.Good := by
  induction cs generalizing s tr with
  | nil => apply List.forall_mem_nil
  | cons c cs ih =>
    rcases execFrom_cons h with ⟨s₁, es₁, houtcome, h⟩
    rw [List.forall_mem_cons]
    constructor
    . rw [← houtcome.sound_iff hfresh]
      exact (sound_append.mp (sound_of_execFrom h hsound)).2.1
    . apply ih h (houtcome.fresh hfresh)

theorem sound_of_good (h : server.intake.execFrom (fun _ _ => True) s tr cs = some (s', es))
    (hfresh : Fresh s.conns) (hleft : Left tr s.conns) (hsound : Sound tr)
    (hgood : ∀ c ∈ cs, c.Good)
    : Sound es := by
  induction cs generalizing s tr with
  | nil =>
    injection h with h
    injection h with _ htr
    rw [← htr]
    exact hsound
  | cons c cs ih =>
    rcases execFrom_cons h with ⟨s₁, es₁, houtcome, h⟩
    rw [List.forall_mem_cons] at hgood
    apply ih h (houtcome.fresh hfresh) (houtcome.left hgood.1 hleft) _ hgood.2
    apply sound_append.mpr
    exact ⟨hsound, (houtcome.sound_iff hfresh).mpr hgood.1, houtcome.leaves hgood.1 hleft⟩

theorem intake_sound_iff (server : Server) (cs : List Intake) (s : IntakeState)
    (tr : List IntakeEvent) (h : server.intake.exec (fun _ _ => True) cs = some (s, tr))
    : Sound tr ↔ ∀ c ∈ cs, c.Good := by
  constructor
  . intro hsound
    apply good_of_sound h _ hsound
    apply List.forall_mem_nil
  . intro hgood
    apply sound_of_good h _ _ sound_nil hgood
    . apply List.forall_mem_nil
    . intro id n hmem
      contradiction

end Server

def receivedA : Received where
  toRead := getA.read
  pos := by decide
  le := by decide

def visit : List Intake :=
  [.accept .zero (.failed ⟨true, true⟩), .accept .zero (.connected 5),
    .recv 0 (.failed ⟨true, true⟩),
    .recv 0 (.received receivedA), .recv 0 .closed]

theorem intake_sound_iff_visit
    : ∃ s tr, serverA.intake.exec (fun _ _ => True) visit = some (s, tr) ∧ Sound tr := by
  have hsome : (serverA.intake.exec (fun _ _ => True) visit).isSome = true := by
    decide +kernel
  rcases Option.isSome_iff_exists.mp hsome with ⟨⟨s, tr⟩, hexec⟩
  refine ⟨s, tr, hexec, (Server.intake_sound_iff serverA visit s tr hexec).mpr ?_⟩
  simp only [visit, List.forall_mem_cons]
  refine ⟨rfl, trivial, rfl, ⟨⟨4, 2⟩, ?_⟩, trivial, List.forall_mem_nil _⟩
  decide

-- `accept` fails for want of descriptors.
theorem intake_not_sound
    : ∃ s tr, serverA.intake.exec (fun _ _ => True) [.accept .zero (.failed ⟨false, false⟩),
        .recv 0 (.failed ⟨false, false⟩)]
          = some (s, tr)
        ∧ tr = [.coroutine (-1), .recved 0 (-1), .parse 0 (-1)] ∧ ¬Sound tr := by
  refine ⟨_, _, rfl, rfl, ?_⟩
  intro hsound
  have := hsound.descriptors (-1) List.mem_cons_self
  contradiction

end Http
end Fsw

import Mathlib.Data.List.Basic

/-!
This module contains machines that are driven by commands: a step either faults or leads to a next
state and emits events. It defines what a run of such a machine is, the induction principle with
which invariants of all runs are proved, and an evaluator with which concrete runs are built.
-/

namespace Fsw

structure Machine (σ κ ε φ : Type) where
  init : σ
  step : σ → κ → Except φ (σ × List ε)

namespace Machine

variable {σ κ ε φ : Type}

/--
`M.Run P tr s` holds if `M` can get from its initial state to `s`, emitting `tr` on the way, by
steps each of which is allowed by `P`.
-/
inductive Run (M : Machine σ κ ε φ) (P : σ → κ → Prop) : List ε → σ → Prop where
  | init : Run M P [] M.init
  | step {tr : List ε} {s s' : σ} {c : κ} {es : List ε} (h : Run M P tr s) (hp : P s c)
      (hs : M.step s c = .ok (s', es)) : Run M P (tr ++ es) s'

theorem Run.mono {M : Machine σ κ ε φ} {P Q : σ → κ → Prop} (hpq : ∀ s c, P s c → Q s c)
    {tr : List ε} {s : σ} (h : M.Run P tr s)
    : M.Run Q tr s := by
  induction h with
  | init => exact .init
  | step _ hp hs ih => exact .step ih (hpq _ _ hp) hs

theorem Run.invariant {M : Machine σ κ ε φ} {P : σ → κ → Prop} {I : List ε → σ → Prop}
    (hinit : I [] M.init)
    (hstep : ∀ tr s c s' es, M.Run P tr s → I tr s → P s c → M.step s c = .ok (s', es) →
      I (tr ++ es) s')
    {tr : List ε} {s : σ} (h : M.Run P tr s)
    : I tr s := by
  induction h with
  | init => exact hinit
  | step h hp hs ih => apply hstep _ _ _ _ _ h ih hp hs

-- If no step emits more than one event, every event has its own step.
theorem Run.split {M : Machine σ κ ε φ} {P : σ → κ → Prop} {tr before after : List ε}
    {e : ε} {s : σ}
    (hone : ∀ tr s c s' es, M.Run P tr s → M.step s c = .ok (s', es) → es.length ≤ 1)
    (h : M.Run P tr s) (htr : tr = before ++ e :: after)
    : ∃ s c s', M.Run P before s ∧ P s c ∧ M.step s c = .ok (s', [e]) := by
  induction h generalizing after with
  | init => simp at htr
  | @step tr s s' c es h hp hs ih =>
    match es, hone _ _ _ _ _ h hs with
    | [], _ =>
      rw [List.append_nil] at htr
      exact ih htr
    | [x], _ =>
      rcases List.eq_nil_or_concat after with rfl | ⟨after', y, rfl⟩
      . obtain ⟨rfl, hx⟩ := List.append_inj' htr rfl
        rw [List.cons.injEq] at hx
        rw [hx.1] at hs
        exact ⟨s, c, s', h, hp, hs⟩
      . rw [List.concat_eq_append, ← List.cons_append, ← List.append_assoc] at htr
        exact ih (List.append_inj' htr rfl).1

def startAt (M : Machine σ κ ε φ) (s : σ) : Machine σ κ ε φ where
  init := s
  step := M.step

def execFrom (M : Machine σ κ ε φ) (P : σ → κ → Prop) [∀ s c, Decidable (P s c)]
    (s : σ) (tr : List ε) : List κ → Option (σ × List ε)
  | [] => some (s, tr)
  | c :: cs =>
    if P s c then
      match M.step s c with
      | .ok (s', es) => execFrom M P s' (tr ++ es) cs
      | .error _ => none
    else
      none

def exec (M : Machine σ κ ε φ) (P : σ → κ → Prop) [∀ s c, Decidable (P s c)] (cs : List κ)
    : Option (σ × List ε) :=
  execFrom M P M.init [] cs

theorem execFrom_cons {M : Machine σ κ ε φ} {P : σ → κ → Prop} [∀ s c, Decidable (P s c)]
    {s s' : σ} {c : κ} {tr es : List ε} {cs : List κ} (hp : P s c) (hs : M.step s c = .ok (s', es))
    : M.execFrom P s tr (c :: cs) = M.execFrom P s' (tr ++ es) cs := by
  rw [execFrom, if_pos hp, hs]

theorem run_of_execFrom {M : Machine σ κ ε φ} {P : σ → κ → Prop} [∀ s c, Decidable (P s c)]
    {s s' : σ} {tr tr' : List ε} {cs : List κ} (h : M.Run P tr s)
    (he : execFrom M P s tr cs = some (s', tr'))
    : M.Run P tr' s' := by
  induction cs generalizing s tr with
  | nil =>
    simp only [execFrom, Option.some.injEq, Prod.mk.injEq] at he
    obtain ⟨rfl, rfl⟩ := he
    exact h
  | cons c cs ih =>
    unfold execFrom at he
    split at he
    . next hp =>
      split at he
      . next hs => exact ih (.step h hp hs) he
      . contradiction
    . contradiction

theorem run_of_exec {M : Machine σ κ ε φ} {P : σ → κ → Prop} [∀ s c, Decidable (P s c)]
    {s : σ} {tr : List ε} {cs : List κ} (he : exec M P cs = some (s, tr))
    : M.Run P tr s := by
  apply run_of_execFrom .init he

end Machine
end Fsw

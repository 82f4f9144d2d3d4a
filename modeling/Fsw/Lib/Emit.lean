import Mathlib.Data.List.Basic

namespace Fsw

structure Emit (ω ε α : Type) where
  outputs : List ω
  result : Except ε α

namespace Emit

variable {ω ε α β γ δ : Type}

protected def pure (a : α) : Emit ω ε α :=
  ⟨[], .ok a⟩

protected def bind (x : Emit ω ε α) (f : α → Emit ω ε β) : Emit ω ε β :=
  match x.result with
  | .ok a => ⟨x.outputs ++ (f a).outputs, (f a).result⟩
  | .error e => ⟨x.outputs, .error e⟩

instance : Monad (Emit ω ε) where
  pure := Emit.pure
  bind := Emit.bind

def emit (o : ω) : Emit ω ε Unit :=
  ⟨[o], .ok ()⟩

instance : MonadLift (Except ε) (Emit ω ε) where
  monadLift x := ⟨[], x⟩

theorem pure_eq (a : α) : (pure a : Emit ω ε α) = ⟨[], .ok a⟩ := by
  rfl

theorem bind_ok {outputs : List ω} {a : α} {f : α → Emit ω ε β}
    : ((⟨outputs, .ok a⟩ : Emit ω ε α) >>= f) = ⟨outputs ++ (f a).outputs, (f a).result⟩ := by
  rfl

theorem bind_error {outputs : List ω} {e : ε} {f : α → Emit ω ε β}
    : ((⟨outputs, .error e⟩ : Emit ω ε α) >>= f) = ⟨outputs, .error e⟩ := by
  rfl

theorem result_bind {x : Emit ω ε α} {f : α → Emit ω ε β}
    : (x >>= f).result = (x.result >>= fun a => (f a).result) := by
  rcases x with ⟨outputs, e | a⟩ <;> rfl

theorem outputs_bind_pure {x : Emit ω ε α} {f : α → β}
    : (x >>= fun a => pure (f a)).outputs = x.outputs := by
  rcases x with ⟨outputs, e | a⟩
  . rfl
  . rw [bind_ok, pure_eq]
    simp

theorem lift_bind {x : Except ε α} {f : α → Except ε β} {g : β → Emit ω ε γ}
    : ((liftM x : Emit ω ε α) >>= fun a => (liftM (f a) : Emit ω ε β) >>= g)
        = (liftM (x >>= f) : Emit ω ε β) >>= g := by
  cases x <;> rfl

/--
All that `x` emits satisfies `P`, and what it returns, if it returns, satisfies `Q`.
-/
def Sat (P : ω → Prop) (Q : α → Prop) (x : Emit ω ε α) : Prop :=
  (∀ o ∈ x.outputs, P o) ∧ ∀ a, x.result = .ok a → Q a

section Sat

variable {P : ω → Prop} {Q : β → Prop} {R : α → Prop}

theorem sat_ok {outputs : List ω} {a : α}
    : Sat P R (⟨outputs, .ok a⟩ : Emit ω ε α) ↔ (∀ o ∈ outputs, P o) ∧ R a := by
  simp [Sat]

theorem sat_of_result {x : Emit ω ε α} {a : α} (h : x.result = .ok a)
    : Sat P R x ↔ (∀ o ∈ x.outputs, P o) ∧ R a := by
  simp [Sat, h]

theorem sat_error {outputs : List ω} {e : ε}
    : Sat P R (⟨outputs, .error e⟩ : Emit ω ε α) ↔ ∀ o ∈ outputs, P o := by
  simp [Sat]

theorem sat_pure {a : α} : Sat P R (pure a : Emit ω ε α) ↔ R a := by
  simp [pure_eq, sat_ok]

theorem sat_emit {o : ω} {R : Unit → Prop} : Sat P R (emit o : Emit ω ε Unit) ↔ P o ∧ R () := by
  simp [emit, sat_ok]

theorem sat_lift {x : Except ε α} : Sat P R (liftM x : Emit ω ε α) ↔ ∀ a, x = .ok a → R a := by
  cases x with
  | error e => simp [liftM, monadLift, MonadLift.monadLift, sat_error]
  | ok a => simp [liftM, monadLift, MonadLift.monadLift, sat_ok]

theorem sat_bind {x : Emit ω ε α} {f : α → Emit ω ε β}
    : Sat P Q (x >>= f) ↔ Sat P (fun a => Sat P Q (f a)) x := by
  rcases x with ⟨outputs, e | a⟩
  . rw [bind_error, sat_error, sat_error]
  . rw [bind_ok, sat_ok]
    simp only [Sat, List.mem_append, or_imp, forall_and, and_assoc]

theorem Sat.bind {x : Emit ω ε α} {f : α → Emit ω ε β} (h : Sat P R x)
    (hf : ∀ a, R a → Sat P Q (f a))
    : Sat P Q (x >>= f) := by
  rw [sat_bind]
  refine ⟨h.1, ?_⟩
  intro a ha
  exact hf a (h.2 a ha)

end Sat

/--
Both emit the same and return related values, or fail.
-/
inductive Rel (R : α → β → Prop) : Emit ω ε α → Emit ω ε β → Prop where
  | ok {outputs : List ω} {a : α} {b : β} (h : R a b) : Rel R ⟨outputs, .ok a⟩ ⟨outputs, .ok b⟩
  | error {outputs : List ω} {e e' : ε} : Rel R ⟨outputs, .error e⟩ ⟨outputs, .error e'⟩

namespace Rel

variable {R : α → β → Prop} {S : γ → δ → Prop} {x : Emit ω ε α} {y : Emit ω ε β}

theorem outputs_eq (h : Rel R x y) : x.outputs = y.outputs := by
  cases h <;> rfl

theorem result_ok {a : α} (h : Rel R x y) (ha : x.result = .ok a)
    : ∃ b, y.result = .ok b ∧ R a b := by
  cases h with
  | ok hab =>
    injection ha with ha
    subst ha
    exact ⟨_, rfl, hab⟩
  | error => contradiction

theorem mono {R' : α → β → Prop} (h : Rel R x y) (hR : ∀ a b, R a b → R' a b) : Rel R' x y := by
  cases h with
  | ok hab => apply ok (hR _ _ hab)
  | error => exact error

theorem bind {f : α → Emit ω ε γ} {g : β → Emit ω ε δ} (h : Rel R x y)
    (hf : ∀ a b, R a b → Rel S (f a) (g b))
    : Rel S (x >>= f) (y >>= g) := by
  cases h with
  | error =>
    rw [bind_error, bind_error]
    exact error
  | ok hab =>
    rename_i a b
    rw [bind_ok, bind_ok]
    have := hf a b hab
    generalize f a = fa at this ⊢
    generalize g b = gb at this ⊢
    cases this with
    | ok hcd => apply ok hcd
    | error => exact error

theorem pure {a : α} {b : β} (h : R a b) : Rel R (Pure.pure a : Emit ω ε α) (Pure.pure b) := by
  apply ok h

theorem emit {o : ω} : Rel (fun _ _ => True) (Emit.emit o : Emit ω ε Unit) (Emit.emit o) := by
  apply ok trivial

end Rel
end Emit
end Fsw

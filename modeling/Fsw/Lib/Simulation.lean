import Mathlib.Data.List.Forall2

namespace Fsw

variable {ε α β γ δ ι : Type} {R : α → β → Prop} {S : γ → δ → Prop} {e : ε}

inductive Follows (R : α → β → Prop) (e : ε) : Except ε α → Option β → Prop where
  | ok {a : α} {b : β} (h : R a b) : Follows R e (.ok a) (some b)
  | error : Follows R e (.error e) none

namespace Follows

theorem bind {x : Except ε α} {y : Option β} {f : α → Except ε γ} {g : β → Option δ}
    (h : Follows R e x y) (hf : ∀ a b, R a b → Follows S e (f a) (g b))
    : Follows S e (x >>= f) (y >>= g) := by
  cases h with
  | ok h => exact hf _ _ h
  | error => exact .error

theorem foldlM {f : α → ι → Except ε α} {g : β → ι → Option β} {l : List ι}
    {a : α} {b : β} (h : R a b) (hf : ∀ a b, ∀ i ∈ l, R a b → Follows R e (f a i) (g b i))
    : Follows R e (l.foldlM f a) (l.foldlM g b) := by
  induction l generalizing a b with
  | nil => exact .ok h
  | cons i l ih =>
    rw [List.foldlM_cons, List.foldlM_cons]
    apply bind (hf a b i List.mem_cons_self h)
    intro a' b' h'
    apply ih h'
    intro a b j hj
    exact hf a b j (List.mem_cons_of_mem i hj)

end Follows

theorem forall₂_getElem? {l : List α} {l' : List β} (h : List.Forall₂ R l l') (i : Nat)
    : (l[i]? = none ∧ l'[i]? = none) ∨ ∃ a b, l[i]? = some a ∧ l'[i]? = some b ∧ R a b := by
  induction h generalizing i with
  | nil => exact .inl ⟨rfl, rfl⟩
  | @cons a b l l' hab _ ih =>
    cases i with
    | zero => exact .inr ⟨a, b, rfl, rfl, hab⟩
    | succ i => exact ih i

theorem forall₂_set {l : List α} {l' : List β} {a : α} {b : β} (h : List.Forall₂ R l l')
    (hab : R a b) (i : Nat)
    : List.Forall₂ R (l.set i a) (l'.set i b) := by
  induction h generalizing i with
  | nil => exact .nil
  | cons h₁ h₂ ih =>
    cases i with
    | zero => exact .cons hab h₂
    | succ i => exact .cons h₁ (ih i)

end Fsw

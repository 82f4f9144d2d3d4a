import Mathlib.Tactic.Common

namespace Fsw

theorem bind_eq_ok {ε α β : Type} {x : Except ε α} {f : α → Except ε β}
    {b : β} (h : (x >>= f) = .ok b)
    : ∃ a, x = .ok a ∧ f a = .ok b := by
  cases x with
  | error e => contradiction
  | ok a => exact ⟨a, rfl, h⟩

theorem ok_bind {ε α β : Type} {a : α} {f : α → Except ε β} : (.ok a >>= f) = f a := rfl

theorem error_bind {ε α β : Type} {e : ε} {f : α → Except ε β} : (.error e >>= f) = .error e := rfl

theorem ok_pair {ε α β : Type} {a a' : α} {b b' : β}
    (h : (.ok (a, b) : Except ε (α × β)) = .ok (a', b'))
    : a = a' ∧ b = b' := by
  injection h with h
  injection h with ha hb
  exact ⟨ha, hb⟩

theorem ok_of_toOption {ε α : Type} {x : Except ε α} {a : α} (h : x.toOption = some a)
    : x = .ok a := by
  cases x with
  | error e => cases h
  | ok b =>
    injection h with h
    rw [h]

end Fsw

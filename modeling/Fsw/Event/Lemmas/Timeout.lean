import Fsw.Coroutine.Lemmas.TimerManager
import Fsw.Event.Impl.Event

namespace Fsw

variable {α : Type} {timers : TimerManager α} {t : Timer α} {now : Nat}

def Timer.remaining (t : Timer α) (now : Nat) : Int :=
  max 0 (t.execMsec - now)

def InTime (timers : TimerManager α) (now : Nat) : Prop :=
  0 ≤ epollTimeout timers now ∧ ∀ t ∈ timers, epollTimeout timers now ≤ t.remaining now

-- What `int` makes of a time that is left or, in case the clock is that far ahead, of one that has
-- passed
def Narrows (t : Timer α) (now : Nat) : Prop :=
  now ≤ t.execMsec ∧ (2 ^ 63 ≤ t.execMsec - now ∨ (t.execMsec - now) % 2 ^ 32 < 2 ^ 31)
    ∨ t.execMsec < now ∧ (now - t.execMsec ≤ 2 ^ 63 ∨ (now - t.execMsec) % 2 ^ 32 = 0)

instance : Decidable (Narrows t now) :=
  inferInstanceAs (Decidable (_ ∨ _))

theorem getNextTimeout_eq_of_top (htop : timers.top? = some t) (hexec : t.execMsec < 2 ^ 64)
    (hnow : now < 2 ^ 64)
    : timers.getNextTimeout now
        = if now ≤ t.execMsec then
            if t.execMsec - now < 2 ^ 63 then ((t.execMsec - now : Nat) : Int) else 0
          else
            if now - t.execMsec ≤ 2 ^ 63 then 0 else 2 ^ 64 - ((now - t.execMsec : Nat) : Int) := by
  simp only [TimerManager.getNextTimeout, htop, Timer.toInt64]
  by_cases hle : now ≤ t.execMsec
  . have hmod : (t.execMsec + 2 ^ 64 - now) % 2 ^ 64 = t.execMsec - now := by omega
    rw [hmod, if_pos hle]
    split
    . rw [if_neg (by omega)]
    . rw [if_pos (by omega)]
  . have hmod : (t.execMsec + 2 ^ 64 - now) % 2 ^ 64 = 2 ^ 64 - (now - t.execMsec) := by omega
    rw [hmod, if_neg hle]
    split
    . split
      . omega
      . split
        . omega
        . omega
    . split
      . rw [if_pos (by omega)]
      . omega

theorem remaining_le (htop : timers.IsTop t) {t' : Timer α} (ht' : t' ∈ timers)
    : t.remaining now ≤ t'.remaining now := by
  have := htop t' ht'
  unfold Timer.remaining
  omega

theorem inTime_iff_of_top (htop : timers.top? = some t)
    : InTime timers now ↔ 0 ≤ epollTimeout timers now
        ∧ epollTimeout timers now ≤ t.remaining now := by
  rcases TimerManager.top?_eq_some htop with ⟨hmem, hmin⟩
  unfold InTime
  constructor
  . rintro ⟨hpos, hle⟩
    exact ⟨hpos, hle t hmem⟩
  . rintro ⟨hpos, hle⟩
    refine ⟨hpos, ?_⟩
    intro t' ht'
    exact Int.le_trans hle (remaining_le hmin ht')

theorem inTime_iff_narrows (htop : timers.top? = some t) (hexec : t.execMsec < 2 ^ 64)
    (hnow : now < 2 ^ 64)
    : InTime timers now ↔ Narrows t now := by
  rw [inTime_iff_of_top htop, epollTimeout, getNextTimeout_eq_of_top htop hexec hnow]
  unfold Narrows Timer.remaining Int.bmod
  dsimp only
  split
  . split
    . split
      . omega
      . omega
    . simp
      omega
  . split
    . simp
      omega
    . split
      . omega
      . omega

/--
The loop does not sleep past a timer if and only if the time that is left until the first one is not
negative when it has become an `int`.
-/
theorem inTime_iff (timers : TimerManager α) (now : Nat) (hnonempty : timers ≠ [])
    (hexec : ∀ t ∈ timers, t.execMsec < 2 ^ 64) (hnow : now < 2 ^ 64)
    : InTime timers now ↔ ∀ t ∈ timers, timers.IsTop t → Narrows t now := by
  cases htop : timers.top? with
  | none => exact absurd (TimerManager.top?_eq_none.mp htop) hnonempty
  | some t =>
    rcases TimerManager.top?_eq_some htop with ⟨hmem, hmin⟩
    rw [inTime_iff_narrows htop (hexec t hmem) hnow]
    constructor
    . intro hnarrows t' ht' hmin'
      have heq : t'.execMsec = t.execMsec := Nat.le_antisymm (hmin' t hmem) (hmin t' ht')
      unfold Narrows at hnarrows ⊢
      rw [heq]
      exact hnarrows
    . intro hall
      exact hall t hmem hmin

def pending (timeouts : List Int) (now : Nat) : TimerManager Unit :=
  timeouts.foldl (fun timers timeout => timers.addTimer now timeout ()) []

theorem inTime_second
    : pending [1000, 3000] 1700000000000 ≠ []
        ∧ (∀ t ∈ pending [1000, 3000] 1700000000000, t.execMsec < 2 ^ 64)
        ∧ InTime (pending [1000, 3000] 1700000000000) 1700000000500 := by
  refine ⟨by decide, by decide, (inTime_iff _ _ (by decide) (by decide) (by decide)).mpr ?_⟩
  decide

-- `Coroutine::sleep(2147483.648)`
theorem not_inTime_two_pow_31
    : epollTimeout (pending [2147483648] 1700000000000) 1700000000000 = -2147483648
        ∧ ¬InTime (pending [2147483648] 1700000000000) 1700000000000 := by
  have hneg : epollTimeout (pending [2147483648] 1700000000000) 1700000000000 = -2147483648 := by
    decide
  refine ⟨hneg, ?_⟩
  intro h
  have hpos := h.1
  rw [hneg] at hpos
  exact absurd hpos (by decide)

end Fsw

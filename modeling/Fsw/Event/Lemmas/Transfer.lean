import Fsw.Event.Impl.Transfer

namespace Fsw
namespace Transfer

variable {σ : Type} {move : σ → Nat → Nat → σ} {len k : Nat} {s : σ}
  {script : List Result} {t : Transfer σ}

def Result.bytes : Result → Nat
  | .count n => n
  | .again _ => 0
  | .error => 0

def counts (results : List Result) : Nat :=
  results.foldr (fun r n => r.bytes + n) 0

def lastRet (attempts : List Attempt) : Int :=
  (attempts.getLast?.map (·.result.ret)).getD 0

-- The kernel does not transfer more than it is asked for.
def Fits (len : Nat) : Nat → List Result → Prop
  | _, [] => True
  | total, .again true :: script => Fits len total script
  | _, .again false :: _ => True
  | _, .error :: _ => True
  | total, .count n :: script =>
    n = 0 ∨ total + n ≤ len ∧ (total + n = len ∨ Fits len (total + n) script)

structure GoesOn (len k : Nat) (script : List Result) : Prop where
  all : ∀ r ∈ script, r = .again true ∨ 0 < r.ret
  room : k + counts script < len ∨ len = 0

/--
`r` bytes have been transferred in all, `k` of them before the calls of the kernel that are in `t`.
-/
structure Account (len k : Nat) (script : List Result) (t : Transfer σ) (r : Nat) : Prop where
  sum : r = k + counts (t.attempts.map (·.result))
  le : r ≤ len
  ret : t.ret = if 0 < r then (r : Int) else lastRet t.attempts
  full : r = len ∨ lastRet t.attempts ≤ 0
  place : ∀ (before : List Attempt) (a : Attempt) (later : List Attempt),
  t.attempts = before ++ a :: later →
    a.pos = (k + counts (before.map (·.result)) : Nat) ∧ a.pos + a.length = len
      ∧ (a.pos < len ∨ len = 0)
  script : t.attempts.map (·.result) <+: script
  nonempty : t.attempts ≠ []

theorem counts_cons {result : Result}
    : counts (result :: script) = result.bytes + counts script := rfl

theorem Fits.of_count {n : Nat} (h : Fits len k (.count n :: script)) (hn : 0 < n)
    : k + n ≤ len ∧ (k + n = len ∨ Fits len (k + n) script) := by
  rcases h with hzero | h
  . omega
  . exact h

theorem toUInt64_sub (hk : k ≤ len) (hlen : len < 2 ^ 64)
    : Timer.toUInt64 ((len : Int) - k) = len - k := by
  unfold Timer.toUInt64
  omega

theorem toUInt64_eq_iff {total : Int} (h : 0 ≤ total) (hmax : total ≤ SSIZE_MAX)
    : Timer.toUInt64 total = len ↔ total = len := by
  unfold Timer.toUInt64
  unfold SSIZE_MAX at hmax
  omega

section Account

variable {a : Attempt} {r : Nat}

theorem lastRet_cons {attempts : List Attempt} (h : attempts ≠ [])
    : lastRet (a :: attempts) = lastRet attempts := by
  rw [lastRet, lastRet, List.getLast?_cons_of_ne_nil h]

theorem map_after {x : Except Stuck (Transfer σ)} (h : x.map (after a) = .ok t)
    : ∃ t', x = .ok t' ∧ t = after a t' := by
  cases x with
  | error e => contradiction
  | ok t' =>
    injection h with h
    exact ⟨t', rfl, h.symm⟩

theorem map_after_error {x : Except Stuck (Transfer σ)} {e : Stuck} (h : x.map (after a) = .error e)
    : x = .error e := by
  cases x with
  | error e' => exact h
  | ok t' => contradiction

theorem Account.after {k' : Nat} {result : Result} (h : Account len k' script t r) (hk : k ≤ len)
    (hlt : k < len ∨ len = 0) (hsum : k' = k + result.bytes)
    : Account len k (result :: script) (after ⟨k, len - k, result⟩ t) r where
  sum := by
    have := h.sum
    simp only [Transfer.after, List.map_cons, counts_cons]
    omega
  le := h.le
  ret := by
    rw [Transfer.after, lastRet_cons h.nonempty]
    exact h.ret
  full := by
    rw [Transfer.after, lastRet_cons h.nonempty]
    exact h.full
  place := by
    intro before a later hsplit
    cases before with
    | nil =>
      injection hsplit with ha
      subst ha
      simp only [counts, List.map_nil, List.foldr_nil]
      omega
    | cons first before =>
      injection hsplit with hfirst hsplit
      have hplace := h.place before a later hsplit
      rw [hsum] at hplace
      rw [← hfirst, List.map_cons, counts_cons, ← Nat.add_assoc]
      exact hplace
  script := by
    simp only [Transfer.after, List.map_cons]
    exact (List.prefix_cons_inj _).mpr h.script
  nonempty := List.cons_ne_nil _ _

theorem account_last {result : Result} {ret : Int} (hk : k ≤ len) (hlt : k < len ∨ len = 0)
    (hle : k + result.bytes ≤ len)
    (hret : ret = if 0 < k + result.bytes then ((k + result.bytes : Nat) : Int) else result.ret)
    (hfull : k + result.bytes = len ∨ result.ret ≤ 0)
    : Account len k (result :: script) (⟨ret, s, [⟨k, len - k, result⟩]⟩ : Transfer σ)
        (k + result.bytes) where
  sum := rfl
  le := hle
  ret := hret
  full := hfull
  place := by
    intro before a later hsplit
    cases before with
    | nil =>
      injection hsplit with ha
      subst ha
      simp only [counts, List.map_nil, List.foldr_nil]
      omega
    | cons first before =>
      injection hsplit with _ hsplit
      exact absurd hsplit.symm (by simp)
  script := by
    simp only [List.map_cons, List.map_nil]
    exact ⟨script, rfl⟩
  nonempty := List.cons_ne_nil _ _

end Account

theorem account_stop {result : Result} (hk : k ≤ len) (hlt : k < len ∨ len = 0)
    (hbytes : result.bytes = 0) (hret : result.ret ≤ 0)
    : Account len k (result :: script)
        (⟨if (k : Int) = 0 then result.ret else k, s, [⟨k, len - k, result⟩]⟩ : Transfer σ) k := by
  have hret' : (if (k : Int) = 0 then result.ret else k)
      = if 0 < k + result.bytes then ((k + result.bytes : Nat) : Int) else result.ret := by
    rw [hbytes, Nat.add_zero]
    split
    . rw [if_neg (by omega)]
    . rw [if_pos (by omega)]
  have hlast := @account_last _ len k s script _ _ hk hlt (by omega) hret' (.inr hret)
  rw [hbytes, Nat.add_zero] at hlast
  exact hlast

theorem Result.cases (result : Result)
    : result = .again true ∨ (result ≠ .again true ∧ result.bytes = 0 ∧ result.ret ≤ 0)
        ∨ ∃ n, 0 < n ∧ result = .count n := by
  cases result with
  | again waited => cases waited <;> simp [Result.bytes, Result.ret]
  | error => simp [Result.bytes, Result.ret]
  | count n => cases n <;> simp [Result.bytes, Result.ret]

theorem transferAll_again (hk : k ≤ len) (hlen : len < 2 ^ 64)
    : transferAll move len k s (.again true :: script)
        = (transferAll move len k s script).map (after ⟨k, len - k, .again true⟩) := by
  rw [transferAll, toUInt64_sub hk hlen]

theorem transferAll_stop {result : Result} (hk : k ≤ len) (hlen : len < 2 ^ 64)
    (hagain : result ≠ .again true) (hret : result.ret ≤ 0)
    : transferAll move len k s (result :: script)
        = .ok ⟨if (k : Int) = 0 then result.ret else k, s, [⟨k, len - k, result⟩]⟩ := by
  rw [transferAll, toUInt64_sub hk hlen]
  . rw [if_pos hret]
  . exact hagain

theorem transferAll_count {n : Nat} (hk : k ≤ len) (hlen : len < 2 ^ 64) (hn : 0 < n)
    : transferAll move len k s (.count n :: script)
        = if ((k + n : Nat) : Int) > SSIZE_MAX then
            .error .overflow
          else if k + n = len then
            .ok ⟨(k + n : Nat), move s k n, [⟨k, len - k, .count n⟩]⟩
          else
            (transferAll move len (k + n : Nat) (move s k n) script).map
            (after ⟨k, len - k, .count n⟩) := by
  have hpos : ¬(Result.count n).ret ≤ 0 := by
    simp only [Result.ret]
    omega
  have hcast : (k : Int) + (Result.count n).ret = (k + n : Nat) := by
    simp only [Result.ret]
    omega
  have hnat : (Result.count n).ret.toNat = n := Int.toNat_natCast n
  conv => lhs; unfold transferAll
  dsimp only
  rw [if_neg hpos, hcast, hnat, Int.toNat_natCast, toUInt64_sub hk hlen]
  by_cases hmax : ((k + n : Nat) : Int) > SSIZE_MAX
  . rw [if_pos hmax, if_pos hmax]
  . rw [if_neg hmax, if_neg hmax]
    have hiff : Timer.toUInt64 ((k + n : Nat) : Int) = len ↔ k + n = len := by
      rw [toUInt64_eq_iff (by omega) (by omega)]
      omega
    simp only [hiff]

theorem transferAll_account {I : σ → Nat → Prop} (hlen : len < 2 ^ 64)
    (hlt : k < len ∨ len = 0) (hk : k ≤ len) (hfits : Fits len k script) (hinit : I s k)
    (hmove : ∀ s k n, I s k → k + n ≤ len → I (move s k n) (k + n))
    (h : transferAll move len k s script = .ok t)
    : ∃ r, Account len k script t r ∧ I t.state r := by
  induction script generalizing k s t with
  | nil => contradiction
  | cons result script ih =>
    rcases result.cases with rfl | ⟨hagain, hbytes, hret⟩ | ⟨n, hn, rfl⟩
    . rw [transferAll_again hk hlen] at h
      rcases map_after h with ⟨t', h', rfl⟩
      rcases ih hlt hk hfits hinit h' with ⟨r, haccount, hstate⟩
      exact ⟨r, haccount.after hk hlt rfl, hstate⟩
    . rw [transferAll_stop hk hlen hagain hret] at h
      injection h with h
      subst h
      exact ⟨k, account_stop hk hlt hbytes hret, hinit⟩
    . have hmoved := hfits.of_count hn
      have hinit' := hmove s k n hinit hmoved.1
      rw [transferAll_count hk hlen hn] at h
      split at h
      . contradiction
      . split at h
        . next hfull =>
          injection h with h
          subst h
          have hret : ((k + n : Nat) : Int)
            = if 0 < k + n then ((k + n : Nat) : Int) else (Result.count n).ret := by
            rw [if_pos (Nat.add_pos_right k hn)]
          exact ⟨k + n, account_last hk hlt hmoved.1 hret (.inl hfull), hinit'⟩
        . next hmore =>
          rcases map_after h with ⟨t', h', rfl⟩
          rcases ih (by omega) hmoved.1 (hmoved.2.resolve_left hmore) hinit' h' with
            ⟨r, haccount, hstate⟩
          exact ⟨r, haccount.after hk hlt rfl, hstate⟩

/--
The results are used up only if all of them let the loop go on, and an `ssize_t` overflows only if
the buffer is longer than it can say.
-/
theorem transferAll_error {e : Stuck} (hlen : len < 2 ^ 64) (hlt : k < len ∨ len = 0) (hk : k ≤ len)
    (hfits : Fits len k script) (h : transferAll move len k s script = .error e)
    : (e = .overflow ∧ SSIZE_MAX < len)
        ∨ (e = .unfinished ∧ GoesOn len k script) := by
  induction script generalizing k s with
  | nil =>
    injection h with h
    exact .inr ⟨h.symm, ⟨by simp, hlt⟩⟩
  | cons result script ih =>
    rcases result.cases with rfl | ⟨hagain, hbytes, hret⟩ | ⟨n, hn, rfl⟩
    . rw [transferAll_again hk hlen] at h
      rcases ih hlt hk hfits (map_after_error h) with hover | ⟨he, hall, hroom⟩
      . exact .inl hover
      . refine .inr ⟨he, ⟨List.forall_mem_cons.mpr ⟨.inl rfl, hall⟩, ?_⟩⟩
        rw [counts_cons]
        simp only [Result.bytes]
        omega
    . rw [transferAll_stop hk hlen hagain hret] at h
      contradiction
    . have hmoved := hfits.of_count hn
      rw [transferAll_count hk hlen hn] at h
      split at h
      . next hmax =>
        injection h with h
        exact .inl ⟨h.symm, by omega⟩
      . split at h
        . contradiction
        . next hmore =>
          rcases ih (by omega) hmoved.1 (hmoved.2.resolve_left hmore) (map_after_error h) with
            hover | ⟨he, hall, hroom⟩
          . exact .inl hover
          . refine .inr
              ⟨he, ⟨List.forall_mem_cons.mpr ⟨.inr (by simpa [Result.ret] using hn), hall⟩, ?_⟩⟩
            rw [counts_cons]
            simp only [Result.bytes]
            omega

theorem transferAll_returns (hlen : len ≤ SSIZE_MAX) (hfits : Fits len 0 script)
    (hgo : ¬GoesOn len 0 script)
    : ∃ t, transferAll move len 0 s script = .ok t := by
  have hlt : len < 2 ^ 64 := by
    unfold SSIZE_MAX at hlen
    omega
  cases h : transferAll move len 0 s script with
  | ok t => exact ⟨t, rfl⟩
  | error e =>
    rcases transferAll_error hlt (Nat.eq_zero_or_pos len).symm (Nat.zero_le len) hfits h with
      ⟨_, hmax⟩ | ⟨_, hgo'⟩
    . omega
    . exact absurd hgo' hgo

section Instances

variable {stream : Nat → UInt8} {mem : Bytes} {buf n : Nat}

theorem length_slice : (slice stream k n).length = n := by
  rw [slice, List.length_map, List.length_range]

theorem slice_add : slice stream 0 (k + n) = slice stream 0 k ++ slice stream k n := by
  simp only [slice, List.range_add, List.map_append, List.map_map, Nat.zero_add]
  rfl

theorem write_slice (hmem : buf + (k + n) ≤ mem.length)
    : Bytes.write (mem.take buf ++ slice stream 0 k ++ mem.drop (buf + k))
        (buf + k) (slice stream k n)
        = mem.take buf ++ slice stream 0 (k + n) ++ mem.drop (buf + (k + n)) := by
  have hlength : (mem.take buf ++ slice stream 0 k).length = buf + k := by
    rw [List.length_append, List.length_take, length_slice]
    omega
  rw [Bytes.write, List.take_left' hlength, length_slice, ← List.drop_drop,
    List.drop_left' hlength, List.drop_drop, Nat.add_assoc, slice_add]
  simp only [List.append_assoc]

theorem recvAll_account {t : Transfer Receiver} (hlen : len < 2 ^ 64)
    (hbuf : buf + len ≤ mem.length) (hfits : Fits len 0 script)
    (h : recvAll stream mem buf len script = .ok t)
    : ∃ r, Account len 0 script t r
        ∧ t.state = ⟨mem.take buf ++ slice stream 0 r ++ mem.drop (buf + r), r⟩ := by
  refine @transferAll_account _ _ len 0 _ script t
    (fun s k => s = ⟨mem.take buf ++ slice stream 0 k ++ mem.drop (buf + k), k⟩)
    hlen (Nat.eq_zero_or_pos len).symm
    (Nat.zero_le len) hfits ?_ ?_ h
  . simp [slice]
  . rintro s k n rfl hn
    simp only [write_slice (show buf + (k + n) ≤ mem.length by omega)]

theorem sendAll_account {t : Transfer Bytes} (hlen : len < 2 ^ 64) (hfits : Fits len 0 script)
    (h : sendAll mem buf len script = .ok t)
    : ∃ r, Account len 0 script t r ∧ t.state = (mem.drop buf).take r := by
  refine @transferAll_account _ _ len 0 _ script t (fun wire k => wire = (mem.drop buf).take k) hlen
    (Nat.eq_zero_or_pos len).symm (Nat.zero_le len) hfits ?_ ?_ h
  . rw [List.take_zero]
  . rintro wire k n rfl _
    rw [List.take_add, List.drop_drop]

theorem Account.ret_eq_iff {r : Nat} (h : Account len 0 script t r) (hlen : 0 < len)
    : t.ret = len ↔ r = len := by
  rw [h.ret]
  split
  . exact Int.ofNat_inj
  . next hzero =>
    have hret : lastRet t.attempts ≤ 0 := by
      apply h.full.resolve_left
      omega
    omega

/--
What `recv_all` stores and what `send_all` hands to the kernel is a prefix, and they return its
length. They return unless the kernel never ends their loop.
-/
theorem transfers_prefix (stream : Nat → UInt8) (mem : Bytes) (buf len : Nat) (script : List Result)
    (hlen : len < 2 ^ 64) (hbuf : buf + len ≤ mem.length) (hfits : Fits len 0 script)
    : (∀ t, recvAll stream mem buf len script = .ok t → ∃ r,
        Account len 0 script t r
          ∧ t.state = ⟨mem.take buf ++ slice stream 0 r ++ mem.drop (buf + r), r⟩)
      ∧ (∀ t, sendAll mem buf len script = .ok t → ∃ r,
        Account len 0 script t r
          ∧ t.state = (mem.drop buf).take r)
      ∧ (len ≤ SSIZE_MAX → ¬GoesOn len 0 script →
        (∃ t, recvAll stream mem buf len script = .ok t)
        ∧ ∃ t, sendAll mem buf len script = .ok t) := by
  refine ⟨?_, ?_, ?_⟩
  . intro t h
    exact recvAll_account hlen hbuf hfits h
  . intro t h
    exact sendAll_account hlen hfits h
  . intro hmax hgo
    exact ⟨transferAll_returns hmax hfits hgo, transferAll_returns hmax hfits hgo⟩

-- Three of four bytes, with a wait in between and an error at the end
theorem transfers_prefix_three
    : Fits 4 0 [.count 1, .again true, .count 2, .error]
      ∧ (∀ t, recvAll UInt8.ofNat [9, 9, 9, 9, 9, 9] 1 4 [.count 1, .again true, .count 2, .error]
        = .ok t → ∃ r, Account 4 0 [.count 1, .again true, .count 2, .error] t r
          ∧ t.state = ⟨[9] ++ slice UInt8.ofNat 0 r ++ List.drop (1 + r) [9, 9, 9, 9, 9, 9], r⟩)
      ∧ ∃ t, recvAll UInt8.ofNat [9, 9, 9, 9, 9, 9] 1 4 [.count 1, .again true, .count 2, .error]
        = .ok t
        ∧ t.ret = 3 ∧ t.state.mem = [9, 0, 1, 2, 9, 9] := by
  have hfits : Fits 4 0 [.count 1, .again true, .count 2, .error] := by simp [Fits]
  have h := transfers_prefix UInt8.ofNat [9, 9, 9, 9, 9, 9] 1 4 [.count 1, .again true,
    .count 2, .error] (by decide)
    (by decide) hfits
  exact ⟨hfits, h.1, _, rfl, by decide, by decide⟩

end Instances

end Transfer
end Fsw

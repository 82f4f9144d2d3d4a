import Fsw.Buffer.Impl.Buffer
import Fsw.Lib.Decimal

namespace Fsw
namespace Buffer

variable {b b' : Buffer} {bs : Bytes}

theorem length_contents : b.contents.length = b.length := by
  have h1 := b.length_mem
  have h2 := b.length_le
  simp only [contents, List.length_take]
  omega

@[simp]
theorem contents_new {size : Nat} : (new size).contents = [] := by
  simp [contents, new]

@[simp]
theorem contents_clear : b.clear.contents = [] := by
  simp [contents, clear]

theorem getD_clear {i : Nat} (hi : 0 < i) : b.clear.mem.getD i 0 = b.mem.getD i 0 := by
  have := b.length_mem
  apply Bytes.getD_write
  . rw [List.length_singleton]
    omega
  . exact .inr hi

theorem append_ok (h : b.append bs = .ok b')
    : b.length + bs.length ≤ b.size ∧ b'.contents = b.contents ++ bs ∧ b'.size = b.size
        ∧ b'.length = b.length + bs.length := by
  unfold append at h
  split at h
  . contradiction
  . split at h
    . next hle =>
      have hmem := b.length_mem
      injection h with h
      subst h
      refine ⟨hle, ?_, rfl, rfl⟩
      simp only [contents]
      rw [Bytes.take_write_of_le]
      . apply Bytes.take_write
        omega
      . omega
      . rw [Bytes.length_write]
        . omega
        . omega
    . contradiction

theorem getD_append {i : Nat} (h : b.append bs = .ok b') (hi : b.length + bs.length < i)
    : b'.mem.getD i 0 = b.mem.getD i 0 := by
  unfold append at h
  split at h
  . contradiction
  . split at h
    . next hle =>
      have hmem := b.length_mem
      have hwrite : (Bytes.write b.mem b.length bs).length = b.mem.length := by
        apply Bytes.length_write
        omega
      injection h with h
      subst h
      dsimp only
      rw [Bytes.getD_write (by rw [hwrite, List.length_singleton]; omega) (.inr hi),
        Bytes.getD_write (by omega) (.inr (by omega))]
    . contradiction

theorem append_terminated (h : b.append bs = .ok b') : b'.mem.getD b'.length 0 = 0 := by
  unfold append at h
  split at h
  . contradiction
  . split at h
    . next hle =>
      have hmem := b.length_mem
      have hwrite : (Bytes.write b.mem b.length bs).length = b.mem.length := by
        apply Bytes.length_write
        omega
      injection h with h
      subst h
      have hle' : (List.take (b.length + bs.length) (Bytes.write b.mem b.length bs)).length
          = b.length + bs.length := by
        rw [List.length_take]
        omega
      dsimp only
      rw [Bytes.write, List.append_assoc, List.getD_eq_getElem?_getD,
        List.getElem?_append_right (by omega), hle']
      simp
    . contradiction

theorem append_eq_ok (h : b.length + bs.length ≤ b.size) (hsize : b.size < 2 ^ 64)
    : ∃ b', b.append bs = .ok b' ∧ b'.contents = b.contents ++ bs ∧ b'.size = b.size
        ∧ b'.length = b.length + bs.length := by
  have hmod : ¬(b.length + bs.length) % 2 ^ 64 > b.size := by
    rw [Nat.mod_eq_of_lt]
    . omega
    . omega
  have hok : ∃ b', b.append bs = .ok b' := by
    unfold append
    rw [if_neg hmod, dif_pos h]
    exact ⟨_, rfl⟩
  rcases hok with ⟨b', hok⟩
  exact ⟨b', hok, (append_ok hok).2⟩

def appendAll (b : Buffer) (l : List Bytes) : Except Trap Buffer :=
  l.foldlM append b

theorem appendAll_append {l l' : List Bytes}
    : b.appendAll (l ++ l') = b.appendAll l >>= (appendAll · l') := by
  apply List.foldlM_append

theorem appendAll_eq_ok {l : List Bytes} (h : b.length + l.flatten.length ≤ b.size)
    (hsize : b.size < 2 ^ 64)
    : ∃ b', b.appendAll l = .ok b' ∧ b'.contents = b.contents ++ l.flatten ∧ b'.size = b.size := by
  induction l generalizing b with
  | nil => exact ⟨b, rfl, by simp, rfl⟩
  | cons bs l ih =>
    rw [List.flatten_cons, List.length_append] at h
    have hbs : b.length + bs.length ≤ b.size := by omega
    rcases append_eq_ok hbs hsize with ⟨b₁, h₁, hcontents, hsize₁, hlength⟩
    rcases ih (b := b₁) (by omega) (by omega) with ⟨b', h', hcontents', hsize'⟩
    refine ⟨b', ?_, ?_, ?_⟩
    . unfold appendAll at h' ⊢
      rw [List.foldlM_cons, h₁]
      exact h'
    . rw [hcontents', hcontents, List.flatten_cons, List.append_assoc]
    . rw [hsize', hsize₁]

theorem appendAll_error {l : List Bytes} (h : b.size < b.length + l.flatten.length)
    : ∃ e, b.appendAll l = .error e := by
  unfold appendAll
  induction l generalizing b with
  | nil =>
    have := b.length_le
    rw [List.flatten_nil, List.length_nil] at h
    omega
  | cons bs l ih =>
    rw [List.flatten_cons, List.length_append] at h
    rw [List.foldlM_cons]
    cases happend : b.append bs with
    | error e => exact ⟨e, rfl⟩
    | ok b₁ =>
      rcases append_ok happend with ⟨_, _, hsize, hlength⟩
      apply ih
      omega

theorem append_exit (hsize : b.size < 2 ^ 63) (hbs : bs.length < 2 ^ 63)
    (h : b.size < b.length + bs.length)
    : b.append bs = .error .exit := by
  have hlength := b.length_le
  have hmod : (b.length + bs.length) % 2 ^ 64 = b.length + bs.length := by
    apply Nat.mod_eq_of_lt
    omega
  unfold append
  rw [hmod, if_pos h]

-- The sum only wraps around if there is something that large.
theorem appendAll_exit {l : List Bytes} (hsize : b.size < 2 ^ 63)
    (hl : ∀ bs ∈ l, bs.length < 2 ^ 63) (h : b.size < b.length + l.flatten.length)
    : b.appendAll l = .error .exit := by
  unfold appendAll
  induction l generalizing b with
  | nil =>
    have := b.length_le
    rw [List.flatten_nil, List.length_nil] at h
    omega
  | cons bs l ih =>
    rw [List.forall_mem_cons] at hl
    rw [List.flatten_cons, List.length_append] at h
    rw [List.foldlM_cons]
    by_cases hfits : b.length + bs.length ≤ b.size
    . rcases append_eq_ok hfits (by omega) with ⟨b₁, hb₁, _, hsize₁, hlength⟩
      rw [hb₁]
      apply ih
      . rw [hsize₁]
        exact hsize
      . exact hl.2
      . omega
    . rw [append_exit hsize hl.1 (by omega)]
      rfl

theorem read_eq_ok {pos n : Nat} (h : pos + n ≤ b.length)
    : b.read pos n = .ok ((b.contents.drop pos).take n) := by
  have h1 := b.length_mem
  have h2 := b.length_le
  have hread : b.mem.read? pos n = some ((b.mem.drop pos).take n) := by
    rw [Bytes.read?, if_pos]
    omega
  simp only [read, hread, contents, List.drop_take, List.take_take]
  congr 2
  omega

theorem read_eq_mem {pos n : Nat} (h : pos + n ≤ b.mem.length)
    : b.read pos n = .ok ((b.mem.drop pos).take n) := by
  unfold read Bytes.read?
  rw [if_pos h]

theorem read_eq_of_mem {a c : Bytes} {pos n : Nat} (hmem : b.mem = a ++ (bs ++ c))
    (ha : a.length = pos) (hbs : bs.length = n)
    : b.read pos n = .ok bs := by
  subst ha hbs
  rw [read_eq_mem, hmem, List.drop_left, List.take_left]
  rw [hmem, List.length_append, List.length_append]
  omega

theorem read_ok {pos n : Nat} (h : b.read pos n = .ok bs) : bs = (b.mem.drop pos).take n := by
  unfold read Bytes.read? at h
  split at h
  . next hread =>
    split at hread
    . injection h with h
      injection hread with hread
      rw [← h, hread]
    . contradiction
  . contradiction

theorem length_read {pos n : Nat} (h : b.read pos n = .ok bs) : bs.length = n := by
  unfold read at h
  split at h
  . next hread =>
    injection h with h
    rw [← h]
    apply Bytes.length_read? hread
  . contradiction

theorem write_ok {pos : Nat} (h : b.write pos bs = .ok b')
    : b'.mem = b.mem.write pos bs ∧ b'.size = b.size := by
  unfold write at h
  split at h
  . injection h with h
    rw [← h]
    exact ⟨rfl, rfl⟩
  . contradiction

theorem getD_write {pos i : Nat} (h : b.write pos bs = .ok b') (hi : i < pos ∨ pos + bs.length ≤ i)
    : b'.mem.getD i 0 = b.mem.getD i 0 := by
  unfold write at h
  split at h
  . next hle =>
    injection h with h
    rw [← h]
    apply Bytes.getD_write hle hi
  . contradiction

theorem length_of_write {pos : Nat} (h : b.write pos bs = .ok b') : b'.length = b.length := by
  unfold write at h
  split at h
  . injection h with h
    rw [← h]
  . contradiction

theorem write_eq_ok (b : Buffer) (bs : Bytes) {pos : Nat} (h : pos + bs.length ≤ b.size + 1)
    : ∃ b', b.write pos bs = .ok b' ∧ b'.mem = b.mem.write pos bs ∧ b'.size = b.size := by
  rw [← b.length_mem] at h
  unfold write
  rw [dif_pos h]
  exact ⟨_, rfl, rfl, rfl⟩

theorem str_toString_ofNat {n : Nat} : str (toString (n : Int)) = Decimal.ofNat n := by
  have hrepr : toString (n : Int) = Nat.repr n := rfl
  rw [str, hrepr, Nat.toList_repr]
  rfl

theorem str_toString_negSucc {n : Nat}
    : str (toString (Int.negSucc n)) = 45 :: Decimal.ofNat (n + 1) := by
  have hrepr : toString (Int.negSucc n) = "-" ++ Nat.repr (n + 1) := rfl
  rw [str, hrepr, String.toList_append, Nat.toList_repr]
  rfl

theorem length_str_toString {value : Int} (hlow : -2147483648 ≤ value) (hhigh : value < 2147483648)
    : (str (toString value)).length ≤ 11 := by
  cases value with
  | ofNat m =>
    have hlength : (Decimal.ofNat m).length ≤ 11 := by
      apply Decimal.length_ofNat_le
      . decide
      . simp at hhigh
        omega
    have := str_toString_ofNat (n := m)
    rw [Int.ofNat_eq_natCast, this]
    exact hlength
  | negSucc m =>
    have hlength : (Decimal.ofNat (m + 1)).length ≤ 10 := by
      apply Decimal.length_ofNat_le
      . decide
      . omega
    rw [str_toString_negSucc, List.length_cons]
    omega

end Buffer
end Fsw

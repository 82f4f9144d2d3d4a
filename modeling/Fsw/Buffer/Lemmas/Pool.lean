import Fsw.Buffer.Impl.Pool
import Fsw.Buffer.Lemmas.Buffer
import Fsw.Lib.Except
import Fsw.Lib.Simulation

namespace Fsw
namespace Buffer

structure Text where
  size : Nat
  pieces : List Bytes
  deriving DecidableEq, Repr

namespace Text

def bytes (t : Text) : Bytes :=
  t.pieces.flatten

def append (t : Text) (bs : Bytes) : Option Text :=
  if (t.bytes ++ bs).length ≤ t.size then some { t with pieces := t.pieces ++ [bs] } else none

def update (ts : List Text) (i : Nat) (f : Text → Option Text) : Option (List Text) :=
  match ts[i]? with
  | some t => do
    let t ← f t
    return ts.set i t
  | none => return ts

def step (ts : List Text) : Op → Option (List Text)
  | .new size => return ts ++ [⟨size, []⟩]
  | .append i bs => update ts i (·.append bs)
  | .appendString i bs => update ts i (·.append bs)
  | .appendInt i value => update ts i (·.append (str (toString value.toInt)))
  | .appendBuffer i j =>
    match ts[j]? with
    | some t => update ts i (·.append t.bytes)
    | none => return ts
  | .clear i => update ts i fun t => return ⟨t.size, []⟩
  | .dup i =>
    match ts[i]? with
    | some t => return ts ++ [⟨t.bytes.length, [t.bytes]⟩]
    | none => return ts

def run (ops : List Op) : Option (List Text) :=
  ops.foldlM step []

end Text

structure Represents (b : Buffer) (t : Text) : Prop where
  size_eq : b.size = t.size
  size_lt : b.size < 2 ^ 63
  length_le : b.length ≤ b.size
  terminated : b.mem[b.length]? = some 0
  bytes_eq : b.mem.take b.length = t.bytes

def Op.Bounded : Op → Prop
  | .new size => size < 2 ^ 63
  | .append _ bs => bs.length < 2 ^ 63
  | .appendString _ bs => bs.length < 2 ^ 63
  | .appendInt _ _ => True
  | .appendBuffer _ _ => True
  | .clear _ => True
  | .dup _ => True

def Op.target : Op → Option Nat
  | .new _ => none
  | .append i _ => some i
  | .appendString i _ => some i
  | .appendInt i _ => some i
  | .appendBuffer i _ => some i
  | .clear i => some i
  | .dup _ => none

variable {b b' : Buffer} {t : Text} {bs : Bytes}

theorem getElem?_of_terminated (h : b.mem.getD b.length 0 = 0) : b.mem[b.length]? = some 0 := by
  have hmem := b.length_mem
  have hle := b.length_le
  have hlt : b.length < b.mem.length := by omega
  rw [List.getD_eq_getElem?_getD, List.getElem?_eq_getElem hlt, Option.getD_some] at h
  rw [List.getElem?_eq_getElem hlt, h]

theorem represents_new {size : Nat} (h : size < 2 ^ 63) : Represents (new size) ⟨size, []⟩ where
  size_eq := rfl
  size_lt := h
  length_le := Nat.zero_le _
  terminated := by simp [new]
  bytes_eq := rfl

theorem represents_clear (h : Represents b t) : Represents b.clear ⟨t.size, []⟩ where
  size_eq := h.size_eq
  size_lt := h.size_lt
  length_le := Nat.zero_le _
  terminated := by simp [clear, Bytes.write]
  bytes_eq := rfl

theorem follows_append (h : Represents b t) (hbs : bs.length < 2 ^ 63)
    : Follows Represents .exit (b.append bs) (t.append bs) := by
  have hsize := h.size_eq
  have hlt := h.size_lt
  have hlength : (t.bytes ++ bs).length = b.length + bs.length := by
    have hcontents : t.bytes = b.contents := h.bytes_eq.symm
    rw [List.length_append, hcontents, length_contents]
  unfold Text.append
  rw [hlength]
  split
  . next hle =>
    have hroom : b.length + bs.length ≤ b.size := by omega
    rcases append_eq_ok hroom (by omega) with ⟨b', hb', hcontents, hsize', _⟩
    rw [hb']
    refine .ok ⟨?_, ?_, b'.length_le, getElem?_of_terminated (append_terminated hb'), ?_⟩
    . rw [hsize', hsize]
    . omega
    . change b'.contents = _
      rw [hcontents, contents, h.bytes_eq]
      simp [Text.bytes]
  . next hle =>
    rw [append_exit hlt hbs (by omega)]
    exact .error

theorem write_concat {mem : Bytes} {pos : Nat} {a : UInt8} (h : pos + bs.length < mem.length)
    : Bytes.write (Bytes.write mem pos bs) (pos + bs.length) [a]
        = Bytes.write mem pos (bs ++ [a]) := by
  have htake : (mem.take pos ++ bs).length = pos + bs.length := by
    rw [List.length_append, List.length_take]
    omega
  rw [Bytes.write, Bytes.write, Bytes.write, List.take_left' htake, ← List.drop_drop,
    List.drop_left' htake,
    List.drop_drop, List.length_append, List.append_assoc (mem.take pos), Nat.add_assoc]

theorem copyWithin_eq {mem : Bytes} {dst src n : Nat} (h : src + n ≤ dst)
    (hmem : dst + n ≤ mem.length)
    : copyWithin mem dst src n = Bytes.write mem dst ((mem.drop src).take n) := by
  induction n with
  | zero => simp [copyWithin, Bytes.write]
  | succ n ih =>
    have hslice : ((mem.drop src).take n).length = n := by
      rw [List.length_take, List.length_drop]
      omega
    -- The byte that is read lies before everything that has been written.
    have hget : (Bytes.write mem dst ((mem.drop src).take n)).getD (src + n) 0
      = mem.getD (src + n) 0 := by
      apply Bytes.getD_write
      . omega
      . exact .inl (by omega)
    have htake : (mem.drop src).take (n + 1) = (mem.drop src).take n ++ [mem.getD (src + n) 0] := by
      have hlt : src + n < mem.length := by omega
      rw [List.take_add_one, List.getElem?_drop, List.getD_eq_getElem?_getD,
        List.getElem?_eq_getElem hlt]
      rfl
    have hdst : dst + n = dst + ((mem.drop src).take n).length := by
      rw [hslice]
    rw [copyWithin, ih (by omega) (by omega), hget, htake, hdst, write_concat (by omega)]

theorem appendSelf_eq (b : Buffer) : b.appendSelf = b.append b.contents := by
  have hcopy : b.length + b.length ≤ b.size
      → copyWithin b.mem b.length 0 b.length = Bytes.write b.mem b.length b.contents := by
    intro hle
    have := b.length_mem
    rw [copyWithin_eq (by omega) (by omega), List.drop_zero, contents]
  unfold appendSelf append
  simp only [length_contents]
  split
  . rfl
  . split
    . next hle => simp only [hcopy hle]
    . rfl

section Step

variable {pool : Pool} {ts : List Text} {f : Buffer → Except Trap Buffer} {g : Text → Option Text}

theorem follows_update (h : List.Forall₂ Represents pool ts) (i : Nat)
    (hf : ∀ b t, ts[i]? = some t → Represents b t → Follows Represents .exit (f b) (g t))
    : Follows (List.Forall₂ Represents) .exit (pool.update i f) (Text.update ts i g) := by
  unfold Pool.update Text.update
  rcases forall₂_getElem? h i with ⟨hb, ht⟩ | ⟨b, t, hb, ht, hbt⟩
  . rw [hb, ht]
    exact .ok h
  . rw [hb, ht]
    apply (hf b t ht hbt).bind
    intro b' t' hbt'
    exact .ok (forall₂_set h hbt' i)

theorem forall₂_concat (h : List.Forall₂ Represents pool ts) (hbt : Represents b t)
    : List.Forall₂ Represents (pool ++ [b]) (ts ++ [t]) := by
  apply List.rel_append h
  exact .cons hbt .nil

theorem Represents.length_bytes (h : Represents b t) : t.bytes.length = b.length := by
  have hcontents : t.bytes = b.contents := h.bytes_eq.symm
  rw [hcontents, length_contents]

theorem follows_dup (h : Represents b t)
    : Follows Represents .exit b.dup (some ⟨t.bytes.length, [t.bytes]⟩) := by
  have hlt := h.size_lt
  have hle := h.length_le
  have hlength := h.length_bytes
  have hcontents : b.contents = t.bytes := h.bytes_eq
  have hbytes : (⟨b.length, []⟩ : Text).append t.bytes = some ⟨t.bytes.length, [t.bytes]⟩ := by
    unfold Text.append
    rw [if_pos (by simp only [Text.bytes, List.flatten_nil, List.nil_append] at hlength ⊢; omega),
      hlength]
    rfl
  rw [dup, appendBuffer, hcontents, ← hbytes]
  apply follows_append (represents_new (by omega))
  omega

theorem length_str_toString_lt (value : BitVec 32)
    : (str (toString value.toInt)).length < 2 ^ 63 := by
  have hlength : (str (toString value.toInt)).length ≤ 11 := by
    apply length_str_toString
    . exact value.le_toInt
    . exact value.toInt_lt
  omega

theorem follows_appendContents {src : Buffer} {u : Text} (h : Represents b t)
    (hsrc : Represents src u)
    : Follows Represents .exit (b.append src.contents) (t.append u.bytes) := by
  have hcontents : src.contents = u.bytes := hsrc.bytes_eq
  have hlt := hsrc.size_lt
  have hle := hsrc.length_le
  have hlength := hsrc.length_bytes
  rw [hcontents]
  apply follows_append h
  omega

theorem follows_step {op : Op} (h : List.Forall₂ Represents pool ts) (hop : op.Bounded)
    : Follows (List.Forall₂ Represents) .exit (pool.step op) (Text.step ts op) := by
  cases op with
  | new size => exact .ok (forall₂_concat h (represents_new hop))
  | append i bs =>
    apply follows_update h
    intro b t _ hbt
    exact follows_append hbt hop
  | appendString i bs =>
    apply follows_update h
    intro b t _ hbt
    exact follows_append hbt hop
  | appendInt i value =>
    apply follows_update h
    intro b t _ hbt
    exact follows_append hbt (length_str_toString_lt value)
  | appendBuffer i j =>
    simp only [Pool.step, Text.step]
    rcases forall₂_getElem? h j with ⟨hsrc, hu⟩ | ⟨src, u, hsrc, hu, hsu⟩
    . rw [hsrc, hu]
      split
      . next hij =>
        rw [Pool.update, hij, hsrc]
        exact .ok h
      . exact .ok h
    . rw [hsrc, hu]
      split
      . next hij =>
        apply follows_update h
        intro b t ht hbt
        rw [hij, hu] at ht
        injection ht with ht
        rw [appendSelf_eq, ht]
        exact follows_appendContents hbt hbt
      . apply follows_update h
        intro b t _ hbt
        exact follows_appendContents hbt hsu
  | clear i =>
    apply follows_update h
    intro b t _ hbt
    exact .ok (represents_clear hbt)
  | dup i =>
    simp only [Pool.step, Text.step]
    rcases forall₂_getElem? h i with ⟨hb, ht⟩ | ⟨b, t, hb, ht, hbt⟩
    . rw [hb, ht]
      exact .ok h
    . rw [hb, ht]
      apply (follows_dup hbt).bind (g := fun t => some (ts ++ [t]))
      intro b' t' hbt'
      exact .ok (forall₂_concat h hbt')

end Step

theorem equalString_iff {target : Bytes} : b.equalString target = true ↔ b.contents = target := by
  unfold equalString
  split
  . next h =>
    refine ⟨nofun, ?_⟩
    intro heq
    have hlength : b.length = target.length := by
      rw [← length_contents (b := b), heq]
    rcases h with h | h
    . contradiction
    . rw [hlength, List.take_length, ← hlength] at h
      contradiction
  . next h =>
    rw [not_or, Decidable.not_not, Decidable.not_not] at h
    refine ⟨?_, fun _ => rfl⟩
    intro _
    rw [contents, h.2, h.1, List.take_length]

theorem equal_eq_equalString : b.equal b' = b.equalString b'.contents := by
  unfold equal equalString
  rw [length_contents]
  by_cases hlength : b.length = b'.length
  . rw [contents, List.take_take, hlength, Nat.min_self]
  . rw [if_pos (.inl hlength), if_pos (.inl hlength)]

theorem equal_iff : b.equal b' = true ↔ b.contents = b'.contents := by
  rw [equal_eq_equalString, equalString_iff]

theorem getElem?_update {pool pool' : Pool} {f : Buffer → Except Trap Buffer} {i j : Nat}
    (h : pool.update i f = .ok pool') (hij : i ≠ j)
    : pool'[j]? = pool[j]? := by
  unfold Pool.update at h
  split at h
  . rcases bind_eq_ok h with ⟨b', _, h⟩
    injection h with h
    rw [← h, List.getElem?_set_ne hij]
  . injection h with h
    rw [h]

theorem getElem?_step {pool pool' : Pool} {op : Op} {j : Nat} (h : pool.step op = .ok pool')
    (hj : j < pool.length) (hop : op.target ≠ some j)
    : pool'[j]? = pool[j]? := by
  have hne {i : Nat} (hi : some i ≠ some j) : i ≠ j := fun hij => hi (congrArg some hij)
  cases op with
  | new size =>
    injection h with h
    rw [← h, List.getElem?_append_left hj]
  | append i bs => exact getElem?_update h (hne hop)
  | appendString i bs => exact getElem?_update h (hne hop)
  | appendInt i value => exact getElem?_update h (hne hop)
  | appendBuffer i k =>
    simp only [Pool.step] at h
    split at h
    . exact getElem?_update h (hne hop)
    . split at h
      . exact getElem?_update h (hne hop)
      . injection h with h
        rw [h]
  | clear i => exact getElem?_update h (hne hop)
  | dup i =>
    simp only [Pool.step] at h
    split at h
    . rcases bind_eq_ok h with ⟨b', _, h⟩
      injection h with h
      rw [← h, List.getElem?_append_left hj]
    . injection h with h
      rw [h]

theorem follows_run {ops : List Op} (hops : ∀ op ∈ ops, op.Bounded)
    : Follows (List.Forall₂ Represents) .exit (Pool.run ops) (Text.run ops) := by
  apply Follows.foldlM
  . exact .nil
  . intro pool ts op hop h
    exact follows_step h (hops op hop)

theorem run_refines (ops : List Op) (hops : ∀ op ∈ ops, op.Bounded)
    : Follows (List.Forall₂ Represents) .exit (Pool.run ops) (Text.run ops)
        ∧ ∀ pool, Pool.run ops = .ok pool
            → (∀ op pool', pool.step op = .ok pool' → ∀ j < pool.length, op.target ≠ some j
              → pool'[j]? = pool[j]?)
              ∧ ∀ b ∈ pool, (∀ b' ∈ pool, b.equal b' = true ↔ b.contents = b'.contents)
                  ∧ ∀ target, b.equalString target = true ↔ b.contents = target := by
  refine ⟨follows_run hops, ?_⟩
  intro pool _
  constructor
  . intro op pool' h j hj hop
    exact getElem?_step h hj hop
  . intro b _
    constructor
    . intro b' _
      exact equal_iff
    . intro target
      exact equalString_iff

theorem run_refines_appendSelf
    : (∀ op ∈ [Op.new 4, .append 0 [1, 0], .appendBuffer 0 0, .dup 0, .clear 0], op.Bounded)
        ∧ Follows (List.Forall₂ Represents) .exit
            (Pool.run [.new 4, .append 0 [1, 0], .appendBuffer 0 0, .dup 0, .clear 0])
            (some [⟨4, []⟩, ⟨4, [[1, 0, 1, 0]]⟩])
        ∧ Text.run [.new 4, .append 0 [1, 0], .appendBuffer 0 0, .append 0 [2]] = none := by
  have hops : ∀ op ∈ [Op.new 4, .append 0 [1, 0], .appendBuffer 0 0, .dup 0, .clear 0],
    op.Bounded := by
    simp [Op.Bounded]
  exact ⟨hops, (run_refines _ hops).1, rfl⟩

end Buffer
end Fsw

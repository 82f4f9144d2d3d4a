import Fsw.Lib.Bytes

/-!
This module contains the buffers of `buffer.cc`. The memory of a buffer has room for `size` bytes
and a final `\0`, the lengths are sums of type `size_t`. `read` and `write` are accesses through
`c_buffer()`.
-/

namespace Fsw

inductive Trap where
  | exit -- `fswError`
  | outOfBounds -- An access outside of what has been allocated
  | nullDeref
  deriving DecidableEq, Repr

structure Buffer where
  size : Nat
  length : Nat
  mem : Bytes
  length_mem : mem.length = size + 1
  length_le : length ≤ size
  deriving DecidableEq, Repr

namespace Buffer

def str (s : String) : Bytes :=
  s.toList.map fun c => UInt8.ofNat c.toNat

def new (size : Nat) : Buffer where
  size := size
  length := 0
  mem := List.replicate (size + 1) 0
  length_mem := List.length_replicate
  length_le := Nat.zero_le _

def contents (b : Buffer) : Bytes :=
  b.mem.take b.length

theorem length_mem_append {b : Buffer} {bs : Bytes} (h : b.length + bs.length ≤ b.size)
    : (Bytes.write (Bytes.write b.mem b.length bs) (b.length + bs.length) [0]).length
        = b.size + 1 := by
  have hmem := b.length_mem
  have hwrite : (Bytes.write b.mem b.length bs).length = b.mem.length := by
    apply Bytes.length_write
    omega
  rw [Bytes.length_write, hwrite, hmem]
  rw [hwrite, List.length_singleton]
  omega

def append (b : Buffer) (bs : Bytes) : Except Trap Buffer :=
  if (b.length + bs.length) % 2 ^ 64 > b.size then
    .error .exit
  else if h : b.length + bs.length ≤ b.size then
    .ok
      { size := b.size
        length := b.length + bs.length
        mem := Bytes.write (Bytes.write b.mem b.length bs) (b.length + bs.length) [0]
        length_mem := length_mem_append h
        length_le := h }
  else
    .error .outOfBounds

def appendInt (b : Buffer) (value : Int) : Except Trap Buffer :=
  b.append (str (toString value))

def appendBuffer (b buffer : Buffer) : Except Trap Buffer :=
  b.append buffer.contents

def appendString (b : Buffer) (str : Bytes) : Except Trap Buffer :=
  b.append str

-- `memcpy` inside of one allocation
def copyWithin (mem : Bytes) (dst src : Nat) : Nat → Bytes
  | 0 => mem
  | n + 1 =>
    let mem := copyWithin mem dst src n
    Bytes.write mem (dst + n) [mem.getD (src + n) 0]

theorem length_copyWithin {mem : Bytes} {dst src n : Nat} (h : dst + n ≤ mem.length)
    : (copyWithin mem dst src n).length = mem.length := by
  induction n with
  | zero => rfl
  | succ n ih =>
    have hn := ih (by omega)
    rw [copyWithin, Bytes.length_write, hn]
    rw [hn, List.length_singleton]
    omega

-- `append(Buffer *)` on the buffer itself: `str` is `_buffer`.
def appendSelf (b : Buffer) : Except Trap Buffer :=
  if (b.length + b.length) % 2 ^ 64 > b.size then
    .error .exit
  else if h : b.length + b.length ≤ b.size then
    .ok
      { size := b.size
        length := b.length + b.length
        mem := Bytes.write (copyWithin b.mem b.length 0 b.length) (b.length + b.length) [0]
        length_mem := by
          have hmem := b.length_mem
          have hcopy : (copyWithin b.mem b.length 0 b.length).length = b.mem.length := by
            apply length_copyWithin
            omega
          rw [Bytes.length_write, hcopy, hmem]
          rw [hcopy, List.length_singleton]
          omega
        length_le := h }
  else
    .error .outOfBounds

def dup (b : Buffer) : Except Trap Buffer :=
  (new b.length).appendBuffer b

def equal (b target : Buffer) : Bool :=
  if b.length ≠ target.length ∨ b.mem.take b.length ≠ target.mem.take b.length then false else true

def equalString (b : Buffer) (target : Bytes) : Bool :=
  if b.length ≠ target.length ∨ b.mem.take b.length ≠ target.take b.length then false else true

def clear (b : Buffer) : Buffer where
  size := b.size
  length := 0
  mem := Bytes.write b.mem 0 [0]
  length_mem := by
    have := b.length_mem
    rw [Bytes.length_write, this]
    rw [List.length_singleton]
    omega
  length_le := Nat.zero_le _

def read (b : Buffer) (pos n : Nat) : Except Trap Bytes :=
  match b.mem.read? pos n with
  | some bs => .ok bs
  | none => .error .outOfBounds

def write (b : Buffer) (pos : Nat) (bs : Bytes) : Except Trap Buffer :=
  if h : pos + bs.length ≤ b.mem.length then
    .ok { b with
      mem := b.mem.write pos bs
      length_mem := by rw [Bytes.length_write h, b.length_mem] }
  else
    .error .outOfBounds

end Buffer
end Fsw

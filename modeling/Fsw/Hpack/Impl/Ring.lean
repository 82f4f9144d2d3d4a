import Fsw.Hpack.Impl.Bufs

/-!
This module contains the ring buffer of `nghttp2_hd.c`. Its memory is a list of cells, where `none`
is one that has not been written yet. `first` is a `size_t` that goes round at both ends.
-/

namespace Fsw
namespace Hpack

structure Ring (α : Type) where
  buffer : List (Option α)
  mask : Nat
  first : Nat
  len : Nat
  deriving DecidableEq, Repr

-- `for (size = 1; size < bufsize; size <<= 1)`, from `size` being `2 ^ k` on
def sizeFrom (bufsize k : Nat) : Nat :=
  if 2 ^ k < bufsize then sizeFrom bufsize (k + 1) else 2 ^ k
termination_by bufsize - 2 ^ k
decreasing_by
  have := Nat.two_pow_pos k
  rw [Nat.pow_succ]
  omega

namespace Ring

def before (first : Nat) : Nat :=
  (first + (2 ^ 64 - 1)) % 2 ^ 64

variable {α : Type}

def init (bufsize : Nat) : Ring α :=
  let size := sizeFrom bufsize 0
  ⟨List.replicate size none, size - 1, 0, 0⟩

def slot (ring : Ring α) (i : Nat) : Nat :=
  i % 2 ^ 64 &&& ring.mask

def get (ring : Ring α) (idx : Nat) : Except Error α :=
  if idx < ring.len then
    match ring.buffer[ring.slot (ring.first + idx)]? with
    | some (some a) => .ok a
    | _ => .error .outOfBounds
  else
    .error .assertion

def reserve (ring : Ring α) (bufsize : Nat) : Except Error (Ring α) := do
  if ring.mask + 1 ≥ bufsize then
    return ring
  else
    let size := sizeFrom bufsize 0
    let ents ← (List.range ring.len).mapM ring.get
    return ⟨ents.map some ++ List.replicate (size - ents.length) none, size - 1, 0, ring.len⟩

def pushFront (ring : Ring α) (ent : α) : Except Error (Ring α) := do
  let ring ← ring.reserve (ring.len + 1)
  let first := before ring.first
  if ring.slot first < ring.buffer.length then
    return ⟨ring.buffer.set (ring.slot first) (some ent), ring.mask, first, ring.len + 1⟩
  else
    .error .outOfBounds

def popBack (ring : Ring α) : Except Error (Ring α) :=
  if ring.len > 0 then
    .ok { ring with len := ring.len - 1 }
  else
    .error .assertion

end Ring
end Hpack
end Fsw

import Fsw.Lib.Bytes

namespace Fsw
namespace Hpack

def UINT32_MAX : BitVec 32 := 0xffffffff

def continuationLength (n : Nat) : Nat :=
  if n ≥ 128 then 1 + continuationLength (n / 128) else 1
termination_by n
decreasing_by omega

def countEncodedLength (n pfx : Nat) : Nat :=
  let k := 2 ^ pfx - 1
  if n < k then
    1
  else
    1 + continuationLength (n - k)

def encodeContinuation (n : Nat) : Bytes :=
  if n ≥ 128 then
    .ofNat (2 ^ 7 ||| (n &&& 0x7f)) :: encodeContinuation (n / 128)
  else
    [.ofNat n]
termination_by n
decreasing_by omega

/--
The bytes that `encode_length` puts at `buf`, where `first` is what is in `*buf` before.
-/
def encodeLength (first : UInt8) (n pfx : Nat) : Bytes :=
  let k := 2 ^ pfx - 1
  let first := first &&& ~~~UInt8.ofNat k
  if n < k then
    [first ||| .ofNat n]
  else
    (first ||| .ofNat k) :: encodeContinuation (n - k)

-- What a shift of a `uint32_t` by `32` or more gives: the language leaves it open.
structure WideShift where
  right : BitVec 32 → Nat → BitVec 32
  left : BitVec 32 → Nat → BitVec 32

def WideShift.shiftRight (wide : WideShift) (x : BitVec 32) (shift : Nat) : BitVec 32 :=
  if shift < 32 then x >>> shift else wide.right x shift

def WideShift.shiftLeft (wide : WideShift) (x : BitVec 32) (shift : Nat) : BitVec 32 :=
  if shift < 32 then x <<< shift else wide.left x shift

structure Decoded where
  res : BitVec 32
  shift : Nat
  fin : Bool
  read : Nat
  deriving DecidableEq, Repr

-- The loop of `decode_length`, where `read` is `in - start`
def decodeContinuation (wide : WideShift) (n : BitVec 32) (shift read : Nat)
    : Bytes → Option Decoded
  | [] => some ⟨n, shift, false, read⟩
  | b :: bs =>
    let add := (b &&& 0x7f).toBitVec.setWidth 32
    if wide.shiftRight UINT32_MAX shift < add then
      none
    else
      let add := wide.shiftLeft add shift
      if UINT32_MAX - add < n then
        none
      else
        let n := n + add
        if b &&& 0x80 = 0 then
          some ⟨n, shift, true, read + 1⟩
        else
          decodeContinuation wide n (shift + 7) (read + 1) bs

/--
`b :: bs` is what lies between `in` and `last`: the function is called with some input only.
-/
def decodeLength (wide : WideShift) (initial : BitVec 32) (shift : Nat)
    (b : UInt8) (bs : Bytes) (pfx : Nat)
    : Option Decoded :=
  let k : BitVec 32 := .ofNat 32 (2 ^ pfx - 1)
  let first := b.toBitVec.setWidth 32
  if initial = 0 then
    if first &&& k ≠ k then
      some ⟨first &&& k, 0, true, 1⟩
    else if bs = [] then
      some ⟨k, 0, false, 1⟩
    else
      decodeContinuation wide k shift 1 bs
  else
    decodeContinuation wide initial shift 0 (b :: bs)

end Hpack
end Fsw

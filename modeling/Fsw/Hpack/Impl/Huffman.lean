import Mathlib.Algebra.BigOperators.Group.List.Basic
import Mathlib.Algebra.GroupWithZero.Nat
import Fsw.Hpack.Impl.Bufs
import Fsw.Hpack.Impl.HuffmanData

namespace Fsw
namespace Hpack

namespace HuffFlag

def ACCEPTED : Nat := 1
def SYM : Nat := 1 <<< 1
def FAIL : Nat := 1 <<< 2

end HuffFlag

-- `avail` is what the caller knows of `nghttp2_bufs_cur_avail`.
structure HuffOut where
  bufs : Bufs
  avail : Nat
  rembits : Nat
  deriving DecidableEq, Repr

section

variable (addb addbHold : Bufs → UInt8 → Except Error Bufs) (code : Nat)

def huffEncodeHigh (shift : Nat) (bufs : Bufs) (nbits : Nat) : Except Error (Bufs × Nat) := do
  if nbits > shift then
    let bufs ← addb bufs (.ofNat (code >>> shift))
    return (bufs, nbits - 8)
  else
    return (bufs, nbits)

-- The end of `huff_encode_sym`: the slow path looks for room before every byte, the fast path does
-- not.
def huffEncodeBytes (bufs : Bufs) (nbits : Nat) : Except Error HuffOut := do
  let (bufs, nbits) ← huffEncodeHigh addb code 24 bufs nbits
  let (bufs, nbits) ← huffEncodeHigh addb code 16 bufs nbits
  let (bufs, nbits) ← huffEncodeHigh addb code 8 bufs nbits
  if nbits = 8 then
    let bufs ← addb bufs (.ofNat code)
    return ⟨bufs, bufs.curAvail, 8⟩
  else
    let bufs ← addbHold bufs (.ofNat code)
    return ⟨bufs, bufs.curAvail, 8 - nbits⟩

end

def huffEncodeSym (out : HuffOut) (sym : HuffSym) : Except Error HuffOut := do
  let ⟨bufs, avail, rembits⟩ := out
  let nbits := sym.nbits
  let code := sym.code
  if rembits > nbits then
    let bufs ← bufs.fastOrbHold (.ofNat (code <<< (rembits - nbits)))
    return ⟨bufs, avail, rembits - nbits⟩
  else if rembits = nbits then
    let bufs ← bufs.fastOrb (.ofNat code)
    return ⟨bufs, avail - 1, 8⟩
  else
    let bufs ← bufs.fastOrb (.ofNat (code >>> (nbits - rembits)))
    let avail := avail - 1
    let nbits := nbits - rembits
    let code := if nbits &&& 0x7 ≠ 0 then code <<< (8 - (nbits &&& 0x7)) % 2 ^ 32 else code
    if avail < (nbits + 7) / 8 then
      huffEncodeBytes Bufs.addb Bufs.addbHold code bufs nbits
    else if nbits < 8 then
      let bufs ← bufs.fastAddbHold (.ofNat code)
      return ⟨bufs, bufs.curAvail, 8 - nbits⟩
    else
      huffEncodeBytes Bufs.fastAddb Bufs.fastAddbHold code bufs nbits

def symOf (c : Nat) : HuffSym :=
  huffSymTable.getD c ⟨0, 0⟩

def huffEncodeCount (src : Bytes) : Nat :=
  ((src.map fun b => (symOf b.toNat).nbits).sum + 7) / 8

-- A byte of which nothing is filled yet is cleared first.
def huffEncodeOpen (out : HuffOut) : Except Error HuffOut := do
  if out.rembits = 8 then
    if out.avail ≠ 0 then
      let bufs ← out.bufs.fastAddbHold 0
      return { out with bufs }
    else
      let bufs ← out.bufs.addbHold 0
      return { out with bufs, avail := bufs.curAvail }
  else
    return out

def huffEncodeStep (out : HuffOut) (b : UInt8) : Except Error HuffOut := do
  let out ← huffEncodeOpen out
  huffEncodeSym out (symOf b.toNat)

def huffEncode (bufs : Bufs) (src : Bytes) : Except Error Bufs := do
  let out ← src.foldlM huffEncodeStep ⟨bufs, bufs.curAvail, 8⟩
  if out.rembits < 8 then
    let sym := symOf 256
    if out.avail = 0 then
      .error .assertion
    else
      out.bufs.fastOrb (.ofNat (sym.code >>> (sym.nbits - out.rembits)))
  else
    return out.bufs

structure HuffDecodeContext where
  state : Nat
  accept : Bool
  deriving DecidableEq, Repr

def HuffDecodeContext.init : HuffDecodeContext :=
  ⟨0, true⟩

def huffDecodeEntry (state nibble : Nat) : HuffDecode :=
  (huffDecodeTable.getD state []).getD nibble ⟨0, 0, 0⟩

-- Memory that is written from its beginning on: `nghttp2_buf` with `data` between `pos` and `last`
structure Buf where
  cap : Nat
  data : Bytes
  deriving DecidableEq, Repr

def Buf.put (buf : Buf) (b : UInt8) : Except Error Buf :=
  if buf.data.length < buf.cap then
    .ok { buf with data := buf.data ++ [b] }
  else
    .error .outOfBounds

def huffDecodeNibble (state : Nat) (buf : Buf) (nibble : Nat)
    : Except Error (HuffDecode × Buf) := do
  let t := huffDecodeEntry state nibble
  if t.flags &&& HuffFlag.FAIL ≠ 0 then
    .error .headerComp
  else if t.flags &&& HuffFlag.SYM ≠ 0 then
    let buf ← buf.put (.ofNat t.sym)
    return (t, buf)
  else
    return (t, buf)

def huffDecodeByte (ctx : HuffDecodeContext) (buf : Buf) (b : UInt8)
    : Except Error (HuffDecodeContext × Buf) := do
  let (t, buf) ← huffDecodeNibble ctx.state buf (b >>> 4).toNat
  let (t, buf) ← huffDecodeNibble t.state buf (b &&& 0xf).toNat
  return (⟨t.state, t.flags &&& HuffFlag.ACCEPTED ≠ 0⟩, buf)

/--
All of `src` is read, unless there is an error.
-/
def huffDecode (ctx : HuffDecodeContext) (buf : Buf) (src : Bytes) (final : Bool)
    : Except Error (HuffDecodeContext × Buf) := do
  let (ctx, buf) ← src.foldlM (fun (ctx, buf) b => huffDecodeByte ctx buf b) (ctx, buf)
  if final && !ctx.accept then
    .error .headerComp
  else
    return (ctx, buf)

end Hpack
end Fsw

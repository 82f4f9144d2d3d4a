import Fsw.Lib.Bytes

namespace Fsw
namespace Hpack

inductive Error where
  | headerComp -- `NGHTTP2_ERR_HEADER_COMP`
  | bufferError -- `NGHTTP2_ERR_BUFFER_ERROR`
  | insuffBufsize -- `NGHTTP2_ERR_INSUFF_BUFSIZE`
  | invalidState -- `NGHTTP2_ERR_INVALID_STATE`
  | outOfBounds -- An access outside of the memory at hand
  | assertion -- An `assert` that fails
  | endless -- A loop that does not end
  deriving DecidableEq, Repr

-- `nghttp2_bufs_wrap_init` makes one buffer, and no other one is ever added to it.
structure Bufs where
  mem : Bytes
  last : Nat
  deriving DecidableEq, Repr

namespace Bufs

def wrapInit (mem : Bytes) : Bufs :=
  ⟨mem, 0⟩

def curAvail (bufs : Bufs) : Nat :=
  bufs.mem.length - bufs.last

def contents (bufs : Bufs) : Bytes :=
  bufs.mem.take bufs.last

-- What has been copied before the memory is full is of no use.
def add (bufs : Bufs) (bs : Bytes) : Except Error Bufs :=
  if bs.length ≤ bufs.curAvail then
    .ok ⟨bufs.mem.write bufs.last bs, bufs.last + bs.length⟩
  else
    .error .bufferError

def fastAddbHold (bufs : Bufs) (b : UInt8) : Except Error Bufs :=
  if bufs.last < bufs.mem.length then
    .ok { bufs with mem := bufs.mem.set bufs.last b }
  else
    .error .outOfBounds

def fastAddb (bufs : Bufs) (b : UInt8) : Except Error Bufs :=
  if bufs.last < bufs.mem.length then
    .ok ⟨bufs.mem.set bufs.last b, bufs.last + 1⟩
  else
    .error .outOfBounds

def fastOrbHold (bufs : Bufs) (b : UInt8) : Except Error Bufs :=
  match bufs.mem[bufs.last]? with
  | some held => .ok { bufs with mem := bufs.mem.set bufs.last (held ||| b) }
  | none => .error .outOfBounds

def fastOrb (bufs : Bufs) (b : UInt8) : Except Error Bufs :=
  match bufs.mem[bufs.last]? with
  | some held => .ok ⟨bufs.mem.set bufs.last (held ||| b), bufs.last + 1⟩
  | none => .error .outOfBounds

def ensureAddb (bufs : Bufs) : Except Error Unit :=
  if bufs.curAvail > 0 then
    .ok ()
  else
    .error .bufferError

def addb (bufs : Bufs) (b : UInt8) : Except Error Bufs := do
  bufs.ensureAddb
  bufs.fastAddb b

def addbHold (bufs : Bufs) (b : UInt8) : Except Error Bufs := do
  bufs.ensureAddb
  bufs.fastAddbHold b

end Bufs
end Hpack
end Fsw

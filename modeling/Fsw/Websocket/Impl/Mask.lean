import Fsw.Websocket.Impl.Frame

/-!
This module contains the loops of `mask` on the memory that `data` points into. A word access need
not be aligned.
-/

namespace Fsw
namespace Websocket
namespace InPlace

def load (mem : Bytes) (pos n : Nat) : Except Trap Bytes :=
  match mem.read? pos n with
  | some bs => .ok bs
  | none => .error .outOfBounds

def store (mem : Bytes) (pos : Nat) (bs : Bytes) : Except Trap Bytes :=
  if pos + bs.length ≤ mem.length then .ok (mem.write pos bs) else .error .outOfBounds

def xorWord (maskKey64 : BitVec 64) (mem : Bytes) (pos : Nat) : Except Trap Bytes := do
  let word ← load mem pos 8
  store mem pos (Bytes.storeLE 8 (BitVec.ofNat 64 (Bytes.loadLE word) ^^^ maskKey64).toNat)

def xorOctet (maskKey : Bytes) (data : Nat) (mem : Bytes) (i : Nat) : Except Trap Bytes := do
  let octet ← load mem (data + i) 1
  let key ← load maskKey (i % MASK_LEN) 1
  store mem (data + i) [octet.headD 0 ^^^ key.headD 0]

def words (maskKey64 : BitVec 64) (data n : Nat) (mem : Bytes) : Except Trap Bytes :=
  (List.range n).foldlM (fun mem i => xorWord maskKey64 mem (data + i * 8)) mem

def octets (maskKey : Bytes) (data start len : Nat) (mem : Bytes) : Except Trap Bytes :=
  (List.range' start (len - start)).foldlM (xorOctet maskKey data) mem

def mask (mem : Bytes) (data len : Nat) (maskKey : Bytes) : Except Trap Bytes := do
  let n := len / 8
  let key ← load maskKey 0 MASK_LEN
  let maskKey32 : BitVec 64 := BitVec.ofNat 64 (Bytes.loadLE key)
  let maskKey64 := (maskKey32 <<< 32) ||| maskKey32
  let mem ← words maskKey64 data n mem
  octets maskKey data (n * 8) len mem

end InPlace
end Websocket
end Fsw

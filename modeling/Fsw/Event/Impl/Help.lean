import Mathlib.Data.BitVec

namespace Fsw

def touint64 (fd id : BitVec 32) : BitVec 64 :=
  0#64 ||| (fd.signExtend 64 <<< 32) ||| id.signExtend 64

def fromuint64 (v : BitVec 64) : BitVec 32 × BitVec 32 :=
  ((v >>> 32).setWidth 32, (v &&& 0xffffffff#64).setWidth 32)

end Fsw

import Fsw.Buffer.Impl.Buffer

namespace Fsw
namespace Buffer

inductive Op where
  | new (size : Nat)
  | append (i : Nat) (bs : Bytes)
  | appendString (i : Nat) (str : Bytes)
  | appendInt (i : Nat) (value : BitVec 32)
  | appendBuffer (i j : Nat)
  | clear (i : Nat)
  | dup (i : Nat)
  deriving DecidableEq, Repr

abbrev Pool := List Buffer

namespace Pool

def update (pool : Pool) (i : Nat) (f : Buffer → Except Trap Buffer) : Except Trap Pool :=
  match pool[i]? with
  | some b => do
    let b ← f b
    return pool.set i b
  | none => return pool

def step (pool : Pool) : Op → Except Trap Pool
  | .new size => return pool ++ [Buffer.new size]
  | .append i bs => pool.update i (·.append bs)
  | .appendString i str => pool.update i (·.appendString str)
  | .appendInt i value => pool.update i (·.appendInt value.toInt)
  | .appendBuffer i j =>
    if i = j then
      pool.update i (·.appendSelf)
    else
      match pool[j]? with
      | some buffer => pool.update i (·.appendBuffer buffer)
      | none => return pool
  | .clear i => pool.update i fun b => return b.clear
  | .dup i =>
    match pool[i]? with
    | some b => do
      let b ← b.dup
      return pool ++ [b]
    | none => return pool

def run (ops : List Op) : Except Trap Pool :=
  ops.foldlM step []

end Pool
end Buffer
end Fsw
